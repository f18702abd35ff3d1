/-!
# Maps that remember the order of insertion

A key keeps the place where it was first put. Putting it again replaces the
value there, and taking it out closes the gap, so the entries always read in
the order in which their keys arrived.
-/

namespace VisualScript

universe u v w

/-- A finite map listed in the order in which its keys were first inserted. -/
structure OrderedMap (Key : Type u) (Value : Type v) where
  /-- The entries, oldest key first. -/
  entries : List (Key × Value)
  deriving Repr, DecidableEq

namespace OrderedMap

variable {Key : Type u} {Value : Type v}

/-- The map without entries. -/
def empty : OrderedMap Key Value := ⟨[]⟩

instance : EmptyCollection (OrderedMap Key Value) := ⟨empty⟩

instance : Inhabited (OrderedMap Key Value) := ⟨empty⟩

/-- The keys, oldest first. -/
def keys (map : OrderedMap Key Value) : List Key := map.entries.map Prod.fst

/-- The values, in the order of their keys. -/
def values (map : OrderedMap Key Value) : List Value := map.entries.map Prod.snd

/-- The number of entries. -/
def size (map : OrderedMap Key Value) : Nat := map.entries.length

/-- Whether there is no entry. -/
def isEmpty (map : OrderedMap Key Value) : Bool := map.entries.isEmpty

/-- Apply a function to every value, keeping keys and order. -/
def mapValues {Image : Type w} (f : Value → Image) (map : OrderedMap Key Value) :
    OrderedMap Key Image :=
  ⟨map.entries.map fun entry => (entry.1, f entry.2)⟩

/-- Keep the entries that pass a test. -/
def filter (keep : Key → Value → Bool) (map : OrderedMap Key Value) : OrderedMap Key Value :=
  ⟨map.entries.filter fun entry => keep entry.1 entry.2⟩

/-- No key occurs twice. -/
def DistinctKeys (map : OrderedMap Key Value) : Prop := map.keys.Nodup

variable [DecidableEq Key]

/-- The value of a key in a list of entries: that of the first entry with the key. -/
def find? (key : Key) : List (Key × Value) → Option Value
  | [] => none
  | (other, value) :: rest => if other = key then some value else find? key rest

/-- Put a value under a key: in place if the list has the key, at the end otherwise. -/
def put (key : Key) (value : Value) : List (Key × Value) → List (Key × Value)
  | [] => [(key, value)]
  | (other, old) :: rest =>
      if other = key then (other, value) :: rest else (other, old) :: put key value rest

def get? (map : OrderedMap Key Value) (key : Key) : Option Value := find? key map.entries

/-- Whether a key has a value. -/
def contains (map : OrderedMap Key Value) (key : Key) : Bool := (map.get? key).isSome

/-- Put a value under a key. A new key comes last, a known one keeps its place. -/
def insert (map : OrderedMap Key Value) (key : Key) (value : Value) : OrderedMap Key Value :=
  ⟨put key value map.entries⟩

/-- Put a value under a key unless the key has one. -/
def insertNew (map : OrderedMap Key Value) (key : Key) (value : Value) : OrderedMap Key Value :=
  if map.contains key then map else map.insert key value

/-- Take a key out. The other entries keep their order. -/
def erase (map : OrderedMap Key Value) (key : Key) : OrderedMap Key Value :=
  ⟨map.entries.filter fun entry => entry.1 ≠ key⟩

/-- Change the value of a key, if it has one. -/
def modify (map : OrderedMap Key Value) (key : Key) (f : Value → Value) : OrderedMap Key Value :=
  ⟨map.entries.map fun entry => if entry.1 = key then (entry.1, f entry.2) else entry⟩

/-- The map of a list of pairs. Of two pairs with one key the earlier gives the
place and the later gives the value. -/
def ofList (pairs : List (Key × Value)) : OrderedMap Key Value :=
  pairs.foldl (fun map pair => map.insert pair.1 pair.2) empty

@[simp] theorem get?_empty (key : Key) : (empty : OrderedMap Key Value).get? key = none := rfl

theorem find?_put (entries : List (Key × Value)) (key other : Key) (value : Value) :
    find? other (put key value entries) =
      if key = other then some value else find? other entries := by
  induction entries with
  | nil => simp [put, find?]
  | cons entry rest ih =>
      obtain ⟨name, old⟩ := entry
      by_cases hname : name = key
      · subst hname
        by_cases hother : name = other <;> simp [put, find?, hother]
      · by_cases hother : name = other
        · subst hother
          simp [put, find?, hname, Ne.symm hname]
        · simp [put, find?, hname, hother, ih]

/-- Reading after an insertion: the new value under its key, the old map elsewhere. -/
theorem get?_insert (map : OrderedMap Key Value) (key other : Key) (value : Value) :
    (map.insert key value).get? other = if key = other then some value else map.get? other :=
  find?_put map.entries key other value

theorem map_fst_put (entries : List (Key × Value)) (key : Key) (value : Value) :
    (put key value entries).map Prod.fst =
      if key ∈ entries.map Prod.fst then entries.map Prod.fst
      else entries.map Prod.fst ++ [key] := by
  induction entries with
  | nil => simp [put]
  | cons entry rest ih =>
      obtain ⟨name, old⟩ := entry
      by_cases hname : name = key
      · simp [put, hname]
      · have hne : ¬ key = name := fun h => hname h.symm
        by_cases hmem : key ∈ rest.map Prod.fst
        · simp only [put, hname, if_false, List.map_cons, ih, List.mem_cons, hne,
            false_or, hmem, if_true]
        · simp only [put, hname, if_false, List.map_cons, ih, List.mem_cons, hne,
            false_or, hmem, List.cons_append]

/-- An insertion changes the keys only by adding a new one at the end. -/
theorem keys_insert (map : OrderedMap Key Value) (key : Key) (value : Value) :
    (map.insert key value).keys = if key ∈ map.keys then map.keys else map.keys ++ [key] :=
  map_fst_put map.entries key value

/-! ## Views of the operations -/

theorem find?_filter_ne (entries : List (Key × Value)) (key other : Key) :
    find? other (entries.filter fun entry => entry.1 ≠ key) =
      if key = other then none else find? other entries := by
  induction entries with
  | nil => simp [find?]
  | cons entry rest ih =>
      obtain ⟨name, value⟩ := entry
      rw [List.filter_cons]
      by_cases hname : name = key
      · subst hname
        by_cases hother : name = other
        · simpa [hother] using ih
        · simpa [find?, hother] using ih
      · by_cases hother : name = other
        · subst hother
          simp [find?, hname, Ne.symm hname]
        · simpa [find?, hname, hother] using ih

/-- Reading after a key was taken out: nothing under the key, the old map elsewhere. -/
theorem get?_erase (map : OrderedMap Key Value) (key other : Key) :
    (map.erase key).get? other = if key = other then none else map.get? other :=
  find?_filter_ne map.entries key other

theorem keys_erase (map : OrderedMap Key Value) (key : Key) :
    (map.erase key).keys = map.keys.filter (· ≠ key) := by
  simp [keys, erase, List.filter_map, Function.comp_def]

/-- A change keeps the keys and their order. -/
theorem keys_modify (map : OrderedMap Key Value) (key : Key) (f : Value → Value) :
    (map.modify key f).keys = map.keys := by
  simp only [keys, modify, List.map_map]
  congr 1
  funext entry
  by_cases h : entry.1 = key <;> simp [h]

theorem find?_map_ite (entries : List (Key × Value)) (key other : Key) (f : Value → Value) :
    find? other (entries.map fun entry => if entry.1 = key then (entry.1, f entry.2) else entry) =
      if key = other then (find? other entries).map f else find? other entries := by
  induction entries with
  | nil => simp [find?]
  | cons entry rest ih =>
      obtain ⟨name, value⟩ := entry
      by_cases hname : name = key
      · subst hname
        by_cases hother : name = other <;> simp [find?, hother, ih]
      · by_cases hother : name = other
        · subst hother
          simp [find?, hname, Ne.symm hname]
        · simp [find?, hname, hother, ih]

/-- Reading after a change: the changed value under its key, the old map elsewhere. -/
theorem get?_modify (map : OrderedMap Key Value) (key other : Key) (f : Value → Value) :
    (map.modify key f).get? other =
      if key = other then (map.get? other).map f else map.get? other :=
  find?_map_ite map.entries key other f

theorem mem_of_get?_foldl_insert (pairs : List (Key × Value)) (map : OrderedMap Key Value)
    {key : Key} {value : Value}
    (h : (pairs.foldl (fun map pair => map.insert pair.1 pair.2) map).get? key = some value) :
    (key, value) ∈ pairs ∨ map.get? key = some value := by
  induction pairs generalizing map with
  | nil => exact .inr h
  | cons pair rest ih =>
      rcases ih (map.insert pair.1 pair.2) h with hrest | hfirst
      · exact .inl (List.mem_cons_of_mem _ hrest)
      · rw [get?_insert] at hfirst
        split at hfirst
        next heq =>
          rw [Option.some.injEq] at hfirst
          subst heq hfirst
          exact .inl (List.mem_cons_self ..)
        next => exact .inr hfirst

/-- What a map of pairs holds is one of the pairs. -/
theorem mem_of_get?_ofList {pairs : List (Key × Value)} {key : Key} {value : Value}
    (h : (ofList pairs).get? key = some value) : (key, value) ∈ pairs := by
  rcases mem_of_get?_foldl_insert pairs empty h with hmem | hnone
  · exact hmem
  · cases hnone

theorem find?_eq_none_iff (entries : List (Key × Value)) (key : Key) :
    find? key entries = none ↔ key ∉ entries.map Prod.fst := by
  induction entries with
  | nil => simp [find?]
  | cons entry rest ih =>
      obtain ⟨name, value⟩ := entry
      by_cases hname : name = key
      · simp [find?, hname]
      · have hne : ¬ key = name := fun h => hname h.symm
        simp only [find?, hname, if_false, ih, List.map_cons, List.mem_cons, hne, false_or]

/-- A key has a value exactly if it is one of the keys. -/
theorem contains_iff (map : OrderedMap Key Value) (key : Key) :
    map.contains key = true ↔ key ∈ map.keys := by
  have h := find?_eq_none_iff map.entries key
  unfold contains get? keys
  cases hfind : find? key map.entries with
  | none => simpa using h.mp hfind
  | some value =>
      rw [hfind] at h
      simpa using h

/-- Where no key occurs twice, every entry is found under its key. -/
theorem get?_of_mem {map : OrderedMap Key Value} (h : map.DistinctKeys) {entry : Key × Value}
    (hmem : entry ∈ map.entries) : map.get? entry.1 = some entry.2 := by
  obtain ⟨entries⟩ := map
  simp only [DistinctKeys, keys] at h
  simp only at hmem
  simp only [get?]
  induction entries with
  | nil => cases hmem
  | cons first rest ih =>
      obtain ⟨name, value⟩ := first
      rw [List.map_cons, List.nodup_cons] at h
      rcases List.mem_cons.mp hmem with rfl | hrest
      · simp [find?]
      · have hne : ¬ name = entry.1 := fun heq =>
          h.1 (heq ▸ List.mem_map.mpr ⟨entry, hrest, rfl⟩)
        rw [find?, if_neg hne]
        exact ih h.2 hrest

/-! ## Distinct keys -/

namespace DistinctKeys

omit [DecidableEq Key] in
theorem empty : (OrderedMap.empty : OrderedMap Key Value).DistinctKeys := List.nodup_nil

theorem insert {map : OrderedMap Key Value} (h : map.DistinctKeys) (key : Key) (value : Value) :
    (map.insert key value).DistinctKeys := by
  unfold DistinctKeys at h ⊢
  rw [keys_insert]
  split
  next => exact h
  next hmem =>
    rw [List.nodup_append]
    refine ⟨h, by simp, ?_⟩
    intro x hx y hy
    obtain rfl := List.mem_singleton.mp hy
    rintro rfl
    exact hmem hx

theorem erase {map : OrderedMap Key Value} (h : map.DistinctKeys) (key : Key) :
    (map.erase key).DistinctKeys := by
  unfold DistinctKeys at h ⊢
  rw [keys_erase]
  exact h.filter _

theorem modify {map : OrderedMap Key Value} (h : map.DistinctKeys) (key : Key)
    (f : Value → Value) : (map.modify key f).DistinctKeys := by
  unfold DistinctKeys at h ⊢
  rw [keys_modify]
  exact h

/-- However the pairs repeat their keys, the map of a list does not. -/
theorem ofList (pairs : List (Key × Value)) : (OrderedMap.ofList pairs).DistinctKeys := by
  suffices general : ∀ map : OrderedMap Key Value, map.DistinctKeys →
      (pairs.foldl (fun map pair => map.insert pair.1 pair.2) map).DistinctKeys from
    general _ empty
  induction pairs with
  | nil => exact fun map h => h
  | cons pair rest ih => exact fun map h => ih _ (h.insert pair.1 pair.2)

end DistinctKeys

end OrderedMap

end VisualScript
