import VisualScript.Component.Ports
import Mathlib.Data.List.Nodup
import Mathlib.Data.List.Perm.Subperm

/-!
# Numbered ports

The ports that go by a stem and a number. They are counted from zero on, up to the first
number that is missing, however many there are behind the gap.
-/

namespace VisualScript

variable {stem : String} {ports : OrderedMap String Port} {index count : Nat}

theorem toList_numbered (stem : String) (index : Nat) :
    (numbered stem index).toList = stem.toList ++ Nat.toDigits 10 index := by
  rw [numbered, String.toList_append, Nat.toString_eq_ofList_toDigits, String.toList_ofList]

theorem numbered_injective (stem : String) : Function.Injective (numbered stem) := by
  intro index other h
  have hlists := congrArg String.toList h
  rw [toList_numbered, toList_numbered] at hlists
  have hdigits : Nat.toDigits 10 index = Nat.toDigits 10 other := List.append_cancel_left hlists
  rw [← Nat.ofDigitChars_ten_toDigits (n := index), hdigits, Nat.ofDigitChars_ten_toDigits]

/-- There are more ports than the largest number up to which all are found. -/
theorem lt_size_of_contains
    (h : ∀ other ≤ index, ports.contains (numbered stem other) = true) : index < ports.size := by
  have hnodup : ((List.range (index + 1)).map (numbered stem)).Nodup :=
    List.nodup_range.map (numbered_injective stem)
  have hsub : (List.range (index + 1)).map (numbered stem) ⊆ ports.keys := by
    intro key hkey
    obtain ⟨other, hother, rfl⟩ := List.mem_map.mp hkey
    rw [← ports.contains_iff]
    exact h other (Nat.lt_succ_iff.mp (List.mem_range.mp hother))
  have hlength := (hnodup.subperm hsub).length_le
  rw [List.length_map, List.length_range, OrderedMap.keys, List.length_map] at hlength
  exact hlength

/-- A number is counted if there are ports under it and all smaller ones. -/
theorem lt_numberedCount_iff :
    index < numberedCount stem ports ↔
      ∀ other ≤ index, ports.contains (numbered stem other) = true := by
  rw [numberedCount, List.takeWhile_eq_take_findIdx_not, List.length_take,
    Nat.min_eq_left List.findIdx_le_length, List.lt_findIdx_iff]
  constructor
  · rintro ⟨_, hall⟩ other hother
    simpa using hall other hother
  · intro hall
    have hlt := lt_size_of_contains hall
    exact ⟨by simpa using hlt, fun other hother => by simpa using hall other hother⟩

theorem contains_of_lt_numberedCount (h : index < numberedCount stem ports) :
    ports.contains (numbered stem index) = true :=
  lt_numberedCount_iff.mp h index (Nat.le_refl index)

/-- The number behind the last that is counted is missing. -/
theorem contains_numberedCount :
    ports.contains (numbered stem (numberedCount stem ports)) = false := by
  rw [← Bool.not_eq_true]
  intro hfound
  have hlt : numberedCount stem ports < numberedCount stem ports := by
    refine lt_numberedCount_iff.mpr fun other hother => ?_
    rcases Nat.lt_or_eq_of_le hother with hless | rfl
    · exact contains_of_lt_numberedCount hless
    · exact hfound
  exact Nat.lt_irrefl _ hlt

/-- The count is the first number that is missing. -/
theorem numberedCount_eq_iff :
    numberedCount stem ports = count ↔
      (∀ index < count, ports.contains (numbered stem index) = true) ∧
        ports.contains (numbered stem count) = false := by
  constructor
  · rintro rfl
    exact ⟨fun _ => contains_of_lt_numberedCount, contains_numberedCount⟩
  · rintro ⟨hall, hmissing⟩
    refine Nat.le_antisymm (Nat.le_of_not_lt fun hlt => ?_) (Nat.le_of_not_lt fun hlt => ?_)
    · rw [contains_of_lt_numberedCount hlt] at hmissing
      cases hmissing
    · have hfound := hall _ hlt
      rw [contains_numberedCount] at hfound
      cases hfound

/-- Once the ports between the count and another number are put, or those from that number up
to the count taken out, the count is that number, unless there is a port behind a gap under it. -/
theorem numberedCount_refit {changed : OrderedMap String Port} {wanted : Nat}
    (h : ∀ index, changed.contains (numbered stem index) = true ↔
      (ports.contains (numbered stem index) = true ∨
        numberedCount stem ports ≤ index ∧ index < wanted) ∧
      ¬ (wanted ≤ index ∧ index < numberedCount stem ports)) :
    numberedCount stem changed = wanted ↔
      (numberedCount stem ports < wanted → ports.contains (numbered stem wanted) = false) := by
  have hsmaller : ∀ index < wanted, changed.contains (numbered stem index) = true := by
    intro index hindex
    refine (h index).mpr ⟨?_, by omega⟩
    rcases Nat.lt_or_ge index (numberedCount stem ports) with hlt | hge
    · exact .inl (contains_of_lt_numberedCount hlt)
    · exact .inr ⟨hge, hindex⟩
  rw [numberedCount_eq_iff, ← Bool.not_eq_true, ← Bool.not_eq_true, h wanted]
  constructor
  · rintro ⟨_, hmissing⟩ hless hfound
    exact hmissing ⟨.inl hfound, by omega⟩
  · intro hgap
    refine ⟨hsmaller, ?_⟩
    rintro ⟨hfound | ⟨_, hless⟩, hkept⟩
    · rcases Nat.lt_trichotomy (numberedCount stem ports) wanted with hless | heq | hgreater
      · exact hgap hless hfound
      · rw [← heq, contains_numberedCount] at hfound
        cases hfound
      · exact hkept ⟨Nat.le_refl _, hgreater⟩
    · exact Nat.lt_irrefl _ hless

end VisualScript
