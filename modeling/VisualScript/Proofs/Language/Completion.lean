import VisualScript.Proofs.Language.Resolution

/-!
# Types completed from the core

Of the types that users describe under one name the first is registered, completed from a
type of the core, and of the types of the core under a name that users leave alone the
first. A user's type is completed from the last type of the core with the name that
counts, so what the core describes twice is not told the same way everywhere.
-/

namespace VisualScript

/-- The fields of a completed type: names and qualifiers are the user's, and of the rest the
core's where it says something. -/
structure TypeDescription.Joins (result user core : TypeDescription) : Prop where
  machineName : result.machineName = user.machineName
  base : result.base = user.base
  isConst : result.isConst = user.isConst
  isRef : result.isRef = user.isRef
  copyable : result.copyable = (user.copyable || core.copyable)
  isBlock : result.isBlock = (user.isBlock || core.isBlock)
  displayName : result.displayName =
    if core.displayName = "" then user.displayName else core.displayName
  defaultLiteral : result.defaultLiteral =
    if core.defaultLiteral.isSome then core.defaultLiteral else user.defaultLiteral
  template : result.template = if core.template.isSome then core.template else user.template
  group : result.group = if core.group.isSome then core.group else user.group
  pattern : result.pattern = if core.pattern.isSome then core.pattern else user.pattern
  values : result.values = if core.values.isSome then core.values else user.values
  modules : result.modules = if core.modules = [] then user.modules else core.modules
  parameters : result.parameters =
    if core.parameters = [] then user.parameters else core.parameters

/-- What a user's type comes to with or without a type of the core to complete it. -/
inductive TypeDescription.Completed (user : TypeDescription) :
    Option TypeDescription → TypeDescription → Prop
  | alone : Completed user none user
  | joined {core result} (joins : result.Joins user core) : Completed user (some core) result

/-- A user's type, completed if there is something to complete it from. -/
def TypeDescription.completedFrom (user : TypeDescription) :
    Option TypeDescription → TypeDescription
  | some core => user.completedBy core
  | none => user

/-- The description that completes a user's type, given what is described under a name: that of
its base if it has one and is no reference, else that of its own name. -/
def TypeDescription.partner? (user : TypeDescription)
    (find : String → Option TypeDescription) : Option TypeDescription :=
  (if user.isRef then none else user.base).bind find <|> find user.machineName

namespace CoreDescription

variable (core : CoreDescription)

/-- The first type of a name. -/
def firstNamed? (name : String) : Option TypeDescription :=
  core.types.find? (·.machineName = name)

/-- The last type of a name. -/
def lastNamed? (name : String) : Option TypeDescription :=
  core.types.reverse.find? (·.machineName = name)

end CoreDescription

/-- The first type of a name that users describe. -/
def UserDescription.firstNamed? (user : UserDescription) (name : String) :
    Option TypeDescription :=
  user.types.find? (·.machineName = name)

/-! ## Looking up -/

theorem OrderedMap.get?_foldl_insert {Key : Type u} {Value : Type v} [DecidableEq Key]
    (pairs : List (Key × Value)) (map : OrderedMap Key Value) (key : Key) :
    (pairs.foldl (fun map pair => map.insert pair.1 pair.2) map).get? key =
      ((pairs.reverse.find? (·.1 = key)).map Prod.snd).or (map.get? key) := by
  induction pairs generalizing map with
  | nil => rfl
  | cons pair rest ih =>
      rw [List.foldl_cons, ih, get?_insert, List.reverse_cons, List.find?_append]
      cases hlater : rest.reverse.find? (·.1 = key) with
      | some later => rfl
      | none =>
          by_cases hkey : pair.1 = key
          · simp [hkey]
          · simp [hkey]

/-- Of two pairs with one key the later gives the value. -/
theorem OrderedMap.get?_ofList {Key : Type u} {Value : Type v} [DecidableEq Key]
    (pairs : List (Key × Value)) (key : Key) :
    (ofList pairs).get? key = (pairs.reverse.find? (·.1 = key)).map Prod.snd := by
  rw [ofList, get?_foldl_insert, get?_empty, Option.or_none]

namespace CoreDescription

variable (core : CoreDescription)

theorem get?_ofList_types (name : String) :
    (OrderedMap.ofList (core.types.map fun type => (type.machineName, type))).get? name =
      core.lastNamed? name := by
  rw [OrderedMap.get?_ofList, ← List.map_reverse, List.find?_map, Option.map_map]
  exact Option.map_id_apply

theorem counterpart?_eq (user : TypeDescription) :
    core.counterpart? user = user.partner? core.lastNamed? := by
  unfold counterpart? TypeDescription.partner?
  simp only [get?_ofList_types]
  cases user.base <;> cases user.isRef <;> rfl

end CoreDescription

namespace Registry

variable {core : CoreDescription} {user : UserDescription}

namespace Draft

variable {engine : Pattern.Engine} {draft changed : Draft} {made : TypeDescription}

/-- A type is found where its name was free, and whatever was found before is found still. -/
theorem get?_of_registered (h : changed.registry =
      if draft.registry.types.contains made.machineName then draft.registry
      else (draft.register engine core made).registry) (name : String) :
    changed.registry.get? name = (draft.registry.get? name).or
      (if made.machineName = name then some (.ofDescription engine core made) else none) := by
  rw [h]
  split
  next htaken =>
    by_cases hname : made.machineName = name
    · obtain ⟨type, hget⟩ := Option.isSome_iff_exists.mp htaken
      have hfound : draft.registry.get? name = some type := hname ▸ hget
      rw [hfound, Option.some_or]
    · rw [if_neg hname, Option.or_none]
  next hfree =>
    rw [registry_register]
    refine (OrderedMap.get?_insert ..).trans ?_
    by_cases hname : made.machineName = name
    · have hnone : draft.registry.get? name = none := by
        rw [← hname]
        exact Option.not_isSome_iff_eq_none.mp hfree
      rw [hnone, Option.none_or, if_pos hname]
      exact if_pos hname
    · rw [if_neg hname, Option.or_none]
      exact if_neg hname

theorem get?_addUserType (draft : Draft) (description : TypeDescription) (name : String) :
    (draft.addUserType engine core description).registry.get? name = (draft.registry.get? name).or
      (if description.machineName = name then some (.ofDescription engine core
        (description.completedFrom (core.counterpart? description))) else none) := by
  have hname : (description.completedFrom (core.counterpart? description)).machineName =
      description.machineName := by
    cases core.counterpart? description <;> rfl
  rw [← hname]
  refine get?_of_registered ?_ name
  rw [hname]
  unfold addUserType
  split
  next => rfl
  next => cases core.counterpart? description <;> rfl

theorem get?_addCoreType (draft : Draft) (description : TypeDescription) (name : String) :
    (draft.addCoreType engine core description).registry.get? name = (draft.registry.get? name).or
      (if description.machineName = name then
        some (.ofDescription engine core description) else none) := by
  refine get?_of_registered ?_ name
  unfold addCoreType
  split
  next => rfl
  next => rfl

/-- Of types that are registered one after another unless their names are taken, the first of a
name is found. -/
theorem get?_foldl {step : Draft → TypeDescription → Draft}
    {make : TypeDescription → LanguageType}
    (hstep : ∀ draft description name, (step draft description).registry.get? name =
      (draft.registry.get? name).or
        (if description.machineName = name then some (make description) else none))
    (descriptions : List TypeDescription) (draft : Draft) (name : String) :
    (descriptions.foldl step draft).registry.get? name = (draft.registry.get? name).or
      ((descriptions.find? (·.machineName = name)).map make) := by
  induction descriptions generalizing draft with
  | nil => exact Option.or_none.symm
  | cons description rest ih =>
      rw [List.foldl_cons, ih, hstep, Option.or_assoc]
      by_cases hname : description.machineName = name
      · simp [hname]
      · simp [hname]

end Draft

/-- The first of the users' types of a name is registered, completed, else the first of the
core's. -/
theorem get?_build (core : CoreDescription) (user : UserDescription) (engine : Pattern.Engine)
    (name : String) :
    (build core user engine).get? name =
      ((user.firstNamed? name).map fun description => .ofDescription engine core
        (description.completedFrom (core.counterpart? description))).or
      ((core.firstNamed? name).map (.ofDescription engine core)) := by
  obtain ⟨accepted, notices, -, hdraft⟩ := exists_draft_eq core user engine
  have htypes : (build core user engine).get? name =
      (core.types.foldl (Draft.addCoreType engine core)
        (user.types.foldl (Draft.addUserType engine core) {})).registry.get? name := by
    rw [build, hdraft]
    rfl
  rw [htypes, Draft.get?_foldl Draft.get?_addCoreType, Draft.get?_foldl Draft.get?_addUserType]
  rfl

/-- Literals of a registered type are checked by what the engine makes of its pattern. -/
theorem validator_of_get?_build {engine : Pattern.Engine} {name : String} {type : LanguageType}
    (h : (build core user engine).get? name = some type) :
    type.validator = type.description.pattern.bind engine := by
  rw [get?_build] at h
  rcases Option.or_eq_some_iff.mp h with hfirst | ⟨-, hcore⟩
  · obtain ⟨description, -, rfl⟩ := Option.map_eq_some_iff.mp hfirst
    rfl
  · obtain ⟨description, -, rfl⟩ := Option.map_eq_some_iff.mp hcore
    rfl

/-- What is described of the type of a name. -/
def described? (registry : Registry) (name : String) : Option TypeDescription :=
  (registry.get? name).map LanguageType.description

/-- Without users' types the first of the core's types of a name is registered. -/
theorem described?_build_core (core : CoreDescription) :
    (build core {}).described? = core.firstNamed? := by
  funext name
  rw [described?, get?_build]
  change (Option.map _ (core.firstNamed? name)).map LanguageType.description = _
  rw [Option.map_map]
  exact Option.map_id_apply

end Registry

/-! ## Completing -/

namespace TypeDescription

theorem orElse_eq_ite {α : Type} (first second : Option α) :
    (first <|> second) = if first.isSome then first else second := by
  cases first <;> rfl

theorem joins_completedBy (user core : TypeDescription) :
    (user.completedBy core).Joins user core where
  machineName := rfl
  base := rfl
  isConst := rfl
  isRef := rfl
  copyable := Bool.or_comm ..
  isBlock := Bool.or_comm ..
  displayName := by simp only [completedBy, String.isEmpty_iff]
  defaultLiteral := orElse_eq_ite ..
  template := orElse_eq_ite ..
  group := orElse_eq_ite ..
  pattern := orElse_eq_ite ..
  values := orElse_eq_ite ..
  modules := by simp only [completedBy, List.isEmpty_iff]
  parameters := by simp only [completedBy, List.isEmpty_iff]

/-- The fields are all there is to a completed type. -/
theorem joins_iff {result user core : TypeDescription} :
    result.Joins user core ↔ result = user.completedBy core := by
  refine ⟨fun h => ?_, fun h => h ▸ joins_completedBy user core⟩
  have hcompleted := joins_completedBy user core
  cases result
  simp only [completedBy, TypeDescription.mk.injEq]
  exact ⟨h.machineName, h.base, h.displayName.trans hcompleted.displayName.symm, h.isConst,
    h.isRef, h.copyable.trans (Bool.or_comm ..), h.isBlock.trans (Bool.or_comm ..),
    h.defaultLiteral.trans hcompleted.defaultLiteral.symm,
    h.template.trans hcompleted.template.symm, h.group.trans hcompleted.group.symm,
    h.pattern.trans hcompleted.pattern.symm, h.values.trans hcompleted.values.symm,
    h.modules.trans hcompleted.modules.symm, h.parameters.trans hcompleted.parameters.symm⟩

theorem completed_iff {user result : TypeDescription} {partner : Option TypeDescription} :
    user.Completed partner result ↔ result = user.completedFrom partner := by
  constructor
  · intro h
    cases h with
    | alone => rfl
    | joined joins => exact joins_iff.mp joins
  · rintro rfl
    cases partner with
    | none => exact .alone
    | some core => exact .joined (joins_completedBy user core)

end TypeDescription

namespace Registry

variable {core : CoreDescription} {user : UserDescription}

/-- The types of a language, given what its core describes under a name: the first type of each
name that users describe is completed, and a type of the core that they leave alone is the one
that is registered without them. -/
structure Merges (core : CoreDescription) (user : UserDescription)
    (find : String → Option TypeDescription) : Prop where
  completed : ∀ name description, user.firstNamed? name = some description →
    ∃ result, (build core user).described? name = some result ∧
      description.Completed (description.partner? find) result
  kept : ∀ description ∈ core.types,
    (∀ other ∈ user.types, other.machineName ≠ description.machineName) →
    ∃ type, (build core user).get? description.machineName = some type ∧
      (build core {}).get? description.machineName = some type

theorem described?_build {name : String} {description : TypeDescription}
    (h : user.firstNamed? name = some description) :
    (build core user).described? name =
      some (description.completedFrom (description.partner? core.lastNamed?)) := by
  rw [described?, get?_build, h, ← core.counterpart?_eq]
  rfl

theorem exists_get?_build {description : TypeDescription} (hmem : description ∈ core.types)
    (hnone : ∀ other ∈ user.types, other.machineName ≠ description.machineName) :
    ∃ type, (build core user).get? description.machineName = some type ∧
      (build core {}).get? description.machineName = some type := by
  have husers : user.firstNamed? description.machineName = none :=
    List.find?_eq_none.mpr fun other hother => by simpa using hnone other hother
  obtain ⟨first, hfirst⟩ : ∃ first, core.firstNamed? description.machineName = some first :=
    Option.isSome_iff_exists.mp (List.find?_isSome.mpr ⟨description, hmem, by simp⟩)
  refine ⟨.ofDescription Pattern.ofText? core first, ?_, ?_⟩
  · rw [get?_build, husers, hfirst]
    rfl
  · rw [get?_build, hfirst]
    rfl

/-- Since users' types are completed from the last type of a name, another account of the core
has to come to the same. -/
theorem merges_iff_completedFrom {find : String → Option TypeDescription} :
    Merges core user find ↔ ∀ name description, user.firstNamed? name = some description →
      description.completedFrom (description.partner? find) =
        description.completedFrom (description.partner? core.lastNamed?) := by
  constructor
  · intro h name description hfirst
    obtain ⟨result, hresult, hcompleted⟩ := h.completed name description hfirst
    rw [described?_build hfirst, Option.some.injEq] at hresult
    rw [hresult, TypeDescription.completed_iff.mp hcompleted]
  · intro h
    refine ⟨fun name description hfirst => ⟨_, described?_build hfirst, ?_⟩,
      fun description => exists_get?_build⟩
    exact TypeDescription.completed_iff.mpr (h name description hfirst).symm

/-- Users' types are completed from the last type of the core with the name that counts. They
are completed from what is registered without them exactly if that comes to the same for the
first and the last type of the name. -/
theorem merges_iff (core : CoreDescription) (user : UserDescription) :
    Merges core user core.lastNamed? ∧
      (Merges core user (build core {}).described? ↔
        ∀ name description, user.firstNamed? name = some description →
          description.completedFrom (description.partner? core.firstNamed?) =
            description.completedFrom (description.partner? core.lastNamed?)) := by
  constructor
  · exact merges_iff_completedFrom.mpr fun _ _ _ => rfl
  · rw [described?_build_core]
    exact merges_iff_completedFrom

/-- A core that describes the integers twice. -/
def twoIntegers : CoreDescription where
  types := [
    { machineName := "int", displayName := "int", defaultLiteral := some "0" },
    { machineName := "int", displayName := "int", defaultLiteral := some "1" }]

/-- Users that describe the integers by their name alone. -/
def bareInteger : UserDescription where
  types := [{ machineName := "int", displayName := "int" }]

/-- The integers of the core begin with 0, but a user's type is completed from the others. -/
theorem not_merges_twoIntegers :
    ((build twoIntegers {}).described? "int").bind TypeDescription.defaultLiteral = some "0" ∧
      ((build twoIntegers bareInteger).described? "int").bind TypeDescription.defaultLiteral =
        some "1" ∧
      ¬ Merges twoIntegers bareInteger (build twoIntegers {}).described? := by
  refine ⟨by decide, by decide, fun h => ?_⟩
  have hsame :=
    merges_iff_completedFrom.mp h "int" { machineName := "int", displayName := "int" } rfl
  rw [described?_build_core] at hsame
  exact absurd (congrArg TypeDescription.defaultLiteral hsame) (by decide)

end Registry

end VisualScript
