import VisualScript.Language
import VisualScript.Proofs.Pass.Completeness

/-!
# What is registered

The functions of a language have arguments of registered types only, and the calls
in its catalog are calls of its functions.
-/

namespace VisualScript

namespace Registry

/-- The types of all arguments of functions are registered. -/
def Supports (registry : Registry) : Prop :=
  ∀ function ∈ registry.functions, ∀ argument ∈ function.arguments,
    (registry.get? argument.type).isSome = true

theorem isSome_of_refusal? {registry : Registry} {function : FunctionDescription}
    (h : registry.refusal? function = none) {argument : Argument}
    (hmem : argument ∈ function.arguments) : (registry.get? argument.type).isSome = true := by
  unfold refusal? at h
  simp only [Option.orElse_eq_orElse, Option.orElse_eq_or,
    Option.or_eq_none_iff] at h
  obtain ⟨hnone, _⟩ := h
  have hargument := List.findSome?_eq_none_iff.mp hnone argument hmem
  cases htype : registry.get? argument.type with
  | some type => rfl
  | none =>
      rw [htype] at hargument
      cases hargument

namespace Draft

variable {engine : Pattern.Engine} {core : CoreDescription} {draft : Draft}

theorem functions_register (description : TypeDescription) :
    (draft.register engine core description).registry.functions = draft.registry.functions := by
  unfold register
  dsimp only
  split
  next => rfl
  next => rfl

theorem functions_addUserType (description : TypeDescription) :
    (draft.addUserType engine core description).registry.functions = draft.registry.functions := by
  unfold addUserType
  split
  next => rfl
  next => exact functions_register _

theorem functions_addCoreType (description : TypeDescription) :
    (draft.addCoreType engine core description).registry.functions = draft.registry.functions := by
  unfold addCoreType
  split
  next => rfl
  next => exact functions_register _

/-- A function is taken only if the types of its arguments are registered. -/
theorem supports_addFunction (h : draft.registry.Supports) (origin : Origin)
    (description : FunctionDescription) :
    (draft.addFunction origin description).registry.Supports := by
  unfold addFunction
  split
  next => exact h
  next hnone =>
    intro function hmem argument hargument
    rcases List.mem_append.mp hmem with hmem | hmem
    · exact h function hmem argument hargument
    · cases List.mem_singleton.mp hmem
      exact isSome_of_refusal? hnone hargument

theorem supports_foldl_addFunction (h : draft.registry.Supports) (origin : Origin)
    (descriptions : List FunctionDescription) :
    (descriptions.foldl (addFunction origin) draft).registry.Supports := by
  induction descriptions generalizing draft with
  | nil => exact h
  | cons description rest ih => exact ih (supports_addFunction h origin description)

end Draft

/-- The types that a registry starts with come without functions. -/
theorem functions_types (core : CoreDescription) (user : UserDescription)
    (engine : Pattern.Engine) :
    (core.types.foldl (Draft.addCoreType engine core)
      (user.types.foldl (Draft.addUserType engine core) {})).registry.functions = [] := by
  refine List.foldlRecOn (motive := fun draft : Draft => draft.registry.functions = []) _ _ ?_ ?_
  · refine List.foldlRecOn (motive := fun draft : Draft => draft.registry.functions = []) _ _
      rfl ?_
    intro draft hnone description _
    exact (Draft.functions_addUserType description).trans hnone
  · intro draft hnone description _
    exact (Draft.functions_addCoreType description).trans hnone

theorem supports_build (core : CoreDescription) (user : UserDescription)
    (engine : Pattern.Engine) : (build core user engine).Supports := by
  refine Draft.supports_foldl_addFunction (Draft.supports_foldl_addFunction ?_ _ _) _ _
  intro function hmem
  change function ∈ (core.types.foldl (Draft.addCoreType engine core)
    (user.types.foldl (Draft.addUserType engine core) {})).registry.functions at hmem
  rw [functions_types] at hmem
  cases hmem

end Registry

namespace Catalog

/-- What a catalog holds is one of the components it was made of. -/
theorem mem_of_get?_ofComponents {components : List Component} {name : String}
    {component : Component} (h : (ofComponents components).get? name = some component) :
    component ∈ components := by
  suffices general : ∀ catalog : Catalog,
      (components.foldl (fun catalog component => catalog.insertNew component.name component)
        catalog).get? name = some component →
      component ∈ components ∨ catalog.get? name = some component by
    rcases general .empty h with hmem | hnone
    · exact hmem
    · cases hnone
  clear h
  induction components with
  | nil => exact fun catalog h => .inr h
  | cons first rest ih =>
      intro catalog h
      rcases ih _ h with hmem | hget
      · exact .inl (List.mem_cons_of_mem _ hmem)
      · have hinserted : (catalog.insertNew first.name first).get? name = some component := hget
        unfold OrderedMap.insertNew at hinserted
        split at hinserted
        next => exact .inr hinserted
        next =>
          rw [OrderedMap.get?_insert] at hinserted
          split at hinserted
          next =>
            cases hinserted
            exact .inl (List.mem_cons_self ..)
          next => exact .inr hinserted

/-- The calls in a catalog are calls of registered functions. -/
theorem mem_functions_of_get? {registry : Registry} {name : String} {component : Component}
    {function : Callable} (h : (build registry).get? name = some component)
    (hkind : component.kind = .call function) : function ∈ registry.functions := by
  have hmem := mem_of_get?_ofComponents h
  rcases List.mem_append.mp hmem with hmem | hmem
  · rcases List.mem_append.mp hmem with hmem | hmem
    · obtain ⟨⟨name, kind⟩, hlisted, rfl⟩ := List.mem_map.mp hmem
      simp only [List.mem_cons, Prod.mk.injEq, List.not_mem_nil, or_false] at hlisted
      obtain rfl : kind = .call function := hkind
      simp at hlisted
    · obtain ⟨type, _, rfl⟩ := List.mem_map.mp hmem
      cases hkind
  · obtain ⟨other, hother, rfl⟩ := List.mem_map.mp hmem
    cases hkind
    exact hother

end Catalog

/-- In a language that is built, the types of all arguments of calls are registered. -/
theorem Language.registered_build (core : CoreDescription) (user : UserDescription)
    (engine : Pattern.Engine) (options : CompileOptions) (graph : Graph) :
    ((Language.build core user engine).context options graph).Registered := by
  intro id function hknown argument hmem
  obtain ⟨component, hcomponent, hkind⟩ := Option.map_eq_some_iff.mp hknown
  obtain ⟨node, _, hget⟩ := Option.bind_eq_some_iff.mp hcomponent
  exact Registry.supports_build core user engine function
    (Catalog.mem_functions_of_get? hget hkind) argument hmem

/-! ## The wildcard -/

/-- What was put into a list of entries, or was there. -/
theorem OrderedMap.mem_of_mem_put {Key : Type u} {Value : Type v} [DecidableEq Key] {key : Key}
    {value : Value} {entries : List (Key × Value)} {entry : Key × Value}
    (h : entry ∈ put key value entries) : entry = (key, value) ∨ entry ∈ entries := by
  induction entries with
  | nil => exact .inl (List.mem_singleton.mp h)
  | cons first rest ih =>
      obtain ⟨other, old⟩ := first
      rw [put] at h
      split at h
      next heq =>
        rcases List.mem_cons.mp h with rfl | hrest
        · exact .inl (heq ▸ rfl)
        · exact .inr (.tail _ hrest)
      next =>
        rcases List.mem_cons.mp h with rfl | hrest
        · exact .inr (.head _)
        · exact (ih hrest).imp_right (.tail _)

namespace Registry

/-- Every type is found under its machine name. -/
structure Keyed (registry : Registry) : Prop where
  distinct : registry.types.DistinctKeys
  named : ∀ entry ∈ registry.types.entries, entry.1 = entry.2.machineName

namespace Draft

variable {engine : Pattern.Engine} {core : CoreDescription} {draft : Draft}

theorem keyed_register (h : draft.registry.Keyed) (description : TypeDescription) :
    (draft.register engine core description).registry.Keyed := by
  have hadded (type : LanguageType) : (draft.registry.addType core type).Keyed := by
    refine ⟨h.distinct.insert .., fun entry hmem => ?_⟩
    rcases OrderedMap.mem_of_mem_put hmem with rfl | hold
    · rfl
    · exact h.named entry hold
  unfold register
  dsimp only
  split
  next => exact hadded _
  next => exact hadded _

theorem keyed_addUserType (h : draft.registry.Keyed) (description : TypeDescription) :
    (draft.addUserType engine core description).registry.Keyed := by
  unfold addUserType
  split
  next => exact h
  next => exact keyed_register h _

theorem keyed_addCoreType (h : draft.registry.Keyed) (description : TypeDescription) :
    (draft.addCoreType engine core description).registry.Keyed := by
  unfold addCoreType
  split
  next => exact h
  next => exact keyed_register h _

/-- Taking functions leaves the wildcard alone. -/
theorem anySocket_foldl_addFunction (origin : Origin) (descriptions : List FunctionDescription) :
    (descriptions.foldl (addFunction origin) draft).registry.anySocket =
      draft.registry.anySocket := by
  refine List.foldlRecOn (motive := fun changed : Draft =>
    changed.registry.anySocket = draft.registry.anySocket) _ _ rfl ?_
  intro changed hchanged description _
  unfold addFunction
  split
  next => exact hchanged
  next => exact hchanged

/-- The type that is settled as the wildcard takes values of any type. -/
theorem isAny_anySocket_settleAny (h : draft.registry.Keyed) :
    draft.settleAny.registry.anySocket.isAny = true := by
  unfold anySocket anyType? settleAny
  dsimp only
  cases hfound : draft.registry.types.values.find? LanguageType.isAny with
  | none => rfl
  | some type =>
      obtain ⟨entry, hentry, rfl⟩ := List.mem_map.mp (List.mem_of_find?_eq_some hfound)
      have hget := OrderedMap.get?_of_mem h.distinct hentry
      rw [h.named entry hentry] at hget
      simp only [Option.map_some, Option.bind_some, get?, hget, Option.getD_some,
        LanguageType.socket, List.find?_some hfound, if_true]
      rfl

end Draft

/-- The wildcard socket of a language takes values of any type. -/
theorem isAny_anySocket_build (core : CoreDescription) (user : UserDescription) :
    (build core user).anySocket.isAny = true := by
  unfold build draft
  rw [Draft.anySocket_foldl_addFunction, Draft.anySocket_foldl_addFunction]
  refine Draft.isAny_anySocket_settleAny ?_
  refine List.foldlRecOn (motive := fun draft : Draft => draft.registry.Keyed) _ _ ?_
    fun _ h description _ => Draft.keyed_addCoreType h description
  refine List.foldlRecOn (motive := fun draft : Draft => draft.registry.Keyed) _ _ ?_
    fun _ h description _ => Draft.keyed_addUserType h description
  exact ⟨.empty, fun entry hmem => by cases hmem⟩

end Registry

end VisualScript
