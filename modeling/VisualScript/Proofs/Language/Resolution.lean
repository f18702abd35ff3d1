import VisualScript.Proofs.Language.Registration

/-!
# What is taken and what is left out

Every function that is described is taken into a registry or noticed once, with the reason.
Whatever type a component of the catalog names can be found in the registry.
-/

namespace VisualScript

/-- Whether a notice is about a function that is left out. -/
def LanguageNotice.isRefusal : LanguageNotice → Bool
  | unknownArgumentType .. => true
  | voidArgument .. => true
  | unknownResultType .. => true
  | _ => false

namespace Registry

variable {core : CoreDescription} {user : UserDescription} {registry : Registry}
  {function : FunctionDescription}

/-! ## Functions -/

/-- The types of a function are registered, and its arguments have values. -/
structure Admits (registry : Registry) (function : FunctionDescription) : Prop where
  arguments : ∀ argument ∈ function.arguments,
    ∃ type, registry.get? argument.type = some type ∧ type.isVoid = false
  result : ∃ type, registry.get? function.result = some type

/-- A notice says truly what there is against a function. -/
inductive Objects (registry : Registry) (function : FunctionDescription) : LanguageNotice → Prop
  | unknownArgument {argument} (mem : argument ∈ function.arguments)
      (unknown : registry.get? argument.type = none) :
      Objects registry function (.unknownArgumentType function.name argument.name argument.type)
  | voidArgument {argument type} (mem : argument ∈ function.arguments)
      (found : registry.get? argument.type = some type) (isVoid : type.isVoid = true) :
      Objects registry function (.voidArgument function.name argument.name)
  | unknownResult (unknown : registry.get? function.result = none) :
      Objects registry function (.unknownResultType function.name function.result)

theorem Objects.isRefusal {notice : LanguageNotice} (h : registry.Objects function notice) :
    notice.isRefusal = true := by
  cases h with
  | unknownArgument => rfl
  | voidArgument => rfl
  | unknownResult => rfl

theorem objects_of_refusal? {notice : LanguageNotice}
    (h : registry.refusal? function = some notice) :
    registry.Objects function notice := by
  unfold refusal? at h
  simp only [Option.orElse_eq_orElse, Option.orElse_eq_or, Option.or_eq_some_iff] at h
  rcases h with h | ⟨-, h⟩
  · obtain ⟨argument, hmem, hargument⟩ := List.exists_of_findSome?_eq_some h
    split at hargument
    next hunknown =>
      cases hargument
      exact .unknownArgument hmem hunknown
    next type hfound =>
      split at hargument
      next hvoid =>
        cases hargument
        exact .voidArgument hmem hfound hvoid
      next => cases hargument
  · split at h
    next => cases h
    next hunknown =>
      cases h
      exact .unknownResult (by simpa [OrderedMap.contains, get?] using hunknown)

theorem admits_of_refusal? (h : registry.refusal? function = none) : registry.Admits function := by
  unfold refusal? at h
  simp only [Option.orElse_eq_orElse, Option.orElse_eq_or, Option.or_eq_none_iff] at h
  obtain ⟨harguments, hresult⟩ := h
  refine ⟨fun argument hmem => ?_, ?_⟩
  · have hargument := List.findSome?_eq_none_iff.mp harguments argument hmem
    split at hargument
    next => cases hargument
    next type hfound =>
      split at hargument
      next => cases hargument
      next hvalues => exact ⟨type, hfound, by simpa using hvalues⟩
  · split at hresult
    next hknown => exact Option.isSome_iff_exists.mp hknown
    next => cases hresult

/-- Functions gone through in order: each is taken, or there is one notice of what is against
it. -/
inductive Sifted (registry : Registry) :
    List Callable → List Callable → List LanguageNotice → Prop
  | nil : Sifted registry [] [] []
  | taken {function rest accepted notices} (admits : registry.Admits function.description)
      (later : Sifted registry rest accepted notices) :
      Sifted registry (function :: rest) (function :: accepted) notices
  | refused {function rest accepted notices notice}
      (objects : registry.Objects function.description notice)
      (later : Sifted registry rest accepted notices) :
      Sifted registry (function :: rest) accepted (notice :: notices)

namespace Sifted

variable {described accepted : List Callable} {notices : List LanguageNotice}

theorem append (h : registry.Sifted described accepted notices) {others taken : List Callable}
    {further : List LanguageNotice} (hothers : registry.Sifted others taken further) :
    registry.Sifted (described ++ others) (accepted ++ taken) (notices ++ further) := by
  induction h with
  | nil => exact hothers
  | taken admits _ ih => exact .taken admits ih
  | refused objects _ ih => exact .refused objects ih

/-- Only the types of a registry count. -/
theorem of_types (h : registry.Sifted described accepted notices) {other : Registry}
    (hsame : other.types = registry.types) : other.Sifted described accepted notices := by
  have hget (name : String) : other.get? name = registry.get? name := by
    unfold get?
    rw [hsame]
  induction h with
  | nil => exact .nil
  | taken admits _ ih =>
      refine .taken ⟨fun argument hmem => ?_, ?_⟩ ih
      · rw [hget]
        exact admits.arguments argument hmem
      · rw [hget]
        exact admits.result
  | refused objects _ ih =>
      refine .refused ?_ ih
      cases objects with
      | unknownArgument mem unknown => exact .unknownArgument mem ((hget _).trans unknown)
      | voidArgument mem found isVoid => exact .voidArgument mem ((hget _).trans found) isVoid
      | unknownResult unknown => exact .unknownResult ((hget _).trans unknown)

theorem admits (h : registry.Sifted described accepted notices) {function : Callable}
    (hmem : function ∈ accepted) : registry.Admits function.description := by
  induction h with
  | nil => cases hmem
  | taken admits _ ih =>
      cases hmem with
      | head => exact admits
      | tail _ hmem => exact ih hmem
  | refused _ _ ih => exact ih hmem

theorem isRefusal (h : registry.Sifted described accepted notices) :
    notices.filter LanguageNotice.isRefusal = notices := by
  induction h with
  | nil => rfl
  | taken _ _ ih => exact ih
  | refused objects _ ih => rw [List.filter_cons_of_pos objects.isRefusal, ih]

end Sifted

namespace Draft

/-- A draft with further functions and further notices. -/
def extend (draft : Draft) (accepted : List Callable) (notices : List LanguageNotice) : Draft :=
  ⟨{ draft.registry with functions := draft.registry.functions ++ accepted },
    draft.notices ++ notices⟩

theorem extend_extend (draft : Draft) (accepted others : List Callable)
    (notices further : List LanguageNotice) :
    (draft.extend accepted notices).extend others further =
      draft.extend (accepted ++ others) (notices ++ further) := by
  simp [extend]

theorem addFunction_of_refused {draft : Draft} {description : FunctionDescription}
    {refusal : LanguageNotice} (h : draft.registry.refusal? description = some refusal)
    (origin : Origin) : draft.addFunction origin description = draft.extend [] [refusal] := by
  simp [addFunction, h, notice, extend]

theorem addFunction_of_taken {draft : Draft} {description : FunctionDescription}
    (h : draft.registry.refusal? description = none) (origin : Origin) :
    draft.addFunction origin description = draft.extend [⟨description, origin⟩] [] := by
  simp [addFunction, h, extend]

/-- Going through functions takes some of them and notices the others. -/
theorem sifted_foldl_addFunction (origin : Origin) (descriptions : List FunctionDescription)
    (draft : Draft) :
    ∃ accepted notices,
      draft.registry.Sifted (descriptions.map (⟨·, origin⟩)) accepted notices ∧
      descriptions.foldl (addFunction origin) draft = draft.extend accepted notices := by
  induction descriptions generalizing draft with
  | nil => exact ⟨[], [], .nil, by simp [extend]⟩
  | cons description rest ih =>
      rw [List.foldl_cons, List.map_cons]
      cases hrefusal : draft.registry.refusal? description with
      | some refusal =>
          obtain ⟨accepted, notices, hsifted, hrest⟩ := ih (draft.extend [] [refusal])
          refine ⟨accepted, refusal :: notices,
            .refused (objects_of_refusal? hrefusal) (hsifted.of_types rfl), ?_⟩
          rw [addFunction_of_refused hrefusal, hrest, extend_extend]
          rfl
      | none =>
          obtain ⟨accepted, notices, hsifted, hrest⟩ :=
            ih (draft.extend [⟨description, origin⟩] [])
          refine ⟨⟨description, origin⟩ :: accepted, notices,
            .taken (admits_of_refusal? hrefusal) (hsifted.of_types rfl), ?_⟩
          rw [addFunction_of_taken hrefusal, hrest, extend_extend]
          rfl

end Draft

/-! ## Types -/

/-- What holds of a registry while types are put into it. -/
structure Draft.Typed (core : CoreDescription) (draft : Draft) : Prop where
  keyed : draft.registry.Keyed
  logic : ∀ name, draft.registry.logic = some name →
    name = core.logicType ∧ ∃ type, draft.registry.get? name = some type
  silent : draft.notices.filter LanguageNotice.isRefusal = []

namespace Draft

variable {engine : Pattern.Engine} {draft : Draft}

theorem registry_register (description : TypeDescription) :
    (draft.register engine core description).registry =
      draft.registry.addType core (.ofDescription engine core description) := by
  unfold register
  dsimp only
  split
  next => rfl
  next => rfl

namespace Typed

theorem notice (h : draft.Typed core) {notice : LanguageNotice}
    (hnotice : notice.isRefusal = false) : (draft.notice notice).Typed core := by
  refine ⟨h.keyed, h.logic, ?_⟩
  simp [Draft.notice, h.silent, hnotice]

/-- The name of the type of conditions is registered with that type. -/
theorem logic_addType (h : draft.Typed core) {type : LanguageType} {name : String}
    (hname : (draft.registry.addType core type).logic = some name) :
    name = core.logicType ∧ ∃ found, (draft.registry.addType core type).get? name = some found := by
  have hget : (draft.registry.addType core type).get? name =
      if type.machineName = name then some type else draft.registry.get? name :=
    OrderedMap.get?_insert ..
  simp only [addType] at hname
  split at hname
  next hlogic =>
    obtain rfl := Option.some.inj hname
    exact ⟨hlogic, type, by rw [hget, if_pos rfl]⟩
  next =>
    obtain ⟨hlogic, old, hold⟩ := h.logic name hname
    refine ⟨hlogic, ?_⟩
    rw [hget]
    split
    next => exact ⟨type, rfl⟩
    next => exact ⟨old, hold⟩

theorem register (h : draft.Typed core) (description : TypeDescription) :
    (draft.register engine core description).Typed core := by
  refine ⟨keyed_register h.keyed description, fun name hname => ?_, ?_⟩
  · rw [registry_register] at hname ⊢
    exact h.logic_addType hname
  · unfold Draft.register
    dsimp only
    split
    next => simp [Draft.notice, h.silent, LanguageNotice.isRefusal]
    next => exact h.silent

theorem addUserType (h : draft.Typed core) (description : TypeDescription) :
    (draft.addUserType engine core description).Typed core := by
  unfold Draft.addUserType
  split
  next => exact h.notice rfl
  next => exact h.register _

theorem addCoreType (h : draft.Typed core) (description : TypeDescription) :
    (draft.addCoreType engine core description).Typed core := by
  unfold Draft.addCoreType
  split
  next => exact h
  next => exact h.register _

theorem settleAny (h : draft.Typed core) : draft.settleAny.Typed core :=
  ⟨⟨h.keyed.distinct, h.keyed.named⟩, h.logic, h.silent⟩

end Typed

end Draft

/-- The draft of a registry with all types and without functions. -/
def typed (core : CoreDescription) (user : UserDescription) (engine : Pattern.Engine) : Draft :=
  (core.types.foldl (Draft.addCoreType engine core)
    (user.types.foldl (Draft.addUserType engine core) {})).settleAny

theorem typed_typed (core : CoreDescription) (user : UserDescription)
    (engine : Pattern.Engine) : (typed core user engine).Typed core := by
  refine Draft.Typed.settleAny ?_
  refine List.foldlRecOn (motive := Draft.Typed core) _ _ ?_
    fun _ h description _ => h.addCoreType description
  refine List.foldlRecOn (motive := Draft.Typed core) _ _ ?_
    fun _ h description _ => h.addUserType description
  refine ⟨⟨.empty, ?_⟩, ?_, rfl⟩
  · intro entry hmem
    cases hmem
  · intro name hname
    cases hname

/-- All functions that are described, in the order in which they are gone through. -/
def described (core : CoreDescription) (user : UserDescription) : List Callable :=
  user.functions.map (⟨·, .user⟩) ++ core.functions.map (⟨·, .core⟩)

/-- A registry is its types and the functions that are taken. -/
theorem exists_draft_eq (core : CoreDescription) (user : UserDescription)
    (engine : Pattern.Engine) :
    ∃ accepted notices,
      (typed core user engine).registry.Sifted (described core user) accepted notices ∧
      draft core user engine = (typed core user engine).extend accepted notices := by
  obtain ⟨users, fromUsers, husers, hdraft⟩ :=
    Draft.sifted_foldl_addFunction .user user.functions (typed core user engine)
  obtain ⟨cores, fromCore, hcores, hwhole⟩ :=
    Draft.sifted_foldl_addFunction .core core.functions
      ((typed core user engine).extend users fromUsers)
  refine ⟨users ++ cores, fromUsers ++ fromCore, husers.append (hcores.of_types rfl), ?_⟩
  rw [← Draft.extend_extend, ← hwhole, ← hdraft]
  rfl

/-! ## The whole registry -/

/-- The notices about functions account, together with the functions that are taken, for all
functions that are described. -/
theorem sifted_build (core : CoreDescription) (user : UserDescription)
    (engine : Pattern.Engine) :
    (build core user engine).Sifted (described core user) (build core user engine).functions
      ((Language.notices core user engine).filter LanguageNotice.isRefusal) := by
  obtain ⟨accepted, notices, hsifted, hdraft⟩ := exists_draft_eq core user engine
  have hcatalog :
      (Catalog.notices (build core user engine)).filter LanguageNotice.isRefusal = [] := by
    unfold Catalog.notices
    rw [List.filter_map]
    simp [Function.comp_def, LanguageNotice.isRefusal]
  have hnotices :
      (Language.notices core user engine).filter LanguageNotice.isRefusal = notices := by
    unfold Language.notices
    rw [hdraft, List.filter_append, hcatalog]
    simp [Draft.extend, (typed_typed core user engine).silent, hsifted.isRefusal]
  have hfunctions : (build core user engine).functions = accepted := by
    have hnone : (typed core user engine).registry.functions = [] :=
      functions_types core user engine
    simp [build, hdraft, Draft.extend, hnone]
  rw [hnotices, hfunctions]
  refine hsifted.of_types ?_
  simp [build, hdraft, Draft.extend]

theorem Keyed.map_machineName (h : registry.Keyed) :
    registry.types.values.map LanguageType.machineName = registry.types.keys := by
  unfold OrderedMap.values OrderedMap.keys
  rw [List.map_map]
  exact List.map_congr_left fun entry hmem => (h.named entry hmem).symm

theorem Keyed.get?_of_mem (h : registry.Keyed) {type : LanguageType}
    (hmem : type ∈ registry.types.values) : registry.get? type.machineName = some type := by
  obtain ⟨entry, hentry, rfl⟩ := List.mem_map.mp hmem
  rw [← h.named entry hentry]
  exact OrderedMap.get?_of_mem h.distinct hentry

/-- The names that a registry goes by are those of its types. -/
structure Consistent (core : CoreDescription) (registry : Registry) : Prop where
  /-- No two types have one machine name. -/
  unique : (registry.types.values.map LanguageType.machineName).Nodup
  found : ∀ type ∈ registry.types.values, registry.get? type.machineName = some type
  any : ∀ name, registry.any = some name →
    ∃ type, registry.get? name = some type ∧ registry.anyType? = some type ∧ type.isAny = true
  logic : ∀ name, registry.logic = some name →
    ∃ type, registry.get? name = some type ∧ registry.logicType? = some type ∧
      name = core.logicType
  admits : ∀ function ∈ registry.functions, registry.Admits function.description

theorem consistent_build (core : CoreDescription) (user : UserDescription)
    (engine : Pattern.Engine) : (build core user engine).Consistent core := by
  obtain ⟨accepted, notices, -, hdraft⟩ := exists_draft_eq core user engine
  have htyped := typed_typed core user engine
  have hkeyed : (build core user engine).Keyed := by
    rw [build, hdraft]
    exact ⟨htyped.keyed.distinct, htyped.keyed.named⟩
  constructor
  case unique =>
    rw [hkeyed.map_machineName]
    exact hkeyed.distinct
  case found => exact fun type hmem => hkeyed.get?_of_mem hmem
  case any =>
    intro name hname
    have hfirst : (build core user engine).any =
        ((build core user engine).types.values.find? LanguageType.isAny).map
          LanguageType.machineName := by
      rw [build, hdraft]
      rfl
    obtain ⟨type, hfound, rfl⟩ := Option.map_eq_some_iff.mp (hfirst.symm.trans hname)
    have hget := hkeyed.get?_of_mem (List.mem_of_find?_eq_some hfound)
    exact ⟨type, hget, by rw [anyType?, hname, Option.bind_some, hget], List.find?_some hfound⟩
  case logic =>
    intro name hname
    obtain ⟨hlogic, type, hget⟩ := htyped.logic name (by
      rw [build, hdraft] at hname
      exact hname)
    have hget : (build core user engine).get? name = some type := by
      rw [build, hdraft]
      exact hget
    exact ⟨type, hget, by rw [logicType?, hname, Option.bind_some, hget], hlogic⟩
  case admits => exact fun function hmem => (sifted_build core user engine).admits hmem

/-! ## Components -/

/-- The types that a component of a kind names are registered and fit for it. -/
def Resolves (registry : Registry) : ComponentKind → Prop
  | .literal name => ∃ type, registry.get? name = some type ∧ type.isVoid = false ∧
      type.isAny = false ∧ type.isRef = false ∧ type.takesText = true
  | .call function => function ∈ registry.functions ∧ registry.Admits function.description
  | _ => True

theorem resolves_builtIn (registry : Registry) :
    ∀ component ∈ Catalog.builtIn, registry.Resolves component.kind := by
  simp [Catalog.builtIn, Resolves]

theorem Consistent.resolves_of_mem (h : registry.Consistent core) {component : Component}
    (hmem : component ∈ Catalog.candidates registry) : registry.Resolves component.kind := by
  rcases List.mem_append.mp hmem with hmem | hmem
  · rcases List.mem_append.mp hmem with hmem | hmem
    · exact resolves_builtIn registry component hmem
    · obtain ⟨type, htype, rfl⟩ := List.mem_map.mp hmem
      obtain ⟨htype, hliteral⟩ := List.mem_filter.mp htype
      simp only [Catalog.hasLiteral, Bool.and_eq_true, Bool.not_eq_true'] at hliteral
      obtain ⟨⟨⟨hvoid, hany⟩, href⟩, htext⟩ := hliteral
      exact ⟨type, h.found type htype, hvoid, hany, href, htext⟩
  · obtain ⟨function, hfunction, rfl⟩ := List.mem_map.mp hmem
    exact ⟨hfunction, h.admits function hfunction⟩

/-- Whatever component a catalog holds, the types that it names are found. -/
def ResolvesAll (registry : Registry) (catalog : Catalog) : Prop :=
  ∀ name component, catalog.get? name = some component → registry.Resolves component.kind

theorem Consistent.resolvesAll (h : registry.Consistent core) :
    registry.ResolvesAll (Catalog.build registry) :=
  fun _ _ hget => h.resolves_of_mem (Catalog.mem_of_get?_ofComponents hget)

end Registry

/-- The values of a catalog are among the components that it was made of. -/
theorem Catalog.mem_of_mem_values_ofComponents {components : List Component}
    {component : Component} (h : component ∈ (ofComponents components).values) :
    component ∈ components := by
  suffices general : ∀ catalog : Catalog,
      component ∈ (components.foldl (fun catalog component =>
        catalog.insertNew component.name component) catalog).values →
      component ∈ components ∨ component ∈ catalog.values by
    rcases general .empty h with hmem | hnone
    · exact hmem
    · cases hnone
  clear h
  induction components with
  | nil => exact fun catalog h => .inr h
  | cons first rest ih =>
      intro catalog h
      rcases ih _ h with hmem | hvalue
      · exact .inl (List.mem_cons_of_mem _ hmem)
      · have hinserted : component ∈ (catalog.insertNew first.name first).values := hvalue
        unfold OrderedMap.insertNew at hinserted
        split at hinserted
        next => exact .inr hinserted
        next =>
          obtain ⟨entry, hentry, rfl⟩ := List.mem_map.mp hinserted
          rcases OrderedMap.mem_of_mem_put hentry with rfl | hold
          · exact .inl (List.mem_cons_self ..)
          · exact .inr (List.mem_map_of_mem hold)

end VisualScript
