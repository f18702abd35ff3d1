import VisualScript.Component.Basic

/-!
# Catalogs

The components of a language by name, in the order of menus: the built-in ones,
a literal for every type whose literals can be entered, and a call for every
function. Of components with one name the first counts.
-/

namespace VisualScript

abbrev Catalog := OrderedMap String Component

namespace Catalog

def builtIn : List Component :=
  [("InjectTopLevelCode", ComponentKind.topLevelCode), ("InjectCode", .code),
    ("Sequence", .sequence), ("Variable", .localVariable), ("Function", .definition),
    ("If", .branch), ("While", .loop)].map fun (name, kind) => ⟨name, ["language"], kind⟩

/-- Whether a type has a component for its literals. -/
def hasLiteral (type : LanguageType) : Bool :=
  !type.isVoid && !type.isAny && !type.isRef && type.takesText

/-- The component for the literals of a type. -/
def ofType (type : LanguageType) : Component :=
  ⟨type.displayName, ["ctors", type.displayName], .literal type.machineName⟩

/-- The path of a function in menus. A function named after the type of its
result is listed as a way to make values of the type. -/
def functionGroup (registry : Registry) (function : Callable) : List String :=
  if function.origin = .core then ["core"]
  else
    let result := registry.get? function.result
    let name := (result.map LanguageType.displayName).getD function.result
    if result.any (fun type => !type.isVoid && !type.isAny) && function.name = name then
      ["ctors", name]
    else
      ["functions", String.ofList (name.toList.take 2), toString function.arguments.length, name,
        String.ofList (function.name.toList.take 1)]

/-- The component for the calls of a function. -/
def ofFunction (registry : Registry) (function : Callable) : Component :=
  ⟨function.machineName, functionGroup registry function, .call function⟩

/-- All components that a language asks for, whether their names are taken or not. -/
def candidates (registry : Registry) : List Component :=
  builtIn ++ (registry.types.values.filter hasLiteral).map ofType ++
    registry.functions.map (ofFunction registry)

/-- Enter some components, the first of each name. -/
def ofComponents (components : List Component) : Catalog :=
  components.foldl (fun catalog component => catalog.insertNew component.name component) .empty

def build (registry : Registry) : Catalog := ofComponents (candidates registry)

/-- The components whose names are taken by earlier ones. -/
def duplicates (known : List String) : List Component → List String
  | [] => []
  | component :: rest =>
      if component.name ∈ known then component.name :: duplicates known rest
      else duplicates (component.name :: known) rest

/-- What is noticed while a catalog is built. -/
def notices (registry : Registry) : List LanguageNotice :=
  (duplicates [] (candidates registry)).map .duplicateComponent

end Catalog

end VisualScript
