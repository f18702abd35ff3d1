import VisualScript.Json.Reader
import VisualScript.Language.Description

/-!
# Documents that describe a language

The records of a description and their fields in the order of declaration. A
field that is not required keeps its value from the blank record.
-/

namespace VisualScript

open Json (Reader Fault)
open Json.Reader (RecordField text flag list optional record)

def Argument.fields : List (RecordField Argument) :=
  [{ name := "name", required := true, read := fun a => return { a with name := ← text } },
   { name := "mn", required := true, read := fun a => return { a with type := ← text } }]

def Argument.read : Reader Argument := record fields default

def TypeDescription.fields : List (RecordField TypeDescription) :=
  [{ name := "mn", required := true, read := fun t => return { t with machineName := ← text } },
   { name := "baseMn", read := fun t => return { t with base := ← optional text } },
   { name := "typeName", required := true,
     read := fun t => return { t with displayName := ← text } },
   { name := "isConst", read := fun t => return { t with isConst := ← flag } },
   { name := "isRef", read := fun t => return { t with isRef := ← flag } },
   { name := "isLocal", aliases := ["canCopy"],
     read := fun t => return { t with copyable := ← flag } },
   { name := "isBlock", read := fun t => return { t with isBlock := ← flag } },
   { name := "default", read := fun t => return { t with defaultLiteral := ← optional text } },
   { name := "ctor", read := fun t => return { t with template := ← optional text } },
   { name := "group", read := fun t => return { t with group := ← optional text } },
   { name := "validator", read := fun t => return { t with pattern := ← optional text } },
   { name := "enum", read := fun t => return { t with values := ← optional (list text) } },
   { name := "requirements", read := fun t => return { t with modules := ← list text } },
   { name := "args", aliases := ["struct"],
     read := fun t => return { t with parameters := ← list Argument.read } }]

def TypeDescription.read : Reader TypeDescription := record fields {}

def FunctionDescription.fields : List (RecordField FunctionDescription) :=
  [{ name := "name", required := true, read := fun f => return { f with name := ← text } },
   { name := "mn", read := fun f => return { f with givenMachineName := ← text } },
   { name := "resMn", required := true, read := fun f => return { f with result := ← text } },
   { name := "args", read := fun f => return { f with arguments := ← list Argument.read } },
   { name := "sideeffect", aliases := ["sideEffect"],
     read := fun f => return { f with hasEffect := ← flag } },
   { name := "ctor", read := fun f => return { f with template := ← optional text } },
   { name := "requirements", read := fun f => return { f with modules := ← list text } }]

def FunctionDescription.read : Reader FunctionDescription := record fields {}

def stringOf? : Json → Option String
  | .string value => some value
  | _ => none

/-- Read a name or a list of names. The value is read whole before its shape is
judged. -/
def readNames : Reader (List String) := do
  match ← Json.Reader.value with
  | .string name => return [name]
  | .array items =>
      match items.mapM stringOf? with
      | some names => return names
      | none => throw .mismatched
  | _ => throw .mismatched

def CoreDescription.fields : List (RecordField CoreDescription) :=
  [{ name := "logicType", required := true,
     read := fun c => return { c with logicType := ← text } },
   { name := "anyTypes", aliases := ["anyType"],
     read := fun c => return { c with anyTypes := ← readNames } },
   { name := "voidTypes", aliases := ["voidType"],
     read := fun c => return { c with voidTypes := ← readNames } },
   { name := "types", read := fun c => return { c with types := ← list TypeDescription.read } },
   { name := "functions",
     read := fun c => return { c with functions := ← list FunctionDescription.read } }]

def CoreDescription.parse (document : String) : Except Fault CoreDescription :=
  Json.readDocument (record fields {}) document

def UserDescription.fields : List (RecordField UserDescription) :=
  [{ name := "types", read := fun u => return { u with types := ← list TypeDescription.read } },
   { name := "functions",
     read := fun u => return { u with functions := ← list FunctionDescription.read } }]

def UserDescription.parse (document : String) : Except Fault UserDescription :=
  Json.readDocument (record fields {}) document

end VisualScript
