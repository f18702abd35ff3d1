import VisualScript.Json.Basic
import VisualScript.Text.Line

/-!
# Reading documents

A reader takes a document apart from left to right and stops at the first
fault. What a place of the document has to hold is known before it is read, so
a value of the wrong shape is met before a mistake further right. Values that
nobody asked for are skipped by laxer rules than those that are kept.
-/

namespace VisualScript.Json

/-- Why a document cannot be read. -/
inductive Fault where
  /-- The text ends early. -/
  | ended
  /-- The text is no document. -/
  | malformed
  /-- A value has the wrong shape. -/
  | mismatched
  deriving Repr, DecidableEq, Inhabited

/-- What is left of a document while it is read. -/
structure Cursor where
  /-- The characters not read yet. -/
  rest : List Char
  /-- How many containers may still be opened around a value that is kept. -/
  room : Nat
  /-- A bound on the number of steps: the length of the document and some more. -/
  budget : Nat

/-- A step of reading: it moves the cursor and gives a value, or finds a fault. -/
abbrev Reader (α : Type) := StateT Cursor (Except Fault) α

/-- How many containers may stand around a value that is kept. -/
def deepest : Nat := 127

namespace Reader

variable {α : Type}

/-- The next character, which stays unread. -/
def peek : Reader (Option Char) := return (← get).rest.head?

/-- Pass over one character. -/
def skip : Reader Unit := modify fun cursor => { cursor with rest := cursor.rest.tail }

def next : Reader Char := do
  match (← get).rest with
  | [] => throw .ended
  | c :: rest =>
      modify fun cursor => { cursor with rest := rest }
      return c

/-- Whether a character may stand between tokens. -/
def isGap (c : Char) : Bool := c = ' ' || c = '\n' || c = '\t' || c = '\r'

/-- Pass over the gap and look at the token behind it. -/
def peekToken : Reader (Option Char) := do
  modify fun cursor => { cursor with rest := cursor.rest.dropWhile isGap }
  peek

/-- Pass over the gap and look at the token that has to follow. -/
def expectToken : Reader Char := do
  match ← peekToken with
  | none => throw .ended
  | some c => return c

/-! ## Words and numbers -/

/-- Read the given characters. -/
def word : List Char → Reader Unit
  | [] => return
  | c :: rest => do
      if (← next) = c then word rest else throw .malformed

/-- Read the run of decimal digits that follows, which may be empty. -/
def digits : Reader (List Char) := do
  let cursor ← get
  set { cursor with rest := cursor.rest.dropWhile Char.isDigit }
  return cursor.rest.takeWhile Char.isDigit

/-- Read digits of which there has to be one. -/
def someDigits : Reader (List Char) := do
  match ← digits with
  | [] => throw (if (← peek).isNone then .ended else .malformed)
  | run => return run

/-- The largest decimal exponent that is not taken for a mistake or for zero. -/
def largestExponent : Nat := 0x7FFFFFFF

/-- Read the exponent of a number with the given significand, the letter in
front of it included. -/
def exponentPart (negative : Bool) (significand : Nat) (exponent : Int) : Reader Number := do
  skip
  let sign ← peek
  if sign = some '+' ∨ sign = some '-' then skip
  let written := Text.natOfDigits (← someDigits)
  if largestExponent < written then
    if significand ≠ 0 ∧ sign ≠ some '-' then throw .malformed
    else return .double (if negative then (-0.0 : Float) else 0.0).toBits
  let exponent := if sign = some '-' then exponent - written else exponent + written
  match Number.ofDecimal? negative significand exponent with
  | some result => return result
  | none => throw .malformed

/-- Read what may follow the digits of a number's fraction. -/
def afterFraction (negative : Bool) (significand : Nat) (exponent : Int) : Reader Number := do
  let c ← peek
  if c = some 'e' ∨ c = some 'E' then exponentPart negative significand exponent
  else
    match Number.ofDecimal? negative significand exponent with
    | some result => return result
    | none => throw .malformed

/-- Read the fraction of a number, the point included. -/
def fractionPart (negative : Bool) (significand : Nat) (exponent : Int) : Reader Number := do
  skip
  let gathered := Number.gather significand (← someDigits)
  afterFraction negative gathered.significand (exponent - gathered.taken)

/-- Read a number behind its sign. -/
def number (negative : Bool) : Reader Number := do
  let run ← someDigits
  if run.head? = some '0' ∧ 1 < run.length then throw .malformed
  let gathered := Number.gather 0 run
  match ← peek with
  | some '.' => fractionPart negative gathered.significand gathered.dropped
  | some 'e' => exponentPart negative gathered.significand gathered.dropped
  | some 'E' => exponentPart negative gathered.significand gathered.dropped
  | _ =>
      if gathered.dropped = 0 then return Number.ofInteger negative gathered.significand
      else
        match Number.ofDecimal? negative gathered.significand gathered.dropped with
        | some result => return result
        | none => throw .malformed

/-- Pass over digits of which there has to be one, wherever the text ends. -/
def skipDigits : Reader Unit := do
  if (← digits).isEmpty then throw .malformed

/-- Pass over a number behind its sign. Its size does not matter. -/
def skipNumber : Reader Unit := do
  let run ← digits
  if run.isEmpty then throw .malformed
  if run.head? = some '0' ∧ 1 < run.length then throw .malformed
  if (← peek) = some '.' then
    skip
    skipDigits
  let c ← peek
  if c = some 'e' ∨ c = some 'E' then
    skip
    let sign ← peek
    if sign = some '+' ∨ sign = some '-' then skip
    skipDigits

/-! ## Strings -/

/-- Read four hexadecimal digits. The text ends early if fewer than four bytes
of it are left. -/
def fourHex : Reader Nat := do
  let run := (← get).rest.take 4
  if Text.byteLength run < 4 then throw .ended
  match run.mapM Text.hexValue? with
  | some [a, b, c, d] =>
      modify fun cursor => { cursor with rest := cursor.rest.drop 4 }
      return ((a * 16 + b) * 16 + c) * 16 + d
  | _ => throw .malformed

/-- Whether a code unit is the first half of a surrogate pair. -/
def isHighSurrogate (n : Nat) : Bool := 0xD800 ≤ n && n ≤ 0xDBFF

/-- Whether a code unit is the second half of a surrogate pair. -/
def isLowSurrogate (n : Nat) : Bool := 0xDC00 ≤ n && n ≤ 0xDFFF

/-- Read a numeric escape behind its letter, both halves of a surrogate pair
included. -/
def numericEscape : Reader Char := do
  let first ← fourHex
  if isLowSurrogate first then throw .malformed
  if isHighSurrogate first then
    word ['\\', 'u']
    let second ← fourHex
    if isLowSurrogate second then
      return Char.ofNat (0x10000 + (first - 0xD800) * 0x400 + (second - 0xDC00))
    else throw .malformed
  else return Char.ofNat first

/-- Read an escape behind its backslash. -/
def escape : Reader Char := do
  match ← next with
  | '"' => return '"'
  | '\\' => return '\\'
  | '/' => return '/'
  | 'b' => return '\x08'
  | 'f' => return '\x0c'
  | 'n' => return '\n'
  | 'r' => return '\r'
  | 't' => return '\t'
  | 'u' => numericEscape
  | _ => throw .malformed

/-- Read the rest of a string, the quote at its end included. -/
def stringRest : Nat → List Char → Reader String
  | 0, _ => throw .ended
  | budget + 1, read => do
      match ← next with
      | '"' => return String.ofList read.reverse
      | '\\' => stringRest budget ((← escape) :: read)
      | c => if c.toNat < 0x20 then throw .malformed else stringRest budget (c :: read)

/-- Read a string behind its opening quote. -/
def stringBody : Reader String := do stringRest (← get).budget []

/-- Pass over the rest of a string. Numeric escapes need no partners. -/
def skipStringRest : Nat → Reader Unit
  | 0 => throw .ended
  | budget + 1 => do
      match ← next with
      | '"' => return
      | '\\' =>
          match ← next with
          | 'u' => discard fourHex
          | c => if c ∈ ['"', '\\', '/', 'b', 'f', 'n', 'r', 't'] then pure ()
                 else throw .malformed
          skipStringRest budget
      | c => if c.toNat < 0x20 then throw .malformed else skipStringRest budget

/-- Pass over a string behind its opening quote. -/
def skipString : Reader Unit := do skipStringRest (← get).budget

/-! ## Containers -/

/-- Open a container whose content is kept. -/
def enter : Reader Unit := do
  match (← get).room with
  | 0 => throw .malformed
  | room + 1 =>
      skip
      modify fun cursor => { cursor with room := room }

/-- Close a container. -/
def leave : Reader Unit := do
  skip
  modify fun cursor => { cursor with room := cursor.room + 1 }

/-- Whether an array has an item more, with the comma in front of it read. -/
def moreItems (first : Bool) : Reader Bool := do
  match ← peekToken with
  | none => throw .ended
  | some ']' => return false
  | some c =>
      if first then return true
      if c ≠ ',' then throw .malformed
      skip
      if (← expectToken) = ']' then throw .malformed
      return true

/-- Whether an object has a field more, with the comma in front of it and the
opening quote of its key read. -/
def moreFields (first : Bool) : Reader Bool := do
  match ← peekToken with
  | none => throw .ended
  | some '\x7d' => return false
  | some c =>
      if !first then
        if c ≠ ',' then throw .malformed
        skip
      if (← expectToken) ≠ '"' then throw .malformed
      skip
      return true

/-- Read the colon behind a key. -/
def colon : Reader Unit := do
  if (← expectToken) = ':' then skip else throw .malformed

/-- Read the items of an array behind its bracket. -/
def itemsRest (item : Reader α) : Nat → Bool → List α → Reader (List α)
  | 0, _, _ => throw .ended
  | budget + 1, first, read => do
      if ← moreItems first then itemsRest item budget false ((← item) :: read)
      else return read.reverse

/-- Read an array whose bracket is the next character. -/
def items (item : Reader α) : Reader (List α) := do
  enter
  let read ← itemsRest item (← get).budget true []
  leave
  return read

/-- Read the fields of an object behind its brace. -/
def entriesRest (value : Reader α) :
    Nat → Bool → OrderedMap String α → Reader (OrderedMap String α)
  | 0, _, _ => throw .ended
  | budget + 1, first, read => do
      if ← moreFields first then
        let key ← stringBody
        colon
        entriesRest value budget false (read.insert key (← value))
      else return read

/-- Read an object whose brace is the next character. -/
def entries (value : Reader α) : Reader (OrderedMap String α) := do
  enter
  let read ← entriesRest value (← get).budget true .empty
  leave
  return read

/-! ## Values of any shape -/

/-- Read a value that is no container. -/
def scalar (c : Char) : Reader Json := do
  match c with
  | 'n' => word "null".toList; return .null
  | 't' => word "true".toList; return .bool true
  | 'f' => word "false".toList; return .bool false
  | '"' => skip; return .string (← stringBody)
  | '-' => skip; return .number (← number true)
  | c => if c.isDigit then return .number (← number false) else throw .malformed

/-- Read a value with at most the given number of containers around its parts. -/
def valueWithin : Nat → Reader Json
  | 0 => do
      let c ← expectToken
      if c = '[' ∨ c = '\x7b' then throw .malformed else scalar c
  | depth + 1 => do
      match ← expectToken with
      | '[' => return .array (← items (valueWithin depth))
      | '\x7b' => return .object (← entries (valueWithin depth))
      | c => scalar c

/-- Read a value of any shape. -/
def value : Reader Json := do valueWithin (← get).room

/-- A closing bracket that the values being skipped wait for. -/
inductive Closing where
  | bracket
  | brace
  deriving DecidableEq

/-- Pass over the closing brackets that end the innermost containers, and over
the comma, key and colon in front of the next value. The answer holds the
containers that are open then, or nothing if the last one was closed. -/
def skipBetween : Nat → Bool → Closing → List Closing → Reader (List Closing)
  | 0, _, _, _ => throw .ended
  | budget + 1, first, inner, outer => do
      let c ← expectToken
      if c = (match inner with | .bracket => ']' | .brace => '\x7d') then
        skip
        match outer with
        | [] => return []
        | inner :: outer => skipBetween budget false inner outer
      else
        if !first then
          if c ≠ ',' then throw .malformed
          skip
        match inner with
        | .bracket => return inner :: outer
        | .brace =>
            if (← expectToken) ≠ '"' then throw .malformed
            skip
            skipString
            colon
            return inner :: outer

/-- Pass over a value inside the given open containers, and over what follows
until the last of them is closed. -/
def skipWithin : Nat → List Closing → Reader Unit
  | 0, _ => throw .ended
  | budget + 1, opened => do
      let continueWith (first : Bool) (opened : List Closing) : Reader Unit := do
        match opened with
        | [] => return
        | inner :: outer =>
            match ← skipBetween (← get).budget first inner outer with
            | [] => return
            | opened => skipWithin budget opened
      match ← expectToken with
      | '[' => skip; continueWith true (.bracket :: opened)
      | '\x7b' => skip; continueWith true (.brace :: opened)
      | 'n' => word "null".toList; continueWith false opened
      | 't' => word "true".toList; continueWith false opened
      | 'f' => word "false".toList; continueWith false opened
      | '"' => skip; skipString; continueWith false opened
      | '-' => skip; skipNumber; continueWith false opened
      | c =>
          if c.isDigit then
            skipNumber
            continueWith false opened
          else throw .malformed

/-- Pass over a value of any shape and depth. -/
def skipValue : Reader Unit := do skipWithin (← get).budget []

/-! ## Values of a known shape -/

/-- Refuse a value that starts with the given character. A mistake inside a
scalar value comes before the complaint about its shape. -/
def refuse (c : Char) : Reader α := do
  if c ≠ '[' ∧ c ≠ '\x7b' then discard (scalar c)
  throw .mismatched

def text : Reader String := do
  match ← expectToken with
  | '"' => skip; stringBody
  | c => refuse c

def flag : Reader Bool := do
  match ← expectToken with
  | 't' => word "true".toList; return true
  | 'f' => word "false".toList; return false
  | c => refuse c

def anyNumber : Reader Number := do
  match ← expectToken with
  | '-' => skip; number true
  | c => if c.isDigit then number false else refuse c

/-- Read a natural number of at most the given size. -/
def natural (largest : Nat) : Reader Nat := do
  match (← anyNumber).toNat? with
  | some n => if n ≤ largest then return n else throw .mismatched
  | none => throw .mismatched

/-- Read a number as the bits of its single-precision value. -/
def single : Reader UInt32 := return (← anyNumber).toSingleBits

/-- Read a value or `null`. -/
def optional (reader : Reader α) : Reader (Option α) := do
  match ← expectToken with
  | 'n' => word "null".toList; return none
  | _ => return some (← reader)

/-- Read an array of values of one shape. -/
def list (item : Reader α) : Reader (List α) := do
  match ← expectToken with
  | '[' => items item
  | c => refuse c

/-- Read an object with free keys and values of one shape. -/
def map (value : Reader α) : Reader (OrderedMap String α) := do
  match ← expectToken with
  | '\x7b' => entries value
  | c => refuse c

/-- Close an array all of whose items are known to have been read. -/
def leaveItems : Reader Unit := do
  if (← expectToken) = ']' then leave else throw .malformed

/-- Read an array of exactly two values. -/
def pair (item : Reader α) : Reader (α × α) := do
  match ← expectToken with
  | '[' =>
      enter
      if !(← moreItems true) then throw .mismatched
      let first ← item
      if !(← moreItems false) then throw .mismatched
      let second ← item
      leaveItems
      return (first, second)
  | c => refuse c

/-! ## Records -/

structure RecordField (Target : Type) where
  /-- The name of the field, and other names that it goes by. -/
  name : String
  aliases : List String := []
  /-- Whether a document has to give the field. -/
  required : Bool := false
  /-- Read the field's value into a record. -/
  read : Target → Reader Target

variable {Target : Type}

/-- Whether a field goes by a name. -/
def RecordField.isCalled (field : RecordField Target) (name : String) : Bool :=
  field.name = name || field.aliases.contains name

/-- Read the fields of a record behind its brace. A field must not come twice,
unknown fields are passed over, and at the end no required one may be missing. -/
def recordRest (fields : List (RecordField Target)) :
    Nat → Bool → List String → Target → Reader Target
  | 0, _, _, _ => throw .ended
  | budget + 1, first, seen, target => do
      if ← moreFields first then
        let key ← stringBody
        match fields.find? (·.isCalled key) with
        | some field =>
            if field.name ∈ seen then throw .mismatched
            colon
            recordRest fields budget false (field.name :: seen) (← field.read target)
        | none =>
            colon
            skipValue
            recordRest fields budget false seen target
      else if fields.any fun field => field.required && !seen.contains field.name then
        throw .mismatched
      else return target

/-- Read the items of a record that is given as an array behind its bracket.
Required fields must be there. -/
def recordItems (first : Bool) : List (RecordField Target) → Target → Reader Target
  | [], target => return target
  | field :: rest, target => do
      if ← moreItems first then recordItems false rest (← field.read target)
      else if field.required then throw .mismatched
      else recordItems first rest target

/-- Read a record: an object with its fields, or an array of their values in
the order of declaration. -/
def record (fields : List (RecordField Target)) (blank : Target) : Reader Target := do
  match ← expectToken with
  | '\x7b' =>
      enter
      let target ← recordRest fields (← get).budget true [] blank
      leave
      return target
  | '[' =>
      enter
      let target ← recordItems true fields blank
      leaveItems
      return target
  | c => refuse c

end Reader

/-- Read a whole document, behind which only a gap may stand. -/
def readDocument {α : Type} (reader : Reader α) (document : String) : Except Fault α := do
  let rest := document.toList
  let whole : Reader α := do
    let result ← reader
    if (← Reader.peekToken).isSome then throw .malformed
    return result
  whole.run' ⟨rest, deepest, rest.length + 2⟩

def parse (document : String) : Except Fault Json := readDocument Reader.value document

end VisualScript.Json
