import VisualScript.Pattern.Tree

/-!
# Reading patterns

From the text of a pattern to its tree. What is wrong with a text that is no
pattern is not told.
-/

namespace VisualScript.Pattern

/-- What is left of a pattern while it is read. -/
structure Scanner where
  /-- The characters not read yet. -/
  rest : List Char
  /-- Whether blanks and comments are passed over. -/
  verbose : Bool
  /-- The names of the groups seen so far. -/
  names : List String

/-- A step of reading a pattern. -/
abbrev Scan (α : Type) := StateT Scanner Option α

namespace Scan

/-- The next character, which stays unread. -/
def peek : Scan (Option Char) := return (← get).rest.head?

/-- Pass over one character. -/
def skip : Scan Unit := modify fun scanner => { scanner with rest := scanner.rest.tail }

/-- The next character, which has to be there and stays unread. -/
def here : Scan Char := do
  match (← get).rest with
  | [] => failure
  | c :: _ => return c

/-- Pass over the given text if it follows. -/
def skipIf (text : String) : Scan Bool := do
  let scanner ← get
  if text.toList.isPrefixOf scanner.rest then
    set { scanner with rest := scanner.rest.drop text.toList.length }
    return true
  else return false

/-- Drop blanks, and comments from their sign to the end of the line. -/
def dropSpace (inComment : Bool) : List Char → List Char
  | [] => []
  | c :: rest =>
      if inComment then dropSpace (c ≠ '\n') rest
      else if Text.isBlank c then dropSpace false rest
      else if c = '#' then dropSpace true rest
      else c :: rest

/-- Pass over blanks and comments where they do not count. -/
def skipSpace : Scan Unit :=
  modify fun scanner =>
    if scanner.verbose then { scanner with rest := dropSpace false scanner.rest } else scanner

/-- Pass over one character and the blanks behind it. -/
def advance : Scan Unit := do
  skip
  skipSpace

/-- What follows the next character, blanks left aside. -/
def peekSecond : Scan (Option Char) := do
  let scanner ← get
  let rest := scanner.rest.tail
  return (if scanner.verbose then dropSpace false rest else rest).head?

/-! ## Escapes -/

/-- The character with a code point. -/
def charOf? (n : Nat) : Option Char := if n.isValidChar then some (Char.ofNat n) else none

/-- Read the given number of hexadecimal digits behind a value. -/
def hexDigits : Nat → Nat → Scan Nat
  | 0, value => return value
  | count + 1, value => do
      let digit ← Text.hexValue? (← here)
      advance
      hexDigits count (value * 16 + digit)

/-- Read hexadecimal digits up to a closing brace. -/
def hexInBraces : Nat → Option Nat → Scan Nat
  | 0, _ => failure
  | budget + 1, value => do
      match ← here with
      | '\x7d' =>
          advance
          value
      | c =>
          let digit ← Text.hexValue? c
          advance
          hexInBraces budget (some (value.getD 0 * 16 + digit))

/-- Read a character given by its code point, behind the letter that says how
many digits it has. -/
def codePoint (digits : Nat) : Scan Char := do
  advance
  if (← here) = '\x7b' then
    advance
    charOf? (← hexInBraces ((← get).rest.length + 1) none)
  else charOf? (← hexDigits digits 0)

/-- Characters that mean something in a pattern unless they are escaped. -/
def isMeta (c : Char) : Bool := "\\.+*?()|[]\x7b\x7d^$#&-~".toList.contains c

/-- Characters that may be escaped to stand for themselves. -/
def isEscapable (c : Char) : Bool :=
  isMeta c || (c.toNat < 0x80 && !c.isAlphanum && c ≠ '<' && c ≠ '>')

/-- The letters in the name of a boundary. -/
def isBoundaryNameChar (c : Char) : Bool := c.isAlpha || c = '-'

/-- Read the letters of a boundary's name. -/
def boundaryName : Nat → List Char → Scan (List Char)
  | 0, read => return read.reverse
  | budget + 1, read => do
      match ← peek with
      | some c =>
          if isBoundaryNameChar c then
            advance
            boundaryName budget (c :: read)
          else return read.reverse
      | none => return read.reverse

/-- Read what kind of boundary it is, behind its letter. Braces that hold no
name are left to be read as a repetition. -/
def boundary : Scan Anchor := do
  if (← peek) ≠ some '\x7b' then return .boundary
  let before ← get
  advance
  if !isBoundaryNameChar (← here) then
    set before
    return .boundary
  let name ← boundaryName ((← get).rest.length) []
  if (← here) ≠ '\x7d' then failure
  skip
  match String.ofList name with
  | "start" => return .wordStart
  | "end" => return .wordEnd
  | "start-half" => return .wordStartHalf
  | "end-half" => return .wordEndHalf
  | _ => failure

/-- What stands before a mark in a text and behind it, if the mark is there. -/
def cutAtText? (mark : List Char) : List Char → Option (List Char × List Char)
  | [] => none
  | c :: rest =>
      if mark.isPrefixOf (c :: rest) then some ([], (c :: rest).drop mark.length)
      else (cutAtText? mark rest).map fun (before, behind) => (c :: before, behind)

/-- What the name of a set asks for, and whether it asks for all other characters. -/
def queryOf (name : List Char) : Query × Bool :=
  match cutAtText? ['!', '='] name with
  | some (property, value) => (.valued property value, true)
  | none =>
      match cutAtText? [':'] name <|> cutAtText? ['='] name with
      | some (property, value) => (.valued property value, false)
      | none => (.plain name, false)

/-- Read the name of a set up to its closing brace. -/
def nameInBraces : Nat → List Char → Scan (List Char)
  | 0, _ => failure
  | budget + 1, read => do
      advance
      let c ← here
      if c = '\x7d' then
        skip
        return read.reverse
      else nameInBraces budget (c :: read)

/-- Read the name of a set of characters, a single letter or a name in braces, behind the
letter that says whether the set is negated. -/
def named (negated : Bool) : Scan Tree := do
  advance
  let c ← here
  if c = '\x7b' then
    let (query, others) := queryOf (← nameInBraces ((← get).rest.length) [])
    return .named query (negated != others)
  else
    skip
    return .named (.plain [c]) negated

/-- Read an escape, the backslash included. -/
def escape : Scan Tree := do
  skip
  let c ← here
  match c with
  | 'x' =>
      let braced := (← peekSecond) = some '\x7b'
      let c ← codePoint 2
      return if braced then .char c else .byte c
  | 'u' => return .char (← codePoint 4)
  | 'U' => return .char (← codePoint 8)
  | 'p' => named false
  | 'P' => named true
  | 'd' => skip; return .shorthand .digit false
  | 's' => skip; return .shorthand .blank false
  | 'w' => skip; return .shorthand .word false
  | 'D' => skip; return .shorthand .digit true
  | 'S' => skip; return .shorthand .blank true
  | 'W' => skip; return .shorthand .word true
  | _ =>
      skip
      if isEscapable c then return .char c
      match c with
      | 'a' => return .char '\x07'
      | 'f' => return .char '\x0c'
      | 't' => return .char '\t'
      | 'n' => return .char '\n'
      | 'r' => return .char '\r'
      | 'v' => return .char '\x0b'
      | 'A' => return .anchor .textStart
      | 'z' => return .anchor .textEnd
      | 'b' => return .anchor (← boundary)
      | 'B' => return .anchor .noBoundary
      | '<' => return .anchor .wordStart
      | '>' => return .anchor .wordEnd
      | _ => failure

/-! ## Classes -/

def asciiClasses : List (String × AsciiClass) :=
  [("alnum", .alnum), ("alpha", .alpha), ("ascii", .ascii), ("blank", .blank), ("cntrl", .cntrl),
    ("digit", .digit), ("graph", .graph), ("lower", .lower), ("print", .print), ("punct", .punct),
    ("space", .space), ("upper", .upper), ("word", .word), ("xdigit", .xdigit)]

/-- Take an ASCII class off the front of a text that starts with its bracket. -/
def takeAsciiClass? (text : List Char) : Option (ClassTree × List Char) := do
  let ('[' :: ':' :: rest) := text | none
  let (negated, rest) := match rest with
    | '^' :: rest => (true, rest)
    | rest => (false, rest)
  let (':' :: ']' :: behind) := rest.dropWhile (· ≠ ':') | none
  let kind ← asciiClasses.lookup (String.ofList (rest.takeWhile (· ≠ ':')))
  return (.ascii kind negated, behind)

/-- Read one member of a class. -/
def classMember : Scan Tree := do
  let c ← here
  if c = '\\' then escape
  else
    skip
    return .char c

/-- The character of a member that is one. -/
def charOfMember? : Tree → Option Char
  | .char c => some c
  | .byte c => some c
  | _ => none

/-- Read a member of a class or a range between two. -/
def classRange : Scan ClassTree := do
  let first ← classMember
  skipSpace
  let c ← here
  let second ← peekSecond
  if c ≠ '-' ∨ second = some ']' ∨ second = some '-' then
    match first with
    | .shorthand kind negated => return .shorthand kind negated
    | .named query negated => return .named query negated
    | _ => return .char (← charOfMember? first)
  advance
  discard here
  let first ← charOfMember? first
  let last ← charOfMember? (← classMember)
  if first ≤ last then return .range first last else failure

/-- Read the hyphens at the start of a class. -/
def leadingHyphens : Nat → List ClassTree → Scan (List ClassTree)
  | 0, parts => return parts
  | budget + 1, parts => do
      if (← here) = '-' then
        advance
        leadingHyphens budget (.char '-' :: parts)
      else return parts

/-- Read the opening of a class: whether it is negated, and the members that
could not stand anywhere else, last one first. -/
def classOpening : Scan (Bool × List ClassTree) := do
  advance
  let negated := (← here) = '^'
  if negated then advance
  let parts ← leadingHyphens ((← get).rest.length) []
  if parts.isEmpty ∧ (← here) = ']' then
    advance
    return (negated, [.char ']'])
  return (negated, parts)

/-- The class so far: what was combined before the last operator with the parts
read since. -/
def classSoFar (left : Option (SetOperator × ClassTree)) (parts : List ClassTree) : ClassTree :=
  match left with
  | none => ClassTree.ofParts parts.reverse
  | some (operator, left) => .combination operator left (ClassTree.ofParts parts.reverse)

/-- Read the rest of a class, the bracket at its end included. -/
def classRest : Nat → Option (SetOperator × ClassTree) → List ClassTree → Scan ClassTree
  | 0, _, _ => failure
  | budget + 1, left, parts => do
      skipSpace
      let operate (operator : SetOperator) : Scan ClassTree := do
        skip
        skip
        classRest budget (some (operator, classSoFar left parts)) []
      match (← get).rest with
      | ']' :: _ =>
          skip
          return classSoFar left parts
      | '[' :: _ =>
          match takeAsciiClass? (← get).rest with
          | some (ascii, rest) =>
              modify fun scanner => { scanner with rest := rest }
              classRest budget left (ascii :: parts)
          | none =>
              let (negated, members) ← classOpening
              let inside ← classRest budget none members
              classRest budget left (.bracketed negated inside :: parts)
      | '&' :: '&' :: _ => operate .inter
      | '-' :: '-' :: _ => operate .diff
      | '~' :: '~' :: _ => operate .symmDiff
      | _ => classRest budget left ((← classRange) :: parts)

/-- Read a class, its brackets included. -/
def bracketed : Scan Tree := do
  let (negated, members) ← classOpening
  return .bracketed negated (← classRest ((← get).rest.length + 1) none members)

/-! ## Repetitions -/

/-- The largest count of a repetition, `2 ^ 32 - 1`. -/
def largestCount : Nat := 0xFFFFFFFF

def countDigits : Nat → List Char → Scan (List Char)
  | 0, read => return read.reverse
  | budget + 1, read => do
      match ← peek with
      | some c =>
          if c.isDigit then
            advance
            countDigits budget (c :: read)
          else return read.reverse
      | none => return read.reverse

/-- Pass over blanks, whether they count or not. -/
def skipBlanks : Scan Unit :=
  modify fun scanner => { scanner with rest := scanner.rest.dropWhile Text.isBlank }

/-- Read a count with blanks around it; nothing if there is no digit. -/
def count? : Scan (Option Nat) := do
  skipBlanks
  let digits ← countDigits ((← get).rest.length) []
  skipBlanks
  skipSpace
  if digits.isEmpty then return none
  let value := Text.natOfDigits digits
  if value ≤ largestCount then return some value else failure

/-- Read the counts of a repetition, its braces included. -/
def counts : Scan (Nat × Option Nat) := do
  advance
  discard here
  let first ← count?
  let range ← (do
    if (← here) = ',' then
      advance
      if (← here) = '\x7d' then return (← first, none)
      else
        let least ← first
        let some most ← count? | failure
        return (least, some most)
    else
      let exactly ← first
      return (exactly, some exactly))
  if (← here) ≠ '\x7d' then failure
  advance
  match range with
  | (least, some most) => if least ≤ most then return range else failure
  | (_, none) => return range

/-- Repeat the last of the parts read so far, with the mark behind the repetition
that makes it reluctant. -/
def repeatLast (parts : List Tree) (least : Nat) (most : Option Nat) : Scan (List Tree) := do
  let reluctant ← skipIf "?"
  match parts with
  | [] => failure
  | .nothing :: _ => failure
  | .flags _ :: _ => failure
  | last :: before => return .repetition last least most reluctant :: before

/-! ## Groups -/

/-- Whether a character may stand in the name of a group. -/
def isNameChar (first : Bool) (c : Char) : Bool :=
  if first then c = '_' || CharSet.letters.contains c
  else c = '_' || c = '.' || c = '[' || c = ']' || CharSet.alphanumeric.contains c

/-- Read the name of a group up to its closing angle bracket. -/
def groupName : Nat → List Char → Scan Unit
  | 0, _ => failure
  | budget + 1, read => do
      let c ← here
      skip
      if c = '>' then
        let name := String.ofList read.reverse
        let scanner ← get
        if read.isEmpty ∨ name ∈ scanner.names then failure
        set { scanner with names := name :: scanner.names }
      else if isNameChar read.isEmpty c then groupName budget (c :: read)
      else failure

def flagOf? : Char → Option Flag
  | 'i' => some .ignoreCase
  | 'm' => some .multiLine
  | 's' => some .dotAll
  | 'U' => some .swapGreed
  | 'u' => some .wide
  | 'R' => some .carriageReturns
  | 'x' => some .verbose
  | _ => none

/-- Read flags up to a colon or a closing parenthesis, which stays unread. No
flag may come twice, and a minus sign needs a flag behind it. -/
def flagChange : Nat → Bool → Bool → FlagChange → Scan FlagChange
  | 0, _, _, _ => failure
  | budget + 1, negated, dangling, change => do
      let c ← here
      if c = ':' ∨ c = ')' then
        if dangling then failure else return change
      skip
      if c = '-' then
        if negated then failure else flagChange budget true true change
      else
        let flag ← flagOf? c
        if flag ∈ change.set ∨ flag ∈ change.clear then failure
        let change :=
          if negated then { change with clear := flag :: change.clear }
          else { change with set := flag :: change.set }
        flagChange budget negated false change

/-- What an opening parenthesis starts. -/
inductive Opening where
  /-- Flags for the rest of the group around it. -/
  | flags (change : FlagChange)
  /-- A group with flags of its own. -/
  | group (captures : Bool) (change : FlagChange)

/-- Read an opening parenthesis and what belongs to it. -/
def opening : Scan Opening := do
  advance
  let ahead ← get
  for text in ["?=", "?!", "?<=", "?<!"] do
    if text.toList.isPrefixOf ahead.rest then failure
  if ← (skipIf "?P<" <||> skipIf "?<") then
    groupName ((← get).rest.length + 1) []
    return .group true {}
  else if ← skipIf "?" then
    let change ← flagChange ((← get).rest.length + 1) false false {}
    let last ← here
    skip
    if last = ')' then
      if change = {} then failure else return .flags change
    else return .group false change
  else return .group true {}

/-- Apply a change of flags to how the pattern is read on. -/
def setVerbose (change : FlagChange) : Scan Unit :=
  modify fun scanner =>
    { scanner with verbose := (change.state? .verbose).getD scanner.verbose }

/-- The tree of some branches and the parts of one more. The last of each comes
first. -/
def finish (branches parts : List Tree) : Tree :=
  Tree.ofBranches (Tree.ofParts parts.reverse :: branches).reverse

/-- Read branches and parts up to the end of the group around them, which stays
unread. The last of each comes first. -/
def branchesRest : Nat → List Tree → List Tree → Scan Tree
  | 0, _, _ => failure
  | budget + 1, branches, parts => do
      skipSpace
      match ← peek with
      | none => return finish branches parts
      | some ')' => return finish branches parts
      | some '|' =>
          skip
          branchesRest budget (Tree.ofParts parts.reverse :: branches) []
      | some '(' =>
          match ← opening with
          | .flags change =>
              setVerbose change
              branchesRest budget branches (.flags change :: parts)
          | .group captures change =>
              let outer := (← get).verbose
              setVerbose change
              let body ← branchesRest budget [] []
              if (← here) ≠ ')' then failure
              modify fun scanner => { scanner with verbose := outer }
              skip
              branchesRest budget branches (.group captures change body :: parts)
      | some '[' => branchesRest budget branches ((← bracketed) :: parts)
      | some '?' =>
          skip
          branchesRest budget branches (← repeatLast parts 0 (some 1))
      | some '*' =>
          skip
          branchesRest budget branches (← repeatLast parts 0 none)
      | some '+' =>
          skip
          branchesRest budget branches (← repeatLast parts 1 none)
      | some '\x7b' =>
          let (least, most) ← counts
          branchesRest budget branches (← repeatLast parts least most)
      | some '\\' => branchesRest budget branches ((← escape) :: parts)
      | some '.' =>
          skip
          branchesRest budget branches (.dot :: parts)
      | some '^' =>
          skip
          branchesRest budget branches (.anchor .lineStart :: parts)
      | some '$' =>
          skip
          branchesRest budget branches (.anchor .lineEnd :: parts)
      | some c =>
          skip
          branchesRest budget branches (.char c :: parts)

end Scan

/-- The tree of a pattern, if the text is one and not nested too deeply. -/
def Tree.ofText? (text : String) : Option Tree := do
  let chars := text.toList
  let (tree, scanner) ← (Scan.branchesRest (chars.length + 1) [] []).run ⟨chars, false, []⟩
  if scanner.rest.isEmpty ∧ tree.depth ≤ deepest then some tree else none

end VisualScript.Pattern
