import VisualScript.Pattern.CharSet

/-!
# Characters as bytes

The machine of a pattern reads bytes. A set of characters is cut into sequences
of byte ranges that together stand for just the characters of the set.
-/

namespace VisualScript.Pattern

/-- Ranges of bytes, one for each byte of an encoded character. -/
abbrev ByteRanges := List (Nat × Nat)

def encode (n : Nat) : List Nat :=
  if n < 0x80 then [n]
  else if n < 0x800 then [0xC0 + n / 0x40, 0x80 + n % 0x40]
  else if n < 0x10000 then [0xE0 + n / 0x1000, 0x80 + n / 0x40 % 0x40, 0x80 + n % 0x40]
  else [0xF0 + n / 0x40000, 0x80 + n / 0x1000 % 0x40, 0x80 + n / 0x40 % 0x40, 0x80 + n % 0x40]

/-- Where a range of code points has to be cut so that each byte of the encoding
runs through a range of its own: the end of the first part. -/
def cutAt? (low high : Nat) : Option Nat :=
  let lengths := [0x7F, 0x7FF, 0xD7FF, 0xDFFF, 0xFFFF].find? fun last => low ≤ last && last < high
  match lengths with
  | some last => some last
  | none =>
      if high < 0x80 then none
      else
        [0x40, 0x1000, 0x40000].findSome? fun unit =>
          if low / unit = high / unit then none
          else if low % unit ≠ 0 then some (low / unit * unit + (unit - 1))
          else if high % unit ≠ unit - 1 then some (high / unit * unit - 1)
          else none

/-- Cut a range of code points into byte ranges. Fifty cuts in a row are more
than any range needs. -/
def cutRange : Nat → Nat → Nat → List ByteRanges
  | 0, _, _ => []
  | budget + 1, low, high =>
      if 0xD800 ≤ low ∧ high ≤ 0xDFFF then []
      else
        match cutAt? low high with
        | some last => cutRange budget low last ++ cutRange budget (last + 1) high
        | none => [(encode low).zip (encode high)]

def encodeAll (chars : List Char) : List Nat := chars.flatMap fun c => encode c.toNat

/-- The byte ranges of a set, in increasing order. -/
def CharSet.byteRanges (set : CharSet) : List ByteRanges :=
  set.ranges.flatMap fun (low, high) => cutRange 50 low high

end VisualScript.Pattern
