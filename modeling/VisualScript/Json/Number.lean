import VisualScript.Text.Digits

/-!
# Numbers in documents

A number is an integer of 64 bits or a double. Doubles are kept as their bits,
so that two numbers are equal exactly when they are written alike.
-/

namespace VisualScript.Json

/-- A number in a document. -/
inductive Number where
  /-- An integer between `-2 ^ 63` and `2 ^ 64 - 1`. -/
  | integer (value : Int)
  /-- Any other finite number, as the bits of a double. -/
  | double (bits : UInt64)
  deriving Repr, DecidableEq, Inhabited

namespace Number

/-- The largest significand that digits are gathered into, `2 ^ 64 - 1`. -/
def largestSignificand : Nat := 0xFFFFFFFFFFFFFFFF

/-- Digits gathered into a significand: its value, how many digits went in, and
how many were left out once the next one no longer fitted. -/
structure Gathered where
  significand : Nat
  taken : Nat
  dropped : Nat

/-- Gather decimal digits behind a significand as long as it stays in range. -/
def gather (significand : Nat) : List Char → Gathered
  | [] => ⟨significand, 0, 0⟩
  | digit :: rest =>
      let next := significand * 10 + Text.digitValue digit
      if largestSignificand < next then ⟨significand, 0, rest.length + 1⟩
      else
        let gathered := gather next rest
        { gathered with taken := gathered.taken + 1 }

/-- The largest power of ten that a single step scales by. -/
def largestScale : Nat := 308

/-- The power `10 ^ exponent` as a double. -/
def powerOfTen (exponent : Nat) : Float := Float.ofScientific 1 false exponent

/-- Divide by a power of ten, in steps of at most `10 ^ 308`. -/
def scaleDown (value : Float) (exponent : Nat) : Float :=
  if exponent ≤ largestScale then value / powerOfTen exponent
  else if value == 0 then value
  else scaleDown (value / powerOfTen largestScale) (exponent - largestScale)
termination_by exponent
decreasing_by simp_all [largestScale]; omega

/-- Multiply by a power of ten; `none` if the result is no finite number. -/
def scaleUp (value : Float) (exponent : Nat) : Option Float :=
  if exponent ≤ largestScale then
    let scaled := value * powerOfTen exponent
    if scaled.isInf then none else some scaled
  else if value == 0 then some value else none

/-- The double of `± significand * 10 ^ exponent`: the significand is rounded
first and scaled after, so the last place may differ from the nearest double. -/
def ofDecimal? (negative : Bool) (significand : Nat) (exponent : Int) : Option Number :=
  let value := significand.toUInt64.toFloat
  let scaled :=
    if 0 ≤ exponent then scaleUp value exponent.toNat
    else some (scaleDown value (-exponent).toNat)
  scaled.map fun magnitude => .double (if negative then -magnitude else magnitude).toBits

/-- The number of an integer literal whose digits fit. A negative zero and what
lies below the signed range are doubles. -/
def ofInteger (negative : Bool) (magnitude : Nat) : Number :=
  if negative then
    if 0 < magnitude ∧ magnitude ≤ 0x8000000000000000 then .integer (-(magnitude : Int))
    else .double (-magnitude.toUInt64.toFloat).toBits
  else .integer magnitude

/-- The number as a natural number of 64 bits, if it is an integer that is one. -/
def toNat? : Number → Option Nat
  | .integer value =>
      if 0 ≤ value ∧ value ≤ largestSignificand then some value.toNat else none
  | .double _ => none

/-- The bits of the single-precision value of the number. -/
def toSingleBits : Number → UInt32
  | .integer value =>
      if 0 ≤ value then value.toNat.toUInt64.toFloat32.toBits
      else (-((-value).toNat.toUInt64.toFloat32)).toBits
  | .double bits => (Float.ofBits bits).toFloat32.toBits

/-- The number rounded to a double. -/
def toDouble : Number → Float
  | .integer value =>
      if 0 ≤ value then value.toNat.toUInt64.toFloat else -((-value).toNat.toUInt64.toFloat)
  | .double bits => Float.ofBits bits

end Number

end VisualScript.Json
