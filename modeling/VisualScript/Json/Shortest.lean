import VisualScript.Json.Number

/-!
# The text of a number

A double is written with the fewest digits that read back as the same double,
and of those with the digits nearest to it. The search walks the decimal grids
of 1, 2, 3, ... digits and tests the two neighbours of the value on each, in
exact arithmetic.
-/

namespace VisualScript.Json

/-- A finite positive double as `mantissa * 2 ^ exponent`, with the information
whether the gap below it is half the gap above. -/
structure Binary where
  mantissa : Nat
  exponent : Int
  narrowBelow : Bool

namespace Binary

/-- The bit that a normal significand has in front of those that are stored: `2 ^ 52`. -/
def hiddenBit : Nat := 0x10000000000000

/-- Split the bits of a double, the sign left aside. -/
def ofBits (bits : UInt64) : Binary :=
  let fraction : Nat := bits.toNat % hiddenBit
  let biased : Nat := bits.toNat / hiddenBit % 2048
  if biased = 0 then ⟨fraction, -1074, false⟩
  else ⟨hiddenBit + fraction, (biased : Int) - 1075, fraction = 0 && 1 < biased⟩

/-- The number `n * 2 ^ shift * 10 ^ power` as a fraction: its numerator and denominator. -/
def fraction (n : Nat) (shift power : Int) : Nat × Nat :=
  (n * Nat.pow 2 shift.toNat * Nat.pow 10 power.toNat,
    Nat.pow 2 (-shift).toNat * Nat.pow 10 (-power).toNat)

/-- Whether `candidate * 10 ^ power` reads back as the double: it lies between
the midpoints to the neighbouring doubles, which belong to the even mantissa. -/
def admits (value : Binary) (candidate : Nat) (power : Int) : Bool :=
  let (num, den) := fraction 1 (-value.exponent) power
  let scaled := 4 * candidate * num
  let low := (4 * value.mantissa - (if value.narrowBelow then 1 else 2)) * den
  let high := (4 * value.mantissa + 2) * den
  if value.mantissa % 2 = 0 then low ≤ scaled && scaled ≤ high
  else low < scaled && scaled < high

/-- The exponent of the first decimal digit. -/
def decimalExponent (value : Binary) : Int :=
  let guess := Int.fdiv (((value.mantissa.log2 : Int) + value.exponent) * 30103) 100000
  let reaches (power : Int) : Bool :=
    let (num, den) := fraction value.mantissa value.exponent (-power)
    den ≤ num
  if reaches (guess + 1) then guess + 1 else if reaches guess then guess else guess - 1

/-- The digits of the value on the grid of the given number of digits, if a
point of the grid reads back: the nearer neighbour, the even one in a tie. -/
def onGrid? (value : Binary) (count : Nat) : Option (Nat × Int) :=
  let power := value.decimalExponent - (count - 1 : Nat)
  let (num, den) := fraction value.mantissa value.exponent (-power)
  let below := num / den
  let above := below + 1
  match value.admits below power, value.admits above power with
  | false, false => none
  | true, false => some (below, power)
  | false, true => some (above, power)
  | true, true =>
      let twice := 2 * (num % den)
      if twice < den ∨ twice = den ∧ below % 2 = 0 then some (below, power)
      else some (above, power)

/-- The shortest digits `(digits, power)` standing for `digits * 10 ^ power`. -/
def shortest (value : Binary) : Nat × Int :=
  ((List.range 17).findSome? fun n => value.onGrid? (n + 1)).getD (0, 0)

end Binary

namespace Number

/-- Exponents of the first digit that are written without an exponent. -/
def plainFrom : Int := -5

/-- See `plainFrom`. -/
def plainTo : Int := 15

/-- Drop the zeros at the end. -/
def dropZeros (digits : List Char) : List Char :=
  (digits.reverse.dropWhile (· = '0')).reverse

/-- Write digits whose first stands at the given decimal exponent. -/
def layout (digits : List Char) (exponent : Int) : List Char :=
  if exponent < plainFrom ∨ plainTo < exponent then
    let tail := digits.drop 1
    digits.take 1 ++ (if tail.isEmpty then [] else '.' :: tail) ++ ['e'] ++
      [if exponent < 0 then '-' else '+'] ++ (toString exponent.natAbs).toList
  else if exponent < 0 then
    "0.".toList ++ List.replicate (exponent.natAbs - 1) '0' ++ digits
  else
    let whole := exponent.toNat + 1
    let tail := digits.drop whole
    digits.take whole ++ List.replicate (whole - digits.length) '0' ++ ['.'] ++
      (if tail.isEmpty then ['0'] else tail)

/-- The bit that the sign of a double is in: `2 ^ 63`. -/
def signBit : Nat := 0x8000000000000000

/-- The text of a finite double. -/
def doubleText (bits : UInt64) : String :=
  let sign := if bits.toNat / signBit = 1 then ['-'] else []
  let value := Binary.ofBits bits
  if value.mantissa = 0 then String.ofList (sign ++ "0.0".toList)
  else
    let (significand, power) := value.shortest
    let written := (toString significand).toList
    String.ofList (sign ++ layout (dropZeros written) (power + (written.length - 1 : Nat)))

def text : Number → String
  | .integer value => toString value
  | .double bits => doubleText bits

end Number

end VisualScript.Json
