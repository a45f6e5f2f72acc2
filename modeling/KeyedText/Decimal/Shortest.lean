/-!
# Shortest decimals

A binary number stands for all real numbers that round to it.  Its shortest decimal is the one
with the fewest digits among those; of several the nearest, and of two equally near ones the even
one.  The search is exact: it compares natural numbers only.
-/

namespace KeyedText
namespace Decimal

/-- A decimal: digits and the power of ten that they are multiplied with. -/
structure Scaled where
  /-- The digits, as a number. -/
  digits : Nat
  /-- The exponent of the power of ten. -/
  exponent : Int
deriving DecidableEq, Repr

/-- A positive binary number: `mantissa * 2 ^ exponent`. -/
structure Binary where
  /-- The mantissa. -/
  mantissa : Nat
  /-- The exponent of the power of two. -/
  exponent : Int
  /-- Whether the number below is only half as far as the number above. -/
  nearBelow : Bool
deriving DecidableEq, Repr

/-- The power of ten by which a non-negative exponent multiplies, or one. -/
def raised (base : Nat) (exponent : Int) : Nat :=
  Nat.pow base exponent.toNat

/-- A multiple of a quarter of the last place of a binary number, as a fraction of a power of
ten. -/
def Binary.quarters (number : Binary) (quarters : Nat) (ten : Int) : Nat × Nat :=
  let two := number.exponent - 2
  (quarters * raised 2 two * raised 10 (-ten), raised 2 (-two) * raised 10 ten)

/-- Whether a multiple of a power of ten rounds to a binary number. -/
def Binary.covers (number : Binary) (digits : Nat) (ten : Int) : Bool :=
  let middle := 4 * number.mantissa
  let (low, unit) := number.quarters (middle - if number.nearBelow then 1 else 2) ten
  let (high, _) := number.quarters (middle + 2) ten
  let point := digits * unit
  if number.mantissa % 2 == 0 then low ≤ point && point ≤ high else low < point && point < high

/-- The nearer of the two multiples of a power of ten around a binary number that rounds to it. -/
def Binary.onGrid? (number : Binary) (ten : Int) : Option Nat :=
  let (value, unit) := number.quarters (4 * number.mantissa) ten
  let below := value / unit
  let twice := 2 * (value % unit)
  let first :=
    if twice < unit || (twice == unit && below % 2 == 0) then below else below + 1
  let second := if first == below then below + 1 else below
  [first, second].find? fun digits => digits != 0 && number.covers digits ten

/-- The number of digits of a binary number in front of its point; not positive for numbers that
start with zeros behind the point. -/
def Binary.magnitude (number : Binary) : Int :=
  let exponents : List Int := (List.range 700).map fun index : Nat => Int.ofNat index - 340
  (exponents.find? fun ten =>
    let (value, unit) := number.quarters (4 * number.mantissa) ten
    value < unit).getD 0

/-- Drops the zeros at the end of the digits of a decimal, at most the given number of them. -/
def Scaled.withoutZeros (number : Scaled) : Nat → Scaled
  | 0 => number
  | bound + 1 =>
    if number.digits != 0 && number.digits % 10 == 0 then
      Scaled.withoutZeros ⟨number.digits / 10, number.exponent + 1⟩ bound
    else number

/-- The shortest decimal of a binary number. -/
def Binary.shortest (number : Binary) : Scaled :=
  let magnitude := number.magnitude
  let found := (List.range 18).findSome? fun length : Nat =>
    let ten := magnitude - Int.ofNat length
    (number.onGrid? ten).map fun digits => Scaled.mk digits ten
  (found.getD ⟨0, 0⟩).withoutZeros 20

/-- A positive number of double precision by its bits, without the sign. -/
def Binary.ofBits (bits : Nat) : Binary :=
  let exponent := bits / Nat.pow 2 52 % Nat.pow 2 11
  let fraction := bits % Nat.pow 2 52
  if exponent == 0 then ⟨fraction, -1074, false⟩
  else ⟨Nat.pow 2 52 + fraction, Int.ofNat exponent - 1075, fraction == 0 && exponent != 1⟩

end Decimal
end KeyedText
