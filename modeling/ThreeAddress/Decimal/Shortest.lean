/-!
# Shortest decimals

Every finite double is the only one near enough to some short decimal. This module finds
the decimal with the fewest digits that reads back as a given double, by exact arithmetic
on natural numbers. How the digits are laid out as text is decided elsewhere.
-/

namespace ThreeAddress.Decimal

/-- The reals that read back as one positive double, all in multiples of `1 / unit`: those
between `low` and `high`, the ends included if `closed`. The double itself is `value`. -/
structure Neighbourhood where
  low : Nat
  value : Nat
  high : Nat
  unit : Nat
  closed : Bool

/-- A decimal number, `coefficient * 10 ^ exponent`. -/
structure Scaled where
  coefficient : Nat
  exponent : Int
deriving DecidableEq

/-- The number of decimal digits of a natural number. -/
def digitCount (n : Nat) : Nat :=
  (Nat.toDigits 10 n).length

namespace Neighbourhood

/-- The neighbourhood of `mantissa * 2 ^ exponent`. It reaches half way to the doubles next to
it; the one below is only half as far away if `narrow`. The ends belong to the double whose
mantissa is even. -/
def ofBinary (mantissa : Nat) (exponent : Int) (narrow : Bool) : Neighbourhood :=
  let scale := Nat.pow 2 exponent.toNat
  { low := (4 * mantissa - if narrow then 1 else 2) * scale
    value := 4 * mantissa * scale
    high := (4 * mantissa + 2) * scale
    unit := 4 * Nat.pow 2 (-exponent).toNat
    closed := mantissa % 2 == 0 }

/-- Whether a decimal reads back as the double of the neighbourhood. -/
def contains (near : Neighbourhood) (decimal : Scaled) : Bool :=
  let point := decimal.coefficient * Nat.pow 10 decimal.exponent.toNat * near.unit
  let scale := Nat.pow 10 (-decimal.exponent).toNat
  if near.closed then near.low * scale ≤ point && point ≤ near.high * scale
  else near.low * scale < point && point < near.high * scale

/-- The least exponent whose power of ten lies above the double. -/
def magnitude (near : Neighbourhood) : Int :=
  if near.unit ≤ near.value then
    digitCount (near.value / near.unit)
  else
    1 - (digitCount (near.unit / near.value) : Int)

/-- The nearest decimal with the given exponent that reads back as the double, if there is
one. Of two that are equally near, the larger is taken. -/
def nearest? (near : Neighbourhood) (exponent : Int) : Option Scaled :=
  let numerator := near.value * Nat.pow 10 (-exponent).toNat
  let denominator := near.unit * Nat.pow 10 exponent.toNat
  let below : Scaled := ⟨numerator / denominator, exponent⟩
  let above : Scaled := ⟨numerator / denominator + 1, exponent⟩
  match near.contains below, near.contains above with
  | true, true =>
      if 2 * numerator < (2 * below.coefficient + 1) * denominator then some below
      else some above
  | true, false => some below
  | false, true => some above
  | false, false => none

/-- All digits of the double. -/
def exact (near : Neighbourhood) : Scaled :=
  let places := near.unit.log2
  ⟨near.value * Nat.pow 5 places, -places⟩

end Neighbourhood

/-- A decimal without trailing zeros in its coefficient. -/
def Scaled.strip (decimal : Scaled) : Scaled :=
  if decimal.coefficient = 0 ∨ decimal.coefficient % 10 ≠ 0 then decimal
  else strip ⟨decimal.coefficient / 10, decimal.exponent + 1⟩
termination_by decimal.coefficient
decreasing_by omega

/-- The shortest decimal that reads back as the double of a neighbourhood: one of seventeen
digits always does. -/
def Neighbourhood.shortest (near : Neighbourhood) : Scaled :=
  let attempts := (List.range 17).map fun digits => near.magnitude - ((digits : Nat) + 1 : Int)
  ((attempts.findSome? near.nearest?).getD near.exact).strip

end ThreeAddress.Decimal
