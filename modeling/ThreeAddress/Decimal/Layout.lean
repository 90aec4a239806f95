import ThreeAddress.Decimal.Shortest

/-!
# Texts of doubles

The text of a double: its sign, then the digits of its shortest decimal, laid out
positionally or with an exponent. What an output decides about its numbers is one value
of `Layout`.
-/

namespace ThreeAddress.Decimal

/-- What an output decides about its numbers. -/
structure Layout where
  /-- Whether a number below `10 ^ point`, and no lower power of ten, is written without an
  exponent. -/
  positional : (point : Int) → Bool
  /-- What follows a whole number written without an exponent. -/
  whole : String

namespace Layout

/-- Digits without an exponent; the decimal point stands after `point` of them. -/
def place (layout : Layout) (digits : List Char) (point : Int) : String :=
  if point ≤ 0 then
    "0." ++ String.ofList (List.replicate (-point).toNat '0' ++ digits)
  else if point.toNat < digits.length then
    String.ofList (digits.take point.toNat ++ '.' :: digits.drop point.toNat)
  else
    String.ofList (digits ++ List.replicate (point.toNat - digits.length) '0') ++ layout.whole

/-- Digits with an exponent; one digit stands before the decimal point. -/
def exponential (digits : List Char) (point : Int) : String :=
  let significand := match digits with
    | first :: second :: rest => first :: '.' :: second :: rest
    | short => short
  String.ofList significand ++ "e" ++ toString (point - 1)

/-- The text of a positive finite double, `mantissa * 2 ^ exponent`. -/
def finite (layout : Layout) (mantissa : Nat) (exponent : Int) (narrow : Bool) : String :=
  let decimal := (Neighbourhood.ofBinary mantissa exponent narrow).shortest
  let digits := Nat.toDigits 10 decimal.coefficient
  let point := decimal.exponent + digits.length
  if layout.positional point then layout.place digits point else exponential digits point

/-- The text of a double without its sign, from the two fields of its bits. -/
def unsigned (layout : Layout) (biased fraction : Nat) : String :=
  if biased = 0x7FF then "inf"
  else if biased = 0 then
    if fraction = 0 then "0" ++ layout.whole else layout.finite fraction (-1074) false
  else
    layout.finite (Nat.pow 2 52 + fraction) ((biased : Int) - 1075) (fraction == 0 && 1 < biased)

/-- The text of a double. -/
def render (layout : Layout) (x : Float) : String :=
  let bits := x.toBits.toNat
  let biased := bits / Nat.pow 2 52 % Nat.pow 2 11
  let fraction := bits % Nat.pow 2 52
  if biased = 0x7FF ∧ fraction ≠ 0 then "NaN"
  else (if bits / Nat.pow 2 63 = 1 then "-" else "") ++ layout.unsigned biased fraction

end Layout

end ThreeAddress.Decimal
