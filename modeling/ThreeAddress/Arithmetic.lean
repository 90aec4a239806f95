import ThreeAddress.Decimal.Layout
import ThreeAddress.Numeral

/-!
# Arithmetic

What a machine has to know of its values: what numerals and literals stand for, two
operations, and how a value is written. No law is asked of the operations, so a result says
which of them were applied, to what and in which order. Programs are run on doubles.
-/

namespace ThreeAddress

/-- Values that a machine can compute with. -/
class Arithmetic (V : Type) where
  /-- What a register holds at first. -/
  zero : V
  /-- The value of a numeral. -/
  ofNumeral : Numeral → V
  /-- The value that a literal comes with. -/
  ofLiteral : Literal → V
  add : V → V → V
  multiply : V → V → V
  /-- A value as the log shows it. -/
  text : V → String
  /-- A literal that was read comes with the value of its numeral. -/
  ofLiteral_ofNumeral : ∀ numeral, ofLiteral (.ofNumeral numeral) = ofNumeral numeral

/-- Register contents always show a decimal point or an exponent, and the exponent is left out
from a ten-thousandth up to below ten to the sixteenth. -/
def registerLayout : Decimal.Layout where
  positional point := decide (-4 < point) && decide (point ≤ 16)
  whole := ".0"

instance : Arithmetic Float where
  zero := 0
  ofNumeral := Numeral.value
  ofLiteral := Literal.value
  add left right := left + right
  multiply left right := left * right
  text := registerLayout.render
  ofLiteral_ofNumeral _ := rfl

end ThreeAddress
