/-!
# Classes of characters

A class of characters is a list of closed ranges of code points. The tables of the
properties that the library uses are stated in this form, and membership is a single
lookup, independent of which property a table describes.
-/

namespace ThreeAddress.Text

/-- A set of characters, given by closed ranges of code points. -/
abbrev CharClass := List (Nat × Nat)

namespace CharClass

/-- Whether some range of the class holds the character. -/
def contains (ranges : CharClass) (c : Char) : Bool :=
  ranges.any fun range => decide (range.1 ≤ c.toNat) && decide (c.toNat ≤ range.2)

theorem contains_eq_true_iff {ranges : CharClass} {c : Char} :
    ranges.contains c = true ↔ ∃ range ∈ ranges, range.1 ≤ c.toNat ∧ c.toNat ≤ range.2 := by
  simp [contains]

end CharClass

end ThreeAddress.Text
