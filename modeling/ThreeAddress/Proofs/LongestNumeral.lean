import ThreeAddress.Numeral

/-!
# The grammar of numerals and its longest matches

A numeral is proper when it is derived as one or more digits, optionally followed by a point
and one or more digits.  This module compares the reader of numerals with that grammar alone:
it reads exactly at texts that start with a digit, and what it reads is the longest text of a
proper numeral that starts there.  Nothing here depends on tokens, lines or records.
-/

namespace ThreeAddress.Numeral

/-- The numeral is derived by the grammar: digits, and after a point digits again.  A numeral
without a point has no digits after it. -/
structure Proper (numeral : Numeral) : Prop where
  whole_ne_nil : numeral.whole ≠ []
  whole_digits : ∀ c ∈ numeral.whole, c.isDigit = true
  fraction_digits : ∀ c ∈ numeral.fraction, c.isDigit = true

instance (numeral : Numeral) : Decidable numeral.Proper :=
  decidable_of_iff (numeral.whole ≠ [] ∧ numeral.whole.all Char.isDigit = true ∧
      numeral.fraction.all Char.isDigit = true) <| by
    rw [List.all_eq_true, List.all_eq_true]
    constructor
    · rintro ⟨whole_ne_nil, whole_digits, fraction_digits⟩
      exact ⟨whole_ne_nil, whole_digits, fraction_digits⟩
    · intro proper
      exact ⟨proper.whole_ne_nil, proper.whole_digits, proper.fraction_digits⟩

/-- No text of a proper numeral at the start of the input is longer. -/
def LongestIn (numeral : Numeral) (input : List Char) : Prop :=
  ∀ other : Numeral, other.Proper → other.text <+: input →
    other.text.length ≤ numeral.text.length

theorem whole_prefix_text (numeral : Numeral) : numeral.whole <+: numeral.text := by
  by_cases empty : numeral.fraction = []
  · exact ⟨[], by rw [text_of_fraction_nil empty, List.append_nil]⟩
  · rw [text_of_fraction_ne_nil empty]
    exact List.prefix_append _ _

private theorem digits_takeWhile (input : List Char) :
    ∀ c ∈ input.takeWhile Char.isDigit, c.isDigit = true := by
  intro c member
  exact List.all_eq_true.mp List.all_takeWhile c member

private theorem point_not_digit : ¬ '.'.isDigit = true := by decide

namespace Proper

variable {numeral other : Numeral}

theorem text_ne_nil (proper : numeral.Proper) : numeral.text ≠ [] := by
  intro empty
  have shorter := (whole_prefix_text numeral).length_le
  rw [empty] at shorter
  exact proper.whole_ne_nil (List.eq_nil_of_length_eq_zero (Nat.le_zero.mp shorter))

/-- A proper numeral starts with a digit. -/
theorem exists_digit_cons (proper : numeral.Proper) :
    ∃ digit rest, numeral.text = digit :: rest ∧ digit.isDigit = true := by
  obtain ⟨after, after_eq⟩ := whole_prefix_text numeral
  cases whole_eq : numeral.whole with
  | nil => exact absurd whole_eq proper.whole_ne_nil
  | cons digit rest =>
      refine ⟨digit, rest ++ after, ?_, proper.whole_digits digit (by simp [whole_eq])⟩
      rw [← after_eq, whole_eq]
      rfl

/-- Every character of a proper numeral is a digit or the point. -/
theorem digit_or_point (proper : numeral.Proper) {c : Char} (member : c ∈ numeral.text) :
    c.isDigit = true ∨ c = '.' := by
  by_cases empty : numeral.fraction = []
  · rw [text_of_fraction_nil empty] at member
    exact .inl (proper.whole_digits c member)
  · rw [text_of_fraction_ne_nil empty, List.mem_append, List.mem_cons] at member
    rcases member with inWhole | isPoint | inFraction
    · exact .inl (proper.whole_digits c inWhole)
    · exact .inr isPoint
    · exact .inl (proper.fraction_digits c inFraction)

/-- The digits before the point are the digits at the start of the text. -/
theorem takeWhile_text (proper : numeral.Proper) :
    numeral.text.takeWhile Char.isDigit = numeral.whole := by
  by_cases empty : numeral.fraction = []
  · have taken : (numeral.whole ++ []).takeWhile Char.isDigit = numeral.whole ++ [] :=
      List.takeWhile_append_of_pos proper.whole_digits
    simpa [text_of_fraction_nil empty] using taken
  · rw [text_of_fraction_ne_nil empty, List.takeWhile_append_of_pos proper.whole_digits,
      List.takeWhile_cons_of_neg point_not_digit, List.append_nil]

/-- The text of a proper numeral determines it. -/
theorem eq_of_text_eq (proper : numeral.Proper) (otherProper : other.Proper)
    (same : numeral.text = other.text) : numeral = other := by
  have wholeEq : numeral.whole = other.whole := by
    rw [← proper.takeWhile_text, ← otherProper.takeWhile_text, same]
  have fractionEq : numeral.fraction = other.fraction := by
    by_cases empty : numeral.fraction = [] <;> by_cases otherEmpty : other.fraction = []
    · rw [empty, otherEmpty]
    · rw [text_of_fraction_nil empty, text_of_fraction_ne_nil otherEmpty, wholeEq] at same
      simp at same
    · rw [text_of_fraction_ne_nil empty, text_of_fraction_nil otherEmpty, wholeEq] at same
      simp at same
    · rw [text_of_fraction_ne_nil empty, text_of_fraction_ne_nil otherEmpty, wholeEq] at same
      simpa using same
  obtain ⟨whole, fraction⟩ := numeral
  cases wholeEq
  cases fractionEq
  rfl

end Proper

/-! ## What the reader reads -/

/-- The reader reads at a text that starts with a digit. -/
theorem exists_scan?_of_digit {digit : Char} (isDigit : digit.isDigit = true)
    (input : List Char) :
    ∃ numeral rest, scan? (digit :: input) = some (numeral, rest) := by
  have nonempty : (digit :: input).takeWhile Char.isDigit ≠ [] := by
    simp [List.takeWhile_cons_of_pos isDigit]
  simp only [scan?, if_neg nonempty]
  split
  · split
    · exact ⟨_, _, rfl⟩
    · exact ⟨_, _, rfl⟩
  · exact ⟨_, _, rfl⟩

/-- What the reader reads is derived by the grammar. -/
theorem proper_of_scan? {input rest : List Char} {numeral : Numeral}
    (scanned : scan? input = some (numeral, rest)) : numeral.Proper := by
  obtain ⟨whole, fraction⟩ := numeral
  rcases scan?_cases scanned with ⟨rfl, nonempty, ⟨rfl, -⟩ | ⟨after, -, rfl, -, -⟩⟩
  · exact ⟨nonempty, digits_takeWhile input, by simp⟩
  · exact ⟨nonempty, digits_takeWhile input, digits_takeWhile after⟩

private theorem digits_length_le_takeWhile {digits input : List Char}
    (allDigits : ∀ c ∈ digits, c.isDigit = true) (starts : digits <+: input) :
    digits.length ≤ (input.takeWhile Char.isDigit).length := by
  obtain ⟨after, rfl⟩ := starts
  rw [List.takeWhile_append_of_pos allDigits, List.length_append]
  exact Nat.le_add_right _ _

/-- The digits before the point that the reader reads are all that stand there. -/
private theorem takeWhile_length_le_of_scan? {input rest : List Char} {numeral : Numeral}
    (scanned : scan? input = some (numeral, rest)) :
    (input.takeWhile Char.isDigit).length ≤ numeral.text.length := by
  rw [← (scan?_cases scanned).1]
  exact (whole_prefix_text numeral).length_le

/-- After digits and a point, the reader takes the point if a digit follows it, and then all
digits that follow. -/
private theorem scan?_of_point {whole fraction after : List Char} (nonempty : whole ≠ [])
    (wholeDigits : ∀ c ∈ whole, c.isDigit = true) (someFraction : fraction ≠ [])
    (fractionDigits : ∀ c ∈ fraction, c.isDigit = true) :
    scan? (whole ++ '.' :: (fraction ++ after)) =
      some (⟨whole, fraction ++ after.takeWhile Char.isDigit⟩, after.dropWhile Char.isDigit) := by
  have taken : (whole ++ '.' :: (fraction ++ after)).takeWhile Char.isDigit = whole := by
    rw [List.takeWhile_append_of_pos wholeDigits, List.takeWhile_cons_of_neg point_not_digit,
      List.append_nil]
  have dropped : (whole ++ '.' :: (fraction ++ after)).dropWhile Char.isDigit =
      '.' :: (fraction ++ after) := by
    rw [List.dropWhile_append_of_pos wholeDigits, List.dropWhile_cons_of_neg point_not_digit]
  simp [scan?, taken, dropped, nonempty, someFraction,
    List.takeWhile_append_of_pos fractionDigits, List.dropWhile_append_of_pos fractionDigits]

/-- The reader reads the longest numeral. -/
theorem longestIn_of_scan? {input rest : List Char} {numeral : Numeral}
    (scanned : scan? input = some (numeral, rest)) : numeral.LongestIn input := by
  intro other otherProper starts
  by_cases empty : other.fraction = []
  · rw [text_of_fraction_nil empty] at starts ⊢
    exact Nat.le_trans (digits_length_le_takeWhile otherProper.whole_digits starts)
      (takeWhile_length_le_of_scan? scanned)
  · rw [text_of_fraction_ne_nil empty] at starts ⊢
    obtain ⟨after, rfl⟩ := starts
    rw [List.append_assoc, List.cons_append, scan?_of_point otherProper.whole_ne_nil
      otherProper.whole_digits empty otherProper.fraction_digits] at scanned
    simp only [Option.some.injEq, Prod.mk.injEq] at scanned
    obtain ⟨rfl, -⟩ := scanned
    rw [text_of_fraction_ne_nil (by simp [empty])]
    simp only [List.length_append, List.length_cons]
    omega

/-- The reader is determined by the grammar: it reads a proper numeral if and only if that is
the longest at the start of the text. -/
theorem scan?_eq_some_iff {input rest : List Char} {numeral : Numeral} :
    scan? input = some (numeral, rest) ↔
      numeral.Proper ∧ input = numeral.text ++ rest ∧ numeral.LongestIn input := by
  constructor
  · intro scanned
    exact ⟨proper_of_scan? scanned, (append_eq_of_scan? scanned).symm, longestIn_of_scan? scanned⟩
  · rintro ⟨proper, rfl, longest⟩
    obtain ⟨digit, tail, text_eq, isDigit⟩ := proper.exists_digit_cons
    obtain ⟨found, after, scanned⟩ := exists_scan?_of_digit isDigit (tail ++ rest)
    rw [← List.cons_append, ← text_eq] at scanned
    have foundProper := proper_of_scan? scanned
    have split := append_eq_of_scan? scanned
    -- Each of the two is at least as long as the other, and both start the same text.
    have sameLength : found.text.length = numeral.text.length := by
      apply Nat.le_antisymm
      · exact longest found foundProper ⟨after, split⟩
      · exact longestIn_of_scan? scanned numeral proper (List.prefix_append _ _)
    obtain ⟨sameText, rfl⟩ := List.append_inj split sameLength
    rw [scanned, foundProper.eq_of_text_eq proper sameText]

/-! ## What follows a numeral -/

/-- No numeral goes on into the text: it starts neither with a digit nor with a point. -/
def EndsBefore (rest : List Char) : Prop :=
  ∀ c, rest.head? = some c → c.isDigit = false ∧ c ≠ '.'

/-- Where no numeral goes on, a numeral in front is the longest. -/
theorem Proper.longestIn_append {numeral : Numeral} (proper : numeral.Proper) {rest : List Char}
    (ends : EndsBefore rest) : numeral.LongestIn (numeral.text ++ rest) := by
  have noDigits :
      rest.takeWhile Char.isDigit = [] ∧ rest.dropWhile Char.isDigit = rest ∧
        rest.head? ≠ some '.' := by
    cases rest with
    | nil => simp
    | cons c rest =>
        obtain ⟨notDigit, notPoint⟩ := ends c rfl
        simp [notDigit, notPoint]
  obtain ⟨taken, dropped, notPoint⟩ := noDigits
  suffices read : scan? (numeral.text ++ rest) = some (numeral, rest) by
    exact longestIn_of_scan? read
  by_cases empty : numeral.fraction = []
  · rw [text_of_fraction_nil empty]
    simp only [scan?, List.takeWhile_append_of_pos proper.whole_digits,
      List.dropWhile_append_of_pos proper.whole_digits, taken, dropped, List.append_nil,
      if_neg proper.whole_ne_nil, if_neg notPoint]
    rw [← empty]
  · rw [text_of_fraction_ne_nil empty, List.append_assoc, List.cons_append,
      scan?_of_point proper.whole_ne_nil proper.whole_digits empty proper.fraction_digits, taken,
      dropped, List.append_nil]

/-- The reader leaves no digit behind. -/
theorem not_digit_of_scan? {input rest : List Char} {numeral : Numeral} {c : Char}
    (scanned : scan? input = some (numeral, c :: rest)) : c.isDigit = false := by
  have stops : ∀ text : List Char, text.dropWhile Char.isDigit = c :: rest → c.isDigit = false := by
    intro text remaining
    have first := List.head?_dropWhile_not Char.isDigit text
    simpa [remaining] using first
  rcases scan?_cases scanned with ⟨-, -, ⟨-, rest_eq⟩ | ⟨after, -, -, -, rest_eq⟩⟩
  · exact stops input rest_eq.symm
  · exact stops after rest_eq.symm

end ThreeAddress.Numeral
