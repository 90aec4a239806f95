/-!
# Numerals and literals

A numeral is one or more decimal digits, optionally followed by a point and one or more
digits. A literal keeps the text of a numeral next to the double nearest to its value. The
same numerals are read in statements and in records.
-/

namespace ThreeAddress

/-- A numeral, by its digits before and after the point. A numeral without a point has no
digits after it. -/
structure Numeral where
  whole : List Char
  fraction : List Char
deriving DecidableEq

/-- The natural number that decimal digits stand for. -/
def ofDigits (digits : List Char) : Nat :=
  digits.foldl (fun value digit => 10 * value + (digit.toNat - '0'.toNat)) 0

namespace Numeral

/-- The numeral as it is written. -/
def text (numeral : Numeral) : List Char :=
  match numeral.fraction with
  | [] => numeral.whole
  | fraction => numeral.whole ++ '.' :: fraction

theorem text_of_fraction_nil {numeral : Numeral} (empty : numeral.fraction = []) :
    numeral.text = numeral.whole := by
  simp [text, empty]

theorem text_of_fraction_ne_nil {numeral : Numeral} (nonempty : numeral.fraction ≠ []) :
    numeral.text = numeral.whole ++ '.' :: numeral.fraction := by
  obtain ⟨whole, fraction⟩ := numeral
  cases fraction with
  | nil => exact absurd rfl nonempty
  | cons digit digits => rfl

/-- The double nearest to the numeral's value, the even one of two; beyond the largest double
it is infinite. -/
def value (numeral : Numeral) : Float :=
  Float.ofScientific (ofDigits (numeral.whole ++ numeral.fraction)) true numeral.fraction.length

/-- Read the longest numeral at the start of a text, and what follows it. A point belongs to
the numeral only if a digit follows. -/
def scan? (text : List Char) : Option (Numeral × List Char) :=
  let whole := text.takeWhile Char.isDigit
  let rest := text.dropWhile Char.isDigit
  if whole = [] then none
  else if rest.head? = some '.' then
    let fraction := rest.tail.takeWhile Char.isDigit
    if fraction = [] then some (⟨whole, []⟩, rest)
    else some (⟨whole, fraction⟩, rest.tail.dropWhile Char.isDigit)
  else some (⟨whole, []⟩, rest)

/-- A numeral that was read has the digits at the start of the text. Without a point and digits
behind it, it has no others. -/
theorem scan?_cases {input rest : List Char} {numeral : Numeral}
    (scanned : scan? input = some (numeral, rest)) :
    numeral.whole = input.takeWhile Char.isDigit ∧ numeral.whole ≠ [] ∧
      ((numeral.fraction = [] ∧ rest = input.dropWhile Char.isDigit) ∨
        ∃ after, input.dropWhile Char.isDigit = '.' :: after ∧
          numeral.fraction = after.takeWhile Char.isDigit ∧ numeral.fraction ≠ [] ∧
          rest = after.dropWhile Char.isDigit) := by
  by_cases digits : input.takeWhile Char.isDigit = []
  · simp [scan?, digits] at scanned
  · by_cases point : (input.dropWhile Char.isDigit).head? = some '.'
    · obtain ⟨after, after_eq⟩ := List.head?_eq_some_iff.mp point
      by_cases fraction : after.takeWhile Char.isDigit = []
      · simp only [scan?, digits, if_false, after_eq, List.head?_cons, if_true, List.tail_cons,
          fraction, Option.some.injEq, Prod.mk.injEq] at scanned
        obtain ⟨rfl, rfl⟩ := scanned
        exact ⟨rfl, digits, .inl ⟨rfl, after_eq.symm⟩⟩
      · simp only [scan?, digits, if_false, after_eq, List.head?_cons, if_true, List.tail_cons,
          fraction, Option.some.injEq, Prod.mk.injEq] at scanned
        obtain ⟨rfl, rfl⟩ := scanned
        exact ⟨rfl, digits, .inr ⟨after, after_eq, rfl, fraction, rfl⟩⟩
    · simp only [scan?, digits, if_false, point, Option.some.injEq, Prod.mk.injEq] at scanned
      obtain ⟨rfl, rfl⟩ := scanned
      exact ⟨rfl, digits, .inl ⟨rfl, rfl⟩⟩

/-- Reading a numeral splits the text. -/
theorem append_eq_of_scan? {input rest : List Char} {numeral : Numeral}
    (scanned : scan? input = some (numeral, rest)) : numeral.text ++ rest = input := by
  have split := List.takeWhile_append_dropWhile (p := Char.isDigit) (l := input)
  obtain ⟨whole, fraction⟩ := numeral
  rcases scan?_cases scanned with
    ⟨rfl, -, ⟨rfl, rfl⟩ | ⟨after, after_eq, rfl, someDigits, rfl⟩⟩
  · exact split
  · have split_after := List.takeWhile_append_dropWhile (p := Char.isDigit) (l := after)
    rw [text_of_fraction_ne_nil someDigits, List.append_assoc, List.cons_append, split_after,
      ← after_eq, split]

/-- A numeral that was read has at least one digit. -/
theorem text_ne_nil_of_scan? {input rest : List Char} {numeral : Numeral}
    (scanned : scan? input = some (numeral, rest)) : numeral.text ≠ [] := by
  obtain ⟨-, someDigits, -⟩ := scan?_cases scanned
  cases fraction_eq : numeral.fraction with
  | nil =>
      rw [text_of_fraction_nil fraction_eq]
      exact someDigits
  | cons digit digits =>
      rw [text_of_fraction_ne_nil (by simp [fraction_eq])]
      simp

end Numeral

/-- A number in an instruction: its text and its value. -/
structure Literal where
  text : String
  value : Float
deriving DecidableEq

namespace Literal

/-- The literal that a numeral stands for. -/
def ofNumeral (numeral : Numeral) : Literal :=
  ⟨String.ofList numeral.text, numeral.value⟩

/-- Read the longest literal at the start of a text, and what follows it. -/
def scan? (text : List Char) : Option (Literal × List Char) :=
  (Numeral.scan? text).map fun (numeral, rest) => (ofNumeral numeral, rest)

/-- Read a text that is a literal and nothing else. -/
def ofText? (text : List Char) : Option Literal :=
  match scan? text with
  | some (literal, []) => some literal
  | _ => none

end Literal

end ThreeAddress
