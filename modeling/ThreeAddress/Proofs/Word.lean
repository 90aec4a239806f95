import ThreeAddress.Proofs.LongestNumeral
import ThreeAddress.Text.Blank
import ThreeAddress.Token.Basic

/-!
# Words

The words of the source language: three signs and the proper numerals.  A word knows its text
and its symbol, and nothing of where it stands.  The reader of symbols is compared with the
words alone: it reads the longest word at the start of a text, and fails exactly where no word
starts.
-/

namespace ThreeAddress

/-- A digit is not blank. -/
theorem Text.isBlank_eq_false_of_digit {c : Char} (isDigit : c.isDigit = true) :
    Text.isBlank c = false := by
  rw [Bool.eq_false_iff]
  intro blank
  simp only [Char.isDigit, Bool.and_eq_true, decide_eq_true_eq, ge_iff_le,
    UInt32.le_iff_toNat_le] at isDigit
  have lower : 48 ≤ c.toNat := isDigit.1
  have upper : c.toNat ≤ 57 := isDigit.2
  obtain ⟨range, member, inRange⟩ := Text.CharClass.contains_eq_true_iff.mp blank
  simp only [Text.blankRanges, List.mem_cons, List.not_mem_nil, or_false] at member
  rcases member with rfl | rfl | rfl | rfl | rfl | rfl | rfl | rfl | rfl | rfl <;>
    simp only at inRange <;> omega

/-- A numeral of the grammar. -/
abbrev Number := { numeral : Numeral // numeral.Proper }

namespace Number

/-- The number as it is written. -/
def text (number : Number) : List Char :=
  number.val.text

/-- The literal that an instruction quotes. -/
def literal (number : Number) : Literal :=
  Literal.ofNumeral number.val

end Number

/-- A word of the source language. -/
inductive Word where
  | plus
  | times
  | semicolon
  | number (value : Number)

namespace Word

/-- The word as it is written. -/
def text : Word → List Char
  | plus => ['+']
  | times => ['*']
  | semicolon => [';']
  | number value => value.text

/-- What the word says. -/
def symbol : Word → Symbol
  | plus => .plus
  | times => .times
  | semicolon => .semicolon
  | number value => .number value.literal

/-- No word at the start of the input is longer. -/
def LongestIn (word : Word) (input : List Char) : Prop :=
  ∀ other : Word, other.text <+: input → other.text.length ≤ word.text.length

@[simp] theorem symbol_ne_endOfInput (word : Word) : word.symbol ≠ .endOfInput := by
  cases word <;> simp [symbol]

/-- What a word says determines it. -/
theorem symbol_injective : Function.Injective symbol := by
  intro word other same
  cases word with
  | number value =>
      cases other with
      | number otherValue =>
          simp only [symbol, Number.literal, Literal.ofNumeral, Symbol.number.injEq,
            Literal.mk.injEq, String.ofList_inj] at same
          rw [Subtype.ext (value.property.eq_of_text_eq otherValue.property same.1)]
      | plus | times | semicolon => simp [symbol] at same
  | plus | times | semicolon => cases other <;> simp [symbol] at same ⊢

/-- A word starts with a sign or with a digit. -/
theorem exists_cons (word : Word) :
    ∃ c rest, word.text = c :: rest ∧ (c = '+' ∨ c = '*' ∨ c = ';' ∨ c.isDigit = true) := by
  cases word with
  | plus => exact ⟨'+', [], rfl, .inl rfl⟩
  | times => exact ⟨'*', [], rfl, .inr (.inl rfl)⟩
  | semicolon => exact ⟨';', [], rfl, .inr (.inr (.inl rfl))⟩
  | number number =>
      obtain ⟨digit, rest, text_eq, isDigit⟩ := number.property.exists_digit_cons
      exact ⟨digit, rest, text_eq, .inr (.inr (.inr isDigit))⟩

/-- No word starts with a blank. -/
theorem exists_cons_not_blank (word : Word) :
    ∃ c rest, word.text = c :: rest ∧ Text.isBlank c = false := by
  obtain ⟨c, rest, text_eq, first⟩ := word.exists_cons
  refine ⟨c, rest, text_eq, ?_⟩
  rcases first with rfl | rfl | rfl | isDigit
  · decide
  · decide
  · decide
  · exact Text.isBlank_eq_false_of_digit isDigit

/-! ## What the reader of symbols reads -/

/-- At a sign there is no word but the sign. -/
private theorem length_le_one_of_prefix {sign : Char} {rest : List Char} (word : Word)
    (notDigit : sign.isDigit = false) (starts : word.text <+: sign :: rest) :
    word.text.length ≤ 1 := by
  cases word with
  | plus | times | semicolon => simp [text]
  | number number =>
      obtain ⟨digit, tail, text_eq, isDigit⟩ := number.property.exists_digit_cons
      have starts : number.val.text <+: sign :: rest := starts
      rw [text_eq, List.cons_prefix_cons] at starts
      rw [starts.1, notDigit] at isDigit
      contradiction

/-- Among the words, a number competes with numbers only. -/
theorem longestIn_number_iff {number : Number} {rest : List Char} :
    (Word.number number).LongestIn (number.text ++ rest) ↔
      number.val.LongestIn (number.text ++ rest) := by
  constructor
  · intro longest other proper starts
    exact longest (.number ⟨other, proper⟩) starts
  · intro longest other starts
    cases other with
    | number other => exact longest other.val other.property starts
    | plus | times | semicolon =>
        exact List.length_pos_iff.mpr number.property.text_ne_nil

/-- The word does not go on into the text.  Only a number can. -/
def EndsBefore : Word → List Char → Prop
  | number _, rest => Numeral.EndsBefore rest
  | _, _ => True

/-- A word that does not go on is the longest where it stands. -/
theorem EndsBefore.longestIn {word : Word} {rest : List Char} (ends : word.EndsBefore rest) :
    word.LongestIn (word.text ++ rest) := by
  cases word with
  | number number => exact longestIn_number_iff.mpr (number.property.longestIn_append ends)
  | plus | times | semicolon => exact fun other => other.length_le_one_of_prefix (by decide)

/-- The reader of symbols is determined by the words. -/
theorem scan?_eq_some_iff {input lexeme rest : List Char} {symbol : Symbol} :
    Symbol.scan? input = some (symbol, lexeme, rest) ↔
      ∃ word : Word, word.symbol = symbol ∧ word.text = lexeme ∧
        input = word.text ++ rest ∧ word.LongestIn input := by
  constructor
  · intro scanned
    have split := Symbol.append_eq_of_scan? scanned
    rcases Symbol.scan?_cases scanned with
      ⟨rfl, rfl, rfl⟩ | ⟨rfl, rfl, rfl⟩ | ⟨rfl, rfl, rfl⟩ | ⟨numeral, read, rfl, rfl⟩
    · exact ⟨plus, rfl, rfl, rfl, fun other => other.length_le_one_of_prefix (by decide)⟩
    · exact ⟨times, rfl, rfl, rfl, fun other => other.length_le_one_of_prefix (by decide)⟩
    · exact ⟨semicolon, rfl, rfl, rfl, fun other => other.length_le_one_of_prefix (by decide)⟩
    · obtain ⟨proper, rfl, longest⟩ := Numeral.scan?_eq_some_iff.mp read
      exact ⟨number ⟨numeral, proper⟩, rfl, rfl, rfl, longestIn_number_iff.mpr longest⟩
  · rintro ⟨word, rfl, rfl, rfl, longest⟩
    cases word with
    | plus => rfl
    | times => rfl
    | semicolon => rfl
    | number number =>
        have read := Numeral.scan?_eq_some_iff.mpr
          ⟨number.property, rfl, longestIn_number_iff.mp longest⟩
        obtain ⟨digit, tail, text_eq, isDigit⟩ := number.property.exists_digit_cons
        have notPlus : digit ≠ '+' := by rintro rfl; contradiction
        have notTimes : digit ≠ '*' := by rintro rfl; contradiction
        have notSemicolon : digit ≠ ';' := by rintro rfl; contradiction
        simp only [text_eq, List.cons_append] at read
        simp only [text, Number.text, text_eq, List.cons_append, Symbol.scan?, if_neg notPlus,
          if_neg notTimes, if_neg notSemicolon, read]
        simp [symbol, Number.literal, text_eq]

/-- A word is the longest if and only if its text is what is read. -/
theorem longestIn_iff_scan? {word : Word} {rest : List Char} :
    word.LongestIn (word.text ++ rest) ↔
      (Symbol.scan? (word.text ++ rest)).map (fun read => read.2.1) = some word.text := by
  constructor
  · intro longest
    rw [scan?_eq_some_iff.mpr ⟨word, rfl, rfl, rfl, longest⟩]
    rfl
  · intro read other starts
    obtain ⟨⟨symbol, lexeme, after⟩, scanned, rfl⟩ := Option.map_eq_some_iff.mp read
    obtain ⟨longestWord, -, same, -, longest⟩ := scan?_eq_some_iff.mp scanned
    exact same ▸ longest other starts

instance (word : Word) (rest : List Char) : Decidable (word.LongestIn (word.text ++ rest)) :=
  decidable_of_iff _ longestIn_iff_scan?.symm

/-- The reader of symbols fails at a text that is not empty if and only if no word starts
there. -/
theorem scan?_eq_none_iff {input : List Char} :
    Symbol.scan? input = none ↔ ∀ word : Word, ¬ word.text <+: input := by
  constructor
  · intro failed word starts
    obtain ⟨rest, rfl⟩ := starts
    obtain ⟨c, tail, text_eq, first⟩ := word.exists_cons
    rw [text_eq, List.cons_append] at failed
    rcases first with rfl | rfl | rfl | isDigit
    · simp [Symbol.scan?] at failed
    · simp [Symbol.scan?] at failed
    · simp [Symbol.scan?] at failed
    · obtain ⟨numeral, after, read⟩ := Numeral.exists_scan?_of_digit isDigit (tail ++ rest)
      by_cases isPlus : c = '+'
      · simp [Symbol.scan?, isPlus] at failed
      · by_cases isTimes : c = '*'
        · simp [Symbol.scan?, isTimes] at failed
        · by_cases isSemicolon : c = ';'
          · simp [Symbol.scan?, isSemicolon] at failed
          · simp [Symbol.scan?, isPlus, isTimes, isSemicolon, read] at failed
  · intro noWord
    cases found : Symbol.scan? input with
    | none => rfl
    | some result =>
        obtain ⟨symbol, lexeme, rest⟩ := result
        obtain ⟨word, -, -, rfl, -⟩ := scan?_eq_some_iff.mp found
        exact absurd (List.prefix_append _ _) (noWord word)

end Word

end ThreeAddress
