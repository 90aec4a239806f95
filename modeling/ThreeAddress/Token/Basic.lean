import ThreeAddress.Numeral

/-!
# Tokens

The words of a source text: operator signs, the semicolon that ends a statement, numbers,
and the end of the text, which counts as a token of its own.
-/

namespace ThreeAddress

/-- What a token says. -/
inductive Symbol where
  | plus
  | times
  | semicolon
  | number (literal : Literal)
  | endOfInput
deriving DecidableEq

namespace Symbol

/-- The kinds of symbols. -/
inductive Kind where
  | plus
  | times
  | semicolon
  | number
  | endOfInput
deriving DecidableEq

/-- The kind of a symbol. -/
def kind : Symbol → Kind
  | plus => .plus
  | times => .times
  | semicolon => .semicolon
  | number _ => .number
  | endOfInput => .endOfInput

/-- Read the symbol at the start of a text: the symbol, its text and what follows. The text
starts neither with a blank nor at its end. -/
def scan? : List Char → Option (Symbol × List Char × List Char)
  | [] => none
  | c :: rest =>
      if c = '+' then some (plus, [c], rest)
      else if c = '*' then some (times, [c], rest)
      else if c = ';' then some (semicolon, [c], rest)
      else (Numeral.scan? (c :: rest)).map fun (numeral, rest) =>
        (number (Literal.ofNumeral numeral), numeral.text, rest)

/-- A symbol that was read is a sign of one character or a number. -/
theorem scan?_cases {input lexeme rest : List Char} {symbol : Symbol}
    (scanned : scan? input = some (symbol, lexeme, rest)) :
    (symbol = plus ∧ lexeme = ['+'] ∧ input = '+' :: rest) ∨
    (symbol = times ∧ lexeme = ['*'] ∧ input = '*' :: rest) ∨
    (symbol = semicolon ∧ lexeme = [';'] ∧ input = ';' :: rest) ∨
    ∃ numeral, Numeral.scan? input = some (numeral, rest) ∧
      symbol = number (Literal.ofNumeral numeral) ∧ lexeme = numeral.text := by
  cases input with
  | nil => simp [scan?] at scanned
  | cons c after =>
      by_cases isPlus : c = '+'
      · rw [scan?, if_pos isPlus] at scanned
        cases scanned
        exact .inl ⟨rfl, by rw [isPlus], by rw [isPlus]⟩
      · by_cases isTimes : c = '*'
        · rw [scan?, if_neg isPlus, if_pos isTimes] at scanned
          cases scanned
          exact .inr (.inl ⟨rfl, by rw [isTimes], by rw [isTimes]⟩)
        · by_cases isSemicolon : c = ';'
          · rw [scan?, if_neg isPlus, if_neg isTimes, if_pos isSemicolon] at scanned
            cases scanned
            exact .inr (.inr (.inl ⟨rfl, by rw [isSemicolon], by rw [isSemicolon]⟩))
          · rw [scan?, if_neg isPlus, if_neg isTimes, if_neg isSemicolon,
              Option.map_eq_some_iff] at scanned
            obtain ⟨⟨numeral, remaining⟩, read, found_eq⟩ := scanned
            cases found_eq
            exact .inr (.inr (.inr ⟨numeral, read, rfl, rfl⟩))

/-- Reading a symbol splits the text. -/
theorem append_eq_of_scan? {input lexeme rest : List Char} {symbol : Symbol}
    (scanned : scan? input = some (symbol, lexeme, rest)) : lexeme ++ rest = input := by
  rcases scan?_cases scanned with ⟨-, rfl, rfl⟩ | ⟨-, rfl, rfl⟩ | ⟨-, rfl, rfl⟩ | ⟨numeral, read, -, rfl⟩
  · rfl
  · rfl
  · rfl
  · exact Numeral.append_eq_of_scan? read

/-- A symbol that was read has a text. -/
theorem lexeme_ne_nil_of_scan? {input lexeme rest : List Char} {symbol : Symbol}
    (scanned : scan? input = some (symbol, lexeme, rest)) : lexeme ≠ [] := by
  rcases scan?_cases scanned with ⟨-, rfl, -⟩ | ⟨-, rfl, -⟩ | ⟨-, rfl, -⟩ | ⟨numeral, read, -, rfl⟩
  · simp
  · simp
  · simp
  · exact Numeral.text_ne_nil_of_scan? read

/-- The end of a text is not read as a symbol. -/
theorem symbol_ne_endOfInput_of_scan? {input lexeme rest : List Char} {symbol : Symbol}
    (scanned : scan? input = some (symbol, lexeme, rest)) : symbol ≠ endOfInput := by
  rcases scan?_cases scanned with ⟨rfl, -⟩ | ⟨rfl, -⟩ | ⟨rfl, -⟩ | ⟨numeral, -, rfl, -⟩
  · simp
  · simp
  · simp
  · simp

/-- Reading a symbol consumes some of the text. -/
theorem length_lt_of_scan? {input lexeme rest : List Char} {symbol : Symbol}
    (scanned : scan? input = some (symbol, lexeme, rest)) : rest.length < input.length := by
  have split := congrArg List.length (append_eq_of_scan? scanned)
  have nonempty := List.length_pos_iff.mpr (lexeme_ne_nil_of_scan? scanned)
  simp only [List.length_append] at split
  omega

end Symbol

/-- A symbol and where it stands, in bytes. -/
structure Token where
  symbol : Symbol
  offset : Nat
  length : Nat
deriving DecidableEq

end ThreeAddress
