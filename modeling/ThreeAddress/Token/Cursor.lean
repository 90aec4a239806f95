import ThreeAddress.Text.Blank
import ThreeAddress.Text.Bytes
import ThreeAddress.Token.Basic

/-!
# Scanning a source text

A cursor is a position in the sequence of scans of one text. It shows the text of the latest
scan, where that text starts, and what is left. Each scan yields a token or finds a
character that starts none; the cursor then stands on that character, and the next scan
goes on behind it. The main statement is that a scan before the end of the text consumes
some of it.
-/

namespace ThreeAddress

/-- Why a text is not a sequence of tokens. -/
inductive ScanError where
  /-- No token starts with the character. -/
  | unexpectedCharacter (offset : Nat) (found : Char)
deriving DecidableEq

/-- The wording of the error. -/
def ScanError.message : ScanError → String
  | unexpectedCharacter offset found =>
      "unexpected character at " ++ toString offset ++ ": " ++ String.singleton found

/-- A position between two scans. -/
structure Cursor where
  /-- Where the latest lexeme starts, in bytes. -/
  offset : Nat
  /-- The text of the latest scan. -/
  lexeme : List Char
  /-- The text after the latest lexeme. -/
  rest : List Char
  /-- How many scans led here. -/
  scans : Nat
deriving DecidableEq

namespace Cursor

/-- The position before the first scan of a text. -/
def start (text : List Char) : Cursor :=
  ⟨0, [], text, 0⟩

/-- The number of bytes of the latest lexeme. -/
def length (cursor : Cursor) : Nat :=
  Text.byteSize cursor.lexeme

/-- Where the latest lexeme ends, in bytes. -/
def stop (cursor : Cursor) : Nat :=
  cursor.offset + cursor.length

/-- Scan the next token: skip blanks, then read a symbol. -/
def next (cursor : Cursor) : Except ScanError Token × Cursor :=
  let offset := cursor.stop + Text.byteSize (cursor.rest.takeWhile Text.isBlank)
  let text := cursor.rest.dropWhile Text.isBlank
  match Symbol.scan? text with
  | some (symbol, lexeme, rest) =>
      (.ok ⟨symbol, offset, Text.byteSize lexeme⟩, ⟨offset, lexeme, rest, cursor.scans + 1⟩)
  | none =>
      match text with
      | [] => (.ok ⟨.endOfInput, offset, 0⟩, ⟨offset, [], [], cursor.scans + 1⟩)
      | found :: rest =>
          (.error (.unexpectedCharacter offset found), ⟨offset, [found], rest, cursor.scans + 1⟩)

/-- A scan finds nothing but blanks and meets the end of the text, or it shows some of the text
behind the blanks. The latter includes a scan that fails. -/
theorem next_cases (cursor : Cursor) :
    (cursor.next =
      (.ok ⟨.endOfInput, cursor.stop + Text.byteSize cursor.rest, 0⟩,
        ⟨cursor.stop + Text.byteSize cursor.rest, [], [], cursor.scans + 1⟩)) ∨
    ∃ gap outcome lexeme rest, cursor.rest = gap ++ (lexeme ++ rest) ∧ lexeme ≠ [] ∧
      (∀ token, outcome = .ok token → token.symbol ≠ .endOfInput) ∧
      cursor.next =
        (outcome, ⟨cursor.stop + Text.byteSize gap, lexeme, rest, cursor.scans + 1⟩) := by
  have split := List.takeWhile_append_dropWhile (p := Text.isBlank) (l := cursor.rest)
  generalize gap_eq : cursor.rest.takeWhile Text.isBlank = gap at split
  cases text_eq : cursor.rest.dropWhile Text.isBlank with
  | nil =>
      rw [text_eq, List.append_nil] at split
      left
      simp only [next, gap_eq, text_eq, Symbol.scan?, split]
  | cons found tail =>
      rw [text_eq] at split
      right
      cases read : Symbol.scan? (found :: tail) with
      | none =>
          refine ⟨gap, .error (.unexpectedCharacter (cursor.stop + Text.byteSize gap) found), [found],
            tail, split.symm, List.cons_ne_nil found [], ?_, ?_⟩
          · simp
          · simp only [next, gap_eq, text_eq, read]
      | some result =>
          obtain ⟨symbol, lexeme, rest⟩ := result
          rw [← Symbol.append_eq_of_scan? read] at split
          refine ⟨gap, .ok ⟨symbol, cursor.stop + Text.byteSize gap, Text.byteSize lexeme⟩, lexeme,
            rest, split.symm, Symbol.lexeme_ne_nil_of_scan? read, ?_, ?_⟩
          · rintro token ⟨⟩
            exact Symbol.symbol_ne_endOfInput_of_scan? read
          · simp only [next, gap_eq, text_eq, read]

/-- A scan that does not meet the end of the text consumes some of it, also if it fails. -/
theorem rest_length_lt_of_next {cursor after : Cursor} {outcome : Except ScanError Token}
    (scanned : cursor.next = (outcome, after))
    (inside : ∀ token, outcome = .ok token → token.symbol ≠ .endOfInput) :
    after.rest.length < cursor.rest.length := by
  rcases cursor.next_cases with ended | ⟨gap, _, lexeme, rest, rest_eq, nonempty, -, found⟩
  · obtain ⟨rfl, -⟩ := Prod.mk.inj (scanned.symm.trans ended)
    exact absurd rfl (inside _ rfl)
  · obtain ⟨-, rfl⟩ := Prod.mk.inj (scanned.symm.trans found)
    have positive := List.length_pos_iff.mpr nonempty
    simp only [rest_eq, List.length_append]
    omega

end Cursor

end ThreeAddress
