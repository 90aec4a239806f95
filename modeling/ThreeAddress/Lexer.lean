import ThreeAddress.Token.Cursor

/-!
# The lexer

A lexer is a cursor with one token of lookahead. Tokens are scanned only when they are asked
for. A failed scan moves the cursor but never the lookahead, so the token that a lexer
holds may be older than the scan that its cursor shows.
-/

namespace ThreeAddress

/-- A cursor and the token that was scanned but not yet consumed. -/
structure Lexer where
  cursor : Cursor
  lookahead : Option Token
deriving DecidableEq

namespace Lexer

/-- A lexer at the start of a text. -/
def ofString (text : String) : Lexer :=
  ⟨Cursor.start text.toList, none⟩

/-- Scan a token and hold it. A failed scan leaves the lookahead as it was. -/
def scan : EStateM ScanError Lexer Token := fun lexer =>
  match lexer.cursor.next with
  | (.ok token, cursor) => .ok token ⟨cursor, some token⟩
  | (.error cause, cursor) => .error cause ⟨cursor, lexer.lookahead⟩

/-- The token that comes next. It is scanned unless it is held already. -/
def peek : EStateM ScanError Lexer Token := fun lexer =>
  match lexer.lookahead with
  | some token => .ok token lexer
  | none => scan lexer

/-- Whether the token that comes next is of the given kind. -/
def comesNext (kind : Symbol.Kind) : EStateM ScanError Lexer Bool := do
  return (← peek).symbol.kind == kind

/-- Consume the token that comes next and scan the one after it. -/
def advance : EStateM ScanError Lexer Unit := do
  let _ ← peek
  let _ ← scan

/-- Where the latest lexeme starts, in bytes. -/
def offset (lexer : Lexer) : Nat :=
  lexer.cursor.offset

/-- The text of the latest scan. -/
def lexeme (lexer : Lexer) : String :=
  String.ofList lexer.cursor.lexeme

/-- A bound on the number of tokens that can still be consumed. -/
def pending (lexer : Lexer) : Nat :=
  match lexer.lookahead with
  | some ⟨.endOfInput, _, _⟩ => 0
  | _ => lexer.cursor.rest.length + 1

/-- As long as the end of the text is not held, something is pending. -/
theorem pending_eq {lexer : Lexer} {token : Token} (held : lexer.lookahead = some token)
    (inside : token.symbol ≠ .endOfInput) : lexer.pending = lexer.cursor.rest.length + 1 := by
  obtain ⟨symbol, offset, length⟩ := token
  cases symbol with
  | endOfInput => exact absurd rfl inside
  | plus | times | semicolon | number => simp only [pending, held]

/-- A successful scan holds its token, and less than the rest of the text is then pending. -/
theorem scan_ok {lexer after : Lexer} {token : Token} (scanned : scan lexer = .ok token after) :
    after.lookahead = some token ∧ after.pending < lexer.cursor.rest.length + 1 := by
  cases read : lexer.cursor.next with
  | mk outcome cursor =>
      cases outcome with
      | error cause => simp [scan, read] at scanned
      | ok found =>
          simp only [scan, read, EStateM.Result.ok.injEq] at scanned
          obtain ⟨rfl, rfl⟩ := scanned
          refine ⟨rfl, ?_⟩
          by_cases last : found.symbol = .endOfInput
          · obtain ⟨symbol, offset, length⟩ := found
            cases last
            exact Nat.succ_pos _
          · have shorter :=
              Cursor.rest_length_lt_of_next read fun _ same => Except.ok.inj same ▸ last
            rw [pending_eq rfl last]
            exact Nat.succ_lt_succ shorter

/-- The token that comes next is held afterwards. -/
theorem peek_ok {lexer after : Lexer} {token : Token} (peeked : peek lexer = .ok token after) :
    after.lookahead = some token ∧ after.pending ≤ lexer.pending := by
  cases holds : lexer.lookahead with
  | some held =>
      simp only [peek, holds, EStateM.Result.ok.injEq] at peeked
      obtain ⟨rfl, rfl⟩ := peeked
      exact ⟨holds, Nat.le_refl _⟩
  | none =>
      have all : lexer.pending = lexer.cursor.rest.length + 1 := by
        simp only [pending, holds]
      simp only [peek, holds] at peeked
      obtain ⟨held, less⟩ := scan_ok peeked
      exact ⟨held, all ▸ Nat.le_of_lt less⟩

/-- Consuming a token other than the end of the text leaves less pending. -/
theorem pending_lt_of_advance {lexer after : Lexer} {token : Token}
    (held : lexer.lookahead = some token) (inside : token.symbol ≠ .endOfInput)
    (advanced : advance lexer = .ok () after) : after.pending < lexer.pending := by
  have peeked : peek lexer = .ok token lexer := by simp [peek, held]
  simp only [advance, bind, EStateM.bind, peeked, pure, EStateM.pure] at advanced
  cases scanned : scan lexer with
  | error cause last => simp [scanned] at advanced
  | ok second next =>
      simp only [scanned, EStateM.Result.ok.injEq, true_and] at advanced
      rw [← advanced, pending_eq held inside]
      exact (scan_ok scanned).2

/-- All tokens up to the end of the text, which is the last of them, or up to the first error. -/
def tokens (lexer : Lexer) : List Token × Option ScanError :=
  match _peeked : peek lexer with
  | .error cause _ => ([], some cause)
  | .ok token held =>
      if _last : token.symbol = .endOfInput then ([token], none)
      else
        match _advanced : advance held with
        | .error cause _ => ([token], some cause)
        | .ok _ after =>
            let (rest, stop) := after.tokens
            (token :: rest, stop)
termination_by lexer.pending
decreasing_by
  have ⟨holds, notMore⟩ := peek_ok _peeked
  exact Nat.lt_of_lt_of_le (pending_lt_of_advance holds _last _advanced) notMore

end Lexer

end ThreeAddress
