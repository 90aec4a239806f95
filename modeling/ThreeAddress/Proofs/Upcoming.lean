import ThreeAddress.Lexer
import ThreeAddress.Proofs.Tiling

/-!
# The scans that a lexer has ahead of it

A lexer is viewed as the list of scans up to the end of its text, the held one first.  Looking
ahead and advancing are described on this list alone, for every state of a lexer, whether or not
an earlier scan failed.  At the start of a text the list is its tiling.
-/

namespace ThreeAddress

/-- One scan: its answer, and the place and the text that the cursor shows for it. -/
structure Scan where
  outcome : Except ScanError Token
  offset : Nat
  lexeme : List Char

namespace Scan

/-- Whether the scan meets the end of the text. -/
def isLast (scan : Scan) : Bool :=
  match scan.outcome with
  | .ok token => decide (token.symbol = .endOfInput)
  | .error _ => false

theorem isLast_of_ok {scan : Scan} {token : Token} (answered : scan.outcome = .ok token) :
    scan.isLast = decide (token.symbol = .endOfInput) := by
  simp [isLast, answered]

end Scan

/-- The scan at an item of a tiling. -/
def Item.scan (item : Item) : Scan :=
  ⟨item.outcome, item.offset, item.text⟩

theorem Item.isLast_scan_iff {item : Item} : item.scan.isLast = true ↔ item.found = .finish := by
  obtain ⟨found, offset⟩ := item
  cases found <;> simp [scan, outcome, Scan.isLast]

namespace Cursor

/-- The next scan. -/
def scan (cursor : Cursor) : Scan :=
  ⟨cursor.next.1, cursor.next.2.offset, cursor.next.2.lexeme⟩

theorem rest_length_lt_of_not_isLast {cursor : Cursor} (inside : ¬ cursor.scan.isLast = true) :
    cursor.next.2.rest.length < cursor.rest.length := by
  refine rest_length_lt_of_next rfl ?_
  intro token answered last
  rw [Scan.isLast_of_ok answered, decide_eq_true_eq] at inside
  exact inside last

/-- The scans up to the end of the text. -/
def upcoming (cursor : Cursor) : List Scan :=
  if _inside : ¬ cursor.scan.isLast = true then cursor.scan :: cursor.next.2.upcoming
  else [cursor.scan]
termination_by cursor.rest.length
decreasing_by exact rest_length_lt_of_not_isLast _inside

theorem upcoming_of_isLast (cursor : Cursor) (last : cursor.scan.isLast = true) :
    cursor.upcoming = [cursor.scan] := by
  rw [upcoming]
  simp [last]

theorem upcoming_of_not_isLast (cursor : Cursor) (inside : ¬ cursor.scan.isLast = true) :
    cursor.upcoming = cursor.scan :: cursor.next.2.upcoming := by
  rw [upcoming]
  simp [inside]

theorem exists_upcoming_cons (cursor : Cursor) :
    ∃ rest, cursor.upcoming = cursor.scan :: rest := by
  by_cases last : cursor.scan.isLast = true
  · exact ⟨[], upcoming_of_isLast cursor last⟩
  · exact ⟨_, upcoming_of_not_isLast cursor last⟩

/-- The scans end with the end of the text. -/
theorem exists_isLast_upcoming (cursor : Cursor) :
    ∃ scan ∈ cursor.upcoming, scan.isLast = true := by
  fun_induction upcoming cursor with
  | case1 cursor inside ih =>
      obtain ⟨scan, member, last⟩ := ih
      exact ⟨scan, List.mem_cons_of_mem _ member, last⟩
  | case2 cursor last => exact ⟨cursor.scan, List.mem_singleton_self _, by simpa using last⟩

/-- Along the tiling of the text that is left, the scans are those at its items. -/
theorem upcoming_of_tiled (cursor : Cursor) {items : List Item}
    (tiled : Tiled cursor.stop cursor.rest items) : cursor.upcoming = items.map Item.scan := by
  induction items generalizing cursor with
  | nil => exact absurd rfl tiled.ne_nil
  | cons item items ih =>
      obtain ⟨rest, scanned, following⟩ := next_of_tiled cursor tiled
      have scan_eq : cursor.scan = item.scan := by
        simp [scan, scanned, Item.scan]
      rcases following with ⟨last, rfl⟩ | ⟨inside, tail⟩
      · rw [upcoming_of_isLast cursor (by rw [scan_eq, Item.isLast_scan_iff, last]), scan_eq]
        rfl
      · rw [upcoming_of_not_isLast cursor (by rw [scan_eq, Item.isLast_scan_iff]; exact inside),
          scan_eq, List.map_cons, scanned,
          ih ⟨item.offset, item.text, rest, cursor.scans + 1⟩ tail]

end Cursor

namespace Lexer

/-- The scans that a lexer has ahead of it: the held token, as the cursor shows it now, and then
those of the cursor. -/
def upcoming (lexer : Lexer) : List Scan :=
  match lexer.lookahead with
  | none => lexer.cursor.upcoming
  | some token =>
      if token.symbol = .endOfInput then [⟨.ok token, lexer.cursor.offset, lexer.cursor.lexeme⟩]
      else ⟨.ok token, lexer.cursor.offset, lexer.cursor.lexeme⟩ :: lexer.cursor.upcoming

variable {lexer : Lexer} {token next : Token} {cause : ScanError} {first second : Scan}
variable {rest : List Scan}

/-- A lexer at the start of a text has the tiling of the text ahead of it. -/
theorem upcoming_ofString {source : String} {items : List Item}
    (tiled : Tiled 0 source.toList items) : (ofString source).upcoming = items.map Item.scan :=
  Cursor.upcoming_of_tiled (.start source.toList) tiled

theorem upcoming_of_held_end (held : lexer.lookahead = some token)
    (last : token.symbol = .endOfInput) :
    lexer.upcoming = [⟨.ok token, lexer.cursor.offset, lexer.cursor.lexeme⟩] := by
  simp [upcoming, held, last]

theorem upcoming_of_held (held : lexer.lookahead = some token)
    (inside : token.symbol ≠ .endOfInput) :
    lexer.upcoming =
      ⟨.ok token, lexer.cursor.offset, lexer.cursor.lexeme⟩ :: lexer.cursor.upcoming := by
  simp [upcoming, held, inside]

/-- The held token is shown at the place and with the text of the latest scan. -/
theorem shown_of_held (held : lexer.lookahead = some token)
    (ahead : lexer.upcoming = first :: rest) :
    first = ⟨.ok token, lexer.cursor.offset, lexer.cursor.lexeme⟩ := by
  by_cases last : token.symbol = .endOfInput
  · rw [upcoming_of_held_end held last] at ahead
    exact (List.cons.inj ahead).1.symm
  · rw [upcoming_of_held held last] at ahead
    exact (List.cons.inj ahead).1.symm

/-- Something is always ahead. -/
theorem exists_upcoming_cons (lexer : Lexer) : ∃ first rest, lexer.upcoming = first :: rest := by
  cases held : lexer.lookahead with
  | none =>
      obtain ⟨rest, ahead⟩ := Cursor.exists_upcoming_cons lexer.cursor
      exact ⟨lexer.cursor.scan, rest, by simp [upcoming, held, ahead]⟩
  | some token =>
      by_cases last : token.symbol = .endOfInput
      · exact ⟨_, _, upcoming_of_held_end held last⟩
      · exact ⟨_, _, upcoming_of_held held last⟩

/-- The end of the text is always ahead. -/
theorem exists_isLast_upcoming (lexer : Lexer) :
    ∃ scan ∈ lexer.upcoming, scan.isLast = true := by
  cases held : lexer.lookahead with
  | none =>
      simp only [upcoming, held]
      exact lexer.cursor.exists_isLast_upcoming
  | some token =>
      by_cases last : token.symbol = .endOfInput
      · rw [upcoming_of_held_end held last]
        exact ⟨_, List.mem_singleton_self _, by simp [Scan.isLast, last]⟩
      · rw [upcoming_of_held held last]
        obtain ⟨scan, member, last⟩ := lexer.cursor.exists_isLast_upcoming
        exact ⟨scan, List.mem_cons_of_mem _ member, last⟩

/-- Behind a token other than the end of the text there is another scan. -/
theorem exists_second (held : lexer.lookahead = some token)
    (inside : token.symbol ≠ .endOfInput) (ahead : lexer.upcoming = first :: rest) :
    ∃ second others, rest = second :: others := by
  rw [upcoming_of_held held inside] at ahead
  obtain ⟨others, following⟩ := Cursor.exists_upcoming_cons lexer.cursor
  exact ⟨_, others, (List.cons.inj ahead).2.symm.trans following⟩

/-- Scanning takes the first of the cursor's scans. -/
private theorem scan_of_ok (ahead : lexer.cursor.upcoming = first :: rest)
    (answered : first.outcome = .ok token) :
    ∃ held, scan lexer = .ok token held ∧ held.lookahead = some token ∧
      held.upcoming = first :: rest := by
  obtain ⟨others, following⟩ := Cursor.exists_upcoming_cons lexer.cursor
  obtain rfl : first = lexer.cursor.scan := (List.cons.inj (ahead.symm.trans following)).1
  have scanned : lexer.cursor.next = (.ok token, lexer.cursor.next.2) := by
    rw [← answered]
    rfl
  refine ⟨⟨lexer.cursor.next.2, some token⟩, ?_, rfl, ?_⟩
  · simp only [scan]
    rw [scanned]
  · have shown : (⟨.ok token, lexer.cursor.next.2.offset, lexer.cursor.next.2.lexeme⟩ : Scan) =
        lexer.cursor.scan := by
      rw [← answered]
      rfl
    by_cases last : token.symbol = .endOfInput
    · rw [upcoming_of_held_end rfl last, shown, ← ahead, Cursor.upcoming_of_isLast lexer.cursor]
      simp [Scan.isLast_of_ok answered, last]
    · rw [upcoming_of_held rfl last, shown, ← ahead,
        Cursor.upcoming_of_not_isLast lexer.cursor]
      simp [Scan.isLast_of_ok answered, last]

private theorem scan_of_error (ahead : lexer.cursor.upcoming = first :: rest)
    (failed : first.outcome = .error cause) :
    ∃ after, scan lexer = .error cause after := by
  obtain ⟨others, following⟩ := Cursor.exists_upcoming_cons lexer.cursor
  obtain rfl : first = lexer.cursor.scan := (List.cons.inj (ahead.symm.trans following)).1
  have scanned : lexer.cursor.next = (.error cause, lexer.cursor.next.2) := by
    rw [← failed]
    rfl
  refine ⟨⟨lexer.cursor.next.2, lexer.lookahead⟩, ?_⟩
  simp only [scan]
  rw [scanned]

/-- Looking ahead answers for the first scan and keeps what is ahead. -/
theorem peek_of_ok (ahead : lexer.upcoming = first :: rest)
    (answered : first.outcome = .ok token) :
    ∃ held, peek lexer = .ok token held ∧ held.lookahead = some token ∧
      held.upcoming = first :: rest := by
  cases lookahead_eq : lexer.lookahead with
  | none =>
      simp only [upcoming, lookahead_eq] at ahead
      obtain ⟨held, scanned, holds, same⟩ := scan_of_ok ahead answered
      exact ⟨held, by simpa [peek, lookahead_eq] using scanned, holds, same⟩
  | some other =>
      obtain rfl : token = other := by
        rw [shown_of_held lookahead_eq ahead] at answered
        exact (Except.ok.inj answered).symm
      exact ⟨lexer, by simp [peek, lookahead_eq], lookahead_eq, ahead⟩

theorem peek_of_error (ahead : lexer.upcoming = first :: rest)
    (failed : first.outcome = .error cause) : ∃ after, peek lexer = .error cause after := by
  cases lookahead_eq : lexer.lookahead with
  | none =>
      simp only [upcoming, lookahead_eq] at ahead
      obtain ⟨after, scanned⟩ := scan_of_error ahead failed
      exact ⟨after, by simpa [peek, lookahead_eq] using scanned⟩
  | some other =>
      rw [shown_of_held lookahead_eq ahead] at failed
      contradiction

private theorem cursor_upcoming_of_held (held : lexer.lookahead = some token)
    (ahead : lexer.upcoming = first :: second :: rest) :
    lexer.cursor.upcoming = second :: rest := by
  by_cases last : token.symbol = .endOfInput
  · rw [upcoming_of_held_end held last] at ahead
    simp at ahead
  · rw [upcoming_of_held held last] at ahead
    exact (List.cons.inj ahead).2

/-- Advancing drops the first scan if the second succeeds. -/
theorem advance_of_ok (held : lexer.lookahead = some token)
    (ahead : lexer.upcoming = first :: second :: rest) (answered : second.outcome = .ok next) :
    ∃ after, advance lexer = .ok () after ∧ after.lookahead = some next ∧
      after.upcoming = second :: rest := by
  obtain ⟨after, scanned, holds, same⟩ :=
    scan_of_ok (cursor_upcoming_of_held held ahead) answered
  refine ⟨after, ?_, holds, same⟩
  simp [advance, bind, EStateM.bind, peek, held, scanned, pure, EStateM.pure]

/-- Advancing fails if the second scan fails. -/
theorem advance_of_error (held : lexer.lookahead = some token)
    (ahead : lexer.upcoming = first :: second :: rest) (failed : second.outcome = .error cause) :
    ∃ after, advance lexer = .error cause after := by
  obtain ⟨after, scanned⟩ := scan_of_error (cursor_upcoming_of_held held ahead) failed
  refine ⟨after, ?_⟩
  simp [advance, bind, EStateM.bind, peek, held, scanned]

end Lexer

end ThreeAddress
