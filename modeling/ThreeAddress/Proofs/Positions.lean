import ThreeAddress.Proofs.Quotation

/-!
# Where a lexer stands in its text

A cursor counts in bytes, while a text can be cut between its characters only.  Each scan cuts what
was left of the text into blanks, the lexeme that it shows, and what is left now, so both ends of
the lexeme are places between two characters.  This holds of every scan, also of one that fails, and
therefore of every lexer that is asked anything in any order.
-/

namespace ThreeAddress

/-- Between the front of a text and what follows it there is a position. -/
theorem Text.exists_pos_of_split {text : String} {front back : List Char}
    (split : text.toList = front ++ back) :
    ∃ position : text.Pos, position.offset.byteIdx = byteSize front ∧
      position.Splits (String.ofList front) (String.ofList back) := by
  have joined : text = String.ofList front ++ String.ofList back := by
    rw [← String.ofList_append, ← split, String.ofList_toList]
  have valid : (String.ofList front).rawEndPos.IsValid text :=
    String.Pos.Raw.isValid_iff_exists_append.mpr ⟨_, _, joined, rfl⟩
  exact ⟨text.pos _ valid, utf8ByteSize_ofList front, joined, rfl⟩

/-! ## What one scan does to the cursor -/

namespace Cursor

variable {text : List Char} {cursor : Cursor}

/-- What the cursor shows starts at its offset in the text, and what is left follows it. -/
def StandsIn (text : List Char) (cursor : Cursor) : Prop :=
  ∃ front, text = front ++ (cursor.lexeme ++ cursor.rest) ∧ cursor.offset = Text.byteSize front

theorem standsIn_start (text : List Char) : (start text).StandsIn text :=
  ⟨[], rfl, rfl⟩

/-- A scan moves the cursor within its text. -/
theorem StandsIn.next (stands : cursor.StandsIn text) : cursor.next.2.StandsIn text := by
  obtain ⟨front, split, offset_eq⟩ := stands
  have stop_eq : cursor.stop = Text.byteSize (front ++ cursor.lexeme) := by
    rw [stop, length, offset_eq, Text.byteSize_append]
  rcases next_cases cursor with scanned | ⟨gap, outcome, lexeme, rest, rest_eq, -, -, scanned⟩
  · refine ⟨text, ?_, ?_⟩
    · simp [scanned]
    · simp only [scanned]
      rw [stop_eq, ← Text.byteSize_append, List.append_assoc, ← split]
  · refine ⟨front ++ cursor.lexeme ++ gap, ?_, ?_⟩
    · simp [split, rest_eq, scanned]
    · simp only [scanned]
      rw [stop_eq, ← Text.byteSize_append]

/-- However often it scans, a cursor stays in its text. -/
theorem standsIn_after (text : List Char) (count : Nat) : (after text count).StandsIn text := by
  induction count with
  | zero => exact standsIn_start text
  | succ count ih => exact ih.next

/-- What is left of the text is what lies behind the cursor. -/
theorem StandsIn.stop_add_byteSize (stands : cursor.StandsIn text) :
    cursor.stop + Text.byteSize cursor.rest = Text.byteSize text := by
  obtain ⟨front, split, offset_eq⟩ := stands
  rw [split, Text.byteSize_append, Text.byteSize_append, stop, length, offset_eq, Nat.add_assoc]

end Cursor

/-! ## Lexers -/

namespace Lexer

/-- Whatever a lexer is asked, it keeps to the scans of its text. -/
theorem follows_performCalls (text : String) (calls : List Call) :
    Follows text (performCalls answer calls (ofString text)).2 := by
  obtain ⟨items, tiled⟩ := Tiled.exists_of_text 0 text.toList
  exact ⟨items, _, tiled,
    (performCalls_agree (fun call _ _ => answer_agrees tiled call) calls
      (standsAt_start text items)).2⟩

theorem Follows.standsIn {text : String} {lexer : Lexer} (follows : Follows text lexer) :
    lexer.cursor.StandsIn text.toList := by
  obtain ⟨items, pointer, -, stands⟩ := follows
  rw [stands.cursor_eq]
  exact Cursor.standsIn_after text.toList pointer.next

end Lexer

/-- Whatever a lexer is asked, also behind failures, its lexeme lies in the text and both of its ends
are positions of the text.  The text between them is the lexeme, and the text from the second one on
is what the next scan reads. -/
theorem lexer_stands_between_characters (text : String) (calls : List Lexer.Call) :
    let lexer := (performCalls Lexer.answer calls (Lexer.ofString text)).2
    let stop := lexer.offset + lexer.cursor.length
    lexer.offset ≤ stop ∧ stop ≤ text.utf8ByteSize ∧
    ∃ first last : text.Pos, first.offset.byteIdx = lexer.offset ∧ last.offset.byteIdx = stop ∧
      (∃ ordered, (text.slice first last ordered).copy = lexer.lexeme) ∧
      (text.sliceFrom last).copy = String.ofList lexer.cursor.rest := by
  intro lexer stop
  have stands := (Lexer.follows_performCalls text calls).standsIn
  have total := stands.stop_add_byteSize
  rw [Text.byteSize_toList] at total
  obtain ⟨front, split, offset_eq⟩ := stands
  obtain ⟨first, first_eq, cutFirst⟩ := Text.exists_pos_of_split split
  obtain ⟨last, last_eq, cutLast⟩ := Text.exists_pos_of_split
    (split.trans (List.append_assoc front _ _).symm)
  rw [String.ofList_append] at cutFirst cutLast
  refine ⟨Nat.le_add_right _ _, Nat.le.intro total, first, last, ?_, ?_, ?_, ?_⟩
  · exact first_eq.trans offset_eq.symm
  · rw [last_eq, Text.byteSize_append, ← offset_eq]
    rfl
  · exact String.copy_slice_eq_iff_splits.mpr ⟨_, _, cutFirst, cutLast⟩
  · exact cutLast.copy_sliceFrom_eq

end ThreeAddress
