import ThreeAddress.Lexer
import ThreeAddress.Proofs.Tiling

/-!
# The lexer as a pointer into a sequence of scans

A text determines one infinite sequence of scans: the items of its tiling one after the other, and
then the end of the text for ever.  A pointer into this sequence knows how many scans were performed
and which of them is held.  The lexer answers every sequence of calls as the pointer does, also
after calls that failed.  What its cursor shows is the latest scan, which is the held one exactly if
the latest scan succeeded.
-/

namespace ThreeAddress

/-! ## The sequence of scans of a text -/

/-- What the scan with the given number finds in a text with the given items. -/
def itemAt (text : List Char) (items : List Item) (number : Nat) : Item :=
  items[number]?.getD ⟨.finish, Text.byteSize text⟩

namespace Item

variable {item : Item}

/-- Only the end of a text is found without a text of its own. -/
theorem found_eq_finish (empty : Text.byteSize item.text = 0) : item.found = .finish := by
  obtain ⟨found, offset⟩ := item
  cases found with
  | word word =>
      obtain ⟨c, rest, text_eq, -⟩ := word.exists_cons_not_blank
      have positive := c.utf8Size_pos
      simp only [text, Found.text, text_eq, Text.byteSize_cons] at empty
      omega
  | stray c =>
      have positive := c.utf8Size_pos
      simp only [text, Found.text, Text.byteSize_cons] at empty
      omega
  | finish => rfl

theorem outcome_of_finish (last : item.found = .finish) :
    item.outcome = .ok ⟨.endOfInput, item.offset, 0⟩ := by
  simp only [outcome, last]

/-- A token is as long as its text and starts where it starts. -/
theorem place_of_outcome {token : Token} (scanned : item.outcome = .ok token) :
    token.offset = item.offset ∧ token.length = Text.byteSize item.text := by
  obtain ⟨found, offset⟩ := item
  cases found with
  | word word =>
      cases scanned
      exact ⟨rfl, rfl⟩
  | stray c => contradiction
  | finish =>
      cases scanned
      exact ⟨rfl, rfl⟩

end Item

section Sequence

variable {text : List Char} {items : List Item}

/-- Every scan finds an item of the text. -/
theorem Tiled.itemAt_mem (tiled : Tiled 0 text items) (number : Nat) :
    itemAt text items number ∈ items := by
  unfold itemAt
  cases found : items[number]? with
  | some item => exact List.mem_of_getElem? found
  | none =>
      obtain ⟨⟨_, offset⟩, member, rfl⟩ := tiled.exists_finish
      obtain rfl : offset = Text.byteSize text := tiled.offset_eq_of_finish member rfl
      exact member

private theorem drop_eq_itemAt_cons {number : Nat} (nonempty : items.drop number ≠ []) :
    items.drop number = itemAt text items number :: items.drop (number + 1) := by
  have inside : number < items.length := by
    rw [ne_eq, List.drop_eq_nil_iff] at nonempty
    omega
  rw [List.drop_eq_getElem_cons inside, itemAt, List.getElem?_eq_getElem inside]
  rfl

namespace Cursor

/-- The cursor after a number of scans from the start of a text. -/
def after (text : List Char) : Nat → Cursor
  | 0 => start text
  | count + 1 => (after text count).next.2

/-- At the end of a text, a scan leaves nothing. -/
private theorem next_of_tiled_finish (cursor : Cursor) {item : Item} {others : List Item}
    (tiled : Tiled cursor.stop cursor.rest (item :: others)) (last : item.found = .finish) :
    cursor.next = (item.outcome, ⟨item.offset, [], [], cursor.scans + 1⟩) := by
  generalize text_eq : cursor.rest = rest at tiled
  cases tiled with
  | finish blank =>
      subst text_eq
      exact next_of_blank blank
  | word blank longest tail => contradiction
  | stray blank notBlank noWord tail => contradiction

/-- After a number of scans, the item with that number comes next. -/
theorem tiled_after (tiled : Tiled 0 text items) (count : Nat) :
    Tiled (after text count).stop (after text count).rest
      (itemAt text items count :: items.drop (count + 1)) := by
  induction count with
  | zero =>
      rw [← drop_eq_itemAt_cons (by simpa using tiled.ne_nil), List.drop_zero]
      exact tiled
  | succ count ih =>
      rw [after]
      obtain ⟨rest, scanned, following⟩ := next_of_tiled _ ih
      rcases following with ⟨last, nothing⟩ | ⟨-, tail⟩
      · -- The end of the text is found again, where it was found before.
        have ended := tiled.offset_eq_of_finish (tiled.itemAt_mem count) last
        have beyond : items.length ≤ count + 1 := List.drop_eq_nil_iff.mp nothing
        have again : itemAt text items (count + 1) = ⟨.finish, Text.byteSize text⟩ := by
          rw [itemAt, List.getElem?_eq_none beyond]
          rfl
        rw [next_of_tiled_finish _ ih last, again, List.drop_of_length_le (by omega), ended]
        exact .finish nofun
      · rw [scanned, ← drop_eq_itemAt_cons tail.ne_nil]
        exact tail

/-- The next scan is the one with the number of those before it. -/
theorem next_after (tiled : Tiled 0 text items) (count : Nat) :
    (after text count).next = ((itemAt text items count).outcome, after text (count + 1)) := by
  obtain ⟨rest, scanned, -⟩ := next_of_tiled _ (tiled_after tiled count)
  rw [after, scanned]

/-- The cursor shows the latest scan. -/
theorem after_succ (tiled : Tiled 0 text items) (count : Nat) :
    (after text (count + 1)).offset = (itemAt text items count).offset ∧
      (after text (count + 1)).lexeme = (itemAt text items count).text ∧
      (after text (count + 1)).scans = (after text count).scans + 1 := by
  obtain ⟨rest, scanned, -⟩ := next_of_tiled _ (tiled_after tiled count)
  rw [after, scanned]
  exact ⟨rfl, rfl, rfl⟩

theorem scans_after (tiled : Tiled 0 text items) (count : Nat) :
    (after text count).scans = count := by
  induction count with
  | zero => rfl
  | succ count ih => rw [(after_succ tiled count).2.2, ih]

end Cursor

/-- Later scans find what stands behind. -/
theorem Tiled.stop_le_offset (tiled : Tiled 0 text items) {earlier later : Nat}
    (lt : earlier < later) :
    (itemAt text items earlier).stop ≤ (itemAt text items later).offset := by
  have neighbours : ∀ number,
      (itemAt text items number).stop ≤ (itemAt text items (number + 1)).offset := by
    intro number
    obtain ⟨before, _, _, offset_eq, _⟩ :=
      (Cursor.tiled_after tiled (number + 1)).exists_split List.mem_cons_self
    obtain ⟨shown, text_eq, -⟩ := Cursor.after_succ tiled number
    rw [offset_eq, Cursor.stop, Cursor.length, shown, text_eq]
    exact Nat.le_add_right _ _
  induction later with
  | zero => contradiction
  | succ later ih =>
      rcases Nat.lt_succ_iff_lt_or_eq.mp lt with lt | rfl
      · calc (itemAt text items earlier).stop
          _ ≤ (itemAt text items later).offset := ih lt
          _ ≤ (itemAt text items later).stop := Nat.le_add_right _ _
          _ ≤ (itemAt text items (later + 1)).offset := neighbours later
      · exact neighbours earlier

end Sequence

/-! ## Calls -/

/-- What a lexer can be asked. -/
inductive Lexer.Call where
  | peek
  | comesNext (kind : Symbol.Kind)
  | advance

/-- What a call answers unless it fails. -/
inductive Lexer.Answer where
  | token (value : Token)
  | verdict (value : Bool)
  | done

/-- Perform calls one after the other, also behind calls that fail. -/
def performCalls {σ : Type} (answer : Lexer.Call → EStateM ScanError σ Lexer.Answer) :
    List Lexer.Call → σ → List (Except ScanError Lexer.Answer) × σ
  | [], state => ([], state)
  | call :: calls, state =>
      match answer call state with
      | .ok value after =>
          let (answers, last) := performCalls answer calls after
          (.ok value :: answers, last)
      | .error cause after =>
          let (answers, last) := performCalls answer calls after
          (.error cause :: answers, last)

/-- The lexer answers a call. -/
def Lexer.answer : Call → EStateM ScanError Lexer Answer
  | .peek => do return .token (← peek)
  | .comesNext kind => do return .verdict (← comesNext kind)
  | .advance => do
      advance
      return .done

/-- A place in a sequence of scans. -/
structure Pointer where
  /-- How many scans were performed, which is the number of the next one. -/
  next : Nat
  /-- The number of the scan whose token is held. -/
  held : Option Nat

namespace Pointer

variable (sequence : Nat → Item)

/-- No scan was performed. -/
def start : Pointer := ⟨0, none⟩

/-- Perform the next scan and hold its token.  If it fails, what was held stays held. -/
def scan : EStateM ScanError Pointer Token := fun pointer =>
  match (sequence pointer.next).outcome with
  | .ok token => .ok token ⟨pointer.next + 1, some pointer.next⟩
  | .error cause => .error cause ⟨pointer.next + 1, pointer.held⟩

/-- The token that is held.  A scan is performed only if none is. -/
def peek : EStateM ScanError Pointer Token := fun pointer =>
  match pointer.held with
  | none => scan sequence pointer
  | some number =>
      match (sequence number).outcome with
      | .ok token => .ok token pointer
      | .error cause => .error cause pointer

/-- Look at the token that is held, and perform the next scan. -/
def advance : EStateM ScanError Pointer Unit := do
  let _ ← peek sequence
  let _ ← scan sequence

/-- The pointer answers a call. -/
def answer : Lexer.Call → EStateM ScanError Pointer Lexer.Answer
  | .peek => do return .token (← peek sequence)
  | .comesNext kind => do return .verdict ((← peek sequence).symbol.kind == kind)
  | .advance => do
      advance sequence
      return .done

end Pointer

/-! ## Agreement -/

section Agreement

variable {ε σ τ α β : Type}

/-- Two computations end alike, in states that are related. -/
inductive Agrees (related : σ → τ → Prop) :
    EStateM.Result ε σ α → EStateM.Result ε τ α → Prop where
  | ok (value : α) {state : σ} {other : τ} (still : related state other) :
      Agrees related (.ok value state) (.ok value other)
  | error (cause : ε) {state : σ} {other : τ} (still : related state other) :
      Agrees related (.error cause state) (.error cause other)

variable {related : σ → τ → Prop} {state : σ} {other : τ}

theorem Agrees.bind {first : EStateM ε σ α} {second : EStateM ε τ α} {next : α → EStateM ε σ β}
    {otherNext : α → EStateM ε τ β} (agrees : Agrees related (first state) (second other))
    (continues : ∀ value state other, related state other →
      Agrees related (next value state) (otherNext value other)) :
    Agrees related ((first >>= next) state) ((second >>= otherNext) other) := by
  simp only [Bind.bind, EStateM.bind]
  generalize first state = ends at agrees ⊢
  generalize second other = otherEnds at agrees ⊢
  cases agrees with
  | ok value still => exact continues value _ _ still
  | error cause still => exact .error cause still

/-- Where single calls agree, sequences of calls do. -/
theorem performCalls_agree {answer : Lexer.Call → EStateM ScanError σ Lexer.Answer}
    {otherAnswer : Lexer.Call → EStateM ScanError τ Lexer.Answer}
    (agree : ∀ call state other, related state other →
      Agrees related (answer call state) (otherAnswer call other))
    (calls : List Lexer.Call) (still : related state other) :
    (performCalls answer calls state).1 = (performCalls otherAnswer calls other).1 ∧
      related (performCalls answer calls state).2 (performCalls otherAnswer calls other).2 := by
  induction calls generalizing state other with
  | nil => exact ⟨rfl, still⟩
  | cons call calls ih =>
      have called := agree call state other still
      simp only [performCalls]
      generalize answer call state = ends at called ⊢
      generalize otherAnswer call other = otherEnds at called ⊢
      cases called with
      | ok value still =>
          obtain ⟨same, still⟩ := ih still
          exact ⟨congrArg (_ :: ·) same, still⟩
      | error cause still =>
          obtain ⟨same, still⟩ := ih still
          exact ⟨congrArg (_ :: ·) same, still⟩

end Agreement

/-! ## The lexer and the pointer -/

/-- The lexer stands where the pointer points: its cursor is behind as many scans, and it holds the
token of the scan that is held, which is the latest one if that succeeded. -/
structure Lexer.StandsAt (text : List Char) (items : List Item) (lexer : Lexer)
    (pointer : Pointer) : Prop where
  cursor_eq : lexer.cursor = Cursor.after text pointer.next
  held_eq : lexer.lookahead.map Except.ok =
    pointer.held.map fun number => (itemAt text items number).outcome
  performed : ∀ number, pointer.held = some number → number < pointer.next
  latest : ∀ number token, pointer.next = number + 1 →
    (itemAt text items number).outcome = .ok token → pointer.held = some number

namespace Lexer

variable {text : List Char} {items : List Item} {lexer : Lexer} {pointer : Pointer}

theorem standsAt_start (text : String) (items : List Item) :
    StandsAt text.toList items (ofString text) .start where
  cursor_eq := rfl
  held_eq := rfl
  performed := nofun
  latest := nofun

theorem scan_agrees (tiled : Tiled 0 text items) (stands : StandsAt text items lexer pointer) :
    Agrees (StandsAt text items) (scan lexer) (Pointer.scan (itemAt text items) pointer) := by
  simp only [scan, Pointer.scan, stands.cursor_eq, Cursor.next_after tiled]
  cases outcome : (itemAt text items pointer.next).outcome with
  | ok token =>
      refine .ok token ⟨rfl, by simp [outcome], ?_, ?_⟩
      · intro number held
        obtain rfl := Option.some.inj held
        exact Nat.lt_succ_self _
      · intro number other next_eq _
        rw [Nat.succ.inj next_eq]
  | error cause =>
      refine .error cause ⟨rfl, stands.held_eq, ?_, ?_⟩
      · intro number held
        exact Nat.lt_succ_of_lt (stands.performed number held)
      · intro number token next_eq succeeded
        rw [← Nat.succ.inj next_eq, outcome] at succeeded
        contradiction

theorem peek_agrees (tiled : Tiled 0 text items) (stands : StandsAt text items lexer pointer) :
    Agrees (StandsAt text items) (peek lexer) (Pointer.peek (itemAt text items) pointer) := by
  have same := stands.held_eq
  simp only [peek, Pointer.peek]
  cases held : pointer.held with
  | none =>
      rw [held, Option.map_none, Option.map_eq_none_iff] at same
      simp only [same]
      exact scan_agrees tiled stands
  | some number =>
      rw [held, Option.map_some, Option.map_eq_some_iff] at same
      obtain ⟨token, lookahead_eq, outcome⟩ := same
      simp only [lookahead_eq, ← outcome]
      exact .ok token stands

theorem advance_agrees (tiled : Tiled 0 text items) (stands : StandsAt text items lexer pointer) :
    Agrees (StandsAt text items) (advance lexer)
      (Pointer.advance (itemAt text items) pointer) := by
  apply (peek_agrees tiled stands).bind
  intro token lexer pointer stands
  apply (scan_agrees tiled stands).bind
  intro next lexer pointer stands
  exact .ok _ stands

theorem answer_agrees (tiled : Tiled 0 text items) (call : Call)
    (stands : StandsAt text items lexer pointer) :
    Agrees (StandsAt text items) (answer call lexer)
      (Pointer.answer (itemAt text items) call pointer) := by
  cases call with
  | peek =>
      apply (peek_agrees tiled stands).bind
      intro token lexer pointer stands
      exact .ok _ stands
  | comesNext kind =>
      simp only [answer, comesNext, Pointer.answer, bind_assoc, pure_bind]
      apply (peek_agrees tiled stands).bind
      intro token lexer pointer stands
      exact .ok _ stands
  | advance =>
      apply (advance_agrees tiled stands).bind
      intro _ lexer pointer stands
      exact .ok _ stands

/-- The number of the scan whose token is held. -/
theorem StandsAt.exists_held (stands : StandsAt text items lexer pointer) {token : Token}
    (held : lexer.lookahead = some token) :
    ∃ number, pointer.held = some number ∧ number < pointer.next ∧
      (itemAt text items number).outcome = .ok token := by
  have same := stands.held_eq
  rw [held, Option.map_some] at same
  obtain ⟨number, number_eq, outcome⟩ := Option.map_eq_some_iff.mp same.symm
  exact ⟨number, number_eq, stands.performed number number_eq, outcome⟩

/-- A held token is the one that the cursor shows if and only if the latest scan succeeded. -/
theorem StandsAt.inStep_iff (tiled : Tiled 0 text items)
    (stands : StandsAt text items lexer pointer) {token : Token}
    (held : lexer.lookahead = some token) {latest : Nat} (latest_eq : pointer.next = latest + 1) :
    (token.offset = lexer.offset ∧ token.length = lexer.cursor.length) ↔
      ∃ scanned, (itemAt text items latest).outcome = .ok scanned := by
  obtain ⟨number, number_eq, performed, outcome⟩ := stands.exists_held held
  obtain ⟨offset_eq, text_eq, -⟩ := Cursor.after_succ tiled latest
  have shown : lexer.offset = (itemAt text items latest).offset ∧
      lexer.cursor.length = Text.byteSize (itemAt text items latest).text := by
    rw [offset, Cursor.length, stands.cursor_eq, latest_eq, offset_eq, text_eq]
    exact ⟨rfl, rfl⟩
  obtain ⟨place_eq, length_eq⟩ := Item.place_of_outcome outcome
  rw [shown.1, shown.2, place_eq, length_eq]
  constructor
  · rintro ⟨sameOffset, sameLength⟩
    cases Nat.lt_succ_iff_lt_or_eq.mp (latest_eq ▸ performed) with
    | inr same => exact ⟨token, same ▸ outcome⟩
    | inl earlier =>
        -- An older token at the place of the latest scan would leave no room for its text.
        have behind := tiled.stop_le_offset earlier
        have size_eq : Text.byteSize (itemAt text items latest).text = 0 := by
          rw [Item.stop] at behind
          omega
        exact ⟨_, Item.outcome_of_finish (Item.found_eq_finish size_eq)⟩
  · rintro ⟨scanned, succeeded⟩
    have same := stands.latest latest scanned latest_eq succeeded
    rw [number_eq] at same
    obtain rfl := Option.some.inj same
    exact ⟨rfl, rfl⟩

end Lexer

/-- A text has one sequence of scans, and the lexer is a pointer into it.  Whatever is asked, also
behind failures, it answers as the pointer does, its cursor is behind as many scans as were
performed, and it holds the token of the same scan.  The cursor shows the latest scan, and shows the
held token if and only if that scan succeeded. -/
theorem lexer_points_into_scans (text : String) :
    ∃ items, Tiled 0 text.toList items ∧
      (∀ number, (Cursor.after text.toList number).next =
        ((itemAt text.toList items number).outcome, Cursor.after text.toList (number + 1))) ∧
      ∀ calls,
        let (answers, lexer) := performCalls Lexer.answer calls (Lexer.ofString text)
        let (expected, pointer) :=
          performCalls (Pointer.answer (itemAt text.toList items)) calls .start
        answers = expected ∧
        lexer.cursor = Cursor.after text.toList pointer.next ∧
        lexer.cursor.scans = pointer.next ∧
        lexer.lookahead.map Except.ok =
          pointer.held.map (fun number => (itemAt text.toList items number).outcome) ∧
        (pointer.next = 0 → lexer.offset = 0 ∧ lexer.lexeme = "" ∧ lexer.lookahead = none) ∧
        ∀ latest, pointer.next = latest + 1 →
          lexer.offset = (itemAt text.toList items latest).offset ∧
          lexer.lexeme = String.ofList (itemAt text.toList items latest).text ∧
          ∀ token, lexer.lookahead = some token →
            ((token.offset = lexer.offset ∧ token.length = lexer.cursor.length) ↔
              ∃ scanned, (itemAt text.toList items latest).outcome = .ok scanned) := by
  obtain ⟨items, tiled⟩ := Tiled.exists_of_text 0 text.toList
  refine ⟨items, tiled, Cursor.next_after tiled, ?_⟩
  intro calls
  obtain ⟨same, stands⟩ := performCalls_agree (fun call _ _ => Lexer.answer_agrees tiled call) calls
    (Lexer.standsAt_start text items)
  refine ⟨same, stands.cursor_eq, ?_, stands.held_eq, ?_, ?_⟩
  · rw [stands.cursor_eq, Cursor.scans_after tiled]
  · intro unread
    refine ⟨?_, ?_, ?_⟩
    · rw [Lexer.offset, stands.cursor_eq, unread]
      rfl
    · rw [Lexer.lexeme, stands.cursor_eq, unread]
      rfl
    · rw [Option.eq_none_iff_forall_ne_some]
      intro token held
      obtain ⟨number, -, performed, -⟩ := stands.exists_held held
      omega
  · intro latest latest_eq
    obtain ⟨offset_eq, text_eq, -⟩ := Cursor.after_succ tiled latest
    rw [← latest_eq, ← stands.cursor_eq] at offset_eq text_eq
    refine ⟨offset_eq, congrArg String.ofList text_eq, ?_⟩
    intro token held
    exact stands.inStep_iff tiled held latest_eq

end ThreeAddress
