import ThreeAddress.Proofs.Compilation

/-!
# Diagnosis

Whether a source is accepted, and with which error it is refused, is decided by an automaton with
three states that reads the items of the source from left to right and stops at the first item
without a transition.  The automaton mentions neither registers nor instructions.
-/

namespace ThreeAddress

/-- What has been read last. -/
inductive ReadState where
  | start
  | needOperand
  | afterNumber
deriving DecidableEq

namespace ReadState

/-- The transitions of the automaton. -/
def next? : ReadState → Found → Option ReadState
  | start, .word (.number _) => some afterNumber
  | needOperand, .word (.number _) => some afterNumber
  | afterNumber, .word .plus => some needOperand
  | afterNumber, .word .times => some needOperand
  | afterNumber, .word .semicolon => some start
  | _, _ => none

/-- The result at an item without a transition. -/
def verdict (state : ReadState) (item : Item) : Except Error Unit :=
  match state, item.found with
  | _, .stray c => .error (.scan (.unexpectedCharacter item.offset c))
  | start, .finish => .ok ()
  | needOperand, .finish => .error (.grammar (.unexpectedEnd item.offset))
  | afterNumber, _ =>
      .error (.grammar (.expectedTerminator item.offset (String.ofList item.text)))
  | _, .word _ => .error (.grammar (.expectedNumber item.offset (String.ofList item.text)))

/-- The state after some items, if each of them has a transition. -/
def follow (state : ReadState) (items : List Item) : Option ReadState :=
  items.foldlM (fun state item => state.next? item.found) state

/-- Read items up to the first one without a transition. -/
def diagnose (state : ReadState) : List Item → Except Error Unit
  | [] => .ok ()
  | item :: items =>
      match state.next? item.found with
      | some next => next.diagnose items
      | none => state.verdict item

theorem diagnose_of_next {state next : ReadState} {item : Item} {items : List Item}
    (moves : state.next? item.found = some next) :
    state.diagnose (item :: items) = next.diagnose items := by
  simp [diagnose, moves]

theorem diagnose_of_stop {state : ReadState} {item : Item} {items : List Item}
    (stops : state.next? item.found = none) :
    state.diagnose (item :: items) = state.verdict item := by
  simp [diagnose, stops]

/-- What follows the first item without a transition does not matter. -/
theorem diagnose_append {state last : ReadState} {before after : List Item} {item : Item}
    (followed : state.follow before = some last) (stops : last.next? item.found = none) :
    state.diagnose (before ++ item :: after) = last.verdict item := by
  induction before generalizing state with
  | nil =>
      cases followed
      exact diagnose_of_stop stops
  | cons first before ih =>
      simp only [follow, List.foldlM_cons, Option.bind_eq_bind, Option.bind_eq_some_iff] at followed
      obtain ⟨next, moves, followed⟩ := followed
      rw [List.cons_append, diagnose_of_next moves]
      exact ih followed

/-- There is a first item without a transition, since the end of the text has none. -/
theorem exists_stop (state : ReadState) {items : List Item}
    (ends : ∃ item ∈ items, item.found = .finish) :
    ∃ before item after last, items = before ++ item :: after ∧
      state.follow before = some last ∧ last.next? item.found = none := by
  induction items generalizing state with
  | nil => simp at ends
  | cons item items ih =>
      cases moves : state.next? item.found with
      | none => exact ⟨[], item, items, state, rfl, rfl, moves⟩
      | some next =>
          have inside : item.found ≠ .finish := by
            intro last
            rw [last] at moves
            cases state <;> contradiction
          obtain ⟨last, member, last_eq⟩ := ends
          have later : last ∈ items := by
            rcases List.mem_cons.mp member with rfl | later
            · contradiction
            · exact later
          obtain ⟨before, stop, after, final, rfl, followed, stops⟩ :=
            ih next ⟨last, later, last_eq⟩
          refine ⟨item :: before, stop, after, final, rfl, ?_, stops⟩
          simpa [follow, moves] using followed

end ReadState

/-! ## The automaton and the plan -/

/-- The state of the automaton in a phase of code generation. -/
def Phase.state : Phase → ReadState
  | boundary => .start
  | operand _ _ => .needOperand
  | operator _ _ => .afterNumber

/-- A phase goes on where the automaton has a transition, and stops with its verdict where it has
none. -/
theorem Phase.react_item (phase : Phase) (item : Item) :
    (∃ code next, phase.react item.scan = (code, .goOn next) ∧
        phase.state.next? item.found = some next.state) ∨
      (∃ code, phase.react item.scan = (code, .stop (phase.state.verdict item)) ∧
        phase.state.next? item.found = none) := by
  obtain ⟨found, offset⟩ := item
  cases found with
  | stray c => exact .inr ⟨[], rfl, by cases phase <;> rfl⟩
  | finish =>
      cases phase with
      | boundary => exact .inr ⟨_, rfl, rfl⟩
      | operand sum product => exact .inr ⟨_, rfl, rfl⟩
      | operator sum product => exact .inr ⟨_, rfl, rfl⟩
  | word word =>
      cases phase with
      | boundary =>
          cases word with
          | number value => exact .inl ⟨_, _, rfl, rfl⟩
          | plus | times | semicolon => exact .inr ⟨_, rfl, rfl⟩
      | operand sum product =>
          cases word with
          | number value => exact .inl ⟨_, _, rfl, rfl⟩
          | plus | times | semicolon => exact .inr ⟨_, rfl, rfl⟩
      | operator sum product =>
          cases word with
          | number value => exact .inr ⟨_, rfl, rfl⟩
          | plus | times | semicolon => exact .inl ⟨_, _, rfl, rfl⟩

/-- The result of a plan is what the automaton diagnoses. -/
theorem Plan.result_ofScans (phase : Phase) (items : List Item) :
    (ofScans phase (items.map Item.scan)).result = phase.state.diagnose items := by
  induction items generalizing phase with
  | nil => rfl
  | cons item items ih =>
      rcases phase.react_item item with ⟨code, next, reacted, moves⟩ | ⟨code, reacted, stops⟩
      · rw [List.map_cons, ofScans_of_goOn reacted, ReadState.diagnose_of_next moves]
        exact ih next
      · rw [List.map_cons, ofScans_of_stop reacted, ReadState.diagnose_of_stop stops]

theorem Plan.result_ofSource {source : String} {items : List Item}
    (tiled : Tiled 0 source.toList items) :
    (ofSource source).result = ReadState.start.diagnose items := by
  rw [ofSource, Lexer.upcoming_ofString tiled]
  exact result_ofScans .boundary items

/-- Compilation reads the items of a source, which are the answers of the scanner, up to the first
one at which the automaton stops, and ends with the verdict on that item.  The verdict is the same
for every source that agrees up to that item. -/
theorem compileInto_ends_with_verdict {σ : Type} [Sink σ] {sink : σ}
    (unfailing : Sink.Unfailing sink) (source : String) (options : Options)
    (atLeast : 3 ≤ options.registers) (atMost : options.registers ≤ 10) :
    ∃ (before : List Item) (item : Item) (after : List Item) (state : ReadState),
      Tiled 0 source.toList (before ++ item :: after) ∧
      (Lexer.ofString source).upcoming = (before ++ item :: after).map Item.scan ∧
      ReadState.start.follow before = some state ∧ state.next? item.found = none ∧
      (item.found = .finish → item.offset = Text.byteSize source.toList) ∧
      (compileInto source options sink).1.result = state.verdict item ∧
      ∀ (other : String) (rest : List Item), Tiled 0 other.toList (before ++ item :: rest) →
        (compileInto other options sink).1.result = state.verdict item := by
  obtain ⟨items, tiled⟩ := Tiled.exists_of_text 0 source.toList
  obtain ⟨before, item, after, state, rfl, followed, stops⟩ :=
    ReadState.start.exists_stop tiled.exists_finish
  have decided : ∀ (other : String) (rest : List Item),
      Tiled 0 other.toList (before ++ item :: rest) →
        (compileInto other options sink).1.result = state.verdict item := by
    intro other rest otherTiled
    rw [compileInto_result unfailing atLeast atMost, Plan.result_ofSource otherTiled]
    exact ReadState.diagnose_append followed stops
  refine ⟨before, item, after, state, tiled, Lexer.upcoming_ofString tiled, followed, stops, ?_,
    decided source after tiled, decided⟩
  exact tiled.offset_eq_of_finish (by simp)

theorem compileInto_ends_with_verdict_at_semicolon :
    Sink.Unfailing Listing.empty ∧ 3 ≤ 3 ∧ 3 ≤ 10 ∧
      (compileInto "1 *\u3000; x" ⟨3⟩ Listing.empty).1.result =
        .error (.grammar (.expectedNumber 6 ";")) := by
  refine ⟨Listing.empty.unfailing, by decide, by decide, ?_⟩
  obtain ⟨before, item, after, state, tiled, -, followed, stops, -, ended, -⟩ :=
    compileInto_ends_with_verdict Listing.empty.unfailing "1 *\u3000; x" ⟨3⟩ (by decide) (by decide)
  have blank : ∀ c ∈ [' '], Text.isBlank c = true := List.all_eq_true.mp rfl
  have wideBlank : ∀ c ∈ ['\u3000'], Text.isBlank c = true := List.all_eq_true.mp rfl
  have known : Tiled 0 ['1', ' ', '*', '\u3000', ';', ' ', 'x'] _ :=
    @Tiled.word 0 [] _ (.number ⟨⟨['1'], []⟩, by decide⟩) _ nofun (by decide) <|
    @Tiled.word 1 [' '] _ .times _ blank (by decide) <|
    @Tiled.word 3 ['\u3000'] _ .semicolon _ wideBlank (by decide) <|
    @Tiled.stray 7 [' '] [] 'x' _ blank (by decide) (Word.scan?_eq_none_iff.mp (by decide)) <|
    .finish nofun
  rw [ended, ← ReadState.diagnose_append followed stops, tiled.unique known]
  rfl

end ThreeAddress
