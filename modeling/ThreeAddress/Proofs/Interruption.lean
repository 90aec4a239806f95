import ThreeAddress.Proofs.Concatenation
import ThreeAddress.Proofs.Delivery

/-!
# What is emitted before an error

A source that is refused has a front, the text before the item at which it is refused.  The words of
the front stay the same words if another text follows that no number goes on into, so code generation
reaches the same phase with the same code behind it.  What was emitted up to the error is therefore
emitted for every such text.  Only a missing semicolon completes the code of its statement first.
-/

namespace ThreeAddress

/-! ## The text in front of an item -/

theorem Word.LongestIn.of_prefix {word : Word} {input shorter : List Char}
    (longest : word.LongestIn input) (starts : shorter <+: input) : word.LongestIn shorter :=
  fun other otherStarts => longest other (otherStarts.trans starts)

/-- The words before an item are spelled by the text before it. -/
theorem Tiled.exists_front {start : Nat} {text : List Char} {before after : List Item}
    {item : Item} {words : List Word} (tiled : Tiled start text (before ++ item :: after))
    (founds : before.map Item.found = words.map Found.word) :
    ∃ front back, text = front ++ back ∧ item.offset = start + Text.byteSize front ∧
      Grammar.Spells words front := by
  induction before generalizing start text words with
  | nil =>
      obtain rfl := List.map_eq_nil_iff.mp founds.symm
      rw [List.nil_append] at tiled
      cases tiled with
      | finish blank => exact ⟨text, [], by simp, rfl, .blank blank⟩
      | @word _ gap rest word _ blank longest tail => exact ⟨gap, _, rfl, rfl, .blank blank⟩
      | @stray _ gap rest c _ blank notBlank noWord tail => exact ⟨gap, _, rfl, rfl, .blank blank⟩
  | cons first before ih =>
      obtain ⟨word, words, rfl, word_eq, restFounds⟩ := List.map_eq_cons_iff.mp founds.symm
      rw [List.cons_append] at tiled
      generalize others_eq : before ++ item :: after = others at tiled
      cases tiled with
      | finish blank => simp at others_eq
      | @word _ gap rest other _ blank longest tail =>
          obtain rfl : word = other := Found.word.inj word_eq
          subst others_eq
          obtain ⟨front, back, rfl, offset_eq, spells⟩ := ih tail restFounds.symm
          refine ⟨gap ++ (word.text ++ front), back, by simp, ?_, ?_⟩
          · simp only [offset_eq, Text.byteSize_append]
            omega
          · apply Grammar.Spells.word blank _ spells
            apply longest.of_prefix
            rw [← List.append_assoc]
            exact List.prefix_append _ _
      | stray blank notBlank noWord tail => contradiction

namespace ReadState

theorem exists_word_of_next? {state next : ReadState} {found : Found}
    (moves : state.next? found = some next) : ∃ word, found = .word word := by
  cases found with
  | word word => exact ⟨word, rfl⟩
  | stray c => cases state <;> contradiction
  | finish => cases state <;> contradiction

/-- Items that the automaton follows are words. -/
theorem exists_words_of_follow {state last : ReadState} {items : List Item}
    (followed : state.follow items = some last) :
    ∃ words : List Word, items.map Item.found = words.map Found.word ∧
      state.run words = some last := by
  induction items generalizing state with
  | nil => exact ⟨[], rfl, followed⟩
  | cons item items ih =>
      simp only [follow, List.foldlM_cons, Option.bind_eq_bind, Option.bind_eq_some_iff] at followed
      obtain ⟨next, moves, followed⟩ := followed
      obtain ⟨word, found_eq⟩ := exists_word_of_next? moves
      obtain ⟨words, founds, reached⟩ := ih followed
      refine ⟨word :: words, by simp [found_eq, founds], ?_⟩
      rw [found_eq] at moves
      simpa [run, moves] using reached

/-- From every state, some text behind a blank leads to a good end. -/
theorem exists_completion (state : ReadState) (place : Nat) :
    ∃ (rest : String) (items : List Item),
      Tiled place (" " ++ rest).toList items ∧ state.diagnose items = .ok () := by
  have blank : ∀ c ∈ [' '], Text.isBlank c = true := List.all_eq_true.mp rfl
  cases state with
  | start => exact ⟨"", _, .finish blank, rfl⟩
  | needOperand =>
      have tiled : Tiled place " 0;".toList _ :=
        @Tiled.word place [' '] _ (.number ⟨⟨['0'], []⟩, by decide⟩) _ blank (by decide) <|
        @Tiled.word _ [] _ .semicolon _ nofun (by decide) <|
        .finish nofun
      exact ⟨"0;", _, tiled, rfl⟩
  | afterNumber =>
      have tiled : Tiled place " ;".toList _ :=
        @Tiled.word place [' '] _ .semicolon _ blank (by decide) <|
        .finish nofun
      exact ⟨";", _, tiled, rfl⟩

end ReadState

/-! ## The plan behind the front -/

/-- After some words, the plan goes on in a phase and behind code that only the words determine. -/
theorem Plan.exists_continuation {phase : Phase} {words : List Word} {last : ReadState}
    (reached : phase.state.run words = some last) :
    ∃ (code : StackCode) (next : Phase), next.state = last ∧
      ∀ (items : List Item) (scans : List Scan), items.map Item.found = words.map Found.word →
        ofScans phase (items.map Item.scan ++ scans) = (ofScans next scans).precededBy code := by
  induction words generalizing phase with
  | nil =>
      refine ⟨[], phase, Option.some.inj reached, ?_⟩
      intro items scans founds
      obtain rfl := List.map_eq_nil_iff.mp founds
      rfl
  | cons word words ih =>
      simp only [ReadState.run, List.foldlM_cons, Option.bind_eq_bind,
        Option.bind_eq_some_iff] at reached
      obtain ⟨state, moves, reached⟩ := reached
      rcases phase.react_item ⟨.word word, 0⟩ with ⟨code, next, reacted, follows⟩ | ⟨_, _, stops⟩
      · obtain rfl : next.state = state := Option.some.inj (follows.symm.trans moves)
        obtain ⟨behind, final, final_eq, continues⟩ := ih reached
        refine ⟨code ++ behind, final, final_eq, ?_⟩
        intro items scans founds
        obtain ⟨⟨found, offset⟩, rest, rfl, found_eq, restFounds⟩ :=
          List.map_eq_cons_iff.mp founds
        obtain rfl : found = .word word := found_eq
        -- The code of a word does not depend on where the word stands.
        have moved : phase.react (Item.scan ⟨.word word, offset⟩) = (code, .goOn next) := by
          have relocated := @Phase.react_relocate (fun _ => offset) phase ⟨.word word, 0⟩
          rw [reacted] at relocated
          exact relocated
        rw [List.map_cons, List.cons_append, ofScans_of_goOn moved, continues rest scans restFounds,
          precededBy_precededBy]
      · rw [stops] at moves
        contradiction

/-- A source has a front before the item at which the plan stops.  Behind the same front and the same
code, the plan goes on with any text into which no number goes on. -/
theorem Plan.exists_interruption (source : String) :
    ∃ (front back : String) (code : StackCode) (phase : Phase) (item : Item) (scans : List Scan),
      source = front ++ back ∧ front.utf8ByteSize = item.offset ∧
      phase.state.next? item.found = none ∧
      ofSource source = (ofScans phase (item.scan :: scans)).precededBy code ∧
      ∀ (rest : String) (items : List Item), Numeral.EndsBefore rest.toList →
        Tiled item.offset rest.toList items →
          ofSource (front ++ rest) = (ofScans phase (items.map Item.scan)).precededBy code := by
  obtain ⟨items, tiled⟩ := Tiled.exists_of_text 0 source.toList
  obtain ⟨before, item, after, state, rfl, followed, stops⟩ :=
    ReadState.start.exists_stop tiled.exists_finish
  obtain ⟨words, founds, reached⟩ := ReadState.exists_words_of_follow followed
  obtain ⟨front, back, split, offset_eq, spells⟩ := tiled.exists_front founds
  obtain ⟨code, phase, rfl, continues⟩ := @Plan.exists_continuation .boundary _ _ reached
  rw [Nat.zero_add] at offset_eq
  refine ⟨String.ofList front, String.ofList back, code, phase, item, after.map Item.scan,
    ?_, ?_, stops, ?_, ?_⟩
  · rw [← String.ofList_append, ← split, String.ofList_toList]
  · rw [← Text.byteSize_toList, String.toList_ofList, offset_eq]
  · rw [ofSource, Lexer.upcoming_ofString tiled, List.map_append, List.map_cons]
    exact continues before _ founds
  · intro rest items ends restTiled
    have lastEnds : ∀ word, words.getLast? = some word → word.EndsBefore rest.toList := by
      intro word _
      cases word with
      | plus | times | semicolon => trivial
      | number number => exact ends
    rw [offset_eq, ← Nat.zero_add (Text.byteSize front)] at restTiled
    obtain ⟨again, joined, againFounds⟩ := spells.tiled_append lastEnds restTiled
    have text_eq : (String.ofList front ++ rest).toList = front ++ rest.toList := by
      rw [String.toList_append, String.toList_ofList]
    rw [ofSource, Lexer.upcoming_ofString (text_eq ▸ joined), List.map_append]
    exact continues again _ againFounds

/-! ## Interruptions -/

/-- The error breaks off a statement at the given byte, or the source between two statements. -/
inductive Error.InterruptsAt (offset : Nat) : Error → Prop where
  | character (found : Char) : InterruptsAt offset (.scan (.unexpectedCharacter offset found))
  | number (lexeme : String) : InterruptsAt offset (.grammar (.expectedNumber offset lexeme))
  | ended : InterruptsAt offset (.grammar (.unexpectedEnd offset))

namespace Phase

variable {phase : Phase} {item : Item} {offset : Nat}

/-- At an item without a transition, a phase stops with the verdict. -/
theorem exists_react_stop (stops : phase.state.next? item.found = none) :
    ∃ code, phase.react item.scan = (code, .stop (phase.state.verdict item)) := by
  rcases phase.react_item item with ⟨_, next, _, moves⟩ | ⟨code, reacted, _⟩
  · rw [stops] at moves
    contradiction
  · exact ⟨code, reacted⟩

/-- Where a statement is broken off, nothing more is emitted. -/
theorem react_of_interruptsAt {cause : Error} (stops : phase.state.next? item.found = none)
    (failed : phase.state.verdict item = .error cause) (interrupts : cause.InterruptsAt offset) :
    phase.react item.scan = ([], .stop (.error cause)) ∧ item.offset = offset := by
  obtain ⟨found, place⟩ := item
  cases found with
  | stray c =>
      cases phase <;> cases failed <;> cases interrupts <;> exact ⟨rfl, rfl⟩
  | finish =>
      cases phase with
      | boundary => contradiction
      | operand sum product => cases failed; cases interrupts; exact ⟨rfl, rfl⟩
      | operator sum product => cases failed; cases interrupts
  | word word =>
      cases phase with
      | boundary | operand =>
          cases word with
          | number value => contradiction
          | plus | times | semicolon => cases failed; cases interrupts; exact ⟨rfl, rfl⟩
      | operator sum product => cases failed; cases interrupts

/-- Where a semicolon is missing, the same is emitted as at a semicolon. -/
theorem react_of_expectedTerminator {lexeme : String}
    (stops : phase.state.next? item.found = none)
    (failed : phase.state.verdict item = .error (.grammar (.expectedTerminator offset lexeme))) :
    ∃ code, phase.react item.scan =
        (code, .stop (.error (.grammar (.expectedTerminator offset lexeme)))) ∧
      item.offset = offset ∧
      ∀ place, phase.react (Item.scan ⟨.word .semicolon, place⟩) = (code, .goOn .boundary) := by
  obtain ⟨found, place⟩ := item
  cases phase with
  | boundary | operand => cases found <;> cases failed
  | operator sum product =>
      cases found with
      | stray c => cases failed
      | finish => cases failed; exact ⟨_, rfl, rfl, fun _ => rfl⟩
      | word word =>
          cases word with
          | number value => cases failed; exact ⟨_, rfl, rfl, fun _ => rfl⟩
          | plus | times | semicolon => contradiction

end Phase

/-! ## Listings -/

section Listings

variable {options : Options}

/-- With enough registers, a compilation lists the instructions of the whole plan. -/
theorem compileInto_listing_eq (source : String) (atLeast : 3 ≤ options.registers)
    (atMost : options.registers ≤ 10) :
    (compileInto source options Listing.empty).2.instrs.toList =
      (Plan.ofSource source).code.instrs 0 := by
  obtain ⟨valid, fits⟩ := Options.suffice source atLeast atMost
  rw [compileInto_listing valid, Plan.limited_of_fits fits]

/-- A source that is broken off has listed what every source with the same front lists first. -/
theorem exists_front_of_interruptsAt {source : String} (atLeast : 3 ≤ options.registers)
    (atMost : options.registers ≤ 10) {cause : Error} {offset : Nat}
    (failed : (compileInto source options Listing.empty).1.result = .error cause)
    (interrupts : cause.InterruptsAt offset) :
    ∃ front back : String, source = front ++ back ∧ front.utf8ByteSize = offset ∧
      (∃ rest, (compileInto (front ++ " " ++ rest) options Listing.empty).1.result = .ok ()) ∧
      ∀ rest, (compileInto source options Listing.empty).2.instrs.toList <+:
        (compileInto (front ++ " " ++ rest) options Listing.empty).2.instrs.toList := by
  obtain ⟨front, back, code, phase, item, scans, split, size_eq, stops, planned, continues⟩ :=
    Plan.exists_interruption source
  obtain ⟨stopCode, stopped⟩ := Phase.exists_react_stop stops
  rw [compileInto_result Listing.empty.unfailing atLeast atMost, planned,
    Plan.ofScans_of_stop stopped] at failed
  obtain ⟨reacted, offset_eq⟩ := Phase.react_of_interruptsAt stops failed interrupts
  have ends : ∀ rest : String, Numeral.EndsBefore (" " ++ rest).toList := by
    intro rest c first
    obtain rfl : ' ' = c := by simpa using first
    decide
  refine ⟨front, back, split, size_eq.trans offset_eq, ?_, ?_⟩
  · obtain ⟨rest, items, tiled, ended⟩ := phase.state.exists_completion item.offset
    refine ⟨rest, ?_⟩
    rw [compileInto_result Listing.empty.unfailing atLeast atMost, String.append_assoc,
      continues _ items (ends rest) tiled]
    exact (Plan.result_ofScans phase items).trans ended
  · intro rest
    obtain ⟨items, tiled⟩ := Tiled.exists_of_text item.offset (" " ++ rest).toList
    rw [compileInto_listing_eq source atLeast atMost, compileInto_listing_eq _ atLeast atMost,
      planned, Plan.ofScans_of_stop reacted, String.append_assoc,
      continues _ items (ends rest) tiled]
    simp only [Plan.precededBy, List.append_nil, StackCode.instrs_append]
    exact List.prefix_append _ _

/-- A source in which a semicolon is missing has listed what it lists if the semicolon stands
there and ends it. -/
theorem exists_front_of_expectedTerminator {source : String} (atLeast : 3 ≤ options.registers)
    (atMost : options.registers ≤ 10) {offset : Nat} {lexeme : String}
    (failed : (compileInto source options Listing.empty).1.result =
      .error (.grammar (.expectedTerminator offset lexeme))) :
    ∃ front back : String, source = front ++ back ∧ front.utf8ByteSize = offset ∧
      (compileInto (front ++ ";") options Listing.empty).1.result = .ok () ∧
      (compileInto (front ++ ";") options Listing.empty).2.instrs.toList =
        (compileInto source options Listing.empty).2.instrs.toList := by
  obtain ⟨front, back, code, phase, item, scans, split, size_eq, stops, planned, continues⟩ :=
    Plan.exists_interruption source
  obtain ⟨stopCode, stopped⟩ := Phase.exists_react_stop stops
  rw [compileInto_result Listing.empty.unfailing atLeast atMost, planned,
    Plan.ofScans_of_stop stopped] at failed
  obtain ⟨lastCode, reacted, offset_eq, atSemicolon⟩ :=
    Phase.react_of_expectedTerminator stops failed
  have ends : Numeral.EndsBefore ";".toList := by
    intro c first
    obtain rfl : ';' = c := by simpa using first
    decide
  have tiled : Tiled item.offset ";".toList _ :=
    @Tiled.word item.offset [] _ .semicolon _ nofun (by decide) <| .finish nofun
  -- At the semicolon and then at the end, the plan has no error, and the same code as without.
  have completed : Plan.ofSource (front ++ ";") = ⟨code ++ lastCode, .ok ()⟩ := by
    rw [continues _ _ ends tiled, List.map_cons, Plan.ofScans_of_goOn (atSemicolon _),
      List.map_cons, Plan.ofScans_finish rfl]
    simp [Plan.precededBy]
  refine ⟨front, back, split, size_eq.trans offset_eq, ?_, ?_⟩
  · rw [compileInto_result Listing.empty.unfailing atLeast atMost, completed]
  · rw [compileInto_listing_eq source atLeast atMost, compileInto_listing_eq _ atLeast atMost,
      planned, Plan.ofScans_of_stop reacted, completed]
    rfl

end Listings

/-- What is listed before an error is determined by the text before the place of the error.  If the
source is broken off there, every source that goes on from there behind a blank, and there are some
that compile, lists the same and then perhaps more.  If a semicolon is missing there, the text before
compiles with a semicolon behind it, and lists exactly the same. -/
theorem compileInto_lists_determined_code (source : String) {options : Options}
    (atLeast : 3 ≤ options.registers) (atMost : options.registers ≤ 10) :
    (∀ (cause : Error) (offset : Nat),
      (compileInto source options Listing.empty).1.result = .error cause →
      (∃ found, cause = .scan (.unexpectedCharacter offset found)) ∨
        (∃ lexeme, cause = .grammar (.expectedNumber offset lexeme)) ∨
        cause = .grammar (.unexpectedEnd offset) →
      ∃ front back : String, source = front ++ back ∧ front.utf8ByteSize = offset ∧
        (∃ rest, (compileInto (front ++ " " ++ rest) options Listing.empty).1.result = .ok ()) ∧
        ∀ rest, (compileInto source options Listing.empty).2.instrs.toList <+:
          (compileInto (front ++ " " ++ rest) options Listing.empty).2.instrs.toList) ∧
    ∀ (offset : Nat) (lexeme : String),
      (compileInto source options Listing.empty).1.result =
        .error (.grammar (.expectedTerminator offset lexeme)) →
      ∃ front back : String, source = front ++ back ∧ front.utf8ByteSize = offset ∧
        (compileInto (front ++ ";") options Listing.empty).1.result = .ok () ∧
        (compileInto (front ++ ";") options Listing.empty).2.instrs.toList =
          (compileInto source options Listing.empty).2.instrs.toList := by
  constructor
  · intro cause offset failed kinds
    have interrupts : cause.InterruptsAt offset := by
      rcases kinds with ⟨found, rfl⟩ | ⟨lexeme, rfl⟩ | rfl
      · exact .character found
      · exact .number lexeme
      · exact .ended
    exact exists_front_of_interruptsAt atLeast atMost failed interrupts
  · intro offset lexeme failed
    exact exists_front_of_expectedTerminator atLeast atMost failed

theorem compileInto_lists_determined_code_sample :
    3 ≤ 3 ∧ 3 ≤ 10 ∧
      (compileInto "8 + x" ⟨3⟩ Listing.empty).1.result =
        .error (.scan (.unexpectedCharacter 4 'x')) ∧
      (∀ rest, (compileInto "8 + x" ⟨3⟩ Listing.empty).2.instrs.toList <+:
        (compileInto ("8 + " ++ " " ++ rest) ⟨3⟩ Listing.empty).2.instrs.toList) ∧
      (compileInto "8 9" ⟨3⟩ Listing.empty).1.result =
        .error (.grammar (.expectedTerminator 2 "9")) ∧
      (compileInto ("8 " ++ ";") ⟨3⟩ Listing.empty).2.instrs.toList =
        (compileInto "8 9" ⟨3⟩ Listing.empty).2.instrs.toList := by
  have blank : ∀ c ∈ [' '], Text.isBlank c = true := List.all_eq_true.mp rfl
  have strayTiled : Tiled 0 "8 + x".toList _ :=
    @Tiled.word 0 [] _ (.number ⟨⟨['8'], []⟩, by decide⟩) _ nofun (by decide) <|
    @Tiled.word 1 [' '] _ .plus _ blank (by decide) <|
    @Tiled.stray 3 [' '] [] 'x' _ blank (by decide) (Word.scan?_eq_none_iff.mp (by decide)) <|
    .finish nofun
  have openTiled : Tiled 0 "8 9".toList _ :=
    @Tiled.word 0 [] _ (.number ⟨⟨['8'], []⟩, by decide⟩) _ nofun (by decide) <|
    @Tiled.word 1 [' '] _ (.number ⟨⟨['9'], []⟩, by decide⟩) _ blank (by decide) <|
    .finish nofun
  have stray : (compileInto "8 + x" ⟨3⟩ Listing.empty).1.result =
      .error (.scan (.unexpectedCharacter 4 'x')) := by
    rw [compileInto_result Listing.empty.unfailing (by decide) (by decide),
      Plan.result_ofSource strayTiled]
    rfl
  have unclosed : (compileInto "8 9" ⟨3⟩ Listing.empty).1.result =
      .error (.grammar (.expectedTerminator 2 "9")) := by
    rw [compileInto_result Listing.empty.unfailing (by decide) (by decide),
      Plan.result_ofSource openTiled]
    rfl
  obtain ⟨strayFront, strayBack, straySplit, straySize, -, listed⟩ :=
    (@compileInto_lists_determined_code "8 + x" ⟨3⟩ (by decide) (by decide)).1 _ 4 stray
      (.inl ⟨'x', rfl⟩)
  obtain ⟨front, back, split, size, -, same⟩ :=
    (@compileInto_lists_determined_code "8 9" ⟨3⟩ (by decide) (by decide)).2 2 "9" unclosed
  obtain rfl := Text.front_unique (show "8 + x" = "8 + " ++ "x" from rfl) straySplit straySize.symm
  obtain rfl := Text.front_unique (show "8 9" = "8 " ++ "9" from rfl) split size.symm
  exact ⟨by decide, by decide, stray, listed, unclosed, same⟩

end ThreeAddress
