import ThreeAddress.Proofs.Concatenation
import ThreeAddress.Proofs.ScanSequence
import ThreeAddress.Proofs.Tokenization

/-!
# Blanks between tokens

Blanks that are put in where a token starts or ends leave all tokens of a readable text as they are.
Those that start behind the place move by the bytes that were put in, and the others stay.  A
compilation therefore ends as before, and only the place that its error names moves.
-/

namespace ThreeAddress

/-- Where a byte of a text is found after so many bytes were put in at a place. -/
def Text.shift (place distance offset : Nat) : Nat :=
  if place ≤ offset then offset + distance else offset

theorem Text.shift_of_le {place offset : Nat} (distance : Nat) (behind : place ≤ offset) :
    shift place distance offset = offset + distance :=
  if_pos behind

theorem Text.shift_of_lt {place offset : Nat} (distance : Nat) (before : offset < place) :
    shift place distance offset = offset :=
  if_neg (Nat.not_le.mpr before)

/-! ## Putting blanks into a tiled text -/

/-- A word that does not go on into a text does not go on into the text with blanks in it. -/
theorem Word.EndsBefore.insert {word : Word} {front back blanks : List Char}
    (ends : word.EndsBefore (front ++ back)) (blank : ∀ c ∈ blanks, Text.isBlank c = true) :
    word.EndsBefore (front ++ (blanks ++ back)) := by
  cases word with
  | plus | times | semicolon => trivial
  | number number =>
      intro c first
      cases front with
      | cons d front => exact ends c first
      | nil =>
          cases blanks with
          | nil => exact ends c first
          | cons d blanks =>
              obtain rfl : d = c := Option.some.inj first
              have isBlank := blank d List.mem_cons_self
              constructor
              · rw [Bool.eq_false_iff]
                intro isDigit
                rw [Text.isBlank_eq_false_of_digit isDigit] at isBlank
                contradiction
              · rintro rfl
                contradiction

namespace Tiled

variable {start place : Nat} {text : List Char} {items : List Item}

theorem start_le_offset (tiled : Tiled start text items) {item : Item} (member : item ∈ items) :
    start ≤ item.offset := by
  obtain ⟨before, _, _, offset_eq, _⟩ := tiled.exists_split member
  rw [offset_eq]
  exact Nat.le_add_right _ _

/-- Behind the place, all items move. -/
theorem shift (tiled : Tiled start text items) (behind : place ≤ start) (distance : Nat) :
    Tiled (start + distance) text (items.map (Item.relocate (Text.shift place distance))) := by
  have same : items.map (Item.relocate (Text.shift place distance)) =
      items.map (Item.relocate (· + distance)) := by
    apply List.map_congr_left
    intro item member
    have later := Nat.le_trans behind (tiled.start_le_offset member)
    simp only [Item.relocate, Text.shift_of_le distance later]
  rw [same]
  exact tiled.relocate distance

/-- Blanks can be put in where the first item starts.  They join those in front of it. -/
private theorem exists_cut_at_first {item : Item} (tiled : Tiled start text (item :: items)) :
    ∃ front back, text = front ++ back ∧ item.offset = start + Text.byteSize front ∧
      ∀ blanks, (∀ c ∈ blanks, Text.isBlank c = true) →
        Tiled start (front ++ (blanks ++ back))
          ((item :: items).map (Item.relocate (Text.shift item.offset (Text.byteSize blanks)))) := by
  obtain ⟨gap, back, rfl, offset_eq, blank, here⟩ : ∃ gap back, text = gap ++ back ∧
      item.offset = start + Text.byteSize gap ∧ (∀ c ∈ gap, Text.isBlank c = true) ∧
      Tiled (start + Text.byteSize gap) back (item :: items) := by
    cases tiled with
    | finish blank => exact ⟨text, [], (List.append_nil text).symm, rfl, blank, .finish nofun⟩
    | @word _ gap rest word _ blank longest tail =>
        exact ⟨gap, _, rfl, rfl, blank, @Tiled.word _ [] rest word _ nofun longest tail⟩
    | @stray _ gap rest c _ blank notBlank noWord tail =>
        exact ⟨gap, _, rfl, rfl, blank, @Tiled.stray _ [] rest c _ nofun notBlank noWord tail⟩
  refine ⟨gap, back, rfl, offset_eq, ?_⟩
  intro blanks isBlank
  exact ((here.shift (Nat.le_of_eq offset_eq) _).blank_append isBlank).blank_append blank

/-- Blanks behind a word leave the word where it is. -/
private theorem word_before_cut {gap front back blanks : List Char} {word : Word}
    (blank : ∀ c ∈ gap, Text.isBlank c = true) (ends : word.EndsBefore (front ++ back))
    (isBlank : ∀ c ∈ blanks, Text.isBlank c = true)
    (behind : start + Text.byteSize gap + Text.byteSize word.text ≤ place)
    (tail : Tiled (start + Text.byteSize gap + Text.byteSize word.text) (front ++ (blanks ++ back))
      (items.map (Item.relocate (Text.shift place (Text.byteSize blanks))))) :
    Tiled start (gap ++ (word.text ++ front) ++ (blanks ++ back))
      ((⟨.word word, start + Text.byteSize gap⟩ :: items).map
        (Item.relocate (Text.shift place (Text.byteSize blanks)))) := by
  obtain ⟨c, rest, text_eq, -⟩ := word.exists_cons
  have before : start + Text.byteSize gap < place := by
    have positive := c.utf8Size_pos
    simp only [text_eq, Text.byteSize_cons] at behind
    omega
  simp only [List.map_cons, Item.relocate, Text.shift_of_lt _ before, List.append_assoc]
  exact .word blank (ends.insert isBlank).longestIn tail

/-- A tiling without stray characters can be cut where an item starts or ends.  Blanks in the cut
move the items behind it and change nothing else. -/
theorem exists_cut (tiled : Tiled start text items) {words : List Word}
    (founds : items.map Item.found = words.map Found.word ++ [.finish]) {item : Item}
    (member : item ∈ items) (boundary : place = item.offset ∨ place = item.stop) :
    ∃ front back, text = front ++ back ∧ place = start + Text.byteSize front ∧
      ∀ blanks, (∀ c ∈ blanks, Text.isBlank c = true) →
        Tiled start (front ++ (blanks ++ back))
          (items.map (Item.relocate (Text.shift place (Text.byteSize blanks)))) := by
  induction tiled generalizing words with
  | @finish start gap blank =>
      obtain rfl := List.mem_singleton.mp member
      obtain rfl : place = start + Text.byteSize gap := by
        rcases boundary with rfl | rfl <;> rfl
      exact (Tiled.finish blank).exists_cut_at_first
  | @word start gap rest word items blank longest tail ih =>
      by_cases atStart : place = start + Text.byteSize gap
      · subst atStart
        exact (Tiled.word blank longest tail).exists_cut_at_first
      · obtain ⟨others, founds⟩ : ∃ others : List Word,
            items.map Item.found = others.map Found.word ++ [.finish] := by
          cases words with
          | nil => simp at founds
          | cons first others => exact ⟨others, (List.cons.inj founds).2⟩
        have ends := (Grammar.spells_of_tiled tail founds).endsBefore longest
        -- The cut is in the text behind the word, perhaps at its very start.
        obtain ⟨front, back, rfl, place_eq, inserted⟩ :
            ∃ front back, rest = front ++ back ∧
              place = start + Text.byteSize gap + Text.byteSize word.text + Text.byteSize front ∧
              ∀ blanks, (∀ c ∈ blanks, Text.isBlank c = true) →
                Tiled (start + Text.byteSize gap + Text.byteSize word.text)
                  (front ++ (blanks ++ back))
                  (items.map (Item.relocate (Text.shift place (Text.byteSize blanks)))) := by
          rcases List.mem_cons.mp member with rfl | later
          · have atStop := boundary.resolve_left atStart
            refine ⟨[], rest, rfl, atStop, ?_⟩
            intro blanks isBlank
            rw [List.nil_append]
            exact (tail.shift (Nat.le_of_eq atStop) _).blank_append isBlank
          · exact ih founds later
        refine ⟨gap ++ (word.text ++ front), back, by simp, ?_, ?_⟩
        · simp only [place_eq, Text.byteSize_append]
          omega
        · intro blanks isBlank
          exact word_before_cut blank ends isBlank (by omega) (inserted blanks isBlank)
  | stray blank notBlank noWord tail ih => cases words <;> simp at founds

end Tiled

/-! ## The tokens of a readable text -/

namespace Item

/-- A token that is read stands where its item stands. -/
theorem exists_item_of_mem_tokens {items : List Item} {token : Token}
    (member : token ∈ (tokens items).1) :
    ∃ item ∈ items, token.offset = item.offset ∧ token.offset + token.length = item.stop := by
  induction items with
  | nil => contradiction
  | cons item items ih =>
      cases outcome : item.outcome with
      | error cause =>
          rw [tokens_of_error outcome] at member
          contradiction
      | ok first =>
          by_cases here : token = first
          · obtain ⟨offset_eq, length_eq⟩ := place_of_outcome outcome
            rw [here, length_eq, offset_eq]
            exact ⟨item, List.mem_cons_self, rfl, rfl⟩
          · have later : token ∈ (tokens items).1 := by
              by_cases last : first.symbol = .endOfInput
              · rw [tokens_of_last outcome last, List.mem_singleton] at member
                contradiction
              · rw [tokens_of_ok outcome last] at member
                exact (List.mem_cons.mp member).resolve_left here
            obtain ⟨other, otherMember, places⟩ := ih later
            exact ⟨other, List.mem_cons_of_mem _ otherMember, places⟩

end Item

/-- A text that is read to its end consists of words. -/
theorem Tiled.exists_words_of_tokens {start : Nat} {text : List Char} {items : List Item}
    (tiled : Tiled start text items) (readable : (Item.tokens items).2 = none) :
    ∃ words : List Word, items.map Item.found = words.map Found.word ++ [.finish] := by
  induction tiled with
  | finish blank => exact ⟨[], rfl⟩
  | @word start gap rest word items blank longest tail ih =>
      rw [Item.tokens_of_ok rfl word.symbol_ne_endOfInput] at readable
      obtain ⟨words, founds⟩ := ih readable
      exact ⟨word :: words, by simp [founds]⟩
  | stray blank notBlank noWord tail ih => contradiction

/-! ## Compiling -/

/-- A source whose items stand elsewhere is planned alike. -/
theorem Plan.ofSource_relocate {source other : String} {items : List Item} {move : Nat → Nat}
    (tiled : Tiled 0 source.toList items)
    (otherTiled : Tiled 0 other.toList (items.map (Item.relocate move))) :
    ofSource other = (ofSource source).relocate move := by
  rw [ofSource, Lexer.upcoming_ofString otherTiled, ofScans_relocate, ofSource,
    Lexer.upcoming_ofString tiled]

/-- A compilation to text is determined by the limited plan. -/
theorem compile_result_limited {source : String} {options : Options}
    (valid : options.validate = .ok ()) :
    (compile source options).result =
      ((Plan.ofSource source).limited options.registers 0).result.map fun _ =>
        ((((Plan.ofSource source).limited options.registers 0).code.instrs 0).foldl
          Sink.receive Buffer.empty).text := by
  obtain ⟨result_eq, sink_eq⟩ := @compileInto_limited _ _ _ Buffer.empty.unfailing source _ valid
  simp only [compile, Outcome.andThen, result_eq, sink_eq]
  cases ((Plan.ofSource source).limited options.registers 0).result with
  | ok value => rfl
  | error cause => rfl

/-- A source that is planned alike compiles alike. -/
theorem compile_relocate {source other : String} {move : Nat → Nat}
    (planned : Plan.ofSource other = (Plan.ofSource source).relocate move) (options : Options) :
    (compile other options).result =
      (compile source options).result.mapError (Error.relocate move) := by
  cases valid : options.validate with
  | error cause =>
      simp only [compile, compileInto, valid]
      rfl
  | ok value =>
      rw [compile_result_limited valid, compile_result_limited valid, planned,
        Plan.limited_relocate]
      simp only [Plan.relocate]
      cases ((Plan.ofSource source).limited options.registers 0).result with
      | ok value => rfl
      | error cause => rfl

/-- A readable source can be cut where one of its tokens starts or ends.  With blanks in the cut, it
compiles to the same code or fails with the same error, and the place that the error names moves by
the bytes of the blanks if it was not before the cut. -/
theorem compile_insert_blanks {source : String} (readable : (Lexer.ofString source).tokens.2 = none)
    {token : Token} (member : token ∈ (Lexer.ofString source).tokens.1) {place : Nat}
    (boundary : place = token.offset ∨ place = token.offset + token.length) :
    ∃ front back, source = front ++ back ∧ front.utf8ByteSize = place ∧
      ∀ (blanks : String) (options : Options), (∀ c ∈ blanks.toList, Text.isBlank c = true) →
        (compile (front ++ blanks ++ back) options).result =
          (compile source options).result.mapError
            (Error.relocate (Text.shift place blanks.utf8ByteSize)) := by
  obtain ⟨items, tiled⟩ := Tiled.exists_of_text 0 source.toList
  rw [Lexer.tokens_ofString tiled] at readable member
  obtain ⟨words, founds⟩ := tiled.exists_words_of_tokens readable
  obtain ⟨item, itemMember, offset_eq, stop_eq⟩ := Item.exists_item_of_mem_tokens member
  rw [stop_eq, offset_eq] at boundary
  obtain ⟨front, back, split, place_eq, inserted⟩ := tiled.exists_cut founds itemMember boundary
  refine ⟨String.ofList front, String.ofList back, ?_, ?_, ?_⟩
  · rw [← String.ofList_append, ← split, String.ofList_toList]
  · rw [Text.utf8ByteSize_ofList, place_eq, Nat.zero_add]
  · intro blanks options isBlank
    have otherTiled := inserted blanks.toList isBlank
    rw [Text.byteSize_toList] at otherTiled
    apply compile_relocate
    apply Plan.ofSource_relocate tiled
    simpa using otherTiled

theorem compile_insert_blanks_sample :
    (Lexer.ofString "1+2").tokens.2 = none ∧ ⟨.plus, 1, 1⟩ ∈ (Lexer.ofString "1+2").tokens.1 ∧
      (compile "1+2" ⟨3⟩).result = .error (.grammar (.expectedTerminator 3 "")) ∧
      (compile "1\u3000\t+2" ⟨3⟩).result = .error (.grammar (.expectedTerminator 7 "")) := by
  have tiled : Tiled 0 "1+2".toList _ :=
    @Tiled.word 0 [] _ (.number ⟨⟨['1'], []⟩, by decide⟩) _ nofun (by decide) <|
    @Tiled.word 1 [] _ .plus _ nofun (by decide) <|
    @Tiled.word 2 [] _ (.number ⟨⟨['2'], []⟩, by decide⟩) _ nofun (by decide) <|
    .finish nofun
  have readable : (Lexer.ofString "1+2").tokens.2 = none := by
    rw [Lexer.tokens_ofString tiled]
    rfl
  have member : ⟨.plus, 1, 1⟩ ∈ (Lexer.ofString "1+2").tokens.1 := by
    rw [Lexer.tokens_ofString tiled]
    exact .tail _ (.head _)
  have failed : (compile "1+2" ⟨3⟩).result = .error (.grammar (.expectedTerminator 3 "")) := by
    rw [compile_error_iff, compileInto_result Buffer.empty.unfailing (by decide) (by decide),
      Plan.result_ofSource tiled]
    rfl
  obtain ⟨front, back, split, size, compiled⟩ :=
    compile_insert_blanks readable member (.inl rfl)
  obtain rfl := Text.front_unique (show "1+2" = "1" ++ "+2" from rfl) split size.symm
  obtain rfl : back = "+2" := by
    rw [← String.append_right_inj "1", ← split]
    rfl
  have moved := compiled "\u3000\t" ⟨3⟩ (List.all_eq_true.mp rfl)
  rw [failed] at moved
  exact ⟨readable, member, failed, moved⟩

end ThreeAddress
