import ThreeAddress.Proofs.Acceptance
import ThreeAddress.Proofs.Relocation

/-!
# Compiling one text behind another

A text of the grammar ends with a semicolon and blanks, so no word of it goes on into a text that is
put behind it.  The items of the joined text are therefore those of the first and then those of the
second, moved by the bytes of the first.  Since the statements of the first leave no register in
use, the second is compiled as it is on its own.
-/

namespace ThreeAddress

namespace Grammar

/-! ## Joining texts -/

/-- A spelled text starts with a blank or a word, never with a point. -/
theorem Spells.head?_ne_point {words : List Word} {text : List Char} (spells : Spells words text) :
    text.head? ≠ some '.' := by
  intro starts
  cases spells with
  | blank blank => exact absurd (blank '.' (List.mem_of_head? starts)) (by decide)
  | @word gap rest word words blank longest tail =>
      cases gap with
      | nil =>
          obtain ⟨c, after, text_eq, first⟩ := word.exists_cons
          rw [text_eq] at starts
          obtain rfl : c = '.' := Option.some.inj starts
          exact absurd first (by decide)
      | cons c gap =>
          obtain rfl : c = '.' := Option.some.inj starts
          exact absurd (blank '.' List.mem_cons_self) (by decide)

theorem Spells.words_eq_nil {words : List Word} (spells : Spells words []) : words = [] := by
  generalize text_eq : ([] : List Char) = text at spells
  cases spells with
  | blank blank => rfl
  | @word gap rest word words blank longest tail =>
      obtain ⟨c, after, word_eq, -⟩ := word.exists_cons
      simp [word_eq] at text_eq

/-- In front of spelled words, a longest word does not go on. -/
theorem Spells.endsBefore {words : List Word} {rest : List Char} (spells : Spells words rest)
    {word : Word} (longest : word.LongestIn (word.text ++ rest)) : word.EndsBefore rest := by
  cases word with
  | plus | times | semicolon => trivial
  | number number =>
      intro c starts
      obtain ⟨after, rfl⟩ := List.head?_eq_some_iff.mp starts
      have read := Numeral.scan?_eq_some_iff.mpr
        ⟨number.property, rfl, Word.longestIn_number_iff.mp longest⟩
      refine ⟨Numeral.not_digit_of_scan? read, ?_⟩
      rintro rfl
      exact spells.head?_ne_point rfl

/-- A text behind spelled words leaves them as they are if the last of them does not go on into
it. -/
theorem Spells.tiled_append {words : List Word} {first second : List Char}
    (spells : Spells words first) {items : List Item}
    (ends : ∀ word, words.getLast? = some word → word.EndsBefore second) {start : Nat}
    (tiled : Tiled (start + Text.byteSize first) second items) :
    ∃ before, Tiled start (first ++ second) (before ++ items) ∧
      before.map Item.found = words.map Found.word := by
  induction spells generalizing start with
  | blank blank => exact ⟨[], tiled.blank_append blank, rfl⟩
  | @word gap rest word words blank longest tail ih =>
      -- The word ends before the rest of the first text, and before the second if nothing is left.
      have wordEnds : word.EndsBefore (rest ++ second) := by
        cases rest with
        | nil =>
            obtain rfl := tail.words_eq_nil
            exact ends word rfl
        | cons c rest =>
            have endsHere := tail.endsBefore longest
            cases word with
            | plus | times | semicolon => trivial
            | number number => exact endsHere
      have lastEnds : ∀ last, words.getLast? = some last → last.EndsBefore second := by
        intro last last_eq
        exact ends last (by simp [List.getLast?_cons, last_eq])
      have place : start + Text.byteSize (gap ++ (word.text ++ rest)) =
          start + Text.byteSize gap + Text.byteSize word.text + Text.byteSize rest := by
        simp only [Text.byteSize_append]
        omega
      rw [place] at tiled
      obtain ⟨before, joined, founds⟩ := ih lastEnds tiled
      refine ⟨⟨.word word, start + Text.byteSize gap⟩ :: before, ?_, by simp [founds]⟩
      rw [List.append_assoc, List.append_assoc]
      exact .word blank wordEnds.longestIn joined

/-- The last word of a program goes on into no text. -/
theorem Program.endsBefore_of_getLast? {program : Program} (text : List Char) {word : Word}
    (last : program.words.getLast? = some word) : word.EndsBefore text := by
  induction program with
  | nil => contradiction
  | cons sum program ih =>
      rw [words, List.getLast?_append, List.getLast?_cons, Option.some_or] at last
      cases following : (words program).getLast? with
      | none =>
          rw [following] at last
          cases last
          trivial
      | some other =>
          rw [following] at last
          cases last
          exact ih following

end Grammar

/-! ## Joining sources -/

/-- Behind the source of a program, a source is planned as on its own. -/
theorem Plan.ofSource_append {first : String} {program : Grammar.Program}
    (derives : Grammar.Derives first.toList program) (second : String) :
    ofSource (first ++ second) =
      ((ofSource second).relocate (· + Text.byteSize first.toList)).precededBy
        program.stackCode := by
  obtain ⟨items, tiled⟩ := Tiled.exists_of_text 0 second.toList
  obtain ⟨before, joined, founds⟩ :=
    Grammar.Spells.tiled_append derives (fun word => Grammar.Program.endsBefore_of_getLast? _)
      (tiled.relocate (Text.byteSize first.toList))
  rw [← String.toList_append] at joined
  rw [ofSource, Lexer.upcoming_ofString joined, List.map_append,
    program.ofScans_append _ founds, ofScans_relocate, ofSource, Lexer.upcoming_ofString tiled]

/-- A program that fits leaves the whole pool to the source behind it. -/
theorem Plan.limited_ofSource_append {first : String} {program : Grammar.Program}
    (derives : Grammar.Derives first.toList program) {capacity : Nat}
    (fits : program.stackCode.peak 0 ≤ capacity) (second : String) :
    (ofSource (first ++ second)).limited capacity 0 =
      (((ofSource second).limited capacity 0).relocate
        (· + Text.byteSize first.toList)).precededBy program.stackCode := by
  rw [ofSource_append derives, limited_precededBy _ fits, program.depth_stackCode,
    limited_relocate]

/-- Behind the source of a program that fits, a compilation ends as on its own and lists the
instructions of both. -/
theorem compileInto_append {first : String} {program : Grammar.Program}
    (derives : Grammar.Derives first.toList program) {options : Options}
    (valid : options.validate = .ok ()) (fits : program.stackCode.peak 0 ≤ options.registers)
    (second : String) :
    (compileInto (first ++ second) options Listing.empty).1.result =
        (compileInto second options Listing.empty).1.result.mapError
          (Error.relocate (· + Text.byteSize first.toList)) ∧
      (compileInto (first ++ second) options Listing.empty).2.instrs.toList =
        (compileInto first options Listing.empty).2.instrs.toList ++
          (compileInto second options Listing.empty).2.instrs.toList := by
  have joined := Plan.limited_ofSource_append derives fits second
  have alone : (Plan.ofSource first).limited options.registers 0 = ⟨program.stackCode, .ok ()⟩ := by
    rw [Plan.ofSource_eq derives]
    exact Plan.limited_of_fits fits
  constructor
  · rw [(compileInto_limited Listing.empty.unfailing valid).1,
      (compileInto_limited Listing.empty.unfailing valid).1, joined]
    rfl
  · rw [compileInto_listing valid, compileInto_listing valid, compileInto_listing valid, joined,
      alone]
    simp [Plan.precededBy, Plan.relocate]

/-- Behind a source that compiles, a source is compiled as on its own: the code of both is joined,
and an error is the same, at its place in the joined text, after the instructions of both. -/
theorem compile_append {first : String} {options : Options} {code : String}
    (compiled : (compile first options).result = .ok code) (second : String) :
    (∀ other, (compile second options).result = .ok other →
      (compile (first ++ second) options).result = .ok (code ++ other)) ∧
    ∀ cause, (compileInto second options Listing.empty).1.result = .error cause →
      (compileInto (first ++ second) options Listing.empty).1.result =
          .error (cause.relocate (· + Text.byteSize first.toList)) ∧
        (compileInto (first ++ second) options Listing.empty).2.instrs.toList =
          (compileInto first options Listing.empty).2.instrs.toList ++
            (compileInto second options Listing.empty).2.instrs.toList := by
  obtain ⟨valid, ends, fits, code_eq⟩ := compile_ok_iff.mp compiled
  obtain ⟨program, derives⟩ := (Plan.result_ofSource_eq_ok_iff first).mp ends
  rw [Plan.ofSource_eq derives] at fits code_eq
  constructor
  · intro other otherCompiled
    obtain ⟨-, otherEnds, otherFits, other_eq⟩ := compile_ok_iff.mp otherCompiled
    refine compile_ok_iff.mpr ⟨valid, ?_, ?_, ?_⟩
    · rw [Plan.ofSource_append derives]
      simp only [Plan.precededBy, Plan.relocate, otherEnds]
      rfl
    · rw [Plan.ofSource_append derives]
      simp only [Plan.precededBy, Plan.relocate, StackCode.peak_append, program.depth_stackCode]
      exact Nat.max_le.mpr ⟨fits, otherFits⟩
    · rw [Plan.ofSource_append derives, String.toList_append, code_eq, other_eq]
      simp [Plan.precededBy, Plan.relocate]
  · intro cause failed
    obtain ⟨result_eq, listing_eq⟩ := compileInto_append derives valid fits second
    refine ⟨?_, listing_eq⟩
    rw [result_eq, failed]
    rfl

theorem compile_append_sample :
    ∃ code, (compile "7; 2 + 1.5*4;" ⟨3⟩).result = .ok code ∧
      (compile ("7; 2 + 1.5*4;" ++ "7; 2 + 1.5*4;") ⟨3⟩).result = .ok (code ++ code) ∧
      (compileInto "8 + x" ⟨3⟩ Listing.empty).1.result =
        .error (.scan (.unexpectedCharacter 4 'x')) ∧
      (compileInto ("7; 2 + 1.5*4;" ++ "8 + x") ⟨3⟩ Listing.empty).1.result =
        .error (.scan (.unexpectedCharacter 17 'x')) := by
  have planned := Plan.ofSource_eq Grammar.derives_sample
  have compiled := @compile_result_of_fits "7; 2 + 1.5*4;" ⟨3⟩ rfl (by rw [planned])
    (by rw [planned]; decide)
  have blank : ∀ c ∈ [' '], Text.isBlank c = true := List.all_eq_true.mp rfl
  have tiled : Tiled 0 "8 + x".toList _ :=
    @Tiled.word 0 [] _ (.number ⟨⟨['8'], []⟩, by decide⟩) _ nofun (by decide) <|
    @Tiled.word 1 [' '] _ .plus _ blank (by decide) <|
    @Tiled.stray 3 [' '] [] 'x' _ blank (by decide) (Word.scan?_eq_none_iff.mp (by decide)) <|
    .finish nofun
  have failed : (compileInto "8 + x" ⟨3⟩ Listing.empty).1.result =
      .error (.scan (.unexpectedCharacter 4 'x')) := by
    rw [compileInto_result Listing.empty.unfailing (by decide) (by decide),
      Plan.result_ofSource tiled]
    rfl
  exact ⟨_, compiled, (compile_append compiled _).1 _ compiled, failed,
    ((compile_append compiled _).2 _ failed).1⟩

end ThreeAddress
