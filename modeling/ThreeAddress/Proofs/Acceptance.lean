import ThreeAddress.Proofs.Diagnosis
import ThreeAddress.Proofs.Translation

/-!
# The accepted sources are those of the grammar

A tiling on which the automaton of the diagnosis succeeds consists of words and the end, and its
words can be read as a program.  Conversely, the source of a program is planned without an error.
-/

namespace ThreeAddress

namespace ReadState

/-- The state after some words, if each of them has a transition. -/
def run (state : ReadState) (words : List Word) : Option ReadState :=
  words.foldlM (fun state word => state.next? (.word word)) state

/-- An accepted tiling consists of words and the end, and the words lead back to the start. -/
theorem exists_words_of_diagnose {begin : Nat} {text : List Char} {items : List Item}
    (tiled : Tiled begin text items) {state : ReadState}
    (accepted : state.diagnose items = .ok ()) :
    ∃ words : List Word, items.map Item.found = words.map Found.word ++ [.finish] ∧
      state.run words = some start := by
  induction tiled generalizing state with
  | finish blank =>
      refine ⟨[], rfl, ?_⟩
      cases state with
      | start => rfl
      | needOperand | afterNumber => contradiction
  | @word begin gap rest word items blank longest tail ih =>
      cases moves : state.next? (.word word) with
      | none =>
          rw [diagnose_of_stop moves] at accepted
          cases state <;> contradiction
      | some next =>
          rw [diagnose_of_next moves] at accepted
          obtain ⟨words, founds, back⟩ := ih accepted
          refine ⟨word :: words, by simp [founds], ?_⟩
          simpa [run, moves] using back
  | stray blank notBlank noWord tail ih =>
      rw [diagnose_of_stop (by cases state <;> rfl)] at accepted
      cases state <;> contradiction

theorem exists_number_of_run {words : List Word} (back : needOperand.run words = some start) :
    ∃ value rest, words = .number value :: rest := by
  cases words with
  | nil => contradiction
  | cons word words =>
      cases word with
      | number value => exact ⟨value, words, rfl⟩
      | plus | times | semicolon => contradiction

/-- The state of the automaton behind a sum, or between statements. -/
def ofSum : Option Grammar.Sum → ReadState
  | none => start
  | some _ => afterNumber

/-- Words that lead back to the start can be read. -/
theorem exists_parse_of_run {sum : Option Grammar.Sum} {words : List Word}
    (back : (ofSum sum).run words = some start) :
    ∃ program, Grammar.parse sum words = some program := by
  fun_induction Grammar.parse sum words with
  | case1 => exact ⟨[], rfl⟩
  | case2 value words ih => exact ih back
  | case3 sum words ih =>
      obtain ⟨program, read⟩ := ih back
      exact ⟨sum :: program, by simp [read]⟩
  | case4 sum value words ih => exact ih back
  | case5 sum value words ih => exact ih back
  | case6 words sum noEnd noNumber noSemicolon noPlus noTimes =>
      exfalso
      -- No readable form is left, so a word has no transition or the text ends inside a statement.
      cases sum with
      | none =>
          cases words with
          | nil => exact noEnd rfl rfl
          | cons word words =>
              cases word with
              | number value => exact noNumber value words rfl rfl
              | plus | times | semicolon => contradiction
      | some sum =>
          cases words with
          | nil => simp [run, ofSum] at back
          | cons word words =>
              cases word with
              | number value => contradiction
              | semicolon => exact noSemicolon sum words rfl rfl
              | plus =>
                  obtain ⟨value, rest, rfl⟩ := exists_number_of_run back
                  exact noPlus sum value rest rfl rfl
              | times =>
                  obtain ⟨value, rest, rfl⟩ := exists_number_of_run back
                  exact noTimes sum value rest rfl rfl

end ReadState

/-- The plan of a source ends well if and only if the grammar derives the source. -/
theorem Plan.result_ofSource_eq_ok_iff (source : String) :
    (ofSource source).result = .ok () ↔ ∃ program, Grammar.Derives source.toList program := by
  constructor
  · intro ends
    obtain ⟨items, tiled⟩ := Tiled.exists_of_text 0 source.toList
    rw [result_ofSource tiled] at ends
    obtain ⟨words, founds, back⟩ := ReadState.exists_words_of_diagnose tiled ends
    obtain ⟨program, read⟩ := @ReadState.exists_parse_of_run none words back
    have words_eq : words = program.words := Grammar.words_of_parse read
    exact ⟨program, Grammar.spells_of_tiled tiled (words_eq ▸ founds)⟩
  · rintro ⟨program, derives⟩
    rw [ofSource_eq derives]

/-- With three to ten registers, the compiler accepts exactly the texts of the grammar. -/
theorem compile_ok_iff_derives (source : String) (options : Options)
    (atLeast : 3 ≤ options.registers) (atMost : options.registers ≤ 10) :
    (∃ code, (compile source options).result = .ok code) ↔
      ∃ program, Grammar.Derives source.toList program := by
  rw [← Plan.result_ofSource_eq_ok_iff]
  constructor
  · rintro ⟨code, compiled⟩
    exact (compile_ok_iff.mp compiled).2.1
  · intro ends
    obtain ⟨valid, fits⟩ := Options.suffice source atLeast atMost
    exact ⟨_, compile_result_of_fits valid ends fits⟩

theorem compile_ok_iff_derives_sample :
    3 ≤ 3 ∧ 3 ≤ 10 ∧ ∃ code, (compile "7; 2 + 1.5*4;" ⟨3⟩).result = .ok code :=
  ⟨by decide, by decide,
    (compile_ok_iff_derives "7; 2 + 1.5*4;" ⟨3⟩ (by decide) (by decide)).mpr
      ⟨_, Grammar.derives_sample⟩⟩

end ThreeAddress
