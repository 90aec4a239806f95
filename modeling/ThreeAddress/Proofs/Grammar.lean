import ThreeAddress.Proofs.Tiling

/-!
# The grammar of statements

A program is a sequence of sums, each ended by a semicolon, a sum joins factors by plus signs, and
a factor joins numbers by multiplication signs.  Both operators group to the left, so the trees do.
A text derives a program if it spells the words of the program.  The grammar is unambiguous: the
words of a program determine it.
-/

namespace ThreeAddress.Grammar

/-- Numbers joined by multiplication signs. -/
inductive Factor where
  | number (value : Number)
  | times (left : Factor) (right : Number)

/-- Factors joined by plus signs. -/
inductive Sum where
  | factor (value : Factor)
  | plus (left : Sum) (right : Factor)

/-- Sums, each ended by a semicolon. -/
abbrev Program := List Sum

def Factor.words : Factor → List Word
  | number value => [.number value]
  | times left right => left.words ++ [.times, .number right]

def Sum.words : Sum → List Word
  | factor value => value.words
  | plus left right => left.words ++ .plus :: right.words

def Program.words : Program → List Word
  | [] => []
  | sum :: program => sum.words ++ .semicolon :: words program

/-- A text consists of the words in their order, with blanks before, between and behind them.
Each word is the longest that starts where it stands, so no two neighbours are parts of one longer
number. -/
inductive Spells : List Word → List Char → Prop where
  | blank {gap : List Char} (blank : ∀ c ∈ gap, Text.isBlank c = true) : Spells [] gap
  | word {gap rest : List Char} {word : Word} {words : List Word}
      (blank : ∀ c ∈ gap, Text.isBlank c = true)
      (longest : word.LongestIn (word.text ++ rest)) (tail : Spells words rest) :
      Spells (word :: words) (gap ++ (word.text ++ rest))

/-- The text is derived by the grammar, as the given program. -/
def Derives (text : List Char) (program : Program) : Prop :=
  Spells program.words text

/-! ## Reading words -/

/-- Multiply the last factor of a sum by a number. -/
def Sum.times : Sum → Number → Sum
  | factor value, right => factor (.times value right)
  | plus left value, right => plus left (.times value right)

theorem Sum.words_times (sum : Sum) (right : Number) :
    (sum.times right).words = sum.words ++ [.times, .number right] := by
  cases sum with
  | factor value => rfl
  | plus left value => simp [times, words, Factor.words]

/-- Read words behind the sum that was read so far, if any was. -/
def parse : Option Sum → List Word → Option Program
  | none, [] => some []
  | none, .number value :: words => parse (some (.factor (.number value))) words
  | some sum, .semicolon :: words => (parse none words).map (sum :: ·)
  | some sum, .plus :: .number value :: words => parse (some (.plus sum (.number value))) words
  | some sum, .times :: .number value :: words => parse (some (sum.times value)) words
  | _, _ => none

/-- Words that can be read are the words of what is read. -/
theorem words_of_parse {sum : Option Sum} {words : List Word} {program : Program}
    (read : parse sum words = some program) :
    (sum.map Sum.words).getD [] ++ words = program.words := by
  fun_induction parse sum words generalizing program with
  | case1 =>
      cases read
      rfl
  | case2 value words ih => exact ih read
  | case3 sum words ih =>
      obtain ⟨rest, tail, rfl⟩ := Option.map_eq_some_iff.mp read
      simp [Program.words, ← ih tail]
  | case4 sum value words ih => simpa [Sum.words, Factor.words] using ih read
  | case5 sum value words ih => simpa [Sum.words_times] using ih read
  | case6 => contradiction

private theorem parse_factor (factor : Factor) (rest : List Word) :
    parse none (factor.words ++ rest) = parse (some (.factor factor)) rest := by
  induction factor generalizing rest with
  | number value => rfl
  | times left right ih =>
      rw [Factor.words, List.append_assoc, ih]
      rfl

private theorem parse_plus (sum : Sum) (factor : Factor) (rest : List Word) :
    parse (some sum) (.plus :: (factor.words ++ rest)) = parse (some (.plus sum factor)) rest := by
  induction factor generalizing rest with
  | number value => rfl
  | times left right ih =>
      rw [Factor.words, List.append_assoc, ih]
      rfl

private theorem parse_sum (sum : Sum) (rest : List Word) :
    parse none (sum.words ++ rest) = parse (some sum) rest := by
  induction sum generalizing rest with
  | factor value => exact parse_factor value rest
  | plus left right ih =>
      rw [Sum.words, List.append_assoc, ih]
      exact parse_plus left right rest

/-- The words of a program are read as that program. -/
theorem parse_words (program : Program) : parse none program.words = some program := by
  induction program with
  | nil => rfl
  | cons sum program ih =>
      rw [Program.words, parse_sum]
      simp [parse, ih]

/-- The grammar is unambiguous. -/
theorem words_injective : Function.Injective Program.words := by
  intro program other same
  have read := parse_words program
  rw [same, parse_words other] at read
  exact (Option.some.inj read).symm

/-! ## Spelling and tiling -/

theorem Spells.exists_tiled {words : List Word} {text : List Char} (spells : Spells words text)
    (start : Nat) :
    ∃ items, Tiled start text items ∧
      items.map Item.found = words.map Found.word ++ [.finish] := by
  induction spells generalizing start with
  | blank blank => exact ⟨_, .finish blank, rfl⟩
  | @word gap rest word words blank longest tail ih =>
      obtain ⟨items, tiled, founds⟩ :=
        ih (start + Text.byteSize gap + Text.byteSize word.text)
      exact ⟨_, .word blank longest tiled, by simp [founds]⟩

theorem spells_of_tiled {start : Nat} {text : List Char} {items : List Item}
    (tiled : Tiled start text items) {words : List Word}
    (founds : items.map Item.found = words.map Found.word ++ [.finish]) : Spells words text := by
  induction tiled generalizing words with
  | finish blank =>
      cases words with
      | nil => exact .blank blank
      | cons word words => simp at founds
  | word blank longest tail ih =>
      cases words with
      | nil => simp at founds
      | cons word words =>
          simp only [List.map_cons, List.cons_append, List.cons.injEq, Found.word.injEq] at founds
          obtain ⟨rfl, founds⟩ := founds
          exact .word blank longest (ih founds)
  | stray blank notBlank noWord tail ih => cases words <;> simp at founds

/-- A text derives one program at most. -/
theorem Derives.unique {text : List Char} {program other : Program}
    (derives : Derives text program) (otherDerives : Derives text other) : program = other := by
  obtain ⟨items, tiled, founds⟩ := derives.exists_tiled 0
  obtain ⟨others, otherTiled, otherFounds⟩ := otherDerives.exists_tiled 0
  rw [← tiled.unique otherTiled, founds, List.append_cancel_right_eq] at otherFounds
  apply words_injective
  exact (List.map_inj_right fun _ _ => Found.word.inj).mp otherFounds

/-! ## A derivation -/

/-- Two statements, the second with both operators. -/
def sample : Program :=
  [.factor (.number ⟨⟨['7'], []⟩, by decide⟩),
    .plus (.factor (.number ⟨⟨['2'], []⟩, by decide⟩))
      (.times (.number ⟨⟨['1'], ['5']⟩, by decide⟩)
        ⟨⟨['4'], []⟩, by decide⟩)]

theorem derives_sample : Derives "7; 2 + 1.5*4;".toList sample :=
  @Spells.word [] _ (.number _) _ (List.all_eq_true.mp rfl) (by decide) <|
  @Spells.word [] _ .semicolon _ (List.all_eq_true.mp rfl) (by decide) <|
  @Spells.word [' '] _ (.number _) _ (List.all_eq_true.mp rfl) (by decide) <|
  @Spells.word [' '] _ .plus _ (List.all_eq_true.mp rfl) (by decide) <|
  @Spells.word [' '] _ (.number _) _ (List.all_eq_true.mp rfl) (by decide) <|
  @Spells.word [] _ .times _ (List.all_eq_true.mp rfl) (by decide) <|
  @Spells.word [] _ (.number _) _ (List.all_eq_true.mp rfl) (by decide) <|
  @Spells.word [] _ .semicolon _ (List.all_eq_true.mp rfl) (by decide) <|
  .blank (List.all_eq_true.mp rfl)

end ThreeAddress.Grammar
