import ThreeAddress.Proofs.Compilation
import ThreeAddress.Proofs.Grammar

/-!
# The code of a program

Each syntax tree has its code at a depth, the number of the register that receives its value: an
operand to the right is computed one register further up, and then worked into its left neighbour.
This translation is a recursion on trees and knows nothing of tokens, pools and sinks.  The main
statement says that the generator emits the translation of the program that it reads, at the depth
at which it finds the pool.
-/

namespace ThreeAddress

namespace Grammar

/-! ## Translation of trees -/

/-- Work the value one register up into the value at the given depth. -/
def foldAt (depth : Nat) (operator : Operator) : Instr :=
  .operate ⟨depth⟩ ⟨depth⟩ operator ⟨depth + 1⟩

def numberCode (depth : Nat) (value : Number) : List Instr :=
  [.load ⟨depth⟩ value.literal]

def Factor.code (depth : Nat) : Factor → List Instr
  | number value => numberCode depth value
  | times left right =>
      left.code depth ++ (numberCode (depth + 1) right ++ [foldAt depth .multiply])

def Sum.code (depth : Nat) : Sum → List Instr
  | factor value => value.code depth
  | plus left right => left.code depth ++ (right.code (depth + 1) ++ [foldAt depth .add])

def Program.code (depth : Nat) (program : Program) : List Instr :=
  program.flatMap (Sum.code depth)

/-! ## Translation through stack code -/

def Factor.stackCode : Factor → StackCode
  | number value => [.push value.literal]
  | times left right => left.stackCode ++ [.push right.literal, .fold .multiply]

def Sum.stackCode : Sum → StackCode
  | factor value => value.stackCode
  | plus left right => left.stackCode ++ (right.stackCode ++ [.fold .add])

def Program.stackCode (program : Program) : StackCode :=
  program.flatMap fun sum => sum.stackCode ++ [.drop]

theorem Program.stackCode_cons (sum : Sum) (program : Program) :
    Program.stackCode (sum :: program) =
      sum.stackCode ++ ([.drop] ++ Program.stackCode program) := by
  simp [stackCode]

@[simp] theorem Factor.depth_stackCode (depth : Nat) (factor : Factor) :
    StackCode.depth depth factor.stackCode = depth + 1 := by
  induction factor with
  | number value => rfl
  | times left right ih => simp [stackCode, ih, StackCode.depth, StackOp.depth]

@[simp] theorem Sum.depth_stackCode (depth : Nat) (sum : Sum) :
    StackCode.depth depth sum.stackCode = depth + 1 := by
  induction sum with
  | factor value => exact value.depth_stackCode depth
  | plus left right ih => simp [stackCode, ih, StackCode.depth, StackOp.depth]

@[simp] theorem Program.depth_stackCode (depth : Nat) (program : Program) :
    StackCode.depth depth program.stackCode = depth := by
  induction program with
  | nil => rfl
  | cons sum program ih =>
      simpa [stackCode, StackCode.depth, StackOp.depth] using ih

theorem Factor.instrs_stackCode (depth : Nat) (factor : Factor) :
    StackCode.instrs depth factor.stackCode = factor.code depth := by
  induction factor with
  | number value => rfl
  | times left right ih =>
      simp [stackCode, code, ih, StackCode.instrs, StackOp.instrs, StackOp.depth, numberCode,
        foldAt]

theorem Sum.instrs_stackCode (depth : Nat) (sum : Sum) :
    StackCode.instrs depth sum.stackCode = sum.code depth := by
  induction sum with
  | factor value => exact value.instrs_stackCode depth
  | plus left right ih =>
      simp [stackCode, code, ih, right.instrs_stackCode, StackCode.instrs, StackOp.instrs, foldAt]

/-- The stack code of a program has the instructions of its translation. -/
theorem Program.instrs_stackCode (depth : Nat) (program : Program) :
    StackCode.instrs depth program.stackCode = program.code depth := by
  induction program with
  | nil => rfl
  | cons sum program ih =>
      have code_eq : Program.code depth (sum :: program) =
          sum.code depth ++ Program.code depth program := rfl
      rw [stackCode_cons, code_eq]
      simp [StackCode.instrs, StackOp.instrs, StackOp.depth, sum.instrs_stackCode, ih]

end Grammar

/-! ## The plan of a program -/

namespace Plan

variable {sum product : Bool} {item : Item} {scans : List Scan}

theorem ofScans_number {value : Number} (found_eq : item.found = .word (.number value)) :
    ofScans (.operand sum product) (item.scan :: scans) =
      (ofScans (.operator sum product) scans).precededBy [.push value.literal] := by
  obtain ⟨found, offset⟩ := item
  cases found_eq
  rfl

theorem ofScans_times (found_eq : item.found = .word .times) :
    ofScans (.operator sum false) (item.scan :: scans) = ofScans (.operand sum true) scans := by
  obtain ⟨found, offset⟩ := item
  cases found_eq
  rfl

theorem ofScans_plus (found_eq : item.found = .word .plus) :
    ofScans (.operator sum false) (item.scan :: scans) =
      (ofScans (.operand true false) scans).precededBy (foldIf sum .add) := by
  obtain ⟨found, offset⟩ := item
  cases found_eq
  rfl

theorem ofScans_semicolon (found_eq : item.found = .word .semicolon) :
    ofScans (.operator sum false) (item.scan :: scans) =
      (ofScans .boundary scans).precededBy (foldIf sum .add ++ [.drop]) := by
  obtain ⟨found, offset⟩ := item
  cases found_eq
  rfl

theorem ofScans_finish (found_eq : item.found = .finish) :
    ofScans .boundary (item.scan :: scans) = ⟨[], .ok ()⟩ := by
  obtain ⟨found, offset⟩ := item
  cases found_eq
  rfl

/-- At a word, a statement begins. -/
theorem ofScans_boundary_word {word : Word} (found_eq : item.found = .word word) :
    ofScans .boundary (item.scan :: scans) =
      ofScans (.operand false false) (item.scan :: scans) := by
  obtain ⟨found, offset⟩ := item
  cases found_eq
  exact ofScans_boundary rfl word.symbol_ne_endOfInput

/-- A product that waits is multiplied at any word. -/
theorem ofScans_operator_product {word : Word} (found_eq : item.found = .word word) :
    ofScans (.operator sum true) (item.scan :: scans) =
      (ofScans (.operator sum false) (item.scan :: scans)).precededBy [.fold .multiply] := by
  obtain ⟨found, offset⟩ := item
  cases found_eq
  exact ofScans_operator rfl

/-- A sum that waits is added as soon as its right operand is complete. -/
theorem ofScans_operator_sum (closing : item.found = .word .plus ∨ item.found = .word .semicolon) :
    ofScans (.operator true false) (item.scan :: scans) =
      (ofScans (.operator false false) (item.scan :: scans)).precededBy [.fold .add] := by
  cases closing with
  | inl found_eq => simp [ofScans_plus found_eq]
  | inr found_eq => simp [ofScans_semicolon found_eq]

end Plan

namespace Grammar

/-- A factor is planned as its stack code, whatever word follows. -/
theorem Factor.ofScans (factor : Factor) {sum : Bool} {items : List Item} {next : Item}
    {word : Word} (rest : List Scan) (founds : items.map Item.found = factor.words.map Found.word)
    (follows : next.found = .word word) :
    Plan.ofScans (.operand sum false) (items.map Item.scan ++ next.scan :: rest) =
      (Plan.ofScans (.operator sum false) (next.scan :: rest)).precededBy factor.stackCode := by
  induction factor generalizing items next word rest with
  | number value =>
      obtain ⟨item, rfl, found_eq⟩ := List.map_eq_singleton_iff.mp founds
      exact Plan.ofScans_number found_eq
  | times left right ih =>
      rw [words, List.map_append] at founds
      obtain ⟨before, behind, rfl, leftFounds, founds⟩ := List.map_eq_append_iff.mp founds
      obtain ⟨sign, behind, rfl, sign_eq, founds⟩ := List.map_eq_cons_iff.mp founds
      obtain ⟨operand, rfl, operand_eq⟩ := List.map_eq_singleton_iff.mp founds
      rw [List.map_append, List.append_assoc]
      calc Plan.ofScans (.operand sum false)
            (before.map Item.scan ++ sign.scan :: operand.scan :: next.scan :: rest)
        _ = (Plan.ofScans (.operator sum false)
              (sign.scan :: operand.scan :: next.scan :: rest)).precededBy left.stackCode :=
            ih _ leftFounds sign_eq
        _ = (Plan.ofScans (.operator sum true) (next.scan :: rest)).precededBy
              (left.stackCode ++ [.push right.literal]) := by
            rw [Plan.ofScans_times sign_eq, Plan.ofScans_number operand_eq,
              Plan.precededBy_precededBy]
        _ = (Plan.ofScans (.operator sum false) (next.scan :: rest)).precededBy
              (times left right).stackCode := by
            rw [Plan.ofScans_operator_product follows, Plan.precededBy_precededBy, stackCode,
              List.append_assoc]
            rfl

/-- A sum is planned as its stack code if its last factor is complete. -/
theorem Sum.ofScans (sum : Sum) {items : List Item} {next : Item} (rest : List Scan)
    (founds : items.map Item.found = sum.words.map Found.word)
    (closing : next.found = .word .plus ∨ next.found = .word .semicolon) :
    Plan.ofScans (.operand false false) (items.map Item.scan ++ next.scan :: rest) =
      (Plan.ofScans (.operator false false) (next.scan :: rest)).precededBy sum.stackCode := by
  -- A sign of multiplication would still belong to the last factor, so it is not admitted here.
  obtain ⟨word, follows⟩ : ∃ word, next.found = .word word := by
    cases closing with
    | inl found_eq => exact ⟨_, found_eq⟩
    | inr found_eq => exact ⟨_, found_eq⟩
  induction sum generalizing items next word rest with
  | factor value => exact value.ofScans rest founds follows
  | plus left right ih =>
      rw [words, List.map_append] at founds
      obtain ⟨before, behind, rfl, leftFounds, founds⟩ := List.map_eq_append_iff.mp founds
      obtain ⟨sign, operand, rfl, sign_eq, rightFounds⟩ := List.map_eq_cons_iff.mp founds
      rw [List.map_append, List.append_assoc]
      calc Plan.ofScans (.operand false false)
            (before.map Item.scan ++ sign.scan :: (operand.map Item.scan ++ next.scan :: rest))
        _ = (Plan.ofScans (.operator false false)
              (sign.scan :: (operand.map Item.scan ++ next.scan :: rest))).precededBy
                left.stackCode :=
            ih _ leftFounds (.inl sign_eq) _ sign_eq
        _ = (Plan.ofScans (.operator true false) (next.scan :: rest)).precededBy
              (left.stackCode ++ right.stackCode) := by
            rw [Plan.ofScans_plus sign_eq, right.ofScans rest rightFounds follows]
            simp
        _ = (Plan.ofScans (.operator false false) (next.scan :: rest)).precededBy
              (plus left right).stackCode := by
            rw [Plan.ofScans_operator_sum closing, Plan.precededBy_precededBy, stackCode,
              List.append_assoc]

/-- A program is planned as its stack code, whatever scans follow. -/
theorem Program.ofScans_append (program : Program) {items : List Item} (rest : List Scan)
    (founds : items.map Item.found = program.words.map Found.word) :
    Plan.ofScans .boundary (items.map Item.scan ++ rest) =
      (Plan.ofScans .boundary rest).precededBy program.stackCode := by
  induction program generalizing items with
  | nil =>
      obtain rfl := List.map_eq_nil_iff.mp founds
      rfl
  | cons sum program ih =>
      rw [words, List.map_append] at founds
      obtain ⟨before, behind, rfl, sumFounds, founds⟩ := List.map_eq_append_iff.mp founds
      obtain ⟨sign, behind, rfl, sign_eq, founds⟩ := List.map_eq_cons_iff.mp founds
      rw [List.map_append, List.map_cons, List.append_assoc, List.cons_append]
      have begins :
          Plan.ofScans .boundary
              (before.map Item.scan ++ sign.scan :: (behind.map Item.scan ++ rest)) =
            Plan.ofScans (.operand false false)
              (before.map Item.scan ++ sign.scan :: (behind.map Item.scan ++ rest)) := by
        cases before with
        | nil => exact Plan.ofScans_boundary_word sign_eq
        | cons first before =>
            obtain ⟨word, words, -, first_eq, -⟩ := List.map_eq_cons_iff.mp sumFounds.symm
            exact Plan.ofScans_boundary_word first_eq.symm
      rw [begins, sum.ofScans _ sumFounds (.inr sign_eq), Plan.ofScans_semicolon sign_eq, ih founds]
      simp [Plan.precededBy, stackCode]

/-- A program is planned as its stack code, and ends well. -/
theorem Program.ofScans (program : Program) {items : List Item}
    (founds : items.map Item.found = program.words.map Found.word ++ [.finish]) :
    Plan.ofScans .boundary (items.map Item.scan) = ⟨program.stackCode, .ok ()⟩ := by
  obtain ⟨before, behind, rfl, wordFounds, founds⟩ := List.map_eq_append_iff.mp founds
  obtain ⟨last, rfl, last_eq⟩ := List.map_eq_singleton_iff.mp founds
  rw [List.map_append, program.ofScans_append _ wordFounds, List.map_singleton,
    Plan.ofScans_finish last_eq]
  simp [Plan.precededBy]

end Grammar

theorem Plan.ofSource_eq {source : String} {program : Grammar.Program}
    (derives : Grammar.Derives source.toList program) :
    Plan.ofSource source = ⟨program.stackCode, .ok ()⟩ := by
  obtain ⟨items, tiled, founds⟩ := Grammar.Spells.exists_tiled derives 0
  rw [ofSource, Lexer.upcoming_ofString tiled]
  exact Grammar.Program.ofScans program founds

/-- The generator lists the translation of the program that its source derives, at the depth at
which it finds the pool, and leaves the pool at that depth. -/
theorem statements_list_translation {source : String} {program : Grammar.Program}
    (derives : Grammar.Derives source.toList program) (pool : Pool) {after : Generator Listing}
    (done : Generator.statements (.start source pool Listing.empty) = .ok () after) :
    after.sink.instrs.toList = program.code pool.inUse ∧
      (∀ instr ∈ after.sink.instrs.toList, instr.FoldsDown) ∧
      (∃ base : Generator Listing,
        Generator.statements (.start source (.ofCapacity pool.capacity) Listing.empty) =
            .ok () base ∧
          after.sink.instrs.toList = base.sink.instrs.toList.map (Instr.shift pool.inUse)) ∧
      after.pool.inUse = pool.inUse := by
  have disciplined := Plan.disciplined_ofSource source
  rw [Plan.ofSource_eq derives] at disciplined
  have listed : ∀ {pool : Pool} {after : Generator Listing},
      Generator.statements (.start source pool Listing.empty) = .ok () after →
        after.sink.instrs.toList = program.stackCode.instrs pool.inUse := by
    intro pool after done
    obtain ⟨-, sink_eq⟩ := Generator.of_statements_ok Listing.empty.unfailing done
    rw [sink_eq, Listing.foldl_receive, Plan.ofSource_eq derives]
    rfl
  obtain ⟨ends, fits⟩ := (Generator.statements_ok_iff Listing.empty.unfailing).mp ⟨after, done⟩
  -- A pool with more registers free has room for the same code.
  obtain ⟨base, baseDone⟩ : ∃ base : Generator Listing,
      Generator.statements (.start source (.ofCapacity pool.capacity) Listing.empty) =
        .ok () base :=
    (Generator.statements_ok_iff Listing.empty.unfailing).mpr
      ⟨ends, Nat.le_trans (StackCode.peak_mono (Nat.zero_le _) _) fits⟩
  refine ⟨?_, ?_, ⟨base, baseDone, ?_⟩, ?_⟩
  · rw [listed done, program.instrs_stackCode]
  · rw [listed done]
    exact StackCode.foldsDown (disciplined pool.inUse)
  · have shifted := StackCode.instrs_shift pool.inUse (disciplined 0)
    rw [Nat.zero_add] at shifted
    rw [listed done, listed baseDone]
    exact shifted
  · obtain ⟨pool_eq, -⟩ := Generator.of_statements_ok Listing.empty.unfailing done
    rw [pool_eq, StackCode.onPool_inUse, Plan.ofSource_eq derives]
    exact program.depth_stackCode pool.inUse

theorem statements_list_translation_sample :
    ∃ after : Generator Listing,
      Generator.statements (.start "7; 2 + 1.5*4;" ⟨5, 2, ⟨2, 0, 2⟩⟩ Listing.empty) = .ok () after ∧
        after.sink.instrs.toList.map Instr.text =
          ["t2 = 7", "t2 = 2", "t3 = 1.5", "t4 = 4", "t3 = t3 * t4", "t2 = t2 + t3"] ∧
        after.pool.inUse = 2 := by
  have planned := Plan.ofSource_eq Grammar.derives_sample
  obtain ⟨after, done⟩ :=
    (@Generator.statements_ok_iff Listing _ "7; 2 + 1.5*4;" ⟨5, 2, ⟨2, 0, 2⟩⟩ Listing.empty
      Listing.empty.unfailing).mpr (by rw [planned]; exact ⟨rfl, by decide⟩)
  obtain ⟨listed, -, -, inUse_eq⟩ :=
    statements_list_translation Grammar.derives_sample ⟨5, 2, ⟨2, 0, 2⟩⟩ done
  refine ⟨after, done, ?_, inUse_eq⟩
  rw [listed]
  decide

end ThreeAddress
