import ThreeAddress.Proofs.Acceptance
import ThreeAddress.Proofs.Execution

/-!
# Compiled programs compute their values

The value of a program is read off its syntax tree and mentions no registers.  The code of a tree
at a depth leaves its value in the register of that depth and keeps all registers below, so the
operand to the left survives the code of the operand to the right.  The values are those of any
arithmetic.  Its operations need not commute or associate, and numerals may stand for anything, so
the machine has to apply the same operations to the same operands in the order of the tree.
-/

namespace ThreeAddress

namespace Grammar

variable {V : Type} [Arithmetic V]

/-! ## Values -/

def Factor.value : Factor → V
  | number value => Arithmetic.ofNumeral value.val
  | times left right => Arithmetic.multiply left.value (Arithmetic.ofNumeral right.val)

def Sum.value : Sum → V
  | factor value => value.value
  | plus left right => Arithmetic.add left.value right.value

/-- The value of the last statement, and zero if there is none. -/
def Program.value (program : Program) : V :=
  (program.getLast?.map Sum.value).getD Arithmetic.zero

/-! ## Code that yields a value -/

/-- On every machine with so many registers, the code succeeds, leaves the value in the register of
the given depth and keeps the registers below. -/
def Yields (code : List Instr) (size depth : Nat) (value : V) : Prop :=
  ∀ before : Machine V, before.registers.size = size →
    ∃ after : Machine V, Machine.execAll code before = .ok () after ∧
      after.registers.size = size ∧ after.registers[depth]? = some value ∧
      ∀ index < depth, after.registers[index]? = before.registers[index]?

theorem yields_number {size depth : Nat} (value : Number) (inside : depth < size) :
    Yields (numberCode depth value) size depth (Arithmetic.ofNumeral value.val : V) := by
  intro before size_eq
  have bound : depth < before.registers.size := size_eq ▸ inside
  refine ⟨⟨before.registers.setIfInBounds depth (Arithmetic.ofNumeral value.val)⟩, ?_, ?_, ?_, ?_⟩
  · rw [numberCode, Machine.execAll_cons, Machine.exec_load bound, Number.literal,
      Arithmetic.ofLiteral_ofNumeral]
    rfl
  · simpa using size_eq
  · simp [bound]
  · intro index below
    exact Array.getElem?_setIfInBounds_ne (Nat.ne_of_gt below)

/-- Code for the left operand, then code for the right operand one register further up, and then
the operation. -/
theorem Yields.fold {left right : List Instr} {size depth : Nat} {leftValue rightValue : V}
    (leftYields : Yields left size depth leftValue)
    (rightYields : Yields right size (depth + 1) rightValue) (operator : Operator) :
    Yields (left ++ (right ++ [foldAt depth operator])) size depth
      (operator.apply leftValue rightValue) := by
  intro before size_eq
  obtain ⟨middle, leftDone, middleSize, leftHeld, leftKept⟩ := leftYields before size_eq
  obtain ⟨last, rightDone, lastSize, rightHeld, rightKept⟩ := rightYields middle middleSize
  -- The left value is below the registers that the right operand may change.
  have leftStill : last.registers[depth]? = some leftValue := by
    rw [rightKept depth (Nat.lt_succ_self depth)]
    exact leftHeld
  have bound : depth < last.registers.size := (Array.getElem?_eq_some_iff.mp leftStill).1
  refine ⟨⟨last.registers.setIfInBounds depth (operator.apply leftValue rightValue)⟩,
    ?_, ?_, ?_, ?_⟩
  · rw [Machine.execAll_append leftDone, Machine.execAll_append rightDone]
    rw [foldAt, Machine.execAll_cons, Machine.exec_operate bound leftStill rightHeld]
    rfl
  · simpa using lastSize
  · simp [bound]
  · intro index below
    rw [Array.getElem?_setIfInBounds_ne (Nat.ne_of_gt below),
      rightKept index (Nat.lt_succ_of_lt below), leftKept index below]

theorem Factor.yields (factor : Factor) {size depth : Nat}
    (fits : StackCode.peak depth factor.stackCode ≤ size) :
    Yields (factor.code depth) size depth (factor.value : V) := by
  induction factor with
  | number value => exact yields_number value (Nat.max_le.mp fits).1
  | times left right ih =>
      rw [stackCode, StackCode.peak_append, left.depth_stackCode] at fits
      obtain ⟨leftFits, rightFits⟩ := Nat.max_le.mp fits
      exact (ih leftFits).fold (yields_number right (Nat.max_le.mp rightFits).1) .multiply

theorem Sum.yields (sum : Sum) {size depth : Nat}
    (fits : StackCode.peak depth sum.stackCode ≤ size) :
    Yields (sum.code depth) size depth (sum.value : V) := by
  induction sum with
  | factor value => exact value.yields fits
  | plus left right ih =>
      rw [stackCode, StackCode.peak_append, left.depth_stackCode, StackCode.peak_append] at fits
      obtain ⟨leftFits, rightFits⟩ := Nat.max_le.mp fits
      exact (ih leftFits).fold (right.yields (Nat.max_le.mp rightFits).1) .add

/-- The code of a program leaves the value of its last statement in the first register. -/
theorem Program.execAll_code (program : Program) {before : Machine V} {initial : V}
    (fits : StackCode.peak 0 program.stackCode ≤ before.registers.size)
    (held : before.registers[0]? = some initial) :
    ∃ after : Machine V, Machine.execAll (program.code 0) before = .ok () after ∧
      after.registers[0]? = some ((program.getLast?.map Sum.value).getD initial) := by
  induction program generalizing before initial with
  | nil => exact ⟨before, rfl, held⟩
  | cons sum program ih =>
      rw [stackCode_cons, StackCode.peak_append, sum.depth_stackCode,
        StackCode.peak_append] at fits
      obtain ⟨sumFits, rest⟩ := Nat.max_le.mp fits
      obtain ⟨middle, sumDone, middleSize, sumHeld, -⟩ := sum.yields sumFits before rfl
      have programFits := (Nat.max_le.mp rest).2
      obtain ⟨after, done, programHeld⟩ := ih (middleSize.symm ▸ programFits) sumHeld
      refine ⟨after, ?_, ?_⟩
      · exact (Machine.execAll_append sumDone).trans done
      · rw [programHeld, List.getLast?_cons]
        cases program.getLast? with
        | none => rfl
        | some last => rfl

/-! ## Code that can be written down -/

theorem Factor.recordable (factor : Factor) {depth : Nat} (small : depth + 1 ≤ 9) :
    ∀ instr ∈ factor.code depth, instr.Recordable := by
  have depth_le : depth ≤ 9 := Nat.le_of_succ_le small
  induction factor with
  | number value =>
      simp only [code, numberCode, List.forall_mem_singleton]
      exact ⟨depth_le, value, rfl⟩
  | times left right ih =>
      simp only [code, numberCode, List.forall_mem_append, List.forall_mem_singleton]
      exact ⟨ih, ⟨small, right, rfl⟩, depth_le, depth_le, small⟩

theorem Sum.recordable (sum : Sum) {depth : Nat} (small : depth + 2 ≤ 9) :
    ∀ instr ∈ sum.code depth, instr.Recordable := by
  have next_le : depth + 1 ≤ 9 := Nat.le_of_succ_le small
  have depth_le : depth ≤ 9 := Nat.le_of_succ_le next_le
  induction sum with
  | factor value => exact value.recordable next_le
  | plus left right ih =>
      simp only [code, List.forall_mem_append, List.forall_mem_singleton]
      exact ⟨ih, right.recordable small, depth_le, depth_le, next_le⟩

/-- Every instruction of a program can be read back from its text. -/
theorem Program.recordable (program : Program) :
    ∀ instr ∈ program.code 0, instr.Recordable := by
  intro instr member
  obtain ⟨sum, -, member⟩ := List.mem_flatMap.mp member
  exact sum.recordable (by decide) instr member

end Grammar

/-! ## From the source to the value -/

/-- The text of a program's code runs without an error, on as many registers as the code needs. -/
theorem evaluate_result {V : Type} [Arithmetic V] {text : String} {registers : Nat}
    (program : Grammar.Program)
    (text_eq : text.toList = (program.code 0).flatMap fun instr => instr.line.toList)
    (fits : StackCode.peak 0 program.stackCode ≤ registers) (positive : 0 < registers) :
    (evaluate text registers).result = .ok (program.value : V) := by
  have zero : (Machine.ofSize registers).registers[0]? = some (Arithmetic.zero : V) := by
    rw [Machine.ofSize, Array.getElem?_replicate, if_pos positive]
  have size_eq : (Machine.ofSize registers : Machine V).registers.size = registers :=
    Array.size_replicate
  obtain ⟨after, done, held⟩ := program.execAll_code (size_eq.symm ▸ fits) zero
  obtain ⟨events, ran⟩ := @Machine.run_of_execAll_ok V _ text _ (.fresh (.ofSize registers)) _
    program.recordable text_eq _ done held
  simp only [evaluate, ran, Grammar.Program.value]

/-- What compiles runs without an error, and the result is the value of the one program that the
source derives, in every arithmetic. -/
theorem run_compiled_eq_value {source : String} {options : Options} {code : String}
    (compiled : (compile source options).result = .ok code) :
    ∃ program, Grammar.Derives source.toList program ∧
      (∀ other, Grammar.Derives source.toList other → other = program) ∧
      ∀ (V : Type) [Arithmetic V],
        (run code options).result = .ok (program.value : V) ∧
        (compileAndRun source options).result = .ok (program.value : V) := by
  obtain ⟨valid, ends, fits, text_eq⟩ := compile_ok_iff.mp compiled
  obtain ⟨program, derives⟩ := (Plan.result_ofSource_eq_ok_iff source).mp ends
  rw [Plan.ofSource_eq derives] at fits text_eq
  rw [Grammar.Program.instrs_stackCode] at text_eq
  have positive := (Options.validate_eq_ok_iff.mp valid).1
  refine ⟨program, derives, ?_, ?_⟩
  · intro other otherDerives
    exact otherDerives.unique derives
  · intro V _
    have ran : (run code options).result = .ok (program.value : V) := by
      simp only [run, valid]
      exact evaluate_result program text_eq fits positive
    refine ⟨ran, ?_⟩
    simp only [compileAndRun, Outcome.andThen, compiled]
    exact ran

/-- On doubles, the value of two statements is that of the second, with the product first. -/
theorem run_compiled_eq_value_sample :
    ∃ code, (compile "7; 2 + 1.5*4;" ⟨3⟩).result = .ok code ∧
      (run code ⟨3⟩).result = .ok (8 : Float) ∧
      (compileAndRun "7; 2 + 1.5*4;" ⟨3⟩).result = .ok (8 : Float) := by
  have planned := Plan.ofSource_eq Grammar.derives_sample
  obtain ⟨code, compiled⟩ : ∃ code, (compile "7; 2 + 1.5*4;" ⟨3⟩).result = .ok code :=
    ⟨_, compile_result_of_fits rfl (by rw [planned]) (by rw [planned]; decide)⟩
  obtain ⟨program, derives, -, runs⟩ := run_compiled_eq_value compiled
  obtain ⟨ran, together⟩ := runs Float
  have value_eq : program.value = (8 : Float) := by
    rw [derives.unique Grammar.derives_sample]
    decide +kernel
  rw [value_eq] at ran together
  exact ⟨code, compiled, ran, together⟩

end ThreeAddress
