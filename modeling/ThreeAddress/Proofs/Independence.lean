import ThreeAddress.Proofs.RegisterLimits

/-!
# Compiled code does not depend on what it finds in the registers

Two machines that hold the same values in the registers that an instruction reads hold the same
value in the register that it writes.  Stack code reads only registers in use, and all of these were
written by the code itself, so runs on two machines agree on every register that the code has come
to use, whatever the machines held before.  No other register is changed.
-/

namespace ThreeAddress

namespace Machine

variable {V : Type}

/-- The machines hold the same values in the registers below a height. -/
def AgreeBelow (height : Nat) (first second : Machine V) : Prop :=
  ∀ index < height, first.registers[index]? = second.registers[index]?

namespace AgreeBelow

variable {height : Nat} {first second firstAfter secondAfter : Machine V} {instr : Instr}

theorem mono {lower : Nat} (agree : AgreeBelow height first second) (le : lower ≤ height) :
    AgreeBelow lower first second := by
  intro index below
  exact agree index (Nat.lt_of_lt_of_le below le)

variable [Arithmetic V]

/-- The value of an instruction depends on its operands alone. -/
theorem valueOf?_eq (agree : AgreeBelow height first second)
    (reads : ∀ register ∈ instr.operands, register.index < height) :
    first.valueOf? instr = second.valueOf? instr := by
  cases instr with
  | load target literal => rfl
  | operate target left operator right =>
      have leftSame := agree left.index (reads left (by simp [Instr.operands]))
      have rightSame := agree right.index (reads right (by simp [Instr.operands]))
      simp only [valueOf?, leftSame, rightSame]

/-- An instruction that reads where the machines agree, and writes there or next to it, keeps the
agreement and adds its target. -/
theorem exec {line : String} (agree : AgreeBelow height first second)
    (reads : ∀ register ∈ instr.operands, register.index < height)
    (writes : instr.target.index ≤ height)
    (firstDone : Machine.exec instr line first = .ok () firstAfter)
    (secondDone : Machine.exec instr line second = .ok () secondAfter) :
    AgreeBelow (max height (instr.target.index + 1)) firstAfter secondAfter := by
  intro index below
  by_cases written : index = instr.target.index
  · obtain ⟨firstIn, value, firstValue, rfl⟩ := exec_eq_ok_iff.mp firstDone
    obtain ⟨secondIn, other, secondValue, rfl⟩ := exec_eq_ok_iff.mp secondDone
    rw [agree.valueOf?_eq reads, secondValue] at firstValue
    cases firstValue
    rw [written, Array.getElem?_setIfInBounds_self_of_lt firstIn,
      Array.getElem?_setIfInBounds_self_of_lt secondIn]
  · rw [exec_frame firstDone written, exec_frame secondDone written]
    exact agree index (by omega)

end AgreeBelow

end Machine

/-! ## Two runs of stack code -/

section TwoRuns

variable {V : Type} [Arithmetic V] {before height : Nat}
variable {first second firstAfter secondAfter : Machine V}

theorem StackOp.agreeBelow {op : StackOp} (allowed : op.Allowed before) (live : before ≤ height)
    (agree : Machine.AgreeBelow height first second)
    (firstDone : Machine.execAll (op.instrs before) first = .ok () firstAfter)
    (secondDone : Machine.execAll (op.instrs before) second = .ok () secondAfter) :
    Machine.AgreeBelow (max height (op.reach before)) firstAfter secondAfter := by
  cases op with
  | push literal =>
      obtain ⟨_, firstExec, ⟨⟩⟩ := Machine.execAll_cons_ok_iff.mp firstDone
      obtain ⟨_, secondExec, ⟨⟩⟩ := Machine.execAll_cons_ok_iff.mp secondDone
      have reads : ∀ register ∈ (Instr.load ⟨before⟩ literal).operands,
          register.index < height := by
        simp [Instr.operands]
      exact agree.exec reads live firstExec secondExec
  | fold operator =>
      obtain ⟨_, firstExec, ⟨⟩⟩ := Machine.execAll_cons_ok_iff.mp firstDone
      obtain ⟨_, secondExec, ⟨⟩⟩ := Machine.execAll_cons_ok_iff.mp secondDone
      have two_le : 2 ≤ before := allowed
      have reads : ∀ register ∈ (Instr.operate ⟨before - 2⟩ ⟨before - 2⟩ operator
          ⟨before - 1⟩).operands, register.index < height := by
        simp only [Instr.operands, List.forall_mem_cons, List.not_mem_nil, false_implies,
          implies_true, and_true]
        omega
      have kept := agree.exec reads (by simp only [Instr.target]; omega) firstExec secondExec
      exact kept.mono (Nat.max_le.mpr ⟨Nat.le_max_left _ _, Nat.zero_le _⟩)
  | drop =>
      cases firstDone
      cases secondDone
      exact agree.mono (Nat.max_le.mpr ⟨Nat.le_refl _, Nat.zero_le _⟩)

/-- Machines that agree on the registers in use agree, after stack code, on all that the code has
come to use. -/
theorem StackCode.agreeBelow {code : StackCode} (disciplined : Disciplined before code)
    (live : before ≤ height) (agree : Machine.AgreeBelow height first second)
    (firstDone : Machine.execAll (instrs before code) first = .ok () firstAfter)
    (secondDone : Machine.execAll (instrs before code) second = .ok () secondAfter) :
    Machine.AgreeBelow (max height (peak before code)) firstAfter secondAfter := by
  induction code generalizing before height first second with
  | nil =>
      cases firstDone
      cases secondDone
      exact agree.mono (Nat.max_le.mpr ⟨Nat.le_refl _, Nat.zero_le _⟩)
  | cons op code ih =>
      obtain ⟨firstMiddle, firstOp, firstRest⟩ := Machine.exists_of_execAll_append firstDone
      obtain ⟨secondMiddle, secondOp, secondRest⟩ := Machine.exists_of_execAll_append secondDone
      have between := StackOp.agreeBelow disciplined.1 live agree firstOp secondOp
      have deeper := op.depth_le before
      rw [peak, ← Nat.max_assoc]
      exact ih disciplined.2 (by omega) between firstRest secondRest

end TwoRuns

/-- From an empty stack, two machines that have the registers of the code agree afterwards on all of
them, whatever they held before. -/
theorem StackCode.execAll_independent {V : Type} [Arithmetic V] {code : StackCode}
    (disciplined : Disciplined 0 code) {first second : Machine V}
    (firstFits : ∀ instr ∈ instrs 0 code, instr.FitsIn first.registers.size)
    (secondFits : ∀ instr ∈ instrs 0 code, instr.FitsIn second.registers.size) :
    ∃ firstAfter secondAfter,
      Machine.execAll (instrs 0 code) first = .ok () firstAfter ∧
      Machine.execAll (instrs 0 code) second = .ok () secondAfter ∧
      Machine.AgreeBelow (peak 0 code) firstAfter secondAfter ∧
      peak 0 code ≤ firstAfter.registers.size := by
  obtain ⟨firstAfter, firstDone, firstSize⟩ := Machine.execAll_of_fitsIn firstFits
  obtain ⟨secondAfter, secondDone, -⟩ := Machine.execAll_of_fitsIn secondFits
  have nothing : Machine.AgreeBelow 0 first second := nofun
  have agree := agreeBelow disciplined (Nat.le_refl 0) nothing firstDone secondDone
  refine ⟨firstAfter, secondAfter, firstDone, secondDone, ?_, ?_⟩
  · exact agree.mono (Nat.le_max_right _ _)
  · rw [firstSize]
    exact (fitsIn_iff disciplined (Nat.zero_le _)).mp firstFits

/-! ## Running texts -/

namespace Machine

/-- The registers that the records of a text name. -/
def named (text : String) : List Register :=
  (records text).flatMap fun line =>
    match Instr.decode line with
    | .ok instr => instr.registers
    | .error _ => []

variable {text : String} {instrs : List Instr}

theorem named_eq (recordable : ∀ instr ∈ instrs, instr.Recordable)
    (text_eq : text.toList = instrs.flatMap fun instr => instr.line.toList) :
    named text = instrs.flatMap Instr.registers := by
  rw [named, records_eq recordable text_eq, List.flatMap_map, List.flatMap_def, List.flatMap_def]
  apply congrArg List.flatten
  apply List.map_congr_left
  intro instr member
  rw [Instr.decode_text (recordable instr member)]

theorem forall_named_iff (recordable : ∀ instr ∈ instrs, instr.Recordable)
    (text_eq : text.toList = instrs.flatMap fun instr => instr.line.toList) {bound : Nat} :
    (∀ register ∈ named text, register.index < bound) ↔
      ∀ instr ∈ instrs, instr.FitsIn bound := by
  rw [named_eq recordable text_eq]
  constructor
  · intro below instr member register names
    exact below register (List.mem_flatMap_of_mem member names)
  · intro fits register named
    obtain ⟨instr, member, names⟩ := List.mem_flatMap.mp named
    exact fits instr member register names

/-- A register that a text does not name keeps its value. -/
theorem execAll_frame_of_not_named {V : Type} [Arithmetic V]
    (recordable : ∀ instr ∈ instrs, instr.Recordable)
    (text_eq : text.toList = instrs.flatMap fun instr => instr.line.toList)
    {machine after : Machine V} (done : execAll instrs machine = .ok () after) {register : Register}
    (unnamed : register ∉ named text) :
    after.registers[register.index]? = machine.registers[register.index]? := by
  apply execAll_frame done
  intro instr member same
  have target_eq : register = instr.target := congrArg Register.mk same
  apply unnamed
  rw [named_eq recordable text_eq, target_eq]
  exact List.mem_flatMap_of_mem member List.mem_cons_self

end Machine

/-! ## Compiled code -/

/-- A program with a statement uses a register. -/
theorem Grammar.Program.peak_stackCode_pos {program : Program} (nonempty : program ≠ []) :
    0 < StackCode.peak 0 program.stackCode := by
  obtain ⟨sum, rest, rfl⟩ := List.exists_cons_of_ne_nil nonempty
  have reached := StackCode.depth_le 0 sum.stackCode
  rw [sum.depth_stackCode] at reached
  rw [stackCode_cons, StackCode.peak_append]
  omega

/-- Code that was compiled from at least one statement gives the same result on every machine that
has the registers it names, whatever they hold, as on a machine with nothing but zeros.  It leaves
the same values in these registers, and all others as they were. -/
theorem run_compiled_independent {V : Type} [Arithmetic V] {source : String}
    {program : Grammar.Program}
    (derives : Grammar.Derives source.toList program) (nonempty : program ≠ [])
    {options : Options} {code : String} (compiled : (compile source options).result = .ok code)
    {logged : Logged (Machine V)}
    (enough : ∀ register ∈ Machine.named code, register.index < logged.state.registers.size)
    {size : Nat} (enoughFresh : ∀ register ∈ Machine.named code, register.index < size) :
    ∃ value after fresh,
      Machine.run code logged = .ok value after ∧
      Machine.run code (.fresh (.ofSize size)) = .ok value fresh ∧
      (∀ register ∈ Machine.named code,
        after.state.registers[register.index]? = fresh.state.registers[register.index]?) ∧
      ∀ register, register ∉ Machine.named code →
        after.state.registers[register.index]? = logged.state.registers[register.index]? := by
  obtain ⟨-, ends, -, code_eq⟩ := compile_ok_iff.mp compiled
  have recordable := Plan.recordable_ofSource ends
  have disciplined := Plan.disciplined_ofSource source 0
  rw [Plan.ofSource_eq derives] at code_eq recordable disciplined
  have positive := Grammar.Program.peak_stackCode_pos nonempty
  have freshSize : (Machine.ofSize size : Machine V).registers.size = size :=
    Array.size_replicate
  have fits := @Machine.forall_named_iff _ _ recordable code_eq
  obtain ⟨after, fresh, afterDone, freshDone, agree, used⟩ :=
    StackCode.execAll_independent disciplined (fits.mp enough)
      (fits.mp (freshSize.symm ▸ enoughFresh))
  have held : after.registers[0]? = some _ :=
    Array.getElem?_eq_getElem (Nat.lt_of_lt_of_le positive used)
  have freshHeld : fresh.registers[0]? = some _ := (agree 0 positive).symm.trans held
  obtain ⟨events, ran⟩ := Machine.run_of_execAll_ok recordable code_eq afterDone held
  obtain ⟨freshEvents, freshRan⟩ :=
    @Machine.run_of_execAll_ok V _ _ _ (.fresh (.ofSize size)) _ recordable code_eq _ freshDone
      freshHeld
  refine ⟨_, ⟨after, events⟩, ⟨fresh, freshEvents⟩, ran, freshRan, ?_, ?_⟩
  · intro register named
    have below := fits.mpr ((StackCode.fitsIn_iff disciplined (Nat.zero_le _)).mpr (Nat.le_refl _))
    exact agree register.index (below register named)
  · intro register unnamed
    exact Machine.execAll_frame_of_not_named recordable code_eq afterDone unnamed

theorem run_compiled_independent_sample :
    Grammar.sample ≠ [] ∧ ∃ code, (compile "7; 2 + 1.5*4;" ⟨10⟩).result = .ok code ∧
      (∀ register ∈ Machine.named code, register.index < 3) ∧
      ∃ (value : Float) (after fresh : Logged (Machine Float)),
        Machine.run code (.fresh ⟨#[5, 6, 7, 8]⟩) = .ok value after ∧
        Machine.run code (.fresh (.ofSize 3)) = .ok value fresh ∧
        after.state.registers[3]? = some 8 := by
  have planned := Plan.ofSource_eq Grammar.derives_sample
  have compiled := @compile_result_of_fits "7; 2 + 1.5*4;" ⟨10⟩ rfl (by rw [planned])
    (by rw [planned]; decide)
  obtain ⟨-, ends, -, code_eq⟩ := compile_ok_iff.mp compiled
  have below := (Machine.forall_named_iff (Plan.recordable_ofSource ends) code_eq).mpr
    (show ∀ instr ∈ (Plan.ofSource "7; 2 + 1.5*4;").code.instrs 0, instr.FitsIn 3 by
      rw [planned]; decide)
  obtain ⟨value, after, fresh, ran, freshRan, -, kept⟩ :=
    @run_compiled_independent Float _ _ _ Grammar.derives_sample (by decide) _ _ compiled
      (.fresh ⟨#[5, 6, 7, 8]⟩) (fun register named => Nat.lt_succ_of_lt (below register named)) 3
      below
  refine ⟨by decide, _, compiled, below, value, after, fresh, ran, freshRan, ?_⟩
  exact kept ⟨3⟩ fun named => absurd (below ⟨3⟩ named) (by decide)

end ThreeAddress
