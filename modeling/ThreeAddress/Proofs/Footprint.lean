import ThreeAddress.Proofs.Execution
import ThreeAddress.Proofs.StackDiscipline

/-!
# The registers that instructions name

An instruction reads some registers and writes one.  A machine that has all of them executes it, and
every register that it does not write keeps its value.  For stack code, naming only registers below
a bound is the same as asking a pool of that capacity for no more than it has.
-/

namespace ThreeAddress

namespace Instr

/-- The register that the instruction writes. -/
def target : Instr → Register
  | load target _ => target
  | operate target _ _ _ => target

/-- The registers that the instruction reads. -/
def operands : Instr → List Register
  | load _ _ => []
  | operate _ left _ right => [left, right]

/-- The registers that the instruction names. -/
def registers (instr : Instr) : List Register :=
  instr.target :: instr.operands

/-- The instruction names no register from the bound on. -/
def FitsIn (bound : Nat) (instr : Instr) : Prop :=
  ∀ register ∈ instr.registers, register.index < bound

instance (bound : Nat) (instr : Instr) : Decidable (instr.FitsIn bound) :=
  inferInstanceAs (Decidable (∀ register ∈ instr.registers, register.index < bound))

theorem fitsIn_load_iff {bound : Nat} {target : Register} {literal : Literal} :
    (load target literal).FitsIn bound ↔ target.index < bound := by
  simp [FitsIn, registers, Instr.target, operands]

theorem fitsIn_operate_iff {bound : Nat} {target left right : Register} {operator : Operator} :
    (operate target left operator right).FitsIn bound ↔
      target.index < bound ∧ left.index < bound ∧ right.index < bound := by
  simp [FitsIn, registers, Instr.target, operands]

end Instr

/-! ## Instructions on a machine -/

namespace Machine

variable {V : Type} [Arithmetic V] {machine after : Machine V} {instr : Instr} {line : String}

/-- The value that an instruction computes, if the machine has its operands. -/
def valueOf? (machine : Machine V) : Instr → Option V
  | .load _ literal => some (Arithmetic.ofLiteral literal)
  | .operate _ left operator right =>
      machine.registers[left.index]?.bind fun m =>
        machine.registers[right.index]?.map fun n => operator.apply m n

/-- All that a successful instruction does is to put its value into its target. -/
theorem exec_eq_ok_iff :
    exec instr line machine = .ok () after ↔
      instr.target.index < machine.registers.size ∧
        ∃ value, machine.valueOf? instr = some value ∧
          after = ⟨machine.registers.setIfInBounds instr.target.index value⟩ := by
  cases instr with
  | load target literal =>
      by_cases inside : target.index < machine.registers.size
      · simp [exec_load inside, valueOf?, Instr.target, inside, eq_comm]
      · simp [exec, set, Instr.target, inside]
  | operate target left operator right =>
      simp only [exec, get, set, valueOf?, Instr.target, bind, EStateM.bind]
      cases leftHeld : machine.registers[left.index]? with
      | none => simp
      | some m =>
          cases rightHeld : machine.registers[right.index]? with
          | none => simp [rightHeld]
          | some n =>
              by_cases inside : target.index < machine.registers.size
              · simp [rightHeld, inside, eq_comm]
              · simp [rightHeld, inside]

theorem exec_of_fitsIn (fits : instr.FitsIn machine.registers.size) (line : String) :
    ∃ after, exec instr line machine = .ok () after := by
  cases instr with
  | load target literal => exact ⟨_, exec_load (Instr.fitsIn_load_iff.mp fits) literal line⟩
  | operate target left operator right =>
      obtain ⟨targetIn, leftIn, rightIn⟩ := Instr.fitsIn_operate_iff.mp fits
      exact ⟨_, exec_operate targetIn (Array.getElem?_eq_getElem leftIn)
        (Array.getElem?_eq_getElem rightIn) operator line⟩

theorem size_of_exec (done : exec instr line machine = .ok () after) :
    after.registers.size = machine.registers.size := by
  obtain ⟨-, value, -, rfl⟩ := exec_eq_ok_iff.mp done
  exact Array.size_setIfInBounds

theorem exec_frame (done : exec instr line machine = .ok () after) {index : Nat}
    (other : index ≠ instr.target.index) : after.registers[index]? = machine.registers[index]? := by
  obtain ⟨-, value, -, rfl⟩ := exec_eq_ok_iff.mp done
  exact Array.getElem?_setIfInBounds_ne other.symm

theorem execAll_cons_ok_iff {instrs : List Instr} :
    execAll (instr :: instrs) machine = .ok () after ↔
      ∃ next, exec instr instr.text machine = .ok () next ∧ execAll instrs next = .ok () after := by
  rw [execAll_cons]
  cases exec instr instr.text machine with
  | ok value next => simp
  | error cause next => simp

theorem exists_of_execAll_append {first second : List Instr}
    (done : execAll (first ++ second) machine = .ok () after) :
    ∃ middle, execAll first machine = .ok () middle ∧ execAll second middle = .ok () after := by
  induction first generalizing machine with
  | nil => exact ⟨machine, rfl, done⟩
  | cons instr first ih =>
      obtain ⟨next, executed, rest⟩ := execAll_cons_ok_iff.mp done
      obtain ⟨middle, firstDone, secondDone⟩ := ih rest
      exact ⟨middle, execAll_cons_ok_iff.mpr ⟨next, executed, firstDone⟩, secondDone⟩

/-- A machine that has all registers of some instructions executes them, and has as many registers
afterwards. -/
theorem execAll_of_fitsIn {instrs : List Instr}
    (fits : ∀ instr ∈ instrs, instr.FitsIn machine.registers.size) :
    ∃ after, execAll instrs machine = .ok () after ∧
      after.registers.size = machine.registers.size := by
  induction instrs generalizing machine with
  | nil => exact ⟨machine, rfl, rfl⟩
  | cons instr instrs ih =>
      rw [List.forall_mem_cons] at fits
      obtain ⟨next, executed⟩ := exec_of_fitsIn fits.1 instr.text
      have size_eq := size_of_exec executed
      obtain ⟨after, done, kept⟩ := ih (size_eq.symm ▸ fits.2)
      exact ⟨after, execAll_cons_ok_iff.mpr ⟨next, executed, done⟩, kept.trans size_eq⟩

/-- A register that no instruction writes keeps its value. -/
theorem execAll_frame {instrs : List Instr} (done : execAll instrs machine = .ok () after)
    {index : Nat} (other : ∀ instr ∈ instrs, index ≠ instr.target.index) :
    after.registers[index]? = machine.registers[index]? := by
  induction instrs generalizing machine with
  | nil =>
      cases done
      rfl
  | cons instr instrs ih =>
      rw [List.forall_mem_cons] at other
      obtain ⟨next, executed, rest⟩ := execAll_cons_ok_iff.mp done
      exact (ih rest other.2).trans (exec_frame executed other.1)

end Machine

/-! ## The instructions of stack code -/

/-- An operation on a stack below the bound names a register from the bound on only if it asks for
one. -/
theorem StackOp.fitsIn_iff {bound before : Nat} {op : StackOp} (allowed : op.Allowed before)
    (live : before ≤ bound) :
    (∀ instr ∈ op.instrs before, instr.FitsIn bound) ↔ op.reach before ≤ bound := by
  cases op with
  | push literal =>
      rw [instrs, List.forall_mem_singleton, Instr.fitsIn_load_iff]
      rfl
  | fold operator =>
      have two_le : 2 ≤ before := allowed
      rw [instrs, List.forall_mem_singleton, Instr.fitsIn_operate_iff]
      simp only [reach]
      omega
  | drop => simp [instrs, reach]

/-- Stack code names no register from the bound on if and only if it asks for no more registers than
the bound. -/
theorem StackCode.fitsIn_iff {bound before : Nat} {code : StackCode}
    (disciplined : Disciplined before code) (live : before ≤ bound) :
    (∀ instr ∈ instrs before code, instr.FitsIn bound) ↔ peak before code ≤ bound := by
  induction code generalizing before with
  | nil => simp [instrs, peak]
  | cons op code ih =>
      rw [instrs, List.forall_mem_append, StackOp.fitsIn_iff disciplined.1 live, peak, Nat.max_le]
      apply and_congr_right
      intro room
      have deeper := op.depth_le before
      exact ih disciplined.2 (by omega)

end ThreeAddress
