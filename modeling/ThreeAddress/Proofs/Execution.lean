import ThreeAddress.Program
import ThreeAddress.Proofs.WireFormat

/-!
# Executing instructions

Running the text of instructions is executing the instructions one after the other, and the way
through the text leaves no trace.  Events are left out here.
-/

namespace ThreeAddress

/-- The outcome of an action without the events. -/
def Logged.forget {ε σ α : Type} : EStateM.Result ε (Logged σ) α → EStateM.Result ε σ α
  | .ok value logged => .ok value logged.state
  | .error cause logged => .error cause logged.state

theorem Logged.exists_of_forget_ok {ε σ α : Type} {result : EStateM.Result ε (Logged σ) α}
    {value : α} {state : σ} (forgotten : Logged.forget result = .ok value state) :
    ∃ events, result = .ok value ⟨state, events⟩ := by
  cases result with
  | error cause logged => contradiction
  | ok other logged =>
      cases forgotten
      exact ⟨logged.events, rfl⟩

theorem Logged.exists_of_forget_error {ε σ α : Type} {result : EStateM.Result ε (Logged σ) α}
    {cause : ε} {state : σ} (forgotten : Logged.forget result = .error cause state) :
    ∃ events, result = .error cause ⟨state, events⟩ := by
  cases result with
  | ok value logged => contradiction
  | error other logged =>
      cases forgotten
      exact ⟨logged.events, rfl⟩

namespace Machine

variable {V : Type}

/-! ## Single instructions -/

section Instructions

variable {machine after : Machine V} {register target left right : Register} {line : String}
variable {cause : RecordError}

/-- Reading a register changes nothing, and fails only if the machine lacks it. -/
theorem get_error (failed : get register line machine = .error cause after) :
    cause = .registerOutOfRange register line ∧ after = machine := by
  unfold get at failed
  cases held : machine.registers[register.index]? with
  | some value => simp [held] at failed
  | none =>
      simp only [held, EStateM.Result.error.injEq] at failed
      exact ⟨failed.1.symm, failed.2.symm⟩

/-- Writing a register that the machine lacks changes nothing. -/
theorem set_error {value : V} (failed : set register value line machine = .error cause after) :
    cause = .registerOutOfRange register line ∧ after = machine := by
  unfold set at failed
  by_cases inside : register.index < machine.registers.size
  · simp [inside] at failed
  · simp only [inside, if_false, EStateM.Result.error.injEq] at failed
    exact ⟨failed.1.symm, failed.2.symm⟩

theorem get_of_held {value : V} (held : machine.registers[register.index]? = some value)
    (line : String) : get register line machine = .ok value machine := by
  simp only [get, held]

variable [Arithmetic V]

theorem exec_load (inside : target.index < machine.registers.size) (literal : Literal)
    (line : String) :
    exec (.load target literal) line machine =
      .ok () ⟨machine.registers.setIfInBounds target.index (Arithmetic.ofLiteral literal)⟩ := by
  simp only [exec, set, inside, if_true]

theorem exec_operate {leftValue rightValue : V} (inside : target.index < machine.registers.size)
    (leftHeld : machine.registers[left.index]? = some leftValue)
    (rightHeld : machine.registers[right.index]? = some rightValue) (operator : Operator)
    (line : String) :
    exec (.operate target left operator right) line machine =
      .ok () ⟨machine.registers.setIfInBounds target.index
        (operator.apply leftValue rightValue)⟩ := by
  simp only [exec, bind, EStateM.bind, get_of_held leftHeld, get_of_held rightHeld, set, inside,
    if_true]

/-- An instruction fails only at a register that the machine lacks.  It then changes nothing, and
the error quotes the line. -/
theorem exec_error {instr : Instr} (failed : exec instr line machine = .error cause after) :
    (∃ register, cause = .registerOutOfRange register line) ∧ after = machine := by
  cases instr with
  | load target literal =>
      obtain ⟨cause_eq, same⟩ := set_error failed
      exact ⟨⟨target, cause_eq⟩, same⟩
  | operate target left operator right =>
      simp only [exec, bind, EStateM.bind] at failed
      cases leftHeld : machine.registers[left.index]? with
      | none =>
          simp only [get, leftHeld, EStateM.Result.error.injEq] at failed
          exact ⟨⟨left, failed.1.symm⟩, failed.2.symm⟩
      | some m =>
          rw [get_of_held leftHeld] at failed
          cases rightHeld : machine.registers[right.index]? with
          | none =>
              simp only [get, rightHeld, EStateM.Result.error.injEq] at failed
              exact ⟨⟨right, failed.1.symm⟩, failed.2.symm⟩
          | some n =>
              simp only [get_of_held rightHeld] at failed
              obtain ⟨cause_eq, same⟩ := set_error failed
              exact ⟨⟨target, cause_eq⟩, same⟩

end Instructions

/-! ## Sequences of instructions -/

variable [Arithmetic V]

/-- Execute instructions one after the other, up to the first that cannot be executed. -/
def execAll : List Instr → EStateM RecordError (Machine V) Unit
  | [] => pure ()
  | instr :: instrs => do
      exec instr instr.text
      execAll instrs

theorem execAll_cons (instr : Instr) (instrs : List Instr) (machine : Machine V) :
    execAll (instr :: instrs) machine =
      match exec instr instr.text machine with
      | .ok _ next => execAll instrs next
      | .error cause next => .error cause next := by
  simp only [execAll, bind, EStateM.bind]
  cases exec instr instr.text machine with
  | ok value next => rfl
  | error cause next => rfl

theorem execAll_append {first second : List Instr} {before middle : Machine V}
    (done : execAll first before = .ok () middle) :
    execAll (first ++ second) before = execAll second middle := by
  induction first generalizing before with
  | nil =>
      cases done
      rfl
  | cons instr first ih =>
      rw [execAll_cons] at done
      rw [List.cons_append, execAll_cons]
      cases executed : exec instr instr.text before with
      | ok value next =>
          rw [executed] at done
          exact ih done
      | error cause next =>
          rw [executed] at done
          contradiction

theorem forM_execLine_cons (line : String) (lines : List String) (logged : Logged (Machine V)) :
    (line :: lines).forM execLine logged =
      match execLine line logged with
      | .ok _ after => lines.forM execLine after
      | .error cause after => .error cause after := by
  simp only [List.forM, bind, EStateM.bind]
  cases execLine line logged with
  | ok value after => rfl
  | error cause after => rfl

/-- A record is executed as the instruction that is read from it. -/
theorem forget_execLine {line : String} {instr : Instr} (read : Instr.decode line = .ok instr)
    (logged : Logged (Machine V)) :
    Logged.forget (execLine line logged) = exec instr line logged.state := by
  simp only [execLine, read]
  cases exec instr line logged.state with
  | ok value next => rfl
  | error cause next => rfl

/-- The records of instructions are executed as the instructions themselves. -/
theorem forget_forM_execLine {instrs : List Instr}
    (recordable : ∀ instr ∈ instrs, instr.Recordable) (logged : Logged (Machine V)) :
    Logged.forget ((instrs.map Instr.text).forM execLine logged) =
      execAll instrs logged.state := by
  induction instrs generalizing logged with
  | nil => rfl
  | cons instr instrs ih =>
      rw [List.forall_mem_cons] at recordable
      have stepped := forget_execLine (Instr.decode_text recordable.1) logged
      rw [List.map_cons, forM_execLine_cons, execAll_cons, ← stepped]
      cases execLine instr.text logged with
      | ok value after => exact ih recordable.2 after
      | error cause after => rfl

/-- Running the text of instructions is executing them and reading the result. -/
theorem forget_run {text : String} {instrs : List Instr}
    (recordable : ∀ instr ∈ instrs, instr.Recordable)
    (text_eq : text.toList = instrs.flatMap fun instr => instr.line.toList)
    (logged : Logged (Machine V)) :
    Logged.forget (run text logged) = (do execAll instrs; get .result "") logged.state := by
  have stepped := forget_forM_execLine recordable logged
  simp only [run, records_eq recordable text_eq, bind, EStateM.bind, ← stepped]
  cases (instrs.map Instr.text).forM execLine logged with
  | ok value after =>
      simp only [Logged.forget]
      cases get .result "" after.state with
      | ok value machine => rfl
      | error cause machine => rfl
  | error cause after => rfl

section Run

variable {text : String} {instrs : List Instr} {logged : Logged (Machine V)} {after : Machine V}

/-- A run of instructions that are executed to the end answers with the first register. -/
theorem run_of_execAll_ok (recordable : ∀ instr ∈ instrs, instr.Recordable)
    (text_eq : text.toList = instrs.flatMap fun instr => instr.line.toList) {value : V}
    (done : execAll instrs logged.state = .ok () after)
    (held : after.registers[0]? = some value) :
    ∃ events, run text logged = .ok value ⟨after, events⟩ := by
  apply Logged.exists_of_forget_ok
  rw [forget_run recordable text_eq]
  simp only [bind, EStateM.bind, done]
  exact get_of_held held ""

/-- A run of instructions fails with the first of them that fails. -/
theorem run_of_execAll_error (recordable : ∀ instr ∈ instrs, instr.Recordable)
    (text_eq : text.toList = instrs.flatMap fun instr => instr.line.toList) {cause : RecordError}
    (failed : execAll instrs logged.state = .error cause after) :
    ∃ events, run text logged = .error cause ⟨after, events⟩ := by
  apply Logged.exists_of_forget_error
  rw [forget_run recordable text_eq]
  simp only [bind, EStateM.bind, failed]

end Run

end Machine

end ThreeAddress
