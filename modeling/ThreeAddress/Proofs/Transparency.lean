import ThreeAddress.Proofs.Compilation
import ThreeAddress.Proofs.Execution

/-!
# The text of instructions is as good as the instructions

Writing instructions into a buffer and running its text leaves the same registers, the same result
and the same error as executing the instructions themselves.  This holds on every machine, also
where an instruction fails, and for every list of instructions that can be written down, whether
or not a compiler would emit it.
-/

namespace ThreeAddress

/-- A sink that refuses nothing receives instructions one after the other. -/
theorem Sink.Unfailing.forM_emit {σ : Type} [Sink σ] {sink : σ} (unfailing : Sink.Unfailing sink)
    (instrs : List Instr) :
    instrs.forM Sink.emit sink = .ok () (instrs.foldl Sink.receive sink) := by
  induction instrs generalizing sink with
  | nil => rfl
  | cons instr instrs ih =>
      simp only [List.forM, bind, EStateM.bind, unfailing.emit_eq instr]
      exact ih (unfailing.foldl_receive [instr])

namespace Machine

variable {V : Type} [Arithmetic V] {machine after : Machine V} {cause : RecordError}

/-- Instructions that fail do so at one of them, after all before it were executed, and that one
changes nothing. -/
theorem execAll_error {instrs : List Instr}
    (failed : execAll instrs machine = .error cause after) :
    ∃ before instr behind, instrs = before ++ instr :: behind ∧
      execAll before machine = .ok () after ∧
      exec instr instr.text after = .error cause after := by
  induction instrs generalizing machine with
  | nil => contradiction
  | cons instr instrs ih =>
      rw [execAll_cons] at failed
      cases executed : exec instr instr.text machine with
      | error other next =>
          rw [executed] at failed
          cases failed
          obtain ⟨-, rfl⟩ := exec_error executed
          exact ⟨[], instr, instrs, rfl, rfl, executed⟩
      | ok value next =>
          rw [executed] at failed
          obtain ⟨before, stop, behind, rfl, done, stopped⟩ := ih failed
          refine ⟨instr :: before, stop, behind, rfl, ?_, stopped⟩
          rw [execAll_cons, executed]
          exact done

/-- Execute instructions one after the other, and answer with the result register. -/
def runInstrs (instrs : List Instr) : EStateM RecordError (Machine V) V := do
  execAll instrs
  get .result ""

/-- A direct run fails at an instruction, and quotes it, or has no register to answer with. -/
theorem runInstrs_error {instrs : List Instr}
    (failed : runInstrs instrs machine = .error cause after) :
    (∃ before instr behind register, instrs = before ++ instr :: behind ∧
        execAll before machine = .ok () after ∧
        exec instr instr.text after = .error (.registerOutOfRange register instr.text) after ∧
        cause = .registerOutOfRange register instr.text) ∨
      (execAll instrs machine = .ok () after ∧ cause = .registerOutOfRange .result "") := by
  simp only [runInstrs, bind, EStateM.bind] at failed
  cases executed : execAll instrs machine with
  | error other last =>
      rw [executed] at failed
      cases failed
      obtain ⟨before, instr, behind, split, done, stopped⟩ := execAll_error executed
      obtain ⟨⟨register, rfl⟩, -⟩ := exec_error stopped
      exact .inl ⟨before, instr, behind, register, split, done, stopped, rfl⟩
  | ok value last =>
      rw [executed] at failed
      obtain ⟨cause_eq, rfl⟩ := get_error failed
      exact .inr ⟨rfl, cause_eq⟩

end Machine

/-- Instructions that can be written down are run from their text as they are themselves: with the
same registers left behind, the same result and the same error.  The error quotes the text of the
instruction that fails, or nothing if there is no register to answer with. -/
theorem run_emitted_eq_runInstrs {V : Type} [Arithmetic V] {instrs : List Instr}
    (recordable : ∀ instr ∈ instrs, instr.Recordable) (logged : Logged (Machine V)) :
    ∃ buffer : Buffer, instrs.forM Sink.emit Buffer.empty = .ok () buffer ∧
      Logged.forget (Machine.run buffer.text logged) = Machine.runInstrs instrs logged.state ∧
      ∀ cause after, Machine.runInstrs instrs logged.state = .error cause after →
        (∃ before instr behind register, instrs = before ++ instr :: behind ∧
          Machine.execAll before logged.state = .ok () after ∧
          Machine.exec instr instr.text after =
            .error (.registerOutOfRange register instr.text) after ∧
          cause = .registerOutOfRange register instr.text) ∨
        (Machine.execAll instrs logged.state = .ok () after ∧
          cause = .registerOutOfRange .result "") := by
  refine ⟨_, Buffer.empty.unfailing.forM_emit instrs, ?_, ?_⟩
  · exact Machine.forget_run recordable (Buffer.foldl_receive instrs Buffer.empty) logged
  · intro cause after failed
    exact Machine.runInstrs_error failed

theorem run_emitted_eq_runInstrs_sample :
    ∃ buffer : Buffer,
      List.forM [Instr.load ⟨1⟩ ⟨"1.5", Numeral.value ⟨['1'], ['5']⟩⟩,
        .operate ⟨0⟩ ⟨1⟩ .multiply ⟨7⟩] Sink.emit Buffer.empty = .ok () buffer ∧
      ∃ after : Machine Float,
        Logged.forget (Machine.run buffer.text (.fresh ⟨#[3, 4]⟩)) =
          .error (.registerOutOfRange ⟨7⟩ "t0 = t1 * t7") after := by
  have recordable : ∀ instr ∈ [Instr.load ⟨1⟩ ⟨"1.5", Numeral.value ⟨['1'], ['5']⟩⟩,
      .operate ⟨0⟩ ⟨1⟩ .multiply ⟨7⟩], instr.Recordable := by
    rw [List.forall_mem_cons, List.forall_mem_singleton]
    exact ⟨⟨by decide, ⟨⟨['1'], ['5']⟩, by decide⟩, rfl⟩, by decide, by decide, by decide⟩
  obtain ⟨buffer, emitted, same, -⟩ :=
    run_emitted_eq_runInstrs recordable (.fresh (⟨#[3, 4]⟩ : Machine Float))
  exact ⟨buffer, emitted, _, same.trans rfl⟩

end ThreeAddress
