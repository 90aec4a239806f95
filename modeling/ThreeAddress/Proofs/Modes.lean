import ThreeAddress.CommandLine.Report
import ThreeAddress.Proofs.Delivery
import ThreeAddress.Proofs.RegisterLimits

/-!
# Showing and running the instructions

The command line shows the instructions of a source as they are emitted, or compiles all of them,
reads them back and runs them.  The second way has more steps that could fail.  None of them does:
both ways end alike, and what the first one shows is what the second one runs.
-/

namespace ThreeAddress

section Stages

variable (V : Type) [Arithmetic V] {source : String} {options : Options}

/-- What cannot be compiled is not run. -/
theorem compileAndRun_of_error {cause : Error}
    (failed : (compileInto source options Buffer.empty).1.result = .error cause) :
    (compileAndRun source options : Outcome V).result = .error cause := by
  simp only [compileAndRun, Outcome.andThen, compile_error_iff.mpr failed]

/-- What was compiled runs to its value. -/
theorem compileAndRun_of_ok
    (compiled : (compileInto source options Buffer.empty).1.result = .ok ()) :
    ∃ value : V,
      (run (compileInto source options Buffer.empty).2.text options).result = .ok value ∧
        (compileAndRun source options).result = .ok value := by
  have text_eq : (compile source options).result =
      .ok (compileInto source options Buffer.empty).2.text := by
    simp only [compile, Outcome.andThen, compiled]
  obtain ⟨value, ran⟩ := run_ok_of_compiled V text_eq
  refine ⟨value, ran, ?_⟩
  simp only [compileAndRun, Outcome.andThen, text_eq, ran]

end Stages

namespace CommandLine

/-- The instructions that are emitted before compilation ends or fails, with a number of registers
as it was given. -/
def emittedInstrs (source registers : String) : List Instr :=
  match readCount registers with
  | .ok count => (compileInto source ⟨count⟩ Listing.empty).2.instrs.toList
  | .error _ => []

/-- Without a number of registers, neither mode does anything. -/
theorem respond_of_misread {settings : Settings} {cause : UsageError}
    (misread : readCount settings.registers = .error cause) (directives : LogFilter) :
    (respond (.execute settings) directives).status = 1 ∧
      (respond (.execute settings) directives).output = errorText (.usage cause) := by
  simp only [respond, execute, misread, and_self]

/-- With the same source and the same number of registers, both modes end with the same status.  If
it is 0, what emit mode shows runs to the value that run mode shows.  If it is 1, emit mode shows
the instructions up to the error, one to a line, and then what run mode shows.  The lines that emit
mode writes one by one are those that run mode collects. -/
theorem emit_mode_agrees_with_run_mode (source registers : String) (verbosity : Nat)
    (directives : LogFilter) :
    let shown := respond (.execute ⟨source, registers, true, verbosity⟩) directives
    let ran := respond (.execute ⟨source, registers, false, verbosity⟩) directives
    let lines := String.join ((emittedInstrs source registers).map fun instr => instr.text ++ "\n")
    shown.status = ran.status ∧
    ((shown.status = 0 ∧ shown.output = lines ∧ ∃ (count : Nat) (value : Float),
        readCount registers = .ok count ∧
        (run shown.output ⟨count⟩).result = .ok value ∧
        ran.output = "Result = " ++ resultLayout.render value ++ "\n") ∨
      (shown.status = 1 ∧ shown.output = lines ++ ran.output ∧
        ∃ cause, ran.output = errorText cause)) ∧
    ∀ count, readCount registers = .ok count →
      (compileInto source ⟨count⟩ (Writer.ofLimit none)).2.text? = some lines ∧
        (compileInto source ⟨count⟩ Buffer.empty).2.text = lines := by
  intro shown ran lines
  cases read : readCount registers with
  | error cause =>
      have lines_eq : lines = "" := by
        simp only [lines, emittedInstrs, read]
        rfl
      obtain ⟨shownStatus, shownOutput⟩ :=
        @respond_of_misread ⟨source, registers, true, verbosity⟩ _ read directives
      obtain ⟨ranStatus, ranOutput⟩ :=
        @respond_of_misread ⟨source, registers, false, verbosity⟩ _ read directives
      rw [shownStatus, shownOutput, ranStatus, ranOutput, lines_eq, String.empty_append]
      exact ⟨rfl, .inr ⟨rfl, rfl, _, rfl⟩, nofun⟩
  | ok count =>
      obtain ⟨collected_result, collected_text⟩ := compileInto_buffer source ⟨count⟩
      obtain ⟨written_result, written_text⟩ := compileInto_writer source ⟨count⟩
      have lines_eq : lines =
          String.join ((compileInto source ⟨count⟩ Listing.empty).2.instrs.toList.map
            fun instr => instr.text ++ "\n") := by
        simp only [lines, emittedInstrs, read]
      rw [← lines_eq] at collected_text written_text
      rw [← collected_result] at written_result
      have received : ∀ other, (.ok count : Except UsageError Nat) = .ok other →
          (compileInto source ⟨other⟩ (Writer.ofLimit none)).2.text? = some lines ∧
            (compileInto source ⟨other⟩ Buffer.empty).2.text = lines := by
        rintro _ ⟨⟩
        exact ⟨written_text, collected_text⟩
      cases compiled : (compileInto source ⟨count⟩ Buffer.empty).1.result with
      | ok done =>
          obtain ⟨value, ranText, ranSource⟩ := compileAndRun_of_ok Float compiled
          have shown_eq : shown.status = 0 ∧ shown.output = lines := by
            simp only [shown, respond, execute, read, if_true, written_result, compiled,
              written_text, Option.getD_some, and_self]
          have ran_eq : ran.status = 0 ∧
              ran.output = "Result = " ++ resultLayout.render value ++ "\n" := by
            simp [ran, respond, execute, read, ranSource]
          rw [collected_text] at ranText
          rw [shown_eq.1, shown_eq.2, ran_eq.1, ran_eq.2]
          exact ⟨rfl, .inl ⟨rfl, rfl, count, value, rfl, ranText, rfl⟩, received⟩
      | error cause =>
          have failed := compileAndRun_of_error Float compiled
          have shown_eq : shown.status = 1 ∧ shown.output = lines ++ errorText cause := by
            simp only [shown, respond, execute, read, if_true, written_result, compiled,
              written_text, Option.getD_some, and_self]
          have ran_eq : ran.status = 1 ∧ ran.output = errorText cause := by
            simp [ran, respond, execute, read, failed]
          rw [shown_eq.1, shown_eq.2, ran_eq.1, ran_eq.2]
          exact ⟨rfl, .inr ⟨rfl, rfl, cause, rfl⟩, received⟩

end CommandLine

end ThreeAddress
