import ThreeAddress.Proofs.RoundTrip
import ThreeAddress.Proofs.Transparency

/-!
# Runs in parts, and runs that fail

A text that is cut behind a line feed can be run in two parts, one after the other on the same
machine.  A run that fails does so at one record: the records in front of it were executed, the
record itself changes nothing, and it is the one that the error quotes.  The texts are arbitrary
here, so a record may be blank or broken in any other way.
-/

namespace ThreeAddress

/-! ## Lines of two parts -/

namespace Text

/-- Behind a line feed, the lines go on with those of the second part. -/
theorem lines_append (front second : List Char) :
    ∃ line rest, lines (front ++ ['\n']) = line :: rest ∧
      lines (front ++ '\n' :: second) = line :: (rest ++ lines second) := by
  induction front with
  | nil => exact ⟨[], [], rfl, rfl⟩
  | cons c front ih =>
      obtain ⟨line, rest, first_eq, whole_eq⟩ := ih
      have sameHead : (front ++ '\n' :: second).head? = (front ++ ['\n']).head? := by
        cases front with
        | nil => rfl
        | cons first front => rfl
      simp only [List.cons_append, lines, sameHead, first_eq, whole_eq]
      split
      · exact ⟨[], line :: rest, rfl, rfl⟩
      · split
        · exact ⟨line, rest, rfl, rfl⟩
        · exact ⟨c :: line, rest, rfl, rfl⟩

/-- Nothing of a last line is left open. -/
def EndsLine (text : String) : Prop :=
  text = "" ∨ ∃ front, text = front ++ "\n"

end Text

theorem Machine.records_append {first : String} (ends : Text.EndsLine first) (second : String) :
    records (first ++ second) = records first ++ records second := by
  rcases ends with rfl | ⟨front, rfl⟩
  · rw [String.empty_append]
    rfl
  · obtain ⟨line, rest, first_eq, whole_eq⟩ := Text.lines_append front.toList second.toList
    simp [records, first_eq, whole_eq]

/-! ## Single records -/

/-- The line that the error quotes. -/
def RecordError.line : RecordError → String
  | malformed line => line
  | unsupportedOperator _ line => line
  | registerOutOfRange _ line => line

theorem Instr.line_of_decode_error {line : String} {cause : RecordError}
    (failed : decode line = .error cause) : cause.line = line := by
  rw [decode] at failed
  rcases ofFields_cases line (Text.fields line.toList) with
    ⟨instr, -, read⟩ | ⟨sign, -, read⟩ | read
  · rw [read] at failed
    contradiction
  · rw [read] at failed
    cases failed
    rfl
  · rw [read] at failed
    cases failed
    rfl

namespace Machine

variable {V : Type} [Arithmetic V] {machine after : Machine V} {line : String}
variable {lines : List String} {cause : RecordError} {logged final : Logged (Machine V)}

/-- The machine cannot execute the record: it is no instruction, or one that fails and changes
nothing. -/
inductive Refuses (machine : Machine V) (line : String) (cause : RecordError) : Prop where
  | unread (failed : Instr.decode line = .error cause)
  | unexecuted {instr : Instr} (read : Instr.decode line = .ok instr)
      (failed : exec instr line machine = .error cause machine)

/-- The machine executes the records one after the other, and none of them fails. -/
inductive Executes : List String → Machine V → Machine V → Prop where
  | nil (machine : Machine V) : Executes [] machine machine
  | cons {line : String} {instr : Instr} {lines : List String} {machine next after : Machine V}
      (read : Instr.decode line = .ok instr) (done : exec instr line machine = .ok () next)
      (rest : Executes lines next after) : Executes (line :: lines) machine after

theorem Refuses.line_eq (refuses : machine.Refuses line cause) : cause.line = line := by
  cases refuses with
  | unread failed => exact Instr.line_of_decode_error failed
  | unexecuted read failed =>
      obtain ⟨⟨register, rfl⟩, -⟩ := exec_error failed
      rfl

theorem Executes.size_eq (executes : Executes lines machine after) :
    after.registers.size = machine.registers.size := by
  induction executes with
  | nil machine => rfl
  | cons read done rest ih => exact ih.trans (size_of_exec done)

/-- A record is executed, or it is refused and changes nothing. -/
theorem execLine_spec (line : String) (logged : Logged (Machine V)) :
    (∃ instr next events, Instr.decode line = .ok instr ∧
        exec instr line logged.state = .ok () next ∧
        execLine line logged = .ok () ⟨next, events⟩) ∨
      ∃ cause, logged.state.Refuses line cause ∧ execLine line logged = .error cause logged := by
  cases read : Instr.decode line with
  | error cause =>
      refine .inr ⟨cause, .unread read, ?_⟩
      simp only [execLine, read]
  | ok instr =>
      cases executed : exec instr line logged.state with
      | error cause next =>
          obtain ⟨-, rfl⟩ := exec_error executed
          refine .inr ⟨cause, .unexecuted read executed, ?_⟩
          simp only [execLine, read, executed]
      | ok value next =>
          refine .inl ⟨instr, next, logged.events.push
            (.executed line (next.registers.toList.map Arithmetic.text)), rfl, executed, ?_⟩
          simp only [execLine, read, executed]

/-! ## Sequences of records -/

theorem executes_of_forM (done : lines.forM execLine logged = .ok () final) :
    Executes lines logged.state final.state := by
  induction lines generalizing logged with
  | nil =>
      cases done
      exact .nil _
  | cons line lines ih =>
      rw [forM_execLine_cons] at done
      rcases execLine_spec line logged with
        ⟨instr, next, events, read, executed, stepped⟩ | ⟨cause, -, stepped⟩
      · rw [stepped] at done
        exact .cons read executed (ih done)
      · rw [stepped] at done
        contradiction

/-- Records that fail do so at one of them, after all before it were executed. -/
theorem exists_refused_of_forM (failed : lines.forM execLine logged = .error cause final) :
    ∃ before line behind, lines = before ++ line :: behind ∧
      Executes before logged.state final.state ∧ final.state.Refuses line cause := by
  induction lines generalizing logged with
  | nil => contradiction
  | cons line lines ih =>
      rw [forM_execLine_cons] at failed
      rcases execLine_spec line logged with
        ⟨instr, next, events, read, executed, stepped⟩ | ⟨refusal, refuses, stepped⟩
      · rw [stepped] at failed
        obtain ⟨before, refused, behind, rfl, done, refuses⟩ := ih failed
        exact ⟨line :: before, refused, behind, rfl, .cons read executed done, refuses⟩
      · rw [stepped] at failed
        cases failed
        exact ⟨[], line, lines, rfl, .nil _, refuses⟩

/-! ## Runs -/

/-- A run that answers has executed all records. -/
theorem forM_of_run_ok {text : String} {value : V} (ran : run text logged = .ok value final) :
    (records text).forM execLine logged = .ok () final := by
  unfold run at ran
  cases executed : (records text).forM execLine logged with
  | error cause last =>
      rw [executed] at ran
      contradiction
  | ok _ last =>
      cases held : last.state.registers[Register.result.index]? with
      | none => simp [executed, get, held] at ran
      | some answer =>
          simp only [executed, get_of_held held, EStateM.Result.ok.injEq] at ran
          rw [← ran.2]

/-- With a register to answer from, a run fails only at a record. -/
theorem forM_of_run_error (nonempty : 0 < logged.state.registers.size) {text : String}
    (ran : run text logged = .error cause final) :
    (records text).forM execLine logged = .error cause final := by
  unfold run at ran
  cases executed : (records text).forM execLine logged with
  | error other last =>
      rw [executed] at ran
      cases ran
      rfl
  | ok _ last =>
      have inside : 0 < last.state.registers.size := by
        rw [(executes_of_forM executed).size_eq]
        exact nonempty
      have held : last.state.registers[Register.result.index]? = some last.state.registers[0] :=
        Array.getElem?_eq_getElem inside
      simp [executed, get_of_held held] at ran

theorem run_append_of_ok {first : String} (ends : Text.EndsLine first) (second : String)
    (done : (records first).forM execLine logged = .ok () final) :
    run (first ++ second) logged = run second final := by
  rw [List.forM_eq_forM] at done
  simp only [run, records_append ends, List.forM_eq_forM, List.forM_append, bind, EStateM.bind,
    done]

theorem run_append_of_error {first : String} (ends : Text.EndsLine first) (second : String)
    (failed : (records first).forM execLine logged = .error cause final) :
    run (first ++ second) logged = .error cause final := by
  rw [List.forM_eq_forM] at failed
  simp only [run, records_append ends, List.forM_eq_forM, List.forM_append, bind, EStateM.bind,
    failed]

end Machine

/-- On a machine with a register to answer from, a text that ends a line and what follows it are run
as the first and then the second; if the first fails, so does the whole, in the same state.  A run
that fails has executed the records in front of one that it refuses, and nothing else, and the error
quotes that record.  No run changes the number of registers. -/
theorem run_in_parts_and_up_to_failure {V : Type} [Arithmetic V] {logged : Logged (Machine V)}
    (nonempty : 0 < logged.state.registers.size) :
    (∀ first second, Text.EndsLine first →
      (∀ value between, Machine.run first logged = .ok value between →
        Machine.run (first ++ second) logged = Machine.run second between) ∧
      ∀ cause after, Machine.run first logged = .error cause after →
        Machine.run (first ++ second) logged = .error cause after) ∧
    (∀ text cause after, Machine.run text logged = .error cause after →
      ∃ before line behind, Machine.records text = before ++ line :: behind ∧
        Machine.Executes before logged.state after.state ∧
        after.state.Refuses line cause ∧ cause.line = line) ∧
    ∀ text, (Machine.outcome (Machine.run text logged)).2.state.registers.size =
      logged.state.registers.size := by
  refine ⟨?_, ?_, ?_⟩
  · intro first second ends
    constructor
    · intro value between ran
      exact Machine.run_append_of_ok ends second (Machine.forM_of_run_ok ran)
    · intro cause after ran
      exact Machine.run_append_of_error ends second (Machine.forM_of_run_error nonempty ran)
  · intro text cause after ran
    obtain ⟨before, line, behind, split, executes, refuses⟩ :=
      Machine.exists_refused_of_forM (Machine.forM_of_run_error nonempty ran)
    exact ⟨before, line, behind, split, executes, refuses, refuses.line_eq⟩
  · intro text
    cases ran : Machine.run text logged with
    | ok value after => exact (Machine.executes_of_forM (Machine.forM_of_run_ok ran)).size_eq
    | error cause after =>
        obtain ⟨before, line, behind, -, executes, -⟩ :=
          Machine.exists_refused_of_forM (Machine.forM_of_run_error nonempty ran)
        exact executes.size_eq

theorem run_in_parts_and_up_to_failure_sample :
    0 < (Logged.fresh (⟨#[3, 4]⟩ : Machine Float)).state.registers.size ∧
    ∃ after : Logged (Machine Float),
      Machine.run ("t0 = 1.5\r\n" ++ "t1 = t9 * t0\nt0 = 2") (.fresh ⟨#[3, 4]⟩) =
        .error (.registerOutOfRange ⟨9⟩ "t1 = t9 * t0") after ∧
      after.state = ⟨#[Numeral.value ⟨['1'], ['5']⟩, 4]⟩ := by
  have nonempty : 0 < (Logged.fresh (⟨#[3, 4]⟩ : Machine Float)).state.registers.size := by decide
  have ends : Text.EndsLine "t0 = 1.5\r\n" := .inr ⟨"t0 = 1.5\r", rfl⟩
  have single : Machine.records "t0 = 1.5\r\n" = ["t0 = 1.5"] := rfl
  have loaded : ∃ events,
      Machine.execLine "t0 = 1.5" (.fresh (⟨#[3, 4]⟩ : Machine Float)) =
        .ok () ⟨⟨#[Numeral.value ⟨['1'], ['5']⟩, 4]⟩, events⟩ := ⟨_, rfl⟩
  obtain ⟨events, loaded⟩ := loaded
  have ran : Machine.run "t0 = 1.5\r\n" (.fresh (⟨#[3, 4]⟩ : Machine Float)) =
      .ok (Numeral.value ⟨['1'], ['5']⟩) ⟨⟨#[Numeral.value ⟨['1'], ['5']⟩, 4]⟩, events⟩ := by
    rw [Machine.run, single, Machine.forM_execLine_cons, loaded]
    rfl
  obtain ⟨inParts, -, -⟩ := run_in_parts_and_up_to_failure nonempty
  exact ⟨nonempty, _, ((inParts _ _ ends).1 _ _ ran).trans rfl, rfl⟩

end ThreeAddress
