import ThreeAddress.Proofs.Footprint
import ThreeAddress.Proofs.RecordGrammar

/-!
# Reading an instruction from its text, and writing what was read

An instruction is read back from its text exactly if it could have been read from some line at all:
its registers have one digit and its literal is that of a numeral.  So a text can be rewritten record
by record, each line replaced by the text of its instruction.  No machine can tell the two texts
apart, save by the lines that errors and events quote.
-/

namespace ThreeAddress

/-! ## Reading back -/

/-- A double is known by its bits. -/
theorem Literal.value_eq_of_toBits {first second : Float} (same : first.toBits = second.toBits) :
    first = second := by
  obtain ⟨⟨firstBits, firstValid⟩⟩ := first
  obtain ⟨⟨secondBits, secondValid⟩⟩ := second
  cases same
  rfl

theorem Literal.exists_eq_literal_iff {literal : Literal} :
    (∃ number : Number, literal = number.literal) ↔
      ∃ numeral : Numeral, numeral.Proper ∧ literal.text.toList = numeral.text ∧
        literal.value.toBits = numeral.value.toBits := by
  constructor
  · rintro ⟨number, rfl⟩
    exact ⟨number.val, number.property, number.toList_literal, rfl⟩
  · rintro ⟨numeral, proper, text_eq, bits_eq⟩
    refine ⟨⟨numeral, proper⟩, ?_⟩
    have value_eq := Literal.value_eq_of_toBits bits_eq
    have text_eq : literal.text = String.ofList numeral.text := by
      rw [← text_eq, String.ofList_toList]
    obtain ⟨text, value⟩ := literal
    cases text_eq
    cases value_eq
    rfl

namespace Instr

variable {instr : Instr}

theorem Written.recordable {fields : List (List Char)} (written : Written fields instr) :
    instr.Recordable := by
  cases written with
  | load named number =>
      obtain ⟨letter, -, small, -⟩ := named
      exact ⟨small, number, rfl⟩
  | operate named leftNamed rightNamed operator =>
      obtain ⟨letter, -, small, -⟩ := named
      obtain ⟨leftLetter, -, leftSmall, -⟩ := leftNamed
      obtain ⟨rightLetter, -, rightSmall, -⟩ := rightNamed
      exact ⟨small, leftSmall, rightSmall⟩

/-- Whatever is read from a line can be written down. -/
theorem recordable_of_decode {line : String} (read : decode line = .ok instr) :
    instr.Recordable :=
  (ofFields_eq_ok_iff.mp read).recordable

theorem decode_text_iff : decode instr.text = .ok instr ↔ instr.Recordable := by
  constructor
  · exact recordable_of_decode
  · exact decode_text

theorem recordable_of_map_decode {lines : List String} {instrs : List Instr}
    (read : lines.map decode = instrs.map .ok) : ∀ instr ∈ instrs, instr.Recordable := by
  intro instr member
  have decoded : .ok instr ∈ lines.map decode := by
    rw [read]
    exact List.mem_map_of_mem member
  obtain ⟨line, -, line_read⟩ := List.mem_map.mp decoded
  exact recordable_of_decode line_read

end Instr

/-! ## Running what was rewritten -/

namespace Machine

/-- The answer of an action, if it has one, and the state that it leaves behind.  What an error says
is left out. -/
def outcome {ε σ α : Type} : EStateM.Result ε σ α → Option α × σ
  | .ok value state => (some value, state)
  | .error _ state => (none, state)

/-- Every record of the first text is an instruction, and the second text has the texts of these
instructions for its records. -/
def Rewrites (text rewritten : String) : Prop :=
  ∃ instrs : List Instr, (records text).map Instr.decode = instrs.map .ok ∧
    records rewritten = instrs.map Instr.text

variable {V : Type} [Arithmetic V] {machine after : Machine V} {instr : Instr}

/-- The quoted line does not matter where nothing fails. -/
theorem exec_ok_of_exec_ok {line : String} (done : exec instr line machine = .ok () after)
    (other : String) : exec instr other machine = .ok () after :=
  exec_eq_ok_iff.mpr (exec_eq_ok_iff.mp done)

/-- The quoted line decides what an error says, and nothing else. -/
theorem outcome_exec_eq (instr : Instr) (machine : Machine V) (line other : String) :
    outcome (exec instr line machine) = outcome (exec instr other machine) := by
  cases executed : exec instr line machine with
  | ok value next => rw [exec_ok_of_exec_ok executed other]
  | error cause next =>
      obtain ⟨-, rfl⟩ := exec_error executed
      cases otherExecuted : exec instr other next with
      | ok value last =>
          rw [exec_ok_of_exec_ok otherExecuted line] at executed
          contradiction
      | error otherCause last =>
          obtain ⟨-, rfl⟩ := exec_error otherExecuted
          rfl

variable {instrs : List Instr}

/-- Records are executed as the instructions that are read from them. -/
theorem outcome_forM_execLine {lines : List String}
    (read : lines.map Instr.decode = instrs.map .ok) (logged : Logged (Machine V)) :
    outcome (Logged.forget (lines.forM execLine logged)) =
      outcome (execAll instrs logged.state) := by
  induction instrs generalizing lines logged with
  | nil =>
      cases List.map_eq_nil_iff.mp read
      rfl
  | cons instr instrs ih =>
      obtain ⟨line, rest, rfl, lineRead, restRead⟩ := List.map_eq_cons_iff.mp read
      have same := outcome_exec_eq instr logged.state line instr.text
      rw [← forget_execLine lineRead logged] at same
      rw [forM_execLine_cons, execAll_cons]
      generalize execLine line logged = stepped at same ⊢
      generalize exec instr instr.text logged.state = executed at same ⊢
      cases stepped with
      | ok value after =>
          cases executed with
          | ok value next =>
              cases same
              exact ih restRead after
          | error cause next => cases same
      | error cause after =>
          cases executed with
          | ok value next => cases same
          | error otherCause next => exact same

/-- What a run answers once its records are executed: the result register, unless one failed. -/
def settle : Option Unit × Machine V → Option V × Machine V
  | (some _, machine) => outcome (get .result "" machine)
  | (none, machine) => (none, machine)

theorem outcome_run_eq_settle (text : String) (logged : Logged (Machine V)) :
    outcome (Logged.forget (run text logged)) =
      settle (outcome (Logged.forget ((records text).forM execLine logged))) := by
  unfold run
  cases (records text).forM execLine logged with
  | ok value after =>
      simp only [Logged.forget, outcome, settle]
      cases get .result "" after.state with
      | ok value machine => rfl
      | error cause machine => rfl
  | error cause after => rfl

/-- Records that are all executed are all read as instructions. -/
theorem exists_instrs_of_forM_execLine {lines : List String} {logged final : Logged (Machine V)}
    (done : lines.forM execLine logged = .ok () final) :
    ∃ instrs : List Instr, lines.map Instr.decode = instrs.map .ok := by
  induction lines generalizing logged with
  | nil => exact ⟨[], rfl⟩
  | cons line lines ih =>
      rw [forM_execLine_cons] at done
      cases lineRead : Instr.decode line with
      | error cause => simp [execLine, lineRead] at done
      | ok instr =>
          cases stepped : execLine line logged with
          | error cause after =>
              rw [stepped] at done
              contradiction
          | ok value after =>
              rw [stepped] at done
              obtain ⟨instrs, read⟩ := ih done
              refine ⟨instr :: instrs, ?_⟩
              rw [List.map_cons, List.map_cons, lineRead, read]

theorem exists_instrs_of_run {text : String} {logged final : Logged (Machine V)} {value : V}
    (done : run text logged = .ok value final) :
    ∃ instrs : List Instr, (records text).map Instr.decode = instrs.map .ok := by
  unfold run at done
  cases ran : (records text).forM execLine logged with
  | ok value after => exact exists_instrs_of_forM_execLine ran
  | error cause after =>
      rw [ran] at done
      contradiction

/-- The texts of instructions that were read, each as a line, make a rewritten text. -/
theorem rewrites_join {text : String} (read : (records text).map Instr.decode = instrs.map .ok) :
    Rewrites text (String.join (instrs.map Instr.line)) := by
  have recordable := Instr.recordable_of_map_decode read
  refine ⟨instrs, read, records_eq recordable ?_⟩
  rw [String.toList_join, List.flatMap_map]

theorem Rewrites.outcome_run_eq {text rewritten : String} (rewrites : Rewrites text rewritten)
    (logged : Logged (Machine V)) :
    outcome (Logged.forget (run rewritten logged)) = outcome (Logged.forget (run text logged)) := by
  obtain ⟨instrs, read, records_eq⟩ := rewrites
  have readBack : (records rewritten).map Instr.decode = instrs.map .ok := by
    rw [records_eq, List.map_map]
    apply List.map_congr_left
    intro instr member
    exact Instr.decode_text (Instr.recordable_of_map_decode read instr member)
  rw [outcome_run_eq_settle, outcome_run_eq_settle, outcome_forM_execLine readBack,
    outcome_forM_execLine read]

end Machine

/-- An instruction is read back from its text if and only if its registers have one digit and its
literal has the text of a numeral and, bit for bit, the value of that numeral.  Whatever is read
from a line is read back from its own text.  A text that runs on some machine can therefore be
rewritten record by record, and on every machine, whatever its values are, the rewritten text leaves
the same registers and gives the same answer. -/
theorem instr_text_round_trip :
    (∀ target literal, Instr.decode (Instr.load target literal).text = .ok (.load target literal) ↔
      target.index ≤ 9 ∧ ∃ numeral : Numeral, numeral.Proper ∧
        literal.text.toList = numeral.text ∧ literal.value.toBits = numeral.value.toBits) ∧
    (∀ target left operator right,
      Instr.decode (Instr.operate target left operator right).text =
          .ok (.operate target left operator right) ↔
        target.index ≤ 9 ∧ left.index ≤ 9 ∧ right.index ≤ 9) ∧
    (∀ line instr, Instr.decode line = .ok instr → Instr.decode instr.text = .ok instr) ∧
    ∀ (V : Type) [Arithmetic V],
      (∀ text (logged : Logged (Machine V)) value final, Machine.run text logged = .ok value final →
        ∃ rewritten, Machine.Rewrites text rewritten) ∧
      ∀ text rewritten, Machine.Rewrites text rewritten → ∀ logged : Logged (Machine V),
        Machine.outcome (Logged.forget (Machine.run rewritten logged)) =
          Machine.outcome (Logged.forget (Machine.run text logged)) := by
  refine ⟨?_, ?_, ?_, fun V _ => ⟨?_, ?_⟩⟩
  · intro target literal
    rw [Instr.decode_text_iff, Instr.Recordable, Literal.exists_eq_literal_iff]
  · intro target left operator right
    exact Instr.decode_text_iff
  · intro line instr read
    exact Instr.decode_text (Instr.recordable_of_decode read)
  · intro text logged value final done
    obtain ⟨instrs, read⟩ := Machine.exists_instrs_of_run done
    exact ⟨_, Machine.rewrites_join read⟩
  · intro text rewritten rewrites logged
    exact rewrites.outcome_run_eq logged

end ThreeAddress
