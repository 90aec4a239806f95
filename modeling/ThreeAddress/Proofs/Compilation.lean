import ThreeAddress.Program
import ThreeAddress.Proofs.Simulation

/-!
# Compilation executes the plan of a source

The plan of a source is that of a lexer at its start.  This module carries the simulation over to
whole compilations: with a sink that refuses nothing, a compilation succeeds if and only if the
plan ends well and stays within the pool, and the sink then holds the instructions of the plan.
-/

namespace ThreeAddress

/-- The plan of code generation for a source. -/
def Plan.ofSource (source : String) : Plan :=
  .ofScans .boundary (Lexer.ofString source).upcoming

/-! ## Sinks that refuse nothing -/

theorem Buffer.unfailing (buffer : Buffer) : Sink.Unfailing buffer := by
  intro received instr
  exact ⟨_, rfl⟩

theorem Listing.unfailing (listing : Listing) : Sink.Unfailing listing := by
  intro received instr
  exact ⟨_, rfl⟩

/-- A buffer holds the lines of the instructions that it received. -/
theorem Buffer.foldl_receive (instrs : List Instr) (buffer : Buffer) :
    (instrs.foldl Sink.receive buffer).text.toList =
      buffer.text.toList ++ instrs.flatMap fun instr => instr.line.toList := by
  induction instrs generalizing buffer with
  | nil => simp
  | cons instr instrs ih =>
      rw [List.foldl_cons, ih, List.flatMap_cons, ← List.append_assoc]
      simp [Sink.receive, Sink.emit]

/-- A listing holds the instructions that it received. -/
theorem Listing.foldl_receive (instrs : List Instr) (listing : Listing) :
    (instrs.foldl Sink.receive listing).instrs.toList = listing.instrs.toList ++ instrs := by
  induction instrs generalizing listing with
  | nil => simp
  | cons instr instrs ih =>
      rw [List.foldl_cons, ih]
      simp [Sink.receive, Sink.emit]

/-! ## Executing a plan -/

namespace Workbench

variable {σ : Type} [Sink σ]

theorem execute_eq (bench : Workbench σ) (unfailing : Sink.Unfailing bench.sink) (plan : Plan)
    (disciplined : plan.code.Disciplined bench.pool.inUse)
    (fits : plan.code.peak bench.pool.inUse ≤ bench.pool.capacity) :
    execute plan bench = conclude plan.result (bench.after plan.code) := by
  simp only [execute, bind, EStateM.bind, performAll_eq bench unfailing plan.code disciplined fits]

theorem of_execute_ok {bench done : Workbench σ} {plan : Plan}
    (executed : execute plan bench = .ok () done) :
    plan.result = .ok () ∧ plan.code.peak bench.pool.inUse ≤ bench.pool.capacity := by
  simp only [execute, bind, EStateM.bind] at executed
  cases performed : performAll plan.code bench with
  | error cause between => simp [performed] at executed
  | ok value between =>
      simp only [performed, conclude] at executed
      refine ⟨?_, (pool_of_performAll performed).2⟩
      cases result_eq : plan.result with
      | ok value => rfl
      | error cause => simp [result_eq] at executed

end Workbench

/-! ## Whole compilations -/

section Compilation

variable {σ : Type} [Sink σ] {source : String} {options : Options} {pool : Pool} {sink : σ}

/-- From any pool, the plan of a source never lacks an operand. -/
theorem Plan.disciplined_ofSource (source : String) (base : Nat) :
    (Plan.ofSource source).code.Disciplined base :=
  (Plan.ofScans_spec base .boundary _).1

/-- At most three registers are live at once. -/
theorem Plan.peak_ofSource_le (source : String) (base : Nat) :
    (Plan.ofSource source).code.peak base ≤ base + 3 :=
  (Plan.ofScans_spec base .boundary _).2

theorem Generator.forget_statements_start (source : String) (pool : Pool) (sink : σ) :
    forget (statements (start source pool sink)) =
      Workbench.execute (Plan.ofSource source) ⟨pool, sink, #[]⟩ :=
  forget_statements (start source pool sink)

/-- On a sink that refuses nothing, a generator succeeds if and only if the plan ends well and
stays within the pool. -/
theorem Generator.statements_ok_iff (unfailing : Sink.Unfailing sink) :
    (∃ after, statements (start source pool sink) = .ok () after) ↔
      (Plan.ofSource source).result = .ok () ∧
        (Plan.ofSource source).code.peak pool.inUse ≤ pool.capacity := by
  have executed := forget_statements_start source pool sink
  constructor
  · rintro ⟨after, done⟩
    rw [done] at executed
    exact Workbench.of_execute_ok executed.symm
  · rintro ⟨ends, fits⟩
    rw [Workbench.execute_eq _ unfailing _ (Plan.disciplined_ofSource source _) fits, ends]
      at executed
    cases done : statements (start source pool sink) with
    | ok value after => exact ⟨after, rfl⟩
    | error cause after =>
        rw [done] at executed
        contradiction

/-- What a successful generator leaves behind. -/
theorem Generator.of_statements_ok (unfailing : Sink.Unfailing sink) {after : Generator σ}
    (done : statements (start source pool sink) = .ok () after) :
    after.pool = (Plan.ofSource source).code.onPool pool ∧
      after.sink = ((Plan.ofSource source).code.instrs pool.inUse).foldl Sink.receive sink := by
  obtain ⟨ends, fits⟩ := (statements_ok_iff unfailing).mp ⟨after, done⟩
  have executed := forget_statements_start source pool sink
  rw [Workbench.execute_eq _ unfailing _ (Plan.disciplined_ofSource source _) fits, ends, done]
    at executed
  simp only [forget, bench, Workbench.conclude, EStateM.Result.ok.injEq, true_and,
    Workbench.mk.injEq] at executed
  exact ⟨executed.1, executed.2.1⟩

theorem Options.validate_eq_ok_iff :
    options.validate = .ok () ↔ 1 ≤ options.registers ∧ options.registers ≤ 10 := by
  unfold validate Register.maxCount
  by_cases valid : 1 ≤ options.registers ∧ options.registers ≤ 10
  · rw [if_pos valid, iff_true_right valid]
  · simp [valid]

/-- Three registers are enough for every source. -/
theorem Options.suffice (source : String) (atLeast : 3 ≤ options.registers)
    (atMost : options.registers ≤ 10) :
    options.validate = .ok () ∧ (Plan.ofSource source).code.peak 0 ≤ options.registers := by
  constructor
  · exact Options.validate_eq_ok_iff.mpr ⟨Nat.le_trans (by decide) atLeast, atMost⟩
  · exact Nat.le_trans (Plan.peak_ofSource_le source 0) atLeast

/-- A compilation executes the plan of its source on a fresh pool. -/
theorem compileInto_eq (sink : σ) (valid : options.validate = .ok ()) :
    compileInto source options sink =
      match Workbench.execute (Plan.ofSource source)
          ⟨.ofCapacity options.registers, sink, #[]⟩ with
      | .ok _ bench => (⟨.ok (), bench.events⟩, bench.sink)
      | .error cause bench => (⟨.error cause, bench.events⟩, bench.sink) := by
  rw [← Generator.forget_statements_start]
  simp only [compileInto, valid]
  cases Generator.statements (.start source (.ofCapacity options.registers) sink) with
  | ok value after => rfl
  | error cause after => rfl

/-- With enough registers, a compilation ends as planned. -/
theorem compileInto_result (unfailing : Sink.Unfailing sink)
    (atLeast : 3 ≤ options.registers) (atMost : options.registers ≤ 10) :
    (compileInto source options sink).1.result = (Plan.ofSource source).result := by
  obtain ⟨valid, fits⟩ := Options.suffice source atLeast atMost
  rw [compileInto_eq sink valid,
    Workbench.execute_eq _ unfailing _ (Plan.disciplined_ofSource source _) fits]
  cases (Plan.ofSource source).result with
  | ok value => rfl
  | error cause => rfl

theorem compile_result_of_fits (valid : options.validate = .ok ())
    (ends : (Plan.ofSource source).result = .ok ())
    (fits : (Plan.ofSource source).code.peak 0 ≤ options.registers) :
    (compile source options).result =
      .ok (String.ofList
        (((Plan.ofSource source).code.instrs 0).flatMap fun instr => instr.line.toList)) := by
  have disciplined := Plan.disciplined_ofSource source 0
  simp only [compile, compileInto_eq Buffer.empty valid]
  rw [Workbench.execute_eq _ Buffer.empty.unfailing _ disciplined fits, ends]
  apply congrArg Except.ok
  apply String.toList_inj.mp
  rw [String.toList_ofList]
  exact Buffer.foldl_receive ((Plan.ofSource source).code.instrs 0) Buffer.empty

/-- A compilation to text succeeds with the lines of the plan's instructions. -/
theorem compile_ok_iff {text : String} :
    (compile source options).result = .ok text ↔
      options.validate = .ok () ∧ (Plan.ofSource source).result = .ok () ∧
        (Plan.ofSource source).code.peak 0 ≤ options.registers ∧
        text.toList =
          ((Plan.ofSource source).code.instrs 0).flatMap fun instr => instr.line.toList := by
  constructor
  · intro compiled
    cases valid : options.validate with
    | error cause =>
        simp [compile, compileInto, valid, Outcome.refused, Outcome.andThen] at compiled
    | ok value =>
        obtain ⟨ends, fits⟩ : (Plan.ofSource source).result = .ok () ∧
            (Plan.ofSource source).code.peak 0 ≤ options.registers := by
          simp only [compile, compileInto_eq Buffer.empty valid] at compiled
          cases executed : Workbench.execute (Plan.ofSource source)
              ⟨.ofCapacity options.registers, Buffer.empty, #[]⟩ with
          | error cause bench =>
              rw [executed] at compiled
              contradiction
          | ok value bench => exact Workbench.of_execute_ok executed
        rw [compile_result_of_fits valid ends fits] at compiled
        refine ⟨rfl, ends, fits, ?_⟩
        rw [← Except.ok.inj compiled, String.toList_ofList]
  · rintro ⟨valid, ends, fits, text_eq⟩
    rw [compile_result_of_fits valid ends fits, ← text_eq, String.ofList_toList]

/-- A compilation to text fails as a compilation into a buffer does. -/
theorem compile_error_iff {cause : Error} :
    (compile source options).result = .error cause ↔
      (compileInto source options Buffer.empty).1.result = .error cause := by
  simp only [compile, Outcome.andThen]
  cases (compileInto source options Buffer.empty).1.result with
  | ok value => simp
  | error other => simp

end Compilation

end ThreeAddress
