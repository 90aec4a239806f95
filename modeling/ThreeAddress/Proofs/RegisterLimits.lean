import ThreeAddress.Proofs.Correctness
import ThreeAddress.Proofs.Truncation

/-!
# The compiler and the machine run out of registers together

The compiler checks how many registers are in use, and the machine checks the number of each
register that it reads or writes.  Neither knows of the other.  On the code of a source, both checks
fail with the same numbers of registers and at the same instruction.
-/

namespace ThreeAddress

/-! ## Stack code on a machine -/

namespace StackCode

variable {V : Type} [Arithmetic V] {before : Nat} {code : StackCode} {machine : Machine V}

/-- A machine with fewer registers fails where a pool of its size is exhausted, at the load of the
first register that it lacks. -/
theorem execAll_of_not_fits (disciplined : Disciplined before code)
    (live : before ≤ machine.registers.size) (short : ¬ peak before code ≤ machine.registers.size) :
    ∃ literal behind after,
      instrs before code =
        instrs before (within machine.registers.size before code) ++
          .load ⟨machine.registers.size⟩ literal :: behind ∧
      (∀ instr ∈ instrs before (within machine.registers.size before code),
        instr.FitsIn machine.registers.size) ∧
      Machine.execAll (instrs before code) machine =
        .error (.registerOutOfRange ⟨machine.registers.size⟩
          (Instr.load ⟨machine.registers.size⟩ literal).text) after := by
  obtain ⟨literal, behind, split, fitting⟩ := exists_load_of_not_fits disciplined live short
  obtain ⟨after, done, size_eq⟩ := Machine.execAll_of_fitsIn fitting
  refine ⟨literal, behind, after, split, fitting, ?_⟩
  rw [split, Machine.execAll_append done, Machine.execAll_cons]
  simp [Machine.exec, Machine.set, size_eq]

end StackCode

/-- Code that is planned to a good end can be written down. -/
theorem Plan.recordable_ofSource {source : String} (ends : (ofSource source).result = .ok ()) :
    ∀ instr ∈ (ofSource source).code.instrs 0, instr.Recordable := by
  obtain ⟨program, derives⟩ := (result_ofSource_eq_ok_iff source).mp ends
  rw [ofSource_eq derives, program.instrs_stackCode]
  exact program.recordable

/-! ## Compiling and running with the same limit -/

section Limits

variable (V : Type) [Arithmetic V] {source code : String} {options : Options}

/-- What compiles runs without an error. -/
theorem run_ok_of_compiled (compiled : (compile source options).result = .ok code) :
    ∃ value : V, (run code options).result = .ok value := by
  obtain ⟨valid, ends, fits, code_eq⟩ := compile_ok_iff.mp compiled
  obtain ⟨program, derives⟩ := (Plan.result_ofSource_eq_ok_iff source).mp ends
  rw [Plan.ofSource_eq derives] at fits code_eq
  rw [program.instrs_stackCode] at code_eq
  have positive := (Options.validate_eq_ok_iff.mp valid).1
  simp only [run, valid]
  exact ⟨_, evaluate_result program code_eq fits positive⟩

/-- Code of a source that does not fit fails at the load of the first register that is lacking. -/
theorem run_error_of_not_fits (ends : (Plan.ofSource source).result = .ok ())
    (code_eq : code.toList =
      ((Plan.ofSource source).code.instrs 0).flatMap fun instr => instr.line.toList)
    (valid : options.validate = .ok ())
    (short : ¬ (Plan.ofSource source).code.peak 0 ≤ options.registers) :
    ∃ before literal behind,
      Machine.records code =
        before ++ (Instr.load ⟨options.registers⟩ literal).text :: behind ∧
      (∀ line ∈ before, ∃ instr, Instr.decode line = .ok instr ∧
        instr.FitsIn options.registers) ∧
      (run code options : Outcome V).result =
        .error (.record (.registerOutOfRange ⟨options.registers⟩
          (Instr.load ⟨options.registers⟩ literal).text)) := by
  have recordable := Plan.recordable_ofSource ends
  have size_eq : (Machine.ofSize options.registers : Machine V).registers.size =
      options.registers :=
    Array.size_replicate
  obtain ⟨literal, behind, after, split, fitting, failed⟩ :=
    @StackCode.execAll_of_not_fits V _ 0 _ (.ofSize options.registers)
      (Plan.disciplined_ofSource source 0) (Nat.zero_le _) (size_eq.symm ▸ short)
  rw [size_eq] at split fitting failed
  refine ⟨(((Plan.ofSource source).code.within options.registers 0).instrs 0).map Instr.text,
    literal, behind.map Instr.text, ?_, ?_, ?_⟩
  · rw [Machine.records_eq recordable code_eq, split, List.map_append, List.map_cons]
  · rw [List.forall_mem_map]
    intro instr member
    have written : instr ∈ (Plan.ofSource source).code.instrs 0 := by
      rw [split]
      exact List.mem_append_left _ member
    exact ⟨instr, Instr.decode_text (recordable instr written), fitting instr member⟩
  · obtain ⟨events, ran⟩ := @Machine.run_of_execAll_error V _ code _
      (.fresh (.ofSize options.registers)) _ recordable code_eq _ failed
    simp only [run, valid, evaluate, ran]

end Limits

/-- Code that was compiled with all ten registers runs on fewer if and only if the source compiles
with as many, and then both ways give the same result.  Otherwise the compiler exhausts its pool,
and the machine fails at the first record that needs more, which loads the first register that is
lacking. -/
theorem compile_ok_iff_run_ok (V : Type) [Arithmetic V] {source code : String}
    (compiled : (compile source ⟨10⟩).result = .ok code) {options : Options}
    (positive : 1 ≤ options.registers) (atMost : options.registers ≤ 10) :
    ((∃ text, (compile source options).result = .ok text) ↔
      ∃ value : V, (run code options).result = .ok value) ∧
    ((∃ text, (compile source options).result = .ok text) →
      (compileAndRun source options : Outcome V).result = (run code options).result) ∧
    ((¬ ∃ text, (compile source options).result = .ok text) →
      (compile source options).result = .error (.pool (.exhausted options.registers)) ∧
      ∃ (before : List String) (literal : Literal) (behind : List String),
        Machine.records code =
          before ++ ("t" ++ toString options.registers ++ " = " ++ literal.text) :: behind ∧
        (∀ line ∈ before, ∃ instr, Instr.decode line = .ok instr ∧
          ∀ register ∈ instr.registers, register.index < options.registers) ∧
        (run code options : Outcome V).result =
          .error (.record (.registerOutOfRange ⟨options.registers⟩
            ("t" ++ toString options.registers ++ " = " ++ literal.text)))) := by
  have valid : options.validate = .ok () := Options.validate_eq_ok_iff.mpr ⟨positive, atMost⟩
  obtain ⟨-, ends, -, code_eq⟩ := compile_ok_iff.mp compiled
  by_cases fits : (Plan.ofSource source).code.peak 0 ≤ options.registers
  · have again : (compile source options).result = .ok code :=
      compile_ok_iff.mpr ⟨valid, ends, fits, code_eq⟩
    refine ⟨?_, ?_, ?_⟩
    · exact ⟨fun _ => run_ok_of_compiled V again, fun _ => ⟨code, again⟩⟩
    · intro _
      simp only [compileAndRun, Outcome.andThen, again]
    · intro failed
      exact absurd ⟨code, again⟩ failed
  · have exhausted : (compile source options).result =
        .error (.pool (.exhausted options.registers)) := by
      rw [compile_error_iff, (compileInto_limited Buffer.empty.unfailing valid).1, Plan.limited,
        if_neg fits]
    have failed := run_error_of_not_fits V ends code_eq valid fits
    refine ⟨?_, ?_, ?_⟩
    · obtain ⟨_, _, _, _, _, stopped⟩ := failed
      simp [exhausted, stopped]
    · rintro ⟨text, again⟩
      rw [exhausted] at again
      contradiction
    · intro _
      exact ⟨exhausted, failed⟩

theorem compile_ok_iff_run_ok_sample :
    ∃ code, (compile "7; 2 + 1.5*4;" ⟨10⟩).result = .ok code ∧
      (∃ value : Float, (run code ⟨3⟩).result = .ok value ∧
        (compileAndRun "7; 2 + 1.5*4;" ⟨3⟩).result = .ok value) ∧
      (compile "7; 2 + 1.5*4;" ⟨2⟩).result = .error (.pool (.exhausted 2)) ∧
      ∃ literal : Literal, (run code ⟨2⟩ : Outcome Float).result =
        .error (.record (.registerOutOfRange ⟨2⟩ ("t2 = " ++ literal.text))) := by
  have planned := Plan.ofSource_eq Grammar.derives_sample
  have compiled := @compile_result_of_fits "7; 2 + 1.5*4;" ⟨10⟩ rfl (by rw [planned])
    (by rw [planned]; decide)
  have wide := @compile_result_of_fits "7; 2 + 1.5*4;" ⟨3⟩ rfl (by rw [planned])
    (by rw [planned]; decide)
  have narrow : ¬ ∃ text, (compile "7; 2 + 1.5*4;" ⟨2⟩).result = .ok text := by
    rintro ⟨text, fitting⟩
    obtain ⟨-, -, fits, -⟩ := compile_ok_iff.mp fitting
    rw [planned] at fits
    exact absurd fits (by decide)
  obtain ⟨ok_iff, same, -⟩ :=
    @compile_ok_iff_run_ok Float _ _ _ compiled ⟨3⟩ (by decide) (by decide)
  obtain ⟨value, ran⟩ := ok_iff.mp ⟨_, wide⟩
  obtain ⟨-, -, cut⟩ := @compile_ok_iff_run_ok Float _ _ _ compiled ⟨2⟩ (by decide) (by decide)
  obtain ⟨exhausted, _, literal, _, _, _, failed⟩ := cut narrow
  exact ⟨_, compiled, ⟨value, ran, (same ⟨_, wide⟩).trans ran⟩, exhausted, literal, failed⟩

end ThreeAddress
