import ThreeAddress.Proofs.Exhaustion
import ThreeAddress.Proofs.Footprint
import ThreeAddress.Proofs.Translation

/-!
# Fewer registers cut a compilation short

Compilations of one source with different numbers of registers go along with each other until the
smaller pool is exhausted.  What they emit until then does not depend on the pool, and the next
instruction of the larger one loads the first register that the smaller one lacks.  The source may
have errors: whichever of them and the lack of registers comes first is reported.
-/

namespace ThreeAddress

namespace StackCode

variable {capacity before : Nat} {code : StackCode}

theorem peak_within_le (capacity before : Nat) (code : StackCode) :
    peak before (within capacity before code) ≤ capacity := by
  induction code generalizing before with
  | nil => exact Nat.zero_le _
  | cons op code ih =>
      by_cases room : op.reach before ≤ capacity
      · rw [within_cons room]
        exact Nat.max_le.mpr ⟨room, ih _⟩
      · simp [within, room, peak]

theorem Disciplined.within (disciplined : Disciplined before code) (capacity : Nat) :
    Disciplined before (StackCode.within capacity before code) := by
  induction code generalizing before with
  | nil => trivial
  | cons op code ih =>
      by_cases room : op.reach before ≤ capacity
      · rw [within_cons room]
        exact ⟨disciplined.1, ih disciplined.2⟩
      · simp [StackCode.within, room, Disciplined]

/-- Of two limits the smaller one counts. -/
theorem within_within {small large : Nat} (le : small ≤ large) (before : Nat) (code : StackCode) :
    within small before (within large before code) = within small before code := by
  induction code generalizing before with
  | nil => rfl
  | cons op code ih =>
      by_cases room : op.reach before ≤ small
      · rw [within_cons (Nat.le_trans room le), within_cons room, within_cons room, ih]
      · have cut : within small before (op :: code) = [] := by simp [within, room]
        rw [cut]
        by_cases wide : op.reach before ≤ large
        · rw [within_cons wide]
          simp [within, room]
        · simp [within, wide]

/-- Code that does not fit goes on with a push onto the full stack. -/
theorem exists_push_of_not_fits (live : before ≤ capacity) (short : ¬ peak before code ≤ capacity) :
    ∃ literal rest, code = within capacity before code ++ .push literal :: rest ∧
      depth before (within capacity before code) = capacity := by
  induction code generalizing before with
  | nil => exact absurd (Nat.zero_le _) short
  | cons op code ih =>
      by_cases room : op.reach before ≤ capacity
      · have deeper := op.depth_le before
        obtain ⟨literal, rest, split, full⟩ :=
          @ih (op.depth before) (by omega) (fun fits => short (Nat.max_le.mpr ⟨room, fits⟩))
        rw [within_cons room]
        refine ⟨literal, rest, ?_, full⟩
        rw [List.cons_append, ← split]
      · have cut : within capacity before (op :: code) = [] := by simp [within, room]
        rw [cut]
        -- Only a push asks for room, and it asks for one register more than the stack has.
        cases op with
        | push literal =>
            have full : before = capacity :=
              Nat.le_antisymm live (Nat.le_of_lt_succ (Nat.lt_of_not_le room))
            exact ⟨literal, code, rfl, full⟩
        | fold operator => exact absurd (Nat.zero_le _) room
        | drop => exact absurd (Nat.zero_le _) room

/-- Code that does not fit has instructions that do, and then loads the first register beyond the
capacity. -/
theorem exists_load_of_not_fits (disciplined : Disciplined before code) (live : before ≤ capacity)
    (short : ¬ peak before code ≤ capacity) :
    ∃ literal behind, instrs before code =
        instrs before (within capacity before code) ++ .load ⟨capacity⟩ literal :: behind ∧
      ∀ instr ∈ instrs before (within capacity before code), instr.FitsIn capacity := by
  obtain ⟨literal, rest, split, full⟩ := exists_push_of_not_fits live short
  refine ⟨literal, instrs (capacity + 1) rest, ?_, ?_⟩
  · calc instrs before code
      _ = instrs before (within capacity before code ++ .push literal :: rest) := by rw [← split]
      _ = instrs before (within capacity before code) ++
            instrs capacity (.push literal :: rest) := by rw [instrs_append, full]
      _ = _ := rfl
  · exact (fitsIn_iff (disciplined.within capacity) live).mpr (peak_within_le capacity before code)

end StackCode

/-! ## Plans that are cut short -/

namespace Plan

/-- A plan that a larger pool cuts short is cut short by a smaller one where the whole plan is. -/
theorem limited_limited {small large before : Nat} (live : before ≤ small) (le : small ≤ large)
    (plan : Plan) :
    (plan.limited large before).limited small before = plan.limited small before := by
  by_cases fits : plan.code.peak before ≤ large
  · rw [limited_of_fits fits]
  · have short : ¬ plan.code.peak before ≤ small := fun enough => fits (Nat.le_trans enough le)
    obtain ⟨-, -, -, full⟩ :=
      StackCode.exists_push_of_not_fits (Nat.le_trans live le) fits
    have reached := StackCode.depth_le before (plan.code.within large before)
    -- What the larger pool performs fills it, so it fits into the smaller one only if that is as
    -- large.
    have same : (plan.code.within large before).peak before ≤ small → large = small := by omega
    simp only [limited, StackCode.within_within le, fits, short, if_false]
    by_cases enough : (plan.code.within large before).peak before ≤ small
    · simp [same enough]
    · simp [enough]

variable {capacity : Nat} {plan : Plan}

/-- A plan is not cut short if its instructions name only registers of the pool. -/
theorem limited_of_fitsIn (disciplined : plan.code.Disciplined 0)
    (fits : ∀ instr ∈ plan.code.instrs 0, instr.FitsIn capacity) :
    plan.limited capacity 0 = plan :=
  limited_of_fits ((StackCode.fitsIn_iff disciplined (Nat.zero_le capacity)).mp fits)

/-- A plan whose instructions name other registers is cut short at a load of the first of these. -/
theorem exists_load_of_limited (disciplined : plan.code.Disciplined 0)
    (short : ¬ ∀ instr ∈ plan.code.instrs 0, instr.FitsIn capacity) :
    ∃ literal behind, plan.code.instrs 0 =
        (plan.limited capacity 0).code.instrs 0 ++ .load ⟨capacity⟩ literal :: behind ∧
      (∀ instr ∈ (plan.limited capacity 0).code.instrs 0, instr.FitsIn capacity) ∧
      (plan.limited capacity 0).result = .error (.pool (.exhausted capacity)) := by
  rw [StackCode.fitsIn_iff disciplined (Nat.zero_le capacity)] at short
  obtain ⟨literal, behind, split, fitting⟩ :=
    StackCode.exists_load_of_not_fits disciplined (Nat.zero_le capacity) short
  exact ⟨literal, behind, split, fitting, if_neg short⟩

end Plan

/-- With fewer registers a compilation emits the same and ends in the same way if the instructions
with more name only registers that are there.  Otherwise the first of them that does not is a load
of the first register that is lacking, and there the pool is exhausted. -/
theorem compileInto_fewer_registers (source : String) {fewer more : Options}
    (positive : 1 ≤ fewer.registers) (le : fewer.registers ≤ more.registers)
    (atMost : more.registers ≤ 10) :
    let wide := compileInto source more Listing.empty
    let narrow := compileInto source fewer Listing.empty
    ((∀ instr ∈ wide.2.instrs.toList, ∀ register ∈ instr.registers,
        register.index < fewer.registers) →
      narrow.2 = wide.2 ∧ narrow.1.result = wide.1.result) ∧
    ((∃ instr ∈ wide.2.instrs.toList, ∃ register ∈ instr.registers,
        fewer.registers ≤ register.index) →
      ∃ before literal behind,
        wide.2.instrs.toList = before ++ .load ⟨fewer.registers⟩ literal :: behind ∧
        (∀ instr ∈ before, ∀ register ∈ instr.registers, register.index < fewer.registers) ∧
        narrow.2.instrs.toList = before ∧
        narrow.1.result = .error (.pool (.exhausted fewer.registers))) := by
  intro wide narrow
  have moreValid : more.validate = .ok () :=
    Options.validate_eq_ok_iff.mpr ⟨Nat.le_trans positive le, atMost⟩
  have fewerValid : fewer.validate = .ok () :=
    Options.validate_eq_ok_iff.mpr ⟨positive, Nat.le_trans le atMost⟩
  -- Both compilations are compared with the plan that the larger one executes.
  generalize plan_eq : (Plan.ofSource source).limited more.registers 0 = plan
  have cut_eq : (Plan.ofSource source).limited fewer.registers 0 =
      plan.limited fewer.registers 0 := by
    rw [← plan_eq, Plan.limited_limited (Nat.zero_le _) le]
  have disciplined : plan.code.Disciplined 0 := by
    rw [← plan_eq]
    exact (Plan.disciplined_ofSource source 0).within more.registers
  obtain ⟨wideResult, wideSink⟩ :=
    @compileInto_limited Listing _ Listing.empty Listing.empty.unfailing source more moreValid
  obtain ⟨narrowResult, narrowSink⟩ :=
    @compileInto_limited Listing _ Listing.empty Listing.empty.unfailing source fewer fewerValid
  have wideListing := @compileInto_listing source more moreValid
  have narrowListing := @compileInto_listing source fewer fewerValid
  rw [plan_eq] at wideResult wideSink wideListing
  rw [cut_eq] at narrowResult narrowSink narrowListing
  constructor
  · intro allFit
    rw [wideListing] at allFit
    rw [Plan.limited_of_fitsIn disciplined allFit] at narrowResult narrowSink
    exact ⟨narrowSink.trans wideSink.symm, narrowResult.trans wideResult.symm⟩
  · rintro ⟨instr, member, register, named, beyond⟩
    rw [wideListing] at member
    have short : ¬ ∀ instr ∈ plan.code.instrs 0, instr.FitsIn fewer.registers := by
      intro allFit
      exact absurd (allFit instr member register named) (Nat.not_lt.mpr beyond)
    obtain ⟨literal, behind, split, fitting, exhausted⟩ :=
      Plan.exists_load_of_limited disciplined short
    exact ⟨_, literal, behind, wideListing.trans split, fitting, narrowListing,
      narrowResult.trans exhausted⟩

theorem compileInto_fewer_registers_sample :
    1 ≤ 2 ∧ 2 ≤ 3 ∧ 3 ≤ 10 ∧
      (compileInto "7; 2 + 1.5*4;" ⟨3⟩ Listing.empty).2.instrs.toList.map Instr.text =
        ["t0 = 7", "t0 = 2", "t1 = 1.5", "t2 = 4", "t1 = t1 * t2", "t0 = t0 + t1"] ∧
      ∃ before literal behind,
        (compileInto "7; 2 + 1.5*4;" ⟨3⟩ Listing.empty).2.instrs.toList =
          before ++ .load ⟨2⟩ literal :: behind ∧
        (compileInto "7; 2 + 1.5*4;" ⟨2⟩ Listing.empty).2.instrs.toList = before ∧
        (compileInto "7; 2 + 1.5*4;" ⟨2⟩ Listing.empty).1.result =
          .error (.pool (.exhausted 2)) := by
  have listed : (compileInto "7; 2 + 1.5*4;" ⟨3⟩ Listing.empty).2.instrs.toList =
      Grammar.sample.stackCode.instrs 0 := by
    rw [compileInto_listing rfl, Plan.ofSource_eq Grammar.derives_sample,
      Plan.limited_of_fits (by decide)]
  obtain ⟨-, cut⟩ := @compileInto_fewer_registers "7; 2 + 1.5*4;" ⟨2⟩ ⟨3⟩ (by decide) (by decide)
    (by decide)
  rw [listed] at cut ⊢
  obtain ⟨before, literal, behind, split, -, narrowListing, exhausted⟩ := cut (by decide)
  exact ⟨by decide, by decide, by decide, by decide +kernel, before, literal, behind, split,
    narrowListing, exhausted⟩

end ThreeAddress
