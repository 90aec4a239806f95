import ThreeAddress.Proofs.Compilation

/-!
# Pools that are too small

On a sink that refuses nothing, disciplined stack code fails only for lack of room: at the first
operation that asks for more than the capacity, after everything before it has been performed.  So
a pool of limited capacity turns a plan into a shorter plan, which is always executed to its end.
-/

namespace ThreeAddress

namespace StackCode

variable {capacity before : Nat}

/-- The operations in front of the first one that asks for more than the capacity. -/
def within (capacity before : Nat) : StackCode → StackCode
  | [] => []
  | op :: code =>
      if op.reach before ≤ capacity then op :: within capacity (op.depth before) code else []

theorem within_cons {op : StackOp} {code : StackCode} (room : op.reach before ≤ capacity) :
    within capacity before (op :: code) = op :: within capacity (op.depth before) code := by
  simp [within, room]

/-- Code that fits goes on with what fits behind it. -/
theorem within_append {first : StackCode} (second : StackCode)
    (fits : peak before first ≤ capacity) :
    within capacity before (first ++ second) =
      first ++ within capacity (depth before first) second := by
  induction first generalizing before with
  | nil => rfl
  | cons op first ih =>
      obtain ⟨room, rest⟩ := Nat.max_le.mp fits
      rw [List.cons_append, within_cons room, ih rest]
      rfl

theorem within_of_fits {code : StackCode} (fits : peak before code ≤ capacity) :
    within capacity before code = code := by
  have whole := within_append [] fits
  rw [List.append_nil] at whole
  rw [whole, within, List.append_nil]

end StackCode

/-- The plan as far as a pool of the given capacity has room for it. -/
def Plan.limited (capacity before : Nat) (plan : Plan) : Plan where
  code := plan.code.within capacity before
  result :=
    if plan.code.peak before ≤ capacity then plan.result
    else .error (.pool (.exhausted capacity))

namespace Plan

variable {capacity before : Nat}

theorem limited_of_fits {plan : Plan} (fits : plan.code.peak before ≤ capacity) :
    plan.limited capacity before = plan := by
  simp [limited, StackCode.within_of_fits fits, fits]

/-- Behind code that fits, the limit only concerns what follows. -/
theorem limited_precededBy (plan : Plan) {code : StackCode} (fits : code.peak before ≤ capacity) :
    (plan.precededBy code).limited capacity before =
      (plan.limited capacity (code.depth before)).precededBy code := by
  have fits_iff : (code ++ plan.code).peak before ≤ capacity ↔
      plan.code.peak (code.depth before) ≤ capacity := by
    rw [StackCode.peak_append, Nat.max_le, and_iff_right fits]
  simp only [limited, precededBy, StackCode.within_append _ fits, fits_iff]

end Plan

namespace Workbench

variable {σ : Type} [Sink σ]

theorem perform_exhausted (bench : Workbench σ) {op : StackOp}
    (short : ¬ op.reach bench.pool.inUse ≤ bench.pool.capacity) :
    perform op bench = .error (.pool (.exhausted bench.pool.capacity)) bench := by
  cases op with
  | push literal => simp only [perform, push, bind, EStateM.bind, acquire_full short]
  | fold operator => exact absurd (Nat.zero_le _) short
  | drop => exact absurd (Nat.zero_le _) short

theorem performAll_exhausted (bench : Workbench σ) (unfailing : Sink.Unfailing bench.sink)
    (code : StackCode) (disciplined : code.Disciplined bench.pool.inUse)
    (short : ¬ code.peak bench.pool.inUse ≤ bench.pool.capacity) :
    performAll code bench =
      .error (.pool (.exhausted bench.pool.capacity))
        (bench.after (code.within bench.pool.capacity bench.pool.inUse)) := by
  induction code generalizing bench with
  | nil => exact absurd (Nat.zero_le _) short
  | cons op code ih =>
      simp only [performAll, bind, EStateM.bind]
      by_cases room : op.reach bench.pool.inUse ≤ bench.pool.capacity
      · have rest :
            ¬ StackCode.peak (op.depth bench.pool.inUse) code ≤ bench.pool.capacity := by
          intro fits
          exact short (Nat.max_le.mpr ⟨room, fits⟩)
        have inUse_eq : (bench.after [op]).pool.inUse = op.depth bench.pool.inUse :=
          op.onPool_inUse bench.pool
        have capacity_eq : (bench.after [op]).pool.capacity = bench.pool.capacity :=
          op.onPool_capacity bench.pool
        have exhausted := ih (bench.after [op]) (unfailing.foldl_receive _)
        rw [inUse_eq, capacity_eq] at exhausted
        rw [perform_eq bench unfailing op disciplined.1 room, StackCode.within_cons room,
          after_cons bench op (StackCode.within _ _ code)]
        exact exhausted disciplined.2 rest
      · rw [perform_exhausted bench room]
        simp [StackCode.within, room, after, StackCode.onPool, StackCode.instrs, StackCode.events]

/-- A pool of limited capacity executes the limited plan, to its end. -/
theorem execute_limited (bench : Workbench σ) (unfailing : Sink.Unfailing bench.sink) (plan : Plan)
    (disciplined : plan.code.Disciplined bench.pool.inUse) :
    execute plan bench =
      conclude (plan.limited bench.pool.capacity bench.pool.inUse).result
        (bench.after (plan.limited bench.pool.capacity bench.pool.inUse).code) := by
  by_cases fits : plan.code.peak bench.pool.inUse ≤ bench.pool.capacity
  · rw [execute_eq bench unfailing plan disciplined fits, Plan.limited_of_fits fits]
  · simp only [execute, bind, EStateM.bind,
      performAll_exhausted bench unfailing plan.code disciplined fits, Plan.limited, fits, if_false]
    rfl

end Workbench

/-- Into a sink that refuses nothing, a compilation puts the instructions of the limited plan and
ends as that plan does. -/
theorem compileInto_limited {σ : Type} [Sink σ] {sink : σ} (unfailing : Sink.Unfailing sink)
    {source : String} {options : Options} (valid : options.validate = .ok ()) :
    (compileInto source options sink).1.result =
        ((Plan.ofSource source).limited options.registers 0).result ∧
      (compileInto source options sink).2 =
        (((Plan.ofSource source).limited options.registers 0).code.instrs 0).foldl
          Sink.receive sink := by
  rw [compileInto_eq sink valid,
    Workbench.execute_limited _ unfailing _ (Plan.disciplined_ofSource source _)]
  simp only [Pool.ofCapacity]
  cases ((Plan.ofSource source).limited options.registers 0).result with
  | ok value => exact ⟨rfl, rfl⟩
  | error cause => exact ⟨rfl, rfl⟩

/-- A compilation lists the instructions of the limited plan, also if it fails. -/
theorem compileInto_listing {source : String} {options : Options}
    (valid : options.validate = .ok ()) :
    (compileInto source options Listing.empty).2.instrs.toList =
      ((Plan.ofSource source).limited options.registers 0).code.instrs 0 := by
  rw [(compileInto_limited Listing.empty.unfailing valid).2, Listing.foldl_receive]
  rfl

end ThreeAddress
