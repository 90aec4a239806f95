import ThreeAddress.Proofs.Exhaustion
import ThreeAddress.Proofs.StackDiscipline
import ThreeAddress.Proofs.Translation

/-!
# How many registers a program needs

The demand of a statement is read off its tree: one register for a number, three as soon as a factor
behind the first is a product, and two otherwise.  The length of the statement does not matter.
The main statement says that this demand is exact, that is, it is enough, nothing less is, and the
statistics of the pool show it.
-/

namespace ThreeAddress

/-! ## Statistics -/

namespace StackOp

/-- How many registers the operation takes. -/
def taken : StackOp → Nat
  | push _ => 1
  | fold _ => 0
  | drop => 0

/-- How many registers the operation gives back. -/
def returned : StackOp → Nat
  | push _ => 0
  | fold _ => 1
  | drop => 1

theorem onPool_stats (pool : Pool) (op : StackOp) :
    (op.onPool pool).stats =
      ⟨pool.stats.acquired + op.taken, pool.stats.released + op.returned,
        max pool.stats.peak (op.reach pool.inUse)⟩ := by
  cases op with
  | push literal => rfl
  | fold operator => simp [onPool, Pool.shrunk, taken, returned, reach]
  | drop => simp [onPool, Pool.shrunk, taken, returned, reach]

theorem depth_add_returned {before : Nat} {op : StackOp} (allowed : op.Allowed before) :
    op.depth before + op.returned = before + op.taken := by
  cases op with
  | push literal => rfl
  | fold operator => exact Nat.sub_add_cancel (Nat.le_of_succ_le allowed)
  | drop => exact Nat.sub_add_cancel allowed

end StackOp

namespace StackCode

/-- How many registers the code takes. -/
def taken : StackCode → Nat
  | [] => 0
  | op :: code => op.taken + taken code

/-- How many registers the code gives back. -/
def returned : StackCode → Nat
  | [] => 0
  | op :: code => op.returned + returned code

@[simp] theorem taken_append (first second : StackCode) :
    taken (first ++ second) = taken first + taken second := by
  induction first with
  | nil => exact (Nat.zero_add _).symm
  | cons op first ih => rw [List.cons_append, taken, taken, ih, Nat.add_assoc]

theorem onPool_stats (pool : Pool) (code : StackCode) :
    (code.onPool pool).stats =
      ⟨pool.stats.acquired + code.taken, pool.stats.released + code.returned,
        max pool.stats.peak (code.peak pool.inUse)⟩ := by
  induction code generalizing pool with
  | nil => simp [onPool, taken, returned, peak]
  | cons op code ih =>
      rw [onPool, ih, StackOp.onPool_stats, StackOp.onPool_inUse]
      simp [taken, returned, peak, Nat.add_assoc, Nat.max_assoc]

/-- What was on the stack and what was taken is on the stack still or was given back. -/
theorem depth_add_returned {before : Nat} {code : StackCode}
    (disciplined : Disciplined before code) :
    depth before code + code.returned = before + code.taken := by
  induction code generalizing before with
  | nil => rfl
  | cons op code ih =>
      have first := StackOp.depth_add_returned disciplined.1
      have rest := ih disciplined.2
      simp only [depth, returned, taken]
      omega

end StackCode

/-! ## The demand of a program -/

/-- Whether the word is a number. -/
def Word.isNumber : Word → Bool
  | number _ => true
  | plus | times | semicolon => false

namespace Grammar

/-- Whether the factor has a multiplication sign. -/
def Factor.isProduct : Factor → Bool
  | number _ => false
  | times _ _ => true

/-- Whether some factor other than the first has a multiplication sign. -/
def Sum.hasLaterProduct : Sum → Bool
  | factor _ => false
  | plus left right => left.hasLaterProduct || right.isProduct

/-- The number of registers that a statement needs. -/
def Sum.need : Sum → Nat
  | factor (.number _) => 1
  | sum => if sum.hasLaterProduct then 3 else 2

/-- The largest need of a statement, and none if there is no statement. -/
def Program.need (program : Program) : Nat :=
  (program.map Sum.need).foldr max 0

/-- The number of literals. -/
def Program.literals (program : Program) : Nat :=
  program.words.countP Word.isNumber

theorem Factor.peak_stackCode (depth : Nat) (factor : Factor) :
    StackCode.peak depth factor.stackCode = depth + 1 + factor.isProduct.toNat := by
  induction factor with
  | number value => simp [stackCode, isProduct, StackCode.peak, StackOp.reach]
  | times left right ih =>
      have bounded := left.isProduct.toNat_le
      rw [stackCode, StackCode.peak_append, ih, left.depth_stackCode]
      change max _ (max (depth + 1 + 1) (max 0 0)) = depth + 1 + 1
      omega

/-- Behind a plus sign, a factor finds one register less. -/
theorem Sum.need_plus (left : Sum) (right : Factor) :
    (plus left right).need = max left.need (2 + right.isProduct.toNat) := by
  cases left with
  | factor value =>
      cases value with
      | number value => cases product : right.isProduct <;> simp [need, hasLaterProduct, product]
      | times value other =>
          cases product : right.isProduct <;> simp [need, hasLaterProduct, product]
  | plus before value =>
      cases product : right.isProduct <;> cases later : (plus before value).hasLaterProduct <;>
        simp [need, hasLaterProduct.eq_2 (plus before value), product, later]

theorem Sum.need_le (sum : Sum) : sum.need ≤ 3 := by
  unfold need
  split
  · decide
  · split <;> decide

theorem Sum.peak_stackCode (depth : Nat) (sum : Sum) :
    StackCode.peak depth sum.stackCode = depth + sum.need := by
  induction sum with
  | factor value =>
      rw [stackCode, value.peak_stackCode]
      cases value <;> simp [need, Factor.isProduct, hasLaterProduct]
  | plus left right ih =>
      simp only [stackCode, StackCode.peak_append, ih, left.depth_stackCode,
        right.peak_stackCode, StackCode.peak, StackOp.reach, need_plus]
      omega

/-- The demand of a program is the height to which its code raises the stack. -/
theorem Program.max_peak_stackCode (depth : Nat) (program : Program) :
    max depth (StackCode.peak depth program.stackCode) = depth + program.need := by
  induction program with
  | nil => simp [stackCode, StackCode.peak, need]
  | cons sum program ih =>
      have need_eq : Program.need (sum :: program) = max sum.need (Program.need program) := rfl
      rw [stackCode_cons, need_eq]
      simp only [StackCode.peak_append, sum.peak_stackCode, sum.depth_stackCode, StackCode.peak,
        StackOp.reach, StackCode.depth, StackOp.depth, Nat.add_sub_cancel]
      omega

theorem Program.need_le (program : Program) : program.need ≤ 3 := by
  induction program with
  | nil => decide
  | cons sum program ih => exact Nat.max_le.mpr ⟨sum.need_le, ih⟩

theorem Factor.taken_stackCode (factor : Factor) :
    factor.stackCode.taken = factor.words.countP Word.isNumber := by
  induction factor with
  | number value => rfl
  | times left right ih =>
      rw [stackCode, StackCode.taken_append, ih]
      simp [StackCode.taken, StackOp.taken, words, Word.isNumber]

theorem Sum.taken_stackCode (sum : Sum) :
    sum.stackCode.taken = sum.words.countP Word.isNumber := by
  induction sum with
  | factor value => exact value.taken_stackCode
  | plus left right ih =>
      rw [stackCode, StackCode.taken_append, StackCode.taken_append, ih, right.taken_stackCode]
      simp [StackCode.taken, StackOp.taken, words, Word.isNumber]

/-- Every literal takes a register. -/
theorem Program.taken_stackCode (program : Program) :
    StackCode.taken program.stackCode = program.literals := by
  induction program with
  | nil => rfl
  | cons sum program ih =>
      rw [stackCode_cons, StackCode.taken_append, StackCode.taken_append, ih, sum.taken_stackCode]
      simp [StackCode.taken, StackOp.taken, literals, words, Word.isNumber]

/-- Every register is given back. -/
theorem Program.returned_stackCode (program : Program) {depth : Nat}
    (disciplined : StackCode.Disciplined depth program.stackCode) :
    StackCode.returned program.stackCode = program.literals := by
  have balanced := StackCode.depth_add_returned disciplined
  rw [program.depth_stackCode, program.taken_stackCode] at balanced
  exact Nat.add_left_cancel balanced

end Grammar

/-! ## The demand is exact -/

/-- A fresh pool after some requests. -/
def Pool.requested (capacity : Nat) : Nat → Except PoolError Pool
  | 0 => .ok (.ofCapacity capacity)
  | count + 1 => do
      match acquire (← requested capacity count) with
      | .ok _ pool => .ok pool
      | .error cause _ => .error cause

theorem Pool.requested_eq {capacity count : Nat} (room : count ≤ capacity) :
    requested capacity count = .ok ⟨capacity, count, ⟨count, 0, count⟩⟩ := by
  induction count with
  | zero => rfl
  | succ count ih =>
      have acquired := @acquire_of_lt ⟨capacity, count, ⟨count, 0, count⟩⟩ room
      rw [requested, ih (Nat.le_of_succ_le room)]
      simp [bind, Except.bind, acquired, grown]

/-- Three registers are enough to compile any source to the end or to its first error. -/
theorem compile_ne_exhausted (source : String) {options : Options}
    (atLeast : 3 ≤ options.registers) (limit : Nat) :
    (compile source options).result ≠ .error (.pool (.exhausted limit)) := by
  intro exhausted
  rw [compile_error_iff] at exhausted
  cases valid : options.validate with
  | error cause => simp [compileInto, valid, Outcome.refused] at exhausted
  | ok value =>
      have atMost := (Options.validate_eq_ok_iff.mp valid).2
      rw [compileInto_result Buffer.empty.unfailing atLeast atMost] at exhausted
      have blameless := (Plan.ofScans_stop 0 .boundary
        (Lexer.ofString source).exists_isLast_upcoming).2
      rw [← Plan.ofSource, exhausted] at blameless
      exact blameless

/-- On a pool from which some registers were taken, a program compiles if and only if its need fits
into the rest.  The pool then shows that need as its peak, and one request and one return for each
literal.  Otherwise the pool is exhausted.  The need is never more than three. -/
theorem statements_register_demand {σ : Type} [Sink σ] {sink : σ}
    (unfailing : Sink.Unfailing sink) {source : String} {program : Grammar.Program}
    (derives : Grammar.Derives source.toList program) {capacity count : Nat}
    (room : count ≤ capacity) :
    ∃ pool : Pool, Pool.requested capacity count = .ok pool ∧
      ((∃ after, Generator.statements (.start source pool sink) = .ok () after) ↔
        count + program.need ≤ capacity) ∧
      (∀ after, Generator.statements (.start source pool sink) = .ok () after →
        after.pool.stats.peak = count + program.need ∧
        after.pool.stats.acquired = pool.stats.acquired + program.literals ∧
        after.pool.stats.released = pool.stats.released + program.literals) ∧
      (¬ count + program.need ≤ capacity →
        ∃ after, Generator.statements (.start source pool sink) =
          .error (.pool (.exhausted capacity)) after) ∧
      program.need ≤ 3 ∧
      ∀ (text : String) (options : Options) (limit : Nat), 3 ≤ options.registers →
        (compile text options).result ≠ .error (.pool (.exhausted limit)) := by
  have planned := Plan.ofSource_eq derives
  have disciplined := Plan.disciplined_ofSource source count
  have height := program.max_peak_stackCode count
  have fits_iff :
      StackCode.peak count program.stackCode ≤ capacity ↔ count + program.need ≤ capacity := by
    rw [← height, Nat.max_le]
    exact ⟨fun fits => ⟨room, fits⟩, fun both => both.2⟩
  refine ⟨⟨capacity, count, ⟨count, 0, count⟩⟩, Pool.requested_eq room, ?_, ?_, ?_,
    program.need_le, ?_⟩
  · rw [Generator.statements_ok_iff unfailing, planned, ← fits_iff]
    simp
  · intro after done
    obtain ⟨pool_eq, -⟩ := Generator.of_statements_ok unfailing done
    rw [planned] at pool_eq disciplined
    rw [pool_eq, StackCode.onPool_stats, program.taken_stackCode,
      program.returned_stackCode disciplined]
    exact ⟨height, rfl, rfl⟩
  · intro short
    have executed := Generator.forget_statements_start source
      ⟨capacity, count, ⟨count, 0, count⟩⟩ sink
    rw [Workbench.execute_limited _ unfailing _ disciplined, planned, Plan.limited,
      if_neg (fun fits => short (fits_iff.mp fits))] at executed
    cases outcome : Generator.statements
        (.start source ⟨capacity, count, ⟨count, 0, count⟩⟩ sink) with
    | ok value after =>
        rw [outcome] at executed
        contradiction
    | error cause after =>
        rw [outcome] at executed
        injection executed with cause_eq
        exact ⟨after, by rw [cause_eq]⟩
  · intro text options limit atLeast
    exact compile_ne_exhausted text atLeast limit

theorem statements_register_demand_sample :
    2 ≤ 4 ∧ Pool.requested 4 2 = .ok ⟨4, 2, ⟨2, 0, 2⟩⟩ ∧
      (∃ after, Generator.statements (.start "7; 2 + 1.5*4;" ⟨4, 2, ⟨2, 0, 2⟩⟩ Listing.empty) =
        .error (.pool (.exhausted 4)) after) ∧
      ∃ after, Generator.statements (.start "7; 2 + 1.5*4;" ⟨5, 2, ⟨2, 0, 2⟩⟩ Listing.empty) =
          .ok () after ∧ after.pool.stats = ⟨6, 4, 5⟩ := by
  obtain ⟨small, smallTaken, -, -, exhausted, -⟩ := statements_register_demand
    Listing.empty.unfailing Grammar.derives_sample (show 2 ≤ 4 by decide)
  obtain ⟨large, largeTaken, enough, counted, -⟩ := statements_register_demand
    Listing.empty.unfailing Grammar.derives_sample (show 2 ≤ 5 by decide)
  cases smallTaken
  cases largeTaken
  obtain ⟨after, done⟩ := enough.mpr (by decide)
  obtain ⟨peak_eq, acquired_eq, released_eq⟩ := counted after done
  refine ⟨by decide, rfl, exhausted (by decide), after, done, ?_⟩
  cases stats_eq : after.pool.stats with
  | mk acquired released peak =>
      rw [stats_eq] at peak_eq acquired_eq released_eq
      simp only at peak_eq acquired_eq released_eq
      rw [peak_eq, acquired_eq, released_eq]
      decide

end ThreeAddress
