import ThreeAddress.Proofs.StackCode

/-!
# The pool as a bounded stack

A pool keeps one number and four counters, and no record of the registers that it handed out.  To
its users it is nevertheless a stack of registers of limited height.  The stack is described here by
what it answers to each request, without the pool, and every sequence of requests to a pool is
answered as by such a stack, also behind requests that were refused.
-/

namespace ThreeAddress.Pool

/-- What a pool can be asked. -/
inductive Request where
  | acquire
  | release (register : Register)

/-- A register that was handed out, nothing if one was taken back, or a refusal. -/
abbrev Answer := Except PoolError (Option Register)

/-! ## Bounded stacks -/

/-- One request to a stack of registers, the newest first: the registers before it, the request, the
answer, and the registers after it. -/
inductive StackStep (capacity : Nat) : List Register → Request → Answer → List Register → Prop where
  | push {register : Register} {live : List Register} (room : live.length ≠ capacity)
      (fresh : register ∉ live) :
      StackStep capacity live .acquire (.ok (some register)) (register :: live)
  | full {live : List Register} (full : live.length = capacity) :
      StackStep capacity live .acquire (.error (.exhausted capacity)) live
  | pop {top : Register} {live : List Register} :
      StackStep capacity (top :: live) (.release top) (.ok none) live
  | empty {register : Register} :
      StackStep capacity [] (.release register) (.error (.underflow register)) []
  | buried {top register : Register} {live : List Register} (other : register ≠ top) :
      StackStep capacity (top :: live) (.release register) (.error (.outOfOrder top register))
        (top :: live)

/-- Requests one after the other, also behind refusals. -/
inductive StackRun (capacity : Nat) :
    List Register → List Request → List Answer → List Register → Prop where
  | nil (live : List Register) : StackRun capacity live [] [] live
  | cons {request : Request} {requests : List Request} {answer : Answer} {answers : List Answer}
      {before between after : List Register}
      (step : StackStep capacity before request answer between)
      (rest : StackRun capacity between requests answers after) :
      StackRun capacity before (request :: requests) (answer :: answers) after

/-! ## Requests to a pool -/

/-- Ask a pool. -/
def Request.ask : Request → EStateM PoolError (Logged Pool) (Option Register)
  | acquire => do return some (← Logged.acquire)
  | release register => do
      Logged.release register
      return none

/-- Ask a pool, and keep it whether it refuses or not. -/
def serve (request : Request) (logged : Logged Pool) : Answer × Logged Pool :=
  match request.ask logged with
  | .ok value after => (.ok value, after)
  | .error cause after => (.error cause, after)

/-- Ask a pool one thing after the other. -/
def serveAll : List Request → Logged Pool → List Answer × Logged Pool
  | [], logged => ([], logged)
  | request :: requests, logged =>
      let (answer, between) := serve request logged
      let (answers, after) := serveAll requests between
      (answer :: answers, after)

/-- All that a request can do to a pool. -/
inductive Served (logged : Logged Pool) : Request → Answer → Logged Pool → Prop where
  | granted (room : logged.state.inUse < logged.state.capacity) (events : Array Event) :
      Served logged .acquire (.ok (some ⟨logged.state.inUse⟩)) ⟨logged.state.grown, events⟩
  | exhausted (full : ¬ logged.state.inUse < logged.state.capacity) :
      Served logged .acquire (.error (.exhausted logged.state.capacity)) logged
  | returned {top : Nat} (live : logged.state.inUse = top + 1) (events : Array Event) :
      Served logged (.release ⟨top⟩) (.ok none) ⟨logged.state.shrunk, events⟩
  | empty {register : Register} (empty : logged.state.inUse = 0) :
      Served logged (.release register) (.error (.underflow register)) logged
  | buried {top : Nat} {register : Register} (live : logged.state.inUse = top + 1)
      (other : register ≠ ⟨top⟩) :
      Served logged (.release register) (.error (.outOfOrder ⟨top⟩ register)) logged

theorem served (request : Request) (logged : Logged Pool) :
    Served logged request (serve request logged).1 (serve request logged).2 := by
  cases request with
  | acquire =>
      simp only [serve, Request.ask, bind, EStateM.bind, Logged.acquire, acquire_eq]
      by_cases room : logged.state.inUse < logged.state.capacity
      · rw [if_pos room]
        exact .granted room _
      · rw [if_neg room]
        exact .exhausted room
  | release register =>
      simp only [serve, Request.ask, bind, EStateM.bind, Logged.release, release_eq]
      cases live : logged.state.inUse with
      | zero =>
          rw [if_pos rfl]
          exact .empty live
      | succ top =>
          rw [if_neg (Nat.succ_ne_zero top), Nat.add_sub_cancel]
          by_cases same : register = ⟨top⟩
          · rw [if_pos same, same]
            exact .returned live _
          · rw [if_neg same]
            exact .buried live same

/-! ## One request -/

/-- The registers in use, the newest first. -/
def live (pool : Pool) : List Register :=
  (List.range pool.inUse).reverse.map Register.mk

/-- The counters fit together. -/
structure Consistent (capacity : Nat) (pool : Pool) : Prop where
  capacity_eq : pool.capacity = capacity
  acquired_eq : pool.stats.acquired = pool.inUse + pool.stats.released
  inUse_le : pool.inUse ≤ pool.stats.peak
  peak_le : pool.stats.peak ≤ capacity

theorem consistent_ofCapacity (capacity : Nat) : Consistent capacity (ofCapacity capacity) where
  capacity_eq := rfl
  acquired_eq := rfl
  inUse_le := Nat.le_refl 0
  peak_le := Nat.zero_le capacity

section Live

variable {pool : Pool} {top : Nat}

@[simp] theorem length_live : pool.live.length = pool.inUse := by
  simp [live]

theorem live_of_zero (empty : pool.inUse = 0) : pool.live = [] := by
  simp [live, empty]

theorem live_of_succ (inUse_eq : pool.inUse = top + 1) :
    pool.live = ⟨top⟩ :: (List.range top).reverse.map Register.mk := by
  simp [live, inUse_eq, List.range_succ]

theorem live_grown : pool.grown.live = ⟨pool.inUse⟩ :: pool.live :=
  live_of_succ rfl

theorem live_eq_cons_shrunk (inUse_eq : pool.inUse = top + 1) :
    pool.live = ⟨top⟩ :: pool.shrunk.live := by
  rw [live_of_succ inUse_eq]
  simp [live, shrunk, inUse_eq]

theorem next_not_mem_live : (⟨pool.inUse⟩ : Register) ∉ pool.live := by
  simp [live]

end Live

namespace Served

variable {capacity : Nat} {before after : Logged Pool} {request : Request} {answer : Answer}

theorem stackStep (served : Served before request answer after)
    (consistent : before.state.Consistent capacity) :
    StackStep capacity before.state.live request answer after.state.live := by
  have notMore := Nat.le_trans consistent.inUse_le consistent.peak_le
  have capacity_eq := consistent.capacity_eq
  cases served with
  | granted room events =>
      rw [live_grown]
      refine .push ?_ next_not_mem_live
      rw [length_live]
      omega
  | exhausted full =>
      rw [capacity_eq]
      refine .full ?_
      rw [length_live]
      omega
  | returned live events =>
      rw [live_eq_cons_shrunk live]
      exact .pop
  | empty empty =>
      rw [live_of_zero empty]
      exact .empty
  | buried live other =>
      rw [live_of_succ live]
      exact .buried other

theorem consistent (served : Served before request answer after)
    (consistent : before.state.Consistent capacity) : after.state.Consistent capacity := by
  obtain ⟨capacity_eq, acquired_eq, inUse_le, peak_le⟩ := consistent
  cases served with
  | granted room events =>
      constructor
      · exact capacity_eq
      · simp only [grown]
        omega
      · exact Nat.le_max_right _ _
      · exact Nat.max_le.mpr ⟨peak_le, capacity_eq ▸ room⟩
  | returned live events =>
      constructor
      · exact capacity_eq
      · simp only [shrunk]
        omega
      · exact Nat.le_trans (Nat.sub_le _ _) inUse_le
      · exact peak_le
  | exhausted | empty | buried => exact ⟨capacity_eq, acquired_eq, inUse_le, peak_le⟩

/-- The peak follows the number of registers in use. -/
theorem peak_eq (served : Served before request answer after)
    (inUse_le : before.state.inUse ≤ before.state.stats.peak) :
    after.state.stats.peak = max before.state.stats.peak after.state.inUse := by
  cases served with
  | granted room events => rfl
  | returned live events =>
      exact (Nat.max_eq_left (Nat.le_trans (Nat.sub_le _ _) inUse_le)).symm
  | exhausted | empty | buried => exact (Nat.max_eq_left inUse_le).symm

/-- A refusal changes nothing. -/
theorem eq_of_error {cause : PoolError} (served : Served before request (.error cause) after) :
    after = before := by
  cases served with
  | exhausted | empty | buried => rfl

end Served

/-! ## Many requests -/

section Run

variable {capacity : Nat} {logged : Logged Pool}

theorem consistent_serveAll (requests : List Request)
    (consistent : logged.state.Consistent capacity) :
    (serveAll requests logged).2.state.Consistent capacity := by
  induction requests generalizing logged with
  | nil => exact consistent
  | cons request requests ih => exact ih ((served request logged).consistent consistent)

theorem stackRun_serveAll (requests : List Request)
    (consistent : logged.state.Consistent capacity) :
    StackRun capacity logged.state.live requests (serveAll requests logged).1
      (serveAll requests logged).2.state.live := by
  induction requests generalizing logged with
  | nil => exact .nil _
  | cons request requests ih =>
      have first := served request logged
      exact .cons (first.stackStep consistent) (ih (first.consistent consistent))

theorem peak_le_peak_serveAll (requests : List Request)
    (consistent : logged.state.Consistent capacity) :
    logged.state.stats.peak ≤ (serveAll requests logged).2.state.stats.peak := by
  induction requests generalizing logged with
  | nil => exact Nat.le_refl _
  | cons request requests ih =>
      have first := served request logged
      have followed := ih (first.consistent consistent)
      rw [first.peak_eq consistent.inUse_le] at followed
      exact Nat.le_trans (Nat.le_max_left _ _) followed

/-- There were never more registers in use than the peak says. -/
theorem inUse_le_peak_serveAll {requests earlier : List Request} (early : earlier <+: requests)
    (consistent : logged.state.Consistent capacity) :
    (serveAll earlier logged).2.state.inUse ≤
      (serveAll requests logged).2.state.stats.peak := by
  induction requests generalizing logged earlier with
  | nil =>
      rw [List.prefix_nil.mp early]
      exact consistent.inUse_le
  | cons request requests ih =>
      rcases List.prefix_cons_iff.mp early with rfl | ⟨others, rfl, shorter⟩
      · exact Nat.le_trans consistent.inUse_le (peak_le_peak_serveAll _ consistent)
      · exact ih shorter ((served request logged).consistent consistent)

/-- The peak is an old one, or it was reached on the way. -/
theorem exists_peak_serveAll (requests : List Request)
    (consistent : logged.state.Consistent capacity) :
    (serveAll requests logged).2.state.stats.peak = logged.state.stats.peak ∨
      ∃ earlier, earlier <+: requests ∧
        (serveAll earlier logged).2.state.inUse =
          (serveAll requests logged).2.state.stats.peak := by
  induction requests generalizing logged with
  | nil => exact .inl rfl
  | cons request requests ih =>
      have first := served request logged
      rcases ih (first.consistent consistent) with kept | ⟨earlier, early, reached⟩
      · rw [first.peak_eq consistent.inUse_le] at kept
        rcases Nat.le_total (serve request logged).2.state.inUse logged.state.stats.peak with
          le | le
        · rw [Nat.max_eq_left le] at kept
          exact .inl kept
        · rw [Nat.max_eq_right le] at kept
          exact .inr ⟨[request], List.prefix_cons_iff.mpr (.inr ⟨[], rfl, List.nil_prefix⟩),
            kept.symm⟩
      · exact .inr ⟨request :: earlier, List.prefix_cons_iff.mpr (.inr ⟨earlier, rfl, early⟩),
          reached⟩

end Run

/-- Whatever a pool is asked, it answers as a stack of limited height, and the registers on the
stack are those below the number in use.  The next refusal, whichever request it meets, changes
nothing.  The number in use is that of the registers acquired without those released.  It is at most
the peak, and this is the largest number that was in use at any time so far, and never more than the
capacity. -/
theorem serveAll_as_bounded_stack (capacity : Nat) (requests : List Request) :
    let (answers, logged) := serveAll requests (.fresh (ofCapacity capacity))
    let pool := logged.state
    (∃ live, StackRun capacity [] requests answers live ∧
      live.reverse = (List.range pool.inUse).map Register.mk) ∧
    (∀ request cause, (serve request logged).1 = .error cause →
      (serve request logged).2 = logged) ∧
    pool.inUse = pool.stats.acquired - pool.stats.released ∧
    pool.stats.released ≤ pool.stats.acquired ∧
    pool.inUse ≤ pool.stats.peak ∧ pool.stats.peak ≤ capacity ∧
    (∀ earlier, earlier <+: requests →
      (serveAll earlier (.fresh (ofCapacity capacity))).2.state.inUse ≤ pool.stats.peak) ∧
    ∃ earlier, earlier <+: requests ∧
      (serveAll earlier (.fresh (ofCapacity capacity))).2.state.inUse = pool.stats.peak := by
  have initial : (Logged.fresh (ofCapacity capacity)).state.Consistent capacity :=
    consistent_ofCapacity capacity
  have final := consistent_serveAll requests initial
  refine ⟨?_, ?_, ?_, ?_, final.inUse_le, final.peak_le, ?_, ?_⟩
  · refine ⟨_, stackRun_serveAll requests initial, ?_⟩
    simp [live]
  · intro request cause refused
    have last := served request (serveAll requests (.fresh (ofCapacity capacity))).2
    rw [refused] at last
    exact last.eq_of_error
  · have balance := final.acquired_eq
    omega
  · have balance := final.acquired_eq
    omega
  · intro earlier early
    exact inUse_le_peak_serveAll early initial
  · rcases exists_peak_serveAll requests initial with
      unused | reached
    · exact ⟨[], List.nil_prefix, unused.symm⟩
    · exact reached

end ThreeAddress.Pool
