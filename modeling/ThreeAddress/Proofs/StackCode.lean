import ThreeAddress.Error
import ThreeAddress.Generator.Basic

/-!
# Stack code on a pool of registers

Code generation is a sequence of three kinds of stack operations: put a literal on top, work the
top into the value below it, and discard the top.  The stack is the part of a pool that is in
use, and the number of a register is its depth.  This module says what a sequence of operations
does to a pool, a sink and the events so far, and when it fails.  It is independent of where the
operations come from.
-/

namespace ThreeAddress

namespace Pool

/-- The pool after a successful request. -/
def grown (pool : Pool) : Pool where
  capacity := pool.capacity
  inUse := pool.inUse + 1
  stats := { pool.stats with
    acquired := pool.stats.acquired + 1
    peak := max pool.stats.peak (pool.inUse + 1) }

/-- The pool after its latest register was given back. -/
def shrunk (pool : Pool) : Pool where
  capacity := pool.capacity
  inUse := pool.inUse - 1
  stats := { pool.stats with released := pool.stats.released + 1 }

variable {pool after : Pool} {register : Register}

theorem get_eq (pool : Pool) : (get : EStateM PoolError Pool Pool) pool = .ok pool pool := rfl

/-- All that a request for a register can do.  A refusal changes nothing. -/
theorem acquire_eq (pool : Pool) :
    acquire pool =
      if pool.inUse < pool.capacity then .ok ⟨pool.inUse⟩ pool.grown
      else .error (.exhausted pool.capacity) pool := by
  simp only [acquire, bind, EStateM.bind, get_eq]
  by_cases room : pool.inUse < pool.capacity
  · rw [if_neg (Nat.not_lt.mpr room), if_pos room]
    rfl
  · rw [if_pos (Nat.lt_succ_of_le (Nat.le_of_not_lt room)), if_neg room]
    rfl

/-- All that giving back a register can do.  A refusal changes nothing. -/
theorem release_eq (register : Register) (pool : Pool) :
    release register pool =
      if pool.inUse = 0 then .error (.underflow register) pool
      else if register = ⟨pool.inUse - 1⟩ then .ok () pool.shrunk
      else .error (.outOfOrder ⟨pool.inUse - 1⟩ register) pool := by
  simp only [release, bind, EStateM.bind, get_eq]
  by_cases empty : pool.inUse = 0
  · rw [if_pos empty, if_pos empty]
    rfl
  · rw [if_neg empty, if_neg empty]
    by_cases top : register = ⟨pool.inUse - 1⟩
    · rw [if_neg (not_not_intro top.symm), if_pos top]
      rfl
    · rw [if_pos (Ne.symm top), if_neg top]
      rfl

theorem acquire_of_lt (room : pool.inUse < pool.capacity) :
    acquire pool = .ok ⟨pool.inUse⟩ pool.grown := by
  rw [acquire_eq, if_pos room]

theorem acquire_of_not_lt (full : ¬ pool.inUse < pool.capacity) :
    acquire pool = .error (.exhausted pool.capacity) pool := by
  rw [acquire_eq, if_neg full]

theorem release_top (live : 1 ≤ pool.inUse) :
    release ⟨pool.inUse - 1⟩ pool = .ok () pool.shrunk := by
  rw [release_eq, if_neg (Nat.ne_of_gt live), if_pos rfl]

theorem eq_shrunk_of_release (released : release register pool = .ok () after) :
    after = pool.shrunk := by
  rw [release_eq] at released
  by_cases empty : pool.inUse = 0
  · rw [if_pos empty] at released
    contradiction
  · rw [if_neg empty] at released
    by_cases top : register = ⟨pool.inUse - 1⟩
    · rw [if_pos top] at released
      cases released
      rfl
    · rw [if_neg top] at released
      contradiction

end Pool

/-- The register that is the given number of places further up. -/
def Register.shift (distance : Nat) (register : Register) : Register :=
  ⟨register.index + distance⟩

/-- The same instruction on other registers. -/
def Instr.shift (distance : Nat) : Instr → Instr
  | load target literal => load (target.shift distance) literal
  | operate target left operator right =>
      operate (target.shift distance) (left.shift distance) operator (right.shift distance)

/-- An operation works a register into the one below it. -/
def Instr.FoldsDown : Instr → Prop
  | load _ _ => True
  | operate target left _ right => target = left ∧ right.index = left.index + 1

/-- One operation on a stack of registers. -/
inductive StackOp where
  | push (literal : Literal)
  | fold (operator : Operator)
  | drop
deriving DecidableEq

namespace StackOp

/-- The depth of the stack after the operation. -/
def depth (before : Nat) : StackOp → Nat
  | push _ => before + 1
  | fold _ => before - 1
  | drop => before - 1

/-- The depth that the operation asks the pool for, if it asks at all. -/
def reach (before : Nat) : StackOp → Nat
  | push _ => before + 1
  | fold _ => 0
  | drop => 0

/-- The stack holds the operands. -/
def Allowed (before : Nat) : StackOp → Prop
  | push _ => True
  | fold _ => 2 ≤ before
  | drop => 1 ≤ before

/-- The instructions of the operation. -/
def instrs (before : Nat) : StackOp → List Instr
  | push literal => [.load ⟨before⟩ literal]
  | fold operator => [.operate ⟨before - 2⟩ ⟨before - 2⟩ operator ⟨before - 1⟩]
  | drop => []

/-- The events of the operation. -/
def events (before : Nat) : StackOp → List Event
  | push literal => [.acquired ⟨before⟩ (before + 1), .emitted (.load ⟨before⟩ literal)]
  | fold operator =>
      [.emitted (.operate ⟨before - 2⟩ ⟨before - 2⟩ operator ⟨before - 1⟩),
        .released ⟨before - 1⟩ (before - 1)]
  | drop => [.released ⟨before - 1⟩ (before - 1)]

/-- The pool after the operation. -/
def onPool (pool : Pool) : StackOp → Pool
  | push _ => pool.grown
  | fold _ => pool.shrunk
  | drop => pool.shrunk

/-- Further up, the operation is the same but for the registers. -/
theorem shift_spec {before : Nat} {op : StackOp} (distance : Nat) (allowed : op.Allowed before) :
    op.instrs (before + distance) = (op.instrs before).map (Instr.shift distance) ∧
      op.depth (before + distance) = op.depth before + distance := by
  cases op with
  | push literal => exact ⟨rfl, Nat.add_right_comm before distance 1⟩
  | fold operator =>
      have left_eq : before + distance - 2 = before - 2 + distance :=
        Nat.sub_add_comm allowed
      have right_eq : before + distance - 1 = before - 1 + distance :=
        Nat.sub_add_comm (Nat.le_of_succ_le allowed)
      simp only [instrs, depth, left_eq, right_eq]
      exact ⟨rfl, trivial⟩
  | drop => exact ⟨rfl, Nat.sub_add_comm allowed⟩

theorem foldsDown {before : Nat} {op : StackOp} (allowed : op.Allowed before) :
    ∀ instr ∈ op.instrs before, instr.FoldsDown := by
  cases op with
  | push literal => simp [instrs, Instr.FoldsDown]
  | fold operator =>
      have neighbours : before - 1 = before - 2 + 1 := by
        have two_le : 2 ≤ before := allowed
        omega
      simp [instrs, Instr.FoldsDown, neighbours]
  | drop => simp [instrs]

@[simp] theorem onPool_inUse (pool : Pool) (op : StackOp) :
    (op.onPool pool).inUse = op.depth pool.inUse := by
  cases op <;> rfl

@[simp] theorem onPool_capacity (pool : Pool) (op : StackOp) :
    (op.onPool pool).capacity = pool.capacity := by
  cases op <;> rfl

end StackOp

/-- A sequence of stack operations. -/
abbrev StackCode := List StackOp

namespace StackCode

def depth (before : Nat) : StackCode → Nat
  | [] => before
  | op :: code => depth (op.depth before) code

/-- The largest depth that the code asks a pool for. -/
def peak (before : Nat) : StackCode → Nat
  | [] => 0
  | op :: code => max (op.reach before) (peak (op.depth before) code)

/-- Every operation finds its operands on the stack. -/
def Disciplined (before : Nat) : StackCode → Prop
  | [] => True
  | op :: code => op.Allowed before ∧ Disciplined (op.depth before) code

def instrs (before : Nat) : StackCode → List Instr
  | [] => []
  | op :: code => op.instrs before ++ instrs (op.depth before) code

def events (before : Nat) : StackCode → List Event
  | [] => []
  | op :: code => op.events before ++ events (op.depth before) code

def onPool (pool : Pool) : StackCode → Pool
  | [] => pool
  | op :: code => onPool (op.onPool pool) code

variable (before : Nat) (first second : StackCode)

@[simp] theorem depth_append :
    depth before (first ++ second) = depth (depth before first) second := by
  induction first generalizing before with
  | nil => rfl
  | cons op first ih => simp [depth, ih]

@[simp] theorem peak_append :
    peak before (first ++ second) = max (peak before first) (peak (depth before first) second) := by
  induction first generalizing before with
  | nil => simp [peak, depth]
  | cons op first ih => simp [peak, depth, ih, Nat.max_assoc]

/-- From further down, the code asks for no more. -/
theorem peak_mono {lower upper : Nat} (le : lower ≤ upper) (code : StackCode) :
    peak lower code ≤ peak upper code := by
  induction code generalizing lower upper with
  | nil => exact Nat.le_refl 0
  | cons op code ih =>
      have reaches : op.reach lower ≤ op.reach upper := by
        cases op with
        | push literal => exact Nat.succ_le_succ le
        | fold operator => exact Nat.le_refl 0
        | drop => exact Nat.le_refl 0
      have deeper : op.depth lower ≤ op.depth upper := by
        cases op with
        | push literal => exact Nat.succ_le_succ le
        | fold operator => exact Nat.sub_le_sub_right le 1
        | drop => exact Nat.sub_le_sub_right le 1
      apply Nat.max_le.mpr
      constructor
      · exact Nat.le_trans reaches (Nat.le_max_left _ _)
      · exact Nat.le_trans (ih deeper) (Nat.le_max_right _ _)

@[simp] theorem disciplined_append :
    Disciplined before (first ++ second) ↔
      Disciplined before first ∧ Disciplined (depth before first) second := by
  induction first generalizing before with
  | nil => simp [Disciplined, depth]
  | cons op first ih => simp [Disciplined, depth, ih, and_assoc]

@[simp] theorem instrs_append :
    instrs before (first ++ second) =
      instrs before first ++ instrs (depth before first) second := by
  induction first generalizing before with
  | nil => rfl
  | cons op first ih => simp [instrs, depth, ih]

/-- Further up, disciplined code is the same but for the registers. -/
theorem instrs_shift {before : Nat} {code : StackCode} (distance : Nat)
    (disciplined : Disciplined before code) :
    instrs (before + distance) code = (instrs before code).map (Instr.shift distance) := by
  induction code generalizing before with
  | nil => rfl
  | cons op code ih =>
      obtain ⟨instrs_eq, depth_eq⟩ := op.shift_spec distance disciplined.1
      rw [instrs, instrs_eq, depth_eq, ih disciplined.2, instrs, List.map_append]

theorem foldsDown {before : Nat} {code : StackCode} (disciplined : Disciplined before code) :
    ∀ instr ∈ instrs before code, instr.FoldsDown := by
  induction code generalizing before with
  | nil => simp [instrs]
  | cons op code ih =>
      rw [instrs, List.forall_mem_append]
      exact ⟨StackOp.foldsDown disciplined.1, ih disciplined.2⟩

@[simp] theorem onPool_inUse (pool : Pool) (code : StackCode) :
    (code.onPool pool).inUse = code.depth pool.inUse := by
  induction code generalizing pool with
  | nil => rfl
  | cons op code ih => simp [onPool, depth, ih]

end StackCode

/-! ## Performing stack code -/

/-- The sink after an instruction, whether it was refused or not. -/
def Sink.receive {σ : Type} [Sink σ] (sink : σ) (instr : Instr) : σ :=
  match Sink.emit instr sink with
  | .ok _ after => after
  | .error _ after => after

/-- A sink that refuses no instruction, whatever it has received before. -/
def Sink.Unfailing {σ : Type} [Sink σ] (sink : σ) : Prop :=
  ∀ (received : List Instr) (instr : Instr),
    ∃ after, Sink.emit instr (received.foldl Sink.receive sink) = .ok () after

namespace Sink.Unfailing

variable {σ : Type} [Sink σ] {sink : σ}

theorem emit_eq (unfailing : Sink.Unfailing sink) (instr : Instr) :
    Sink.emit instr sink = .ok () (Sink.receive sink instr) := by
  cases unfailing [] instr with
  | intro after emitted =>
      rw [List.foldl_nil] at emitted
      simp [Sink.receive, emitted]

theorem foldl_receive (unfailing : Sink.Unfailing sink) (instrs : List Instr) :
    Sink.Unfailing (instrs.foldl Sink.receive sink) := by
  intro received instr
  rw [← List.foldl_append]
  exact unfailing (instrs ++ received) instr

end Sink.Unfailing

/-- The state of code generation without the lexer. -/
structure Workbench (σ : Type) where
  pool : Pool
  sink : σ
  events : Array Event

namespace Workbench

variable {σ : Type} [Sink σ]

def emit (instr : Instr) : EStateM Error (Workbench σ) Unit := fun bench =>
  match Sink.emit instr bench.sink with
  | .ok _ sink => .ok () ⟨bench.pool, sink, bench.events.push (.emitted instr)⟩
  | .error cause sink => .error cause ⟨bench.pool, sink, bench.events.push (.emitted instr)⟩

def acquire : EStateM Error (Workbench σ) Register := fun bench =>
  match Pool.acquire bench.pool with
  | .ok register pool =>
      .ok register ⟨pool, bench.sink, bench.events.push (.acquired register pool.inUse)⟩
  | .error cause pool => .error (.pool cause) ⟨pool, bench.sink, bench.events⟩

def release (register : Register) : EStateM Error (Workbench σ) Unit := fun bench =>
  match Pool.release register bench.pool with
  | .ok _ pool => .ok () ⟨pool, bench.sink, bench.events.push (.released register pool.inUse)⟩
  | .error cause pool => .error (.pool cause) ⟨pool, bench.sink, bench.events⟩

/-- Load a literal into a fresh register. -/
def push (literal : Literal) : EStateM Error (Workbench σ) Register := do
  let register ← acquire
  emit (.load register literal)
  return register

/-- Work one register into another and give it back. -/
def fold (operator : Operator) (left right : Register) : EStateM Error (Workbench σ) Unit := do
  emit (.operate left left operator right)
  release right

/-- Perform one operation. -/
def perform : StackOp → EStateM Error (Workbench σ) Unit
  | .push literal => do
      let _ ← push literal
  | .fold operator => fun bench =>
      fold operator ⟨bench.pool.inUse - 2⟩ ⟨bench.pool.inUse - 1⟩ bench
  | .drop => fun bench => release ⟨bench.pool.inUse - 1⟩ bench

def performAll : StackCode → EStateM Error (Workbench σ) Unit
  | [] => pure ()
  | op :: code => do
      perform op
      performAll code

/-- The state after code that did not fail. -/
def after (bench : Workbench σ) (code : StackCode) : Workbench σ where
  pool := code.onPool bench.pool
  sink := (code.instrs bench.pool.inUse).foldl Sink.receive bench.sink
  events := (code.events bench.pool.inUse).foldl Array.push bench.events

theorem after_cons (bench : Workbench σ) (op : StackOp) (code : StackCode) :
    bench.after (op :: code) = (bench.after [op]).after code := by
  simp [after, StackCode.onPool, StackCode.instrs, StackCode.events]

omit [Sink σ] in
theorem acquire_eq {bench : Workbench σ} (room : bench.pool.inUse < bench.pool.capacity) :
    acquire bench =
      .ok ⟨bench.pool.inUse⟩ ⟨bench.pool.grown, bench.sink,
        bench.events.push (.acquired ⟨bench.pool.inUse⟩ (bench.pool.inUse + 1))⟩ := by
  simp [acquire, Pool.acquire_of_lt room, Pool.grown]

omit [Sink σ] in
theorem acquire_full {bench : Workbench σ} (full : ¬ bench.pool.inUse < bench.pool.capacity) :
    acquire bench = .error (.pool (.exhausted bench.pool.capacity)) bench := by
  simp [acquire, Pool.acquire_of_not_lt full]

omit [Sink σ] in
theorem release_top (bench : Workbench σ) (live : 1 ≤ bench.pool.inUse) :
    release ⟨bench.pool.inUse - 1⟩ bench =
      .ok () ⟨bench.pool.shrunk, bench.sink,
        bench.events.push (.released ⟨bench.pool.inUse - 1⟩ (bench.pool.inUse - 1))⟩ := by
  simp [release, Pool.release_top live, Pool.shrunk]

theorem emit_eq {sink : σ} (unfailing : Sink.Unfailing sink) (pool : Pool) (events : Array Event)
    (instr : Instr) :
    emit instr ⟨pool, sink, events⟩ =
      .ok () ⟨pool, Sink.receive sink instr, events.push (.emitted instr)⟩ := by
  simp [emit, unfailing.emit_eq]

/-- An operation on a sink that refuses nothing succeeds if the stack holds its operands and the
pool reaches far enough. -/
theorem perform_eq (bench : Workbench σ) (unfailing : Sink.Unfailing bench.sink) (op : StackOp)
    (allowed : op.Allowed bench.pool.inUse)
    (fits : op.reach bench.pool.inUse ≤ bench.pool.capacity) :
    perform op bench = .ok () (bench.after [op]) := by
  obtain ⟨pool, sink, events⟩ := bench
  cases op with
  | push literal =>
      simp only [perform, push, bind, EStateM.bind, acquire_eq fits, emit_eq unfailing, pure,
        EStateM.pure]
      rfl
  | fold operator =>
      have live : 1 ≤ pool.inUse := Nat.le_of_succ_le allowed
      simp only [perform, fold, bind, EStateM.bind, emit_eq unfailing, release,
        Pool.release_top live]
      rfl
  | drop => exact release_top _ allowed

/-- The register of a literal is the former depth of the stack. -/
theorem push_ok {bench done : Workbench σ} {literal : Literal} {register : Register}
    (pushed : push literal bench = .ok register done) :
    bench.pool.inUse < bench.pool.capacity ∧ register = ⟨bench.pool.inUse⟩ ∧
      done.pool = bench.pool.grown := by
  by_cases room : bench.pool.inUse < bench.pool.capacity
  · simp only [push, bind, EStateM.bind, acquire_eq room, emit] at pushed
    cases emitted : Sink.emit (.load ⟨bench.pool.inUse⟩ literal) bench.sink with
    | ok _ sink =>
        simp only [emitted, pure, EStateM.pure, EStateM.Result.ok.injEq] at pushed
        rw [← pushed.1, ← pushed.2]
        exact ⟨room, rfl, rfl⟩
    | error cause sink => simp [emitted] at pushed
  · simp [push, bind, EStateM.bind, acquire_full room] at pushed

/-- Whatever the sink, an operation that succeeds found room in the pool and changed the pool as
stated. -/
theorem pool_of_perform {bench done : Workbench σ} {op : StackOp}
    (performed : perform op bench = .ok () done) :
    done.pool = op.onPool bench.pool ∧ op.reach bench.pool.inUse ≤ bench.pool.capacity := by
  cases op with
  | push literal =>
      simp only [perform, bind, EStateM.bind] at performed
      cases pushed : push literal bench with
      | ok register between =>
          simp only [pushed, pure, EStateM.pure, EStateM.Result.ok.injEq, true_and] at performed
          subst performed
          obtain ⟨room, -, grown⟩ := push_ok pushed
          exact ⟨grown, room⟩
      | error cause between => simp [pushed] at performed
  | fold operator =>
      refine ⟨?_, Nat.zero_le _⟩
      simp only [perform, fold, bind, EStateM.bind, emit, release] at performed
      cases emitted : Sink.emit (.operate ⟨bench.pool.inUse - 2⟩ ⟨bench.pool.inUse - 2⟩ operator
          ⟨bench.pool.inUse - 1⟩) bench.sink with
      | ok _ sink =>
          cases released : Pool.release ⟨bench.pool.inUse - 1⟩ bench.pool with
          | ok value pool =>
              simp only [emitted, released, EStateM.Result.ok.injEq, true_and] at performed
              subst performed
              exact Pool.eq_shrunk_of_release released
          | error cause pool => simp [emitted, released] at performed
      | error cause sink => simp [emitted] at performed
  | drop =>
      refine ⟨?_, Nat.zero_le _⟩
      simp only [perform, release] at performed
      cases released : Pool.release ⟨bench.pool.inUse - 1⟩ bench.pool with
      | ok value pool =>
          simp only [released, EStateM.Result.ok.injEq, true_and] at performed
          subst performed
          exact Pool.eq_shrunk_of_release released
      | error cause pool => simp [released] at performed

/-- Disciplined code on a sink that refuses nothing succeeds if the pool reaches far enough. -/
theorem performAll_eq (bench : Workbench σ) (unfailing : Sink.Unfailing bench.sink)
    (code : StackCode) (disciplined : code.Disciplined bench.pool.inUse)
    (fits : code.peak bench.pool.inUse ≤ bench.pool.capacity) :
    performAll code bench = .ok () (bench.after code) := by
  induction code generalizing bench with
  | nil => rfl
  | cons op code ih =>
      have first := perform_eq bench unfailing op disciplined.1
        (Nat.le_trans (Nat.le_max_left _ _) fits)
      simp only [performAll, bind, EStateM.bind, first]
      rw [after_cons bench op code]
      apply ih
      · exact unfailing.foldl_receive _
      · simpa [after, StackCode.onPool] using disciplined.2
      · simpa [after, StackCode.onPool] using Nat.le_trans (Nat.le_max_right _ _) fits

/-- Code that succeeds stayed within the pool. -/
theorem pool_of_performAll {bench done : Workbench σ} {code : StackCode}
    (performed : performAll code bench = .ok () done) :
    done.pool = code.onPool bench.pool ∧ code.peak bench.pool.inUse ≤ bench.pool.capacity := by
  induction code generalizing bench with
  | nil =>
      simp only [performAll, pure, EStateM.pure, EStateM.Result.ok.injEq, true_and] at performed
      subst performed
      exact ⟨rfl, Nat.zero_le _⟩
  | cons op code ih =>
      simp only [performAll, bind, EStateM.bind] at performed
      cases first : perform op bench with
      | ok value between =>
          simp only [first] at performed
          obtain ⟨pool_eq, room⟩ := pool_of_perform first
          obtain ⟨final, fits⟩ := ih performed
          simp only [pool_eq, StackOp.onPool_inUse, StackOp.onPool_capacity] at final fits
          exact ⟨final, Nat.max_le.mpr ⟨room, fits⟩⟩
      | error cause between => simp [first] at performed

end Workbench

end ThreeAddress
