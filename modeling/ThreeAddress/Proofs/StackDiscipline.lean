import ThreeAddress.Proofs.Handover
import ThreeAddress.Proofs.Simulation

/-!
# Stack discipline

Registers go back to the pool in the reverse order in which they were taken, whatever the source,
the pool and the sink, and in every state that earlier failures can leave behind.  First, stack
code that finds its operands fails for lack of room or because the sink refuses an instruction, and
for no other reason.  Then the plan of a call is such code.  Nothing is assumed of the sink, not
even that its errors are about sinks: it may answer with an error that blames the pool or the
source, and such an answer is passed on.
-/

namespace ThreeAddress

/-! ## The depth along stack code -/

theorem StackOp.Allowed.add {before : Nat} {op : StackOp} (allowed : op.Allowed before)
    (distance : Nat) : op.Allowed (before + distance) := by
  cases op with
  | push literal => trivial
  | fold operator => exact Nat.le_add_right_of_le allowed
  | drop => exact Nat.le_add_right_of_le allowed

theorem StackOp.depth_le (before : Nat) (op : StackOp) :
    op.depth before ≤ max before (op.reach before) := by
  cases op with
  | push literal => exact Nat.le_max_right _ _
  | fold operator => exact Nat.le_trans (Nat.sub_le _ _) (Nat.le_max_left _ _)
  | drop => exact Nat.le_trans (Nat.sub_le _ _) (Nat.le_max_left _ _)

namespace StackCode

/-- Further up, disciplined code moves the depth by as much. -/
theorem depth_shift {before : Nat} {code : StackCode} (distance : Nat)
    (disciplined : Disciplined before code) :
    depth (before + distance) code = depth before code + distance := by
  induction code generalizing before with
  | nil => rfl
  | cons op code ih =>
      rw [depth, (op.shift_spec distance disciplined.1).2]
      exact ih disciplined.2

/-- Code never goes higher than where it starts and what it asks for. -/
theorem depth_le (before : Nat) (code : StackCode) :
    depth before code ≤ max before (peak before code) := by
  induction code generalizing before with
  | nil => exact Nat.le_max_left _ _
  | cons op code ih =>
      have first := op.depth_le before
      have rest := ih (op.depth before)
      simp only [depth, peak]
      omega

end StackCode

/-! ## How stack code fails -/

/-- The pool was asked for another register than the latest, or for one too many. -/
def Error.BreaksDiscipline : Error → Prop
  | .pool (.underflow _) => True
  | .pool (.outOfOrder _ _) => True
  | _ => False

/-- Something else than a semicolon stands behind a sum. -/
def Error.AtTerminator : Error → Prop
  | .grammar (.expectedTerminator _ _) => True
  | _ => False

namespace Workbench

variable {σ : Type} [Sink σ] {bench done : Workbench σ} {cause : Error}

/-- The sink and the events so far. -/
def output (bench : Workbench σ) : Logged σ :=
  ⟨bench.sink, bench.events⟩

/-- The sink refused an instruction, or the pool had no room. -/
inductive Obstructed (bench : Workbench σ) : Error → Workbench σ → Prop where
  | refused {cause : Error} {done : Workbench σ}
      (answered : Sink.Answered bench.output cause done.output) : Obstructed bench cause done
  | full (capacity : Nat) (done : Workbench σ) :
      Obstructed bench (.pool (.exhausted capacity)) done

/-- An operation that succeeds has handed its instructions to the sink. -/
theorem accepted_of_perform {op : StackOp} (performed : perform op bench = .ok () done) :
    Sink.Accepted bench.output done.output := by
  cases op with
  | push literal =>
      simp only [perform, push, bind, EStateM.bind, acquire] at performed
      cases acquired : Pool.acquire bench.pool with
      | error cause pool => simp [acquired] at performed
      | ok register pool =>
          simp only [acquired, emit] at performed
          cases emitted : Sink.emit (.load register literal) bench.sink with
          | error cause sink => simp [emitted] at performed
          | ok value sink =>
              simp only [emitted] at performed
              cases performed
              exact (Sink.Accepted.of_silent _ _ rfl).trans (.of_emit _ emitted)
  | fold operator =>
      simp only [perform, fold, bind, EStateM.bind, emit, release] at performed
      cases emitted : Sink.emit (.operate ⟨bench.pool.inUse - 2⟩ ⟨bench.pool.inUse - 2⟩ operator
          ⟨bench.pool.inUse - 1⟩) bench.sink with
      | error cause sink => simp [emitted] at performed
      | ok value sink =>
          cases released : Pool.release ⟨bench.pool.inUse - 1⟩ bench.pool with
          | error cause pool => simp [emitted, released] at performed
          | ok value pool =>
              simp only [emitted, released] at performed
              cases performed
              exact (Sink.Accepted.of_emit _ emitted).trans (.of_silent _ _ rfl)
  | drop =>
      simp only [perform, release] at performed
      cases released : Pool.release ⟨bench.pool.inUse - 1⟩ bench.pool with
      | error cause pool => simp [released] at performed
      | ok value pool =>
          simp only [released] at performed
          cases performed
          exact .of_silent _ _ rfl

/-- An operation that fails although the stack holds its operands was obstructed, and keeps at most
the register that it took. -/
theorem perform_error {op : StackOp} (allowed : op.Allowed bench.pool.inUse)
    (failed : perform op bench = .error cause done) :
    bench.Obstructed cause done ∧ bench.pool.inUse ≤ done.pool.inUse ∧
      done.pool.inUse ≤ max bench.pool.inUse (op.reach bench.pool.inUse) := by
  cases op with
  | push literal =>
      simp only [perform, push, bind, EStateM.bind] at failed
      by_cases room : bench.pool.inUse < bench.pool.capacity
      · simp only [acquire_eq room, emit] at failed
        cases emitted : Sink.emit (.load ⟨bench.pool.inUse⟩ literal) bench.sink with
        | ok value sink => simp [emitted, pure, EStateM.pure] at failed
        | error refusal sink =>
            simp only [emitted, EStateM.Result.error.injEq] at failed
            obtain ⟨rfl, rfl⟩ := failed
            have acquired : Sink.Accepted bench.output ⟨bench.sink, bench.events.push
                (.acquired ⟨bench.pool.inUse⟩ (bench.pool.inUse + 1))⟩ := .of_silent _ _ rfl
            exact ⟨.refused (acquired.answered (.of_emit _ emitted)), Nat.le_succ _,
              Nat.le_max_right _ _⟩
      · simp only [acquire_full room, EStateM.Result.error.injEq] at failed
        obtain ⟨rfl, rfl⟩ := failed
        exact ⟨.full _ _, Nat.le_refl _, Nat.le_max_left _ _⟩
  | fold operator =>
      have live : 1 ≤ bench.pool.inUse := Nat.le_of_succ_le allowed
      simp only [perform, fold, bind, EStateM.bind, emit] at failed
      cases emitted : Sink.emit (.operate ⟨bench.pool.inUse - 2⟩ ⟨bench.pool.inUse - 2⟩ operator
          ⟨bench.pool.inUse - 1⟩) bench.sink with
      | ok value sink => simp [emitted, release, Pool.release_top live] at failed
      | error refusal sink =>
          simp only [emitted, EStateM.Result.error.injEq] at failed
          obtain ⟨rfl, rfl⟩ := failed
          exact ⟨.refused (.of_emit _ emitted), Nat.le_refl _, Nat.le_max_left _ _⟩
  | drop =>
      simp only [perform, release_top bench allowed] at failed
      contradiction

/-- Disciplined code that fails was obstructed.  It never goes below its base, nor higher than where
it starts and what it asks for. -/
theorem performAll_error {base depth : Nat} {code : StackCode}
    (disciplined : code.Disciplined depth) (live : bench.pool.inUse = depth + base)
    (failed : performAll code bench = .error cause done) :
    bench.Obstructed cause done ∧ base ≤ done.pool.inUse ∧
      done.pool.inUse ≤ max bench.pool.inUse (code.peak bench.pool.inUse) := by
  induction code generalizing bench depth with
  | nil => contradiction
  | cons op code ih =>
      simp only [performAll, bind, EStateM.bind] at failed
      cases first : perform op bench with
      | error other between =>
          simp only [first, EStateM.Result.error.injEq] at failed
          obtain ⟨rfl, rfl⟩ := failed
          have allowed : op.Allowed bench.pool.inUse := live ▸ disciplined.1.add base
          obtain ⟨obstructed, notLess, notMore⟩ := perform_error allowed first
          refine ⟨obstructed, by omega, ?_⟩
          simp only [StackCode.peak]
          omega
      | ok value between =>
          simp only [first] at failed
          have moved : between.pool.inUse = op.depth bench.pool.inUse := by
            rw [(pool_of_perform first).1, StackOp.onPool_inUse]
          have shifted : between.pool.inUse = op.depth depth + base := by
            rw [moved, live]
            exact (op.shift_spec base disciplined.1).2
          obtain ⟨obstructed, notLess, notMore⟩ := ih disciplined.2 shifted failed
          have bounded := op.depth_le bench.pool.inUse
          rw [moved] at notMore
          refine ⟨?_, notLess, ?_⟩
          · cases obstructed with
            | refused answered => exact .refused ((accepted_of_perform first).answered answered)
            | full capacity => exact .full capacity done
          · simp only [StackCode.peak]
            omega

end Workbench

/-! ## How plans end -/

/-- The result leaves no statement half read. -/
def Completes : Except Error Unit → Prop
  | .ok _ => True
  | .error cause => cause.AtTerminator

/-- The result does not blame the pool. -/
def Blameless : Except Error Unit → Prop
  | .error (.pool _) => False
  | _ => True

theorem depth_foldIf (before : Nat) (waits : Bool) (operator : Operator) :
    StackCode.depth before (foldIf waits operator) = before - waits.toNat := by
  cases waits with
  | false => rfl
  | true => rfl

namespace Phase

variable {phase : Phase} {scan : Scan} {result : Except Error Unit}

/-- At the end of the text there is no next phase. -/
theorem react_of_isLast (last : scan.isLast = true) (next : Phase) :
    (phase.react scan).2 ≠ .goOn next := by
  cases answered : scan.outcome with
  | error cause => simp [Scan.isLast, answered] at last
  | ok token =>
      have atEnd : token.symbol = .endOfInput := by
        simpa [Scan.isLast, answered] using last
      cases phase <;> simp [react, answered, readOperand, readOperator, atEnd]

/-- Where a number is missing, nothing is given back. -/
theorem readOperand_stop {sum product : Bool} {token : Token}
    (stops : (readOperand sum product scan token).2 = .stop result) :
    ¬ Completes result ∧ Blameless result := by
  obtain ⟨symbol, offset, length⟩ := token
  cases symbol with
  | number literal => contradiction
  | endOfInput | plus | times | semicolon =>
      cases stops
      exact ⟨id, trivial⟩

/-- Where a semicolon is missing, the value of the sum is given back. -/
theorem readOperator_stop (base : Nat) {sum product : Bool} {token : Token}
    (stops : (readOperator sum product scan token).2 = .stop result) :
    (readOperator sum product scan token).1.depth (base + (operator sum product).depth) = base ∧
      Blameless result := by
  obtain ⟨symbol, offset, length⟩ := token
  cases symbol with
  | plus | times | semicolon => contradiction
  | number | endOfInput =>
      cases stops
      refine ⟨?_, trivial⟩
      simp only [readOperator, depth, StackCode.depth_append, depth_foldIf, StackCode.depth,
        StackOp.depth]
      omega

/-- A phase stops for what stands in the text.  If it completes a statement by that, it has given
back all registers above the base. -/
theorem react_stop (base : Nat) (stops : (phase.react scan).2 = .stop result) :
    (Completes result → (phase.react scan).1.depth (base + phase.depth) = base) ∧
      Blameless result := by
  cases answered : scan.outcome with
  | error cause =>
      simp only [react, answered] at stops
      cases stops
      exact ⟨False.elim, trivial⟩
  | ok token =>
      cases phase with
      | boundary =>
          by_cases last : token.symbol = .endOfInput
          · simp only [react, answered, last, if_true] at stops ⊢
            cases stops
            exact ⟨fun _ => rfl, trivial⟩
          · simp only [react, answered, last, if_false] at stops ⊢
            obtain ⟨incomplete, blameless⟩ := readOperand_stop stops
            exact ⟨fun complete => absurd complete incomplete, blameless⟩
      | operand sum product =>
          simp only [react, answered] at stops ⊢
          obtain ⟨incomplete, blameless⟩ := readOperand_stop stops
          exact ⟨fun complete => absurd complete incomplete, blameless⟩
      | operator sum product =>
          simp only [react, answered] at stops ⊢
          obtain ⟨returned, blameless⟩ := readOperator_stop base stops
          exact ⟨fun _ => returned, blameless⟩

end Phase

/-- A plan to the end of the text that completes its statements ends where it began. -/
theorem Plan.ofScans_stop (base : Nat) (phase : Phase) {scans : List Scan}
    (ends : ∃ scan ∈ scans, scan.isLast = true) :
    (Completes (ofScans phase scans).result →
        (ofScans phase scans).code.depth (base + phase.depth) = base) ∧
      Blameless (ofScans phase scans).result := by
  induction scans generalizing phase with
  | nil => simp at ends
  | cons scan scans ih =>
      cases reacted : phase.react scan with
      | mk code course =>
        cases course with
        | stop result =>
            have stopped := Phase.react_stop base (congrArg Prod.snd reacted)
            rw [reacted] at stopped
            rw [ofScans_of_stop reacted]
            exact stopped
        | goOn next =>
            have later : ∃ scan ∈ scans, scan.isLast = true := by
              obtain ⟨last, member, isLast⟩ := ends
              rcases List.mem_cons.mp member with rfl | member
              · exact absurd (congrArg Prod.snd reacted) (Phase.react_of_isLast isLast next)
              · exact ⟨last, member, isLast⟩
            have following := (phase.react_spec base scan).2.2 next (congrArg Prod.snd reacted)
            rw [reacted] at following
            rw [ofScans_of_goOn reacted]
            simp only [precededBy, StackCode.depth_append, following]
            exact ih next later

/-! ## Calls of the generator -/

namespace Generator

variable {σ : Type} [Sink σ]

/-- The generator after one call, whether the call failed or not. -/
def proceed (generator : Generator σ) : Generator σ :=
  match statements generator with
  | .ok _ after => after
  | .error _ after => after

/-- The generator after some calls. -/
def afterCalls (generator : Generator σ) : Nat → Generator σ
  | 0 => generator
  | calls + 1 => (generator.afterCalls calls).proceed

/-- What a call may do to the registers that were in use before it. -/
def KeepsStack (bench : Workbench σ) : EStateM.Result Error (Workbench σ) Unit → Prop
  | .ok _ after => after.pool.inUse = bench.pool.inUse
  | .error cause after =>
      (Sink.Answered bench.output cause after.output ∨
        ¬ cause.BreaksDiscipline ∧ (cause.AtTerminator → after.pool.inUse = bench.pool.inUse)) ∧
      bench.pool.inUse ≤ after.pool.inUse ∧ after.pool.inUse ≤ bench.pool.inUse + 3

theorem keepsStack_execute (bench : Workbench σ) {scans : List Scan}
    (ends : ∃ scan ∈ scans, scan.isLast = true) :
    KeepsStack bench (Workbench.execute (Plan.ofScans .boundary scans) bench) := by
  have relative := (Plan.ofScans_spec 0 .boundary scans).1
  have bounded := (Plan.ofScans_spec bench.pool.inUse .boundary scans).2
  obtain ⟨completed, blameless⟩ := Plan.ofScans_stop bench.pool.inUse .boundary ends
  simp only [Phase.depth, Nat.add_zero] at relative bounded completed
  simp only [Workbench.execute, bind, EStateM.bind]
  cases performed : Workbench.performAll (Plan.ofScans .boundary scans).code bench with
  | error cause done =>
      obtain ⟨obstructed, notLess, notMore⟩ :=
        Workbench.performAll_error relative (Nat.zero_add _).symm performed
      refine ⟨?_, notLess, by omega⟩
      cases obstructed with
      | refused answered => exact .inl answered
      | full capacity => exact .inr ⟨id, False.elim⟩
  | ok value done =>
      have moved : done.pool.inUse =
          (Plan.ofScans .boundary scans).code.depth bench.pool.inUse := by
        rw [(Workbench.pool_of_performAll performed).1, StackCode.onPool_inUse]
      have notLess := StackCode.depth_shift bench.pool.inUse relative
      have notMore := StackCode.depth_le bench.pool.inUse (Plan.ofScans .boundary scans).code
      rw [Nat.zero_add] at notLess
      cases ended : (Plan.ofScans .boundary scans).result with
      | ok value =>
          rw [ended] at completed
          exact moved.trans (completed trivial)
      | error cause =>
          rw [ended] at completed blameless
          have disciplined : ¬ cause.BreaksDiscipline := by
            cases cause with
            | pool refusal => exact False.elim blameless
            | write | usage | scan | grammar | record => exact id
          refine ⟨.inr ⟨disciplined, ?_⟩, ?_, ?_⟩
          · intro atTerminator
            exact moved.trans (completed atTerminator)
          · omega
          · omega

end Generator

/-- In any sequence of calls, a call that succeeds leaves the registers in use as it found them, and
one that fails adds at most three.  Unless the sink itself answered with the error, it says nothing
of a register that was given back out of order or one too many, and if a semicolon is missed, the
registers in use are those that the call found. -/
theorem statements_keep_stack_discipline {σ : Type} [Sink σ] (source : String) (pool : Pool)
    (sink : σ) (calls : Nat) :
    let before := (Generator.start source pool sink).afterCalls calls
    match Generator.statements before with
    | .ok _ after => after.pool.inUse = before.pool.inUse
    | .error cause after =>
        (¬ Sink.Answered before.output cause after.output →
          (∀ register, cause ≠ .pool (.underflow register)) ∧
          (∀ expected found, cause ≠ .pool (.outOfOrder expected found)) ∧
          (∀ offset lexeme, cause = .grammar (.expectedTerminator offset lexeme) →
            after.pool.inUse = before.pool.inUse)) ∧
        before.pool.inUse ≤ after.pool.inUse ∧ after.pool.inUse ≤ before.pool.inUse + 3 := by
  intro before
  have kept := Generator.keepsStack_execute before.bench before.lexer.exists_isLast_upcoming
  rw [← Generator.forget_statements] at kept
  cases outcome : Generator.statements before with
  | ok value after =>
      rw [outcome] at kept
      exact kept
  | error cause after =>
      rw [outcome] at kept
      obtain ⟨answered | ⟨disciplined, atTerminator⟩, bounds⟩ := kept
      · exact ⟨fun unanswered => absurd answered unanswered, bounds⟩
      · refine ⟨fun _ => ⟨?_, ?_, ?_⟩, bounds⟩
        · rintro register rfl
          exact disciplined trivial
        · rintro expected found rfl
          exact disciplined trivial
        · rintro offset lexeme rfl
          exact atTerminator trivial

/-- A sink that answers every instruction with the same error. -/
structure Refuser where
  cause : Error

instance : Sink Refuser where
  emit _ := fun refuser => .error refuser.cause refuser

/-- Whatever error such a sink answers with, the call returns it, and keeps a register. -/
theorem Refuser.statements_eq (cause : Error) :
    ∃ after, Generator.statements (.start "1;" (.ofCapacity 10) (Refuser.mk cause)) =
        .error cause after ∧ after.pool.inUse = 1 := by
  obtain ⟨after, stepped, inUse_eq⟩ : ∃ after,
      Generator.step .boundary (.start "1;" (.ofCapacity 10) (Refuser.mk cause)) =
        .error cause after ∧ after.pool.inUse = 1 := ⟨_, rfl, rfl⟩
  exact ⟨after, Generator.resume_of_error stepped, inUse_eq⟩

/-- A sink can make a call blame the pool although no register was given back, and miss a semicolon
that is there, with a register left in use. -/
theorem sink_forges_errors :
    (∃ after, Generator.statements
        (.start "1;" (.ofCapacity 10) (Refuser.mk (.pool (.underflow ⟨0⟩)))) =
      .error (.pool (.underflow ⟨0⟩)) after) ∧
    (∃ after, Generator.statements
        (.start "1;" (.ofCapacity 10) (Refuser.mk (.pool (.outOfOrder ⟨1⟩ ⟨0⟩)))) =
      .error (.pool (.outOfOrder ⟨1⟩ ⟨0⟩)) after) ∧
    ∃ after, Generator.statements
        (.start "1;" (.ofCapacity 10) (Refuser.mk (.grammar (.expectedTerminator 0 "1")))) =
      .error (.grammar (.expectedTerminator 0 "1")) after ∧
      after.pool.inUse ≠ (Pool.ofCapacity 10).inUse := by
  obtain ⟨first, underflow, -⟩ := Refuser.statements_eq (.pool (.underflow ⟨0⟩))
  obtain ⟨second, outOfOrder, -⟩ := Refuser.statements_eq (.pool (.outOfOrder ⟨1⟩ ⟨0⟩))
  obtain ⟨third, terminator, inUse_eq⟩ :=
    Refuser.statements_eq (.grammar (.expectedTerminator 0 "1"))
  refine ⟨⟨first, underflow⟩, ⟨second, outOfOrder⟩, third, terminator, ?_⟩
  rw [inUse_eq]
  decide

end ThreeAddress
