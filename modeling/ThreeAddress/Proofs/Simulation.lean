import ThreeAddress.Proofs.Plan

/-!
# The generator executes its plan

The state of the generator is split into the lexer and the rest.  Every action of the generator
touches one part only, so a step of the generator is a reaction to the scan ahead followed by
stack code on the rest.  By induction over the scans ahead, a whole run of the generator executes
the plan of these scans.
-/

namespace ThreeAddress

namespace Workbench

variable {σ α : Type}

/-- The generator with the given lexer. -/
def generator (bench : Workbench σ) (lexer : Lexer) : Generator σ :=
  ⟨lexer, bench.pool, bench.sink, bench.events⟩

/-- What an action on the rest of the state means for the generator. -/
def lift (lexer : Lexer) :
    EStateM.Result Error (Workbench σ) α → EStateM.Result Error (Generator σ) α
  | .ok value bench => .ok value (bench.generator lexer)
  | .error cause bench => .error cause (bench.generator lexer)

end Workbench

namespace Generator

variable {σ α : Type}

/-- The state without the lexer. -/
def bench (generator : Generator σ) : Workbench σ :=
  ⟨generator.pool, generator.sink, generator.events⟩

/-- The outcome of an action without the lexer. -/
def forget : EStateM.Result Error (Generator σ) α → EStateM.Result Error (Workbench σ) α
  | .ok value generator => .ok value generator.bench
  | .error cause generator => .error cause generator.bench

theorem bind_of_ok {ε τ β : Type} {first : EStateM ε τ α} {second : α → EStateM ε τ β}
    {before after : τ} {value : α} (done : first before = .ok value after) :
    (first >>= second) before = second value after := by
  simp [bind, EStateM.bind, done]

theorem bind_of_error {ε τ β : Type} {first : EStateM ε τ α} {second : α → EStateM ε τ β}
    {before after : τ} {cause : ε} (failed : first before = .error cause after) :
    (first >>= second) before = .error cause after := by
  simp [bind, EStateM.bind, failed]

/-- A token that is held already is not scanned again. -/
theorem peek_of_held {before : Generator σ} {token : Token}
    (held : before.lexer.lookahead = some token) : peek before = .ok token before := by
  simp only [peek, onLexer, Lexer.peek, held]

/-! ## Actions on one part of the state -/

section Actions

variable (bench : Workbench σ) {lexer : Lexer} {first second : Scan} {rest : List Scan}

theorem peek_of_ok {token : Token} (ahead : lexer.upcoming = first :: rest)
    (answered : first.outcome = .ok token) :
    ∃ held : Lexer, peek (bench.generator lexer) = .ok token (bench.generator held) ∧
      held.lookahead = some token ∧ held.upcoming = first :: rest := by
  obtain ⟨held, peeked, holds, same⟩ := Lexer.peek_of_ok ahead answered
  refine ⟨held, ?_, holds, same⟩
  simp [peek, onLexer, Workbench.generator, peeked]

theorem peek_of_error {cause : ScanError} (ahead : lexer.upcoming = first :: rest)
    (failed : first.outcome = .error cause) :
    ∃ after : Lexer, peek (bench.generator lexer) =
      .error (.scan cause) (bench.generator after) := by
  obtain ⟨after, peeked⟩ := Lexer.peek_of_error ahead failed
  refine ⟨after, ?_⟩
  simp [peek, onLexer, Workbench.generator, peeked]

theorem advance_of_ok {token next : Token} (held : lexer.lookahead = some token)
    (ahead : lexer.upcoming = first :: second :: rest) (answered : second.outcome = .ok next) :
    ∃ after : Lexer, advance (bench.generator lexer) = .ok () (bench.generator after) ∧
      after.upcoming = second :: rest := by
  obtain ⟨after, advanced, -, same⟩ := Lexer.advance_of_ok held ahead answered
  refine ⟨after, ?_, same⟩
  simp [advance, onLexer, Workbench.generator, advanced]

theorem advance_of_error {token : Token} {cause : ScanError}
    (held : lexer.lookahead = some token) (ahead : lexer.upcoming = first :: second :: rest)
    (failed : second.outcome = .error cause) :
    ∃ after : Lexer, advance (bench.generator lexer) =
      .error (.scan cause) (bench.generator after) := by
  obtain ⟨after, advanced⟩ := Lexer.advance_of_error held ahead failed
  refine ⟨after, ?_⟩
  simp [advance, onLexer, Workbench.generator, advanced]

theorem acquire_generator (lexer : Lexer) :
    acquire (bench.generator lexer) = Workbench.lift lexer (Workbench.acquire bench) := by
  simp only [acquire, onPool, Logged.acquire, Workbench.generator, Workbench.acquire]
  cases Pool.acquire bench.pool with
  | ok register pool => rfl
  | error cause pool => rfl

theorem release_generator (lexer : Lexer) (register : Register) :
    release register (bench.generator lexer) =
      Workbench.lift lexer (Workbench.release register bench) := by
  simp only [release, onPool, Logged.release, Workbench.generator, Workbench.release]
  cases Pool.release register bench.pool with
  | ok value pool => rfl
  | error cause pool => rfl

theorem emit_generator [Sink σ] (lexer : Lexer) (instr : Instr) :
    emit instr (bench.generator lexer) = Workbench.lift lexer (Workbench.emit instr bench) := by
  simp only [emit, record, toSink, bind, EStateM.bind, Workbench.generator, Workbench.emit]
  cases Sink.emit instr bench.sink with
  | ok value sink => rfl
  | error cause sink => rfl

/-- The register that waits at a depth, if one does. -/
def waiting (waits : Bool) (depth : Nat) : Option Register :=
  if waits then some ⟨depth⟩ else none

/-- Working a value into the one that waits below it is stack code. -/
theorem absorb_generator [Sink σ] (operator : Operator) (waits : Bool) (depth : Nat)
    (lexer : Lexer) (live : bench.pool.inUse = depth + waits.toNat + 1) :
    absorb operator (waiting waits depth) ⟨depth + waits.toNat⟩ (bench.generator lexer) =
      Workbench.lift lexer
        ((do Workbench.performAll (foldIf waits operator); return (⟨depth⟩ : Register)) bench) := by
  cases waits with
  | false => rfl
  | true =>
      have left_eq : bench.pool.inUse - 2 = depth := by simp [live]
      have right_eq : bench.pool.inUse - 1 = depth + 1 := by simp [live]
      simp only [waiting, absorb, foldIf, Workbench.performAll, Workbench.perform, Workbench.fold,
        bind, EStateM.bind, ↓reduceIte, emit_generator, left_eq, right_eq, Bool.toNat_true]
      cases Workbench.emit (.operate ⟨depth⟩ ⟨depth⟩ operator ⟨depth + 1⟩) bench with
      | error cause between => rfl
      | ok value between =>
          simp only [Workbench.lift, release_generator]
          cases Workbench.release ⟨depth + 1⟩ between with
          | ok value after => rfl
          | error cause after => rfl

end Actions

/-! ## Reading a number -/

section Load

variable [Sink σ] (bench : Workbench σ) {after : Workbench σ} {lexer : Lexer} {first second : Scan}
variable {rest : List Scan}

theorem load_of_scan_error {cause : ScanError} (ahead : lexer.upcoming = first :: rest)
    (failed : first.outcome = .error cause) :
    ∃ last : Lexer, load (bench.generator lexer) = .error (.scan cause) (bench.generator last) := by
  obtain ⟨last, peeked⟩ := peek_of_error bench ahead failed
  refine ⟨last, ?_⟩
  simp [load, bind, EStateM.bind, peeked]

/-- Where no number follows, the generator fails as planned. -/
theorem load_of_no_number {token : Token} (sum product : Bool)
    (ahead : lexer.upcoming = first :: rest) (answered : first.outcome = .ok token)
    (notNumber : ∀ literal, token.symbol ≠ .number literal) :
    ∃ cause, ∃ last : Lexer,
      (Phase.operand sum product).react first = ([], .stop (.error cause)) ∧
        load (bench.generator lexer) = .error cause (bench.generator last) := by
  obtain ⟨held, peeked, holds, same⟩ := peek_of_ok bench ahead answered
  have shown := Lexer.shown_of_held holds same
  have reacted : (Phase.operand sum product).react first =
      Phase.readOperand sum product first token := by
    simp [Phase.react, answered]
  obtain ⟨symbol, offset, length⟩ := token
  cases symbol with
  | number literal => exact absurd rfl (notNumber literal)
  | endOfInput =>
      refine ⟨_, held, reacted, ?_⟩
      simp only [load, bind, EStateM.bind, peeked]
      rfl
  | plus | times | semicolon =>
      refine ⟨_, held, reacted, ?_⟩
      simp only [load, bind, EStateM.bind, peeked]
      rw [shown]
      rfl

/-- Taking a register and loading a literal into it puts the literal on the stack. -/
private theorem acquire_load_generator {literal : Literal} (lexer : Lexer)
    (following : Register → Generation σ Register) :
    (do
      let register ← acquire
      emit (.load register literal)
      following register) (bench.generator lexer) =
    match Workbench.push literal bench with
    | .ok register after => following register (after.generator lexer)
    | .error cause after => .error cause (after.generator lexer) := by
  simp only [Workbench.push, bind, EStateM.bind, acquire_generator]
  cases Workbench.acquire bench with
  | error cause between => rfl
  | ok register between =>
      simp only [Workbench.lift, emit_generator]
      cases Workbench.emit (.load register literal) between with
      | ok value after => rfl
      | error cause after => rfl

private theorem load_of_number {token : Token} {literal : Literal}
    (ahead : lexer.upcoming = first :: rest) (answered : first.outcome = .ok token)
    (number : token.symbol = .number literal) :
    ∃ held : Lexer, held.lookahead = some token ∧ held.upcoming = first :: rest ∧
      load (bench.generator lexer) =
        match Workbench.push literal bench with
        | .ok register after =>
            (do advance; return register : Generation σ Register) (after.generator held)
        | .error cause after => .error cause (after.generator held) := by
  obtain ⟨held, peeked, holds, same⟩ := peek_of_ok bench ahead answered
  refine ⟨held, holds, same, ?_⟩
  rw [← acquire_load_generator]
  simp only [load, bind, EStateM.bind, peeked, number]

theorem load_of_push_error {token : Token} {literal : Literal} {cause : Error}
    (ahead : lexer.upcoming = first :: rest) (answered : first.outcome = .ok token)
    (number : token.symbol = .number literal)
    (pushed : Workbench.push literal bench = .error cause after) :
    ∃ last : Lexer, load (bench.generator lexer) = .error cause (after.generator last) := by
  obtain ⟨held, -, -, loaded⟩ := load_of_number bench ahead answered number
  exact ⟨held, by rw [loaded, pushed]⟩

/-- After the number is loaded, the scan behind it decides whether the generator goes on. -/
theorem load_of_push_ok {token : Token} {literal : Literal} {register : Register}
    (ahead : lexer.upcoming = first :: rest) (answered : first.outcome = .ok token)
    (number : token.symbol = .number literal)
    (pushed : Workbench.push literal bench = .ok register after) :
    ∃ second others, ∃ last : Lexer, rest = second :: others ∧
      ((∃ cause, second.outcome = .error cause ∧
          load (bench.generator lexer) = .error (.scan cause) (after.generator last)) ∨
        (∃ next, second.outcome = .ok next ∧ last.upcoming = second :: others ∧
          load (bench.generator lexer) = .ok register (after.generator last))) := by
  obtain ⟨held, holds, same, loaded⟩ := load_of_number bench ahead answered number
  obtain ⟨second, others, rfl⟩ := Lexer.exists_second holds (by simp [number]) same
  rw [loaded, pushed]
  simp only [bind, EStateM.bind]
  cases following : second.outcome with
  | error cause =>
      obtain ⟨last, advanced⟩ := advance_of_error after holds same following
      refine ⟨second, others, last, rfl, .inl ⟨cause, following, ?_⟩⟩
      rw [advanced]
  | ok next =>
      obtain ⟨last, advanced, kept⟩ := advance_of_ok after holds same following
      refine ⟨second, others, last, rfl, .inr ⟨next, following, kept, ?_⟩⟩
      rw [advanced]
      rfl

end Load

/-! ## Steps and runs -/

section Run

variable [Sink σ]

/-- All that a run does, without the reason why it ends. -/
theorem resume_eq (progress : Progress) (before : Generator σ) :
    resume progress before =
      match step progress before with
      | .ok (some next) after => resume next after
      | .ok none after => .ok () after
      | .error cause after => .error cause after := by
  fun_cases resume progress before with
  | case1 next after stepped => rw [stepped]
  | case2 after stepped => rw [stepped]
  | case3 cause after stepped => rw [stepped]

theorem resume_of_next {progress next : Progress} {before after : Generator σ}
    (stepped : step progress before = .ok (some next) after) :
    resume progress before = resume next after := by
  rw [resume_eq, stepped]

theorem resume_of_done {progress : Progress} {before after : Generator σ}
    (stepped : step progress before = .ok none after) :
    resume progress before = .ok () after := by
  rw [resume_eq, stepped]

theorem resume_of_error {progress : Progress} {before after : Generator σ} {cause : Error}
    (stepped : step progress before = .error cause after) :
    resume progress before = .error cause after := by
  rw [resume_eq, stepped]

theorem resume_operand (held : Held) (before : Generator σ) :
    resume (.operand held) before = (do resume (← readOperand held)) before := by
  simp only [bind, EStateM.bind]
  cases read : readOperand held before with
  | ok next after =>
      apply resume_of_next
      simp [step, bind, EStateM.bind, read, pure, EStateM.pure]
  | error cause after =>
      apply resume_of_error
      simp [step, bind, EStateM.bind, read]

theorem resume_operator (sum : Option Register) (product : Register) (before : Generator σ) :
    resume (.operator sum product) before = (do resume (← readOperator sum product)) before := by
  simp only [bind, EStateM.bind]
  cases read : readOperator sum product before with
  | ok next after =>
      apply resume_of_next
      simp [step, bind, EStateM.bind, read, pure, EStateM.pure]
  | error cause after =>
      apply resume_of_error
      simp [step, bind, EStateM.bind, read]

theorem step_boundary_of_inside {before held : Generator σ} {token : Token}
    (peeked : peek before = .ok token held) (inside : token.symbol ≠ .endOfInput) :
    step .boundary before = step (.operand .none) held := by
  simp only [step]
  rw [bind_of_ok peeked]
  obtain ⟨symbol, offset, length⟩ := token
  cases symbol with
  | endOfInput => exact absurd rfl inside
  | plus | times | semicolon | number => rfl

theorem step_boundary_of_end {before held : Generator σ} {token : Token}
    (peeked : peek before = .ok token held) (last : token.symbol = .endOfInput) :
    step .boundary before =
      .ok none { held with events := held.events.push (.compiled held.pool.stats) } := by
  simp only [step]
  rw [bind_of_ok peeked, last]
  rfl

/-- The progress of the generator in a phase, with the registers below the base out of its
reach, and the depth of the stack.  The generator is never seen with a product pending. -/
inductive Represents (base : Nat) : Phase → Progress → Nat → Prop where
  | boundary : Represents base .boundary .boundary base
  | operand (sum product : Bool) :
      Represents base (.operand sum product)
        (.operand ⟨waiting sum base, waiting product (base + sum.toNat)⟩)
        (base + sum.toNat + product.toNat)
  | operator (sum : Bool) :
      Represents base (.operator sum false)
        (.operator (waiting sum base) ⟨base + sum.toNat⟩) (base + sum.toNat + 1)

/-- From every state that has the scans ahead, the generator executes their plan. -/
def Simulated (σ : Type) [Sink σ] (base : Nat) (scans : List Scan) : Prop :=
  ∀ (lexer : Lexer) (bench : Workbench σ) (phase : Phase) (progress : Progress),
    lexer.upcoming = scans → Represents base phase progress bench.pool.inUse →
      forget (resume progress (bench.generator lexer)) =
        Workbench.execute (Plan.ofScans phase scans) bench

theorem forget_advance_resume {base : Nat} {rest : List Scan} (ih : Simulated σ base rest)
    {lexer : Lexer} {bench : Workbench σ} {token : Token} {first : Scan} {phase : Phase}
    {progress : Progress} (held : lexer.lookahead = some token)
    (inside : token.symbol ≠ .endOfInput) (ahead : lexer.upcoming = first :: rest)
    (represents : Represents base phase progress bench.pool.inUse) :
    forget ((do advance; resume progress) (bench.generator lexer)) =
      Workbench.execute (Plan.ofScans phase rest) bench := by
  obtain ⟨second, others, rfl⟩ := Lexer.exists_second held inside ahead
  simp only [bind, EStateM.bind]
  cases following : second.outcome with
  | error cause =>
      obtain ⟨last, advanced⟩ := advance_of_error bench held ahead following
      rw [advanced, Plan.ofScans_of_error following]
      rfl
  | ok next =>
      obtain ⟨last, advanced, kept⟩ := advance_of_ok bench held ahead following
      rw [advanced]
      exact ih last bench phase progress kept represents

/-- The value is worked into the one that waits for it, if one does. -/
private theorem forget_absorb (operator : Operator) (waits : Bool) (depth : Nat) (lexer : Lexer)
    (bench : Workbench σ) (live : bench.pool.inUse = depth + waits.toNat + 1)
    (following : Register → Generation σ Unit) (plan : Plan)
    (simulates : ∀ after : Workbench σ, after.pool.inUse = depth + 1 →
      forget (following ⟨depth⟩ (after.generator lexer)) = Workbench.execute plan after) :
    forget ((do
        let total ← absorb operator (waiting waits depth) ⟨depth + waits.toNat⟩
        following total) (bench.generator lexer)) =
      Workbench.execute (plan.precededBy (foldIf waits operator)) bench := by
  simp only [bind, EStateM.bind, Workbench.execute_precededBy,
    absorb_generator bench operator waits depth lexer live]
  cases folded : Workbench.performAll (foldIf waits operator) bench with
  | error cause final => rfl
  | ok value final =>
      apply simulates
      rw [(Workbench.pool_of_performAll folded).1, StackCode.onPool_inUse, live]
      cases waits <;> simp [foldIf, StackCode.depth, StackOp.depth]

/-- Reading a number is a push, and then, if the scan behind it succeeds, the multiplication that
waited for it. -/
private theorem forget_number {base : Nat} {first : Scan} {rest : List Scan}
    (ih : Simulated σ base rest) (sum product : Bool) (lexer : Lexer) (bench : Workbench σ)
    {token : Token} {literal : Literal} (ahead : lexer.upcoming = first :: rest)
    (answered : first.outcome = .ok token) (number : token.symbol = .number literal)
    (live : bench.pool.inUse = base + sum.toNat + product.toNat) :
    forget ((do resume (← readOperand ⟨waiting sum base, waiting product (base + sum.toNat)⟩))
        (bench.generator lexer)) =
      Workbench.execute (Plan.ofScans (.operand sum product) (first :: rest)) bench := by
  have reacted : (Phase.operand sum product).react first =
      ([.push literal], .goOn (.operator sum product)) := by
    simp [Phase.react, answered, Phase.readOperand, number]
  rw [Plan.ofScans_of_goOn reacted, Workbench.execute_precededBy]
  simp only [readOperand, bind_assoc, pure_bind]
  cases pushed : Workbench.push literal bench with
  | error cause after =>
      have performed : Workbench.performAll [.push literal] bench = .error cause after := by
        simp only [Workbench.performAll, Workbench.perform, bind, EStateM.bind, pushed]
      obtain ⟨last, loaded⟩ := load_of_push_error bench ahead answered number pushed
      rw [bind_of_error loaded, bind_of_error performed]
      rfl
  | ok register after =>
      have performed : Workbench.performAll [.push literal] bench = .ok () after := by
        simp only [Workbench.performAll, Workbench.perform, bind, EStateM.bind, pushed]
        rfl
      obtain ⟨-, rfl, grown⟩ := Workbench.push_ok pushed
      obtain ⟨second, others, last, rfl, outcome⟩ :=
        load_of_push_ok bench ahead answered number pushed
      rw [bind_of_ok performed]
      -- If the scan behind the number fails, the product that waits is never multiplied.
      rcases outcome with ⟨cause, failed, loaded⟩ | ⟨next, following, kept, loaded⟩
      · rw [bind_of_error loaded, Plan.ofScans_of_error failed]
        rfl
      · have deeper : after.pool.inUse = base + sum.toNat + product.toNat + 1 := by
          rw [grown, ← live]
          rfl
        rw [bind_of_ok loaded, Plan.ofScans_operator following, live]
        apply forget_absorb .multiply product (base + sum.toNat) last after deeper
        intro final depth_eq
        apply ih last final _ _ kept
        rw [depth_eq]
        exact .operator sum

private theorem forget_operand {base : Nat} {first : Scan} {rest : List Scan}
    (ih : Simulated σ base rest) (sum product : Bool) (lexer : Lexer) (bench : Workbench σ)
    (ahead : lexer.upcoming = first :: rest)
    (live : bench.pool.inUse = base + sum.toNat + product.toNat) :
    forget ((do resume (← readOperand ⟨waiting sum base, waiting product (base + sum.toNat)⟩))
        (bench.generator lexer)) =
      Workbench.execute (Plan.ofScans (.operand sum product) (first :: rest)) bench := by
  cases answered : first.outcome with
  | error cause =>
      obtain ⟨last, loaded⟩ := load_of_scan_error bench ahead answered
      simp only [readOperand, bind_assoc]
      rw [bind_of_error loaded, Plan.ofScans_of_error answered]
      rfl
  | ok token =>
      by_cases number : ∃ literal, token.symbol = .number literal
      · obtain ⟨literal, number⟩ := number
        exact forget_number ih sum product lexer bench ahead answered number live
      · obtain ⟨cause, last, reacted, loaded⟩ :=
          load_of_no_number bench sum product ahead answered (not_exists.mp number)
        simp only [readOperand, bind_assoc]
        rw [bind_of_error loaded, Plan.ofScans_of_stop reacted]
        rfl

/-- At the end of a statement its value is discarded. -/
private theorem forget_release {base : Nat} (lexer : Lexer) (bench : Workbench σ)
    (live : bench.pool.inUse = base + 1) (following : Generation σ Unit) (plan : Plan)
    (simulates : ∀ after : Workbench σ, after.pool.inUse = base →
      forget (following (after.generator lexer)) = Workbench.execute plan after) :
    forget ((do release ⟨base⟩; following) (bench.generator lexer)) =
      Workbench.execute (plan.precededBy [.drop]) bench := by
  have top : bench.pool.inUse - 1 = base := by simp [live]
  simp only [bind, EStateM.bind, Workbench.execute_precededBy, Workbench.performAll,
    Workbench.perform, top, release_generator]
  cases released : Workbench.release ⟨base⟩ bench with
  | error cause final => rfl
  | ok value final =>
      apply simulates
      have performed : Workbench.perform .drop bench = .ok () final := by
        simp only [Workbench.perform, top, released]
      rw [(Workbench.pool_of_perform performed).1, StackOp.onPool_inUse, live]
      rfl

private theorem forget_operator {base : Nat} {first : Scan} {rest : List Scan}
    (ih : Simulated σ base rest) (sum : Bool) (lexer : Lexer) (bench : Workbench σ)
    (ahead : lexer.upcoming = first :: rest)
    (live : bench.pool.inUse = base + sum.toNat + 1) :
    forget ((do resume (← readOperator (waiting sum base) ⟨base + sum.toNat⟩))
        (bench.generator lexer)) =
      Workbench.execute (Plan.ofScans (.operator sum false) (first :: rest)) bench := by
  simp only [readOperator, bind_assoc]
  cases answered : first.outcome with
  | error cause =>
      obtain ⟨last, peeked⟩ := peek_of_error bench ahead answered
      rw [bind_of_error peeked, Plan.ofScans_of_error answered]
      rfl
  | ok token =>
      obtain ⟨held, peeked, holds, same⟩ := peek_of_ok bench ahead answered
      have reacted : (Phase.operator sum false).react first =
          Phase.readOperator sum false first token := by
        simp [Phase.react, answered]
      rw [bind_of_ok peeked]
      obtain ⟨symbol, offset, length⟩ := token
      cases symbol with
      | times =>
          rw [Plan.ofScans_of_goOn reacted]
          simp only [bind_assoc, pure_bind]
          apply forget_advance_resume ih holds (by simp) same
          rw [live]
          exact .operand sum true
      | plus =>
          rw [Plan.ofScans_of_goOn reacted]
          simp only [bind_assoc, pure_bind]
          apply forget_absorb .add sum base held bench live
          intro after depth_eq
          apply forget_advance_resume ih holds (by simp) same
          rw [depth_eq]
          exact .operand true false
      | semicolon =>
          rw [Plan.ofScans_of_goOn reacted]
          rw [foldIf_false, List.nil_append, ← Plan.precededBy_precededBy]
          simp only [bind_assoc, pure_bind]
          apply forget_absorb .add sum base held bench live
          intro after depth_eq
          apply forget_release held after depth_eq
          intro final base_eq
          apply forget_advance_resume ih holds (by simp) same
          rw [base_eq]
          exact .boundary
      | number | endOfInput =>
          rw [Plan.ofScans_of_stop reacted]
          simp only [bind_assoc]
          apply forget_absorb .add sum base held bench live _ (Plan.precededBy ⟨[], _⟩ [.drop])
          intro after depth_eq
          apply forget_release held after depth_eq
          intro final base_eq
          rw [Lexer.shown_of_held holds same]
          rfl

private theorem forget_boundary {base : Nat} {first : Scan} {rest : List Scan}
    (ih : Simulated σ base rest) (lexer : Lexer) (bench : Workbench σ)
    (ahead : lexer.upcoming = first :: rest) (live : bench.pool.inUse = base) :
    forget (resume .boundary (bench.generator lexer)) =
      Workbench.execute (Plan.ofScans .boundary (first :: rest)) bench := by
  cases answered : first.outcome with
  | error cause =>
      obtain ⟨last, peeked⟩ := peek_of_error bench ahead answered
      have stepped : step .boundary (bench.generator lexer) =
          .error (.scan cause) (bench.generator last) := bind_of_error peeked
      rw [resume_of_error stepped, Plan.ofScans_of_error answered]
      rfl
  | ok token =>
      obtain ⟨held, peeked, -, same⟩ := peek_of_ok bench ahead answered
      by_cases last : token.symbol = .endOfInput
      · have reacted : Phase.boundary.react first = ([], .stop (.ok ())) := by
          simp [Phase.react, answered, last]
        rw [resume_of_done (step_boundary_of_end peeked last), Plan.ofScans_of_stop reacted]
        rfl
      · have moved : resume .boundary (bench.generator lexer) =
            resume (.operand .none) (bench.generator held) := by
          rw [resume, resume, step_boundary_of_inside peeked last]
        rw [moved, resume_operand, Plan.ofScans_boundary answered last]
        exact forget_operand ih false false held bench same live

/-- Generation from any phase of a statement to the end of the text. -/
theorem forget_resume (base : Nat) (scans : List Scan) : Simulated σ base scans := by
  induction scans with
  | nil =>
      intro lexer bench phase progress ahead represents
      obtain ⟨first, rest, nonempty⟩ := lexer.exists_upcoming_cons
      rw [ahead] at nonempty
      contradiction
  | cons first rest ih =>
      intro lexer bench phase progress ahead represents
      generalize live : bench.pool.inUse = depth at represents
      cases represents with
      | boundary => exact forget_boundary ih lexer bench ahead live
      | operand sum product =>
          rw [resume_operand]
          exact forget_operand ih sum product lexer bench ahead live
      | operator sum =>
          rw [resume_operator]
          exact forget_operator ih sum lexer bench ahead live

/-- The generator executes the plan of the scans that its lexer has ahead. -/
theorem forget_statements (generator : Generator σ) :
    forget (statements generator) =
      Workbench.execute (Plan.ofScans .boundary generator.lexer.upcoming) generator.bench :=
  forget_resume generator.pool.inUse generator.lexer.upcoming generator.lexer generator.bench
    .boundary .boundary rfl .boundary

end Run

end Generator

end ThreeAddress
