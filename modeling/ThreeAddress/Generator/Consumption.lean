import ThreeAddress.Generator.Basic

/-!
# Steps consume tokens

Every step of code generation but the last consumes a token, whatever the pool and the sink
do. The bound is the lexer's own count of what is pending.
-/

namespace ThreeAddress

/-- A computation succeeds in two parts if and only if the first succeeds and then the second. -/
theorem bind_eq_ok_iff {ε σ α β : Type} {first : EStateM ε σ α} {second : α → EStateM ε σ β}
    {before after : σ} {value : β} :
    (first >>= second) before = .ok value after ↔
      ∃ middle between, first before = .ok middle between ∧ second middle between = .ok value after := by
  cases outcome : first before with
  | ok middle between =>
      simp only [bind, EStateM.bind, outcome, EStateM.Result.ok.injEq]
      constructor
      · exact fun done => ⟨middle, between, ⟨rfl, rfl⟩, done⟩
      · rintro ⟨_, _, ⟨rfl, rfl⟩, done⟩
        exact done
  | error cause between => simp [bind, EStateM.bind, outcome]

namespace Generator

variable {σ α β : Type}

/-- A computation that leaves the lexer as it is. -/
def KeepsLexer (action : Generation σ α) : Prop :=
  ∀ before value after, action before = .ok value after → after.lexer = before.lexer

theorem keepsLexer_pure (value : α) : KeepsLexer (pure value : Generation σ α) := by
  intro before result after done
  simp only [pure, EStateM.pure, EStateM.Result.ok.injEq] at done
  rw [← done.2]

theorem KeepsLexer.bind {first : Generation σ α} {second : α → Generation σ β}
    (keepsFirst : KeepsLexer first) (keepsSecond : ∀ value, KeepsLexer (second value)) :
    KeepsLexer (first >>= second) := by
  intro before value after done
  obtain ⟨middle, between, doneFirst, doneSecond⟩ := bind_eq_ok_iff.mp done
  exact (keepsSecond middle _ _ _ doneSecond).trans (keepsFirst _ _ _ doneFirst)

theorem keepsLexer_record (event : Event) : KeepsLexer (record event : Generation σ Unit) := by
  intro before value after done
  simp only [record, EStateM.Result.ok.injEq] at done
  rw [← done.2]

theorem keepsLexer_onPool (action : EStateM PoolError (Logged Pool) α) :
    KeepsLexer (onPool action : Generation σ α) := by
  intro before value after done
  cases asked : action ⟨before.pool, before.events⟩ with
  | error cause logged => simp [onPool, asked] at done
  | ok answer logged =>
      simp only [onPool, asked, EStateM.Result.ok.injEq] at done
      rw [← done.2]

theorem keepsLexer_toSink [Sink σ] (instr : Instr) :
    KeepsLexer (toSink instr : Generation σ Unit) := by
  intro before value after done
  cases emitted : Sink.emit instr before.sink with
  | error cause sink => simp [toSink, emitted] at done
  | ok value sink =>
      simp only [toSink, emitted, EStateM.Result.ok.injEq] at done
      rw [← done.2]

theorem keepsLexer_emit [Sink σ] (instr : Instr) : KeepsLexer (emit instr : Generation σ Unit) :=
  (keepsLexer_record _).bind fun _ => keepsLexer_toSink instr

theorem keepsLexer_absorb [Sink σ] (operator : Operator) (waiting : Option Register)
    (value : Register) : KeepsLexer (absorb operator waiting value : Generation σ Register) := by
  cases waiting with
  | none => exact keepsLexer_pure value
  | some left =>
      exact (keepsLexer_emit _).bind fun _ => (keepsLexer_onPool _).bind fun _ => keepsLexer_pure left

/-- The lexer runs as it would on its own. -/
theorem onLexer_ok {action : EStateM ScanError Lexer α} {before after : Generator σ} {value : α}
    (done : onLexer action before = .ok value after) :
    action before.lexer = .ok value after.lexer := by
  cases ran : action before.lexer with
  | error cause lexer => simp [onLexer, ran] at done
  | ok result lexer =>
      simp only [onLexer, ran, EStateM.Result.ok.injEq] at done
      rw [← done.1, ← done.2]

/-- The token that comes next is held afterwards. -/
theorem peek_ok {before after : Generator σ} {token : Token} (done : peek before = .ok token after) :
    after.lexer.lookahead = some token ∧ after.lexer.pending ≤ before.lexer.pending :=
  Lexer.peek_ok (onLexer_ok done)

/-- Consuming a token other than the end of the text leaves less pending. -/
theorem pending_lt_of_advance {before after : Generator σ} {token : Token}
    (held : before.lexer.lookahead = some token) (inside : token.symbol ≠ .endOfInput)
    (done : advance before = .ok () after) : after.lexer.pending < before.lexer.pending :=
  Lexer.pending_lt_of_advance held inside (onLexer_ok done)

/-- Nothing succeeds by throwing. -/
theorem throw_ne_ok {cause : Error} {before after : Generator σ} {value : α} :
    (throw cause : Generation σ α) before ≠ .ok value after := by
  have failed : (throw cause : Generation σ α) before = .error cause before := rfl
  rw [failed]
  nofun

/-- Loading a number consumes it. -/
theorem pending_lt_of_load [Sink σ] {before after : Generator σ} {register : Register}
    (done : load before = .ok register after) : after.lexer.pending < before.lexer.pending := by
  obtain ⟨⟨symbol, offset, length⟩, peeked, donePeek, doneRest⟩ := bind_eq_ok_iff.mp done
  obtain ⟨held, notMore⟩ := peek_ok donePeek
  cases symbol with
  | number literal =>
      obtain ⟨taken, acquired, doneAcquire, doneRest⟩ := bind_eq_ok_iff.mp doneRest
      obtain ⟨_, emitted, doneEmit, doneRest⟩ := bind_eq_ok_iff.mp doneRest
      obtain ⟨_, advanced, doneAdvance, doneReturn⟩ := bind_eq_ok_iff.mp doneRest
      have same : emitted.lexer = peeked.lexer :=
        (keepsLexer_emit _ _ _ _ doneEmit).trans (keepsLexer_onPool _ _ _ _ doneAcquire)
      have less := pending_lt_of_advance (same ▸ held) (by simp) doneAdvance
      rw [keepsLexer_pure _ _ _ _ doneReturn]
      rw [same] at less
      omega
  | endOfInput => exact absurd doneRest throw_ne_ok
  | plus | times | semicolon =>
      obtain ⟨_, _, _, doneThrow⟩ := bind_eq_ok_iff.mp doneRest
      exact absurd doneThrow throw_ne_ok

/-- Reading an operand consumes it. -/
theorem pending_lt_of_readOperand [Sink σ] {held : Held} {before after : Generator σ}
    {progress : Progress} (done : readOperand held before = .ok progress after) :
    after.lexer.pending < before.lexer.pending := by
  obtain ⟨number, loaded, doneLoad, doneRest⟩ := bind_eq_ok_iff.mp done
  have kept := (keepsLexer_absorb .multiply held.product number).bind
    (fun product => keepsLexer_pure (Progress.operator held.sum product)) _ _ _ doneRest
  rw [kept]
  exact pending_lt_of_load doneLoad

/-- Reading what follows a number consumes it. -/
theorem pending_lt_of_readOperator [Sink σ] {sum : Option Register} {product : Register}
    {before after : Generator σ} {progress : Progress}
    (done : readOperator sum product before = .ok progress after) :
    after.lexer.pending < before.lexer.pending := by
  obtain ⟨⟨symbol, offset, length⟩, peeked, donePeek, doneRest⟩ := bind_eq_ok_iff.mp done
  obtain ⟨held, notMore⟩ := peek_ok donePeek
  cases symbol with
  | times =>
      obtain ⟨_, advanced, doneAdvance, doneReturn⟩ := bind_eq_ok_iff.mp doneRest
      have less := pending_lt_of_advance held (by simp) doneAdvance
      rw [keepsLexer_pure _ _ _ _ doneReturn]
      omega
  | plus =>
      obtain ⟨total, absorbed, doneAbsorb, doneRest⟩ := bind_eq_ok_iff.mp doneRest
      obtain ⟨_, advanced, doneAdvance, doneReturn⟩ := bind_eq_ok_iff.mp doneRest
      have same := keepsLexer_absorb _ _ _ _ _ _ doneAbsorb
      have less := pending_lt_of_advance (same ▸ held) (by simp) doneAdvance
      rw [keepsLexer_pure _ _ _ _ doneReturn]
      rw [same] at less
      omega
  | semicolon =>
      obtain ⟨total, absorbed, doneAbsorb, doneRest⟩ := bind_eq_ok_iff.mp doneRest
      obtain ⟨_, released, doneRelease, doneRest⟩ := bind_eq_ok_iff.mp doneRest
      obtain ⟨_, advanced, doneAdvance, doneReturn⟩ := bind_eq_ok_iff.mp doneRest
      have same : released.lexer = peeked.lexer :=
        (keepsLexer_onPool _ _ _ _ doneRelease).trans (keepsLexer_absorb _ _ _ _ _ _ doneAbsorb)
      have less := pending_lt_of_advance (same ▸ held) (by simp) doneAdvance
      rw [keepsLexer_pure _ _ _ _ doneReturn]
      rw [same] at less
      omega
  | number | endOfInput =>
      obtain ⟨total, absorbed, doneAbsorb, doneRest⟩ := bind_eq_ok_iff.mp doneRest
      obtain ⟨_, released, doneRelease, doneRest⟩ := bind_eq_ok_iff.mp doneRest
      obtain ⟨_, _, _, doneThrow⟩ := bind_eq_ok_iff.mp doneRest
      exact absurd doneThrow throw_ne_ok

/-- Every step but the last consumes a token. -/
theorem pending_lt_of_step [Sink σ] {progress next : Progress} {before after : Generator σ}
    (done : step progress before = .ok (some next) after) :
    after.lexer.pending < before.lexer.pending := by
  cases progress with
  | boundary =>
      obtain ⟨⟨symbol, offset, length⟩, peeked, donePeek, doneRest⟩ := bind_eq_ok_iff.mp done
      have notMore := (peek_ok donePeek).2
      cases symbol with
      | endOfInput =>
          obtain ⟨_, _, _, doneRest⟩ := bind_eq_ok_iff.mp doneRest
          obtain ⟨_, _, _, doneReturn⟩ := bind_eq_ok_iff.mp doneRest
          simp [pure, EStateM.pure] at doneReturn
      | plus | times | semicolon | number =>
          obtain ⟨_, read, doneRead, doneReturn⟩ := bind_eq_ok_iff.mp doneRest
          have less := pending_lt_of_readOperand doneRead
          rw [keepsLexer_pure _ _ _ _ doneReturn]
          omega
  | operand held =>
      obtain ⟨_, read, doneRead, doneReturn⟩ := bind_eq_ok_iff.mp done
      rw [keepsLexer_pure _ _ _ _ doneReturn]
      exact pending_lt_of_readOperand doneRead
  | operator sum product =>
      obtain ⟨_, read, doneRead, doneReturn⟩ := bind_eq_ok_iff.mp done
      rw [keepsLexer_pure _ _ _ _ doneReturn]
      exact pending_lt_of_readOperator doneRead

end Generator

end ThreeAddress
