import ThreeAddress.Generator.Run
import ThreeAddress.Proofs.Handover

/-!
# What generation does with the lexer

Generation looks at the token that comes next and consumes it.  In between it asks the pool and the
sink, which leave the lexer alone.  What is known of the lexer along a run therefore follows from
what these two calls do to it, and from what it looks like where generation gives up.  This module
derives the one from the other, for every source, pool and sink.  An error that the sink returned
says nothing of the lexer, so it is kept apart from those of generation itself.
-/

namespace ThreeAddress

/-! ## Computations that may fail -/

section Ensures

variable {ε σ α β : Type}

/-- Started where `before` holds, a computation ends where `done` holds of its value, or fails where
`failed` holds of its error. -/
def Ensures (before : σ → Prop) (action : EStateM ε σ α) (done : α → σ → Prop)
    (failed : ε → σ → Prop) : Prop :=
  ∀ state, before state →
    match action state with
    | .ok value after => done value after
    | .error cause after => failed cause after

namespace Ensures

variable {before other : σ → Prop} {action : EStateM ε σ α} {next : α → EStateM ε σ β}
variable {between done : α → σ → Prop} {ended : β → σ → Prop} {failed : ε → σ → Prop}

theorem pure {value : α} (holds : ∀ state, before state → done value state) :
    Ensures before (Pure.pure value : EStateM ε σ α) done failed :=
  holds

theorem throw {cause : ε} (holds : ∀ state, before state → failed cause state) :
    Ensures before (MonadExcept.throw cause : EStateM ε σ α) done failed :=
  holds

/-- An error that quotes the state. -/
theorem get_throw {cause : σ → ε} (holds : ∀ state, before state → failed (cause state) state) :
    Ensures before (do MonadExcept.throw (cause (← get)) : EStateM ε σ α) done failed :=
  holds

theorem bind (first : Ensures before action between failed)
    (second : ∀ value, Ensures (between value) (next value) ended failed) :
    Ensures before (action >>= next) ended failed := by
  intro state holds
  have reached := first state holds
  simp only [Bind.bind, EStateM.bind]
  cases outcome : action state with
  | ok value after =>
      rw [outcome] at reached
      exact second value after reached
  | error cause after =>
      rw [outcome] at reached
      exact reached

theorem of_stronger (ensures : Ensures before action done failed)
    (stronger : ∀ state, other state → before state) : Ensures other action done failed :=
  fun state holds => ensures state (stronger state holds)

end Ensures

end Ensures

/-! ## The parts of the generator -/

namespace Generator

variable {σ α : Type} [Sink σ] {origin : Logged σ} {ready : Lexer → Prop}
variable {failed : Error → Lexer → Prop}

/-- Since the origin the sink took everything, and this is known of the lexer. -/
def Sound (origin : Logged σ) (known : Lexer → Prop) (generator : Generator σ) : Prop :=
  Sink.Accepted origin generator.output ∧ known generator.lexer

/-- Generation gave up: the sink answered with the error, or generation failed by itself, and the
sink took everything. -/
def GaveUp (origin : Logged σ) (ready : Lexer → Prop) (failed : Error → Lexer → Prop)
    (cause : Error) (generator : Generator σ) : Prop :=
  Sink.Answered origin cause generator.output ∧ ready generator.lexer ∨
    Sink.Accepted origin generator.output ∧ failed cause generator.lexer

theorem ensures_onLexer {before : Lexer → Prop} {action : EStateM ScanError Lexer α}
    {done : α → Lexer → Prop}
    (ensures : Ensures before action done fun cause => failed (.scan cause)) :
    Ensures (Sound origin before) (onLexer action) (fun value => Sound origin (done value))
      (GaveUp origin ready failed) := by
  rintro generator ⟨accepted, holds⟩
  have reached := ensures generator.lexer holds
  simp only [onLexer]
  cases outcome : action generator.lexer with
  | ok value after =>
      rw [outcome] at reached
      exact ⟨accepted, reached⟩
  | error cause after =>
      rw [outcome] at reached
      exact .inr ⟨accepted, reached⟩

/-- The token that was looked at is held. -/
theorem ensures_peek {known : Lexer → Prop}
    (ensures : Ensures known Lexer.peek (fun _ => known) fun cause => failed (.scan cause)) :
    Ensures (Sound origin known) peek
      (fun token => Sound origin fun lexer => known lexer ∧ lexer.lookahead = some token)
      (GaveUp origin ready failed) := by
  apply @ensures_onLexer _ _ _ _ _ _ known _ fun token lexer =>
    known lexer ∧ lexer.lookahead = some token
  intro lexer holds
  have reached := ensures lexer holds
  cases peeked : Lexer.peek lexer with
  | ok token after =>
      rw [peeked] at reached
      exact ⟨reached, (Lexer.peek_ok peeked).1⟩
  | error cause after =>
      rw [peeked] at reached
      exact reached

/-- What each step ensures, a run does. -/
theorem ensures_resume {known : Progress → Lexer → Prop} {done : Lexer → Prop}
    (steps : ∀ progress, Ensures (Sound origin (known progress)) (step progress)
      (fun next => Sound origin (next.elim done known)) (GaveUp origin ready failed))
    (progress : Progress) :
    Ensures (Sound origin (known progress)) (resume progress) (fun _ => Sound origin done)
      (GaveUp origin ready failed) := by
  intro generator holds
  fun_induction resume progress generator with
  | case1 progress generator next after stepped ih =>
      have reached := steps progress generator holds
      rw [stepped] at reached
      exact ih reached
  | case2 progress generator after stepped =>
      have reached := steps progress generator holds
      rw [stepped] at reached
      exact reached
  | case3 progress generator cause after stepped =>
      have reached := steps progress generator holds
      rw [stepped] at reached
      exact reached

end Generator

/-! ## Contracts with the lexer -/

/-- Whether a symbol is written as a single sign. -/
def Symbol.IsSign : Symbol → Prop
  | plus | times | semicolon => True
  | number _ | endOfInput => False

/-- What is known of the lexer along a run of the generator: `ready` at any time, `fresh` once a
token was consumed, and `failed` where generation fails by itself.  The end of the text is never
consumed. -/
structure LexerContract (ready fresh : Lexer → Prop) (failed : Error → Lexer → Prop) : Prop where
  ready_of_fresh : ∀ lexer, fresh lexer → ready lexer
  peek : Ensures ready Lexer.peek (fun _ => ready) fun cause => failed (.scan cause)
  peek_fresh : Ensures fresh Lexer.peek (fun _ => fresh) fun cause => failed (.scan cause)
  advance : ∀ token : Token, token.symbol ≠ .endOfInput →
    Ensures (fun lexer => ready lexer ∧ lexer.lookahead = some token) Lexer.advance
      (fun _ => fresh) fun cause => failed (.scan cause)
  pool : ∀ cause lexer, ready lexer → failed (.pool cause) lexer
  unexpectedEnd : ∀ token lexer, ready lexer → lexer.lookahead = some token →
    token.symbol = .endOfInput → failed (.grammar (.unexpectedEnd token.offset)) lexer
  expectedNumber : ∀ token lexer, ready lexer → lexer.lookahead = some token →
    token.symbol.IsSign → failed (.grammar (.expectedNumber token.offset lexer.lexeme)) lexer
  expectedTerminator : ∀ token lexer, fresh lexer → lexer.lookahead = some token →
    failed (.grammar (.expectedTerminator lexer.offset lexer.lexeme)) lexer

namespace LexerContract

variable {σ α : Type} [Sink σ] {origin : Logged σ}
variable {ready fresh known : Lexer → Prop} {failed : Error → Lexer → Prop}

theorem acquire (contract : LexerContract ready fresh failed)
    (enough : ∀ lexer, known lexer → ready lexer) :
    Ensures (Generator.Sound origin known) Generator.acquire
      (fun _ => Generator.Sound origin known) (Generator.GaveUp origin ready failed) := by
  rintro generator ⟨accepted, holds⟩
  simp only [Generator.acquire, Generator.onPool, Logged.acquire]
  cases Pool.acquire generator.pool with
  | ok register pool => exact ⟨accepted.trans (.of_silent _ _ rfl), holds⟩
  | error cause pool => exact .inr ⟨accepted, contract.pool cause generator.lexer (enough _ holds)⟩

theorem release (contract : LexerContract ready fresh failed)
    (enough : ∀ lexer, known lexer → ready lexer) (register : Register) :
    Ensures (Generator.Sound origin known) (Generator.release register)
      (fun _ => Generator.Sound origin known) (Generator.GaveUp origin ready failed) := by
  rintro generator ⟨accepted, holds⟩
  simp only [Generator.release, Generator.onPool, Logged.release]
  cases Pool.release register generator.pool with
  | ok value pool => exact ⟨accepted.trans (.of_silent _ _ rfl), holds⟩
  | error cause pool => exact .inr ⟨accepted, contract.pool cause generator.lexer (enough _ holds)⟩

theorem emit (enough : ∀ lexer, known lexer → ready lexer) (instr : Instr) :
    Ensures (Generator.Sound origin known) (Generator.emit instr)
      (fun _ => Generator.Sound origin known) (Generator.GaveUp origin ready failed) := by
  rintro generator ⟨accepted, holds⟩
  simp only [Generator.emit, Generator.record, Generator.toSink, bind, EStateM.bind]
  cases emitted : Sink.emit instr generator.sink with
  | ok value sink => exact ⟨accepted.trans (.of_emit _ emitted), holds⟩
  | error cause sink => exact .inl ⟨accepted.answered (.of_emit _ emitted), enough _ holds⟩

/-- A token that is still held is consumed, unless it is the end of the text. -/
theorem consume (contract : LexerContract ready fresh failed)
    (enough : ∀ lexer, known lexer → ready lexer) (symbol : Symbol)
    (inside : symbol ≠ .endOfInput) {offset length : Nat} :
    Ensures
      (Generator.Sound origin fun lexer =>
        known lexer ∧ lexer.lookahead = some ⟨symbol, offset, length⟩)
      Generator.advance (fun _ => Generator.Sound origin fresh)
      (Generator.GaveUp origin ready failed) :=
  (Generator.ensures_onLexer (contract.advance ⟨symbol, offset, length⟩ inside)).of_stronger
    fun generator holds => ⟨holds.1, enough generator.lexer holds.2.1, holds.2.2⟩

theorem absorb (contract : LexerContract ready fresh failed)
    (enough : ∀ lexer, known lexer → ready lexer) (operator : Operator)
    (waiting : Option Register) (value : Register) :
    Ensures (Generator.Sound origin known) (Generator.absorb operator waiting value)
      (fun _ => Generator.Sound origin known) (Generator.GaveUp origin ready failed) := by
  cases waiting with
  | none => exact .pure fun _ => id
  | some left =>
      apply (emit enough _).bind
      intro _
      apply (contract.release enough _).bind
      intro _
      exact .pure fun _ => id

theorem load (contract : LexerContract ready fresh failed) :
    Ensures (Generator.Sound origin ready) Generator.load
      (fun _ => Generator.Sound origin fresh) (Generator.GaveUp origin ready failed) := by
  have enough : ∀ token lexer, ready lexer ∧ lexer.lookahead = some token → ready lexer :=
    fun _ _ => And.left
  apply (Generator.ensures_peek contract.peek).bind
  rintro ⟨symbol, offset, length⟩
  cases symbol with
  | number literal =>
      apply (contract.acquire (enough _)).bind
      intro register
      apply (emit (enough _) _).bind
      intro _
      apply (contract.consume (fun _ => id) (.number literal) nofun).bind
      intro _
      exact .pure fun _ => id
  | endOfInput =>
      apply Ensures.throw
      rintro generator ⟨accepted, known, held⟩
      exact .inr ⟨accepted, contract.unexpectedEnd _ _ known held rfl⟩
  | plus | times | semicolon =>
      apply Ensures.get_throw
      rintro generator ⟨accepted, known, held⟩
      exact .inr ⟨accepted, contract.expectedNumber _ _ known held trivial⟩

theorem readOperand (contract : LexerContract ready fresh failed) (held : Held) :
    Ensures (Generator.Sound origin ready) (Generator.readOperand held)
      (fun _ => Generator.Sound origin fresh) (Generator.GaveUp origin ready failed) := by
  apply contract.load.bind
  intro number
  apply (contract.absorb contract.ready_of_fresh _ _ _).bind
  intro product
  exact .pure fun _ => id

theorem readOperator (contract : LexerContract ready fresh failed) (sum : Option Register)
    (product : Register) :
    Ensures (Generator.Sound origin fresh) (Generator.readOperator sum product)
      (fun _ => Generator.Sound origin fresh) (Generator.GaveUp origin ready failed) := by
  -- The token stays held until it is consumed, or until the error quotes it.
  have enough : ∀ token lexer, fresh lexer ∧ lexer.lookahead = some token → ready lexer :=
    fun token lexer known => contract.ready_of_fresh lexer known.1
  apply (Generator.ensures_peek contract.peek_fresh).bind
  rintro ⟨symbol, offset, length⟩
  cases symbol with
  | times =>
      apply (contract.consume contract.ready_of_fresh .times nofun).bind
      intro _
      exact .pure fun _ => id
  | plus =>
      apply (contract.absorb (enough _) _ _ _).bind
      intro total
      apply (contract.consume contract.ready_of_fresh .plus nofun).bind
      intro _
      exact .pure fun _ => id
  | semicolon =>
      apply (contract.absorb (enough _) _ _ _).bind
      intro total
      apply (contract.release (enough _) _).bind
      intro _
      apply (contract.consume contract.ready_of_fresh .semicolon nofun).bind
      intro _
      exact .pure fun _ => id
  | number | endOfInput =>
      apply (contract.absorb (enough _) _ _ _).bind
      intro total
      apply (contract.release (enough _) _).bind
      intro _
      apply Ensures.get_throw
      rintro generator ⟨accepted, known, held⟩
      exact .inr ⟨accepted, contract.expectedTerminator _ _ known held⟩

/-- What is known of the lexer when so much of a statement was read. -/
def along (ready fresh : Lexer → Prop) : Progress → Lexer → Prop
  | .operator _ _ => fresh
  | .boundary | .operand _ => ready

theorem along_of_fresh (contract : LexerContract ready fresh failed) (progress : Progress)
    {lexer : Lexer} (known : fresh lexer) : along ready fresh progress lexer := by
  cases progress with
  | operator sum product => exact known
  | boundary | operand held => exact contract.ready_of_fresh lexer known

theorem step (contract : LexerContract ready fresh failed) (progress : Progress) :
    Ensures (Generator.Sound origin (along ready fresh progress)) (Generator.step progress)
      (fun next => Generator.Sound origin (next.elim ready (along ready fresh)))
      (Generator.GaveUp origin ready failed) := by
  have goOn : ∀ next : Progress, Ensures (Generator.Sound origin fresh)
      (pure (some next) : Generation σ (Option Progress))
      (fun next => Generator.Sound origin (next.elim ready (along ready fresh)))
      (Generator.GaveUp origin ready failed) :=
    fun next => .pure fun _ holds => ⟨holds.1, contract.along_of_fresh next holds.2⟩
  cases progress with
  | boundary =>
      apply (Generator.ensures_peek contract.peek).bind
      rintro ⟨symbol, offset, length⟩
      cases symbol with
      | endOfInput =>
          rintro generator ⟨accepted, known, -⟩
          exact ⟨accepted.trans (.of_silent _ _ rfl), known⟩
      | plus | times | semicolon | number =>
          have begun := (contract.readOperand .none).bind goOn
          exact begun.of_stronger fun _ holds => ⟨holds.1, holds.2.1⟩
  | operand held => exact (contract.readOperand held).bind goOn
  | operator sum product => exact (contract.readOperator sum product).bind goOn

/-- A contract with the lexer is kept by every call of the generator, up to the point where the sink
refuses an instruction. -/
theorem statements (contract : LexerContract ready fresh failed) :
    Ensures (Generator.Sound origin ready) Generator.statements
      (fun _ => Generator.Sound origin ready) (Generator.GaveUp origin ready failed) :=
  Generator.ensures_resume contract.step .boundary

/-- What looking ahead and consuming a token keep, all of generation does. -/
theorem of_kept {kept : Lexer → Prop}
    (peek : Ensures kept Lexer.peek (fun _ => kept) fun _ => kept)
    (advance : ∀ token : Token, token.symbol ≠ .endOfInput →
      Ensures (fun lexer => kept lexer ∧ lexer.lookahead = some token) Lexer.advance
        (fun _ => kept) fun _ => kept) :
    LexerContract kept kept fun _ => kept where
  ready_of_fresh _ := id
  peek := peek
  peek_fresh := peek
  advance := advance
  pool _ _ := id
  unexpectedEnd _ _ known _ _ := known
  expectedNumber _ _ known _ _ := known
  expectedTerminator _ _ known _ := known

end LexerContract

end ThreeAddress
