import ThreeAddress.Generator.Descent
import ThreeAddress.Proofs.Simulation

/-!
# Nested loops and single steps

Code generation by recursive descent and code generation by steps are the same computation.  A step
leaves off in the middle of the nested loops, and what was read of a statement says where.  So the
rest of the loops can be written down for every such place, and a step turns one of these rests into
the next.
-/

namespace ThreeAddress.Generator

variable {σ α β : Type}

/-! ## Looking at the next token again -/

section Lookahead

variable {before after : Generator σ} {token : Token} {cause : Error} {kind : Symbol.Kind}

theorem comesNext_of_peek (peeked : peek before = .ok token after) :
    comesNext kind before = .ok (token.symbol.kind == kind) after := by
  simp only [peek, onLexer] at peeked
  simp only [comesNext, onLexer, Lexer.comesNext, bind, EStateM.bind]
  cases looked : Lexer.peek before.lexer with
  | error cause lexer => simp [looked] at peeked
  | ok found lexer =>
      rw [looked] at peeked
      cases peeked
      rfl

theorem comesNext_of_peek_error (failed : peek before = .error cause after) :
    comesNext kind before = .error cause after := by
  simp only [peek, onLexer] at failed
  simp only [comesNext, onLexer, Lexer.comesNext, bind, EStateM.bind]
  cases looked : Lexer.peek before.lexer with
  | error cause lexer =>
      rw [looked] at failed
      cases failed
      rfl
  | ok found lexer => simp [looked] at failed

/-- Computations with the same outcome can be followed by the same. -/
theorem bind_of_eq {first other : Generation σ α} {next : α → Generation σ β}
    (same : first before = other after) :
    (first >>= next) before = (other >>= next) after := by
  simp only [bind, EStateM.bind, same]

/-- What follows a computation may rely on the lexer that the computation kept. -/
theorem KeepsLexer.bind_congr {action : Generation σ α} (keeps : KeepsLexer action)
    {first second : α → Generation σ β}
    (same : ∀ value after, after.lexer = before.lexer → first value after = second value after) :
    (action >>= first) before = (action >>= second) before := by
  cases ran : action before with
  | error cause after => rw [bind_of_error ran, bind_of_error ran]
  | ok value after =>
      rw [bind_of_ok ran, bind_of_ok ran]
      exact same value after (keeps _ _ _ ran)

end Lookahead

namespace Descent

/-! ## Loops, one round at a time -/

/-- All that a loop does, without the reason why it ends. -/
theorem repeatWhile_eq (condition : Generation σ Bool) (body : Generation σ Unit)
    (consumes : Consumes condition body) (before : Generator σ) :
    repeatWhile condition body consumes before =
      (do if ← condition then (do body; repeatWhile condition body consumes)) before := by
  fun_cases repeatWhile condition body consumes before with
  | case1 next holds value after ran => simp only [bind, EStateM.bind, holds, if_true, ran]
  | case2 next holds cause after ran => simp only [bind, EStateM.bind, holds, if_true, ran]
  | case3 after holds =>
      rw [bind_of_ok holds]
      rfl
  | case4 cause after failed => rw [bind_of_error failed]

variable {before after : Generator σ} {token : Token} {cause : Error}

theorem terminate_of_semicolon (peeked : peek before = .ok token after)
    (semicolon : (token.symbol.kind == .semicolon) = true) : terminate before = advance after := by
  rw [terminate, bind_of_ok (comesNext_of_peek peeked), semicolon]
  rfl

theorem terminate_of_other (peeked : peek before = .ok token after)
    (other : (token.symbol.kind == .semicolon) = false) :
    terminate before =
      .error (.grammar (.expectedTerminator after.lexer.offset after.lexer.lexeme)) after := by
  rw [terminate, bind_of_ok (comesNext_of_peek peeked), other]
  rfl

theorem goesOn_of_peek (peeked : peek before = .ok token after) :
    goesOn before = .ok (!(token.symbol.kind == .endOfInput)) after := by
  rw [goesOn, bind_of_ok (comesNext_of_peek peeked)]
  rfl

theorem goesOn_of_peek_error (failed : peek before = .error cause after) :
    goesOn before = .error cause after := by
  rw [goesOn, bind_of_error (comesNext_of_peek_error failed)]

variable [Sink σ]

section Folds

variable (operator : Operator) {operand : Part σ} {left : Register}

theorem foldOperands_of_peek_error (failed : peek before = .error cause after) :
    foldOperands operator operand left before = .error cause after := by
  rw [foldOperands, repeatWhile_eq, bind_of_error (comesNext_of_peek_error failed)]

/-- Behind the sign of the operator, another operand is read. -/
theorem foldOperands_of_sign (peeked : peek before = .ok token after)
    (sign : (token.symbol.kind == operator.kind) = true) :
    foldOperands operator operand left before =
      (do advance
          let right ← operand.read
          emit (.operate left left operator right)
          release right
          foldOperands operator operand left) after := by
  rw [foldOperands, repeatWhile_eq, bind_of_ok (comesNext_of_peek peeked), sign]
  simp only [foldOperand, bind_assoc, if_true]

theorem foldOperands_of_other (peeked : peek before = .ok token after)
    (other : (token.symbol.kind == operator.kind) = false) :
    foldOperands operator operand left before = .ok () after := by
  rw [foldOperands, repeatWhile_eq, bind_of_ok (comesNext_of_peek peeked), other]
  rfl

end Folds

/-! ## The list of statements -/

theorem statements_of_peek_error (failed : peek before = .error cause after) :
    statements before = .error cause after := by
  rw [statements]
  apply bind_of_error
  rw [repeatWhile_eq, bind_of_error (goesOn_of_peek_error failed)]

theorem statements_of_end (peeked : peek before = .ok token after)
    (last : (token.symbol.kind == .endOfInput) = true) :
    statements before = record (.compiled after.pool.stats) after := by
  have ended : repeatWhile goesOn statement consumes_statement before = .ok () after := by
    rw [repeatWhile_eq, bind_of_ok (goesOn_of_peek peeked), last]
    rfl
  rw [statements, bind_of_ok ended]
  rfl

theorem statements_of_inside (peeked : peek before = .ok token after)
    (inside : (token.symbol.kind == .endOfInput) = false) :
    statements before = (do statement; statements) after := by
  have entered : repeatWhile goesOn statement consumes_statement before =
      (do statement; repeatWhile goesOn statement consumes_statement) after := by
    rw [repeatWhile_eq, bind_of_ok (goesOn_of_peek peeked), inside]
    rfl
  rw [statements, bind_of_eq entered, bind_assoc]

/-! ## The rest of the loops -/

/-- What is left to do behind a product, if a sum may wait for it. -/
def finish (waiting : Option Register) (product : Register) : Generation σ Unit := do
  foldOperands .multiply number product
  let total ← absorb .add waiting product
  foldOperands .add factor total
  release total
  terminate
  statements

/-- What is left to do when so much of a statement was read. -/
def rest : Progress → Generation σ Unit
  | .boundary => statements
  | .operand held => do
      let value ← load
      let product ← absorb .multiply held.product value
      finish held.sum product
  | .operator waiting product => finish waiting product

/-- What is left to do after a step. -/
def restAfter : Option Progress → Generation σ Unit
  | some next => rest next
  | none => return ()

theorem rest_operand (held : Held) :
    (rest (.operand held) : Generation σ Unit) = step (.operand held) >>= restAfter := by
  simp only [rest, step, readOperand, restAfter, bind_assoc, pure_bind]

theorem rest_boundary (before : Generator σ) :
    rest .boundary before = (step .boundary >>= restAfter) before := by
  simp only [rest, step, bind_assoc]
  cases peeked : peek before with
  | error cause after =>
      rw [statements_of_peek_error peeked, bind_of_error peeked]
  | ok token after =>
      rw [bind_of_ok peeked]
      obtain ⟨symbol, offset, length⟩ := token
      cases symbol with
      | endOfInput =>
          rw [statements_of_end peeked rfl]
          rfl
      | plus | times | semicolon | number =>
          rw [statements_of_inside peeked rfl]
          simp only [statement, sum, factor, number, chain, readOperand, Held.none, restAfter, rest,
            finish, absorb, bind_assoc, pure_bind]

/-- Where no sign stands behind a product, both loops end.  They leave the lexer alone, so the token
still comes next. -/
theorem finish_of_no_sign (peeked : peek before = .ok token after)
    (notTimes : (token.symbol.kind == .times) = false)
    (notPlus : (token.symbol.kind == .plus) = false)
    {next : Generation σ Unit}
    (same : ∀ last, peek last = .ok token last → (do terminate; statements) last = next last)
    (waiting : Option Register) (product : Register) :
    finish waiting product before =
      (do let total ← absorb .add waiting product
          release total
          next) after := by
  have held := (peek_ok peeked).1
  rw [finish, bind_of_ok (foldOperands_of_other .multiply peeked notTimes)]
  apply (keepsLexer_absorb _ _ _).bind_congr
  intro total absorbed kept
  have looked := peek_of_held (kept ▸ held)
  rw [bind_of_ok (foldOperands_of_other .add looked notPlus)]
  apply (keepsLexer_onPool _).bind_congr
  intro _ released still
  exact same released (peek_of_held (still ▸ kept ▸ held))

theorem rest_operator (waiting : Option Register) (product : Register) (before : Generator σ) :
    rest (.operator waiting product) before =
      (step (.operator waiting product) >>= restAfter) before := by
  simp only [rest, step, readOperator, bind_assoc, pure_bind]
  cases peeked : peek before with
  | error cause after =>
      rw [finish, bind_of_error (foldOperands_of_peek_error .multiply peeked), bind_of_error peeked]
  | ok token after =>
      rw [bind_of_ok peeked]
      obtain ⟨symbol, offset, length⟩ := token
      cases symbol with
      | times =>
          rw [finish, bind_of_eq (foldOperands_of_sign .multiply peeked rfl)]
          simp only [number, restAfter, rest, finish, absorb, bind_assoc, pure_bind]
      | plus =>
          -- The product ends here, and the loop of the sum looks at the same token once more.
          rw [finish, bind_of_ok (foldOperands_of_other .multiply peeked rfl)]
          simp only [bind_assoc]
          apply (keepsLexer_absorb _ _ _).bind_congr
          intro total absorbed kept
          have looked := peek_of_held (kept ▸ (peek_ok peeked).1)
          rw [bind_of_eq (foldOperands_of_sign .add looked rfl)]
          simp only [factor, chain, number, restAfter, rest, finish, absorb, bind_assoc, pure_bind]
      | semicolon =>
          simp only [bind_assoc]
          apply finish_of_no_sign peeked rfl rfl
          intro last looked
          rw [bind_of_eq (terminate_of_semicolon looked rfl)]
          simp only [restAfter, rest, pure_bind]
      | number | endOfInput =>
          simp only [bind_assoc]
          apply finish_of_no_sign peeked rfl rfl
          intro last looked
          rw [bind_of_error (terminate_of_other looked rfl)]
          rfl

/-- A step goes from one place in the loops to another. -/
theorem rest_eq (progress : Progress) (before : Generator σ) :
    rest progress before = (step progress >>= restAfter) before := by
  cases progress with
  | boundary => exact rest_boundary before
  | operand held => rw [rest_operand held]
  | operator waiting product => exact rest_operator waiting product before

/-- Steps from a place in the loops run the rest of the loops. -/
theorem resume_eq_rest (progress : Progress) (before : Generator σ) :
    resume progress before = rest progress before := by
  fun_induction resume progress before with
  | case1 progress before next after stepped ih =>
      rw [rest_eq, bind_of_ok stepped, ih]
      rfl
  | case2 progress before after stepped =>
      rw [rest_eq, bind_of_ok stepped]
      rfl
  | case3 progress before cause after stepped => rw [rest_eq, bind_of_error stepped]

end Descent

/-- Code generation by steps is code generation by recursive descent. -/
theorem statements_eq_descent [Sink σ] :
    (statements : Generation σ Unit) = Descent.statements := by
  funext before
  exact Descent.resume_eq_rest .boundary before

end ThreeAddress.Generator
