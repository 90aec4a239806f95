import ThreeAddress.Generator.Consumption

/-!
# Code generation by recursive descent

The grammar has a rule for statements, one for sums and one for products, and each of them is a
loop. Here code generation has one function for each rule, and the loops are nested. Nothing is
remembered between two tokens but the place in the code. A loop ends because every round of it
consumes a token.
-/

namespace ThreeAddress

/-- The kind of the sign that stands between the operands. -/
def Operator.kind : Operator → Symbol.Kind
  | add => .plus
  | multiply => .times

theorem Operator.kind_ne_endOfInput (operator : Operator) : operator.kind ≠ .endOfInput := by
  cases operator with
  | add => decide
  | multiply => decide

namespace Generator

variable {σ : Type}

/-- Whether the token that comes next is of the given kind. -/
def comesNext (kind : Symbol.Kind) : Generation σ Bool :=
  onLexer (Lexer.comesNext kind)

/-- The answer is about the token that is held afterwards. -/
theorem comesNext_ok {kind : Symbol.Kind} {before after : Generator σ} {answer : Bool}
    (done : comesNext kind before = .ok answer after) :
    ∃ token, after.lexer.lookahead = some token ∧ answer = (token.symbol.kind == kind) ∧
      after.lexer.pending ≤ before.lexer.pending := by
  have asked := onLexer_ok done
  simp only [Lexer.comesNext, bind, EStateM.bind] at asked
  cases peeked : Lexer.peek before.lexer with
  | error cause lexer => simp [peeked] at asked
  | ok token lexer =>
      rw [peeked] at asked
      cases asked
      obtain ⟨held, notMore⟩ := Lexer.peek_ok peeked
      exact ⟨token, held, rfl, notMore⟩

theorem pending_le_of_comesNext {kind : Symbol.Kind} {before after : Generator σ} {answer : Bool}
    (done : comesNext kind before = .ok answer after) :
    after.lexer.pending ≤ before.lexer.pending := by
  obtain ⟨token, -, -, notMore⟩ := comesNext_ok done
  exact notMore

/-- A token that was looked for is consumed, unless it is the end of the text. -/
theorem pending_lt_of_comesNext {kind : Symbol.Kind} (inside : kind ≠ .endOfInput)
    {before next after : Generator σ} (asked : comesNext kind before = .ok true next)
    (advanced : advance next = .ok () after) : after.lexer.pending < before.lexer.pending := by
  obtain ⟨token, held, found, notMore⟩ := comesNext_ok asked
  have other : token.symbol ≠ .endOfInput := by
    intro last
    rw [last] at found
    exact inside (eq_of_beq found.symm).symm
  exact Nat.lt_of_lt_of_le (pending_lt_of_advance held other advanced) notMore

namespace Descent

/-- Wherever the condition holds, a run of the body consumes a token. -/
def Consumes (condition : Generation σ Bool) (body : Generation σ Unit) : Prop :=
  ∀ before next after, condition before = .ok true next → body next = .ok () after →
    after.lexer.pending < before.lexer.pending

/-- Run the body as long as the condition holds. -/
def repeatWhile (condition : Generation σ Bool) (body : Generation σ Unit)
    (consumes : Consumes condition body) : Generation σ Unit := fun generator =>
  match _holds : condition generator with
  | .ok true next =>
      match _done : body next with
      | .ok _ after => repeatWhile condition body consumes after
      | .error cause after => .error cause after
  | .ok false after => .ok () after
  | .error cause after => .error cause after
termination_by generator => generator.lexer.pending
decreasing_by exact consumes _ _ _ _holds _done

/-- A loop consumes nothing by looking at the tokens. -/
theorem pending_le_of_repeatWhile {condition : Generation σ Bool} {body : Generation σ Unit}
    {consumes : Consumes condition body} {before after : Generator σ}
    (looks : ∀ {before next : Generator σ} {answer : Bool}, condition before = .ok answer next →
      next.lexer.pending ≤ before.lexer.pending)
    (done : repeatWhile condition body consumes before = .ok () after) :
    after.lexer.pending ≤ before.lexer.pending := by
  fun_induction repeatWhile condition body consumes before with
  | case1 before next holds value last ran ih =>
      exact Nat.le_trans (ih done) (Nat.le_of_lt (consumes _ _ _ holds ran))
  | case2 before next holds cause last ran => contradiction
  | case3 before last holds =>
      cases done
      exact looks holds
  | case4 before cause last failed => contradiction

/-- A part of a statement. Reading it consumes it and leaves its value in a register. -/
structure Part (σ : Type) where
  read : Generation σ Register
  consumes : ∀ {before after : Generator σ} {register : Register},
    read before = .ok register after → after.lexer.pending < before.lexer.pending

variable [Sink σ]

/-- Consume a sign, and work the operand behind it into the one on the left. -/
def foldOperand (operator : Operator) (operand : Part σ) (left : Register) :
    Generation σ Unit := do
  advance
  let right ← operand.read
  emit (.operate left left operator right)
  release right

theorem consumes_foldOperand (operator : Operator) (operand : Part σ) (left : Register) :
    Consumes (comesNext operator.kind) (foldOperand operator operand left) := by
  intro before next after asked done
  obtain ⟨_, advanced, doneAdvance, doneRest⟩ := bind_eq_ok_iff.mp done
  obtain ⟨right, loaded, doneRead, doneRest⟩ := bind_eq_ok_iff.mp doneRest
  obtain ⟨_, emitted, doneEmit, doneRelease⟩ := bind_eq_ok_iff.mp doneRest
  have sign := pending_lt_of_comesNext operator.kind_ne_endOfInput asked doneAdvance
  have value := operand.consumes doneRead
  rw [keepsLexer_onPool _ _ _ _ doneRelease, keepsLexer_emit _ _ _ _ doneEmit]
  omega

/-- Work operands into the one on the left, as long as the sign of the operator comes next. -/
def foldOperands (operator : Operator) (operand : Part σ) (left : Register) : Generation σ Unit :=
  repeatWhile (comesNext operator.kind) (foldOperand operator operand left)
    (consumes_foldOperand operator operand left)

/-- Operands with the sign of an operator between them. -/
def chain (operator : Operator) (operand : Part σ) : Part σ where
  read := do
    let left ← operand.read
    foldOperands operator operand left
    return left
  consumes := by
    intro before after register done
    obtain ⟨left, loaded, doneRead, doneRest⟩ := bind_eq_ok_iff.mp done
    obtain ⟨_, folded, doneFold, doneReturn⟩ := bind_eq_ok_iff.mp doneRest
    have value := operand.consumes doneRead
    have others := pending_le_of_repeatWhile pending_le_of_comesNext doneFold
    rw [keepsLexer_pure _ _ _ _ doneReturn]
    omega

/-- A number. -/
def number : Part σ :=
  ⟨load, pending_lt_of_load⟩

/-- A product of numbers. -/
def factor : Part σ :=
  chain .multiply number

/-- A sum of products. -/
def sum : Part σ :=
  chain .add factor

/-- Consume the semicolon at the end of a statement. -/
def terminate : Generation σ Unit := do
  if ← comesNext .semicolon then
    advance
  else
    let generator ← get
    throw (.grammar (.expectedTerminator generator.lexer.offset generator.lexer.lexeme))

/-- Compile a statement and discard its value. -/
def statement : Generation σ Unit := do
  let result ← sum.read
  release result
  terminate

/-- Whether the text goes on. -/
def goesOn : Generation σ Bool := do
  return !(← comesNext .endOfInput)

theorem consumes_statement : Consumes goesOn (statement : Generation σ Unit) := by
  intro before next after asked done
  obtain ⟨answer, asking, doneAsk, doneReturn⟩ := bind_eq_ok_iff.mp asked
  obtain ⟨result, summed, doneSum, doneRest⟩ := bind_eq_ok_iff.mp done
  obtain ⟨_, released, doneRelease, doneRest⟩ := bind_eq_ok_iff.mp doneRest
  obtain ⟨terminated, looked, doneLook, doneEnd⟩ := bind_eq_ok_iff.mp doneRest
  have text := pending_le_of_comesNext doneAsk
  have value := sum.consumes doneSum
  rw [← keepsLexer_pure _ _ _ _ doneReturn] at text
  rw [← keepsLexer_onPool _ _ _ _ doneRelease] at value
  cases terminated with
  | false =>
      obtain ⟨_, _, _, doneThrow⟩ := bind_eq_ok_iff.mp doneEnd
      exact absurd doneThrow throw_ne_ok
  | true =>
      have semicolon := pending_lt_of_comesNext (by decide) doneLook doneEnd
      omega

/-- Compile all statements up to the end of the text. -/
def statements : Generation σ Unit := do
  repeatWhile goesOn statement consumes_statement
  let generator ← get
  record (.compiled generator.pool.stats)

end Descent

end Generator

end ThreeAddress
