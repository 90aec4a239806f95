import ThreeAddress.Generator.Consumption

/-!
# Code generation to the end of a text

Generation is a sequence of steps up to the end of the text. It ends because every step
but the last consumes a token. A failed step leaves the lexer, the pool and the sink as they
were at the failure; the next call starts a new statement from there.
-/

namespace ThreeAddress.Generator

variable {σ : Type}

/-- Go on from what has been read of a statement to the end of the text. -/
def resume [Sink σ] (progress : Progress) : Generation σ Unit := fun generator =>
  match _outcome : step progress generator with
  | .ok (some next) after => resume next after
  | .ok none after => .ok () after
  | .error cause after => .error cause after
termination_by generator => generator.lexer.pending
decreasing_by exact pending_lt_of_step _outcome

/-- Compile all statements up to the end of the text. -/
def statements [Sink σ] : Generation σ Unit :=
  resume .boundary

end ThreeAddress.Generator
