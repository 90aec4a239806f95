import ThreeAddress.Lexer
import ThreeAddress.Logged
import ThreeAddress.Sink

/-!
# Code generation, step by step

The generator reads statements, each a sum of products of numbers, and emits an
instruction as soon as it is known. The values of a statement that wait for a right
operand are at most two, the sum and the product read so far, and they stay in registers of
the pool. Each step of the generator reads one token of a statement.
-/

namespace ThreeAddress

/-- The state of code generation. -/
structure Generator (σ : Type) where
  lexer : Lexer
  pool : Pool
  sink : σ
  events : Array Event

/-- A computation of the generator. Its state survives a failure. -/
abbrev Generation (σ α : Type) := EStateM Error (Generator σ) α

/-- The registers whose values wait for a right operand. -/
structure Held where
  /-- The sum of the products before the current one. -/
  sum : Option Register
  /-- The product of the numbers before the current one. -/
  product : Option Register
deriving DecidableEq

namespace Held

/-- Nothing waits. -/
def none : Held := ⟨.none, .none⟩

end Held

/-- How much of a statement has been read. -/
inductive Progress where
  /-- Nothing: a statement may follow, or the end of the text. -/
  | boundary
  /-- It ends in an operator, so a number has to follow. -/
  | operand (held : Held)
  /-- It ends in a number; `value` holds the current product. -/
  | operator (sum : Option Register) (value : Register)
deriving DecidableEq

namespace Generator

variable {σ α : Type}

/-- A generator at the start of a source. -/
def start (source : String) (pool : Pool) (sink : σ) : Generator σ :=
  ⟨Lexer.ofString source, pool, sink, #[]⟩

/-- Ask the lexer. -/
def onLexer (action : EStateM ScanError Lexer α) : Generation σ α := fun generator =>
  match action generator.lexer with
  | .ok value lexer => .ok value { generator with lexer }
  | .error cause lexer => .error (.scan cause) { generator with lexer }

/-- Ask the pool. -/
def onPool (action : EStateM PoolError (Logged Pool) α) : Generation σ α := fun generator =>
  match action ⟨generator.pool, generator.events⟩ with
  | .ok value ⟨pool, events⟩ => .ok value { generator with pool, events }
  | .error cause ⟨pool, events⟩ => .error (.pool cause) { generator with pool, events }

/-- Record an event. -/
def record (event : Event) : Generation σ Unit := fun generator =>
  .ok () { generator with events := generator.events.push event }

/-- Hand an instruction to the sink. What the sink answers is passed on. -/
def toSink [Sink σ] (instr : Instr) : Generation σ Unit := fun generator =>
  match Sink.emit instr generator.sink with
  | .ok _ sink => .ok () { generator with sink }
  | .error cause sink => .error cause { generator with sink }

/-- The token that comes next. -/
def peek : Generation σ Token :=
  onLexer Lexer.peek

/-- Consume the token that comes next. -/
def advance : Generation σ Unit :=
  onLexer Lexer.advance

/-- Take a register. -/
def acquire : Generation σ Register :=
  onPool Logged.acquire

/-- Give back a register. -/
def release (register : Register) : Generation σ Unit :=
  onPool (Logged.release register)

/-- Record an instruction and hand it to the sink. -/
def emit [Sink σ] (instr : Instr) : Generation σ Unit := do
  record (.emitted instr)
  toSink instr

/-- Read a number and load it into a register. If something else comes next, the error gives the
place of that token and the text of the latest scan. -/
def load [Sink σ] : Generation σ Register := do
  let token ← peek
  match token.symbol with
  | .number literal =>
      let register ← acquire
      emit (.load register literal)
      advance
      return register
  | .endOfInput => throw (.grammar (.unexpectedEnd token.offset))
  | _ =>
      let generator ← get
      throw (.grammar (.expectedNumber token.offset generator.lexer.lexeme))

/-- Work a value into the one that waits for it, if there is one. The register that waited then
holds the result, and the other is given back. -/
def absorb [Sink σ] (operator : Operator) (waiting : Option Register) (value : Register) :
    Generation σ Register :=
  match waiting with
  | none => return value
  | some left => do
      emit (.operate left left operator value)
      release value
      return left

/-- Read a number and multiply it into the current product. -/
def readOperand [Sink σ] (held : Held) : Generation σ Progress := do
  let number ← load
  let product ← absorb .multiply held.product number
  return .operator held.sum product

/-- Read what follows a number. Unless it is a factor, the product is added to the sum; unless
it is a summand, the statement is complete. -/
def readOperator [Sink σ] (sum : Option Register) (product : Register) :
    Generation σ Progress := do
  let token ← peek
  match token.symbol with
  | .times =>
      advance
      return .operand ⟨sum, some product⟩
  | .plus =>
      let total ← absorb .add sum product
      advance
      return .operand ⟨some total, none⟩
  | .semicolon =>
      let total ← absorb .add sum product
      release total
      advance
      return .boundary
  | _ =>
      let total ← absorb .add sum product
      release total
      let generator ← get
      throw (.grammar (.expectedTerminator generator.lexer.offset generator.lexer.lexeme))

/-- One step of generation. There is no further step after the end of the text. -/
def step [Sink σ] : Progress → Generation σ (Option Progress)
  | .boundary => do
      let token ← peek
      match token.symbol with
      | .endOfInput =>
          let generator ← get
          record (.compiled generator.pool.stats)
          return none
      | _ => return some (← readOperand .none)
  | .operand held => return some (← readOperand held)
  | .operator sum product => return some (← readOperator sum product)

end Generator

end ThreeAddress
