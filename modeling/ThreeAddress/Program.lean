import ThreeAddress.Generator.Run
import ThreeAddress.Machine

/-!
# Compiling and running

The whole way from a source to its value: compile statements into a sink or into a text,
run such a text on a fresh machine, or do both. The number of registers is checked first.
-/

namespace ThreeAddress

/-- What a compilation or a run is given besides its text. -/
structure Options where
  /-- The number of registers. -/
  registers : Nat
deriving DecidableEq

namespace Options

/-- What a request is given that asks for nothing in particular. -/
def standard : Options := ⟨Register.defaultCount⟩

/-- Check the number of registers. -/
def validate (options : Options) : Except UsageError Unit :=
  if 1 ≤ options.registers ∧ options.registers ≤ Register.maxCount then .ok ()
  else .error (.registerCount options.registers)

end Options

/-- What became of a request, and what happened on the way. -/
structure Outcome (α : Type) where
  result : Except Error α
  events : Array Event

namespace Outcome

variable {α β : Type}

/-- A request that was refused at once. -/
def refused (cause : Error) : Outcome α :=
  ⟨.error cause, #[]⟩

/-- Go on with a second request if the first succeeded. -/
def andThen (first : Outcome α) (second : α → Outcome β) : Outcome β :=
  match first.result with
  | .ok value =>
      let next := second value
      ⟨next.result, first.events ++ next.events⟩
  | .error cause => ⟨.error cause, first.events⟩

end Outcome

/-- Compile a source into a sink. The sink comes back with all that was emitted, also before an
error. -/
def compileInto {σ : Type} [Sink σ] (source : String) (options : Options) (sink : σ) :
    Outcome Unit × σ :=
  match options.validate with
  | .error cause => (.refused (.usage cause), sink)
  | .ok _ =>
      match Generator.statements (.start source (.ofCapacity options.registers) sink) with
      | .ok _ generator => (⟨.ok (), generator.events⟩, generator.sink)
      | .error cause generator => (⟨.error cause, generator.events⟩, generator.sink)

/-- Compile a source into the text of its instructions. -/
def compile (source : String) (options : Options) : Outcome String :=
  let (outcome, buffer) := compileInto source options Buffer.empty
  outcome.andThen fun _ => ⟨.ok buffer.text, #[]⟩

section Run

variable {V : Type} [Arithmetic V]

/-- Run the text of instructions on a fresh machine of any size. -/
def evaluate (text : String) (registers : Nat) : Outcome V :=
  match Machine.run text (.fresh (.ofSize registers)) with
  | .ok value logged => ⟨.ok value, logged.events⟩
  | .error cause logged => ⟨.error (.record cause), logged.events⟩

/-- Run the text of instructions on a fresh machine. -/
def run (text : String) (options : Options) : Outcome V :=
  match options.validate with
  | .error cause => .refused (.usage cause)
  | .ok _ => evaluate text options.registers

/-- Compile a source and run the instructions. -/
def compileAndRun (source : String) (options : Options) : Outcome V :=
  (compile source options).andThen fun text => run text options

end Run

/-- Results are written without an exponent, and whole numbers without a point. -/
def resultLayout : Decimal.Layout where
  positional _ := true
  whole := ""

end ThreeAddress
