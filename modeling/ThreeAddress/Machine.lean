import ThreeAddress.Instr.Record
import ThreeAddress.Logged

/-!
# The register machine

A machine has a fixed number of registers and executes records one after the other. A
record that cannot be executed changes nothing and ends the run.
-/

namespace ThreeAddress

/-- The contents of the registers. -/
structure Machine (V : Type) where
  registers : Array V
deriving DecidableEq

namespace Machine

variable {V : Type}

/-- The contents of a register. The line is what an error quotes. -/
def get (register : Register) (line : String) : EStateM RecordError (Machine V) V := fun machine =>
  match machine.registers[register.index]? with
  | some value => .ok value machine
  | none => .error (.registerOutOfRange register line) machine

/-- Change the contents of a register. The line is what an error quotes. -/
def set (register : Register) (value : V) (line : String) :
    EStateM RecordError (Machine V) Unit := fun machine =>
  if register.index < machine.registers.size then
    .ok () ⟨machine.registers.setIfInBounds register.index value⟩
  else
    .error (.registerOutOfRange register line) machine

variable [Arithmetic V]

/-- A machine whose registers are all zero. -/
def ofSize (size : Nat) : Machine V :=
  ⟨Array.replicate size Arithmetic.zero⟩

/-- Execute one instruction. The line is what an error quotes. -/
def exec (instr : Instr) (line : String) : EStateM RecordError (Machine V) Unit :=
  match instr with
  | .load target literal => set target (Arithmetic.ofLiteral literal) line
  | .operate target left operator right => do
      let m ← get left line
      let n ← get right line
      set target (operator.apply m n) line

/-- Read a record and execute it. -/
def execLine (line : String) : EStateM RecordError (Logged (Machine V)) Unit := fun logged =>
  match Instr.decode line with
  | .error cause => .error cause logged
  | .ok instr =>
      match exec instr line logged.state with
      | .ok _ machine =>
          .ok () ⟨machine,
            logged.events.push (.executed line (machine.registers.toList.map Arithmetic.text))⟩
      | .error cause machine => .error cause ⟨machine, logged.events⟩

/-- The records of a text. -/
def records (text : String) : List String :=
  (Text.lines text.toList).map String.ofList

/-- Execute every record of a text in order, and answer with the result register. -/
def run (text : String) : EStateM RecordError (Logged (Machine V)) V := fun logged =>
  match (records text).forM execLine logged with
  | .ok _ after =>
      match get .result "" after.state with
      | .ok value machine => .ok value ⟨machine, after.events⟩
      | .error cause machine => .error cause ⟨machine, after.events⟩
  | .error cause after => .error cause after

end Machine

end ThreeAddress
