import ThreeAddress.Arithmetic

/-!
# Instructions

Three-address instructions over numbered registers: a register receives a literal, or the
sum or product of two registers. Each instruction has one text.
-/

namespace ThreeAddress

/-- A register, by its number. -/
structure Register where
  index : Nat
deriving DecidableEq

namespace Register

/-- How many registers have a name, which is a letter and one digit. -/
def maxCount : Nat := 10

/-- How many registers there are unless another number is asked for. -/
def defaultCount : Nat := 10

/-- The register that holds the value of the latest statement. -/
def result : Register := ⟨0⟩

/-- The name of a register. -/
def text (register : Register) : String :=
  "t" ++ toString register.index

end Register

/-- The operations on two registers. -/
inductive Operator where
  | add
  | multiply
deriving DecidableEq

namespace Operator

/-- The operation on values. -/
def apply {V : Type} [Arithmetic V] : Operator → V → V → V
  | add, left, right => Arithmetic.add left right
  | multiply, left, right => Arithmetic.multiply left right

/-- The sign of the operation. -/
def sign : Operator → Char
  | add => '+'
  | multiply => '*'

/-- The operation with a given sign. -/
def ofText? (text : List Char) : Option Operator :=
  if text = [add.sign] then some add
  else if text = [multiply.sign] then some multiply
  else none

end Operator

/-- An instruction. -/
inductive Instr where
  /-- The target receives a literal. -/
  | load (target : Register) (literal : Literal)
  /-- The target receives the result of an operation on two registers. -/
  | operate (target left : Register) (operator : Operator) (right : Register)
deriving DecidableEq

namespace Instr

/-- The text of an instruction. -/
def text : Instr → String
  | load target literal => target.text ++ " = " ++ literal.text
  | operate target left operator right =>
      target.text ++ " = " ++ left.text ++ " " ++ String.singleton operator.sign ++ " " ++ right.text

/-- The text of an instruction as a line of its own. -/
def line (instr : Instr) : String :=
  instr.text ++ "\n"

end Instr

end ThreeAddress
