import ThreeAddress.Instr.Basic
import ThreeAddress.Text.Letter
import ThreeAddress.Text.Split

/-!
# Records

A record is an instruction written on one line, its parts separated by blanks. Reading a
record is more liberal than writing one: any blanks will do, and any letter may stand
for the `t` of a register.
-/

namespace ThreeAddress

/-- Why a record cannot be executed. -/
inductive RecordError where
  /-- The line is no instruction. -/
  | malformed (line : String)
  /-- The line is an operation with an unknown sign. -/
  | unsupportedOperator (operator line : String)
  /-- The machine has no such register. -/
  | registerOutOfRange (register : Register) (line : String)
deriving DecidableEq

/-- The wording of the error. -/
def RecordError.message : RecordError → String
  | malformed line => "malformed instruction: " ++ line
  | unsupportedOperator operator line => "unsupported operator " ++ operator ++ " in: " ++ line
  | registerOutOfRange register line => "register " ++ register.text ++ " out of range in: " ++ line

namespace Register

/-- Read a register name at the start of a text, and what follows it: one letter, whichever it
is, and one digit. -/
def scan? : List Char → Option (Register × List Char)
  | letter :: digit :: rest =>
      if Text.isLetter letter && digit.isDigit then some (⟨digit.toNat - '0'.toNat⟩, rest) else none
  | _ => none

/-- Read a text that is a register name and nothing else. -/
def ofText? (text : List Char) : Option Register :=
  match scan? text with
  | some (register, []) => some register
  | _ => none

end Register

namespace Instr

/-- The instruction of the fields of a line. The registers of an operation are read before its
sign. -/
def ofFields (line : String) : List (List Char) → Except RecordError Instr
  | [target, equals, value] =>
      match Register.ofText? target, Literal.ofText? value with
      | some target, some literal =>
          if equals = ['='] then .ok (load target literal) else .error (.malformed line)
      | _, _ => .error (.malformed line)
  | [target, equals, left, sign, right] =>
      match Register.ofText? target, Register.ofText? left, Register.ofText? right with
      | some target, some left, some right =>
          if equals = ['='] then
            match Operator.ofText? sign with
            | some operator => .ok (operate target left operator right)
            | none => .error (.unsupportedOperator (String.ofList sign) line)
          else .error (.malformed line)
      | _, _, _ => .error (.malformed line)
  | _ => .error (.malformed line)

/-- Read a record. -/
def decode (line : String) : Except RecordError Instr :=
  ofFields line (Text.fields line.toList)

end Instr

end ThreeAddress
