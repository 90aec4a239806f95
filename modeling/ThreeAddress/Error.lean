import ThreeAddress.Instr.Record
import ThreeAddress.Pool
import ThreeAddress.Token.Cursor

/-!
# Errors

Everything that can go wrong, by cause. The wording of each error is a function of its
cause.
-/

namespace ThreeAddress

/-- Why bytes cannot be written. -/
inductive WriteError where
  /-- There is no room for all of them. -/
  | full
deriving DecidableEq

/-- The wording of the error. -/
def WriteError.message : WriteError → String
  | full => "failed to write whole buffer"

/-- Why a sequence of tokens is not a sequence of statements. -/
inductive GrammarError where
  /-- A number has to come next, and something else does. -/
  | expectedNumber (offset : Nat) (lexeme : String)
  /-- The statement has to end, and something else comes next. -/
  | expectedTerminator (offset : Nat) (lexeme : String)
  /-- A number has to come next, and the text ends. -/
  | unexpectedEnd (offset : Nat)
deriving DecidableEq

/-- The wording of the error. -/
def GrammarError.message : GrammarError → String
  | expectedNumber offset lexeme =>
      "number expected at " ++ toString offset ++ ", found '" ++ lexeme ++ "'"
  | expectedTerminator offset lexeme =>
      "';' expected at " ++ toString offset ++ ", found '" ++ lexeme ++ "'"
  | unexpectedEnd offset => "unexpected end of input at " ++ toString offset

/-- Why a number of registers is refused. -/
inductive UsageError where
  /-- The number is not one that registers can be named with. -/
  | registerCount (count : Nat)
  /-- The text is not a number. -/
  | notACount (text : String)
deriving DecidableEq

/-- The wording of the error. -/
def UsageError.message : UsageError → String
  | registerCount count =>
      "number of registers must be between 1 and " ++ toString Register.maxCount ++ ", got " ++
        toString count
  | notACount text => "invalid number of registers: " ++ text

/-- Why a source cannot be compiled or a text cannot be run. -/
inductive Error where
  | write (cause : WriteError)
  | usage (cause : UsageError)
  | scan (cause : ScanError)
  | grammar (cause : GrammarError)
  | pool (cause : PoolError)
  | record (cause : RecordError)
deriving DecidableEq

/-- The wording of the error. -/
def Error.message : Error → String
  | write cause => cause.message
  | usage cause => cause.message
  | scan cause => cause.message
  | grammar cause => cause.message
  | pool cause => cause.message
  | record cause => cause.message

end ThreeAddress
