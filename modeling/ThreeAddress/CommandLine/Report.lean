import ThreeAddress.CommandLine.Arguments
import ThreeAddress.CommandLine.LogFilter
import ThreeAddress.Program

/-!
# The command line

What the program prints, its exit status and what it logs, as a function of its arguments
and of the log directives in its environment.
-/

namespace ThreeAddress.CommandLine

/-- What a run of the program leaves behind. -/
structure Report where
  output : String
  status : Nat
  log : List Event
deriving DecidableEq

/-- The text that names the program and its version. -/
def versionText : String :=
  "regcalc 0.1.0\n"

/-- The text that explains the usage. -/
def helpText : String :=
  versionText ++ "
USAGE:
    regcalc [FLAGS] [OPTIONS] [SOURCE]

FLAGS:
    -e, --emit       Print the generated instructions instead of running them
    -h, --help       Prints help information
    -V, --version    Prints version information
    -v, --verbose    Log code generation (-v) and execution (-vv)

OPTIONS:
    -r, --num-registers <REG_LIMIT>    Set the number of registers [default: 10]

ARGS:
    <SOURCE>    Statements to compile, e.g. \"1 + 2 * 3;\" [default: 1 + 2 * 3 + 4;]
"

/-- The text that announces an error. -/
def errorText (cause : Error) : String :=
  "An error occurred.\n" ++ cause.message ++ "\n"

/-- Read a number of registers: digits, perhaps after a plus sign, for a number of 64 bits. -/
def readCount (text : String) : Except UsageError Nat :=
  let digits := match text.toList with
    | '+' :: digits => digits
    | digits => digits
  if digits ≠ [] ∧ digits.all Char.isDigit ∧ ofDigits digits < Nat.pow 2 64 then .ok (ofDigits digits)
  else .error (.notACount text)

/-- Do what is asked for. The events are all those that happened. -/
def execute (settings : Settings) : Report :=
  match readCount settings.registers with
  | .error cause => ⟨errorText (.usage cause), 1, []⟩
  | .ok registers =>
      if settings.emit then
        let (outcome, writer) := compileInto settings.source ⟨registers⟩ (Writer.ofLimit none)
        let lines := writer.text?.getD ""
        match outcome.result with
        | .ok _ => ⟨lines, 0, outcome.events.toList⟩
        | .error cause => ⟨lines ++ errorText cause, 1, outcome.events.toList⟩
      else
        let outcome : Outcome Float := compileAndRun settings.source ⟨registers⟩
        match outcome.result with
        | .ok value => ⟨"Result = " ++ resultLayout.render value ++ "\n", 0, outcome.events.toList⟩
        | .error cause => ⟨errorText cause, 1, outcome.events.toList⟩

/-- Answer a request. The log shows the events that the filter lets through. -/
def respond (request : Request) (directives : LogFilter) : Report :=
  match request with
  | .help => ⟨helpText, 0, []⟩
  | .version => ⟨versionText, 0, []⟩
  | .misuse => ⟨"", 1, []⟩
  | .execute settings =>
      let filter := LogFilter.ofVerbosity settings.verbosity directives
      let report := execute settings
      { report with log := report.log.filter filter.shows }

end ThreeAddress.CommandLine
