import ThreeAddress.CommandLine.Report

/-!
# The program

Prints what the command line answers and writes the log to the standard error stream. The
environment may hold log directives.
-/

open ThreeAddress.CommandLine in
/-- Run the program with its arguments. -/
def main (arguments : List String) : IO UInt32 := do
  let directives := ((← IO.getEnv "RUST_LOG").map LogFilter.ofText).getD []
  let report := respond (.ofArguments arguments) directives
  for event in report.log do
    IO.eprintln ("[" ++ event.level.name ++ " " ++ event.area ++ "] " ++ event.message)
  IO.print report.output
  return report.status.toUInt32
