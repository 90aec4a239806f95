import ThreeAddress.Arithmetic
import ThreeAddress.CommandLine.Arguments
import ThreeAddress.CommandLine.LogFilter
import ThreeAddress.CommandLine.Report
import ThreeAddress.Decimal.Layout
import ThreeAddress.Decimal.Shortest
import ThreeAddress.Error
import ThreeAddress.Event
import ThreeAddress.Generator.Basic
import ThreeAddress.Generator.Consumption
import ThreeAddress.Generator.Descent
import ThreeAddress.Generator.Run
import ThreeAddress.Instr.Basic
import ThreeAddress.Instr.Record
import ThreeAddress.Lexer
import ThreeAddress.Logged
import ThreeAddress.Machine
import ThreeAddress.Main
import ThreeAddress.Numeral
import ThreeAddress.Pool
import ThreeAddress.Program
import ThreeAddress.Sink
import ThreeAddress.Text.Blank
import ThreeAddress.Text.Bytes
import ThreeAddress.Text.CharClass
import ThreeAddress.Text.Letter
import ThreeAddress.Text.Split
import ThreeAddress.Token.Basic
import ThreeAddress.Token.Cursor
import ThreeAddress.Proofs.LongestNumeral
import ThreeAddress.Proofs.Word
import ThreeAddress.Proofs.Tiling
import ThreeAddress.Proofs.Upcoming
import ThreeAddress.Proofs.Handover
import ThreeAddress.Proofs.Plan
import ThreeAddress.Proofs.Simulation
import ThreeAddress.Proofs.Descent
import ThreeAddress.Proofs.StackDiscipline
import ThreeAddress.Proofs.Compilation
import ThreeAddress.Proofs.Exhaustion
import ThreeAddress.Proofs.Relocation
import ThreeAddress.Proofs.RegisterDemand
import ThreeAddress.Proofs.Diagnosis
import ThreeAddress.Proofs.Acceptance
import ThreeAddress.Proofs.Translation
import ThreeAddress.Proofs.Concatenation
import ThreeAddress.Proofs.Execution
import ThreeAddress.Proofs.Transparency
import ThreeAddress.Proofs.Correctness
import ThreeAddress.Proofs.Footprint
import ThreeAddress.Proofs.Truncation
import ThreeAddress.Proofs.RegisterLimits
import ThreeAddress.Proofs.Independence
import ThreeAddress.Proofs.Delivery
import ThreeAddress.Proofs.Interruption
import ThreeAddress.Proofs.ScanSequence
import ThreeAddress.Proofs.LexerContract
import ThreeAddress.Proofs.Quotation
import ThreeAddress.Proofs.Positions
import ThreeAddress.Proofs.Termination
import ThreeAddress.Proofs.Modes
import ThreeAddress.Proofs.Tokenization
import ThreeAddress.Proofs.Spacing
import ThreeAddress.Proofs.RecordGrammar
import ThreeAddress.Proofs.RoundTrip
import ThreeAddress.Proofs.LiteralAgreement
import ThreeAddress.Proofs.Atomicity
import ThreeAddress.Proofs.BoundedStack
import ThreeAddress.Proofs.LogReplay
