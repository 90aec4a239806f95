import ThreeAddress.Error

/-!
# Command line arguments

Arguments are read from left to right. Options may stand anywhere before `--`; the one
argument that is no option is the source. Short options may be joined, and the value of an
option may be attached to it or follow it.
-/

namespace ThreeAddress.CommandLine

/-- What a run of the program is asked to do. -/
structure Settings where
  /-- The statements. -/
  source : String
  /-- The number of registers, as it was given. -/
  registers : String
  /-- Show the instructions instead of running them. -/
  emit : Bool
  /-- How often more detail was asked for. -/
  verbosity : Nat
deriving DecidableEq

/-- What the arguments ask for. -/
inductive Request where
  | help
  | version
  | execute (settings : Settings)
  /-- The arguments do not fit the usage. -/
  | misuse
deriving DecidableEq

/-- The arguments read so far. -/
structure Reading where
  source : Option String
  registers : Option String
  /-- How often the number of registers was asked for. -/
  registersGiven : Nat
  /-- How often the instructions were asked for. -/
  emitGiven : Nat
  verbosity : Nat
  /-- The next argument may be the number of registers. -/
  awaiting : Bool
  /-- All further arguments are sources. -/
  plain : Bool
deriving DecidableEq

namespace Reading

/-- No arguments read. -/
def empty : Reading :=
  ⟨none, none, 0, 0, 0, false, false⟩

/-- The source, which may be given once. -/
def giveSource (reading : Reading) (text : String) : Except Request Reading :=
  match reading.source with
  | none => .ok { reading with source := some text }
  | some _ => .error .misuse

/-- The number of registers, with its value if one is attached. Equality signs before the value
do not count. -/
def giveRegisters (reading : Reading) (attached : Option (List Char)) : Reading :=
  let given := { reading with registersGiven := reading.registersGiven + 1 }
  match attached with
  | none => { given with awaiting := true }
  | some value =>
      { given with
        registers := some (String.ofList (value.dropWhile (· == '=')))
        awaiting := false }

/-- Ask for the instructions. -/
def giveEmit (reading : Reading) : Reading :=
  { reading with emitGiven := reading.emitGiven + 1, awaiting := false }

/-- Ask for more detail. -/
def giveVerbose (reading : Reading) : Reading :=
  { reading with verbosity := reading.verbosity + 1, awaiting := false }

/-- An option with a long name. A value attached to an option that takes none is ignored. -/
def long (reading : Reading) (text : List Char) : Except Request Reading :=
  let bare := text.dropWhile (· == '-')
  let name := bare.takeWhile (· != '=')
  let value := match bare.dropWhile (· != '=') with
    | [] => none
    | _ :: value => some value
  match String.ofList name with
  | "num-registers" => .ok (reading.giveRegisters value)
  | "emit" => .ok reading.giveEmit
  | "verbose" => .ok reading.giveVerbose
  | "help" => .error .help
  | "version" => .error .version
  | _ => .error .misuse

/-- Options with short names, joined. What follows the name of an option that takes a value is
its value. -/
def short (reading : Reading) : List Char → Except Request Reading
  | [] => .ok reading
  | 'r' :: [] => .ok (reading.giveRegisters none)
  | 'r' :: value => .ok (reading.giveRegisters (some value))
  | 'e' :: names => reading.giveEmit.short names
  | 'v' :: names => reading.giveVerbose.short names
  | 'h' :: _ => .error .help
  | 'V' :: _ => .error .version
  | _ => .error .misuse

/-- Read one argument. A single hyphen is no option. -/
def argument (reading : Reading) (text : String) : Except Request Reading :=
  if reading.plain then
    reading.giveSource text
  else
    match text.toList with
    | '-' :: '-' :: [] => .ok { reading with plain := true }
    | '-' :: '-' :: name => reading.long name
    | '-' :: first :: names => reading.short (first :: names)
    | _ =>
        if reading.awaiting then .ok { reading with registers := some text, awaiting := false }
        else reading.giveSource text

/-- What the arguments ask for once all are read. An option that may be given once must not have
been repeated. -/
def request (reading : Reading) : Request :=
  if 1 < reading.registersGiven ∨ 1 < reading.emitGiven then .misuse
  else
    .execute
      { source := reading.source.getD "1 + 2 * 3 + 4;"
        registers := reading.registers.getD "10"
        emit := decide (0 < reading.emitGiven)
        verbosity := reading.verbosity }

end Reading

/-- Read all arguments. The first that decides the request ends the reading. -/
def Request.ofArguments (arguments : List String) : Request :=
  match arguments.foldlM Reading.argument Reading.empty with
  | .ok reading => reading.request
  | .error request => request

end ThreeAddress.CommandLine
