import ThreeAddress.Pool
import ThreeAddress.Text.Split

/-!
# Events

What the pool, the code generator and the machine do is recorded as a sequence of events.
Each event has a level, an area and a message, by which a log selects and writes it.
-/

namespace ThreeAddress

/-- How much detail a log gives, from none to all. -/
inductive Level where
  | off
  | error
  | warn
  | info
  | debug
  | trace
deriving DecidableEq

namespace Level

/-- The place of a level in the order of detail. -/
def rank : Level → Nat
  | off => 0
  | error => 1
  | warn => 2
  | info => 3
  | debug => 4
  | trace => 5

/-- The name of a level. -/
def name : Level → String
  | off => "OFF"
  | error => "ERROR"
  | warn => "WARN"
  | info => "INFO"
  | debug => "DEBUG"
  | trace => "TRACE"

/-- All levels. -/
def all : List Level :=
  [off, error, warn, info, debug, trace]

/-- The level with a given name, in small or capital letters. -/
def ofName? (text : String) : Option Level :=
  all.find? fun level => decide (level.name.toList = text.toList.map Char.toUpper)

end Level

/-- One thing that happened. -/
inductive Event where
  /-- A register was acquired, and `live` are now in use. -/
  | acquired (register : Register) (live : Nat)
  /-- A register was released, and `live` are still in use. -/
  | released (register : Register) (live : Nat)
  /-- An instruction is about to go to the sink. -/
  | emitted (instr : Instr)
  /-- All statements of the source were compiled. -/
  | compiled (stats : PoolStats)
  /-- A record was executed and left these values in the registers, as they are written. -/
  | executed (line : String) (values : List String)
deriving DecidableEq

namespace Event

/-- The level from which on a log shows the event. -/
def level : Event → Level
  | acquired .. => .trace
  | released .. => .trace
  | emitted .. => .debug
  | compiled .. => .debug
  | executed .. => .trace

/-- The area of the program that an event belongs to. -/
def area : Event → String
  | acquired .. => "regcalc::regalloc"
  | released .. => "regcalc::regalloc"
  | emitted .. => "regcalc::codegen"
  | compiled .. => "regcalc::codegen"
  | executed .. => "regcalc::eval"

/-- The message of an event. -/
def message : Event → String
  | acquired register live => "acquire " ++ register.text ++ " (" ++ toString live ++ " live)"
  | released register live => "release " ++ register.text ++ " (" ++ toString live ++ " live)"
  | emitted instr => "emit " ++ instr.text
  | compiled stats =>
      "statements compiled, PoolStats \x7b acquired: " ++ toString stats.acquired ++
        ", released: " ++ toString stats.released ++ ", peak: " ++ toString stats.peak ++ " \x7d"
  | executed line values => Text.padRight 16 line ++ " [" ++ ", ".intercalate values ++ "]"

/-- Whether a log of the given level shows the event. -/
def shownAt (level : Level) (event : Event) : Bool :=
  event.level.rank ≤ level.rank

end Event

end ThreeAddress
