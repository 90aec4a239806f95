import ThreeAddress.Error
import ThreeAddress.Text.Bytes

/-!
# Sinks

A sink receives instructions one by one. A buffer collects their text, a listing collects
the instructions themselves, and a writer takes the bytes of their text, perhaps only so
many.
-/

namespace ThreeAddress

/-- Something that receives instructions. It may refuse an instruction with any error, and change
all the same. -/
class Sink (σ : Type) where
  /-- Receive one instruction. -/
  emit : Instr → EStateM Error σ Unit

/-- The text of the instructions received, one to a line. -/
structure Buffer where
  text : String
deriving DecidableEq

namespace Buffer

/-- A buffer that has received nothing. -/
def empty : Buffer := ⟨""⟩

instance : Sink Buffer where
  emit instr := fun buffer => .ok () ⟨buffer.text ++ instr.line⟩

end Buffer

/-- The instructions received. -/
structure Listing where
  instrs : Array Instr
deriving DecidableEq

namespace Listing

/-- A listing that has received nothing. -/
def empty : Listing := ⟨#[]⟩

instance : Sink Listing where
  emit instr := fun listing => .ok () ⟨listing.instrs.push instr⟩

end Listing

/-- The bytes written, and how many there may be. -/
structure Writer where
  written : Array UInt8
  limit : Option Nat
deriving DecidableEq

namespace Writer

/-- A writer with nothing written. -/
def ofLimit (limit : Option Nat) : Writer := ⟨#[], limit⟩

/-- Write bytes. If there is no room for all of them, the writer takes as many as fit and
fails. -/
def write (bytes : List UInt8) : EStateM Error Writer Unit := fun writer =>
  match writer.limit with
  | none => .ok () { writer with written := writer.written ++ bytes }
  | some limit =>
      let room := limit - writer.written.size
      if bytes.length ≤ room then
        .ok () { writer with written := writer.written ++ bytes }
      else
        .error (.write .full) { writer with written := writer.written ++ bytes.take room }

/-- What was written, as a text, unless it ends inside a character. -/
def text? (writer : Writer) : Option String :=
  String.fromUTF8? ⟨writer.written⟩

instance : Sink Writer where
  emit instr := write (Text.bytes instr.line.toList)

end Writer

end ThreeAddress
