import MonkeyLang.Evaluation.Value
import MonkeyLang.Text.Utf8

namespace MonkeyLang

open Text

/-!
# The sink of printed values

Each printed value is one line for the sink.  A sink may have room for a limited
number of bytes: it takes of a line what it has room for, and refuses the rest.
Printing fails when a part of the line was refused.
-/

/-- The line that a value is printed as. -/
def Value.line (value : Value) : String := value.text ++ "\n"

/-- A printed value and the number of bytes that the sink took of its line. -/
structure Print where
  value : Value
  taken : Nat

/-- The bytes that a sink took of a line. -/
def Print.bytes (print : Print) : List UInt8 := (Text.bytes print.value.line).take print.taken

/-- The text that is shown for what a sink took of a line. -/
def Print.text (print : Print) : String := firstBytes print.taken print.value.line

/-- The bytes that a sink still has room for, without a limit if `room` is none,
and what was printed to it, latest first. -/
structure Sink where
  room : Option Nat := none
  prints : List Print := []

namespace Sink

/-- The bytes that a sink took. -/
def bytes (sink : Sink) : List UInt8 := sink.prints.reverse.flatMap Print.bytes

/-- The text that is shown for the bytes that a sink took. -/
def text (sink : Sink) : String :=
  String.join (sink.prints.reverse.map Print.text)

/-- The values that were printed, in order. -/
def values (sink : Sink) : List Value := sink.prints.reverse.map (·.value)

/-- A sink after a value was printed, and whether it took the whole line. -/
def accept (sink : Sink) (value : Value) : Bool × Sink :=
  let size := value.line.utf8ByteSize
  match sink.room with
  | none => (true, { sink with prints := ⟨value, size⟩ :: sink.prints })
  | some room =>
      (decide (size ≤ room), ⟨some (room - size), ⟨value, min size room⟩ :: sink.prints⟩)

/-- A sink whose bytes were fetched.  Its room stays as it is. -/
def drain (sink : Sink) : Sink := { sink with prints := [] }

end Sink

end MonkeyLang
