import MonkeyLang.Evaluation.Interpreter
import MonkeyLang.Grammar.Reading

namespace MonkeyLang

open Text

/-!
# The interactive session

An interactive session greets, and then prompts for one line after another.
Each line is read on its own, without the blanks at its ends, and evaluated on
one interpreter, so that bindings stay.  A line that cannot be read changes
nothing; a line that fails keeps what it did before it failed.
-/

namespace Repl

/-- What an interactive session says first. -/
def greeting : String :=
  "Welcome to the Monkey REPL!\nEOF or \\q to exit. (Ctrl+D on *nix, Ctrl+Z on Windows)\n"

/-- What stands in front of every line that is typed. -/
def prompt : String := ">> "

/-- The line that ends an interactive session. -/
def quitLine : String := "\\q"

/-- The answer to a line: what is shown, the log of reading it, and the machine
behind it. -/
structure Reply where
  shown : String
  log : List String
  machine : Machine

/-- A machine whose printed bytes were fetched. -/
def fetched (machine : Machine) : Machine :=
  { machine with sink := machine.sink.drain }

/-- The answer to a source text. -/
def respond (machine : Machine) (source : String) : Reply :=
  let reading := Reading.ofSource source
  match reading.result with
  | .error diagnostics =>
      ⟨asLines (diagnostics.map fun diagnostic => "\t" ++ diagnostic.text), reading.log, machine⟩
  | .ok program =>
      let (outcome, after) := program.run machine
      let last := match outcome with
        | .ok none => ""
        | .ok (some value) => value.line
        | .error error => "Error: " ++ error.text ++ "\n"
      ⟨after.sink.text ++ last, reading.log, fetched after⟩

/-- The answer to a line that was typed.  There is none when the line ends the
session. -/
def answer? (machine : Machine) (line : String) : Option Reply :=
  let source := String.ofList (trim line.toList)
  if source = quitLine then none
  else if source = "" then some ⟨"", [], machine⟩
  else some (respond machine source)

/-- All that an interactive session has shown and logged, and whether it came to
a line that is no text. -/
structure Transcript where
  shown : String
  log : List String
  broken : Bool

/-- The course of an interactive session from a prompt on.  A line is none when
its bytes are no text. -/
def transcript (machine : Machine) : List (Option String) -> Transcript
  | [] => ⟨prompt, [], false⟩
  | none :: _ => ⟨prompt, [], true⟩
  | some line :: later =>
      match answer? machine line with
      | none => ⟨prompt, [], false⟩
      | some reply =>
          let behind := transcript reply.machine later
          ⟨prompt ++ reply.shown ++ behind.shown, reply.log ++ behind.log, behind.broken⟩

/-- The lines of an input, without their line feeds.  Nothing stands behind the
last line feed unless it has bytes. -/
def splitLines : List UInt8 -> List (List UInt8)
  | [] => []
  | byte :: later =>
      if byte = 10 then [] :: splitLines later
      else match splitLines later with
        | [] => [[byte]]
        | line :: lines => (byte :: line) :: lines

end Repl

end MonkeyLang
