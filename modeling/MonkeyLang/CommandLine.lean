import MonkeyLang.Repl
import MonkeyLang.Token.Listing

namespace MonkeyLang

open Text

/-!
# The command line

Four commands share one form of result: what is written to the two output
channels, and the exit code.  A file that cannot be read, a source with
diagnostics and a program that fails are reported on the error channel, and the
exit code is one.
-/

/-- The commands. -/
inductive Command where
  | repl | run | tokens | tree
  deriving DecidableEq

/-- Why an input cannot be read. -/
inductive ReadFailure where
  | missing | directory | notText

/-- The text of a reading failure. -/
def ReadFailure.text : ReadFailure -> String
  | .missing => "failed to read source file: No such file or directory (os error 2)"
  | .directory => "failed to read source file: Is a directory (os error 21)"
  | .notText => "failed to read source file: stream did not contain valid UTF-8"

/-- What a command writes, and how it exits. -/
structure Report where
  output : String
  errors : String
  exitCode : Nat
  deriving DecidableEq

namespace Report

/-- The report of a command that did what it was asked. -/
def success (output : String) : Report := ⟨output, "", 0⟩

/-- The report of a command that failed after some output. -/
def failure (output problem : String) : Report := ⟨output, problem ++ "\n", 1⟩

/-- A report with the lines of a log in front of its errors. -/
def logged (log : List String) (report : Report) : Report :=
  { report with errors := asLines log ++ report.errors }

end Report

namespace Command

/-- Run a source and write its final value. -/
def runSource (reading : Reading) : Report :=
  match reading.result with
  | .error diagnostics => .failure "" (Diagnostic.report diagnostics)
  | .ok program =>
      let (outcome, after) := program.run (Machine.fresh none)
      match outcome with
      | .ok none => .success after.sink.text
      | .ok (some value) => .success (after.sink.text ++ value.line)
      | .error error => .failure after.sink.text error.text

/-- Write the canonical text of every statement of a source. -/
def renderSource (reading : Reading) : Report :=
  match reading.result with
  | .error diagnostics => .failure "" (Diagnostic.report diagnostics)
  | .ok program => .success (asLines (program.statements.map Statement.render))

/-- Hold an interactive session on a whole input. -/
def converse (lines : List (Option String)) : Report × List String :=
  let transcript := Repl.transcript (Machine.fresh none) lines
  let shown := Repl.greeting ++ transcript.shown
  (if transcript.broken then .failure shown ReadFailure.notText.text else .success shown,
    transcript.log)

/-- The text of some bytes. -/
def textOf (bytes : ByteArray) : Option String := String.fromUTF8? bytes

/-- The report of a command on the text of an input, and a log. -/
def onText (input : ByteArray) (answer : String -> Report × List String) :
    Report × List String :=
  match textOf input with
  | none => (.failure "" ReadFailure.notText.text, [])
  | some source => answer source

/-- The report of a command on an input, and the log of reading its sources. -/
def reportAndLog (input : ByteArray) : Command -> Report × List String
  | .repl => converse ((Repl.splitLines input.data.toList).map fun line => textOf ⟨line.toArray⟩)
  | .tokens => onText input fun source => (.success (asLines (listing source)), [])
  | .run => onText input fun source =>
      let reading := Reading.ofSource source
      (runSource reading, reading.log)
  | .tree => onText input fun source =>
      let reading := Reading.ofSource source
      (renderSource reading, reading.log)

/-- The report of a command on an input.  With `traced` the log of reading goes to
the error channel. -/
def report (command : Command) (traced : Bool) (input : Except ReadFailure ByteArray) : Report :=
  match input with
  | .error problem => .failure "" problem.text
  | .ok bytes =>
      let (report, log) := reportAndLog bytes command
      if traced then report.logged log else report

end Command

end MonkeyLang
