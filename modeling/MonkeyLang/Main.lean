import MonkeyLang.CommandLine

open MonkeyLang

/-!
# The program

Reads what a command asks for, lets the command line answer, and writes the
answer.  An interactive session is answered line by line.
-/

namespace MonkeyLang.Main

/-- The next line of an input, byte by byte, without its line feed.  There is
none at the end of the input. -/
partial def readLine (input : IO.FS.Stream) (line : ByteArray) : IO (Option ByteArray) := do
  let read ← input.read 1
  match read.data.toList with
  | [] => return if line.isEmpty then none else some line
  | byte :: _ => if byte = 10 then return some line else readLine input (line.push byte)

/-- Answer lines until one ends the session, and give the exit code. -/
partial def converse (input output : IO.FS.Stream) (machine : Machine) : IO UInt32 := do
  output.putStr Repl.prompt
  output.flush
  match ← readLine input .empty with
  | none => return 0
  | some line =>
      match Command.textOf line with
      | none =>
          IO.eprintln ReadFailure.notText.text
          return 1
      | some line =>
          match Repl.answer? machine line with
          | none => return 0
          | some reply =>
              output.putStr reply.shown
              converse input output reply.machine

/-- The bytes of a file. -/
def readFile (path : String) : IO (Except ReadFailure ByteArray) := do
  try
    return .ok (← IO.FS.readBinFile path)
  catch
    | .noFileOrDirectory _ _ _ => return .error .missing
    | .inappropriateType _ _ _ => return .error .directory
    | problem => throw problem

/-- Answer a command on a file, and give the exit code. -/
def answerFile (command : Command) (path : String) : IO UInt32 := do
  let report := command.report false (← readFile path)
  IO.print report.output
  IO.eprint report.errors
  return report.exitCode.toUInt32

/-- How the program is called. -/
def usage : String := "usage: monkey [repl | run FILE | tokens FILE | ast FILE]"

end MonkeyLang.Main

open MonkeyLang.Main in
/-- Answer the command that the arguments name, an interactive session if they
name none. -/
def main (arguments : List String) : IO UInt32 := do
  match arguments with
  | [] | ["repl"] =>
      let output ← IO.getStdout
      output.putStr Repl.greeting
      converse (← IO.getStdin) output (Machine.fresh none)
  | ["run", path] => answerFile .run path
  | ["tokens", path] => answerFile .tokens path
  | ["ast", path] => answerFile .tree path
  | _ =>
      IO.eprintln usage
      return 2
