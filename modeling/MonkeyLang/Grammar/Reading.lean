import MonkeyLang.Grammar.Parse
import MonkeyLang.Token.Scanner

namespace MonkeyLang

/-!
# Sources read as programs

Reading a source always gives a program and a trace.  The program counts as the
program of the source only where the trace holds no fault.  A reader can be
asked again behind a program that it read; nothing is left for it then.
-/

/-- A program that was read, the number of tokens it used up, and its trace. -/
structure Reading where
  program : Program
  used : Nat
  trace : Trace

namespace Reading

/-- Read all tokens before an end token. -/
def ofTokens (ending : Token) (tokens : List Token) : Reading :=
  let series := programStatements ending tokens
  ⟨⟨series.statements⟩, series.used, .rule .program true series.trace⟩

/-- Read what is left of a source. -/
def ofScanner (scanner : Scanner) : Reading :=
  ofTokens scanner.ending scanner.tokens

/-- Read a source. -/
def ofSource (source : String) : Reading :=
  ofScanner (Scanner.ofString source)

/-- The diagnostics of what was read. -/
def diagnostics (reading : Reading) : List Diagnostic :=
  reading.trace.diagnostics []

/-- The lines of the log of what was read. -/
def log (reading : Reading) : List String :=
  reading.trace.log 0

/-- The program, unless there is a diagnostic. -/
def result (reading : Reading) : Except (List Diagnostic) Program :=
  if reading.diagnostics.isEmpty then .ok reading.program else .error reading.diagnostics

end Reading

/-- The program of a source, or the diagnostics that keep it from being one. -/
def parse (source : String) : Except (List Diagnostic) Program :=
  (Reading.ofSource source).result

/-- A place in the tokens of a source where reading can start. -/
structure Reader where
  ending : Token
  upcoming : List Token

namespace Reader

/-- A reader of what a scanner has not read yet. -/
def ofScanner (scanner : Scanner) : Reader := ⟨scanner.ending, scanner.tokens⟩

/-- Read a program, and the place behind it. -/
def read (reader : Reader) : Reading × Reader :=
  let reading := Reading.ofTokens reader.ending reader.upcoming
  (reading, { reader with upcoming := reader.upcoming.drop reading.used })

end Reader

end MonkeyLang
