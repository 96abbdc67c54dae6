import MonkeyLang.Grammar.Rule
import MonkeyLang.Text.Separated

namespace MonkeyLang

open Text

/-!
# Traces and diagnostics

Reading a source leaves a trace: a tree of the rules that were entered, with
the faults that were found at the points where they were found.  The list of
diagnostics and the printed log are two views of the trace.  A diagnostic names
the rules around its fault, and a line of the log is indented by their number.
-/

/-- What can be wrong with a token: it is not the kind that has to stand there,
no expression starts with it, or it is a number beyond the range. -/
inductive Fault where
  | expected (wanted found : TokenType)
  | noExpression (found : TokenType)
  | invalidInteger (lexeme : String)
  deriving DecidableEq

/-- The text of a fault. -/
def Fault.text : Fault -> String
  | .expected wanted found => "expected next token to be " ++ wanted.text ++ ", got " ++ found.text
  | .noExpression found => "no prefix parse rule for " ++ found.text ++ " found"
  | .invalidInteger lexeme => "could not parse \"" ++ lexeme ++ "\" as integer"

/-- The course of reading a source.  A rule is `completed` when it gave its part
of the tree. -/
inductive Trace where
  | fault (problem : Fault) (token : Token)
  | rule (name : Rule) (completed : Bool) (inner : List Trace)

/-- A fault, the token that shows it, and the rules around it, outermost
first. -/
structure Diagnostic where
  fault : Fault
  token : Token
  context : List Rule
  deriving DecidableEq

namespace Diagnostic

/-- The rules around a fault, when there are any. -/
def contextText (context : List Rule) : String :=
  if context.isEmpty then "" else " (in " ++ separated " > " (context.map Rule.text) ++ ")"

/-- The text of a diagnostic: the place, the fault and the rules around it. -/
def text (diagnostic : Diagnostic) : String :=
  diagnostic.token.span.text ++ ": " ++ diagnostic.fault.text ++ contextText diagnostic.context

/-- The report of all diagnostics of a source, each on a line. -/
def report (diagnostics : List Diagnostic) : String :=
  "Found " ++ natural diagnostics.length ++ " errors during parsing\n" ++
    asLines (diagnostics.map text)

end Diagnostic

namespace Trace

mutual

/-- The diagnostics of a trace below some rules, in the order in which the
faults were found. -/
def diagnostics (context : List Rule) : Trace -> List Diagnostic
  | .fault problem token => [⟨problem, token, context⟩]
  | .rule name _ inner => diagnosticsOfAll (context ++ [name]) inner
termination_by structural trace => trace

/-- The diagnostics of several traces below some rules. -/
def diagnosticsOfAll (context : List Rule) : List Trace -> List Diagnostic
  | [] => []
  | trace :: later => trace.diagnostics context ++ diagnosticsOfAll context later
termination_by structural traces => traces

end

/-- A line of the log, indented by one tab for each rule around it. -/
def logLine (depth : Nat) (event : String) (rule : Rule) : String :=
  String.ofList (List.replicate depth '\t') ++ event ++ " " ++ rule.text

mutual

/-- The lines of the log for a trace below a number of rules. -/
def log (depth : Nat) : Trace -> List String
  | .fault _ _ => []
  | .rule name _ inner =>
      logLine depth "BEGIN" name :: (logOfAll (depth + 1) inner ++ [logLine depth "END" name])
termination_by structural trace => trace

/-- The lines of the log for several traces below a number of rules. -/
def logOfAll (depth : Nat) : List Trace -> List String
  | [] => []
  | trace :: later => trace.log depth ++ logOfAll depth later
termination_by structural traces => traces

end

end Trace

end MonkeyLang
