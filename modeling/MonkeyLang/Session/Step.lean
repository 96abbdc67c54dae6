import MonkeyLang.Evaluation.Interpreter
import MonkeyLang.Grammar.Diagnostic

namespace MonkeyLang

/-!
# Steps of a session and their answers

A step names interpreters by their numbers, and values by the steps that gave
them.  A step that makes no sense is answered by a complaint.
-/

/-- A value that a step refers to: that of an earlier step, or a constant. -/
inductive Reference where
  | step (index : Nat)
  | integer (text : String)
  | boolean (value : Bool)
  | null

/-- What a session can be asked to do.  Interpreters are named by their numbers,
in the order in which they were made. -/
inductive Step where
  | evaluate (interpreter : Nat) (source : String)
  | new
  | clone (interpreter : Nat)
  | value (of : Reference)
  | equal (left right : Reference)
  | inspect (of : Reference)
  | lookup (of : Reference) (names : List String)
  | declare (of : Reference) (name : String) (value : Reference)
  | call (interpreter : Nat) (of : Reference) (arguments : List Reference)
  | describe (interpreter : Nat)
  | describeValue (of : Reference)

/-- Why a step makes no sense. -/
inductive Complaint where
  | noSuchInterpreter | noValue | notAnInteger | notAClosure | noScope
  deriving DecidableEq

/-- The text of a complaint. -/
def Complaint.text : Complaint -> String
  | .noSuchInterpreter => "no such interpreter"
  | .noValue => "that step has no value"
  | .notAnInteger => "int is not an i64"
  | .notAClosure => "not a closure"
  | .noScope => "a builtin has no scope"

/-- A frame as a look-up shows it: the names asked for with their values in this
frame or around it, and the description. -/
structure FrameView where
  found : List (String × Option Value)
  description : String

/-- The answer to a step. -/
inductive Answer where
  | unparsed (diagnostics : List Diagnostic)
  | evaluated (outcome : Except RuntimeError (Option Value)) (printed : String)
  | interpreter (index : Nat)
  | value (value : Value)
  | equal (same : Bool)
  | callable (callable : Callable)
  | frames (views : List FrameView)
  | declared (name : String)
  | called (outcome : Except Failure Value) (printed : String)
  | description (text : String)
  | refused (complaint : Complaint)

/-- The value that later steps can refer to. -/
def Answer.value? : Answer -> Option Value
  | .evaluated (.ok result) _ => result
  | .value result => some result
  | .called (.ok result) _ => some result
  | _ => none

end MonkeyLang
