import MonkeyLang.Evaluation.Value

namespace MonkeyLang

open Text

/-!
# Failures of evaluation

A failure names its cause together with the operands, types and counts that its
text shows.  A runtime error is a failure with the top-level statement during
which it happened.
-/

/-- Nested calls that are allowed before evaluation fails. -/
def maximumCallDepth : Nat := 256

/-- Why an evaluation fails. -/
inductive Failure where
  | sinkFull
  | unknownIdentifier (name : String)
  | typeMismatch (left : ValueType) (operator : BinaryOperator) (right : ValueType)
  | unknownUnary (operator : UnaryOperator) (operand : ValueType)
  | unknownBinary (left : ValueType) (operator : BinaryOperator) (right : ValueType)
  | overflow (left : Int64) (operator : BinaryOperator) (right : Int64)
  | negationOverflow (operand : Int64)
  | divisionByZero (dividend : Int64)
  | notCallable (type : ValueType)
  | wrongArity (callee : Callable) (given expected : Nat)
  | callDepthExceeded
  deriving DecidableEq

/-- The text of a failure. -/
def Failure.text : Failure -> String
  | .sinkFull => "IO error: sink full"
  | .unknownIdentifier name => "identifier not found: " ++ name
  | .typeMismatch left operator right =>
      "type mismatch: " ++ left.text ++ " " ++ operator.text ++ " " ++ right.text
  | .unknownUnary operator operand => "unknown operator: " ++ operator.text ++ operand.text
  | .unknownBinary left operator right =>
      "unknown operator: " ++ left.text ++ " " ++ operator.text ++ " " ++ right.text
  | .overflow left operator right =>
      "integer overflow: " ++ decimal left.toInt ++ " " ++ operator.text ++ " " ++
        decimal right.toInt
  | .negationOverflow operand => "integer overflow: -" ++ decimal operand.toInt
  | .divisionByZero dividend => "division by zero: " ++ decimal dividend.toInt ++ " / 0"
  | .notCallable type => "not a function: " ++ type.text
  | .wrongArity callee given expected =>
      "wrong number of arguments: " ++ callee.text ++ " called with " ++ natural given ++
        " arguments, expected " ++ natural expected
  | .callDepthExceeded => "maximum call depth of " ++ natural maximumCallDepth ++ " exceeded"

theorem Failure.text_wrongArity (callee : Callable) (given expected : Nat) :
    (Failure.wrongArity callee given expected).text =
      "wrong number of arguments: " ++ callee.text ++ " called with " ++ natural given ++
        " arguments, expected " ++ natural expected := rfl

/-- A failure and the top-level statement during which it happened. -/
structure RuntimeError where
  failure : Failure
  statement : Statement
  deriving DecidableEq

/-- The text of a runtime error. -/
def RuntimeError.text (error : RuntimeError) : String :=
  error.failure.text ++ " (in `" ++ error.statement.render ++ "`)"

end MonkeyLang
