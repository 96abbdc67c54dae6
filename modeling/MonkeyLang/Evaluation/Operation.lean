import MonkeyLang.Evaluation.Failure
import MonkeyLang.Integer

namespace MonkeyLang

/-!
# Operators applied to values

Arithmetic is exact or refused: the result is computed over all integers and
must lie in the range.  Equality is defined for two values of one kind, and
every other mixture of operands is a failure that names their kinds.
-/

/-- An exact result as a value, or the failure to report when it is out of
range. -/
def exactly (result : Int) (failure : Failure) : Except Failure Value :=
  match represent? result with
  | some value => .ok (.integer value)
  | none => .error failure

namespace UnaryOperator

/-- The value of an operator in front of an operand. -/
def apply : UnaryOperator -> Value -> Except Failure Value
  | .not, operand => .ok (.boolean !operand.isTruthy)
  | .negate, .integer value => exactly (-value.toInt) (.negationOverflow value)
  | .negate, operand => .error (.unknownUnary .negate operand.type)

end UnaryOperator

namespace BinaryOperator

/-- The value of an operator between two integers.  Division drops the fraction,
which takes the quotient toward zero. -/
def applyIntegers (operator : BinaryOperator) (left right : Int64) : Except Failure Value :=
  match operator with
  | .plus => exactly (left.toInt + right.toInt) (.overflow left operator right)
  | .minus => exactly (left.toInt - right.toInt) (.overflow left operator right)
  | .times => exactly (left.toInt * right.toInt) (.overflow left operator right)
  | .divide =>
      if right = 0 then .error (.divisionByZero left)
      else exactly (left.toInt.tdiv right.toInt) (.overflow left operator right)
  | .less => .ok (.boolean (left < right))
  | .greater => .ok (.boolean (right < left))
  | .equal => .ok (.boolean (left = right))
  | .notEqual => .ok (.boolean (left ≠ right))

/-- The value of an operator between two values that are not both integers. -/
def applyOthers (operator : BinaryOperator) (left right : Value) : Except Failure Value :=
  if left.type = right.type then
    match operator with
    | .equal => .ok (.boolean (left.equals right))
    | .notEqual => .ok (.boolean !left.equals right)
    | _ => .error (.unknownBinary left.type operator right.type)
  else .error (.typeMismatch left.type operator right.type)

/-- The value of an operator between two values. -/
def apply (operator : BinaryOperator) : Value -> Value -> Except Failure Value
  | .integer left, .integer right => operator.applyIntegers left right
  | left, right => operator.applyOthers left right

end BinaryOperator

end MonkeyLang
