import MonkeyLang.Token

namespace MonkeyLang

/-!
# Operators

The two operators written before their operand and the eight written between
their operands, each with its symbol.
-/

/-- Operators before one operand. -/
inductive UnaryOperator where
  | not | negate
  deriving DecidableEq

/-- Operators between two operands. -/
inductive BinaryOperator where
  | equal | notEqual | less | greater | plus | minus | times | divide
  deriving DecidableEq

namespace UnaryOperator

/-- The symbol of an operator. -/
def text : UnaryOperator -> String
  | .not => "!"
  | .negate => "-"

/-- The operator that a kind of token stands for in front of an operand. -/
def ofTokenType? : TokenType -> Option UnaryOperator
  | .bang => some .not
  | .minus => some .negate
  | _ => none

end UnaryOperator

namespace BinaryOperator

/-- The symbol of an operator. -/
def text : BinaryOperator -> String
  | .equal => "=="
  | .notEqual => "!="
  | .less => "<"
  | .greater => ">"
  | .plus => "+"
  | .minus => "-"
  | .times => "*"
  | .divide => "/"

/-- The operator that a kind of token stands for between operands. -/
def ofTokenType? : TokenType -> Option BinaryOperator
  | .equalEqual => some .equal
  | .bangEqual => some .notEqual
  | .less => some .less
  | .greater => some .greater
  | .plus => some .plus
  | .minus => some .minus
  | .star => some .times
  | .slash => some .divide
  | _ => none

end BinaryOperator

end MonkeyLang
