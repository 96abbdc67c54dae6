import MonkeyLang.Token

namespace MonkeyLang

/-!
# Rules and precedences

The rules of the grammar by name, as diagnostics and traces show them, and the
precedences that decide where an expression ends.
-/

/-- The rules of the grammar. -/
inductive Rule where
  | program | statement | letStatement | returnStatement | expressionStatement | block
  | expression | unaryExpression | binaryExpression | groupedExpression | ifExpression
  | functionLiteral | callExpression
  deriving DecidableEq

/-- The name of a rule. -/
def Rule.text : Rule -> String
  | .program => "program"
  | .statement => "statement"
  | .letStatement => "let_statement"
  | .returnStatement => "return_statement"
  | .expressionStatement => "expression_statement"
  | .block => "block"
  | .expression => "expression"
  | .unaryExpression => "prefix_expression"
  | .binaryExpression => "infix_expression"
  | .groupedExpression => "grouped_expression"
  | .ifExpression => "if_expression"
  | .functionLiteral => "function_literal"
  | .callExpression => "call_expression"

/-- How tightly an operator holds its operands, loosest first. -/
inductive Precedence where
  | lowest | equality | comparison | sum | product | unary | call
  deriving DecidableEq

namespace Precedence

/-- The place of a precedence in their order. -/
def rank : Precedence -> Nat
  | .lowest => 0
  | .equality => 1
  | .comparison => 2
  | .sum => 3
  | .product => 4
  | .unary => 5
  | .call => 6

/-- The precedence at which a kind of token continues the expression in front of
it.  A token that continues none has the lowest. -/
def ofTokenType : TokenType -> Precedence
  | .equalEqual | .bangEqual => .equality
  | .less | .greater => .comparison
  | .plus | .minus => .sum
  | .star | .slash => .product
  | .leftParenthesis => .call
  | _ => .lowest

/-- Whether an expression that keeps to a precedence goes on with a kind of
token. -/
def admits (minimum : Precedence) (type : TokenType) : Bool :=
  minimum.rank < (ofTokenType type).rank

end Precedence

end MonkeyLang
