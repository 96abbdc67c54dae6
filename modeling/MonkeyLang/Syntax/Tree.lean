import MonkeyLang.Syntax.Operator

namespace MonkeyLang

/-!
# Syntax trees

A program is a list of statements.  Every node keeps the token that it is
reported by: a binary expression its operator, a call its opening parenthesis,
everything else its first token.  Parentheses that only group leave no node.
-/

/-- A name together with the token that it was read from. -/
structure Identifier where
  token : Token
  name : String
  deriving DecidableEq

mutual

/-- Expressions, which have a value. -/
inductive Expression where
  | identifier (name : Identifier)
  | integer (token : Token) (value : Int64)
  | boolean (token : Token) (value : Bool)
  | unary (token : Token) (operator : UnaryOperator) (operand : Expression)
  | binary (token : Token) (left : Expression) (operator : BinaryOperator) (right : Expression)
  | conditional (token : Token) (condition : Expression) (consequence : Block)
      (alternative : Option Block)
  | function (token : Token) (parameters : List Identifier) (body : Block)
  | call (token : Token) (callee : Expression) (arguments : List Expression)

/-- Statements: a binding of a name, a return with or without a value, and an
expression. -/
inductive Statement where
  | binding (token : Token) (name : Identifier) (value : Expression)
  | returning (token : Token) (value : Option Expression)
  | expression (token : Token) (value : Expression)

/-- Statements between braces: a branch of a conditional or the body of a
function. -/
inductive Block where
  | mk (token : Token) (statements : List Statement)

end

/-- The opening brace of a block. -/
def Block.token : Block -> Token
  | .mk token _ => token

/-- The statements of a block. -/
def Block.statements : Block -> List Statement
  | .mk _ statements => statements

/-- The token that an expression is reported by. -/
def Expression.token : Expression -> Token
  | .identifier name => name.token
  | .integer token _ => token
  | .boolean token _ => token
  | .unary token _ _ => token
  | .binary token _ _ _ => token
  | .conditional token _ _ _ => token
  | .function token _ _ => token
  | .call token _ _ => token

/-- The token that a statement is reported by. -/
def Statement.token : Statement -> Token
  | .binding token _ _ => token
  | .returning token _ => token
  | .expression token _ => token

/-- Whether a statement is an expression.  Only these are separated by a
semicolon of their own when they are written out. -/
def Statement.isExpression : Statement -> Bool
  | .expression _ _ => true
  | _ => false

/-- A whole source, read. -/
structure Program where
  statements : List Statement

end MonkeyLang
