import MonkeyLang.Syntax.Tree
import MonkeyLang.Text.Decimal
import MonkeyLang.Text.Separated

namespace MonkeyLang

open Text

/-!
# The canonical text of a tree

Operations are written with parentheses around them, whether they need them or
not, so that the text fixes the grouping without a table of precedences.  A
program separates an expression from the statement behind it by a semicolon,
which would otherwise continue the expression; a block ends every expression
with one.
-/

/-- The names of parameters, as they are written between parentheses. -/
def renderParameters (parameters : List Identifier) : String :=
  separated ", " (parameters.map (·.name))

mutual

/-- The canonical text of an expression. -/
def Expression.render : Expression -> String
  | .identifier name => name.name
  | .integer _ value => decimal value.toInt
  | .boolean _ value => if value then "true" else "false"
  | .unary _ operator operand => "(" ++ operator.text ++ operand.render ++ ")"
  | .binary _ left operator right =>
      "(" ++ left.render ++ " " ++ operator.text ++ " " ++ right.render ++ ")"
  | .conditional _ condition consequence none =>
      "if (" ++ condition.render ++ ") " ++ consequence.render
  | .conditional _ condition consequence (some alternative) =>
      "if (" ++ condition.render ++ ") " ++ consequence.render ++ " else " ++ alternative.render
  | .function _ parameters body => "fn(" ++ renderParameters parameters ++ ") " ++ body.render
  | .call _ callee arguments =>
      callee.render ++ "(" ++ separated ", " (renderAll arguments) ++ ")"
termination_by structural tree => tree

/-- The canonical texts of several expressions. -/
def renderAll : List Expression -> List String
  | [] => []
  | expression :: later => expression.render :: renderAll later
termination_by structural trees => trees

/-- The canonical text of a statement.  An expression has no semicolon of its
own. -/
def Statement.render : Statement -> String
  | .binding _ name value => "let " ++ name.name ++ " = " ++ value.render ++ ";"
  | .returning _ none => "return;"
  | .returning _ (some value) => "return " ++ value.render ++ ";"
  | .expression _ value => value.render
termination_by structural tree => tree

/-- The canonical text of a block. -/
def Block.render : Block -> String
  | .mk _ statements => "\x7b " ++ renderInBlock statements ++ "\x7d"
termination_by structural tree => tree

/-- The canonical text between the braces of a block. -/
def renderInBlock : List Statement -> String
  | [] => ""
  | statement :: later =>
      statement.render ++ (if statement.isExpression then "; " else " ") ++ renderInBlock later
termination_by structural trees => trees

end

/-- The canonical text of the statements of a program. -/
def renderStatements : List Statement -> String
  | [] => ""
  | [statement] => statement.render
  | statement :: next :: later =>
      statement.render ++ (if statement.isExpression then ";" else "") ++
        renderStatements (next :: later)

/-- The canonical text of a program. -/
def Program.render (program : Program) : String :=
  renderStatements program.statements

end MonkeyLang
