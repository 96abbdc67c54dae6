import MonkeyLang.Grammar.Rule
import MonkeyLang.Syntax.Tree

namespace MonkeyLang

/-!
# The nodes of a tree

Some rules of the grammar leave a node in the tree that is read: that of a statement, whichever
kind of statement it is, and those of the expressions that are put together of others.  A tree
lists these rules, one for each such node, however deep in its blocks.  The names, numbers and
truth values of a tree have no rules of their own, and parentheses leave nothing behind.
-/

/-- The rules that leave a node. -/
def Rule.leavingNodes : List Rule :=
  [.statement, .unaryExpression, .binaryExpression, .ifExpression, .functionLiteral,
    .callExpression]

mutual

/-- The rules of the nodes of an expression. -/
def Expression.nodes : Expression -> List Rule
  | .identifier _ | .integer _ _ | .boolean _ _ => []
  | .unary _ _ operand => .unaryExpression :: operand.nodes
  | .binary _ left _ right => .binaryExpression :: (left.nodes ++ right.nodes)
  | .conditional _ condition consequence none =>
      .ifExpression :: (condition.nodes ++ consequence.nodes)
  | .conditional _ condition consequence (some alternative) =>
      .ifExpression :: (condition.nodes ++ consequence.nodes ++ alternative.nodes)
  | .function _ _ body => .functionLiteral :: body.nodes
  | .call _ callee arguments => .callExpression :: (callee.nodes ++ nodesOfAll arguments)
termination_by structural tree => tree

/-- The rules of the nodes of several expressions. -/
def nodesOfAll : List Expression -> List Rule
  | [] => []
  | expression :: later => expression.nodes ++ nodesOfAll later
termination_by structural trees => trees

/-- The rules of the nodes of a statement. -/
def Statement.nodes : Statement -> List Rule
  | .binding _ _ value => .statement :: value.nodes
  | .returning _ none => [.statement]
  | .returning _ (some value) => .statement :: value.nodes
  | .expression _ value => .statement :: value.nodes
termination_by structural tree => tree

/-- The rules of the nodes of a block. -/
def Block.nodes : Block -> List Rule
  | .mk _ statements => nodesOfStatements statements
termination_by structural tree => tree

/-- The rules of the nodes of several statements. -/
def nodesOfStatements : List Statement -> List Rule
  | [] => []
  | statement :: later => statement.nodes ++ nodesOfStatements later
termination_by structural trees => trees

end

/-- The rules of the nodes of a program. -/
def Program.nodes (program : Program) : List Rule := nodesOfStatements program.statements

theorem nodesOfStatements_append (first second : List Statement) :
    nodesOfStatements (first ++ second) =
      nodesOfStatements first ++ nodesOfStatements second := by
  induction first with
  | nil => rfl
  | cons statement later ih =>
      rw [List.cons_append, nodesOfStatements, nodesOfStatements, ih, List.append_assoc]

end MonkeyLang
