import MonkeyLang.Syntax.Render

namespace MonkeyLang

/-!
# Trees without their tokens

A tree keeps the tokens that it was read from, so two readings of the same
program from different texts are different trees.  Erasing puts one fixed token
in the place of all of them.  What is left is what the text of a tree shows, and
all that its evaluation looks at.
-/

/-- The token that stands for every erased one. -/
def Token.erased : Token := ⟨.illegal, "", Span.nowhere⟩

/-- A name without its token. -/
def Identifier.erased (name : Identifier) : Identifier := ⟨.erased, name.name⟩

mutual

/-- An expression without its tokens. -/
def Expression.erased : Expression -> Expression
  | .identifier name => .identifier name.erased
  | .integer _ value => .integer .erased value
  | .boolean _ value => .boolean .erased value
  | .unary _ operator operand => .unary .erased operator operand.erased
  | .binary _ left operator right => .binary .erased left.erased operator right.erased
  | .conditional _ condition consequence none =>
      .conditional .erased condition.erased consequence.erased none
  | .conditional _ condition consequence (some alternative) =>
      .conditional .erased condition.erased consequence.erased (some alternative.erased)
  | .function _ parameters body =>
      .function .erased (parameters.map Identifier.erased) body.erased
  | .call _ callee arguments => .call .erased callee.erased (eraseAll arguments)
termination_by structural tree => tree

/-- Several expressions without their tokens. -/
def eraseAll : List Expression -> List Expression
  | [] => []
  | expression :: later => expression.erased :: eraseAll later
termination_by structural trees => trees

/-- A statement without its tokens. -/
def Statement.erased : Statement -> Statement
  | .binding _ name value => .binding .erased name.erased value.erased
  | .returning _ none => .returning .erased none
  | .returning _ (some value) => .returning .erased (some value.erased)
  | .expression _ value => .expression .erased value.erased
termination_by structural tree => tree

/-- A block without its tokens. -/
def Block.erased : Block -> Block
  | .mk _ statements => .mk .erased (eraseStatements statements)
termination_by structural tree => tree

/-- Several statements without their tokens. -/
def eraseStatements : List Statement -> List Statement
  | [] => []
  | statement :: later => statement.erased :: eraseStatements later
termination_by structural trees => trees

end

/-- A program without its tokens. -/
def Program.erased (program : Program) : Program := ⟨eraseStatements program.statements⟩

/-! ## The text of an erased tree -/

theorem Statement.isExpression_erased (statement : Statement) :
    statement.erased.isExpression = statement.isExpression := by
  cases statement with
  | returning token value => cases value <;> rfl
  | _ => rfl

theorem renderParameters_erased (parameters : List Identifier) :
    renderParameters (parameters.map Identifier.erased) = renderParameters parameters := by
  simp only [renderParameters, List.map_map]
  rfl

mutual

/-- The text of a tree does not show its tokens. -/
theorem Expression.render_erased : ∀ tree : Expression, tree.erased.render = tree.render
  | .identifier _ | .integer _ _ | .boolean _ _ => rfl
  | .unary _ _ operand => by
      rw [Expression.erased, Expression.render, Expression.render, operand.render_erased]
  | .binary _ left _ right => by
      rw [Expression.erased, Expression.render, Expression.render, left.render_erased,
        right.render_erased]
  | .conditional _ condition consequence none => by
      rw [Expression.erased, Expression.render, Expression.render, condition.render_erased,
        consequence.render_erased]
  | .conditional _ condition consequence (some alternative) => by
      rw [Expression.erased, Expression.render, Expression.render, condition.render_erased,
        consequence.render_erased, alternative.render_erased]
  | .function _ parameters body => by
      rw [Expression.erased, Expression.render, Expression.render, body.render_erased,
        renderParameters_erased]
  | .call _ callee arguments => by
      rw [Expression.erased, Expression.render, Expression.render, callee.render_erased,
        renderAll_eraseAll arguments]

theorem renderAll_eraseAll : ∀ trees : List Expression,
    renderAll (eraseAll trees) = renderAll trees
  | [] => rfl
  | tree :: later => by
      rw [eraseAll, renderAll, renderAll, tree.render_erased, renderAll_eraseAll later]

theorem Statement.render_erased : ∀ tree : Statement, tree.erased.render = tree.render
  | .binding _ _ value => by
      rw [Statement.erased, Statement.render, Statement.render, value.render_erased]
      rfl
  | .returning _ none => rfl
  | .returning _ (some value) => by
      rw [Statement.erased, Statement.render, Statement.render, value.render_erased]
  | .expression _ value => by
      rw [Statement.erased, Statement.render, Statement.render, value.render_erased]

theorem Block.render_erased : ∀ tree : Block, tree.erased.render = tree.render
  | .mk _ statements => by
      rw [Block.erased, Block.render, Block.render, renderInBlock_eraseStatements statements]

theorem renderInBlock_eraseStatements : ∀ trees : List Statement,
    renderInBlock (eraseStatements trees) = renderInBlock trees
  | [] => rfl
  | tree :: later => by
      rw [eraseStatements, renderInBlock, renderInBlock, tree.render_erased,
        tree.isExpression_erased, renderInBlock_eraseStatements later]

end

theorem renderStatements_eraseStatements (trees : List Statement) :
    renderStatements (eraseStatements trees) = renderStatements trees := by
  induction trees with
  | nil => rfl
  | cons tree later ih =>
      cases later with
      | nil => exact tree.render_erased
      | cons next others =>
          rw [eraseStatements, eraseStatements, renderStatements, renderStatements,
            tree.render_erased, tree.isExpression_erased]
          rw [eraseStatements] at ih
          rw [ih]

theorem Program.render_erased (program : Program) : program.erased.render = program.render :=
  renderStatements_eraseStatements program.statements

/-- Programs that agree up to their tokens have the same text. -/
theorem Program.render_eq_of_erased_eq {first second : Program}
    (same : first.erased = second.erased) : first.render = second.render := by
  rw [← first.render_erased, same, second.render_erased]

end MonkeyLang
