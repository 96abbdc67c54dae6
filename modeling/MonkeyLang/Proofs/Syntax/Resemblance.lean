import Mathlib.Data.List.Forall2
import MonkeyLang.Proofs.Syntax.Erasure

namespace MonkeyLang

/-!
# Trees of one shape

Two trees resemble each other when they have the same shape, the same numbers and
the same operators, and names in corresponding places that are related in a given
way.  Their tokens may differ.  This is the relation between two programs that a
comparison of their runs starts from, and between the bodies of the functions
that the runs make.
-/

/-- Whether two lists of parameters have the same length and related names. -/
def ParametersResemble (names : String -> String -> Prop) (first second : List Identifier) :
    Prop :=
  List.Forall₂ (fun parameter other => names parameter.name other.name) first second

section

variable (names : String -> String -> Prop)

mutual

/-- Expressions of one shape. -/
inductive Expression.Resembles : Expression -> Expression -> Prop
  | identifier {first second} :
      names first.name second.name ->
      Expression.Resembles (.identifier first) (.identifier second)
  | integer {token token' value} :
      Expression.Resembles (.integer token value) (.integer token' value)
  | boolean {token token' value} :
      Expression.Resembles (.boolean token value) (.boolean token' value)
  | unary {token token' operator first second} :
      Expression.Resembles first second ->
      Expression.Resembles (.unary token operator first) (.unary token' operator second)
  | binary {token token' operator left left' right right'} :
      Expression.Resembles left left' -> Expression.Resembles right right' ->
      Expression.Resembles (.binary token left operator right)
        (.binary token' left' operator right')
  | conditional {token token' condition condition' consequence consequence'} :
      Expression.Resembles condition condition' -> Block.Resembles consequence consequence' ->
      Expression.Resembles (.conditional token condition consequence none)
        (.conditional token' condition' consequence' none)
  | alternative {token token' condition condition' consequence consequence' other other'} :
      Expression.Resembles condition condition' -> Block.Resembles consequence consequence' ->
      Block.Resembles other other' ->
      Expression.Resembles (.conditional token condition consequence (some other))
        (.conditional token' condition' consequence' (some other'))
  | function {token token' parameters parameters' body body'} :
      ParametersResemble names parameters parameters' -> Block.Resembles body body' ->
      Expression.Resembles (.function token parameters body) (.function token' parameters' body')
  | call {token token' callee callee' arguments arguments'} :
      Expression.Resembles callee callee' -> ExpressionsResemble arguments arguments' ->
      Expression.Resembles (.call token callee arguments) (.call token' callee' arguments')

/-- Lists of expressions of one shape. -/
inductive ExpressionsResemble : List Expression -> List Expression -> Prop
  | nil : ExpressionsResemble [] []
  | cons {first second later later'} :
      Expression.Resembles first second -> ExpressionsResemble later later' ->
      ExpressionsResemble (first :: later) (second :: later')

/-- Statements of one shape. -/
inductive Statement.Resembles : Statement -> Statement -> Prop
  | binding {token token' name name' value value'} :
      names name.name name'.name -> Expression.Resembles value value' ->
      Statement.Resembles (.binding token name value) (.binding token' name' value')
  | bareReturn {token token'} :
      Statement.Resembles (.returning token none) (.returning token' none)
  | returning {token token' value value'} :
      Expression.Resembles value value' ->
      Statement.Resembles (.returning token (some value)) (.returning token' (some value'))
  | expression {token token' value value'} :
      Expression.Resembles value value' ->
      Statement.Resembles (.expression token value) (.expression token' value')

/-- Blocks of one shape. -/
inductive Block.Resembles : Block -> Block -> Prop
  | mk {token token' statements statements'} :
      StatementsResemble statements statements' ->
      Block.Resembles (.mk token statements) (.mk token' statements')

/-- Lists of statements of one shape. -/
inductive StatementsResemble : List Statement -> List Statement -> Prop
  | nil : StatementsResemble [] []
  | cons {first second later later'} :
      Statement.Resembles first second -> StatementsResemble later later' ->
      StatementsResemble (first :: later) (second :: later')

end

end

theorem ExpressionsResemble.length_eq {names : String -> String -> Prop}
    {first second : List Expression} :
    ExpressionsResemble names first second -> first.length = second.length
  | .nil => rfl
  | .cons _ later => congrArg (· + 1) later.length_eq

theorem Block.Resembles.statements {names : String -> String -> Prop} {first second : Block}
    (block : first.Resembles names second) :
    StatementsResemble names first.statements second.statements := by
  cases block with
  | mk statements => exact statements

/-! ## Erased trees -/

theorem ParametersResemble.erased (parameters : List Identifier) :
    ParametersResemble Eq parameters (parameters.map Identifier.erased) := by
  induction parameters with
  | nil => exact .nil
  | cons parameter later ih => exact .cons rfl ih

mutual

/-- A tree differs from the erased one in its tokens only. -/
theorem Expression.resembles_erased : ∀ tree : Expression, tree.Resembles Eq tree.erased
  | .identifier _ => .identifier rfl
  | .integer _ _ => .integer
  | .boolean _ _ => .boolean
  | .unary _ _ operand => .unary operand.resembles_erased
  | .binary _ left _ right => .binary left.resembles_erased right.resembles_erased
  | .conditional _ condition consequence none =>
      .conditional condition.resembles_erased consequence.resembles_erased
  | .conditional _ condition consequence (some alternative) =>
      .alternative condition.resembles_erased consequence.resembles_erased
        alternative.resembles_erased
  | .function _ parameters body => .function (.erased parameters) body.resembles_erased
  | .call _ callee arguments =>
      .call callee.resembles_erased (expressionsResemble_eraseAll arguments)

theorem expressionsResemble_eraseAll :
    ∀ trees : List Expression, ExpressionsResemble Eq trees (eraseAll trees)
  | [] => .nil
  | tree :: later => .cons tree.resembles_erased (expressionsResemble_eraseAll later)

theorem Statement.resembles_erased : ∀ tree : Statement, tree.Resembles Eq tree.erased
  | .binding _ _ value => .binding rfl value.resembles_erased
  | .returning _ none => .bareReturn
  | .returning _ (some value) => .returning value.resembles_erased
  | .expression _ value => .expression value.resembles_erased

theorem Block.resembles_erased : ∀ tree : Block, tree.Resembles Eq tree.erased
  | .mk _ statements => .mk (statementsResemble_eraseStatements statements)

theorem statementsResemble_eraseStatements :
    ∀ trees : List Statement, StatementsResemble Eq trees (eraseStatements trees)
  | [] => .nil
  | tree :: later => .cons tree.resembles_erased (statementsResemble_eraseStatements later)

end

/-! ## Trees and themselves -/

theorem ParametersResemble.self (parameters : List Identifier) :
    ParametersResemble Eq parameters parameters := by
  induction parameters with
  | nil => exact .nil
  | cons parameter later ih => exact .cons rfl ih

mutual

theorem Expression.resembles_self : ∀ tree : Expression, tree.Resembles Eq tree
  | .identifier _ => .identifier rfl
  | .integer _ _ => .integer
  | .boolean _ _ => .boolean
  | .unary _ _ operand => .unary operand.resembles_self
  | .binary _ left _ right => .binary left.resembles_self right.resembles_self
  | .conditional _ condition consequence none =>
      .conditional condition.resembles_self consequence.resembles_self
  | .conditional _ condition consequence (some alternative) =>
      .alternative condition.resembles_self consequence.resembles_self alternative.resembles_self
  | .function _ parameters body => .function (.self parameters) body.resembles_self
  | .call _ callee arguments =>
      .call callee.resembles_self (expressionsResemble_self arguments)

theorem expressionsResemble_self :
    ∀ trees : List Expression, ExpressionsResemble Eq trees trees
  | [] => .nil
  | tree :: later => .cons tree.resembles_self (expressionsResemble_self later)

theorem Statement.resembles_self : ∀ tree : Statement, tree.Resembles Eq tree
  | .binding _ _ value => .binding rfl value.resembles_self
  | .returning _ none => .bareReturn
  | .returning _ (some value) => .returning value.resembles_self
  | .expression _ value => .expression value.resembles_self

theorem Block.resembles_self : ∀ tree : Block, tree.Resembles Eq tree
  | .mk _ statements => .mk (statementsResemble_self statements)

theorem statementsResemble_self : ∀ trees : List Statement, StatementsResemble Eq trees trees
  | [] => .nil
  | tree :: later => .cons tree.resembles_self (statementsResemble_self later)

end

/-! ## The text of trees with the same names -/

theorem ParametersResemble.names_eq {first second : List Identifier}
    (same : ParametersResemble Eq first second) :
    first.map (·.name) = second.map (·.name) := by
  induction same with
  | nil => rfl
  | cons name _ ih => rw [List.map_cons, List.map_cons, name, ih]

theorem ParametersResemble.render_eq {first second : List Identifier}
    (same : ParametersResemble Eq first second) :
    renderParameters first = renderParameters second := by
  rw [renderParameters, same.names_eq, renderParameters]

theorem Statement.Resembles.isExpression_eq {names : String -> String -> Prop}
    {first second : Statement} (same : first.Resembles names second) :
    first.isExpression = second.isExpression := by
  cases same <;> rfl

mutual

/-- Trees of one shape with the same names have the same text. -/
theorem Expression.Resembles.render_eq {first second : Expression} :
    first.Resembles Eq second -> first.render = second.render
  | .identifier name => name
  | .integer | .boolean => rfl
  | .unary operand => by
      rw [Expression.render, Expression.render, operand.render_eq]
  | .binary left right => by
      rw [Expression.render, Expression.render, left.render_eq, right.render_eq]
  | .conditional condition consequence => by
      rw [Expression.render, Expression.render, condition.render_eq, consequence.render_eq]
  | .alternative condition consequence other => by
      rw [Expression.render, Expression.render, condition.render_eq, consequence.render_eq,
        other.render_eq]
  | .function parameters body => by
      rw [Expression.render, Expression.render, parameters.render_eq, body.render_eq]
  | .call callee arguments => by
      rw [Expression.render, Expression.render, callee.render_eq, arguments.render_eq]

theorem ExpressionsResemble.render_eq {first second : List Expression} :
    ExpressionsResemble Eq first second -> renderAll first = renderAll second
  | .nil => rfl
  | .cons tree later => by
      rw [renderAll, renderAll, tree.render_eq, later.render_eq]

theorem Statement.Resembles.render_eq {first second : Statement} :
    first.Resembles Eq second -> first.render = second.render
  | .binding name value => by
      rw [Statement.render, Statement.render, name, value.render_eq]
  | .bareReturn => rfl
  | .returning value => by
      rw [Statement.render, Statement.render, value.render_eq]
  | .expression value => by
      rw [Statement.render, Statement.render, value.render_eq]

theorem Block.Resembles.render_eq {first second : Block} :
    first.Resembles Eq second -> first.render = second.render
  | .mk statements => by
      rw [Block.render, Block.render, statements.renderInBlock_eq]

theorem StatementsResemble.renderInBlock_eq {first second : List Statement} :
    StatementsResemble Eq first second -> renderInBlock first = renderInBlock second
  | .nil => rfl
  | .cons tree later => by
      rw [renderInBlock, renderInBlock, tree.render_eq, tree.isExpression_eq,
        later.renderInBlock_eq]

end

end MonkeyLang
