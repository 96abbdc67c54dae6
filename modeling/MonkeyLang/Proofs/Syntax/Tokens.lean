import MonkeyLang.Integer
import MonkeyLang.Syntax.Tree
import MonkeyLang.Text.Decimal

namespace MonkeyLang

open Text

/-!
# The tokens of a tree

Every node of a tree keeps a token.  Listed in the order in which a source has them, these
tokens are what the tree has kept of its source: an operator stands between its operands,
and the parenthesis of a call between the callee and the arguments.  A statement that is
an expression keeps the first token of the expression once more, and so adds none.

A node and its token say the same thing twice.  Whether they agree is a question that can
be asked of every tree, also of one whose source has faults.
-/

mutual

/-- The tokens of an expression, in the order of its source. -/
def Expression.tokens : Expression -> List Token
  | .identifier name => [name.token]
  | .integer token _ => [token]
  | .boolean token _ => [token]
  | .unary token _ operand => token :: operand.tokens
  | .binary token left _ right => left.tokens ++ token :: right.tokens
  | .conditional token condition consequence none =>
      token :: (condition.tokens ++ consequence.tokens)
  | .conditional token condition consequence (some alternative) =>
      token :: (condition.tokens ++ (consequence.tokens ++ alternative.tokens))
  | .function token parameters body => token :: (parameters.map (·.token) ++ body.tokens)
  | .call token callee arguments => callee.tokens ++ token :: tokensOfAll arguments
termination_by structural tree => tree

/-- The tokens of several expressions. -/
def tokensOfAll : List Expression -> List Token
  | [] => []
  | expression :: later => expression.tokens ++ tokensOfAll later
termination_by structural trees => trees

/-- The tokens of a statement. -/
def Statement.tokens : Statement -> List Token
  | .binding token name value => token :: name.token :: value.tokens
  | .returning token none => [token]
  | .returning token (some value) => token :: value.tokens
  | .expression _ value => value.tokens
termination_by structural tree => tree

/-- The tokens of a block. -/
def Block.tokens : Block -> List Token
  | .mk token statements => token :: tokensOfStatements statements
termination_by structural tree => tree

/-- The tokens of several statements. -/
def tokensOfStatements : List Statement -> List Token
  | [] => []
  | statement :: later => statement.tokens ++ tokensOfStatements later
termination_by structural trees => trees

end

/-- The tokens of a program, in the order of its source. -/
def Program.tokens (program : Program) : List Token := tokensOfStatements program.statements

/-! ## Nodes and their tokens -/

section Matching

variable (shown : Token -> Prop)

/-- Whether a name is the lexeme of its token. -/
structure Identifier.Matches (name : Identifier) : Prop where
  shown : shown name.token
  type : name.token.type = .identifier
  lexeme : name.name = name.token.lexeme

mutual

/-- Whether every node of an expression is what its token says, and all tokens have a
property. -/
def Expression.Matches : Expression -> Prop
  | .identifier name => name.Matches shown
  | .integer token value =>
      shown token ∧ token.type = .integer ∧ value.toInt = ofDigits token.lexeme.toList
  | .boolean token value =>
      shown token ∧ token.type = if value then .trueWord else .falseWord
  | .unary token operator operand =>
      shown token ∧ UnaryOperator.ofTokenType? token.type = some operator ∧ operand.Matches
  | .binary token left operator right =>
      shown token ∧ BinaryOperator.ofTokenType? token.type = some operator ∧
        left.Matches ∧ right.Matches
  | .conditional token condition consequence none =>
      shown token ∧ token.type = .ifWord ∧ condition.Matches ∧ consequence.Matches
  | .conditional token condition consequence (some alternative) =>
      shown token ∧ token.type = .ifWord ∧ condition.Matches ∧ consequence.Matches ∧
        alternative.Matches
  | .function token parameters body =>
      shown token ∧ token.type = .functionWord ∧
        (∀ parameter ∈ parameters, parameter.Matches shown) ∧ body.Matches
  | .call token callee arguments =>
      shown token ∧ token.type = .leftParenthesis ∧ callee.Matches ∧ AllMatch arguments
termination_by structural tree => tree

/-- Whether several expressions are what their tokens say. -/
def AllMatch : List Expression -> Prop
  | [] => True
  | expression :: later => expression.Matches ∧ AllMatch later
termination_by structural trees => trees

/-- Whether every node of a statement is what its token says. -/
def Statement.Matches : Statement -> Prop
  | .binding token name value =>
      shown token ∧ token.type = .letWord ∧ name.Matches shown ∧ value.Matches
  | .returning token none => shown token ∧ token.type = .returnWord
  | .returning token (some value) => shown token ∧ token.type = .returnWord ∧ value.Matches
  | .expression token value => shown token ∧ value.Matches
termination_by structural tree => tree

/-- Whether every node of a block is what its token says. -/
def Block.Matches : Block -> Prop
  | .mk token statements =>
      shown token ∧ token.type = .leftBrace ∧ StatementsMatch statements
termination_by structural tree => tree

/-- Whether several statements are what their tokens say. -/
def StatementsMatch : List Statement -> Prop
  | [] => True
  | statement :: later => statement.Matches ∧ StatementsMatch later
termination_by structural trees => trees

end

/-- Whether every node of a program is what its token says, and all tokens have a
property. -/
def Program.Matches (program : Program) : Prop := StatementsMatch shown program.statements

theorem statementsMatch_append {first second : List Statement}
    (before : StatementsMatch shown first) (behind : StatementsMatch shown second) :
    StatementsMatch shown (first ++ second) := by
  induction first with
  | nil => exact behind
  | cons statement later ih =>
      rw [StatementsMatch] at before
      rw [List.cons_append, StatementsMatch]
      exact ⟨before.1, ih before.2⟩

end Matching

end MonkeyLang
