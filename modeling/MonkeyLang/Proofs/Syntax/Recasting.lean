import MonkeyLang.Syntax.Tree

namespace MonkeyLang

/-!
# Programs in another form

Three things about a program should make no difference to what it does: which names it
uses, as long as different ones stay different, which tokens its trees keep, and what
stands behind a `return`.  A program is put into another form by giving it other names and
tokens, or by leaving out of each of its lists of statements what stands behind a `return`,
or by both.

Statements that differ in what stands behind a `return` only are those that are the same
once this is left out, wherever in them the list with the `return` is.
-/

/-- Another form of programs: the names and tokens that take the place of theirs, and
whether what stands behind a `return` is left out. -/
structure Recasting where
  name : String -> String
  token : Token -> Token
  trims : Bool

/-- Whether a statement is a `return`. -/
def Statement.isReturn : Statement -> Bool
  | .returning _ _ => true
  | _ => false

namespace Recasting

variable (recasting : Recasting)

/-- A name in another form. -/
def identifier (name : Identifier) : Identifier := 
  ⟨recasting.token name.token, recasting.name name.name⟩

mutual

/-- An expression in another form. -/
def expression : Expression -> Expression
  | .identifier name => .identifier (recasting.identifier name)
  | .integer token value => .integer (recasting.token token) value
  | .boolean token value => .boolean (recasting.token token) value
  | .unary token operator operand => .unary (recasting.token token) operator (expression operand)
  | .binary token left operator right =>
      .binary (recasting.token token) (expression left) operator (expression right)
  | .conditional token condition consequence none =>
      .conditional (recasting.token token) (expression condition) (block consequence) none
  | .conditional token condition consequence (some alternative) =>
      .conditional (recasting.token token) (expression condition) (block consequence)
        (some (block alternative))
  | .function token parameters body =>
      .function (recasting.token token) (parameters.map recasting.identifier) (block body)
  | .call token callee arguments =>
      .call (recasting.token token) (expression callee) (expressions arguments)
termination_by structural tree => tree

/-- Several expressions in another form. -/
def expressions : List Expression -> List Expression
  | [] => []
  | tree :: later => expression tree :: expressions later
termination_by structural trees => trees

/-- A statement in another form. -/
def statement : Statement -> Statement
  | .binding token name value =>
      .binding (recasting.token token) (recasting.identifier name) (expression value)
  | .returning token none => .returning (recasting.token token) none
  | .returning token (some value) => .returning (recasting.token token) (some (expression value))
  | .expression token value => .expression (recasting.token token) (expression value)
termination_by structural tree => tree

/-- A block in another form. -/
def block : Block -> Block
  | .mk token list => .mk (recasting.token token) (statements list)
termination_by structural tree => tree

/-- The statements of a list in another form, up to the first `return` if what stands
behind it is left out. -/
def statements : List Statement -> List Statement
  | [] => []
  | tree :: later =>
      if recasting.trims && tree.isReturn then [statement tree]
      else statement tree :: statements later
termination_by structural trees => trees

end

/-- A program in another form. -/
def program (program : Program) : Program := ⟨recasting.statements program.statements⟩

theorem length_expressions (trees : List Expression) :
    (recasting.expressions trees).length = trees.length := by
  induction trees with
  | nil => rfl
  | cons tree later ih => rw [expressions, List.length_cons, List.length_cons, ih]

theorem statements_block (tree : Block) :
    (recasting.block tree).statements = recasting.statements tree.statements := by
  cases tree
  rfl

/-- The form with other names and tokens. -/
def ofNames (name : String -> String) (token : Token -> Token) : Recasting := ⟨name, token, false⟩

/-- The form without what stands behind a `return`, and with other tokens. -/
def upToReturns (token : Token -> Token) : Recasting := ⟨id, token, true⟩

end Recasting

/-- A program with another name in the place of each name: of the variables that it
reads, of those that it binds, and of parameters.  The tokens are other ones as well. -/
def Program.renamed (name : String -> String) (token : Token -> Token) (program : Program) :
    Program :=
  (Recasting.ofNames name token).program program

/-- A program without what stands behind a `return` in one of its lists of statements:
its own, or that of a branch or of the body of a function.  The tokens are other ones. -/
def Program.trimmed (token : Token -> Token) (program : Program) : Program :=
  (Recasting.upToReturns token).program program

end MonkeyLang
