import MonkeyLang.Proofs.Token.Word
import MonkeyLang.Syntax.Render

namespace MonkeyLang

open Text

/-!
# The words of a tree

The canonical text of a tree is read as one fixed list of words, whatever stands
behind it, as long as that does not go on with a run of letters or digits at the
end of the text.  The list is given here by recursion on the tree, next to the
text, and contains no blanks: where the text has one it only keeps runs apart.

This needs a tree that can be written at all.  Its names have to be names, and
its numbers have to be digits without a sign.
-/

mutual

/-- Whether the text of an expression shows its names and numbers. -/
def Expression.Writable : Expression -> Prop
  | .identifier name => IsName name.name
  | .integer _ value => 0 ≤ value.toInt
  | .boolean _ _ => True
  | .unary _ _ operand => operand.Writable
  | .binary _ left _ right => left.Writable ∧ right.Writable
  | .conditional _ condition consequence none => condition.Writable ∧ consequence.Writable
  | .conditional _ condition consequence (some alternative) =>
      condition.Writable ∧ consequence.Writable ∧ alternative.Writable
  | .function _ parameters body =>
      (∀ parameter ∈ parameters, IsName parameter.name) ∧ body.Writable
  | .call _ callee arguments => callee.Writable ∧ AllWritable arguments
termination_by structural tree => tree

/-- Whether the texts of several expressions show their names and numbers. -/
def AllWritable : List Expression -> Prop
  | [] => True
  | expression :: later => expression.Writable ∧ AllWritable later
termination_by structural trees => trees

/-- Whether the text of a statement shows its names and numbers. -/
def Statement.Writable : Statement -> Prop
  | .binding _ name value => IsName name.name ∧ value.Writable
  | .returning _ none => True
  | .returning _ (some value) => value.Writable
  | .expression _ value => value.Writable
termination_by structural tree => tree

/-- Whether the text of a block shows its names and numbers. -/
def Block.Writable : Block -> Prop
  | .mk _ statements => StatementsWritable statements
termination_by structural tree => tree

/-- Whether the texts of several statements show their names and numbers. -/
def StatementsWritable : List Statement -> Prop
  | [] => True
  | statement :: later => statement.Writable ∧ StatementsWritable later
termination_by structural trees => trees

end

theorem allWritable_iff (expressions : List Expression) :
    AllWritable expressions ↔ ∀ expression ∈ expressions, expression.Writable := by
  induction expressions with
  | nil => simp [AllWritable]
  | cons expression later ih => rw [AllWritable, ih, List.forall_mem_cons]

theorem statementsWritable_iff (statements : List Statement) :
    StatementsWritable statements ↔ ∀ statement ∈ statements, statement.Writable := by
  induction statements with
  | nil => simp [StatementsWritable]
  | cons statement later ih => rw [StatementsWritable, ih, List.forall_mem_cons]

/-- Whether the text of a program shows its names and numbers. -/
def Program.Writable (program : Program) : Prop := StatementsWritable program.statements

/-- The kind of token that an operator before its operand is written as. -/
def UnaryOperator.type : UnaryOperator -> TokenType
  | .not => .bang
  | .negate => .minus

/-- The kind of token that an operator between its operands is written as. -/
def BinaryOperator.type : BinaryOperator -> TokenType
  | .equal => .equalEqual
  | .notEqual => .bangEqual
  | .less => .less
  | .greater => .greater
  | .plus => .plus
  | .minus => .minus
  | .times => .star
  | .divide => .slash

/-- The word of an operator before its operand. -/
def UnaryOperator.word (operator : UnaryOperator) : Word := ⟨operator.type, operator.text⟩

/-- The word of an operator between its operands. -/
def BinaryOperator.word (operator : BinaryOperator) : Word := ⟨operator.type, operator.text⟩

/-- Phrases with commas between them. -/
def separatedWords : List (List Word) -> List Word
  | [] => []
  | [phrase] => phrase
  | phrase :: next :: later => phrase ++ .symbol ',' :: separatedWords (next :: later)

/-- The words of parameters, as they are written between parentheses. -/
def parameterWords (parameters : List Identifier) : List Word :=
  separatedWords (parameters.map fun parameter => [.letters parameter.name])

mutual

/-- The words of an expression. -/
def Expression.words : Expression -> List Word
  | .identifier name => [.letters name.name]
  | .integer _ value => [.digits (decimal value.toInt)]
  | .boolean _ value => [.letters (if value then "true" else "false")]
  | .unary _ operator operand => .symbol '(' :: operator.word :: (operand.words ++ [.symbol ')'])
  | .binary _ left operator right =>
      .symbol '(' :: (left.words ++ operator.word :: (right.words ++ [.symbol ')']))
  | .conditional _ condition consequence none =>
      .letters "if" :: .symbol '(' :: (condition.words ++ .symbol ')' :: consequence.words)
  | .conditional _ condition consequence (some alternative) =>
      .letters "if" :: .symbol '(' :: (condition.words ++ .symbol ')' ::
        (consequence.words ++ .letters "else" :: alternative.words))
  | .function _ parameters body =>
      .letters "fn" :: .symbol '(' :: (parameterWords parameters ++ .symbol ')' :: body.words)
  | .call _ callee arguments =>
      callee.words ++ .symbol '(' :: (separatedWords (wordsOfAll arguments) ++ [.symbol ')'])
termination_by structural tree => tree

/-- The words of several expressions, each by itself. -/
def wordsOfAll : List Expression -> List (List Word)
  | [] => []
  | expression :: later => expression.words :: wordsOfAll later
termination_by structural trees => trees

/-- The words of a statement.  An expression has no semicolon of its own. -/
def Statement.words : Statement -> List Word
  | .binding _ name value =>
      .letters "let" :: .letters name.name :: ⟨.assign, "="⟩ :: (value.words ++ [.symbol ';'])
  | .returning _ none => [.letters "return", .symbol ';']
  | .returning _ (some value) => .letters "return" :: (value.words ++ [.symbol ';'])
  | .expression _ value => value.words
termination_by structural tree => tree

/-- The words of a block. -/
def Block.words : Block -> List Word
  | .mk _ statements => .symbol '\x7b' :: (wordsInBlock statements ++ [.symbol '\x7d'])
termination_by structural tree => tree

/-- The words between the braces of a block. -/
def wordsInBlock : List Statement -> List Word
  | [] => []
  | statement :: later =>
      statement.words ++ ((if statement.isExpression then [.symbol ';'] else []) ++
        wordsInBlock later)
termination_by structural trees => trees

end

/-- The words of the statements of a program. -/
def wordsOfStatements : List Statement -> List Word
  | [] => []
  | [statement] => statement.words
  | statement :: next :: later =>
      statement.words ++ ((if statement.isExpression then [.symbol ';'] else []) ++
        wordsOfStatements (next :: later))

/-- The words of a program. -/
def Program.words (program : Program) : List Word := wordsOfStatements program.statements

end MonkeyLang
