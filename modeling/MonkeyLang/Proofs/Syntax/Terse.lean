import MonkeyLang.Proofs.Grammar.Acceptance
import MonkeyLang.Proofs.Syntax.Spelling

namespace MonkeyLang

open Text

/-!
# Writing an expression with few parentheses

The canonical text puts parentheses around every operation.  The terse text has
them only around an operand or a callee that would be taken apart without them: a
left operand that holds less tightly than the operator, a right operand that does
not hold more tightly, an operand of a single-operand operator that has two
operands itself, and a callee that is an operation.

That the terse text of every expression is read as the expression says what the
table of precedences is worth: operators group by their precedence, those of one
precedence to the left, in chains of any length and mix.
-/

/-! ## The terse text -/

/-- A text, with parentheses around it if they are needed. -/
def enclosed (needed : Prop) [Decidable needed] (text : String) : String :=
  if needed then "(" ++ text ++ ")" else text

mutual

/-- The text of an expression with parentheses around those parts only that need
them. -/
def Expression.terse : Expression -> String
  | .identifier name => name.name
  | .integer _ value => decimal value.toInt
  | .boolean _ value => if value then "true" else "false"
  | .unary _ operator operand =>
      operator.text ++ enclosed (operand.precedence.rank < Precedence.unary.rank) operand.terse
  | .binary _ left operator right =>
      enclosed (left.precedence.rank < operator.precedence.rank) left.terse ++
        " " ++ operator.text ++ " " ++
        enclosed (right.precedence.rank ≤ operator.precedence.rank) right.terse
  | .conditional _ condition consequence none =>
      "if (" ++ condition.terse ++ ") " ++ consequence.terse
  | .conditional _ condition consequence (some alternative) =>
      "if (" ++ condition.terse ++ ") " ++ consequence.terse ++ " else " ++ alternative.terse
  | .function _ parameters body => "fn(" ++ renderParameters parameters ++ ") " ++ body.terse
  | .call _ callee arguments =>
      enclosed (callee.precedence.rank < Precedence.call.rank) callee.terse ++
        "(" ++ separated ", " (terseAll arguments) ++ ")"
termination_by structural tree => tree

/-- The terse texts of several expressions. -/
def terseAll : List Expression -> List String
  | [] => []
  | expression :: later => expression.terse :: terseAll later
termination_by structural trees => trees

/-- The terse text of a statement.  An expression has no semicolon of its own. -/
def Statement.terse : Statement -> String
  | .binding _ name value => "let " ++ name.name ++ " = " ++ value.terse ++ ";"
  | .returning _ none => "return;"
  | .returning _ (some value) => "return " ++ value.terse ++ ";"
  | .expression _ value => value.terse
termination_by structural tree => tree

/-- The terse text of a block. -/
def Block.terse : Block -> String
  | .mk _ statements => "\x7b " ++ terseInBlock statements ++ "\x7d"
termination_by structural tree => tree

/-- The terse text between the braces of a block. -/
def terseInBlock : List Statement -> String
  | [] => ""
  | statement :: later =>
      statement.terse ++ (if statement.isExpression then "; " else " ") ++ terseInBlock later
termination_by structural trees => trees

end

/-! ## Parts of an expression -/

/-- Whether a text is read as an expression where a condition is met. -/
def Expression.IsShownWhere (tree : Expression)
    (condition : Precedence -> List Token -> Prop) (text : String) : Prop :=
  ∃ words, Spells text words ∧ tree.IsReadWhere condition words

namespace Expression.IsShownWhere

variable {tree : Expression} {text : String}

/-- A part that stands where a condition is met has to fit there, unless it has
parentheses around it. -/
theorem part {condition : Precedence -> List Token -> Prop} {needed : Prop} [Decidable needed]
    (shown : tree.IsShownWhere tree.Fits text)
    (fits : ¬ needed -> ∀ minimum behind, condition minimum behind -> tree.Fits minimum behind) :
    tree.IsShownWhere condition (enclosed needed text) := by
  rcases shown with ⟨words, spells, reads⟩
  by_cases loose : needed
  · rw [enclosed, if_pos loose]
    exact ⟨_, .of_anywhere (.grouped spells), reads.grouped condition⟩
  · rw [enclosed, if_neg loose]
    exact ⟨words, spells, reads.weaken (fits loose)⟩

theorem alone (shown : tree.IsShownWhere tree.Fits text) :
    tree.IsShownWhere Precedence.lowest.Bounds text := by
  rcases shown with ⟨words, spells, reads⟩
  exact ⟨words, spells, reads.weaken fun _ _ => tree.fits_of_bounds⟩

theorem operand (shown : tree.IsShownWhere tree.Fits text) :
    tree.IsShownWhere Precedence.unary.Bounds
      (enclosed (tree.precedence.rank < Precedence.unary.rank) text) :=
  shown.part fun tight _ _ => fits_of_operand (Nat.not_lt.1 tight)

theorem left (shown : tree.IsShownWhere tree.Fits text) (operator : BinaryOperator) :
    tree.IsShownWhere operator.Follows
      (enclosed (tree.precedence.rank < operator.precedence.rank) text) :=
  shown.part fun tight _ _ => fits_of_left (Nat.not_lt.1 tight)

theorem right (shown : tree.IsShownWhere tree.Fits text) (operator : BinaryOperator) :
    tree.IsShownWhere operator.precedence.Bounds
      (enclosed (tree.precedence.rank ≤ operator.precedence.rank) text) :=
  shown.part fun tight _ _ => fits_of_right (Nat.not_le.1 tight)

theorem callee (shown : tree.IsShownWhere tree.Fits text) :
    tree.IsShownWhere (fun _ _ => True)
      (enclosed (tree.precedence.rank < Precedence.call.rank) text) :=
  shown.part fun tight minimum behind _ => fits_of_callee (Nat.not_lt.1 tight) minimum behind

end Expression.IsShownWhere

/-! ## Trees -/

mutual

/-- The terse text of a writable expression is read as the expression, as long as
what is around it does not take it apart. -/
theorem Expression.isShownWhere_terse : ∀ tree : Expression, tree.Writable ->
    tree.IsShownWhere tree.Fits tree.terse
  | .identifier name, writable => by
      rw [Expression.Writable] at writable
      exact ⟨_, .letters writable.toIsRun, .identifier writable⟩
  | .integer _ value, writable => by
      rw [Expression.Writable] at writable
      have digits := Spells.digits (.natural value.toInt.toNat)
      rw [← decimal_of_nonneg writable] at digits
      exact ⟨_, digits, .integer writable⟩
  | .boolean _ true, _ => ⟨_, .letters (@IsRun.of_ofKeyword? "true" _ rfl), .boolean true⟩
  | .boolean _ false, _ => ⟨_, .letters (@IsRun.of_ofKeyword? "false" _ rfl), .boolean false⟩
  | .unary _ operator operand, writable => by
      rw [Expression.Writable] at writable
      rw [Expression.terse]
      rcases (operand.isShownWhere_terse writable).operand with ⟨words, spells, reads⟩
      exact ⟨_, spells.unary operator fun _ => reads.head?_ne spells, .unary operator reads⟩
  | .binary _ left operator right, writable => by
      rw [Expression.Writable] at writable
      rw [Expression.terse]
      rcases (left.isShownWhere_terse writable.1).left operator with ⟨words, spells, reads⟩
      rcases (right.isShownWhere_terse writable.2).right operator with
        ⟨words', spells', reads'⟩
      exact ⟨_, spells.binary operator spells', .binary operator reads reads'⟩
  | .conditional _ condition consequence none, writable => by
      rw [Expression.Writable] at writable
      rw [Expression.terse]
      rcases (condition.isShownWhere_terse writable.1).alone with ⟨words, test, reads⟩
      rcases consequence.isShown_terse writable.2 with ⟨words', branch, reads'⟩
      exact ⟨_, .of_anywhere (.conditional test branch), .conditional reads reads'⟩
  | .conditional _ condition consequence (some alternative), writable => by
      rw [Expression.Writable] at writable
      rw [Expression.terse]
      rcases (condition.isShownWhere_terse writable.1).alone with ⟨words, test, reads⟩
      rcases consequence.isShown_terse writable.2.1 with ⟨words', branch, reads'⟩
      rcases alternative.isShown_terse writable.2.2 with ⟨words'', other, reads''⟩
      have whole := (SpellsAnywhere.conditional test branch).otherwise other
      rw [List.cons_append, List.cons_append, List.append_assoc] at whole
      exact ⟨_, .of_anywhere whole, .alternative reads reads' reads''⟩
  | .function _ parameters body, writable => by
      rw [Expression.Writable] at writable
      rw [Expression.terse]
      rcases body.isShown_terse writable.2 with ⟨words, inside, reads⟩
      exact ⟨_, .of_anywhere (.function writable.1 inside), .function writable.1 reads⟩
  | .call _ callee arguments, writable => by
      rw [Expression.Writable] at writable
      rw [Expression.terse]
      rcases (callee.isShownWhere_terse writable.1).callee with ⟨words, spells, reads⟩
      rcases areShown_terseAll arguments writable.2 with ⟨parts, listed, each⟩
      exact ⟨_, .of_anywhere (.call spells listed), .call reads each⟩

theorem areShown_terseAll : ∀ trees : List Expression, AllWritable trees ->
    ∃ parts, List.Forall₂ Spells (terseAll trees) parts ∧
      List.Forall₂ (·.IsReadWhere Precedence.lowest.Bounds ·) trees parts
  | [], _ => ⟨[], .nil, .nil⟩
  | tree :: later, writable => by
      rw [AllWritable] at writable
      rcases (tree.isShownWhere_terse writable.1).alone with ⟨words, spells, reads⟩
      rcases areShown_terseAll later writable.2 with ⟨parts, listed, each⟩
      exact ⟨words :: parts, .cons spells listed, .cons reads each⟩

/-- In a block, a statement has its semicolon and a blank behind it. -/
theorem Statement.isShown_terse : ∀ tree : Statement, tree.Writable ->
    ∃ words, SpellsAnywhere (tree.terse ++ if tree.isExpression then "; " else " ") words ∧
      tree.IsReadAs words
  | .binding _ name value, writable => by
      rw [Statement.Writable] at writable
      rw [Statement.terse]
      rcases (value.isShownWhere_terse writable.2).alone with ⟨words, spells, reads⟩
      exact ⟨_, .spaced (.binding writable.1 spells), .binding writable.1 reads⟩
  | .returning _ none, _ => ⟨_, .spaced .bareReturn, .bareReturn⟩
  | .returning _ (some value), writable => by
      rw [Statement.Writable] at writable
      rw [Statement.terse]
      rcases (value.isShownWhere_terse writable).alone with ⟨words, spells, reads⟩
      exact ⟨_, .spaced (.returning spells), .returning reads⟩
  | .expression _ value, writable => by
      rw [Statement.Writable] at writable
      rw [Statement.terse]
      rcases (value.isShownWhere_terse writable).alone with ⟨words, spells, reads⟩
      exact ⟨_, .terminated spells, .expression reads⟩

theorem Block.isShown_terse : ∀ tree : Block, tree.Writable ->
    ∃ words, SpellsAnywhere tree.terse words ∧ tree.IsReadAs words
  | .mk _ statements, writable => by
      rw [Block.Writable] at writable
      rw [Block.terse]
      rcases areShown_terseInBlock statements writable with ⟨words, spells, reads⟩
      exact ⟨_, .block spells, .mk reads⟩

theorem areShown_terseInBlock : ∀ trees : List Statement, StatementsWritable trees ->
    ∃ words, SpellsAnywhere (terseInBlock trees) words ∧ StatementsReadAs trees words
  | [], _ => ⟨[], fun _ => rfl, .nil⟩
  | tree :: later, writable => by
      rw [StatementsWritable] at writable
      rw [terseInBlock]
      rcases tree.isShown_terse writable.1 with ⟨words, spells, reads⟩
      rcases areShown_terseInBlock later writable.2 with ⟨words', spells', reads'⟩
      exact ⟨_, spells.append spells', .cons reads reads'⟩

end

/-! ## Reading the terse text -/

/-- The terse text of a writable expression is accepted as one statement, which is the
expression up to its tokens. -/
theorem Expression.parse_terse : ∀ tree : Expression, tree.Writable ->
    ∃ token read, parse tree.terse = .ok ⟨[.expression token read]⟩ ∧
      read.erased = tree.erased := by
  intro tree writable
  rcases (tree.isShownWhere_terse writable).alone with ⟨words, spells, reads⟩
  have spelled : (Scanner.ofString tree.terse).tokens.map Token.word = words := by
    have whole := spells [] .nil
    rw [List.append_nil, wordsOf_nil, List.append_nil] at whole
    rw [Scanner.map_word_tokens]
    exact whole
  rcases StatementPhrase.of_lastExpression reads spelled with ⟨token, read, sentence, same⟩
  have phrase := StatementsPhrase.cons sentence .nil
  rw [List.append_nil] at phrase
  exact ⟨token, read, (Reading.ofTokens_eq_ok_iff _ _ _).2 phrase, same⟩

/-- Operations on both sides of operators, under an operator with one operand and as
callees, and a conditional and a function among them. -/
def mixedOperators : Expression :=
  .binary .erased
    (.binary .erased
      (.unary .erased .negate
        (.binary .erased (.identifier ⟨.erased, "a"⟩) .minus
          (.binary .erased (.identifier ⟨.erased, "b"⟩) .minus (.integer .erased 1))))
      .times
      (.call .erased
        (.conditional .erased
          (.binary .erased (.identifier ⟨.erased, "a"⟩) .less (.integer .erased 2))
          (.mk .erased [.expression .erased (.identifier ⟨.erased, "b"⟩)]) none)
        [.binary .erased (.integer .erased 3) .plus (.integer .erased 4)]))
    .equal
    (.call .erased (.unary .erased .not (.identifier ⟨.erased, "b"⟩))
      [.function .erased [⟨.erased, "a"⟩]
        (.mk .erased [.expression .erased (.identifier ⟨.erased, "a"⟩)])])

theorem parse_terse_of_mixedOperators :
    mixedOperators.terse =
        "-(a - (b - 1)) * if (a < 2) \x7b b; \x7d(3 + 4) == (!b)(fn(a) \x7b a; \x7d)" ∧
      mixedOperators.Writable ∧
      ∃ token read, parse mixedOperators.terse = .ok ⟨[.expression token read]⟩ ∧
        read.erased = mixedOperators.erased := by
  have named : IsName "a" ∧ IsName "b" := by
    constructor <;> exact ⟨⟨by decide, by decide +kernel⟩, by decide⟩
  have writable : mixedOperators.Writable := by
    simp [mixedOperators, Expression.Writable, Block.Writable, StatementsWritable,
      Statement.Writable, AllWritable, named]
  exact ⟨by decide +kernel, writable, mixedOperators.parse_terse writable⟩

end MonkeyLang
