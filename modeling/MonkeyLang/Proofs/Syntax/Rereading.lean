import MonkeyLang.Proofs.Syntax.Forms

namespace MonkeyLang

/-!
# Deriving the words of a tree

Tokens that are the words of a writable tree are a phrase of the grammar, and
the phrase stands for the tree, up to tokens.

Every expression is read as itself wherever it stands: its text either starts
with a word of its own or is grouped by parentheses, so no operator outside of it
can be taken for one of its parts.
-/

mutual

/-- The words of a writable expression are read as the expression. -/
theorem Expression.isReadWhere_words : ∀ tree : Expression, tree.Writable ->
    ∀ condition, tree.IsReadWhere condition tree.words
  | .identifier name, writable => by
      intro condition
      rw [Expression.Writable] at writable
      exact .identifier writable
  | .integer _ value, writable => by
      intro condition
      rw [Expression.Writable] at writable
      exact .integer writable
  | .boolean _ value, _ => fun _ => .boolean value
  | .unary _ operator operand, writable => by
      intro condition
      rw [Expression.Writable] at writable
      rw [Expression.words]
      have inner := operand.isReadWhere_words writable
      exact (Expression.IsReadWhere.unary operator (inner _)).grouped condition
  | .binary token left operator right, writable => by
      intro condition
      rw [Expression.Writable] at writable
      rw [Expression.words]
      have first := left.isReadWhere_words writable.1
      have second := right.isReadWhere_words writable.2
      have whole : (Expression.binary token left operator right).IsReadWhere _ _ :=
        .binary operator (first _) (second _)
      have grouped := whole.grouped condition
      rw [List.append_assoc] at grouped
      exact grouped
  | .conditional _ condition consequence none, writable => by
      intro _
      rw [Expression.Writable] at writable
      rw [Expression.words]
      have test := condition.isReadWhere_words writable.1
      exact .conditional (test _) (consequence.isReadAs_words writable.2)
  | .conditional _ condition consequence (some alternative), writable => by
      intro _
      rw [Expression.Writable] at writable
      rw [Expression.words]
      have test := condition.isReadWhere_words writable.1
      exact .alternative (test _) (consequence.isReadAs_words writable.2.1)
        (alternative.isReadAs_words writable.2.2)
  | .function _ parameters body, writable => by
      intro condition
      rw [Expression.Writable] at writable
      rw [Expression.words]
      exact .function writable.1 (body.isReadAs_words writable.2)
  | .call _ callee arguments, writable => by
      intro condition
      rw [Expression.Writable] at writable
      rw [Expression.words]
      have called := callee.isReadWhere_words writable.1
      exact .call (called _) (isReadWhere_wordsOfAll arguments writable.2)

theorem isReadWhere_wordsOfAll : ∀ trees : List Expression, AllWritable trees ->
    List.Forall₂ (·.IsReadWhere Precedence.lowest.Bounds ·) trees (wordsOfAll trees)
  | [], _ => .nil
  | tree :: later, writable => by
      rw [AllWritable] at writable
      have first := tree.isReadWhere_words writable.1
      exact .cons (first _) (isReadWhere_wordsOfAll later writable.2)

/-- The words of a statement that has a semicolon behind it, of its own or as a
separator, are read as the statement. -/
theorem Statement.isReadAs_words : ∀ tree : Statement, tree.Writable ->
    tree.IsReadAs (tree.words ++ if tree.isExpression then [.symbol ';'] else [])
  | .binding _ name value, writable => by
      rw [Statement.Writable] at writable
      simp only [Statement.isExpression, Bool.false_eq_true, if_false, List.append_nil]
      have bound := value.isReadWhere_words writable.2
      exact .binding writable.1 (bound _)
  | .returning _ none, _ => .bareReturn
  | .returning _ (some value), writable => by
      rw [Statement.Writable] at writable
      simp only [Statement.isExpression, Bool.false_eq_true, if_false, List.append_nil]
      have returned := value.isReadWhere_words writable
      exact .returning (returned _)
  | .expression _ value, writable => by
      rw [Statement.Writable] at writable
      have stated := value.isReadWhere_words writable
      exact .expression (stated _)

theorem Block.isReadAs_words : ∀ tree : Block, tree.Writable -> tree.IsReadAs tree.words
  | .mk _ statements, writable => by
      rw [Block.Writable] at writable
      rw [Block.words]
      exact .mk (readAs_wordsInBlock statements writable)

theorem readAs_wordsInBlock : ∀ trees : List Statement, StatementsWritable trees ->
    StatementsReadAs trees (wordsInBlock trees)
  | [], _ => .nil
  | tree :: later, writable => by
      rw [StatementsWritable] at writable
      rw [wordsInBlock, ← List.append_assoc]
      exact .cons (tree.isReadAs_words writable.1) (readAs_wordsInBlock later writable.2)

end

/-- The last statement of a program has nothing behind it, not even a separator. -/
theorem Statement.phrase_of_words_last {tree : Statement} (writable : tree.Writable)
    {phrase : List Token} (spelled : phrase.map Token.word = tree.words) :
    ∃ read, StatementPhrase phrase [] read ∧ read.erased = tree.erased := by
  cases tree with
  | expression token value =>
      rw [Statement.Writable] at writable
      have stated := value.isReadWhere_words writable
      rcases StatementPhrase.of_lastExpression (stated _) spelled with
        ⟨token, read, sentence, same⟩
      refine ⟨_, sentence, ?_⟩
      rw [Statement.erased, Statement.erased, same]
  | binding token name value =>
      exact (Statement.binding token name value).isReadAs_words writable phrase
        (spelled.trans (List.append_nil _).symm) []
  | returning token value =>
      exact (Statement.returning token value).isReadAs_words writable phrase
        (spelled.trans (List.append_nil _).symm) []

theorem statementsPhrase_of_words : ∀ trees : List Statement, StatementsWritable trees ->
    ∀ phrase : List Token, phrase.map Token.word = wordsOfStatements trees ->
      ∃ read, StatementsPhrase phrase [] read ∧ eraseStatements read = eraseStatements trees
  | [], _ => by
      intro phrase spelled
      rw [List.map_eq_nil_iff.1 spelled]
      exact ⟨[], .nil, rfl⟩
  | [tree], writable => by
      intro phrase spelled
      rw [StatementsWritable] at writable
      rcases Statement.phrase_of_words_last writable.1 spelled with ⟨read, sentence, same⟩
      have whole := @StatementsPhrase.cons phrase [] [] read [] sentence .nil
      rw [List.append_nil] at whole
      refine ⟨[read], whole, ?_⟩
      rw [eraseStatements, eraseStatements, same]
      rfl
  | tree :: next :: later, writable => by
      intro phrase spelled
      rw [StatementsWritable] at writable
      rw [wordsOfStatements, ← List.append_assoc] at spelled
      rcases List.map_eq_append_iff.1 spelled with ⟨before, after, rfl, shown, shown'⟩
      rcases tree.isReadAs_words writable.1 before shown (after ++ []) with ⟨read, first, same⟩
      rcases statementsPhrase_of_words (next :: later) writable.2 after shown' with
        ⟨others, rest, same'⟩
      refine ⟨_, .cons first rest, ?_⟩
      rw [eraseStatements, eraseStatements, same, same']

/-- The words of a writable program are read as the program, up to tokens. -/
theorem ProgramPhrase.of_words {program : Program} (writable : program.Writable)
    {tokens : List Token} (spelled : tokens.map Token.word = program.words) :
    ∃ read, ProgramPhrase tokens read ∧ read.erased = program.erased := by
  rcases statementsPhrase_of_words program.statements writable tokens spelled with
    ⟨read, phrase, same⟩
  exact ⟨⟨read⟩, phrase, congrArg Program.mk same⟩

end MonkeyLang
