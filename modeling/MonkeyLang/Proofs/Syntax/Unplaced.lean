import MonkeyLang.Proofs.Syntax.Erasure
import MonkeyLang.Proofs.Token.Word

namespace MonkeyLang

/-!
# Trees without places

The tokens of a tree carry the places where they stand in its source.  Without the places
they still show their kinds and their characters, and so trees that are equal without
places were read from the same words.  This is less to forget than the tokens as a whole:
such trees are equal without their tokens, and have the same text.
-/

/-- A token without its place. -/
def Token.unplaced (token : Token) : Token := { token with span := .nowhere }

/-- Tokens are equal without their places where they are the same word. -/
theorem Token.unplaced_eq_iff {token token' : Token} :
    token.unplaced = token'.unplaced ↔ token.word = token'.word := by
  constructor
  · intro same
    have words : token.unplaced.word = token'.unplaced.word := congrArg Token.word same
    exact words
  · intro same
    have kind : token.type = token'.type := congrArg Word.type same
    have characters : token.lexeme = token'.lexeme := congrArg Word.lexeme same
    rw [Token.unplaced, Token.unplaced, kind, characters]

/-- Sequences of tokens are equal without their places where they are the same words. -/
theorem map_unplaced_eq_iff {tokens tokens' : List Token} :
    tokens.map Token.unplaced = tokens'.map Token.unplaced ↔
      tokens.map Token.word = tokens'.map Token.word := by
  induction tokens generalizing tokens' with
  | nil => cases tokens' <;> simp
  | cons token rest ih =>
      cases tokens' with
      | nil => simp
      | cons token' rest' =>
          rw [List.map_cons, List.map_cons, List.map_cons, List.map_cons, List.cons_eq_cons,
            List.cons_eq_cons, Token.unplaced_eq_iff, ih]

/-- A name without the place of its token. -/
def Identifier.unplaced (name : Identifier) : Identifier := ⟨name.token.unplaced, name.name⟩

mutual

/-- An expression without the places of its tokens. -/
def Expression.unplaced : Expression -> Expression
  | .identifier name => .identifier name.unplaced
  | .integer token value => .integer token.unplaced value
  | .boolean token value => .boolean token.unplaced value
  | .unary token operator operand => .unary token.unplaced operator operand.unplaced
  | .binary token left operator right =>
      .binary token.unplaced left.unplaced operator right.unplaced
  | .conditional token condition consequence none =>
      .conditional token.unplaced condition.unplaced consequence.unplaced none
  | .conditional token condition consequence (some alternative) =>
      .conditional token.unplaced condition.unplaced consequence.unplaced
        (some alternative.unplaced)
  | .function token parameters body =>
      .function token.unplaced (parameters.map Identifier.unplaced) body.unplaced
  | .call token callee arguments =>
      .call token.unplaced callee.unplaced (unplaceAll arguments)
termination_by structural tree => tree

/-- Several expressions without the places of their tokens. -/
def unplaceAll : List Expression -> List Expression
  | [] => []
  | expression :: later => expression.unplaced :: unplaceAll later
termination_by structural trees => trees

/-- A statement without the places of its tokens. -/
def Statement.unplaced : Statement -> Statement
  | .binding token name value => .binding token.unplaced name.unplaced value.unplaced
  | .returning token none => .returning token.unplaced none
  | .returning token (some value) => .returning token.unplaced (some value.unplaced)
  | .expression token value => .expression token.unplaced value.unplaced
termination_by structural tree => tree

/-- A block without the places of its tokens. -/
def Block.unplaced : Block -> Block
  | .mk token statements => .mk token.unplaced (unplaceStatements statements)
termination_by structural tree => tree

/-- Several statements without the places of their tokens. -/
def unplaceStatements : List Statement -> List Statement
  | [] => []
  | statement :: later => statement.unplaced :: unplaceStatements later
termination_by structural trees => trees

end

/-- A program without the places of its tokens. -/
def Program.unplaced (program : Program) : Program := ⟨unplaceStatements program.statements⟩

theorem unplaceStatements_eq_map (statements : List Statement) :
    unplaceStatements statements = statements.map Statement.unplaced := by
  induction statements with
  | nil => rfl
  | cons statement later ih => rw [unplaceStatements, ih, List.map_cons]

theorem unplaceStatements_append (first second : List Statement) :
    unplaceStatements (first ++ second) =
      unplaceStatements first ++ unplaceStatements second := by
  rw [unplaceStatements_eq_map, unplaceStatements_eq_map, unplaceStatements_eq_map,
    List.map_append]

/-! ## Forgetting the rest of the tokens -/

theorem map_erased_map_unplaced (parameters : List Identifier) :
    (parameters.map Identifier.unplaced).map Identifier.erased =
      parameters.map Identifier.erased := by
  rw [List.map_map]
  rfl

mutual

/-- Whoever forgets the tokens need not forget their places first. -/
theorem Expression.erased_unplaced : ∀ tree : Expression, tree.unplaced.erased = tree.erased
  | .identifier _ | .integer _ _ | .boolean _ _ => rfl
  | .unary _ _ operand => by
      rw [Expression.unplaced, Expression.erased, Expression.erased, operand.erased_unplaced]
  | .binary _ left _ right => by
      rw [Expression.unplaced, Expression.erased, Expression.erased, left.erased_unplaced,
        right.erased_unplaced]
  | .conditional _ condition consequence none => by
      rw [Expression.unplaced, Expression.erased, Expression.erased,
        condition.erased_unplaced, consequence.erased_unplaced]
  | .conditional _ condition consequence (some alternative) => by
      rw [Expression.unplaced, Expression.erased, Expression.erased,
        condition.erased_unplaced, consequence.erased_unplaced, alternative.erased_unplaced]
  | .function _ parameters body => by
      rw [Expression.unplaced, Expression.erased, Expression.erased,
        map_erased_map_unplaced, body.erased_unplaced]
  | .call _ callee arguments => by
      rw [Expression.unplaced, Expression.erased, Expression.erased, callee.erased_unplaced,
        eraseAll_unplaceAll arguments]

theorem eraseAll_unplaceAll : ∀ trees : List Expression,
    eraseAll (unplaceAll trees) = eraseAll trees
  | [] => rfl
  | tree :: later => by
      rw [unplaceAll, eraseAll, eraseAll, tree.erased_unplaced, eraseAll_unplaceAll later]

theorem Statement.erased_unplaced : ∀ tree : Statement, tree.unplaced.erased = tree.erased
  | .binding _ _ value => by
      rw [Statement.unplaced, Statement.erased, Statement.erased, value.erased_unplaced]
      rfl
  | .returning _ none => rfl
  | .returning _ (some value) => by
      rw [Statement.unplaced, Statement.erased, Statement.erased, value.erased_unplaced]
  | .expression _ value => by
      rw [Statement.unplaced, Statement.erased, Statement.erased, value.erased_unplaced]

theorem Block.erased_unplaced : ∀ tree : Block, tree.unplaced.erased = tree.erased
  | .mk _ statements => by
      rw [Block.unplaced, Block.erased, Block.erased, eraseStatements_unplaceStatements statements]

theorem eraseStatements_unplaceStatements : ∀ trees : List Statement,
    eraseStatements (unplaceStatements trees) = eraseStatements trees
  | [] => rfl
  | tree :: later => by
      rw [unplaceStatements, eraseStatements, eraseStatements, tree.erased_unplaced,
        eraseStatements_unplaceStatements later]

end

/-- Programs that are equal without places are equal without their tokens. -/
theorem Program.erased_eq_of_unplaced_eq {first second : Program}
    (same : first.unplaced = second.unplaced) : first.erased = second.erased := by
  have statements (program : Program) : program.unplaced.erased = program.erased :=
    congrArg Program.mk (eraseStatements_unplaceStatements program.statements)
  rw [← statements first, same, statements second]

end MonkeyLang
