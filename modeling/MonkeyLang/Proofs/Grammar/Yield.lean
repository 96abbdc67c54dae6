import MonkeyLang.Proofs.Grammar.Acceptance
import MonkeyLang.Proofs.Grammar.Matching

namespace MonkeyLang

/-!
# What a tree keeps of its tokens

A program that was accepted keeps every token of its source once and in order, apart from
those that only separate or enclose.  Of the opening parentheses it keeps those of calls;
as all other parentheses go, these are left out of the comparison too.

The proof follows the grammar, which accepted sources are phrases of.  Each rule is put
together from tokens that are kept and tokens that are not, in the order of the phrase.
-/

/-- The kinds of token that only separate or enclose, and that leave nothing in a tree, the
parenthesis of a call apart. -/
def TokenType.isPunctuation : TokenType -> Bool
  | .leftParenthesis | .rightParenthesis | .rightBrace | .comma | .semicolon | .assign
  | .elseWord | .ending => true
  | _ => false

/-- Whether the tokens of a tree are those of its phrase, without opening parentheses on
the one side and without punctuation on the other. -/
def Retells (kept phrase : List Token) : Prop :=
  kept.filter (fun token => token.type ≠ .leftParenthesis) =
    phrase.filter fun token => !token.type.isPunctuation

namespace Retells

variable {kept kept' phrase phrase' : List Token} {token : Token}

theorem nil : Retells [] [] := rfl

theorem append (first : Retells kept phrase) (second : Retells kept' phrase') :
    Retells (kept ++ kept') (phrase ++ phrase') := by
  unfold Retells at *
  rw [List.filter_append, List.filter_append, first, second]

/-- A token that a node keeps. -/
theorem keep {type : TokenType} (kind : token.type = type) (plain : type.isPunctuation = false)
    (later : Retells kept phrase) : Retells (token :: kept) (token :: phrase) := by
  have solid : type ≠ .leftParenthesis := by
    rintro rfl
    cases plain
  unfold Retells at *
  rw [List.filter_cons_of_pos (by simp [kind, solid]),
    List.filter_cons_of_pos (by simp [kind, plain]), later]

/-- A token that no node keeps. -/
theorem leave {type : TokenType} (kind : token.type = type) (punctuates : type.isPunctuation = true)
    (later : Retells kept phrase) : Retells kept (token :: phrase) := by
  unfold Retells at *
  rw [List.filter_cons_of_neg (by simp [kind, punctuates]), later]

/-- The parenthesis of a call. -/
theorem call (opens : token.type = .leftParenthesis) (later : Retells kept phrase) :
    Retells (token :: kept) (token :: phrase) := by
  unfold Retells at *
  rw [List.filter_cons_of_neg (by simp [opens]),
    List.filter_cons_of_neg (by simp [opens, TokenType.isPunctuation]), later]

/-- A phrase with a token behind it that no node keeps. -/
theorem close {type : TokenType} (inside : Retells kept phrase) (kind : token.type = type)
    (punctuates : type.isPunctuation = true) : Retells kept (phrase ++ [token]) := by
  have whole := inside.append (.leave kind punctuates .nil)
  rwa [List.append_nil] at whole

end Retells

theorem isPunctuation_of_unary {type : TokenType} {operator : UnaryOperator}
    (known : UnaryOperator.ofTokenType? type = some operator) : type.isPunctuation = false := by
  cases type <;> first | rfl | cases known

theorem isPunctuation_of_binary {type : TokenType} {operator : BinaryOperator}
    (known : BinaryOperator.ofTokenType? type = some operator) : type.isPunctuation = false := by
  cases type <;> first | rfl | cases known

/-! ## Phrases and their trees -/

theorem NamesPhrase.retells {phrase : List Token} {names : List Identifier}
    (list : NamesPhrase phrase names) : Retells (names.map (·.token)) phrase := by
  induction list with
  | last kind => exact .keep kind rfl .nil
  | more kind separates _ ih =>
      exact .keep kind rfl (.leave separates rfl ih)

theorem ParametersPhrase.retells {phrase : List Token} {names : List Identifier}
    (list : ParametersPhrase phrase names) : Retells (names.map (·.token)) phrase := by
  cases list with
  | none => exact .nil
  | some list => exact list.retells

/-- The semicolon behind a statement is not kept. -/
theorem ClosingPhrase.retells {kept phrase last behind : List Token}
    (closing : ClosingPhrase last behind) (inside : Retells kept phrase) :
    Retells kept (phrase ++ last) := by
  cases closing with
  | semicolon kind => exact inside.close kind rfl
  | absent => rwa [List.append_nil]

theorem Expression.tokens_conditional (token : Token) (condition : Expression)
    (consequence : Block) (alternative : Option Block) :
    (Expression.conditional token condition consequence alternative).tokens =
      token :: (condition.tokens ++
        (consequence.tokens ++ (alternative.map Block.tokens).getD [])) := by
  cases alternative <;> simp [Expression.tokens]

mutual

theorem PrimaryPhrase.retells {phrase behind : List Token} {value : Expression} :
    PrimaryPhrase phrase behind value -> Retells value.tokens phrase
  | .identifier kind => by
      rw [Expression.tokens]
      exact .keep kind rfl .nil
  | .integer kind _ | .trueWord kind | .falseWord kind => by
      rw [Expression.tokens]
      exact .keep kind rfl .nil
  | .unary known operand => by
      rw [Expression.tokens]
      exact .keep rfl (isPunctuation_of_unary known) operand.retells
  | .grouped opens inside closes => .leave opens rfl (inside.retells.close closes rfl)
  | .conditional starts opens test closes first second => by
      rw [Expression.tokens_conditional]
      exact .keep starts rfl (.leave opens rfl (test.retells.append
        (.leave closes rfl (first.retells.append second.retells))))
  | .function starts opens parameters closes body => by
      rw [Expression.tokens]
      exact .keep starts rfl (.leave opens rfl
        (parameters.retells.append (.leave closes rfl body.retells)))

theorem ChainPhrase.retells {minimum : Precedence} {phrase behind : List Token}
    {value : Expression} :
    ChainPhrase minimum phrase behind value -> Retells value.tokens phrase
  | .start primary => primary.retells
  | .binary left known _ right => by
      rw [Expression.tokens]
      exact left.retells.append (.keep rfl (isPunctuation_of_binary known) right.retells)
  | .call callee opens arguments closes => by
      rw [Expression.tokens]
      exact callee.retells.append (.call opens (arguments.retells.close closes rfl))

theorem ExpressionPhrase.retells {minimum : Precedence} {phrase behind : List Token}
    {value : Expression} :
    ExpressionPhrase minimum phrase behind value -> Retells value.tokens phrase
  | .ended chain _ => chain.retells

theorem ArgumentsPhrase.retells {phrase behind : List Token} {values : List Expression} :
    ArgumentsPhrase phrase behind values -> Retells (tokensOfAll values) phrase
  | .none => .nil
  | .some list => list.retells

theorem ArgumentListPhrase.retells {phrase behind : List Token} {values : List Expression} :
    ArgumentListPhrase phrase behind values -> Retells (tokensOfAll values) phrase
  | .last value => by
      rw [tokensOfAll, tokensOfAll, List.append_nil]
      exact value.retells
  | .more value separates later => by
      rw [tokensOfAll]
      exact value.retells.append (.leave separates rfl later.retells)

theorem AlternativePhrase.retells {phrase behind : List Token} {alternative : Option Block} :
    AlternativePhrase phrase behind alternative ->
      Retells ((alternative.map Block.tokens).getD []) phrase
  | .absent _ => .nil
  | .present word block => .leave word rfl block.retells

theorem BlockPhrase.retells {phrase behind : List Token} {block : Block} :
    BlockPhrase phrase behind block -> Retells block.tokens phrase
  | .closed opens statements closes => by
      rw [Block.tokens]
      exact .keep opens rfl (statements.retells.close closes rfl)
  | .ended opens statements => by
      rw [Block.tokens]
      exact .keep opens rfl statements.retells

theorem StatementsPhrase.retells {phrase behind : List Token} {statements : List Statement} :
    StatementsPhrase phrase behind statements -> Retells (tokensOfStatements statements) phrase
  | .nil => .nil
  | .cons first later => by
      rw [tokensOfStatements]
      exact first.retells.append later.retells

theorem StatementPhrase.retells {phrase behind : List Token} {statement : Statement} :
    StatementPhrase phrase behind statement -> Retells statement.tokens phrase
  | .binding starts name sign value closing => by
      rw [Statement.tokens]
      exact .keep starts rfl (.keep name rfl (.leave sign rfl (closing.retells value.retells)))
  | .bareReturn starts closes => by
      rw [Statement.tokens]
      exact .keep starts rfl (.leave closes rfl .nil)
  | .lastReturn starts _ => by
      rw [Statement.tokens]
      exact .keep starts rfl .nil
  | .returning starts value closing => by
      rw [Statement.tokens]
      exact .keep starts rfl (closing.retells value.retells)
  | .expression value closing => by
      rw [Statement.tokens]
      exact closing.retells value.retells

end

/-! ## Sources -/

/-- The tokens of an accepted program, calls' parentheses left out, are those of its source
without the punctuation, at the same places and in the same order.  And whether a source is
accepted or not, every node of what is read from it is what its token says, and the token
is one of the source. -/
theorem trees_account_for_tokens (source : String) :
    (∀ program, parse source = .ok program ->
      program.tokens.filter (fun token => token.type ≠ .leftParenthesis) =
        (tokensOf source).filter fun token => !token.type.isPunctuation) ∧
    (Reading.ofSource source).program.Matches (· ∈ (Scanner.ofString source).tokens) := by
  constructor
  · intro program accepted
    have phrase : ProgramPhrase (Scanner.ofString source).tokens program :=
      (Reading.ofTokens_eq_ok_iff _ _ program).mp accepted
    exact phrase.retells.close (show (Scanner.ofString source).ending.type = .ending from rfl) rfl
  · exact Reading.program_matches _ _

/-- A grouped operand leaves no parenthesis behind, and a number keeps its zeros. -/
theorem trees_account_for_tokens_of_call :
    ∃ program, parse "let x = (a + 007) * -f(b, c);" = .ok program ∧
      (program.tokens.filter fun token => token.type ≠ .leftParenthesis).map Token.lexeme =
        ["let", "x", "a", "+", "007", "*", "-", "f", "b", "c"] := by
  have accepted : ∃ program, parse "let x = (a + 007) * -f(b, c);" = .ok program :=
    exists_parse_eq_ok (by decide +kernel)
  have listed : ((tokensOf "let x = (a + 007) * -f(b, c);").filter
      fun token => !token.type.isPunctuation).map Token.lexeme =
        ["let", "x", "a", "+", "007", "*", "-", "f", "b", "c"] := by decide +kernel
  rcases accepted with ⟨program, shape⟩
  exact ⟨program, shape, ((trees_account_for_tokens _).1 program shape) ▸ listed⟩

end MonkeyLang
