import Mathlib.Data.List.Forall2
import MonkeyLang.Proofs.Grammar.Phrase
import MonkeyLang.Proofs.Syntax.Erasure
import MonkeyLang.Proofs.Syntax.Words

namespace MonkeyLang

open Text

/-!
# The phrase of each form of tree

Tokens that show certain words are a phrase of the grammar.  For each form of
tree there is one lemma: from how the words of the parts are read it follows how
the words of the whole are read.  How the parts are written is left open, so the
lemmas serve every way of placing parentheses.

The words of an expression are read as the expression only where nothing else takes
one of its parts.  That depends on the precedence that the expression has to
keep to, which an operator in front of it has set, and on the tokens behind it.
A conditional without an alternative asks something of what stands behind it as
well.  But no part of a tree is written in front of `else` except the branch of a
conditional, which is a block.
-/

/-! ## What stands behind a part of a tree -/

/-- No expression goes on with a token that is neither an operator between
operands nor an opening parenthesis. -/
theorem Precedence.Ends.of_type {type : TokenType} {token : Token} (kind : token.type = type)
    (parenthesis : type ≠ .leftParenthesis)
    (operator : BinaryOperator.ofTokenType? type = none) (minimum : Precedence)
    (rest : List Token) : minimum.Ends (token :: rest) := by
  apply Followed.cons
  rw [kind]
  refine ⟨parenthesis, ?_⟩
  intro found known
  rw [operator] at known
  cases known

theorem Precedence.Ends.nil (minimum : Precedence) : minimum.Ends [] := Followed.nil _

/-- What ends in front of some tokens ends there all the more if it holds tighter. -/
theorem Precedence.Ends.mono {loose tight : Precedence} {behind : List Token}
    (ends : loose.Ends behind) (tighter : loose.rank ≤ tight.rank) : tight.Ends behind := by
  intro next member
  rcases ends next member with ⟨parenthesis, looser⟩
  refine ⟨parenthesis, ?_⟩
  intro operator known tightest
  exact looser operator known (Nat.lt_of_le_of_lt tighter tightest)

theorem Followed.of_type {condition : TokenType -> Prop} {type : TokenType} {token : Token}
    (kind : token.type = type) (met : condition type) (rest : List Token) :
    Followed condition (token :: rest) :=
  Followed.cons (kind ▸ met)

theorem UnaryOperator.ofTokenType?_type (operator : UnaryOperator) :
    ofTokenType? operator.type = some operator := by
  cases operator <;> rfl

theorem BinaryOperator.ofTokenType?_type (operator : BinaryOperator) :
    ofTokenType? operator.type = some operator := by
  cases operator <;> rfl

theorem BinaryOperator.type_ne_elseWord (operator : BinaryOperator) :
    operator.type ≠ .elseWord := by
  cases operator <;> decide

theorem BinaryOperator.type_ne_leftParenthesis (operator : BinaryOperator) :
    operator.type ≠ .leftParenthesis := by
  cases operator <;> decide

theorem BinaryOperator.lowest_rank_lt (operator : BinaryOperator) :
    Precedence.lowest.rank < operator.precedence.rank := by
  cases operator <;> decide

theorem BinaryOperator.rank_lt_unary (operator : BinaryOperator) :
    operator.precedence.rank < Precedence.unary.rank := by
  cases operator <;> decide

/-- An operator takes over from what holds at least as tightly as itself, which makes
operators of one precedence group to the left. -/
theorem Precedence.Ends.of_operator {operator : BinaryOperator} {precedence : Precedence}
    (tighter : operator.precedence.rank ≤ precedence.rank) {behind : List Token}
    (follows : Followed (· = operator.type) behind) : precedence.Ends behind := by
  intro next member
  rw [follows next member]
  refine ⟨operator.type_ne_leftParenthesis, ?_⟩
  intro found known
  rw [operator.ofTokenType?_type] at known
  cases known
  exact Nat.not_lt.2 tighter

/-! ## Names and numbers -/

theorem Word.type_letters_of_isName {text : String} (name : IsName text) :
    (Word.letters text).type = .identifier := by
  simp only [Word.letters, name.free, Option.getD_none]

theorem NamesPhrase.of_parameterWords : ∀ {parameters : List Identifier},
    parameters ≠ [] -> (∀ parameter ∈ parameters, IsName parameter.name) ->
    ∀ phrase : List Token, phrase.map Token.word = parameterWords parameters ->
      ∃ names, NamesPhrase phrase names ∧
        names.map Identifier.erased = parameters.map Identifier.erased
  | [], inhabited, _ => absurd rfl inhabited
  | [parameter], _, named => by
      intro phrase spelled
      rcases List.map_eq_singleton_iff.1 spelled with ⟨token, rfl, shown⟩
      have kind : token.type = .identifier :=
        Token.type_of_word shown (Word.type_letters_of_isName (named _ (by simp)))
      have text : token.lexeme = parameter.name := Token.lexeme_of_word shown
      refine ⟨_, .last kind, ?_⟩
      simp [Token.toIdentifier, Identifier.erased, text]
  | parameter :: next :: later, _, named => by
      intro phrase spelled
      rcases List.map_eq_cons_iff.1 spelled with ⟨token, rest, rfl, shown, spelled⟩
      rcases List.map_eq_cons_iff.1 spelled with ⟨comma, rest, rfl, shown', spelled⟩
      have kind : token.type = .identifier :=
        Token.type_of_word shown (Word.type_letters_of_isName (named _ (by simp)))
      have text : token.lexeme = parameter.name := Token.lexeme_of_word shown
      have others := NamesPhrase.of_parameterWords (by simp)
        (fun other member => named other (List.mem_cons_of_mem _ member)) rest spelled
      rcases others with ⟨names, list, same⟩
      refine ⟨_, .more kind (Token.type_of_word shown' rfl) list, ?_⟩
      rw [List.map_cons, List.map_cons, same]
      simp [Token.toIdentifier, Identifier.erased, text]

theorem ParametersPhrase.of_parameterWords {parameters : List Identifier}
    (named : ∀ parameter ∈ parameters, IsName parameter.name) {phrase : List Token}
    (spelled : phrase.map Token.word = parameterWords parameters) :
    ∃ names, ParametersPhrase phrase names ∧
      names.map Identifier.erased = parameters.map Identifier.erased := by
  cases parameters with
  | nil =>
      rw [List.map_eq_nil_iff.1 spelled]
      exact ⟨[], .none, rfl⟩
  | cons first later =>
      rcases NamesPhrase.of_parameterWords (by simp) named phrase spelled with ⟨names, list, same⟩
      exact ⟨names, .some list, same⟩

/-! ## Where an expression stands -/

/-- The symbols that stand behind a complete expression. -/
def TokenType.closesExpression : TokenType -> Bool
  | .rightParenthesis | .comma | .semicolon => true
  | _ => false

/-- Whether words are read as an expression wherever the precedence that it has to
keep to and the tokens behind it meet a condition. -/
def Expression.IsReadWhere (tree : Expression)
    (condition : Precedence -> List Token -> Prop) (words : List Word) : Prop :=
  ∀ phrase : List Token, phrase.map Token.word = words ->
    ∀ minimum behind, Followed (· ≠ .elseWord) behind -> condition minimum behind ->
      ∃ read, ChainPhrase minimum phrase behind read ∧ read.erased = tree.erased

/-- Where an expression keeps to a precedence and has to be complete. -/
def Precedence.Bounds (precedence minimum : Precedence) (behind : List Token) : Prop :=
  minimum = precedence ∧ precedence.Ends behind

/-- Where an expression is the left operand of an operator. -/
def BinaryOperator.Follows (operator : BinaryOperator) (minimum : Precedence)
    (behind : List Token) : Prop :=
  minimum.rank < operator.precedence.rank ∧ Followed (· = operator.type) behind

/-- How tightly the words of an expression hold together if no parentheses are put
around them.  What is not an operation is as tight as a call. -/
def Expression.precedence : Expression -> Precedence
  | .unary _ _ _ => .unary
  | .binary _ _ operator _ => operator.precedence
  | _ => .call

/-- Where an expression needs no parentheses. -/
def Expression.Fits : Expression -> Precedence -> List Token -> Prop
  | .unary _ _ _, _, behind => Precedence.unary.Ends behind
  | .binary _ _ operator _, minimum, behind =>
      minimum.rank < operator.precedence.rank ∧ operator.precedence.Ends behind
  | _, _, _ => True

namespace Expression

theorem lowest_rank_lt_precedence (tree : Expression) :
    Precedence.lowest.rank < tree.precedence.rank := by
  cases tree with
  | unary token operator operand =>
      exact (by decide : Precedence.lowest.rank < Precedence.unary.rank)
  | binary token left operator right => exact operator.lowest_rank_lt
  | _ => exact (by decide : Precedence.lowest.rank < Precedence.call.rank)

theorem fits_of_lt {tree : Expression} {minimum : Precedence} {behind : List Token}
    (tighter : minimum.rank < tree.precedence.rank) (ends : tree.precedence.Ends behind) :
    tree.Fits minimum behind := by
  cases tree with
  | unary token operator operand => exact ends
  | binary token left operator right => exact ⟨tighter, ends⟩
  | _ => trivial

/-- Nothing is needed around a complete expression. -/
theorem fits_of_bounds (tree : Expression) {minimum : Precedence} {behind : List Token}
    (bounds : Precedence.lowest.Bounds minimum behind) : tree.Fits minimum behind := by
  rcases bounds with ⟨rfl, ends⟩
  have tighter := tree.lowest_rank_lt_precedence
  exact fits_of_lt tighter (ends.mono (Nat.le_of_lt tighter))

theorem fits_of_left {tree : Expression} {operator : BinaryOperator}
    (tighter : operator.precedence.rank ≤ tree.precedence.rank) {minimum : Precedence}
    {behind : List Token} (left : operator.Follows minimum behind) :
    tree.Fits minimum behind :=
  fits_of_lt (Nat.lt_of_lt_of_le left.1 tighter) (.of_operator tighter left.2)

theorem fits_of_right {tree : Expression} {operator : BinaryOperator}
    (tighter : operator.precedence.rank < tree.precedence.rank) {minimum : Precedence}
    {behind : List Token} (right : operator.precedence.Bounds minimum behind) :
    tree.Fits minimum behind := by
  rcases right with ⟨rfl, ends⟩
  exact fits_of_lt tighter (ends.mono (Nat.le_of_lt tighter))

/-- An operation with one operand may be such an operand itself, although it does not
hold tighter. -/
theorem fits_of_operand {tree : Expression}
    (tight : Precedence.unary.rank ≤ tree.precedence.rank) {minimum : Precedence}
    {behind : List Token} (operand : Precedence.unary.Bounds minimum behind) :
    tree.Fits minimum behind := by
  cases tree with
  | unary token operator inner => exact operand.2
  | binary token left operator right => exact absurd operator.rank_lt_unary (Nat.not_lt.2 tight)
  | _ => trivial

theorem fits_of_callee {tree : Expression}
    (tight : Precedence.call.rank ≤ tree.precedence.rank) (minimum : Precedence)
    (behind : List Token) : tree.Fits minimum behind := by
  cases tree with
  | unary token operator operand =>
      exact absurd tight (by decide : ¬ Precedence.call.rank ≤ Precedence.unary.rank)
  | binary token left operator right =>
      have looser := Nat.lt_of_le_of_lt tight operator.rank_lt_unary
      exact absurd looser (by decide)
  | _ => trivial

end Expression

/-! ## Expressions -/

namespace Expression.IsReadWhere

variable {tree : Expression} {condition : Precedence -> List Token -> Prop} {words : List Word}
  {token : Token}

theorem weaken {narrow : Precedence -> List Token -> Prop}
    (reads : tree.IsReadWhere condition words)
    (within : ∀ minimum behind, narrow minimum behind -> condition minimum behind) :
    tree.IsReadWhere narrow words := by
  intro phrase spelled minimum behind follows met
  exact reads phrase spelled minimum behind follows (within minimum behind met)

theorem complete {precedence : Precedence} (reads : tree.IsReadWhere precedence.Bounds words)
    {phrase : List Token} (spelled : phrase.map Token.word = words) {behind : List Token}
    (follows : Followed (· ≠ .elseWord) behind) (ends : precedence.Ends behind) :
    ∃ read, ExpressionPhrase precedence phrase behind read ∧ read.erased = tree.erased := by
  rcases reads phrase spelled precedence behind follows ⟨rfl, ends⟩ with ⟨read, chain, same⟩
  exact ⟨read, .ended chain ends, same⟩

/-- An expression is complete in front of each symbol that closes it. -/
theorem closed {precedence : Precedence} (reads : tree.IsReadWhere precedence.Bounds words)
    {phrase : List Token} (spelled : phrase.map Token.word = words) {closing : Token}
    {type : TokenType} (kind : closing.type = type) (closes : type.closesExpression = true)
    (behind : List Token) :
    ∃ read, ExpressionPhrase precedence phrase (closing :: behind) read ∧
      read.erased = tree.erased := by
  have plain : type ≠ .elseWord ∧ type ≠ .leftParenthesis ∧
      BinaryOperator.ofTokenType? type = none := by
    cases type <;> cases closes <;> decide
  rcases plain with ⟨turn, parenthesis, operator⟩
  exact reads.complete spelled (.of_type kind turn behind)
    (.of_type kind parenthesis operator precedence behind)

/-- Words that are read as an expression start as every expression does. -/
theorem starts {precedence : Precedence} (reads : tree.IsReadWhere precedence.Bounds words) :
    ∃ word later, words = word :: later ∧ word.type.startsExpression = true := by
  let phrase : List Token := words.map fun word => ⟨word.type, word.lexeme, Span.nowhere⟩
  have spelled : phrase.map Token.word = words := by simp [phrase, Function.comp_def, Token.word]
  rcases reads.complete spelled (Followed.nil _) (.nil _) with ⟨read, whole, _⟩
  rcases whole.starts with ⟨token, rest, shape, begins⟩
  rw [shape, List.map_cons] at spelled
  exact ⟨token.word, rest.map Token.word, spelled.symm, begins⟩

theorem identifier {name : Identifier} (shape : IsName name.name) :
    (Expression.identifier name).IsReadWhere condition [.letters name.name] := by
  intro phrase spelled minimum behind _ _
  rcases List.map_eq_singleton_iff.1 spelled with ⟨token, rfl, shown⟩
  have kind : token.type = .identifier :=
    Token.type_of_word shown (Word.type_letters_of_isName shape)
  have text : token.lexeme = name.name := Token.lexeme_of_word shown
  refine ⟨_, .start (.identifier kind), ?_⟩
  simp [Expression.erased, Token.toIdentifier, Identifier.erased, text]

theorem integer {value : Int64} (positive : 0 ≤ value.toInt) :
    (Expression.integer token value).IsReadWhere condition [.digits (decimal value.toInt)] := by
  intro phrase spelled minimum behind _ _
  rcases List.map_eq_singleton_iff.1 spelled with ⟨token, rfl, shown⟩
  have text : token.lexeme = natural value.toInt.toNat :=
    (Token.lexeme_of_word shown).trans (decimal_of_nonneg positive)
  have amount : value.toInt = ofDigits token.lexeme.toList := by
    rw [text, natural, String.toList_ofList, ofDigits_digits, Int.toNat_of_nonneg positive]
  exact ⟨_, .start (.integer (Token.type_of_word shown rfl) amount), rfl⟩

theorem boolean (value : Bool) :
    (Expression.boolean token value).IsReadWhere condition
      [.letters (if value then "true" else "false")] := by
  intro phrase spelled minimum behind _ _
  rcases List.map_eq_singleton_iff.1 spelled with ⟨token, rfl, shown⟩
  cases value with
  | true => exact ⟨_, .start (.trueWord (Token.type_of_word shown rfl)), rfl⟩
  | false => exact ⟨_, .start (.falseWord (Token.type_of_word shown rfl)), rfl⟩

/-- Between parentheses an expression is complete, so with them it stands anywhere. -/
theorem grouped (reads : tree.IsReadWhere tree.Fits words)
    (condition : Precedence -> List Token -> Prop) :
    tree.IsReadWhere condition (.symbol '(' :: (words ++ [.symbol ')'])) := by
  intro phrase spelled minimum behind _ _
  rcases List.map_eq_cons_iff.1 spelled with ⟨opening, rest, rfl, opens, spelled⟩
  rcases List.map_eq_append_iff.1 spelled with ⟨inside, rest, rfl, shown, last⟩
  rcases List.map_eq_singleton_iff.1 last with ⟨closing, rfl, closes⟩
  have closes : closing.type = .rightParenthesis := Token.type_of_word closes rfl
  have alone := reads.weaken fun _ _ => tree.fits_of_bounds
  rcases alone.closed shown closes rfl behind with ⟨read, phrase, same⟩
  exact ⟨read, .start (.grouped (Token.type_of_word opens rfl) phrase closes), same⟩

theorem unary (operator : UnaryOperator) {operand : Expression}
    (reads : operand.IsReadWhere Precedence.unary.Bounds words) :
    (Expression.unary token operator operand).IsReadWhere
      (Expression.unary token operator operand).Fits (operator.word :: words) := by
  intro phrase spelled minimum behind follows ends
  rcases List.map_eq_cons_iff.1 spelled with ⟨sign, rest, rfl, signs, shown⟩
  have known : UnaryOperator.ofTokenType? sign.type = some operator :=
    Token.type_of_word signs rfl ▸ operator.ofTokenType?_type
  rcases reads.complete shown follows ends with ⟨read, phrase, same⟩
  refine ⟨_, .start (.unary known phrase), ?_⟩
  rw [Expression.erased, Expression.erased, same]

theorem binary (operator : BinaryOperator) {left right : Expression} {words' : List Word}
    (first : left.IsReadWhere operator.Follows words)
    (second : right.IsReadWhere operator.precedence.Bounds words') :
    (Expression.binary token left operator right).IsReadWhere
      (Expression.binary token left operator right).Fits
      (words ++ operator.word :: words') := by
  intro phrase spelled minimum behind follows fits
  rcases fits with ⟨tighter, ends⟩
  rcases List.map_eq_append_iff.1 spelled with ⟨before, rest, rfl, shown, others⟩
  rcases List.map_eq_cons_iff.1 others with ⟨sign, after, rfl, signs, shown'⟩
  have kind : sign.type = operator.type := Token.type_of_word signs rfl
  have known : BinaryOperator.ofTokenType? sign.type = some operator :=
    kind ▸ operator.ofTokenType?_type
  rcases first before shown minimum (sign :: (after ++ behind))
    (.of_type kind operator.type_ne_elseWord _) ⟨tighter, .cons kind⟩ with ⟨read, chain, same⟩
  rcases second.complete shown' follows ends with ⟨read', phrase, same'⟩
  refine ⟨_, .binary chain known tighter phrase, ?_⟩
  rw [Expression.erased, Expression.erased, same, same']

end Expression.IsReadWhere

/-- Whether words are read as a block wherever they stand. -/
def Block.IsReadAs (tree : Block) (words : List Word) : Prop :=
  ∀ phrase : List Token, phrase.map Token.word = words -> ∀ behind,
    ∃ read, BlockPhrase phrase behind read ∧ read.erased = tree.erased

/-- Expressions with commas between them are read one by one, in front of a closing
parenthesis. -/
theorem ArgumentListPhrase.of_separatedWords {trees : List Expression}
    {parts : List (List Word)} (inhabited : trees ≠ [])
    (each : List.Forall₂ (·.IsReadWhere Precedence.lowest.Bounds ·) trees parts)
    {phrase : List Token} (spelled : phrase.map Token.word = separatedWords parts)
    {closing : Token} (closes : closing.type = .rightParenthesis) (behind : List Token) :
    ∃ values, ArgumentListPhrase phrase (closing :: behind) values ∧
      eraseAll values = eraseAll trees := by
  induction each generalizing phrase with
  | nil => exact absurd rfl inhabited
  | cons first others ih =>
      cases others with
      | nil =>
          rcases first.closed spelled closes rfl behind with ⟨read, phrase, same⟩
          refine ⟨[read], .last phrase, ?_⟩
          rw [eraseAll, eraseAll, same]
          rfl
      | cons next more =>
          rcases List.map_eq_append_iff.1 spelled with ⟨before, rest, rfl, shown, spelled⟩
          rcases List.map_eq_cons_iff.1 spelled with ⟨comma, after, rfl, separates, shown'⟩
          have separates : comma.type = .comma := Token.type_of_word separates rfl
          rcases first.closed shown separates rfl (after ++ closing :: behind) with
            ⟨read, phrase, same⟩
          rcases ih (by simp) shown' with ⟨values, list, same'⟩
          refine ⟨read :: values, .more phrase separates list, ?_⟩
          rw [eraseAll, eraseAll, same, same']

theorem ArgumentsPhrase.of_separatedWords {trees : List Expression} {parts : List (List Word)}
    (each : List.Forall₂ (·.IsReadWhere Precedence.lowest.Bounds ·) trees parts)
    {phrase : List Token} (spelled : phrase.map Token.word = separatedWords parts)
    {closing : Token} (closes : closing.type = .rightParenthesis) (behind : List Token) :
    ∃ values, ArgumentsPhrase phrase (closing :: behind) values ∧
      eraseAll values = eraseAll trees := by
  cases trees with
  | nil =>
      cases each
      rw [List.map_eq_nil_iff.1 spelled]
      exact ⟨[], .none, rfl⟩
  | cons tree later =>
      rcases ArgumentListPhrase.of_separatedWords (by simp) each spelled closes behind with
        ⟨values, list, same⟩
      exact ⟨values, .some list, same⟩

namespace Expression.IsReadWhere

variable {condition : Precedence -> List Token -> Prop} {words : List Word} {token : Token}

/-- A conditional without an alternative must not be followed by one of another. -/
theorem conditional {test : Expression} {consequence : Block} {words' : List Word}
    (reads : test.IsReadWhere Precedence.lowest.Bounds words)
    (branch : consequence.IsReadAs words') :
    (Expression.conditional token test consequence none).IsReadWhere condition
      (.letters "if" :: .symbol '(' :: (words ++ .symbol ')' :: words')) := by
  intro phrase spelled minimum behind follows _
  rcases List.map_eq_cons_iff.1 spelled with ⟨word, rest, rfl, starts, spelled⟩
  rcases List.map_eq_cons_iff.1 spelled with ⟨opening, rest, rfl, opens, spelled⟩
  rcases List.map_eq_append_iff.1 spelled with ⟨inside, rest, rfl, shown, others⟩
  rcases List.map_eq_cons_iff.1 others with ⟨closing, after, rfl, closes, shown'⟩
  have closes : closing.type = .rightParenthesis := Token.type_of_word closes rfl
  rcases reads.closed shown closes rfl (after ++ ([] ++ behind)) with
    ⟨read, phrase, same⟩
  rcases branch after shown' behind with ⟨block, phrase', same'⟩
  have whole := PrimaryPhrase.conditional (Token.type_of_word starts rfl)
    (Token.type_of_word opens rfl) phrase closes phrase' (.absent follows)
  rw [List.append_nil] at whole
  refine ⟨_, .start whole, ?_⟩
  rw [Expression.erased, Expression.erased, same, same']

theorem alternative {test : Expression} {consequence alternative : Block}
    {words' words'' : List Word} (reads : test.IsReadWhere Precedence.lowest.Bounds words)
    (branch : consequence.IsReadAs words') (other : alternative.IsReadAs words'') :
    (Expression.conditional token test consequence (some alternative)).IsReadWhere condition
      (.letters "if" :: .symbol '(' :: (words ++ .symbol ')' ::
        (words' ++ .letters "else" :: words''))) := by
  intro phrase spelled minimum behind _ _
  rcases List.map_eq_cons_iff.1 spelled with ⟨word, rest, rfl, starts, spelled⟩
  rcases List.map_eq_cons_iff.1 spelled with ⟨opening, rest, rfl, opens, spelled⟩
  rcases List.map_eq_append_iff.1 spelled with ⟨inside, rest, rfl, shown, others⟩
  rcases List.map_eq_cons_iff.1 others with ⟨closing, rest, rfl, closes, others⟩
  rcases List.map_eq_append_iff.1 others with ⟨after, rest, rfl, shown', others⟩
  rcases List.map_eq_cons_iff.1 others with ⟨turn, after', rfl, turns, shown''⟩
  have closes : closing.type = .rightParenthesis := Token.type_of_word closes rfl
  rcases reads.closed shown closes rfl (after ++ (turn :: after' ++ behind)) with
    ⟨read, phrase, same⟩
  rcases branch after shown' (turn :: after' ++ behind) with ⟨block, phrase', same'⟩
  rcases other after' shown'' behind with ⟨block', phrase'', same''⟩
  have whole := PrimaryPhrase.conditional (Token.type_of_word starts rfl)
    (Token.type_of_word opens rfl) phrase closes phrase'
    (.present (Token.type_of_word turns rfl) phrase'')
  refine ⟨_, .start whole, ?_⟩
  rw [Expression.erased, Expression.erased, same, same', same'']

theorem function {parameters : List Identifier} {body : Block}
    (named : ∀ parameter ∈ parameters, IsName parameter.name) (reads : body.IsReadAs words) :
    (Expression.function token parameters body).IsReadWhere condition
      (.letters "fn" :: .symbol '(' :: (parameterWords parameters ++ .symbol ')' :: words)) := by
  intro phrase spelled minimum behind _ _
  rcases List.map_eq_cons_iff.1 spelled with ⟨word, rest, rfl, starts, spelled⟩
  rcases List.map_eq_cons_iff.1 spelled with ⟨opening, rest, rfl, opens, spelled⟩
  rcases List.map_eq_append_iff.1 spelled with ⟨listed, rest, rfl, shown, others⟩
  rcases List.map_eq_cons_iff.1 others with ⟨closing, rest, rfl, closes, shown'⟩
  rcases ParametersPhrase.of_parameterWords named shown with ⟨names, list, same⟩
  rcases reads rest shown' behind with ⟨block, phrase, same'⟩
  have whole := PrimaryPhrase.function (Token.type_of_word starts rfl)
    (Token.type_of_word opens rfl) list (Token.type_of_word closes rfl) phrase
  refine ⟨_, .start whole, ?_⟩
  rw [Expression.erased, Expression.erased, same, same']

/-- A call keeps to the precedence that its callee keeps to, so nothing is put
around it. -/
theorem call {callee : Expression} {arguments : List Expression} {parts : List (List Word)}
    (called : callee.IsReadWhere (fun _ _ => True) words)
    (each : List.Forall₂ (·.IsReadWhere Precedence.lowest.Bounds ·) arguments parts) :
    (Expression.call token callee arguments).IsReadWhere condition
      (words ++ .symbol '(' :: (separatedWords parts ++ [.symbol ')'])) := by
  intro phrase spelled minimum behind _ _
  rcases List.map_eq_append_iff.1 spelled with ⟨before, rest, rfl, shown, others⟩
  rcases List.map_eq_cons_iff.1 others with ⟨opening, rest, rfl, opens, others⟩
  rcases List.map_eq_append_iff.1 others with ⟨inside, rest, rfl, shown', last⟩
  rcases List.map_eq_singleton_iff.1 last with ⟨closing, rfl, closes⟩
  have opens : opening.type = .leftParenthesis := Token.type_of_word opens rfl
  have closes : closing.type = .rightParenthesis := Token.type_of_word closes rfl
  rcases called before shown minimum (opening :: (inside ++ closing :: behind))
    (.of_type opens (by decide) _) trivial with ⟨read, chain, same⟩
  rcases ArgumentsPhrase.of_separatedWords each shown' closes behind with ⟨values, list, same'⟩
  refine ⟨_, .call chain opens list closes, ?_⟩
  rw [Expression.erased, Expression.erased, same, same']

end Expression.IsReadWhere

/-! ## Statements -/

/-- Whether words are read as a statement wherever they stand. -/
def Statement.IsReadAs (tree : Statement) (words : List Word) : Prop :=
  ∀ phrase : List Token, phrase.map Token.word = words -> ∀ behind,
    ∃ read, StatementPhrase phrase behind read ∧ read.erased = tree.erased

/-- Whether words are read as several statements wherever they stand. -/
def StatementsReadAs (trees : List Statement) (words : List Word) : Prop :=
  ∀ phrase : List Token, phrase.map Token.word = words -> ∀ behind,
    ∃ read, StatementsPhrase phrase behind read ∧ eraseStatements read = eraseStatements trees

namespace Statement.IsReadAs

variable {token : Token} {value : Expression} {words : List Word}

theorem binding {name : Identifier} (shape : IsName name.name)
    (reads : value.IsReadWhere Precedence.lowest.Bounds words) :
    (Statement.binding token name value).IsReadAs
      (.letters "let" :: .letters name.name :: ⟨.assign, "="⟩ :: (words ++ [.symbol ';'])) := by
  intro phrase spelled behind
  rcases List.map_eq_cons_iff.1 spelled with ⟨word, rest, rfl, starts, spelled⟩
  rcases List.map_eq_cons_iff.1 spelled with ⟨token, rest, rfl, named, spelled⟩
  rcases List.map_eq_cons_iff.1 spelled with ⟨sign, rest, rfl, signs, spelled⟩
  rcases List.map_eq_append_iff.1 spelled with ⟨inside, rest, rfl, shown, last⟩
  rcases List.map_eq_singleton_iff.1 last with ⟨closing, rfl, closes⟩
  have closes : closing.type = .semicolon := Token.type_of_word closes rfl
  have kind : token.type = .identifier :=
    Token.type_of_word named (Word.type_letters_of_isName shape)
  have text : token.lexeme = name.name := Token.lexeme_of_word named
  rcases reads.closed shown closes rfl behind with ⟨read, phrase, same⟩
  refine ⟨_, .binding (Token.type_of_word starts rfl) kind (Token.type_of_word signs rfl)
    phrase (.semicolon closes), ?_⟩
  simp [Statement.erased, same, Token.toIdentifier, Identifier.erased, text]

theorem bareReturn :
    (Statement.returning token none).IsReadAs [.letters "return", .symbol ';'] := by
  intro phrase spelled behind
  rcases List.map_eq_cons_iff.1 spelled with ⟨word, rest, rfl, starts, spelled⟩
  rcases List.map_eq_singleton_iff.1 spelled with ⟨closing, rfl, closes⟩
  exact ⟨_, .bareReturn (Token.type_of_word starts rfl) (Token.type_of_word closes rfl), rfl⟩

theorem returning (reads : value.IsReadWhere Precedence.lowest.Bounds words) :
    (Statement.returning token (some value)).IsReadAs
      (.letters "return" :: (words ++ [.symbol ';'])) := by
  intro phrase spelled behind
  rcases List.map_eq_cons_iff.1 spelled with ⟨word, rest, rfl, starts, spelled⟩
  rcases List.map_eq_append_iff.1 spelled with ⟨inside, rest, rfl, shown, last⟩
  rcases List.map_eq_singleton_iff.1 last with ⟨closing, rfl, closes⟩
  have closes : closing.type = .semicolon := Token.type_of_word closes rfl
  rcases reads.closed shown closes rfl behind with ⟨read, phrase, same⟩
  refine ⟨_, .returning (Token.type_of_word starts rfl) phrase (.semicolon closes), ?_⟩
  rw [Statement.erased, Statement.erased, same]

theorem expression (reads : value.IsReadWhere Precedence.lowest.Bounds words) :
    (Statement.expression token value).IsReadAs (words ++ [.symbol ';']) := by
  intro phrase spelled behind
  rcases List.map_eq_append_iff.1 spelled with ⟨inside, rest, rfl, shown, last⟩
  rcases List.map_eq_singleton_iff.1 last with ⟨closing, rfl, closes⟩
  have closes : closing.type = .semicolon := Token.type_of_word closes rfl
  rcases reads.closed shown closes rfl behind with ⟨read, phrase, same⟩
  rcases phrase.starts with ⟨token, rest, rfl, _⟩
  refine ⟨_, .expression phrase (.semicolon closes), ?_⟩
  rw [Statement.erased, Statement.erased, same]

end Statement.IsReadAs

/-- An expression that is the last statement needs no semicolon behind it. -/
theorem StatementPhrase.of_lastExpression {tree : Expression} {words : List Word}
    (reads : tree.IsReadWhere Precedence.lowest.Bounds words) {phrase : List Token}
    (spelled : phrase.map Token.word = words) :
    ∃ token read, StatementPhrase phrase [] (.expression token read) ∧
      read.erased = tree.erased := by
  rcases reads.complete spelled (Followed.nil _) (.nil _) with ⟨read, whole, same⟩
  rcases whole.starts with ⟨token, rest, rfl, _⟩
  rw [← List.append_nil []] at whole
  have sentence := StatementPhrase.expression whole (.absent (Followed.nil _))
  rw [List.append_nil] at sentence
  exact ⟨token, read, sentence, same⟩

theorem StatementsReadAs.nil : StatementsReadAs [] [] := by
  intro phrase spelled behind
  rw [List.map_eq_nil_iff.1 spelled]
  exact ⟨[], .nil, rfl⟩

theorem StatementsReadAs.cons {tree : Statement} {later : List Statement}
    {words words' : List Word} (first : tree.IsReadAs words)
    (others : StatementsReadAs later words') :
    StatementsReadAs (tree :: later) (words ++ words') := by
  intro phrase spelled behind
  rcases List.map_eq_append_iff.1 spelled with ⟨before, after, rfl, shown, shown'⟩
  rcases first before shown (after ++ behind) with ⟨read, sentence, same⟩
  rcases others after shown' behind with ⟨reads, sentences, same'⟩
  refine ⟨_, .cons sentence sentences, ?_⟩
  rw [eraseStatements, eraseStatements, same, same']

theorem Block.IsReadAs.mk {token : Token} {trees : List Statement} {words : List Word}
    (reads : StatementsReadAs trees words) :
    (Block.mk token trees).IsReadAs (.symbol '\x7b' :: (words ++ [.symbol '\x7d'])) := by
  intro phrase spelled behind
  rcases List.map_eq_cons_iff.1 spelled with ⟨opening, rest, rfl, opens, spelled⟩
  rcases List.map_eq_append_iff.1 spelled with ⟨inside, rest, rfl, shown, last⟩
  rcases List.map_eq_singleton_iff.1 last with ⟨closing, rfl, closes⟩
  rcases reads inside shown (closing :: behind) with ⟨read, phrase, same⟩
  refine ⟨_, .closed (Token.type_of_word opens rfl) phrase (Token.type_of_word closes rfl), ?_⟩
  rw [Block.erased, Block.erased, same]

end MonkeyLang
