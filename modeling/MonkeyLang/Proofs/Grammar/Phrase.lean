import MonkeyLang.Grammar.Parse

namespace MonkeyLang

open Text

/-!
# The grammar of programs

The grammar says which tokens form a program and which program they form.  It
knows nothing of the reader: no position, no fault and no rule that is under way.
Each relation below holds of the tokens of a phrase, of the tokens that follow
the phrase, and of the tree that the phrase stands for.

Of what follows, a rule inspects one token at most.  It has to, because some
phrases end only where they cannot go on: an expression in front of an operator
that holds loosely enough, a conditional where no `else` follows, a statement
behind its semicolon if there is one, and a block at the end of the source.
-/

/-- What a rule asks of the token behind a phrase, if there is such a token. -/
def Followed (condition : TokenType -> Prop) (behind : List Token) : Prop :=
  ∀ next ∈ behind.head?, condition next.type

theorem Followed.nil (condition : TokenType -> Prop) : Followed condition [] := by
  intro next member
  cases member

theorem Followed.cons {condition : TokenType -> Prop} {token : Token} {rest : List Token}
    (met : condition token.type) : Followed condition (token :: rest) := by
  intro next member
  cases member
  exact met

theorem Followed.head {condition : TokenType -> Prop} {token : Token} {rest : List Token}
    (followed : Followed condition (token :: rest)) : condition token.type :=
  followed token rfl

/-- How tightly an operator between two operands holds them. -/
def BinaryOperator.precedence : BinaryOperator -> Precedence
  | .equal | .notEqual => .equality
  | .less | .greater => .comparison
  | .plus | .minus => .sum
  | .times | .divide => .product

theorem BinaryOperator.precedence_ne_call (operator : BinaryOperator) :
    operator.precedence ≠ .call := by
  cases operator <;> decide

/-- The precedence of a token is that of the operator it stands for. -/
theorem BinaryOperator.precedence_of_ofTokenType? {type : TokenType} {operator : BinaryOperator}
    (known : ofTokenType? type = some operator) :
    Precedence.ofTokenType type = operator.precedence := by
  cases type <;> cases known <;> rfl

/-- An expression that keeps to a precedence ends in front of everything but an
argument list and an operator that holds tighter. -/
def Precedence.Ends (minimum : Precedence) (behind : List Token) : Prop :=
  Followed (fun type => type ≠ .leftParenthesis ∧
    ∀ operator, BinaryOperator.ofTokenType? type = some operator ->
      ¬ minimum.rank < operator.precedence.rank) behind

/-- A statement takes in the semicolon behind it, if there is one. -/
inductive ClosingPhrase : List Token -> List Token -> Prop
  | semicolon {token behind} : token.type = .semicolon -> ClosingPhrase [token] behind
  | absent {behind} : Followed (· ≠ .semicolon) behind -> ClosingPhrase [] behind

/-- Names with commas between them, at least one. -/
inductive NamesPhrase : List Token -> List Identifier -> Prop
  | last {token} : token.type = .identifier -> NamesPhrase [token] [token.toIdentifier]
  | more {token comma later names} :
      token.type = .identifier -> comma.type = .comma -> NamesPhrase later names ->
      NamesPhrase (token :: comma :: later) (token.toIdentifier :: names)

/-- The parameters of a function, as they stand between the parentheses. -/
inductive ParametersPhrase : List Token -> List Identifier -> Prop
  | none : ParametersPhrase [] []
  | some {phrase names} : NamesPhrase phrase names -> ParametersPhrase phrase names

mutual

/-- The first part of an expression.  A literal number is one of 64 bits. -/
inductive PrimaryPhrase : List Token -> List Token -> Expression -> Prop
  | identifier {token behind} :
      token.type = .identifier ->
      PrimaryPhrase [token] behind (.identifier token.toIdentifier)
  | integer {token behind} {value : Int64} :
      token.type = .integer -> value.toInt = ofDigits token.lexeme.toList ->
      PrimaryPhrase [token] behind (.integer token value)
  | trueWord {token behind} :
      token.type = .trueWord -> PrimaryPhrase [token] behind (.boolean token true)
  | falseWord {token behind} :
      token.type = .falseWord -> PrimaryPhrase [token] behind (.boolean token false)
  | unary {token operator phrase behind operand} :
      UnaryOperator.ofTokenType? token.type = some operator ->
      ExpressionPhrase .unary phrase behind operand ->
      PrimaryPhrase (token :: phrase) behind (.unary token operator operand)
  | grouped {opening phrase closing behind value} :
      opening.type = .leftParenthesis ->
      ExpressionPhrase .lowest phrase (closing :: behind) value ->
      closing.type = .rightParenthesis ->
      PrimaryPhrase (opening :: (phrase ++ [closing])) behind value
  | conditional {word opening test closing first second behind condition consequence alternative} :
      word.type = .ifWord -> opening.type = .leftParenthesis ->
      ExpressionPhrase .lowest test (closing :: (first ++ (second ++ behind))) condition ->
      closing.type = .rightParenthesis ->
      BlockPhrase first (second ++ behind) consequence ->
      AlternativePhrase second behind alternative ->
      PrimaryPhrase (word :: opening :: (test ++ closing :: (first ++ second))) behind
        (.conditional word condition consequence alternative)
  | function {word opening parameters closing phrase behind names body} :
      word.type = .functionWord -> opening.type = .leftParenthesis ->
      ParametersPhrase parameters names -> closing.type = .rightParenthesis ->
      BlockPhrase phrase behind body ->
      PrimaryPhrase (word :: opening :: (parameters ++ closing :: phrase)) behind
        (.function word names body)

/-- A first part with operators and calls behind it, each of which takes all that
came before it as its left operand or as what it calls. -/
inductive ChainPhrase : Precedence -> List Token -> List Token -> Expression -> Prop
  | start {minimum phrase behind value} :
      PrimaryPhrase phrase behind value -> ChainPhrase minimum phrase behind value
  | binary {minimum before token operator after behind left right} :
      ChainPhrase minimum before (token :: (after ++ behind)) left ->
      BinaryOperator.ofTokenType? token.type = some operator ->
      minimum.rank < operator.precedence.rank ->
      ExpressionPhrase operator.precedence after behind right ->
      ChainPhrase minimum (before ++ token :: after) behind (.binary token left operator right)
  | call {minimum before opening inside closing behind callee values} :
      ChainPhrase minimum before (opening :: (inside ++ closing :: behind)) callee ->
      opening.type = .leftParenthesis ->
      ArgumentsPhrase inside (closing :: behind) values ->
      closing.type = .rightParenthesis ->
      ChainPhrase minimum (before ++ opening :: (inside ++ [closing])) behind
        (.call opening callee values)

/-- An expression: a chain that nothing behind it goes on with. -/
inductive ExpressionPhrase : Precedence -> List Token -> List Token -> Expression -> Prop
  | ended {minimum phrase behind value} :
      ChainPhrase minimum phrase behind value -> minimum.Ends behind ->
      ExpressionPhrase minimum phrase behind value

/-- The arguments of a call, as they stand between the parentheses. -/
inductive ArgumentsPhrase : List Token -> List Token -> List Expression -> Prop
  | none {behind} : ArgumentsPhrase [] behind []
  | some {phrase behind values} :
      ArgumentListPhrase phrase behind values -> ArgumentsPhrase phrase behind values

/-- Expressions with commas between them, at least one. -/
inductive ArgumentListPhrase : List Token -> List Token -> List Expression -> Prop
  | last {phrase behind value} :
      ExpressionPhrase .lowest phrase behind value -> ArgumentListPhrase phrase behind [value]
  | more {phrase comma later behind value values} :
      ExpressionPhrase .lowest phrase (comma :: (later ++ behind)) value ->
      comma.type = .comma -> ArgumentListPhrase later behind values ->
      ArgumentListPhrase (phrase ++ comma :: later) behind (value :: values)

/-- The branch behind `else`, where that word follows. -/
inductive AlternativePhrase : List Token -> List Token -> Option Block -> Prop
  | absent {behind} : Followed (· ≠ .elseWord) behind -> AlternativePhrase [] behind none
  | present {word phrase behind block} :
      word.type = .elseWord -> BlockPhrase phrase behind block ->
      AlternativePhrase (word :: phrase) behind (some block)

/-- Statements between braces.  The end of the source stands for a closing brace. -/
inductive BlockPhrase : List Token -> List Token -> Block -> Prop
  | closed {opening phrase closing behind statements} :
      opening.type = .leftBrace -> StatementsPhrase phrase (closing :: behind) statements ->
      closing.type = .rightBrace ->
      BlockPhrase (opening :: (phrase ++ [closing])) behind (.mk opening statements)
  | ended {opening phrase statements} :
      opening.type = .leftBrace -> StatementsPhrase phrase [] statements ->
      BlockPhrase (opening :: phrase) [] (.mk opening statements)

/-- Statements one after another. -/
inductive StatementsPhrase : List Token -> List Token -> List Statement -> Prop
  | nil {behind} : StatementsPhrase [] behind []
  | cons {phrase later behind statement statements} :
      StatementPhrase phrase (later ++ behind) statement ->
      StatementsPhrase later behind statements ->
      StatementsPhrase (phrase ++ later) behind (statement :: statements)

/-- A statement.  A return has no value in front of a semicolon, of a closing
brace and of the end of the source. -/
inductive StatementPhrase : List Token -> List Token -> Statement -> Prop
  | binding {word name sign phrase closing behind value} :
      word.type = .letWord -> name.type = .identifier -> sign.type = .assign ->
      ExpressionPhrase .lowest phrase (closing ++ behind) value ->
      ClosingPhrase closing behind ->
      StatementPhrase (word :: name :: sign :: (phrase ++ closing)) behind
        (.binding word name.toIdentifier value)
  | bareReturn {word semicolon behind} :
      word.type = .returnWord -> semicolon.type = .semicolon ->
      StatementPhrase [word, semicolon] behind (.returning word none)
  | lastReturn {word behind} :
      word.type = .returnWord -> Followed (· = .rightBrace) behind ->
      StatementPhrase [word] behind (.returning word none)
  | returning {word phrase closing behind value} :
      word.type = .returnWord -> ExpressionPhrase .lowest phrase (closing ++ behind) value ->
      ClosingPhrase closing behind ->
      StatementPhrase (word :: (phrase ++ closing)) behind (.returning word (some value))
  | expression {token phrase closing behind value} :
      ExpressionPhrase .lowest (token :: phrase) (closing ++ behind) value ->
      ClosingPhrase closing behind ->
      StatementPhrase (token :: (phrase ++ closing)) behind (.expression token value)

end

/-- All tokens of a source, which has nothing behind them, as a program. -/
def ProgramPhrase (tokens : List Token) (program : Program) : Prop :=
  StatementsPhrase tokens [] program.statements

/-! ## The first token of a phrase -/

/-- The kinds of token that an expression can start with. -/
def TokenType.startsExpression : TokenType -> Bool
  | .identifier | .integer | .trueWord | .falseWord | .bang | .minus | .leftParenthesis
  | .ifWord | .functionWord => true
  | _ => false

/-- There is a rule for exactly the tokens that an expression can start with. -/
theorem StartRule.isSome_ofTokenType? (type : TokenType) :
    (ofTokenType? type).isSome = type.startsExpression := by
  cases type <;> rfl

theorem NamesPhrase.starts {phrase : List Token} {names : List Identifier}
    (list : NamesPhrase phrase names) :
    ∃ token rest, phrase = token :: rest ∧ token.type = .identifier := by
  cases list with
  | last kind => exact ⟨_, _, rfl, kind⟩
  | more kind _ _ => exact ⟨_, _, rfl, kind⟩

theorem UnaryOperator.startsExpression_of_ofTokenType? {type : TokenType}
    {operator : UnaryOperator} (known : ofTokenType? type = some operator) :
    type.startsExpression = true := by
  cases type <;> cases known <;> rfl

theorem PrimaryPhrase.starts {phrase behind : List Token} {value : Expression}
    (primary : PrimaryPhrase phrase behind value) :
    ∃ token rest, phrase = token :: rest ∧ token.type.startsExpression = true := by
  cases primary with
  | identifier kind | trueWord kind | falseWord kind => exact ⟨_, _, rfl, kind ▸ rfl⟩
  | integer kind _ => exact ⟨_, _, rfl, kind ▸ rfl⟩
  | unary known _ => exact ⟨_, _, rfl, UnaryOperator.startsExpression_of_ofTokenType? known⟩
  | grouped kind _ _ => exact ⟨_, _, rfl, kind ▸ rfl⟩
  | conditional kind _ _ _ _ _ => exact ⟨_, _, rfl, kind ▸ rfl⟩
  | function kind _ _ _ _ => exact ⟨_, _, rfl, kind ▸ rfl⟩

theorem ChainPhrase.starts {minimum : Precedence} {phrase behind : List Token}
    {value : Expression} :
    ChainPhrase minimum phrase behind value ->
      ∃ token rest, phrase = token :: rest ∧ token.type.startsExpression = true
  | .start primary => primary.starts
  | .binary left _ _ _ => by
      obtain ⟨token, rest, rfl, begins⟩ := left.starts
      exact ⟨token, _, rfl, begins⟩
  | .call callee _ _ _ => by
      obtain ⟨token, rest, rfl, begins⟩ := callee.starts
      exact ⟨token, _, rfl, begins⟩

theorem ExpressionPhrase.starts {minimum : Precedence} {phrase behind : List Token}
    {value : Expression} (expression : ExpressionPhrase minimum phrase behind value) :
    ∃ token rest, phrase = token :: rest ∧ token.type.startsExpression = true := by
  cases expression with
  | ended chain _ => exact chain.starts

theorem ArgumentListPhrase.starts {phrase behind : List Token} {values : List Expression}
    (list : ArgumentListPhrase phrase behind values) :
    ∃ token rest, phrase = token :: rest ∧ token.type.startsExpression = true := by
  cases list with
  | last value => exact value.starts
  | more value _ _ =>
      obtain ⟨token, rest, rfl, begins⟩ := value.starts
      exact ⟨token, _, rfl, begins⟩

theorem StatementPhrase.starts {phrase behind : List Token} {statement : Statement}
    (sentence : StatementPhrase phrase behind statement) :
    ∃ token rest, phrase = token :: rest ∧
      (token.type = .letWord ∨ token.type = .returnWord ∨ token.type.startsExpression = true) := by
  cases sentence with
  | binding kind _ _ _ _ => exact ⟨_, _, rfl, .inl kind⟩
  | bareReturn kind _ => exact ⟨_, _, rfl, .inr (.inl kind)⟩
  | lastReturn kind _ => exact ⟨_, _, rfl, .inr (.inl kind)⟩
  | returning kind _ _ => exact ⟨_, _, rfl, .inr (.inl kind)⟩
  | expression value _ =>
      obtain ⟨_, _, shape, begins⟩ := value.starts
      cases shape
      exact ⟨_, _, rfl, .inr (.inr begins)⟩

end MonkeyLang
