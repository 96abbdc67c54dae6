import MonkeyLang.Proofs.Grammar.Clean
import MonkeyLang.Proofs.Grammar.Phrase

namespace MonkeyLang

open Text

/-!
# Phrases are read

Every phrase of the grammar is read without a fault, as the tree it stands for,
and its tokens are exactly those that are used up.  Chains need a stronger
statement than the others: they grow at their right end, while the reader takes
them in from the left.  What is proved of a chain is therefore that reading it
comes down to going on behind it.
-/

/-- The precedence of a call is above that of every operator, so an expression
never keeps to it; below it, a call or a tighter operator goes on. -/
theorem Precedence.admits_iff {minimum : Precedence} (below : minimum ≠ .call)
    (type : TokenType) :
    minimum.admits type = true ↔ type = .leftParenthesis ∨
      ∃ operator, BinaryOperator.ofTokenType? type = some operator ∧
        minimum.rank < operator.precedence.rank := by
  rw [admits, decide_eq_true_eq]
  constructor
  · intro tighter
    cases known : BinaryOperator.ofTokenType? type with
    | some operator =>
        rw [BinaryOperator.precedence_of_ofTokenType? known] at tighter
        exact .inr ⟨operator, rfl, tighter⟩
    | none =>
        -- Of the tokens that are no operator, only the parenthesis has a precedence.
        cases type <;> first
          | exact .inl rfl
          | exact absurd tighter (Nat.not_lt_zero _)
          | cases known
  · rintro (rfl | ⟨operator, known, tighter⟩)
    · cases minimum <;> first | decide | exact absurd rfl below
    · rwa [BinaryOperator.precedence_of_ofTokenType? known]

/-- An expression ends exactly where the reader does not go on. -/
theorem Precedence.ends_cons_iff {minimum : Precedence} (below : minimum ≠ .call)
    (token : Token) (rest : List Token) :
    minimum.Ends (token :: rest) ↔ ¬ minimum.admits token.type = true := by
  rw [minimum.admits_iff below]
  constructor
  · intro ends admitted
    have stops := Followed.head ends
    rcases admitted with opens | ⟨operator, known, tighter⟩
    · exact stops.1 opens
    · exact stops.2 operator known tighter
  · intro refused
    exact Followed.cons ⟨fun opens => refused (.inl opens),
      fun operator known tighter => refused (.inr ⟨operator, known, tighter⟩)⟩

section Rules

variable (ending : Token)

/-! ## Single steps of the reader -/

theorem expect_reads {wanted : TokenType} {token : Token} (kind : token.type = wanted)
    (rest : List Token) : (expect ending wanted (token :: rest)).Reads token 1 := by
  rw [expect, if_pos kind]
  exact (Outcome.Reads.done token).afterToken

theorem skipOptional_reads {closing behind : List Token} (close : ClosingPhrase closing behind) :
    (skipOptional .semicolon (closing ++ behind)).Reads () closing.length := by
  cases close with
  | semicolon kind =>
      change (skipOptional .semicolon (_ :: behind)).Reads () 1
      rw [skipOptional, if_pos kind]
      exact (Outcome.Reads.done ()).afterToken
  | absent next =>
      cases behind with
      | nil => exact Outcome.Reads.done ()
      | cons token rest =>
          change (skipOptional .semicolon (token :: rest)).Reads () 0
          rw [skipOptional, if_neg next.head]
          exact Outcome.Reads.done ()

theorem closeStatement_reads (statement : Statement) {closing behind : List Token}
    (close : ClosingPhrase closing behind) :
    (closeStatement statement (closing ++ behind)).Reads statement closing.length :=
  (skipOptional_reads close).map fun _ => statement

theorem expression_reads_of_operand {minimum : Precedence} {token : Token} {rest : List Token}
    {value : Expression} {used : Nat}
    (reads : (operand ending minimum (token :: rest)).Reads value (used + 1)) :
    (expression ending minimum token rest).Reads value used := by
  rw [operand] at reads
  exact ⟨reads.result, Nat.succ.inj reads.used, reads.clean⟩

theorem operand_reads_of_primary {minimum : Precedence} {token : Token}
    {phrase behind : List Token} {value result : Expression} {used : Nat}
    (first : (primary ending token (phrase ++ behind)).Reads value phrase.length)
    (later : (continuation ending minimum value behind).Reads result used) :
    (operand ending minimum (token :: phrase ++ behind)).Reads result
      ((token :: phrase).length + used) := by
  rw [List.cons_append, operand, expression]
  have after : (continuation ending minimum value ((phrase ++ behind).drop
      (primary ending token (phrase ++ behind)).used)).Reads result used := by
    rw [first.drop_used]
    exact later
  rw [List.length_cons, Nat.succ_add]
  exact ((first.andThen after).within .expression).afterToken

theorem continuation_of_ends {minimum : Precedence} (below : minimum ≠ .call)
    {behind : List Token} (ends : minimum.Ends behind) (value : Expression) :
    (continuation ending minimum value behind).Reads value 0 := by
  cases behind with
  | nil =>
      rw [continuation]
      exact Outcome.Reads.done value
  | cons token rest =>
      have refused := (minimum.ends_cons_iff below token rest).mp ends
      rw [continuation, if_neg fun both => refused both.2]
      exact Outcome.Reads.done value

/-- What goes on with an expression is read by its rule, of which there is one. -/
theorem continuation_of_admits {minimum : Precedence} {token : Token}
    (admitted : minimum.admits token.type = true) {rule : ExtensionRule}
    (entry : ExtensionRule.ofTokenType? token.type = some rule) (left : Expression)
    (rest : List Token) :
    continuation ending minimum left (token :: rest) =
      ((extension ending rule left token rest).andThen fun whole =>
        continuation ending minimum whole
          (rest.drop (extension ending rule left token rest).used)).afterToken := by
  rw [continuation, if_pos ⟨minimum.type_ne_semicolon admitted, admitted⟩, entry]

theorem continuation_reads_of_extension {minimum : Precedence} {left whole result : Expression}
    {token : Token} {phrase behind : List Token} {used : Nat}
    (admitted : minimum.admits token.type = true) {rule : ExtensionRule}
    (entry : ExtensionRule.ofTokenType? token.type = some rule)
    (longer : (extension ending rule left token (phrase ++ behind)).Reads whole phrase.length)
    (later : (continuation ending minimum whole behind).Reads result used) :
    (continuation ending minimum left (token :: (phrase ++ behind))).Reads result
      (phrase.length + used + 1) := by
  rw [continuation_of_admits ending admitted entry]
  have after : (continuation ending minimum whole ((phrase ++ behind).drop
      (extension ending rule left token (phrase ++ behind)).used)).Reads result used := by
    rw [longer.drop_used]
    exact later
  exact (longer.andThen after).afterToken

/-! ## Parameters -/

theorem moreParameters_reads_closing {closing : Token}
    (closes : closing.type = .rightParenthesis) (behind : List Token) :
    (moreParameters ending (closing :: behind)).Reads [] 1 := by
  have other : closing.type ≠ .comma := by rw [closes]; decide
  rw [moreParameters, if_neg other]
  exact (expect_reads ending closes behind).map fun _ => []

theorem parameterList_reads {token : Token} (kind : token.type = .identifier)
    {rest : List Token} {names : List Identifier} {used : Nat}
    (later : (moreParameters ending rest).Reads names used) :
    (parameterList ending (token :: rest)).Reads (token.toIdentifier :: names) (1 + used) := by
  have name := expect_reads ending kind rest
  rw [parameterList]
  refine name.andThen (Outcome.Reads.map ?_ (token.toIdentifier :: ·))
  rw [name.drop_one]
  exact later

theorem NamesPhrase.read {phrase : List Token} {names : List Identifier}
    (list : NamesPhrase phrase names) {closing : Token}
    (closes : closing.type = .rightParenthesis) (behind : List Token) :
    (parameterList ending (phrase ++ closing :: behind)).Reads names (phrase.length + 1) := by
  induction list with
  | last kind =>
      exact parameterList_reads ending kind (moreParameters_reads_closing ending closes behind)
  | @more token comma later names kind separates _ ih =>
      have others : (moreParameters ending (comma :: (later ++ closing :: behind))).Reads names
          (later.length + 1 + 1) := by
        rw [moreParameters, if_pos separates]
        exact ih.afterToken
      have whole := parameterList_reads ending kind others
      rwa [Nat.add_comm 1] at whole

theorem ParametersPhrase.read {phrase : List Token} {names : List Identifier}
    (list : ParametersPhrase phrase names) {closing : Token}
    (closes : closing.type = .rightParenthesis) (behind : List Token) :
    (parameters ending (phrase ++ closing :: behind)).Reads names (phrase.length + 1) := by
  cases list with
  | none =>
      change (parameters ending (closing :: behind)).Reads [] 1
      rw [parameters, if_pos closes]
      exact (Outcome.Reads.done []).afterToken
  | some names =>
      have whole := names.read ending closes behind
      obtain ⟨token, rest, rfl, kind⟩ := names.starts
      have other : token.type ≠ .rightParenthesis := by rw [kind]; decide
      rw [List.cons_append, parameters, if_neg other]
      exact whole

/-! ## The rule that a token chooses -/

theorem primary_of_operator {token : Token} {operator : UnaryOperator}
    (known : UnaryOperator.ofTokenType? token.type = some operator) (rest : List Token) :
    primary ending token rest =
      ((operand ending .unary rest).map
        (Expression.unary token operator)).within .unaryExpression := by
  rw [primary, StartRule.ofTokenType?_eq_unary_iff.mpr ⟨operator, known⟩]
  change unaryExpression ending token rest = _
  rw [unaryExpression, known]

theorem primary_of_parenthesis {token : Token} (kind : token.type = .leftParenthesis)
    (rest : List Token) : primary ending token rest = groupedExpression ending rest := by
  rw [primary, kind]
  rfl

theorem primary_of_ifWord {token : Token} (kind : token.type = .ifWord) (rest : List Token) :
    primary ending token rest = ifExpression ending token rest := by
  rw [primary, kind]
  rfl

theorem primary_of_functionWord {token : Token} (kind : token.type = .functionWord)
    (rest : List Token) : primary ending token rest = functionLiteral ending token rest := by
  rw [primary, kind]
  rfl

theorem extension_of_operator {token : Token} {operator : BinaryOperator}
    (known : BinaryOperator.ofTokenType? token.type = some operator) (left : Expression)
    (rest : List Token) :
    extension ending .binary left token rest =
      ((operand ending operator.precedence rest).map
        (Expression.binary token left operator)).within .binaryExpression := by
  rw [extension, binaryExpression, known, ← BinaryOperator.precedence_of_ofTokenType? known]

theorem extension_of_call (callee : Expression) (token : Token) (rest : List Token) :
    extension ending .call callee token rest =
      ((arguments ending rest).map (Expression.call token callee)).within .callExpression := by
  rw [extension, callExpression]

theorem statement_of_letWord {token : Token} (kind : token.type = .letWord)
    (rest : List Token) :
    statement ending token rest = (letStatement ending token rest).within .statement := by
  rw [statement, kind]

theorem statement_of_returnWord {token : Token} (kind : token.type = .returnWord)
    (rest : List Token) :
    statement ending token rest = (returnStatement ending token rest).within .statement := by
  rw [statement, kind]

theorem statement_of_other {token : Token} (noLet : token.type ≠ .letWord)
    (noReturn : token.type ≠ .returnWord) (rest : List Token) :
    statement ending token rest = (expressionStatement ending token rest).within .statement := by
  rw [statement]
  split
  · next kind => exact absurd kind noLet
  · next kind => exact absurd kind noReturn
  · rfl

/-! ## Steps of the rules for expressions -/

theorem primary_reads_unary {token : Token} {operator : UnaryOperator}
    (known : UnaryOperator.ofTokenType? token.type = some operator) {rest : List Token}
    {value : Expression} {used : Nat} (inner : (operand ending .unary rest).Reads value used) :
    (primary ending token rest).Reads (.unary token operator value) used := by
  rw [primary_of_operator ending known]
  exact (inner.map (Expression.unary token operator)).within .unaryExpression

theorem primary_reads_grouped {opening closing : Token}
    (opens : opening.type = .leftParenthesis) {phrase behind : List Token} {value : Expression}
    (inner : (operand ending .lowest (phrase ++ closing :: behind)).Reads value phrase.length)
    (closes : closing.type = .rightParenthesis) :
    (primary ending opening (phrase ++ closing :: behind)).Reads value (phrase.length + 1) := by
  rw [primary_of_parenthesis ending opens, groupedExpression]
  refine (inner.andThen ?_).within .groupedExpression
  rw [inner.drop_used]
  exact (expect_reads ending closes behind).map fun _ => value

theorem primary_reads_conditional {word opening closing : Token}
    {test first second behind : List Token} {condition : Expression} {consequence : Block}
    {alternative : Option Block} (kind : word.type = .ifWord)
    (opens : opening.type = .leftParenthesis)
    (inner : (operand ending .lowest (test ++ closing :: (first ++ (second ++ behind)))).Reads
      condition test.length)
    (closes : closing.type = .rightParenthesis)
    (block : (bracedBlock ending (first ++ (second ++ behind))).Reads consequence first.length)
    (branch : (otherwise ending (second ++ behind)).Reads alternative second.length) :
    (primary ending word (opening :: (test ++ closing :: (first ++ (second ++ behind))))).Reads
      (.conditional word condition consequence alternative)
      (1 + (test.length + (1 + (first.length + second.length)))) := by
  have start := expect_reads ending opens (test ++ closing :: (first ++ (second ++ behind)))
  have middle := expect_reads ending closes (first ++ (second ++ behind))
  rw [primary_of_ifWord ending kind, ifExpression]
  refine (start.andThen ?_).within .ifExpression
  simp only [start.drop_one]
  refine inner.andThen ?_
  simp only [inner.drop_used]
  refine middle.andThen ?_
  simp only [middle.drop_one]
  refine block.andThen ?_
  simp only [block.drop_used]
  exact branch.map (Expression.conditional word condition consequence)

theorem primary_reads_function {word opening closing : Token}
    {inside phrase behind : List Token} {names : List Identifier} {body : Block}
    (kind : word.type = .functionWord) (opens : opening.type = .leftParenthesis)
    (list : ParametersPhrase inside names) (closes : closing.type = .rightParenthesis)
    (block : (bracedBlock ending (phrase ++ behind)).Reads body phrase.length) :
    (primary ending word (opening :: (inside ++ closing :: (phrase ++ behind)))).Reads
      (.function word names body) (1 + (inside.length + 1 + phrase.length)) := by
  have start := expect_reads ending opens (inside ++ closing :: (phrase ++ behind))
  have middle := list.read ending closes (phrase ++ behind)
  have next : (inside ++ closing :: (phrase ++ behind)).drop
      (parameters ending (inside ++ closing :: (phrase ++ behind))).used = phrase ++ behind := by
    rw [middle.used, ← List.drop_drop, List.drop_left, List.drop_one, List.tail_cons]
  rw [primary_of_functionWord ending kind, functionLiteral]
  refine (start.andThen ?_).within .functionLiteral
  simp only [start.drop_one]
  refine middle.andThen ?_
  rw [next]
  exact block.map (Expression.function word names)

theorem extension_reads_binary {left right : Expression} {token : Token}
    {operator : BinaryOperator} (known : BinaryOperator.ofTokenType? token.type = some operator)
    {rest : List Token} {used : Nat}
    (inner : (operand ending operator.precedence rest).Reads right used) :
    (extension ending .binary left token rest).Reads (.binary token left operator right) used := by
  rw [extension_of_operator ending known]
  exact (inner.map (Expression.binary token left operator)).within .binaryExpression

theorem extension_reads_call {callee : Expression} {opening : Token} {rest : List Token}
    {values : List Expression} {used : Nat} (list : (arguments ending rest).Reads values used) :
    (extension ending .call callee opening rest).Reads (.call opening callee values) used := by
  rw [extension_of_call]
  exact (list.map (Expression.call opening callee)).within .callExpression

/-! ## Steps of the rules for lists, branches and blocks -/

theorem argumentList_reads {phrase behind : List Token} {value : Expression}
    {values : List Expression} {used : Nat}
    (first : (operand ending .lowest (phrase ++ behind)).Reads value phrase.length)
    (later : (moreArguments ending behind).Reads values used) :
    (argumentList ending (phrase ++ behind)).Reads (value :: values) (phrase.length + used) := by
  rw [argumentList]
  refine first.andThen ?_
  rw [first.drop_used]
  exact later.map (value :: ·)

theorem moreArguments_reads_closing {closing : Token}
    (closes : closing.type = .rightParenthesis) (behind : List Token) :
    (moreArguments ending (closing :: behind)).Reads [] 1 := by
  have other : closing.type ≠ .comma := by rw [closes]; decide
  rw [moreArguments, if_neg other]
  exact (expect_reads ending closes behind).map fun _ => []

theorem bracedBlock_reads {opening : Token} (opens : opening.type = .leftBrace)
    {rest : List Token} {statements : List Statement} {used : Nat}
    (inside : (blockStatements ending rest).Reads statements used) :
    (bracedBlock ending (opening :: rest)).Reads (.mk opening statements) (1 + used) := by
  have start := expect_reads ending opens rest
  rw [bracedBlock]
  refine start.andThen ?_
  rw [start.drop_one, block]
  exact (inside.outcome (Block.mk opening)).within .block

theorem blockStatements_reads_closing {closing : Token} (closes : closing.type = .rightBrace)
    (behind : List Token) : (blockStatements ending (closing :: behind)).Reads [] 1 := by
  rw [blockStatements, if_pos closes]
  exact ⟨rfl, rfl, rfl⟩

theorem blockStatements_reads_nil : (blockStatements ending []).Reads [] 0 := by
  rw [blockStatements]
  exact Series.Reads.empty

theorem blockStatements_reads_cons {token : Token} (inside : token.type ≠ .rightBrace)
    {phrase behind : List Token} {first : Statement} {statements : List Statement} {used : Nat}
    (reads : (statement ending token (phrase ++ behind)).Reads first phrase.length)
    (later : (blockStatements ending behind).Reads statements used) :
    (blockStatements ending (token :: (phrase ++ behind))).Reads (first :: statements)
      (1 + phrase.length + used) := by
  rw [blockStatements, if_neg inside]
  refine Series.Reads.prepend reads ?_
  rw [reads.drop_used]
  exact later

theorem programStatements_reads_cons {token : Token} {phrase behind : List Token}
    {first : Statement} {statements : List Statement} {used : Nat}
    (reads : (statement ending token (phrase ++ behind)).Reads first phrase.length)
    (later : (programStatements ending behind).Reads statements used) :
    (programStatements ending (token :: (phrase ++ behind))).Reads (first :: statements)
      (1 + phrase.length + used) := by
  rw [programStatements]
  refine Series.Reads.prepend reads ?_
  rw [reads.drop_used]
  exact later

/-! ## Steps of the rules for statements -/

theorem statement_reads_binding {word name sign : Token} {phrase closing behind : List Token}
    {value : Expression} (kind : word.type = .letWord) (named : name.type = .identifier)
    (equals : sign.type = .assign)
    (inner : (operand ending .lowest (phrase ++ (closing ++ behind))).Reads value phrase.length)
    (close : ClosingPhrase closing behind) :
    (statement ending word (name :: sign :: (phrase ++ (closing ++ behind)))).Reads
      (.binding word name.toIdentifier value) (1 + (1 + (phrase.length + closing.length))) := by
  have first := expect_reads ending named (sign :: (phrase ++ (closing ++ behind)))
  have second := expect_reads ending equals (phrase ++ (closing ++ behind))
  rw [statement_of_letWord ending kind, letStatement]
  refine Outcome.Reads.within ?_ .statement
  refine (first.andThen ?_).within .letStatement
  simp only [first.drop_one]
  refine second.andThen ?_
  simp only [second.drop_one]
  refine inner.andThen ?_
  rw [inner.drop_used]
  exact closeStatement_reads _ close

theorem statement_reads_return {word : Token} (kind : word.type = .returnWord)
    {rest : List Token} {result : Statement} {used : Nat}
    (inner : (returnStatement ending word rest).Reads result used) :
    (statement ending word rest).Reads result used := by
  rw [statement_of_returnWord ending kind]
  exact inner.within .statement

theorem returnStatement_reads_last {word : Token} {behind : List Token}
    (next : Followed (· = .rightBrace) behind) :
    (returnStatement ending word behind).Reads (.returning word none) 0 := by
  cases behind with
  | nil =>
      rw [returnStatement]
      exact (Outcome.Reads.done _).within .returnStatement
  | cons token rest =>
      have brace : token.type = .rightBrace := next.head
      have noSemicolon : token.type ≠ .semicolon := by rw [brace]; decide
      simp only [returnStatement, if_neg noSemicolon, if_pos brace]
      exact (Outcome.Reads.done _).within .returnStatement

theorem returnStatement_reads_value {word : Token} {phrase closing behind : List Token}
    {value : Expression}
    (starts : ∃ token rest, phrase = token :: rest ∧ token.type.startsExpression = true)
    (inner : (operand ending .lowest (phrase ++ (closing ++ behind))).Reads value phrase.length)
    (close : ClosingPhrase closing behind) :
    (returnStatement ending word (phrase ++ (closing ++ behind))).Reads
      (.returning word (some value)) (phrase.length + closing.length) := by
  obtain ⟨token, rest, rfl, begins⟩ := starts
  have noSemicolon : token.type ≠ .semicolon := by
    intro same
    rw [same] at begins
    cases begins
  have noBrace : token.type ≠ .rightBrace := by
    intro same
    rw [same] at begins
    cases begins
  have next := inner.drop_used (closing ++ behind)
  rw [List.cons_append] at inner next ⊢
  simp only [returnStatement, if_neg noSemicolon, if_neg noBrace]
  refine (inner.andThen ?_).within .returnStatement
  rw [next]
  exact closeStatement_reads _ close

theorem statement_reads_expression {token : Token} {phrase closing behind : List Token}
    {value : Expression} (begins : token.type.startsExpression = true)
    (inner : (operand ending .lowest (token :: phrase ++ (closing ++ behind))).Reads value
      (token :: phrase).length)
    (close : ClosingPhrase closing behind) :
    (statement ending token (phrase ++ (closing ++ behind))).Reads (.expression token value)
      (phrase.length + closing.length) := by
  have reads : (expression ending .lowest token (phrase ++ (closing ++ behind))).Reads value
      phrase.length := expression_reads_of_operand ending inner
  have noLet : token.type ≠ .letWord := by
    intro same
    rw [same] at begins
    cases begins
  have noReturn : token.type ≠ .returnWord := by
    intro same
    rw [same] at begins
    cases begins
  rw [statement_of_other ending noLet noReturn, expressionStatement]
  refine Outcome.Reads.within ?_ .statement
  refine (reads.andThen ?_).within .expressionStatement
  rw [reads.drop_used]
  exact closeStatement_reads _ close

/-! ## Every phrase is read

The induction is on the derivation of a phrase.  Each case first reads the parts
of the phrase, each in front of what follows it there, and then takes the step of
its rule.
-/

mutual

theorem PrimaryPhrase.read {phrase behind : List Token} {value : Expression} :
    PrimaryPhrase phrase behind value -> ∀ token rest, phrase = token :: rest ->
      (primary ending token (rest ++ behind)).Reads value rest.length
  | .identifier kind, _, _, shape => by
      cases shape
      rw [primary, kind]
      exact Outcome.Reads.done _
  | @PrimaryPhrase.integer token _ value kind number, _, _, shape => by
      cases shape
      have found : represent? (ofDigits token.lexeme.toList) = some value := by
        rw [← number, represent?_toInt]
      rw [primary, kind]
      change (integerLiteral token).Reads _ _
      rw [integerLiteral, found]
      exact Outcome.Reads.done _
  | .trueWord kind, _, _, shape => by
      cases shape
      rw [primary, kind]
      exact Outcome.Reads.done _
  | .falseWord kind, _, _, shape => by
      cases shape
      rw [primary, kind]
      exact Outcome.Reads.done _
  | .unary known operand, _, _, shape => by
      cases shape
      exact primary_reads_unary ending known (operand.read (by decide))
  | .grouped opens inner closes, _, _, shape => by
      cases shape
      have whole := primary_reads_grouped ending opens (inner.read (by decide)) closes
      simpa only [List.append_assoc, List.cons_append, List.nil_append, List.length_append,
        List.length_cons, List.length_nil] using whole
  | .conditional word opens test closes first second, _, _, shape => by
      cases shape
      have whole := primary_reads_conditional ending word opens (test.read (by decide)) closes
        first.read second.read
      simpa only [List.append_assoc, List.cons_append, List.length_append, List.length_cons,
        Nat.add_comm 1, Nat.add_assoc] using whole
  | .function word opens names closes body, _, _, shape => by
      cases shape
      have whole := primary_reads_function ending word opens names closes body.read
      simpa only [List.append_assoc, List.cons_append, List.length_append, List.length_cons,
        Nat.add_comm 1, Nat.add_assoc] using whole

theorem ChainPhrase.read {minimum : Precedence} (below : minimum ≠ .call)
    {phrase behind : List Token} {value : Expression} :
    ChainPhrase minimum phrase behind value -> ∀ {result : Expression} {used : Nat},
      (continuation ending minimum value behind).Reads result used ->
      (operand ending minimum (phrase ++ behind)).Reads result (phrase.length + used)
  | .start first, _, _, later => by
      obtain ⟨token, rest, shape, _⟩ := first.starts
      have reads := first.read token rest shape
      subst shape
      exact operand_reads_of_primary ending reads later
  | .binary left known tighter right, _, _, later => by
      have admitted := (minimum.admits_iff below _).mpr (.inr ⟨_, known, tighter⟩)
      have entry := ExtensionRule.ofTokenType?_eq_binary_iff.mpr ⟨_, known⟩
      have whole := left.read below (continuation_reads_of_extension ending admitted entry
        (extension_reads_binary ending known
          (right.read (BinaryOperator.precedence_ne_call _))) later)
      simpa only [List.append_assoc, List.cons_append, List.length_append, List.length_cons,
        Nat.add_comm 1, Nat.add_assoc] using whole
  | @ChainPhrase.call _ _ _ inside closing _ _ values callee opens list closes, _, _, later => by
      have admitted := (minimum.admits_iff below _).mpr (.inl opens)
      have entry := ExtensionRule.ofTokenType?_eq_call_iff.mpr opens
      have between : (arguments ending (inside ++ [closing] ++ behind)).Reads values
          (inside ++ [closing]).length := by
        simpa only [List.append_assoc, List.cons_append, List.nil_append, List.length_append,
          List.length_cons, List.length_nil] using list.read closing behind rfl closes
      have further := continuation_reads_of_extension ending admitted entry
        (extension_reads_call ending between) later
      rw [← List.append_cons] at further
      have whole := callee.read below further
      simpa only [List.append_assoc, List.cons_append, List.nil_append, List.length_append,
        List.length_cons, Nat.add_comm 1, Nat.add_assoc] using whole

theorem ExpressionPhrase.read {minimum : Precedence} (below : minimum ≠ .call)
    {phrase behind : List Token} {value : Expression} :
    ExpressionPhrase minimum phrase behind value ->
      (operand ending minimum (phrase ++ behind)).Reads value phrase.length
  | .ended chain ends => chain.read below (continuation_of_ends ending below ends value)

theorem ArgumentsPhrase.read {phrase behind : List Token} {values : List Expression} :
    ArgumentsPhrase phrase behind values -> ∀ closing rest, behind = closing :: rest ->
      closing.type = .rightParenthesis ->
      (arguments ending (phrase ++ behind)).Reads values (phrase.length + 1)
  | .none, _, _, shape, closes => by
      subst shape
      change (arguments ending (_ :: _)).Reads [] 1
      rw [arguments, if_pos closes]
      exact (Outcome.Reads.done []).afterToken
  | .some list, closing, rest, shape, closes => by
      have whole := list.read closing rest shape closes
      obtain ⟨token, tail, first, begins⟩ := list.starts
      have other : token.type ≠ .rightParenthesis := by
        intro same
        rw [same] at begins
        cases begins
      rw [first, List.cons_append] at whole ⊢
      rw [arguments, if_neg other]
      exact whole

theorem ArgumentListPhrase.read {phrase behind : List Token} {values : List Expression} :
    ArgumentListPhrase phrase behind values -> ∀ closing rest, behind = closing :: rest ->
      closing.type = .rightParenthesis ->
      (argumentList ending (phrase ++ behind)).Reads values (phrase.length + 1)
  | .last value, _, _, shape, closes => by
      have reads := value.read (by decide)
      subst shape
      exact argumentList_reads ending reads (moreArguments_reads_closing ending closes _)
  | @ArgumentListPhrase.more _ comma later _ _ values value separates others, closing, rest,
      shape, closes => by
      have tail : (moreArguments ending (comma :: (later ++ behind))).Reads values
          (later.length + 1 + 1) := by
        rw [moreArguments, if_pos separates]
        exact (others.read closing rest shape closes).afterToken
      have whole := argumentList_reads ending (value.read (by decide)) tail
      simpa only [List.append_assoc, List.cons_append, List.length_append, List.length_cons,
        Nat.add_assoc] using whole

theorem AlternativePhrase.read {phrase behind : List Token} {alternative : Option Block} :
    AlternativePhrase phrase behind alternative ->
      (otherwise ending (phrase ++ behind)).Reads alternative phrase.length
  | .absent next => by
      cases behind with
      | nil =>
          change (otherwise ending []).Reads none 0
          rw [otherwise]
          exact Outcome.Reads.done none
      | cons token rest =>
          change (otherwise ending (token :: rest)).Reads none 0
          rw [otherwise, if_neg next.head]
          exact Outcome.Reads.done none
  | .present word block => by
      rw [List.cons_append, otherwise, if_pos word]
      exact (block.read.map some).afterToken

theorem BlockPhrase.read {phrase behind : List Token} {block : Block} :
    BlockPhrase phrase behind block ->
      (bracedBlock ending (phrase ++ behind)).Reads block phrase.length
  | .closed opens inside closes => by
      have inner := inside.read (blockStatements_reads_closing ending closes behind)
      have whole := bracedBlock_reads ending opens inner
      simpa only [List.append_assoc, List.cons_append, List.nil_append, List.append_nil,
        List.length_append, List.length_cons, List.length_nil, Nat.add_comm 1] using whole
  | .ended opens inside => by
      have inner := inside.read (blockStatements_reads_nil ending)
      have whole := bracedBlock_reads ending opens inner
      simpa only [List.cons_append, List.append_nil, List.length_cons, Nat.add_comm 1] using whole

theorem StatementsPhrase.read {phrase behind : List Token} {statements : List Statement} :
    StatementsPhrase phrase behind statements -> ∀ {later : List Statement} {used : Nat},
      (blockStatements ending behind).Reads later used ->
      (blockStatements ending (phrase ++ behind)).Reads (statements ++ later)
        (phrase.length + used)
  | .nil, _, _, tail => by
      rwa [List.nil_append, List.nil_append, List.length_nil, Nat.zero_add]
  | .cons first others, _, _, tail => by
      obtain ⟨token, rest, shape, begins⟩ := first.starts
      have reads := first.read token rest shape
      subst shape
      have inside : token.type ≠ .rightBrace := by
        intro same
        rw [same] at begins
        rcases begins with impossible | impossible | impossible <;> cases impossible
      have whole := blockStatements_reads_cons ending inside reads (others.read tail)
      simpa only [List.append_assoc, List.cons_append, List.length_append, List.length_cons,
        Nat.add_comm 1, Nat.add_assoc] using whole

theorem StatementPhrase.read {phrase behind : List Token} {statement : Statement} :
    StatementPhrase phrase behind statement -> ∀ token rest, phrase = token :: rest ->
      (MonkeyLang.statement ending token (rest ++ behind)).Reads statement rest.length
  | .binding word named equals value close, _, _, shape => by
      cases shape
      have whole := statement_reads_binding ending word named equals (value.read (by decide)) close
      simpa only [List.append_assoc, List.cons_append, List.length_append, List.length_cons,
        Nat.add_comm 1, Nat.add_assoc] using whole
  | .bareReturn word closes, _, _, shape => by
      cases shape
      refine statement_reads_return ending word ?_
      simp only [List.cons_append, List.nil_append, returnStatement, if_pos closes]
      exact (Outcome.Reads.done _).afterToken.within .returnStatement
  | .lastReturn word next, _, _, shape => by
      cases shape
      exact statement_reads_return ending word (returnStatement_reads_last ending next)
  | .returning word value close, _, _, shape => by
      cases shape
      have whole := statement_reads_return ending word
        (returnStatement_reads_value ending value.starts (value.read (by decide)) close)
      simpa only [List.append_assoc, List.length_append] using whole
  | .expression value close, _, _, shape => by
      cases shape
      have reads := value.read (by decide)
      obtain ⟨_, _, first, begins⟩ := value.starts
      cases first
      have whole := statement_reads_expression ending begins reads close
      simpa only [List.append_assoc, List.length_append] using whole

end

/-- A program is read up to its end. -/
theorem StatementsPhrase.read_program {phrase behind : List Token}
    {statements : List Statement} :
    StatementsPhrase phrase behind statements -> behind = [] ->
      (programStatements ending phrase).Reads statements phrase.length
  | .nil, _ => by
      rw [programStatements]
      exact Series.Reads.empty
  | .cons first others, last => by
      have later := others.read_program last
      obtain ⟨token, rest, shape, _⟩ := first.starts
      have reads := first.read ending token rest shape
      subst shape last
      rw [List.append_nil] at reads
      have whole := programStatements_reads_cons ending reads later
      simpa only [List.cons_append, List.length_append, List.length_cons, Nat.add_comm 1,
        Nat.add_assoc] using whole

end Rules

end MonkeyLang
