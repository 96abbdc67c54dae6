import MonkeyLang.Proofs.Grammar.Orderly

namespace MonkeyLang

/-!
# Readings find faults in order

Each rule has one lemma, by the measure that lets reading end.  A rule that is entered with
its first token read is at the place behind this token, and a fault with that token is the
first that it may find.
-/

section Rules

variable {numbering : Numbering} {place : Nat}

/-! ## Single tokens and parameters -/

section

variable (last : numbering.ending.type = .ending)
include last

theorem expect_inOrder (wanted : TokenType) (inner : wanted ≠ .ending) {tokens : List Token}
    (counts : numbering.Counts place tokens) :
    InOrder numbering (2 * place) place tokens (expect numbering.ending wanted tokens) := by
  cases tokens with
  | nil => exact .unread rfl ⟨rfl, last ▸ inner.symm⟩ counts.ending
  | cons token rest =>
      rw [expect]
      split
      · exact .afterToken (.done token)
      · next other => exact .unread rfl ⟨rfl, other⟩ counts.number

omit last in
theorem closeStatement_inOrder (statement : Statement) (start : Nat) (tokens : List Token) :
    InOrder numbering start place tokens (closeStatement statement tokens) := by
  apply InOrder.map
  cases tokens with
  | nil => exact .done ()
  | cons token rest =>
      rw [skipOptional]
      split
      · exact .afterToken (.done ())
      · exact .done ()

mutual

theorem parameterList_inOrder {place : Nat} {tokens : List Token}
    (counts : numbering.Counts place tokens) :
    InOrder numbering (2 * place) place tokens (parameterList numbering.ending tokens) := by
  rw [parameterList]
  have name := expect_inOrder last .identifier (by decide) counts
  apply name.andThen (Nat.le_refl _)
  intro token
  exact (moreParameters_inOrder (counts.drop name.fits)).map _
termination_by 2 * tokens.length + 1

theorem moreParameters_inOrder {place : Nat} {tokens : List Token}
    (counts : numbering.Counts place tokens) :
    InOrder numbering (2 * place) place tokens (moreParameters numbering.ending tokens) := by
  have closing := (expect_inOrder last .rightParenthesis (by decide) counts).map
    fun _ => ([] : List Identifier)
  cases tokens with
  | nil =>
      rw [moreParameters]
      exact closing
  | cons token rest =>
      rw [moreParameters]
      split
      · exact ((parameterList_inOrder counts.rest).earlier (by omega)).afterToken
      · exact closing
termination_by 2 * tokens.length

end

theorem parameters_inOrder {tokens : List Token} (counts : numbering.Counts place tokens) :
    InOrder numbering (2 * place) place tokens (parameters numbering.ending tokens) := by
  have list := parameterList_inOrder last counts
  cases tokens with
  | nil => exact list
  | cons token rest =>
      rw [parameters]
      split
      · exact .afterToken (.done [])
      · exact list

end

/-! ## Expressions, blocks and statements -/

theorem integerLiteral_inOrder {token : Token} {rest : List Token}
    (entry : StartRule.ofTokenType? token.type = some .integer)
    (counts : numbering.Counts place (token :: rest)) :
    InOrder numbering (2 * place + 1) (place + 1) rest (integerLiteral token) := by
  rw [integerLiteral]
  split
  · exact .done _
  · next tooLarge =>
      have kind : token.type = .integer := by
        simpa [startRules] using StartRule.mem_startRules entry
      have beyond := (represent?_eq_none_iff _).mp tooLarge
      exact .readLast rfl ⟨kind, rfl, by omega⟩ counts.number

mutual

theorem expression_inOrder (last : numbering.ending.type = .ending) (minimum : Precedence)
    {place : Nat} {token : Token} {rest : List Token}
    (counts : numbering.Counts place (token :: rest)) :
    InOrder numbering (2 * place + 1) (place + 1) rest
      (expression numbering.ending minimum token rest) := by
  rw [expression]
  apply InOrder.within
  have start := primary_inOrder last counts
  apply start.andThen (by omega)
  intro left
  exact continuation_inOrder last minimum left (counts.rest.drop start.fits)
termination_by 8 * rest.length + 5

theorem primary_inOrder (last : numbering.ending.type = .ending) {place : Nat} {token : Token}
    {rest : List Token} (counts : numbering.Counts place (token :: rest)) :
    InOrder numbering (2 * place + 1) (place + 1) rest (primary numbering.ending token rest) := by
  have sooner : 2 * place + 1 ≤ 2 * (place + 1) := by omega
  rw [primary]
  cases entry : StartRule.ofTokenType? token.type with
  | none =>
      refine .readLast rfl ⟨rfl, ?_⟩ counts.number
      rw [← StartRule.isSome_ofTokenType?, entry, Option.isSome_none]
  | some rule =>
      cases rule with
      | identifier | boolean => exact .done _
      | integer => exact integerLiteral_inOrder entry counts
      | unary => exact (unaryExpression_inOrder last token counts.rest).earlier sooner
      | grouped => exact (groupedExpression_inOrder last counts.rest).earlier sooner
      | conditional => exact (ifExpression_inOrder last token counts.rest).earlier sooner
      | function => exact (functionLiteral_inOrder last token counts.rest).earlier sooner
termination_by 8 * rest.length + 4

theorem operand_inOrder (last : numbering.ending.type = .ending) (minimum : Precedence)
    {place : Nat} {tokens : List Token} (counts : numbering.Counts place tokens) :
    InOrder numbering (2 * place) place tokens (operand numbering.ending minimum tokens) := by
  cases tokens with
  | nil =>
      rw [operand]
      have suits : Fault.Suits numbering.ending (.noExpression numbering.ending.type) :=
        ⟨rfl, last ▸ rfl⟩
      exact .within (.atEnd rfl suits counts) _
  | cons token rest =>
      rw [operand]
      exact ((expression_inOrder last minimum counts).earlier (Nat.le_succ _)).afterToken
termination_by 8 * tokens.length

theorem unaryExpression_inOrder (last : numbering.ending.type = .ending) (token : Token)
    {place : Nat} {rest : List Token} (counts : numbering.Counts place rest) :
    InOrder numbering (2 * place) place rest (unaryExpression numbering.ending token rest) := by
  rw [unaryExpression]
  apply InOrder.within
  split
  · exact .nothing
  · exact (operand_inOrder last .unary counts).map _
termination_by 8 * rest.length + 3

theorem groupedExpression_inOrder (last : numbering.ending.type = .ending) {place : Nat}
    {rest : List Token} (counts : numbering.Counts place rest) :
    InOrder numbering (2 * place) place rest (groupedExpression numbering.ending rest) := by
  rw [groupedExpression]
  apply InOrder.within
  have inner := operand_inOrder last .lowest counts
  apply inner.andThen (Nat.le_refl _)
  intro value
  exact (expect_inOrder last .rightParenthesis (by decide) (counts.drop inner.fits)).map _
termination_by 8 * rest.length + 3

theorem ifExpression_inOrder (last : numbering.ending.type = .ending) (token : Token) {place : Nat}
    {rest : List Token} (counts : numbering.Counts place rest) :
    InOrder numbering (2 * place) place rest (ifExpression numbering.ending token rest) := by
  rw [ifExpression]
  apply InOrder.within
  have opening := expect_inOrder last .leftParenthesis (by decide) counts
  apply opening.andThen (Nat.le_refl _)
  intro _
  have counts := counts.drop opening.fits
  have condition := operand_inOrder last .lowest counts
  apply condition.andThen (Nat.le_refl _)
  intro test
  have counts := counts.drop condition.fits
  have closing := expect_inOrder last .rightParenthesis (by decide) counts
  apply closing.andThen (Nat.le_refl _)
  intro _
  have counts := counts.drop closing.fits
  have consequence := bracedBlock_inOrder last counts
  apply consequence.andThen (Nat.le_refl _)
  intro block
  exact (otherwise_inOrder last (counts.drop consequence.fits)).map _
termination_by 8 * rest.length + 3

theorem otherwise_inOrder (last : numbering.ending.type = .ending) {place : Nat}
    {tokens : List Token} (counts : numbering.Counts place tokens) :
    InOrder numbering (2 * place) place tokens (otherwise numbering.ending tokens) := by
  cases tokens with
  | nil =>
      rw [otherwise]
      exact .done none
  | cons token rest =>
      rw [otherwise]
      split
      · exact (((bracedBlock_inOrder last counts.rest).map some).earlier (by omega)).afterToken
      · exact .done none
termination_by 8 * tokens.length

theorem functionLiteral_inOrder (last : numbering.ending.type = .ending) (token : Token)
    {place : Nat} {rest : List Token} (counts : numbering.Counts place rest) :
    InOrder numbering (2 * place) place rest (functionLiteral numbering.ending token rest) := by
  rw [functionLiteral]
  apply InOrder.within
  have opening := expect_inOrder last .leftParenthesis (by decide) counts
  apply opening.andThen (Nat.le_refl _)
  intro _
  have counts := counts.drop opening.fits
  have names := parameters_inOrder last counts
  apply names.andThen (Nat.le_refl _)
  intro identifiers
  exact (bracedBlock_inOrder last (counts.drop names.fits)).map _
termination_by 8 * rest.length + 3

theorem bracedBlock_inOrder (last : numbering.ending.type = .ending) {place : Nat}
    {tokens : List Token} (counts : numbering.Counts place tokens) :
    InOrder numbering (2 * place) place tokens (bracedBlock numbering.ending tokens) := by
  rw [bracedBlock]
  have opening := expect_inOrder last .leftBrace (by decide) counts
  apply opening.andThen (Nat.le_refl _)
  intro token
  exact block_inOrder last token (counts.drop opening.fits)
termination_by 8 * tokens.length + 2

theorem block_inOrder (last : numbering.ending.type = .ending) (token : Token) {place : Nat}
    {rest : List Token} (counts : numbering.Counts place rest) :
    InOrder numbering (2 * place) place rest (block numbering.ending token rest) := by
  rw [block]
  exact ((blockStatements_inOrder last counts).outcome _).within _
termination_by 8 * rest.length + 1

theorem blockStatements_inOrder (last : numbering.ending.type = .ending) {place : Nat}
    {tokens : List Token} (counts : numbering.Counts place tokens) :
    SeriesInOrder numbering place tokens (blockStatements numbering.ending tokens) := by
  cases tokens with
  | nil =>
      rw [blockStatements]
      exact ⟨Nat.le_refl _, (absurd rfl ·), fun _ => .nil⟩
  | cons token rest =>
      rw [blockStatements]
      split
      · exact ⟨Nat.succ_le_succ (Nat.zero_le _), fun _ => Nat.one_pos, fun _ => .nil⟩
      · have first := statement_inOrder last counts
        have others := blockStatements_inOrder last (counts.rest.drop first.fits)
        exact .prepend counts.rest first others
termination_by 8 * tokens.length

theorem continuation_inOrder (last : numbering.ending.type = .ending) (minimum : Precedence)
    (left : Expression) {place : Nat} {tokens : List Token}
    (counts : numbering.Counts place tokens) :
    InOrder numbering (2 * place) place tokens
      (continuation numbering.ending minimum left tokens) := by
  cases tokens with
  | nil =>
      rw [continuation]
      exact .done left
  | cons token rest =>
      rw [continuation]
      split
      · split
        · exact .done left
        · next rule _ =>
            have longer := extension_inOrder last rule left token counts.rest
            have whole := longer.andThen (Nat.le_refl _) fun whole =>
              continuation_inOrder last minimum whole (counts.rest.drop longer.fits)
            exact (whole.earlier (by omega)).afterToken
      · exact .done left
termination_by 8 * tokens.length

theorem extension_inOrder (last : numbering.ending.type = .ending) (rule : ExtensionRule)
    (left : Expression) (token : Token) {place : Nat} {rest : List Token}
    (counts : numbering.Counts place rest) :
    InOrder numbering (2 * place) place rest
      (extension numbering.ending rule left token rest) := by
  cases rule with
  | binary =>
      rw [extension]
      exact binaryExpression_inOrder last left token counts
  | call =>
      rw [extension]
      exact callExpression_inOrder last left token counts
termination_by 8 * rest.length + 4

theorem binaryExpression_inOrder (last : numbering.ending.type = .ending) (left : Expression)
    (token : Token) {place : Nat} {rest : List Token} (counts : numbering.Counts place rest) :
    InOrder numbering (2 * place) place rest
      (binaryExpression numbering.ending left token rest) := by
  rw [binaryExpression]
  apply InOrder.within
  split
  · exact .nothing
  · exact (operand_inOrder last _ counts).map _
termination_by 8 * rest.length + 3

theorem callExpression_inOrder (last : numbering.ending.type = .ending) (callee : Expression)
    (token : Token) {place : Nat} {rest : List Token} (counts : numbering.Counts place rest) :
    InOrder numbering (2 * place) place rest
      (callExpression numbering.ending callee token rest) := by
  rw [callExpression]
  exact ((arguments_inOrder last counts).map _).within _
termination_by 8 * rest.length + 3

theorem arguments_inOrder (last : numbering.ending.type = .ending) {place : Nat}
    {tokens : List Token} (counts : numbering.Counts place tokens) :
    InOrder numbering (2 * place) place tokens (arguments numbering.ending tokens) := by
  cases tokens with
  | nil =>
      rw [arguments]
      exact argumentList_inOrder last counts
  | cons token rest =>
      rw [arguments]
      split
      · exact .afterToken (.done [])
      · exact argumentList_inOrder last counts
termination_by 8 * tokens.length + 2

theorem argumentList_inOrder (last : numbering.ending.type = .ending) {place : Nat}
    {tokens : List Token} (counts : numbering.Counts place tokens) :
    InOrder numbering (2 * place) place tokens (argumentList numbering.ending tokens) := by
  rw [argumentList]
  have first := operand_inOrder last .lowest counts
  apply first.andThen (Nat.le_refl _)
  intro value
  exact (moreArguments_inOrder last (counts.drop first.fits)).map _
termination_by 8 * tokens.length + 1

theorem moreArguments_inOrder (last : numbering.ending.type = .ending) {place : Nat}
    {tokens : List Token} (counts : numbering.Counts place tokens) :
    InOrder numbering (2 * place) place tokens (moreArguments numbering.ending tokens) := by
  have closing := (expect_inOrder last .rightParenthesis (by decide) counts).map
    fun _ => ([] : List Expression)
  cases tokens with
  | nil =>
      rw [moreArguments]
      exact closing
  | cons token rest =>
      rw [moreArguments]
      split
      · exact ((argumentList_inOrder last counts.rest).earlier (by omega)).afterToken
      · exact closing
termination_by 8 * tokens.length

theorem statement_inOrder (last : numbering.ending.type = .ending) {place : Nat} {token : Token}
    {rest : List Token} (counts : numbering.Counts place (token :: rest)) :
    InOrder numbering (2 * place + 1) (place + 1) rest
      (statement numbering.ending token rest) := by
  have sooner : 2 * place + 1 ≤ 2 * (place + 1) := by omega
  rw [statement]
  apply InOrder.within
  split
  · exact (letStatement_inOrder last token counts.rest).earlier sooner
  · exact (returnStatement_inOrder last token counts.rest).earlier sooner
  · exact expressionStatement_inOrder last counts
termination_by 8 * rest.length + 7

theorem letStatement_inOrder (last : numbering.ending.type = .ending) (token : Token) {place : Nat}
    {rest : List Token} (counts : numbering.Counts place rest) :
    InOrder numbering (2 * place) place rest (letStatement numbering.ending token rest) := by
  rw [letStatement]
  apply InOrder.within
  have name := expect_inOrder last .identifier (by decide) counts
  apply name.andThen (Nat.le_refl _)
  intro identifier
  have counts := counts.drop name.fits
  have sign := expect_inOrder last .assign (by decide) counts
  apply sign.andThen (Nat.le_refl _)
  intro _
  have counts := counts.drop sign.fits
  apply (operand_inOrder last .lowest counts).andThen (Nat.le_refl _)
  intro value
  exact closeStatement_inOrder _ _ _
termination_by 8 * rest.length + 6

theorem returnStatement_inOrder (last : numbering.ending.type = .ending) (token : Token)
    {place : Nat} {rest : List Token} (counts : numbering.Counts place rest) :
    InOrder numbering (2 * place) place rest (returnStatement numbering.ending token rest) := by
  cases rest with
  | nil =>
      rw [returnStatement]
      exact .within (.done _) _
  | cons next behind =>
      rw [returnStatement]
      apply InOrder.within
      split
      · exact .afterToken (.done _)
      · split
        · exact .done _
        · apply (operand_inOrder last .lowest counts).andThen (Nat.le_refl _)
          intro value
          exact closeStatement_inOrder _ _ _
termination_by 8 * rest.length + 6

theorem expressionStatement_inOrder (last : numbering.ending.type = .ending) {place : Nat}
    {token : Token} {rest : List Token} (counts : numbering.Counts place (token :: rest)) :
    InOrder numbering (2 * place + 1) (place + 1) rest
      (expressionStatement numbering.ending token rest) := by
  rw [expressionStatement]
  apply InOrder.within
  apply (expression_inOrder last .lowest counts).andThen (by omega)
  intro value
  exact closeStatement_inOrder _ _ _
termination_by 8 * rest.length + 6

end

/-- What is read up to the end of the source finds its faults in order. -/
theorem programStatements_inOrder (last : numbering.ending.type = .ending) {place : Nat}
    {tokens : List Token} (counts : numbering.Counts place tokens) :
    SeriesInOrder numbering place tokens (programStatements numbering.ending tokens) := by
  cases tokens with
  | nil =>
      rw [programStatements]
      exact ⟨Nat.le_refl _, (absurd rfl ·), fun _ => .nil⟩
  | cons token rest =>
      rw [programStatements]
      have first := statement_inOrder last counts
      have others := programStatements_inOrder last (counts.rest.drop first.fits)
      exact .prepend counts.rest first others
termination_by tokens.length

end Rules

end MonkeyLang
