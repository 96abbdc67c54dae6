import MonkeyLang.Grammar.Parse

namespace MonkeyLang

/-!
# How outcomes are assembled

Whatever a rule reads, its outcome is assembled from outcomes of other rules in a few
ways: one behind the other, with a token in front, or under the name of a rule.  At the
bottom there are values that need no token, and faults.  This is so whether the tokens
are a phrase or not; hence what is handed on in each of these ways is true of all that
is ever read, and is proved by induction on the assembly instead of rule by rule.

An outcome that gives nothing and has no fault is not assembled.  A rule for operators has
this outcome where its token stands for none, so it is assembled only because the tables
of the grammar agree: a token with such a rule stands for an operator.

Two things are kept apart.  Faults are shown by tokens of which a property is known, as
far as all tokens that are read have it.  And a statement has a constructor of its own,
by which its first token is counted and its failure is survived: it is never entered in
any other way.
-/

namespace Outcome

variable {α β : Type}

/-- An outcome that gives whether it gave a value. -/
def attempt (outcome : Outcome α) : Outcome (Option α) :=
  ⟨some outcome.result, outcome.used, outcome.trace⟩

theorem afterToken_andThen (first : Outcome α) (next : α -> Outcome β) :
    (first.andThen next).afterToken = first.afterToken.andThen next := by
  unfold andThen afterToken
  cases first.result with
  | none => rfl
  | some value => simp only [Nat.add_right_comm]

end Outcome

/-- The statements behind a statement are read whether it was read or not. -/
theorem Series.outcome_prepend {α : Type} (first : Outcome Statement) (later : Series)
    (build : List Statement -> α) :
    (Series.prepend first later).outcome build =
      first.attempt.afterToken.andThen fun statement =>
        later.outcome fun statements => build (statement.toList ++ statements) := by
  simp only [prepend, outcome, Outcome.attempt, Outcome.andThen, Outcome.afterToken,
    Outcome.mk.injEq, and_true, true_and]
  omega

/-- Outcomes that are assembled from what was read at the front of a list of tokens,
where faults are shown by certain tokens only. -/
inductive Assembled (shown : Token -> Prop) : ∀ {α : Type}, List Token -> Outcome α -> Prop
  | done {α : Type} {tokens : List Token} (value : α) : Assembled shown tokens (.done value)
  | fail {α : Type} {tokens : List Token} (fault : Fault) {token : Token} : shown token ->
      Assembled shown tokens (.fail fault token : Outcome α)
  | map {α β : Type} {tokens : List Token} {outcome : Outcome α} (change : α -> β) :
      Assembled shown tokens outcome -> Assembled shown tokens (outcome.map change)
  | afterToken {α : Type} {token : Token} {rest : List Token} {outcome : Outcome α} :
      Assembled shown rest outcome -> Assembled shown (token :: rest) outcome.afterToken
  | within {α : Type} {tokens : List Token} {outcome : Outcome α} {rule : Rule} :
      rule ≠ .statement -> Assembled shown tokens outcome ->
      Assembled shown tokens (outcome.within rule)
  | andThen {α β : Type} {tokens : List Token} {first : Outcome α} {next : α -> Outcome β} :
      Assembled shown tokens first ->
      (∀ value, Assembled shown (tokens.drop first.used) (next value)) ->
      Assembled shown tokens (first.andThen next)
  | statement {token : Token} {rest : List Token} {inner : Outcome Statement} :
      Assembled shown rest inner ->
      Assembled shown (token :: rest) (inner.within .statement).attempt.afterToken

theorem Assembled.prepend {α : Type} {shown : Token -> Prop} {token : Token}
    {rest : List Token} {inner : Outcome Statement} (first : Assembled shown rest inner)
    {later : Series}
    (others : ∀ build : List Statement -> α,
      Assembled shown (rest.drop inner.used) (later.outcome build))
    (build : List Statement -> α) :
    Assembled shown (token :: rest)
      ((Series.prepend (inner.within .statement) later).outcome build) := by
  rw [Series.outcome_prepend]
  apply Assembled.andThen (.statement first)
  intro statement
  exact others _

/-- Tokens that all have a property. -/
def AllShown (shown : Token -> Prop) (tokens : List Token) : Prop :=
  ∀ token ∈ tokens, shown token

namespace AllShown

variable {shown : Token -> Prop} {token : Token} {tokens : List Token}

theorem head (all : AllShown shown (token :: tokens)) : shown token :=
  all token List.mem_cons_self

theorem tail (all : AllShown shown (token :: tokens)) : AllShown shown tokens :=
  fun other member => all other (List.mem_cons_of_mem token member)

theorem drop (all : AllShown shown tokens) (count : Nat) : AllShown shown (tokens.drop count) :=
  fun other member => all other (List.mem_of_mem_drop member)

end AllShown

section Rules

variable {shown : Token -> Prop} {ending : Token}

/-! ## Single tokens and parameters -/

section

variable (last : shown ending)
include last

theorem expect_assembled (wanted : TokenType) {tokens : List Token}
    (all : AllShown shown tokens) : Assembled shown tokens (expect ending wanted tokens) := by
  cases tokens with
  | nil => exact .fail _ last
  | cons token rest =>
      rw [expect]
      split
      · exact .afterToken (.done token)
      · exact .fail _ all.head

omit last in
theorem closeStatement_assembled (statement : Statement) (tokens : List Token) :
    Assembled shown tokens (closeStatement statement tokens) := by
  apply Assembled.map
  cases tokens with
  | nil => exact .done ()
  | cons token rest =>
      rw [skipOptional]
      split
      · exact .afterToken (.done ())
      · exact .done ()

mutual

theorem parameterList_assembled {tokens : List Token} (all : AllShown shown tokens) :
    Assembled shown tokens (parameterList ending tokens) := by
  rw [parameterList]
  apply Assembled.andThen (expect_assembled last _ all)
  intro token
  apply Assembled.map
  exact moreParameters_assembled (all.drop _)
termination_by 2 * tokens.length + 1

theorem moreParameters_assembled {tokens : List Token} (all : AllShown shown tokens) :
    Assembled shown tokens (moreParameters ending tokens) := by
  cases tokens with
  | nil =>
      rw [moreParameters]
      exact .map _ (expect_assembled last _ all)
  | cons token rest =>
      rw [moreParameters]
      split
      · exact .afterToken (parameterList_assembled all.tail)
      · exact .map _ (expect_assembled last _ all)
termination_by 2 * tokens.length

end

theorem parameters_assembled {tokens : List Token} (all : AllShown shown tokens) :
    Assembled shown tokens (parameters ending tokens) := by
  cases tokens with
  | nil => exact parameterList_assembled last all
  | cons token rest =>
      rw [parameters]
      split
      · exact .afterToken (.done [])
      · exact parameterList_assembled last all

end

/-! ## Expressions, blocks and statements -/

/-- A number is read or is out of the range. -/
theorem integerLiteral_assembled {token : Token} (start : shown token) (tokens : List Token) :
    Assembled shown tokens (integerLiteral token) := by
  rw [integerLiteral]
  split
  · exact .done _
  · exact .fail _ start

mutual

theorem expression_assembled (last : shown ending) (minimum : Precedence) {token : Token}
    {rest : List Token} (start : shown token) (all : AllShown shown rest) :
    Assembled shown rest (expression ending minimum token rest) := by
  rw [expression]
  apply Assembled.within (by decide)
  apply Assembled.andThen (primary_assembled last start all)
  intro left
  exact continuation_assembled last minimum left (all.drop _)
termination_by 8 * rest.length + 5

theorem primary_assembled (last : shown ending) {token : Token} {rest : List Token}
    (start : shown token) (all : AllShown shown rest) :
    Assembled shown rest (primary ending token rest) := by
  rw [primary]
  cases entry : StartRule.ofTokenType? token.type with
  | none => exact .fail _ start
  | some rule =>
      cases rule with
      | identifier | boolean => exact .done _
      | integer => exact integerLiteral_assembled start rest
      | unary => exact unaryExpression_assembled last entry all
      | grouped => exact groupedExpression_assembled last all
      | conditional => exact ifExpression_assembled last token all
      | function => exact functionLiteral_assembled last token all
termination_by 8 * rest.length + 4

theorem operand_assembled (last : shown ending) (minimum : Precedence) {tokens : List Token}
    (all : AllShown shown tokens) : Assembled shown tokens (operand ending minimum tokens) := by
  cases tokens with
  | nil =>
      rw [operand]
      exact .within (by decide) (.fail _ last)
  | cons token rest =>
      rw [operand]
      exact .afterToken (expression_assembled last minimum all.head all.tail)
termination_by 8 * tokens.length

/-- The rule for operators is that of tokens which stand for one, so it always reads on. -/
theorem unaryExpression_assembled (last : shown ending) {token : Token} {rest : List Token}
    (entry : StartRule.ofTokenType? token.type = some .unary) (all : AllShown shown rest) :
    Assembled shown rest (unaryExpression ending token rest) := by
  rcases StartRule.ofTokenType?_eq_unary_iff.mp entry with ⟨operator, known⟩
  rw [unaryExpression, known]
  exact .within (by decide) (.map _ (operand_assembled last .unary all))
termination_by 8 * rest.length + 3

theorem groupedExpression_assembled (last : shown ending) {rest : List Token}
    (all : AllShown shown rest) :
    Assembled shown rest (groupedExpression ending rest) := by
  rw [groupedExpression]
  apply Assembled.within (by decide)
  apply Assembled.andThen (operand_assembled last .lowest all)
  intro value
  exact .map _ (expect_assembled last _ (all.drop _))
termination_by 8 * rest.length + 3

theorem ifExpression_assembled (last : shown ending) (token : Token) {rest : List Token}
    (all : AllShown shown rest) : Assembled shown rest (ifExpression ending token rest) := by
  rw [ifExpression]
  apply Assembled.within (by decide)
  apply Assembled.andThen (expect_assembled last _ all)
  intro opening
  apply Assembled.andThen (operand_assembled last .lowest (all.drop _))
  intro condition
  apply Assembled.andThen (expect_assembled last _ ((all.drop _).drop _))
  intro closing
  apply Assembled.andThen (bracedBlock_assembled last (((all.drop _).drop _).drop _))
  intro consequence
  apply Assembled.map
  exact otherwise_assembled last ((((all.drop _).drop _).drop _).drop _)
termination_by 8 * rest.length + 3

theorem otherwise_assembled (last : shown ending) {tokens : List Token}
    (all : AllShown shown tokens) :
    Assembled shown tokens (otherwise ending tokens) := by
  cases tokens with
  | nil =>
      rw [otherwise]
      exact .done none
  | cons token rest =>
      rw [otherwise]
      split
      · exact .afterToken (.map _ (bracedBlock_assembled last all.tail))
      · exact .done none
termination_by 8 * tokens.length

theorem functionLiteral_assembled (last : shown ending) (token : Token) {rest : List Token}
    (all : AllShown shown rest) : Assembled shown rest (functionLiteral ending token rest) := by
  rw [functionLiteral]
  apply Assembled.within (by decide)
  apply Assembled.andThen (expect_assembled last _ all)
  intro opening
  apply Assembled.andThen (parameters_assembled last (all.drop _))
  intro names
  apply Assembled.map
  exact bracedBlock_assembled last ((all.drop _).drop _)
termination_by 8 * rest.length + 3

theorem bracedBlock_assembled (last : shown ending) {tokens : List Token}
    (all : AllShown shown tokens) :
    Assembled shown tokens (bracedBlock ending tokens) := by
  rw [bracedBlock]
  apply Assembled.andThen (expect_assembled last _ all)
  intro token
  exact block_assembled last token (all.drop _)
termination_by 8 * tokens.length + 2

theorem block_assembled (last : shown ending) (token : Token) {rest : List Token}
    (all : AllShown shown rest) :
    Assembled shown rest (block ending token rest) := by
  rw [block]
  exact .within (by decide) (blockStatements_assembled last (Block.mk token) all)
termination_by 8 * rest.length + 1

theorem blockStatements_assembled (last : shown ending) {α : Type} (build : List Statement -> α)
    {tokens : List Token} (all : AllShown shown tokens) :
    Assembled shown tokens ((blockStatements ending tokens).outcome build) := by
  cases tokens with
  | nil =>
      rw [blockStatements]
      exact .done (build [])
  | cons token rest =>
      rw [blockStatements]
      split
      · exact .afterToken (.done (build []))
      · rcases statement_assembled last all.head all.tail with ⟨inner, same, first⟩
        dsimp only
        rw [same]
        apply first.prepend
        intro build
        exact blockStatements_assembled last build (all.tail.drop _)
termination_by 8 * tokens.length

theorem continuation_assembled (last : shown ending) (minimum : Precedence) (left : Expression)
    {tokens : List Token} (all : AllShown shown tokens) :
    Assembled shown tokens (continuation ending minimum left tokens) := by
  cases tokens with
  | nil =>
      rw [continuation]
      exact .done left
  | cons token rest =>
      rw [continuation]
      split
      · split
        · exact .done left
        · next rule entry =>
            apply Assembled.afterToken
            apply Assembled.andThen (extension_assembled last left entry all.tail)
            intro whole
            exact continuation_assembled last minimum whole (all.tail.drop _)
      · exact .done left
termination_by 8 * tokens.length

theorem extension_assembled (last : shown ending) {rule : ExtensionRule} (left : Expression)
    {token : Token} {rest : List Token}
    (entry : ExtensionRule.ofTokenType? token.type = some rule) (all : AllShown shown rest) :
    Assembled shown rest (extension ending rule left token rest) := by
  cases rule with
  | binary =>
      rw [extension]
      exact binaryExpression_assembled last left entry all
  | call =>
      rw [extension]
      exact callExpression_assembled last left token all
termination_by 8 * rest.length + 4

theorem binaryExpression_assembled (last : shown ending) (left : Expression) {token : Token}
    {rest : List Token} (entry : ExtensionRule.ofTokenType? token.type = some .binary)
    (all : AllShown shown rest) :
    Assembled shown rest (binaryExpression ending left token rest) := by
  rcases ExtensionRule.ofTokenType?_eq_binary_iff.mp entry with ⟨operator, known⟩
  rw [binaryExpression, known]
  exact .within (by decide) (.map _ (operand_assembled last _ all))
termination_by 8 * rest.length + 3

theorem callExpression_assembled (last : shown ending) (callee : Expression) (token : Token)
    {rest : List Token} (all : AllShown shown rest) :
    Assembled shown rest (callExpression ending callee token rest) := by
  rw [callExpression]
  exact .within (by decide) (.map _ (arguments_assembled last all))
termination_by 8 * rest.length + 3

theorem arguments_assembled (last : shown ending) {tokens : List Token}
    (all : AllShown shown tokens) :
    Assembled shown tokens (arguments ending tokens) := by
  cases tokens with
  | nil =>
      rw [arguments]
      exact argumentList_assembled last all
  | cons token rest =>
      rw [arguments]
      split
      · exact .afterToken (.done [])
      · exact argumentList_assembled last all
termination_by 8 * tokens.length + 2

theorem argumentList_assembled (last : shown ending) {tokens : List Token}
    (all : AllShown shown tokens) :
    Assembled shown tokens (argumentList ending tokens) := by
  rw [argumentList]
  apply Assembled.andThen (operand_assembled last .lowest all)
  intro value
  apply Assembled.map
  exact moreArguments_assembled last (all.drop _)
termination_by 8 * tokens.length + 1

theorem moreArguments_assembled (last : shown ending) {tokens : List Token}
    (all : AllShown shown tokens) :
    Assembled shown tokens (moreArguments ending tokens) := by
  cases tokens with
  | nil =>
      rw [moreArguments]
      exact .map _ (expect_assembled last _ all)
  | cons token rest =>
      rw [moreArguments]
      split
      · exact .afterToken (argumentList_assembled last all.tail)
      · exact .map _ (expect_assembled last _ all)
termination_by 8 * tokens.length

/-- A statement is entered with an outcome that is assembled. -/
theorem statement_assembled (last : shown ending) {token : Token} {rest : List Token}
    (start : shown token) (all : AllShown shown rest) :
    ∃ inner, statement ending token rest = inner.within .statement ∧
      Assembled shown rest inner := by
  rw [statement]
  refine ⟨_, rfl, ?_⟩
  split
  · exact letStatement_assembled last token all
  · exact returnStatement_assembled last token all
  · exact expressionStatement_assembled last start all
termination_by 8 * rest.length + 7

theorem letStatement_assembled (last : shown ending) (token : Token) {rest : List Token}
    (all : AllShown shown rest) : Assembled shown rest (letStatement ending token rest) := by
  rw [letStatement]
  apply Assembled.within (by decide)
  apply Assembled.andThen (expect_assembled last _ all)
  intro name
  apply Assembled.andThen (expect_assembled last _ (all.drop _))
  intro sign
  apply Assembled.andThen (operand_assembled last .lowest ((all.drop _).drop _))
  intro value
  exact closeStatement_assembled _ _
termination_by 8 * rest.length + 6

theorem returnStatement_assembled (last : shown ending) (token : Token) {rest : List Token}
    (all : AllShown shown rest) : Assembled shown rest (returnStatement ending token rest) := by
  cases rest with
  | nil =>
      rw [returnStatement]
      exact .within (by decide) (.done _)
  | cons next behind =>
      rw [returnStatement]
      apply Assembled.within (by decide)
      split
      · exact .afterToken (.done _)
      · split
        · exact .done _
        · apply Assembled.andThen (operand_assembled last .lowest all)
          intro value
          exact closeStatement_assembled _ _
termination_by 8 * rest.length + 6

theorem expressionStatement_assembled (last : shown ending) {token : Token} {rest : List Token}
    (start : shown token) (all : AllShown shown rest) :
    Assembled shown rest (expressionStatement ending token rest) := by
  rw [expressionStatement]
  apply Assembled.within (by decide)
  apply Assembled.andThen (expression_assembled last .lowest start all)
  intro value
  exact closeStatement_assembled _ _
termination_by 8 * rest.length + 6

end

/-- What is read up to the end of the source is assembled. -/
theorem programStatements_assembled {α : Type} (last : shown ending) (build : List Statement -> α)
    {tokens : List Token} (all : AllShown shown tokens) :
    Assembled shown tokens ((programStatements ending tokens).outcome build) := by
  cases tokens with
  | nil =>
      rw [programStatements]
      exact .done (build [])
  | cons token rest =>
      rw [programStatements]
      rcases statement_assembled last all.head all.tail with ⟨inner, same, first⟩
      rw [same]
      apply first.prepend
      intro build
      exact programStatements_assembled last build (all.tail.drop _)
termination_by tokens.length

end Rules

/-! ## The tokens that show faults -/

namespace Trace

theorem diagnosticsOfAll_append (context : List Rule) (first second : List Trace) :
    diagnosticsOfAll context (first ++ second) =
      diagnosticsOfAll context first ++ diagnosticsOfAll context second := by
  induction first with
  | nil => rfl
  | cons trace later ih =>
      rw [List.cons_append, diagnosticsOfAll, diagnosticsOfAll, ih, List.append_assoc]

theorem diagnosticsOfAll_fault (context : List Rule) (fault : Fault) (token : Token) :
    diagnosticsOfAll context [.fault fault token] = [⟨fault, token, context⟩] := by
  simp [diagnosticsOfAll, diagnostics]

theorem diagnosticsOfAll_rule (context : List Rule) (name : Rule) (completed : Bool)
    (inner : List Trace) :
    diagnosticsOfAll context [.rule name completed inner] =
      diagnosticsOfAll (context ++ [name]) inner := by
  simp [diagnosticsOfAll, diagnostics]

/-- Whether all faults in traces are shown by tokens with a property. -/
def ShownBy (shown : Token -> Prop) (traces : List Trace) : Prop :=
  ∀ context, ∀ diagnostic ∈ diagnosticsOfAll context traces, shown diagnostic.token

namespace ShownBy

variable {shown : Token -> Prop}

theorem nil : ShownBy shown [] := fun _ => List.forall_mem_nil _

theorem fault (problem : Fault) {token : Token} (known : shown token) :
    ShownBy shown [.fault problem token] := by
  intro context
  rw [diagnosticsOfAll_fault, List.forall_mem_singleton]
  exact known

theorem append {first second : List Trace} (before : ShownBy shown first)
    (behind : ShownBy shown second) : ShownBy shown (first ++ second) := by
  intro context
  rw [diagnosticsOfAll_append, List.forall_mem_append]
  exact ⟨before context, behind context⟩

theorem rule {inner : List Trace} (inside : ShownBy shown inner) (name : Rule)
    (completed : Bool) : ShownBy shown [.rule name completed inner] := by
  intro context
  rw [diagnosticsOfAll_rule]
  exact inside _

end ShownBy

end Trace

/-- The faults of what was read are shown by tokens that may show them. -/
theorem Assembled.shownBy {α : Type} {shown : Token -> Prop} {tokens : List Token}
    {outcome : Outcome α} (assembled : Assembled shown tokens outcome) :
    Trace.ShownBy shown outcome.trace := by
  induction assembled with
  | done _ => exact .nil
  | fail fault known => exact .fault fault known
  | map _ _ ih => exact ih
  | afterToken _ ih => exact ih
  | within _ _ ih => exact ih.rule _ _
  | @andThen _ _ _ first next _ _ ih later =>
      unfold Outcome.andThen
      cases first.result with
      | none => exact ih
      | some value => exact ih.append (later value)
  | statement _ ih => exact ih.rule _ _

end MonkeyLang
