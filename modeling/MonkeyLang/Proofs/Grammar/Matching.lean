import MonkeyLang.Grammar.Reading
import MonkeyLang.Proofs.Grammar.Assembly
import MonkeyLang.Proofs.Syntax.Tokens

namespace MonkeyLang

open Text

/-!
# What is read matches its tokens

Every node that the reader makes is what its token says, and its token is one of those
that were read.  This is so of all that is read, also of the statements that are left of a
source with faults: a rule that gives a node has looked at the kind of its token, and a
rule that fails gives nothing.
-/

/-- Whether the value of an outcome, if there is one, has a property. -/
structure Outcome.Gives {α : Type} (outcome : Outcome α) (good : α -> Prop) : Prop where
  each : ∀ value ∈ outcome.result, good value

namespace Outcome.Gives

variable {α β : Type} {good : α -> Prop} {good' : β -> Prop}

theorem done {value : α} (meets : good value) : (Outcome.done value).Gives good := by
  constructor
  rintro other ⟨⟩
  exact meets

theorem fail (fault : Fault) (token : Token) :
    (Outcome.fail fault token : Outcome α).Gives good := by
  constructor
  rintro value ⟨⟩

theorem map {outcome : Outcome α} (gives : outcome.Gives good) {change : α -> β}
    (meets : ∀ value, good value -> good' (change value)) : (outcome.map change).Gives good' := by
  constructor
  intro value member
  rcases Option.map_eq_some_iff.mp member with ⟨part, given, rfl⟩
  exact meets part (gives.each part given)

theorem afterToken {outcome : Outcome α} (gives : outcome.Gives good) :
    outcome.afterToken.Gives good := ⟨gives.each⟩

theorem within {outcome : Outcome α} (gives : outcome.Gives good) (rule : Rule) :
    (outcome.within rule).Gives good := ⟨gives.each⟩

theorem andThen {first : Outcome α} (gives : first.Gives good) {next : α -> Outcome β}
    (later : ∀ value, good value -> (next value).Gives good') :
    (first.andThen next).Gives good' := by
  unfold Outcome.andThen
  cases given : first.result with
  | none => exact ⟨fun _ member => nomatch member⟩
  | some part => exact ⟨(later part (gives.each part given)).each⟩

end Outcome.Gives

/-- The statements in a series have a property together if each that was read has it. -/
theorem Series.statementsMatch_prepend {shown : Token -> Prop} {first : Outcome Statement}
    {later : Series} (gives : first.Gives (Statement.Matches shown))
    (others : StatementsMatch shown later.statements) :
    StatementsMatch shown (Series.prepend first later).statements := by
  apply statementsMatch_append shown _ others
  cases given : first.result with
  | none =>
      rw [Option.toList_none, StatementsMatch]
      trivial
  | some statement =>
      rw [Option.toList_some, StatementsMatch, StatementsMatch]
      exact ⟨gives.each statement given, trivial⟩

section Rules

variable {shown : Token -> Prop} {ending : Token}

/-! ## Single tokens and parameters -/

theorem expect_gives (wanted : TokenType) {tokens : List Token} (all : AllShown shown tokens) :
    (expect ending wanted tokens).Gives fun token => shown token ∧ token.type = wanted := by
  cases tokens with
  | nil => exact .fail _ _
  | cons token rest =>
      rw [expect]
      split
      · next kind => exact .afterToken (.done ⟨all.head, kind⟩)
      · exact .fail _ _

theorem closeStatement_gives {statement : Statement} (good : statement.Matches shown)
    (tokens : List Token) :
    (closeStatement statement tokens).Gives (Statement.Matches shown) := by
  have skipped : (skipOptional .semicolon tokens).Gives fun _ => True := ⟨fun _ _ => trivial⟩
  exact skipped.map fun _ _ => good

theorem Token.matches_toIdentifier {token : Token} (start : shown token)
    (kind : token.type = .identifier) : token.toIdentifier.Matches shown :=
  ⟨start, kind, rfl⟩

mutual

theorem parameterList_gives {tokens : List Token} (all : AllShown shown tokens) :
    (parameterList ending tokens).Gives
      fun names => ∀ parameter ∈ names, parameter.Matches shown := by
  rw [parameterList]
  apply (expect_gives .identifier all).andThen
  rintro token ⟨start, kind⟩
  apply (moreParameters_gives (all.drop _)).map
  intro names others
  exact List.forall_mem_cons.mpr ⟨Token.matches_toIdentifier start kind, others⟩
termination_by 2 * tokens.length + 1

theorem moreParameters_gives {tokens : List Token} (all : AllShown shown tokens) :
    (moreParameters ending tokens).Gives
      fun names => ∀ parameter ∈ names, parameter.Matches shown := by
  cases tokens with
  | nil =>
      rw [moreParameters]
      exact (expect_gives _ all).map fun _ _ => List.forall_mem_nil _
  | cons token rest =>
      rw [moreParameters]
      split
      · exact .afterToken (parameterList_gives all.tail)
      · exact (expect_gives _ all).map fun _ _ => List.forall_mem_nil _
termination_by 2 * tokens.length

end

theorem parameters_gives {tokens : List Token} (all : AllShown shown tokens) :
    (parameters ending tokens).Gives
      fun names => ∀ parameter ∈ names, parameter.Matches shown := by
  cases tokens with
  | nil => exact parameterList_gives all
  | cons token rest =>
      rw [parameters]
      split
      · exact .afterToken (.done (List.forall_mem_nil _))
      · exact parameterList_gives all

/-! ## Expressions, blocks and statements -/

theorem integerLiteral_gives {token : Token} (start : shown token)
    (kind : token.type = .integer) : (integerLiteral token).Gives (Expression.Matches shown) := by
  rw [integerLiteral]
  split
  · next value represented =>
      apply Outcome.Gives.done
      rw [Expression.Matches]
      exact ⟨start, kind, toInt_of_represent? represented⟩
  · exact .fail _ _

mutual

theorem expression_gives (minimum : Precedence) {token : Token} {rest : List Token}
    (start : shown token) (all : AllShown shown rest) :
    (expression ending minimum token rest).Gives (Expression.Matches shown) := by
  rw [expression]
  apply Outcome.Gives.within
  apply (primary_gives start all).andThen
  intro left good
  exact continuation_gives minimum good (all.drop _)
termination_by 8 * rest.length + 5

theorem primary_gives {token : Token} {rest : List Token} (start : shown token)
    (all : AllShown shown rest) :
    (primary ending token rest).Gives (Expression.Matches shown) := by
  rw [primary]
  cases entry : StartRule.ofTokenType? token.type with
  | none => exact .fail _ _
  | some rule =>
      have listed := StartRule.mem_startRules entry
      cases rule with
      | identifier =>
          have kind : token.type = .identifier := by simpa [startRules] using listed
          apply Outcome.Gives.done
          rw [Expression.Matches]
          exact Token.matches_toIdentifier start kind
      | integer => exact integerLiteral_gives start (by simpa [startRules] using listed)
      | boolean =>
          have kind : token.type = .trueWord ∨ token.type = .falseWord := by
            simpa [startRules] using listed
          apply Outcome.Gives.done
          rw [Expression.Matches]
          refine ⟨start, ?_⟩
          rcases kind with kind | kind <;> rw [kind] <;> rfl
      | unary => exact unaryExpression_gives start entry all
      | grouped => exact groupedExpression_gives all
      | conditional => exact ifExpression_gives start (by simpa [startRules] using listed) all
      | function => exact functionLiteral_gives start (by simpa [startRules] using listed) all
termination_by 8 * rest.length + 4

theorem operand_gives (minimum : Precedence) {tokens : List Token}
    (all : AllShown shown tokens) :
    (operand ending minimum tokens).Gives (Expression.Matches shown) := by
  cases tokens with
  | nil =>
      rw [operand]
      exact .within (.fail _ _) _
  | cons token rest =>
      rw [operand]
      exact .afterToken (expression_gives minimum all.head all.tail)
termination_by 8 * tokens.length

theorem unaryExpression_gives {token : Token} {rest : List Token} (start : shown token)
    (entry : StartRule.ofTokenType? token.type = some .unary) (all : AllShown shown rest) :
    (unaryExpression ending token rest).Gives (Expression.Matches shown) := by
  rcases StartRule.ofTokenType?_eq_unary_iff.mp entry with ⟨operator, known⟩
  rw [unaryExpression, known]
  apply Outcome.Gives.within
  apply (operand_gives .unary all).map
  intro operand good
  rw [Expression.Matches]
  exact ⟨start, known, good⟩
termination_by 8 * rest.length + 3

theorem groupedExpression_gives {rest : List Token} (all : AllShown shown rest) :
    (groupedExpression ending rest).Gives (Expression.Matches shown) := by
  rw [groupedExpression]
  apply Outcome.Gives.within
  apply (operand_gives .lowest all).andThen
  intro value good
  exact (expect_gives _ (all.drop _)).map fun _ _ => good
termination_by 8 * rest.length + 3

theorem ifExpression_gives {token : Token} {rest : List Token} (start : shown token)
    (kind : token.type = .ifWord) (all : AllShown shown rest) :
    (ifExpression ending token rest).Gives (Expression.Matches shown) := by
  rw [ifExpression]
  apply Outcome.Gives.within
  apply (expect_gives _ all).andThen
  intro opening _
  apply (operand_gives .lowest (all.drop _)).andThen
  intro condition test
  apply (expect_gives _ ((all.drop _).drop _)).andThen
  intro closing _
  apply (bracedBlock_gives (((all.drop _).drop _).drop _)).andThen
  intro consequence branch
  apply (otherwise_gives ((((all.drop _).drop _).drop _).drop _)).map
  intro alternative other
  cases alternative with
  | none =>
      rw [Expression.Matches]
      exact ⟨start, kind, test, branch⟩
  | some block =>
      rw [Expression.Matches]
      exact ⟨start, kind, test, branch, other block rfl⟩
termination_by 8 * rest.length + 3

theorem otherwise_gives {tokens : List Token} (all : AllShown shown tokens) :
    (otherwise ending tokens).Gives
      fun alternative => ∀ block ∈ alternative, block.Matches shown := by
  cases tokens with
  | nil =>
      rw [otherwise]
      exact .done fun block member => nomatch member
  | cons token rest =>
      rw [otherwise]
      split
      · apply Outcome.Gives.afterToken
        apply (bracedBlock_gives all.tail).map
        rintro block good other ⟨⟩
        exact good
      · exact .done fun block member => nomatch member
termination_by 8 * tokens.length

theorem functionLiteral_gives {token : Token} {rest : List Token} (start : shown token)
    (kind : token.type = .functionWord) (all : AllShown shown rest) :
    (functionLiteral ending token rest).Gives (Expression.Matches shown) := by
  rw [functionLiteral]
  apply Outcome.Gives.within
  apply (expect_gives _ all).andThen
  intro opening _
  apply (parameters_gives (all.drop _)).andThen
  intro names good
  apply (bracedBlock_gives ((all.drop _).drop _)).map
  intro body inside
  rw [Expression.Matches]
  exact ⟨start, kind, good, inside⟩
termination_by 8 * rest.length + 3

theorem bracedBlock_gives {tokens : List Token} (all : AllShown shown tokens) :
    (bracedBlock ending tokens).Gives (Block.Matches shown) := by
  rw [bracedBlock]
  apply (expect_gives .leftBrace all).andThen
  rintro token ⟨start, kind⟩
  exact block_gives start kind (all.drop _)
termination_by 8 * tokens.length + 2

theorem block_gives {token : Token} {rest : List Token} (start : shown token)
    (kind : token.type = .leftBrace) (all : AllShown shown rest) :
    (block ending token rest).Gives (Block.Matches shown) := by
  rw [block]
  apply Outcome.Gives.within
  constructor
  rintro value ⟨⟩
  rw [Block.Matches]
  exact ⟨start, kind, blockStatements_match all⟩
termination_by 8 * rest.length + 1

theorem blockStatements_match {tokens : List Token} (all : AllShown shown tokens) :
    StatementsMatch shown (blockStatements ending tokens).statements := by
  cases tokens with
  | nil =>
      rw [blockStatements, Series.empty, StatementsMatch]
      trivial
  | cons token rest =>
      rw [blockStatements]
      split
      · rw [Series.empty, StatementsMatch]
        trivial
      · exact Series.statementsMatch_prepend (statement_gives all.head all.tail)
          (blockStatements_match (all.tail.drop _))
termination_by 8 * tokens.length

theorem continuation_gives (minimum : Precedence) {left : Expression}
    (good : left.Matches shown) {tokens : List Token} (all : AllShown shown tokens) :
    (continuation ending minimum left tokens).Gives (Expression.Matches shown) := by
  cases tokens with
  | nil =>
      rw [continuation]
      exact .done good
  | cons token rest =>
      rw [continuation]
      split
      · split
        · exact .done good
        · next rule entry =>
            apply Outcome.Gives.afterToken
            apply (extension_gives good all.head entry all.tail).andThen
            intro whole better
            exact continuation_gives minimum better (all.tail.drop _)
      · exact .done good
termination_by 8 * tokens.length

theorem extension_gives {rule : ExtensionRule} {left : Expression} (good : left.Matches shown)
    {token : Token} {rest : List Token} (start : shown token)
    (entry : ExtensionRule.ofTokenType? token.type = some rule) (all : AllShown shown rest) :
    (extension ending rule left token rest).Gives (Expression.Matches shown) := by
  cases rule with
  | binary =>
      rw [extension]
      exact binaryExpression_gives good start entry all
  | call =>
      rw [extension]
      exact callExpression_gives good start (ExtensionRule.ofTokenType?_eq_call_iff.mp entry) all
termination_by 8 * rest.length + 4

theorem binaryExpression_gives {left : Expression} (good : left.Matches shown) {token : Token}
    {rest : List Token} (start : shown token)
    (entry : ExtensionRule.ofTokenType? token.type = some .binary) (all : AllShown shown rest) :
    (binaryExpression ending left token rest).Gives (Expression.Matches shown) := by
  rcases ExtensionRule.ofTokenType?_eq_binary_iff.mp entry with ⟨operator, known⟩
  rw [binaryExpression, known]
  apply Outcome.Gives.within
  apply (operand_gives _ all).map
  intro right better
  rw [Expression.Matches]
  exact ⟨start, known, good, better⟩
termination_by 8 * rest.length + 3

theorem callExpression_gives {callee : Expression} (good : callee.Matches shown) {token : Token}
    {rest : List Token} (start : shown token) (opens : token.type = .leftParenthesis)
    (all : AllShown shown rest) :
    (callExpression ending callee token rest).Gives (Expression.Matches shown) := by
  rw [callExpression]
  apply Outcome.Gives.within
  apply (arguments_gives all).map
  intro values each
  rw [Expression.Matches]
  exact ⟨start, opens, good, each⟩
termination_by 8 * rest.length + 3

theorem arguments_gives {tokens : List Token} (all : AllShown shown tokens) :
    (arguments ending tokens).Gives (AllMatch shown) := by
  cases tokens with
  | nil =>
      rw [arguments]
      exact argumentList_gives all
  | cons token rest =>
      rw [arguments]
      split
      · apply Outcome.Gives.afterToken
        apply Outcome.Gives.done
        rw [AllMatch]
        trivial
      · exact argumentList_gives all
termination_by 8 * tokens.length + 2

theorem argumentList_gives {tokens : List Token} (all : AllShown shown tokens) :
    (argumentList ending tokens).Gives (AllMatch shown) := by
  rw [argumentList]
  apply (operand_gives .lowest all).andThen
  intro value good
  apply (moreArguments_gives (all.drop _)).map
  intro values others
  rw [AllMatch]
  exact ⟨good, others⟩
termination_by 8 * tokens.length + 1

theorem moreArguments_gives {tokens : List Token} (all : AllShown shown tokens) :
    (moreArguments ending tokens).Gives (AllMatch shown) := by
  have closed : (expect ending .rightParenthesis tokens).map (fun _ => [])
      |>.Gives (AllMatch shown) := by
    apply (expect_gives _ all).map
    intro _ _
    rw [AllMatch]
    trivial
  cases tokens with
  | nil =>
      rw [moreArguments]
      exact closed
  | cons token rest =>
      rw [moreArguments]
      split
      · exact .afterToken (argumentList_gives all.tail)
      · exact closed
termination_by 8 * tokens.length

theorem statement_gives {token : Token} {rest : List Token} (start : shown token)
    (all : AllShown shown rest) :
    (statement ending token rest).Gives (Statement.Matches shown) := by
  rw [statement]
  apply Outcome.Gives.within
  split
  · next kind => exact letStatement_gives start kind all
  · next kind => exact returnStatement_gives start kind all
  · exact expressionStatement_gives start all
termination_by 8 * rest.length + 7

theorem letStatement_gives {token : Token} {rest : List Token} (start : shown token)
    (kind : token.type = .letWord) (all : AllShown shown rest) :
    (letStatement ending token rest).Gives (Statement.Matches shown) := by
  rw [letStatement]
  apply Outcome.Gives.within
  apply (expect_gives .identifier all).andThen
  rintro name ⟨named, identifies⟩
  apply (expect_gives _ (all.drop _)).andThen
  intro sign _
  apply (operand_gives .lowest ((all.drop _).drop _)).andThen
  intro value good
  apply closeStatement_gives
  rw [Statement.Matches]
  exact ⟨start, kind, Token.matches_toIdentifier named identifies, good⟩
termination_by 8 * rest.length + 6

theorem returnStatement_gives {token : Token} {rest : List Token} (start : shown token)
    (kind : token.type = .returnWord) (all : AllShown shown rest) :
    (returnStatement ending token rest).Gives (Statement.Matches shown) := by
  have bare : (Statement.returning token none).Matches shown := by
    rw [Statement.Matches]
    exact ⟨start, kind⟩
  cases rest with
  | nil =>
      rw [returnStatement]
      exact .within (.done bare) _
  | cons next behind =>
      rw [returnStatement]
      apply Outcome.Gives.within
      split
      · exact .afterToken (.done bare)
      · split
        · exact .done bare
        · apply (operand_gives .lowest all).andThen
          intro value good
          apply closeStatement_gives
          rw [Statement.Matches]
          exact ⟨start, kind, good⟩
termination_by 8 * rest.length + 6

theorem expressionStatement_gives {token : Token} {rest : List Token} (start : shown token)
    (all : AllShown shown rest) :
    (expressionStatement ending token rest).Gives (Statement.Matches shown) := by
  rw [expressionStatement]
  apply Outcome.Gives.within
  apply (expression_gives .lowest start all).andThen
  intro value good
  apply closeStatement_gives
  rw [Statement.Matches]
  exact ⟨start, good⟩
termination_by 8 * rest.length + 6

end

theorem programStatements_match {tokens : List Token} (all : AllShown shown tokens) :
    StatementsMatch shown (programStatements ending tokens).statements := by
  cases tokens with
  | nil =>
      rw [programStatements, Series.empty, StatementsMatch]
      trivial
  | cons token rest =>
      rw [programStatements]
      exact Series.statementsMatch_prepend (statement_gives all.head all.tail)
        (programStatements_match (all.tail.drop _))
termination_by tokens.length

end Rules

/-- Every node of a program that was read, from a source with or without faults, is what
its token says, and its token is one of those that were read. -/
theorem Reading.program_matches (ending : Token) (tokens : List Token) :
    (Reading.ofTokens ending tokens).program.Matches (· ∈ tokens) :=
  programStatements_match fun _ member => member

end MonkeyLang
