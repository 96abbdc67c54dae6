import MonkeyLang.Proofs.Grammar.Agreement

namespace MonkeyLang

/-!
# Readings in step

A rule looks at one token at a time, and at no token behind it before it has decided
about this one.  So two readings that stand at tokens which stand for each other take
the same branch of the rule, whichever it is.  The values that they carry along are
made of different tokens and are not compared; no branch depends on them.

Each rule has one lemma, by the measure that lets reading end.  A rule that looks at a
token itself has one more case, of lists that have parted already, and there its
assembly settles what is found.
-/

section Rules

variable {bound : Nat} {one other : Numbering}

/-! ## Single tokens and parameters -/

theorem expect_agrees (wanted : TokenType) {tokens tokens' : List Token}
    (shared : Shared bound one other tokens tokens') :
    Agrees bound one other tokens tokens' (expect one.ending wanted tokens)
      (expect other.ending wanted tokens') := by
  cases shared with
  | token paired rest =>
      rw [expect, expect, paired.type_eq]
      split
      · exact .afterToken (.done _ _) _ _
      · exact .fail paired _ (fun late => late.tail.head) fun late => late.tail.head
  | ended paired =>
      rw [expect, expect, paired.type_eq]
      exact .fail paired _ (fun late => late.head) fun late => late.head
  | apart late late' =>
      exact .apart late late' (expect_assembled late.head _ late.tail)
        (expect_assembled late'.head _ late'.tail)

theorem closeStatement_agrees (statement statement' : Statement) {tokens tokens' : List Token}
    (shared : Shared bound one other tokens tokens') :
    Agrees bound one other tokens tokens' (closeStatement statement tokens)
      (closeStatement statement' tokens') := by
  cases shared with
  | token paired rest =>
      apply Agrees.map
      rw [skipOptional, skipOptional, paired.type_eq]
      split
      · exact .afterToken (.done _ _) _ _
      · exact .done _ _
  | ended paired => exact .done _ _
  | apart late late' =>
      exact .apart late late' (closeStatement_assembled _ _) (closeStatement_assembled _ _)

mutual

theorem parameterList_agrees {tokens tokens' : List Token}
    (shared : Shared bound one other tokens tokens') :
    Agrees bound one other tokens tokens' (parameterList one.ending tokens)
      (parameterList other.ending tokens') := by
  rw [parameterList, parameterList]
  apply (expect_agrees .identifier shared).andThen shared
  intro shared token token'
  exact (moreParameters_agrees shared).map _ _
termination_by 2 * tokens.length + 1

theorem moreParameters_agrees {tokens tokens' : List Token}
    (shared : Shared bound one other tokens tokens') :
    Agrees bound one other tokens tokens' (moreParameters one.ending tokens)
      (moreParameters other.ending tokens') := by
  have closing := (expect_agrees .rightParenthesis shared).map
    (fun _ => ([] : List Identifier)) fun _ => ([] : List Identifier)
  cases shared with
  | @token token token' rest rest' paired shared =>
      rw [moreParameters, moreParameters, paired.type_eq]
      split
      · exact (parameterList_agrees shared).afterToken _ _
      · exact closing
  | ended paired =>
      rw [moreParameters, moreParameters]
      exact closing
  | apart late late' =>
      exact .apart late late' (moreParameters_assembled late.head late.tail)
        (moreParameters_assembled late'.head late'.tail)
termination_by 2 * tokens.length

end

theorem parameters_agrees {tokens tokens' : List Token}
    (shared : Shared bound one other tokens tokens') :
    Agrees bound one other tokens tokens' (parameters one.ending tokens)
      (parameters other.ending tokens') := by
  have list := parameterList_agrees shared
  cases shared with
  | token paired rest =>
      rw [parameters, parameters, paired.type_eq]
      split
      · exact .afterToken (.done _ _) _ _
      · exact list
  | ended paired => exact list
  | apart late late' =>
      exact .apart late late' (parameters_assembled late.head late.tail)
        (parameters_assembled late'.head late'.tail)

/-! ## Expressions, blocks and statements -/

theorem integerLiteral_agrees {token token' : Token} {rest rest' : List Token}
    (start : Paired one other token token') :
    Agrees bound one other (token :: rest) (token' :: rest') (integerLiteral token).afterToken
      (integerLiteral token').afterToken := by
  rw [integerLiteral, integerLiteral, start.lexeme_eq]
  split
  · exact .afterToken (.done _ _) _ _
  · exact .failAfter start _

mutual

theorem expression_agrees (minimum : Precedence) {token token' : Token}
    {rest rest' : List Token} (start : Paired one other token token')
    (shared : Shared bound one other rest rest') :
    Agrees bound one other (token :: rest) (token' :: rest')
      (expression one.ending minimum token rest).afterToken
      (expression other.ending minimum token' rest').afterToken := by
  rw [expression, expression]
  apply Agrees.withinAfter
  apply (primary_agrees start shared).andThenAfter (.token start shared)
  intro shared left left'
  exact continuation_agrees minimum left left' shared
termination_by 8 * rest.length + 5

theorem primary_agrees {token token' : Token} {rest rest' : List Token}
    (start : Paired one other token token') (shared : Shared bound one other rest rest') :
    Agrees bound one other (token :: rest) (token' :: rest')
      (primary one.ending token rest).afterToken
      (primary other.ending token' rest').afterToken := by
  rw [primary, primary, start.type_eq]
  split
  · exact .failAfter start _
  · exact .afterToken (.done _ _) _ _
  · exact integerLiteral_agrees start
  · exact .afterToken (.done _ _) _ _
  · exact (unaryExpression_agrees start shared).afterToken _ _
  · exact (groupedExpression_agrees shared).afterToken _ _
  · exact (ifExpression_agrees token token' shared).afterToken _ _
  · exact (functionLiteral_agrees token token' shared).afterToken _ _
termination_by 8 * rest.length + 4

theorem operand_agrees (minimum : Precedence) {tokens tokens' : List Token}
    (shared : Shared bound one other tokens tokens') :
    Agrees bound one other tokens tokens' (operand one.ending minimum tokens)
      (operand other.ending minimum tokens') := by
  cases shared with
  | @token token token' rest rest' paired shared =>
      rw [operand, operand]
      exact expression_agrees minimum paired shared
  | ended paired =>
      rw [operand, operand, paired.type_eq]
      exact .within (.fail paired _ (fun late => late.head) fun late => late.head) _
  | apart late late' =>
      exact .apart late late' (operand_assembled late.head minimum late.tail)
        (operand_assembled late'.head minimum late'.tail)
termination_by 8 * tokens.length

theorem unaryExpression_agrees {token token' : Token} {rest rest' : List Token}
    (start : Paired one other token token') (shared : Shared bound one other rest rest') :
    Agrees bound one other rest rest' (unaryExpression one.ending token rest)
      (unaryExpression other.ending token' rest') := by
  rw [unaryExpression, unaryExpression, start.type_eq]
  apply Agrees.within
  split
  · exact .nothing
  · exact (operand_agrees .unary shared).map _ _
termination_by 8 * rest.length + 3

theorem groupedExpression_agrees {rest rest' : List Token}
    (shared : Shared bound one other rest rest') :
    Agrees bound one other rest rest' (groupedExpression one.ending rest)
      (groupedExpression other.ending rest') := by
  rw [groupedExpression, groupedExpression]
  apply Agrees.within
  apply (operand_agrees .lowest shared).andThen shared
  intro shared value value'
  exact (expect_agrees .rightParenthesis shared).map _ _
termination_by 8 * rest.length + 3

theorem ifExpression_agrees (token token' : Token) {rest rest' : List Token}
    (shared : Shared bound one other rest rest') :
    Agrees bound one other rest rest' (ifExpression one.ending token rest)
      (ifExpression other.ending token' rest') := by
  rw [ifExpression, ifExpression]
  apply Agrees.within
  apply (expect_agrees .leftParenthesis shared).andThen shared
  intro shared opening opening'
  apply (operand_agrees .lowest shared).andThen shared
  intro shared condition condition'
  apply (expect_agrees .rightParenthesis shared).andThen shared
  intro shared closing closing'
  apply (bracedBlock_agrees shared).andThen shared
  intro shared consequence consequence'
  exact (otherwise_agrees shared).map _ _
termination_by 8 * rest.length + 3

theorem otherwise_agrees {tokens tokens' : List Token}
    (shared : Shared bound one other tokens tokens') :
    Agrees bound one other tokens tokens' (otherwise one.ending tokens)
      (otherwise other.ending tokens') := by
  cases shared with
  | @token token token' rest rest' paired shared =>
      rw [otherwise, otherwise, paired.type_eq]
      split
      · exact ((bracedBlock_agrees shared).map _ _).afterToken _ _
      · exact .done _ _
  | ended paired =>
      rw [otherwise, otherwise]
      exact .done _ _
  | apart late late' =>
      exact .apart late late' (otherwise_assembled late.head late.tail)
        (otherwise_assembled late'.head late'.tail)
termination_by 8 * tokens.length

theorem functionLiteral_agrees (token token' : Token) {rest rest' : List Token}
    (shared : Shared bound one other rest rest') :
    Agrees bound one other rest rest' (functionLiteral one.ending token rest)
      (functionLiteral other.ending token' rest') := by
  rw [functionLiteral, functionLiteral]
  apply Agrees.within
  apply (expect_agrees .leftParenthesis shared).andThen shared
  intro shared opening opening'
  apply (parameters_agrees shared).andThen shared
  intro shared names names'
  exact (bracedBlock_agrees shared).map _ _
termination_by 8 * rest.length + 3

theorem bracedBlock_agrees {tokens tokens' : List Token}
    (shared : Shared bound one other tokens tokens') :
    Agrees bound one other tokens tokens' (bracedBlock one.ending tokens)
      (bracedBlock other.ending tokens') := by
  rw [bracedBlock, bracedBlock]
  apply (expect_agrees .leftBrace shared).andThen shared
  intro shared token token'
  exact block_agrees token token' shared
termination_by 8 * tokens.length + 2

theorem block_agrees (token token' : Token) {rest rest' : List Token}
    (shared : Shared bound one other rest rest') :
    Agrees bound one other rest rest' (block one.ending token rest)
      (block other.ending token' rest') := by
  rw [block, block]
  exact (blockStatements_agrees (Block.mk token) (Block.mk token') shared).within _
termination_by 8 * rest.length + 1

theorem blockStatements_agrees {α : Type} (build build' : List Statement -> α)
    {tokens tokens' : List Token} (shared : Shared bound one other tokens tokens') :
    Agrees bound one other tokens tokens' ((blockStatements one.ending tokens).outcome build)
      ((blockStatements other.ending tokens').outcome build') := by
  cases shared with
  | @token token token' rest rest' paired shared =>
      rw [blockStatements, blockStatements, paired.type_eq]
      split
      · exact .afterToken (.done _ _) _ _
      · apply (statement_agrees paired shared).prepend (.token paired shared)
        intro shared build build'
        exact blockStatements_agrees build build' shared
  | ended paired =>
      rw [blockStatements, blockStatements]
      exact .done _ _
  | apart late late' =>
      exact .apart late late' (blockStatements_assembled late.head build late.tail)
        (blockStatements_assembled late'.head build' late'.tail)
termination_by 8 * tokens.length

theorem continuation_agrees (minimum : Precedence) (left left' : Expression)
    {tokens tokens' : List Token} (shared : Shared bound one other tokens tokens') :
    Agrees bound one other tokens tokens' (continuation one.ending minimum left tokens)
      (continuation other.ending minimum left' tokens') := by
  cases shared with
  | @token token token' rest rest' paired shared =>
      rw [continuation, continuation, paired.type_eq]
      split
      · split
        · exact .done _ _
        · next rule _ =>
            apply Agrees.afterToken
            apply (extension_agrees rule left left' paired shared).andThen shared
            intro shared whole whole'
            exact continuation_agrees minimum whole whole' shared
      · exact .done _ _
  | ended paired =>
      rw [continuation, continuation]
      exact .done _ _
  | apart late late' =>
      exact .apart late late' (continuation_assembled late.head minimum left late.tail)
        (continuation_assembled late'.head minimum left' late'.tail)
termination_by 8 * tokens.length

theorem extension_agrees (rule : ExtensionRule) (left left' : Expression) {token token' : Token}
    {rest rest' : List Token} (start : Paired one other token token')
    (shared : Shared bound one other rest rest') :
    Agrees bound one other rest rest' (extension one.ending rule left token rest)
      (extension other.ending rule left' token' rest') := by
  cases rule with
  | binary =>
      rw [extension, extension]
      exact binaryExpression_agrees left left' start shared
  | call =>
      rw [extension, extension]
      exact callExpression_agrees left left' token token' shared
termination_by 8 * rest.length + 4

theorem binaryExpression_agrees (left left' : Expression) {token token' : Token}
    {rest rest' : List Token} (start : Paired one other token token')
    (shared : Shared bound one other rest rest') :
    Agrees bound one other rest rest' (binaryExpression one.ending left token rest)
      (binaryExpression other.ending left' token' rest') := by
  rw [binaryExpression, binaryExpression, start.type_eq]
  apply Agrees.within
  split
  · exact .nothing
  · exact (operand_agrees _ shared).map _ _
termination_by 8 * rest.length + 3

theorem callExpression_agrees (callee callee' : Expression) (token token' : Token)
    {rest rest' : List Token} (shared : Shared bound one other rest rest') :
    Agrees bound one other rest rest' (callExpression one.ending callee token rest)
      (callExpression other.ending callee' token' rest') := by
  rw [callExpression, callExpression]
  exact ((arguments_agrees shared).map _ _).within _
termination_by 8 * rest.length + 3

theorem arguments_agrees {tokens tokens' : List Token}
    (shared : Shared bound one other tokens tokens') :
    Agrees bound one other tokens tokens' (arguments one.ending tokens)
      (arguments other.ending tokens') := by
  have list := argumentList_agrees shared
  cases shared with
  | @token token token' rest rest' paired shared =>
      rw [arguments, arguments, paired.type_eq]
      split
      · exact .afterToken (.done _ _) _ _
      · exact list
  | ended paired =>
      rw [arguments, arguments]
      exact list
  | apart late late' =>
      exact .apart late late' (arguments_assembled late.head late.tail)
        (arguments_assembled late'.head late'.tail)
termination_by 8 * tokens.length + 2

theorem argumentList_agrees {tokens tokens' : List Token}
    (shared : Shared bound one other tokens tokens') :
    Agrees bound one other tokens tokens' (argumentList one.ending tokens)
      (argumentList other.ending tokens') := by
  rw [argumentList, argumentList]
  apply (operand_agrees .lowest shared).andThen shared
  intro shared value value'
  exact (moreArguments_agrees shared).map _ _
termination_by 8 * tokens.length + 1

theorem moreArguments_agrees {tokens tokens' : List Token}
    (shared : Shared bound one other tokens tokens') :
    Agrees bound one other tokens tokens' (moreArguments one.ending tokens)
      (moreArguments other.ending tokens') := by
  have closing := (expect_agrees .rightParenthesis shared).map
    (fun _ => ([] : List Expression)) fun _ => ([] : List Expression)
  cases shared with
  | @token token token' rest rest' paired shared =>
      rw [moreArguments, moreArguments, paired.type_eq]
      split
      · exact (argumentList_agrees shared).afterToken _ _
      · exact closing
  | ended paired =>
      rw [moreArguments, moreArguments]
      exact closing
  | apart late late' =>
      exact .apart late late' (moreArguments_assembled late.head late.tail)
        (moreArguments_assembled late'.head late'.tail)
termination_by 8 * tokens.length

theorem statement_agrees {token token' : Token} {rest rest' : List Token}
    (start : Paired one other token token') (shared : Shared bound one other rest rest') :
    Agrees bound one other (token :: rest) (token' :: rest')
      (statement one.ending token rest).afterToken
      (statement other.ending token' rest').afterToken := by
  rw [statement, statement, start.type_eq]
  apply Agrees.withinAfter
  split
  · exact (letStatement_agrees token token' shared).afterToken _ _
  · exact (returnStatement_agrees token token' shared).afterToken _ _
  · exact expressionStatement_agrees start shared
termination_by 8 * rest.length + 7

theorem letStatement_agrees (token token' : Token) {rest rest' : List Token}
    (shared : Shared bound one other rest rest') :
    Agrees bound one other rest rest' (letStatement one.ending token rest)
      (letStatement other.ending token' rest') := by
  rw [letStatement, letStatement]
  apply Agrees.within
  apply (expect_agrees .identifier shared).andThen shared
  intro shared name name'
  apply (expect_agrees .assign shared).andThen shared
  intro shared sign sign'
  apply (operand_agrees .lowest shared).andThen shared
  intro shared value value'
  exact closeStatement_agrees _ _ shared
termination_by 8 * rest.length + 6

theorem returnStatement_agrees (token token' : Token) {rest rest' : List Token}
    (shared : Shared bound one other rest rest') :
    Agrees bound one other rest rest' (returnStatement one.ending token rest)
      (returnStatement other.ending token' rest') := by
  have whole := shared
  cases shared with
  | @token next next' rest rest' paired shared =>
      rw [returnStatement, returnStatement, paired.type_eq]
      apply Agrees.within
      split
      · exact .afterToken (.done _ _) _ _
      · split
        · exact .done _ _
        · apply (operand_agrees .lowest whole).andThen whole
          intro shared value value'
          exact closeStatement_agrees _ _ shared
  | ended paired =>
      rw [returnStatement, returnStatement]
      exact .within (.done _ _) _
  | apart late late' =>
      exact .apart late late' (returnStatement_assembled late.head token late.tail)
        (returnStatement_assembled late'.head token' late'.tail)
termination_by 8 * rest.length + 6

theorem expressionStatement_agrees {token token' : Token} {rest rest' : List Token}
    (start : Paired one other token token') (shared : Shared bound one other rest rest') :
    Agrees bound one other (token :: rest) (token' :: rest')
      (expressionStatement one.ending token rest).afterToken
      (expressionStatement other.ending token' rest').afterToken := by
  rw [expressionStatement, expressionStatement]
  apply Agrees.withinAfter
  apply (expression_agrees .lowest start shared).andThenAfter (.token start shared)
  intro shared value value'
  exact closeStatement_agrees _ _ shared
termination_by 8 * rest.length + 6

end

theorem programStatements_agrees {α : Type} (build build' : List Statement -> α)
    {tokens tokens' : List Token} (shared : Shared bound one other tokens tokens') :
    Agrees bound one other tokens tokens' ((programStatements one.ending tokens).outcome build)
      ((programStatements other.ending tokens').outcome build') := by
  cases shared with
  | @token token token' rest rest' paired shared =>
      rw [programStatements, programStatements]
      apply (statement_agrees paired shared).prepend (.token paired shared)
      intro shared build build'
      exact programStatements_agrees build build' shared
  | ended paired =>
      rw [programStatements, programStatements]
      exact .done _ _
  | apart late late' =>
      exact .apart late late' (programStatements_assembled late.head build late.tail)
        (programStatements_assembled late'.head build' late'.tail)
termination_by tokens.length

end Rules

end MonkeyLang
