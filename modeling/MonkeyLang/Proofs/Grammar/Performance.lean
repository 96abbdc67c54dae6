import MonkeyLang.Proofs.Grammar.Performed

namespace MonkeyLang

/-!
# Every rule is performed

Each rule has one lemma, by the measure that lets reading end: what the rule makes of the tokens
that a parser has in front of it comes of its routine.  That a routine comes to an end is part of
this, on whatever tokens; so the measure, which only the list of tokens has, is what keeps a
parser from going on for ever.
-/

section Rules

variable {ending : Token}

/-! ## Single tokens and parameters -/

theorem expect_comesOf (wanted : TokenType) (inner : wanted ≠ .ending) {tokens : List Token}
    {parser : Parser} (faces : parser.Faces ending tokens) :
    ComesOf ending tokens parser (.expect wanted) (expect ending wanted tokens) := by
  cases tokens with
  | nil =>
      apply ComesOf.next faces.next_nil
      rw [if_neg (faces.type_ending_ne inner), expect]
      exact .report faces _ _
  | cons token rest =>
      apply ComesOf.next faces.next_cons
      rw [expect]
      apply ComesOf.ite Iff.rfl
      · intro _
        exact .advance (.atCurrent faces.advance_cons faces.next_cons)
      · intro _
        exact .report faces _ _

theorem closeStatement_comesOf (statement : Statement) {tokens : List Token} {parser : Parser}
    (faces : parser.Faces ending tokens) :
    ComesOf ending tokens parser (.closeStatement statement) (closeStatement statement tokens) := by
  cases tokens with
  | nil =>
      apply ComesOf.next faces.next_nil
      rw [if_neg (faces.type_ending_ne (by decide))]
      exact .give faces statement
  | cons token rest =>
      apply ComesOf.next faces.next_cons
      rw [closeStatement, skipOptional, apply_ite (Outcome.map fun _ => statement)]
      apply ComesOf.ite Iff.rfl
      · intro _
        change ComesOf ending (token :: rest) parser _ (Outcome.done statement).afterToken
        exact .advance (.give faces.advance_cons statement)
      · intro _
        exact .give faces statement

mutual

theorem parameterList_comesOf {tokens : List Token} {parser : Parser}
    (faces : parser.Faces ending tokens) :
    ComesOf ending tokens parser .parameterList (parameterList ending tokens) := by
  rw [parameterList]
  apply ComesOf.andThen (expect_comesOf .identifier (by decide) faces)
  intro token between faces
  exact (moreParameters_comesOf faces).map _
termination_by 2 * tokens.length + 1

theorem moreParameters_comesOf {tokens : List Token} {parser : Parser}
    (faces : parser.Faces ending tokens) :
    ComesOf ending tokens parser .moreParameters (moreParameters ending tokens) := by
  have closing := (expect_comesOf .rightParenthesis (by decide) faces).map
    fun _ => ([] : List Identifier)
  cases tokens with
  | nil =>
      apply ComesOf.next faces.next_nil
      rw [if_neg (faces.type_ending_ne (by decide)), moreParameters]
      exact closing
  | cons token rest =>
      apply ComesOf.next faces.next_cons
      rw [moreParameters]
      apply ComesOf.ite Iff.rfl
      · intro _
        exact .advance (.call (parameterList_comesOf faces.advance_cons))
      · intro _
        exact closing
termination_by 2 * tokens.length

end

theorem parameters_comesOf {tokens : List Token} {parser : Parser}
    (faces : parser.Faces ending tokens) :
    ComesOf ending tokens parser .parameters (parameters ending tokens) := by
  have list : ComesOf ending tokens parser (.call .parameterList) (parameterList ending tokens) :=
    .call (parameterList_comesOf faces)
  cases tokens with
  | nil =>
      apply ComesOf.next faces.next_nil
      rw [if_neg (faces.type_ending_ne (by decide))]
      exact list
  | cons token rest =>
      apply ComesOf.next faces.next_cons
      rw [parameters]
      apply ComesOf.ite Iff.rfl
      · intro _
        exact .advance (.give faces.advance_cons [])
      · intro _
        exact list

/-! ## Expressions, blocks and statements -/

/-- No expression starts at the end. -/
theorem expression_comesOf_ending (minimum : Precedence) {parser : Parser}
    (faces : parser.Faces ending []) (here : parser.current = ending) :
    ComesOf ending [] parser (.expression minimum)
      ((Outcome.fail (.noExpression ending.type) ending).within .expression) := by
  apply ComesOf.within
  apply ComesOf.stopped
  refine ComesOf.current here ?_
  rw [faces.type_ending]
  exact .report (faces.enter _) _ _

/-- A parser stands at the token that it expected. -/
theorem Performs.current_of_expect {wanted : TokenType} {parser after : Parser} {token : Token}
    (performs : Performs (.expect wanted) parser (some token) after) : after.current = token := by
  change Performs (.andThen (.look _) _) parser (some token) after at performs
  cases performs with
  | andThen looked behind =>
      cases looked
      dsimp only at behind
      split at behind
      · change Performs (.andThen (.forward ()) fun _ => .look _) _ _ _ at behind
        cases behind with
        | andThen moved found =>
            cases moved
            cases found
            rfl
      · cases behind

theorem Precedence.admits_ending (minimum : Precedence) : minimum.admits .ending = false := by
  cases minimum <;> rfl

theorem integerLiteral_comesOf {token : Token} {rest : List Token} {parser : Parser}
    (faces : parser.Faces ending rest) (here : parser.current = token) :
    ComesOf ending rest parser .integerLiteral (integerLiteral token) := by
  refine ComesOf.current here ?_
  rw [integerLiteral]
  cases represent? (Text.ofDigits token.lexeme.toList) with
  | some value => exact .give faces _
  | none => exact .report faces _ _

mutual

theorem expression_comesOf (minimum : Precedence) {token : Token} {rest : List Token}
    {parser : Parser} (faces : parser.Faces ending rest) (here : parser.current = token) :
    ComesOf ending rest parser (.expression minimum) (expression ending minimum token rest) := by
  rw [expression]
  apply ComesOf.within
  apply ComesOf.andThen (primary_comesOf (faces.enter _) here)
  intro left between faces
  exact .call (continuation_comesOf minimum left faces)
termination_by 8 * rest.length + 5

theorem primary_comesOf {token : Token} {rest : List Token} {parser : Parser}
    (faces : parser.Faces ending rest) (here : parser.current = token) :
    ComesOf ending rest parser .primary (primary ending token rest) := by
  apply ComesOf.current here
  rw [primary]
  cases StartRule.ofTokenType? token.type with
  | none => exact .report faces _ _
  | some rule =>
      cases rule with
      | identifier | boolean => exact .give faces _
      | integer => exact integerLiteral_comesOf faces here
      | unary => exact unaryExpression_comesOf faces here
      | grouped => exact groupedExpression_comesOf faces
      | conditional => exact ifExpression_comesOf faces here
      | function => exact functionLiteral_comesOf faces here
termination_by 8 * rest.length + 4

theorem operand_comesOf (minimum : Precedence) {tokens : List Token} {parser : Parser}
    (faces : parser.Faces ending tokens) :
    ComesOf ending tokens parser (.operand minimum) (operand ending minimum tokens) := by
  cases tokens with
  | nil =>
      -- The list has no token to use up, but the parser goes on to the end token.
      rw [operand]
      exact .advance_nil (.call (expression_comesOf_ending minimum faces.advance_nil faces.next))
  | cons token rest =>
      rw [operand]
      exact .advance (.call (expression_comesOf minimum faces.advance_cons faces.next_cons))
termination_by 8 * tokens.length

theorem unaryExpression_comesOf {token : Token} {rest : List Token} {parser : Parser}
    (faces : parser.Faces ending rest) (here : parser.current = token) :
    ComesOf ending rest parser .unaryExpression (unaryExpression ending token rest) := by
  rw [unaryExpression]
  apply ComesOf.within
  refine ComesOf.current here ?_
  cases UnaryOperator.ofTokenType? token.type with
  | none => exact .quit (faces.enter _)
  | some operator => exact (operand_comesOf .unary (faces.enter _)).map _
termination_by 8 * rest.length + 3

theorem groupedExpression_comesOf {rest : List Token} {parser : Parser}
    (faces : parser.Faces ending rest) :
    ComesOf ending rest parser .groupedExpression (groupedExpression ending rest) := by
  rw [groupedExpression]
  apply ComesOf.within
  apply ComesOf.andThen (operand_comesOf .lowest (faces.enter _))
  intro value between faces
  exact (expect_comesOf .rightParenthesis (by decide) faces).map _
termination_by 8 * rest.length + 3

theorem ifExpression_comesOf {token : Token} {rest : List Token} {parser : Parser}
    (faces : parser.Faces ending rest) (here : parser.current = token) :
    ComesOf ending rest parser .ifExpression (ifExpression ending token rest) := by
  rw [ifExpression]
  apply ComesOf.within
  refine ComesOf.current here ?_
  apply ComesOf.andThen (expect_comesOf .leftParenthesis (by decide) (faces.enter _))
  intro _ between faces
  apply ComesOf.andThen (operand_comesOf .lowest faces)
  intro test between faces
  apply ComesOf.andThen (expect_comesOf .rightParenthesis (by decide) faces)
  intro _ between faces
  apply ComesOf.andThen (bracedBlock_comesOf faces)
  intro consequence between faces
  exact (otherwise_comesOf faces).map _
termination_by 8 * rest.length + 3

theorem otherwise_comesOf {tokens : List Token} {parser : Parser}
    (faces : parser.Faces ending tokens) :
    ComesOf ending tokens parser .otherwise (otherwise ending tokens) := by
  cases tokens with
  | nil =>
      apply ComesOf.next faces.next_nil
      rw [if_neg (faces.type_ending_ne (by decide)), otherwise]
      exact .give faces none
  | cons token rest =>
      apply ComesOf.next faces.next_cons
      rw [otherwise]
      apply ComesOf.ite Iff.rfl
      · intro _
        exact .advance ((bracedBlock_comesOf faces.advance_cons).map some)
      · intro _
        exact .give faces none
termination_by 8 * tokens.length

theorem functionLiteral_comesOf {token : Token} {rest : List Token} {parser : Parser}
    (faces : parser.Faces ending rest) (here : parser.current = token) :
    ComesOf ending rest parser .functionLiteral (functionLiteral ending token rest) := by
  rw [functionLiteral]
  apply ComesOf.within
  refine ComesOf.current here ?_
  apply ComesOf.andThen (expect_comesOf .leftParenthesis (by decide) (faces.enter _))
  intro _ between faces
  apply ComesOf.andThen (parameters_comesOf faces)
  intro names between faces
  exact (bracedBlock_comesOf faces).map _
termination_by 8 * rest.length + 3

theorem bracedBlock_comesOf {tokens : List Token} {parser : Parser}
    (faces : parser.Faces ending tokens) :
    ComesOf ending tokens parser .bracedBlock (bracedBlock ending tokens) := by
  rw [bracedBlock]
  apply ComesOf.andThenOf (expect_comesOf .leftBrace (by decide) faces)
  intro token between performs faces
  exact .call (block_comesOf faces performs.current_of_expect)
termination_by 8 * tokens.length + 2

theorem block_comesOf {token : Token} {rest : List Token} {parser : Parser}
    (faces : parser.Faces ending rest) (here : parser.current = token) :
    ComesOf ending rest parser .block (block ending token rest) := by
  rw [block]
  apply ComesOf.within
  refine ComesOf.current here ?_
  rcases blockStatements_comesOf (faces.enter .block).advance with
    ⟨after, performs, faces, written⟩
  exact ⟨after, .andThen (.forward ()) (.andThen (.call performs) (.give _)), faces, written⟩
termination_by 8 * rest.length + 1

theorem blockStatements_comesOf {tokens : List Token} {parser : Parser}
    (stands : parser.Stands ending tokens) :
    SeriesComesOf parser (.statementsUpTo [.rightBrace, .ending] .blockStatements)
      (blockStatements ending tokens)
      (Parser.Faces ending (tokens.drop (blockStatements ending tokens).used)) := by
  cases tokens with
  | nil =>
      have ends : parser.current.type = .ending := stands.here ▸ stands.faces.type_ending
      rw [blockStatements]
      exact .none (by simp [ends]) stands.faces
  | cons token rest =>
      have here : parser.current = token := stands.here
      rw [blockStatements]
      split
      · next closes => exact .none (by simp [here, closes]) stands.faces
      · next goesOn =>
          have inside : token.type ≠ .ending := stands.inner token List.mem_cons_self
          apply SeriesComesOf.prepend (by simp [here, goesOn, inside])
            (statement_comesOf stands.faces here)
          intro between stands
          have later := blockStatements_comesOf stands
          rw [List.drop_drop] at later
          rw [Series.prepend, Nat.add_assoc, Nat.add_comm 1, List.drop_succ_cons]
          exact later
termination_by 8 * tokens.length

theorem continuation_comesOf (minimum : Precedence) (left : Expression) {tokens : List Token}
    {parser : Parser} (faces : parser.Faces ending tokens) :
    ComesOf ending tokens parser (.continuation minimum left)
      (continuation ending minimum left tokens) := by
  cases tokens with
  | nil =>
      apply ComesOf.next faces.next_nil
      rw [if_neg (by simp [faces.type_ending, minimum.admits_ending]), continuation]
      exact .give faces left
  | cons token rest =>
      apply ComesOf.next faces.next_cons
      rw [continuation]
      apply ComesOf.ite Iff.rfl
      · intro _
        cases ExtensionRule.ofTokenType? token.type with
        | none => exact .give faces left
        | some rule =>
            apply ComesOf.advance
            apply ComesOf.andThen (extension_comesOf rule left faces.advance_cons faces.next_cons)
            intro whole between faces
            exact .call (continuation_comesOf minimum whole faces)
      · intro _
        exact .give faces left
termination_by 8 * tokens.length

theorem extension_comesOf (rule : ExtensionRule) (left : Expression) {token : Token}
    {rest : List Token} {parser : Parser} (faces : parser.Faces ending rest)
    (here : parser.current = token) :
    ComesOf ending rest parser (.extension rule left) (extension ending rule left token rest) := by
  cases rule with
  | binary =>
      rw [extension]
      exact binaryExpression_comesOf left faces here
  | call =>
      rw [extension]
      exact callExpression_comesOf left faces here
termination_by 8 * rest.length + 4

theorem binaryExpression_comesOf (left : Expression) {token : Token} {rest : List Token}
    {parser : Parser} (faces : parser.Faces ending rest) (here : parser.current = token) :
    ComesOf ending rest parser (.binaryExpression left)
      (binaryExpression ending left token rest) := by
  rw [binaryExpression]
  apply ComesOf.within
  refine ComesOf.current here ?_
  cases BinaryOperator.ofTokenType? token.type with
  | none => exact .quit (faces.enter _)
  | some operator => exact (operand_comesOf _ (faces.enter _)).map _
termination_by 8 * rest.length + 3

theorem callExpression_comesOf (callee : Expression) {token : Token} {rest : List Token}
    {parser : Parser} (faces : parser.Faces ending rest) (here : parser.current = token) :
    ComesOf ending rest parser (.callExpression callee)
      (callExpression ending callee token rest) := by
  rw [callExpression]
  apply ComesOf.within
  refine ComesOf.current here ?_
  exact (arguments_comesOf (faces.enter _)).map _
termination_by 8 * rest.length + 3

theorem arguments_comesOf {tokens : List Token} {parser : Parser}
    (faces : parser.Faces ending tokens) :
    ComesOf ending tokens parser .arguments (arguments ending tokens) := by
  have list : ComesOf ending tokens parser (.call .argumentList) (argumentList ending tokens) :=
    .call (argumentList_comesOf faces)
  cases tokens with
  | nil =>
      apply ComesOf.next faces.next_nil
      rw [if_neg (faces.type_ending_ne (by decide)), arguments]
      exact list
  | cons token rest =>
      apply ComesOf.next faces.next_cons
      rw [arguments]
      apply ComesOf.ite Iff.rfl
      · intro _
        exact .advance (.give faces.advance_cons [])
      · intro _
        exact list
termination_by 8 * tokens.length + 2

theorem argumentList_comesOf {tokens : List Token} {parser : Parser}
    (faces : parser.Faces ending tokens) :
    ComesOf ending tokens parser .argumentList (argumentList ending tokens) := by
  rw [argumentList]
  apply ComesOf.andThen (operand_comesOf .lowest faces)
  intro value between faces
  exact (moreArguments_comesOf faces).map _
termination_by 8 * tokens.length + 1

theorem moreArguments_comesOf {tokens : List Token} {parser : Parser}
    (faces : parser.Faces ending tokens) :
    ComesOf ending tokens parser .moreArguments (moreArguments ending tokens) := by
  have closing := (expect_comesOf .rightParenthesis (by decide) faces).map
    fun _ => ([] : List Expression)
  cases tokens with
  | nil =>
      apply ComesOf.next faces.next_nil
      rw [if_neg (faces.type_ending_ne (by decide)), moreArguments]
      exact closing
  | cons token rest =>
      apply ComesOf.next faces.next_cons
      rw [moreArguments]
      apply ComesOf.ite Iff.rfl
      · intro _
        exact .advance (.call (argumentList_comesOf faces.advance_cons))
      · intro _
        exact closing
termination_by 8 * tokens.length

theorem statement_comesOf {token : Token} {rest : List Token} {parser : Parser}
    (faces : parser.Faces ending rest) (here : parser.current = token) :
    ComesOf ending rest parser .statement (statement ending token rest) := by
  have other := expressionStatement_comesOf (faces.enter .statement) here
  rw [statement]
  apply ComesOf.within
  refine ComesOf.current here ?_
  cases kind : token.type with
  | letWord => exact letStatement_comesOf (faces.enter _) here
  | returnWord => exact returnStatement_comesOf (faces.enter _) here
  | _ => exact other
termination_by 8 * rest.length + 7

theorem letStatement_comesOf {token : Token} {rest : List Token} {parser : Parser}
    (faces : parser.Faces ending rest) (here : parser.current = token) :
    ComesOf ending rest parser .letStatement (letStatement ending token rest) := by
  rw [letStatement]
  apply ComesOf.within
  refine ComesOf.current here ?_
  apply ComesOf.andThen (expect_comesOf .identifier (by decide) (faces.enter _))
  intro name between faces
  apply ComesOf.andThen (expect_comesOf .assign (by decide) faces)
  intro _ between faces
  apply ComesOf.andThen (operand_comesOf .lowest faces)
  intro value between faces
  exact closeStatement_comesOf _ faces
termination_by 8 * rest.length + 6

theorem returnStatement_comesOf {token : Token} {rest : List Token} {parser : Parser}
    (faces : parser.Faces ending rest) (here : parser.current = token) :
    ComesOf ending rest parser .returnStatement (returnStatement ending token rest) := by
  cases rest with
  | nil =>
      rw [returnStatement]
      apply ComesOf.within
      refine ComesOf.current here (ComesOf.next faces.next_nil ?_)
      rw [if_neg (faces.type_ending_ne (by decide)), if_pos (.inr faces.type_ending)]
      exact .give (faces.enter _) _
  | cons following behind =>
      have inside : following.type ≠ .ending := faces.inner following List.mem_cons_self
      rw [returnStatement]
      apply ComesOf.within
      refine ComesOf.current here (ComesOf.next faces.next_cons ?_)
      apply ComesOf.ite Iff.rfl
      · intro _
        exact .advance (.give (faces.enter .returnStatement).advance_cons _)
      · intro _
        apply ComesOf.ite (or_iff_left inside)
        · intro _
          exact .give (faces.enter _) _
        · intro _
          apply ComesOf.andThen (operand_comesOf .lowest (faces.enter _))
          intro value between faces
          exact closeStatement_comesOf _ faces
termination_by 8 * rest.length + 6

theorem expressionStatement_comesOf {token : Token} {rest : List Token} {parser : Parser}
    (faces : parser.Faces ending rest) (here : parser.current = token) :
    ComesOf ending rest parser .expressionStatement (expressionStatement ending token rest) := by
  rw [expressionStatement]
  apply ComesOf.within
  refine ComesOf.current here ?_
  apply ComesOf.andThen (.call (expression_comesOf .lowest (faces.enter _) here))
  intro value between faces
  exact closeStatement_comesOf _ faces
termination_by 8 * rest.length + 6

end

/-- What is read up to the end of the source is performed, and the parser stands at the end. -/
theorem programStatements_comesOf {tokens : List Token} {parser : Parser}
    (stands : parser.Stands ending tokens) :
    SeriesComesOf parser (.statementsUpTo [.ending] .programStatements)
      (programStatements ending tokens) (Parser.Stands ending []) := by
  cases tokens with
  | nil =>
      have ends : parser.current.type = .ending := stands.here ▸ stands.faces.type_ending
      rw [programStatements]
      exact .none (by simp [ends]) stands
  | cons token rest =>
      have here : parser.current = token := stands.here
      have inside : token.type ≠ .ending := stands.inner token List.mem_cons_self
      rw [programStatements]
      apply SeriesComesOf.prepend (by simp [here, inside]) (statement_comesOf stands.faces here)
      intro between stands
      exact programStatements_comesOf stands
termination_by tokens.length

/-! ## Programs -/

/-- A parser that stands at the first of some tokens reads them as a program, comes to the end
and stays there. -/
theorem program_performs {tokens : List Token} {parser : Parser}
    (stands : parser.Stands ending tokens) :
    ∃ after, Performs .program parser (some (Reading.ofTokens ending tokens).program) after ∧
      after.Stands ending [] ∧
      after.records =
        parser.records ++ (Reading.ofTokens ending tokens).trace.records parser.rules := by
  have inside : (parser.enter .program).Stands ending tokens :=
    ⟨stands.here, stands.faces.enter .program, stands.inner⟩
  rcases programStatements_comesOf inside with ⟨after, performs, ⟨here, faces, inner⟩, written⟩
  have performed : Performs (.call .programStatements >>= fun statements => pure ⟨statements⟩)
      (parser.enter .program) (some (Reading.ofTokens ending tokens).program) after :=
    .andThen (.call performs) (.give _)
  refine ⟨after.leave, .within performed, ⟨?_, faces.leave, inner⟩, ?_⟩
  · rw [Parser.current_leave, here]
  · rw [Parser.records_leave performed.rules_eq written, Reading.ofTokens, Trace.records]
    rfl

end Rules

/-- A parser stands at the first token that its scanner has not read yet. -/
theorem Parser.stands_ofScanner (scanner : Scanner) :
    (Parser.ofScanner scanner).Stands scanner.ending scanner.tokens where
  here := scanner.draw_fst
  faces :=
    { next := by
        rw [← scanner.tokens_draw, ← scanner.ending_draw]
        exact scanner.draw.2.draw_fst
      behind := by
        rw [← scanner.tokens_draw]
        exact scanner.draw.2.tokens_draw
      last := scanner.draw.2.ending_draw.trans scanner.ending_draw
      inner := fun token member =>
        Scanner.type_ne_ending_of_mem_tokens token (List.mem_of_mem_tail member) }
  inner := Scanner.type_ne_ending_of_mem_tokens

/-- A parser reads all that its scanner has not read yet.  It gives the program of the reading,
and writes down its diagnostics and its log. -/
theorem Reading.ofScanner_performs (scanner : Scanner) :
    ∃ after,
      Performs .program (.ofScanner scanner) (some (ofScanner scanner).program) after ∧
      after.Stands scanner.ending [] ∧
      after.diagnostics = (ofScanner scanner).diagnostics ∧
      Record.lines after.records = (ofScanner scanner).log := by
  rcases program_performs (Parser.stands_ofScanner scanner) with
    ⟨after, performs, there, written⟩
  have written : after.records = (ofScanner scanner).trace.records [] := written
  refine ⟨after, performs, there, ?_, ?_⟩
  · rw [Parser.diagnostics, written, Trace.diagnostics_records]
    rfl
  · rw [written, Trace.lines_records]
    rfl

end MonkeyLang
