import MonkeyLang.Grammar.Reading
import MonkeyLang.Proofs.Syntax.Unplaced
import MonkeyLang.Proofs.Token.Places

namespace MonkeyLang

/-!
# Reading does not look at places

A rule looks at the kind of a token, and for names and numbers at its characters.  The
place of a token it only hands on, into the tree or to a diagnostic.  So it makes no
difference whether the places are forgotten before reading or behind it, and this holds
of each rule as it holds of the rules that it uses.

Where two scanners draw the same words from now on, they draw the same tokens without
places, and so what is read from them is the same without places too.  Blanks, line breaks
and tokens that were drawn before only move the places of the tokens.
-/

/-! ## Traces, diagnostics and outcomes without places -/

/-- A diagnostic without the place of its token. -/
def Diagnostic.unplaced (diagnostic : Diagnostic) : Diagnostic :=
  { diagnostic with token := diagnostic.token.unplaced }

namespace Trace

mutual

/-- A trace without the places of its tokens. -/
def unplaced : Trace -> Trace
  | .fault problem token => .fault problem token.unplaced
  | .rule name completed inner => .rule name completed (unplaceTraces inner)
termination_by structural trace => trace

/-- Several traces without the places of their tokens. -/
def unplaceTraces : List Trace -> List Trace
  | [] => []
  | trace :: later => trace.unplaced :: unplaceTraces later
termination_by structural traces => traces

end

theorem unplaceTraces_append (first second : List Trace) :
    unplaceTraces (first ++ second) = unplaceTraces first ++ unplaceTraces second := by
  induction first with
  | nil => rfl
  | cons trace later ih =>
      rw [List.cons_append, unplaceTraces, unplaceTraces, ih, List.cons_append]

mutual

theorem diagnostics_unplaced (context : List Rule) : ∀ trace : Trace,
    trace.unplaced.diagnostics context = (trace.diagnostics context).map Diagnostic.unplaced
  | .fault _ _ => rfl
  | .rule name _ inner => by
      rw [unplaced, diagnostics, diagnostics]
      exact diagnosticsOfAll_unplaceTraces (context ++ [name]) inner

theorem diagnosticsOfAll_unplaceTraces (context : List Rule) : ∀ traces : List Trace,
    diagnosticsOfAll context (unplaceTraces traces) =
      (diagnosticsOfAll context traces).map Diagnostic.unplaced
  | [] => rfl
  | trace :: later => by
      rw [unplaceTraces, diagnosticsOfAll, diagnosticsOfAll, List.map_append,
        diagnostics_unplaced context trace, diagnosticsOfAll_unplaceTraces context later]

end

end Trace

namespace Outcome

variable {α β : Type}

/-- An outcome without places, where it is known how a value is without them. -/
def unplaced (forget : α -> α) (outcome : Outcome α) : Outcome α :=
  ⟨outcome.result.map forget, outcome.used, Trace.unplaceTraces outcome.trace⟩

theorem map_unplaced {forget : α -> α} {forget' : β -> β} {change bare : α -> β}
    {outcome outcome' : Outcome α} (same : outcome' = outcome.unplaced forget)
    (natural : ∀ value, bare (forget value) = forget' (change value)) :
    outcome'.map bare = (outcome.map change).unplaced forget' := by
  subst same
  unfold Outcome.map Outcome.unplaced
  cases outcome.result with
  | none => rfl
  | some value => exact congrArg (fun answer => Outcome.mk (some answer) _ _) (natural value)

theorem within_unplaced {forget : α -> α} {outcome outcome' : Outcome α}
    (same : outcome' = outcome.unplaced forget) (rule : Rule) :
    outcome'.within rule = (outcome.within rule).unplaced forget := by
  subst same
  unfold Outcome.within Outcome.unplaced
  rw [Option.isSome_map]
  rfl

theorem andThen_unplaced {forget : α -> α} {forget' : β -> β} {next bare : α -> Outcome β}
    (first : Outcome α) (natural : ∀ value, bare (forget value) = (next value).unplaced forget') :
    (first.unplaced forget).andThen bare = (first.andThen next).unplaced forget' := by
  unfold Outcome.andThen Outcome.unplaced
  cases first.result with
  | none => rfl
  | some value =>
      rw [Option.map_some]
      dsimp only
      rw [natural, Trace.unplaceTraces_append]
      rfl

end Outcome

/-- The outcome of reading statements without places. -/
def Series.unplaced (series : Series) : Series :=
  ⟨unplaceStatements series.statements, series.used, Trace.unplaceTraces series.trace⟩

theorem Series.unplaced_prepend (first : Outcome Statement) (later : Series) :
    Series.prepend (first.unplaced Statement.unplaced) later.unplaced =
      (Series.prepend first later).unplaced := by
  unfold Series.prepend Series.unplaced Outcome.unplaced
  rw [unplaceStatements_append, Trace.unplaceTraces_append]
  cases first.result <;> rfl

/-! ## Single tokens and parameters -/

theorem expect_unplaced (ending : Token) (wanted : TokenType) (tokens : List Token) :
    expect ending.unplaced wanted (tokens.map Token.unplaced) =
      (expect ending wanted tokens).unplaced Token.unplaced := by
  cases tokens with
  | nil => rfl
  | cons token rest =>
      have kind : token.unplaced.type = token.type := rfl
      rw [List.map_cons, expect, expect, kind]
      split <;> rfl

theorem closeStatement_unplaced (statement : Statement) (tokens : List Token) :
    closeStatement statement.unplaced (tokens.map Token.unplaced) =
      (closeStatement statement tokens).unplaced Statement.unplaced := by
  cases tokens with
  | nil => rfl
  | cons token rest =>
      have kind : token.unplaced.type = token.type := rfl
      rw [List.map_cons, closeStatement, closeStatement, skipOptional, skipOptional, kind]
      split <;> rfl

section Rules

variable (ending : Token)

mutual

theorem parameterList_unplaced (tokens : List Token) :
    parameterList ending.unplaced (tokens.map Token.unplaced) =
      (parameterList ending tokens).unplaced (List.map Identifier.unplaced) := by
  rw [parameterList, parameterList, expect_unplaced]
  apply Outcome.andThen_unplaced
  intro token
  rw [← List.map_drop]
  exact Outcome.map_unplaced (moreParameters_unplaced _) fun _ => rfl
termination_by 2 * tokens.length + 1

theorem moreParameters_unplaced (tokens : List Token) :
    moreParameters ending.unplaced (tokens.map Token.unplaced) =
      (moreParameters ending tokens).unplaced (List.map Identifier.unplaced) := by
  cases tokens with
  | nil =>
      rw [List.map_nil, moreParameters, moreParameters]
      exact Outcome.map_unplaced (expect_unplaced ending .rightParenthesis []) fun _ => rfl
  | cons token rest =>
      have kind : token.unplaced.type = token.type := rfl
      rw [List.map_cons, moreParameters, moreParameters, kind]
      split
      · exact congrArg Outcome.afterToken (parameterList_unplaced rest)
      · exact Outcome.map_unplaced (expect_unplaced ending .rightParenthesis (token :: rest))
          fun _ => rfl
termination_by 2 * tokens.length

end

theorem parameters_unplaced (tokens : List Token) :
    parameters ending.unplaced (tokens.map Token.unplaced) =
      (parameters ending tokens).unplaced (List.map Identifier.unplaced) := by
  cases tokens with
  | nil => exact parameterList_unplaced ending []
  | cons token rest =>
      have kind : token.unplaced.type = token.type := rfl
      rw [List.map_cons, parameters, parameters, kind]
      split
      · rfl
      · exact parameterList_unplaced ending (token :: rest)

/-! ## Expressions, blocks and statements -/

theorem integerLiteral_unplaced (token : Token) :
    integerLiteral token.unplaced = (integerLiteral token).unplaced Expression.unplaced := by
  have characters : token.unplaced.lexeme = token.lexeme := rfl
  rw [integerLiteral, integerLiteral, characters]
  split <;> rfl

mutual

theorem expression_unplaced (minimum : Precedence) (token : Token) (rest : List Token) :
    expression ending.unplaced minimum token.unplaced (rest.map Token.unplaced) =
      (expression ending minimum token rest).unplaced Expression.unplaced := by
  rw [expression, expression, primary_unplaced]
  apply Outcome.within_unplaced
  apply Outcome.andThen_unplaced
  intro left
  rw [← List.map_drop]
  exact continuation_unplaced minimum left _
termination_by 8 * rest.length + 5

theorem primary_unplaced (token : Token) (rest : List Token) :
    primary ending.unplaced token.unplaced (rest.map Token.unplaced) =
      (primary ending token rest).unplaced Expression.unplaced := by
  have kind : token.unplaced.type = token.type := rfl
  rw [primary, primary, kind]
  cases StartRule.ofTokenType? token.type with
  | none => rfl
  | some rule =>
      cases rule with
      | identifier | boolean => rfl
      | integer => exact integerLiteral_unplaced token
      | unary => exact unaryExpression_unplaced token rest
      | grouped => exact groupedExpression_unplaced rest
      | conditional => exact ifExpression_unplaced token rest
      | function => exact functionLiteral_unplaced token rest
termination_by 8 * rest.length + 4

theorem operand_unplaced (minimum : Precedence) (tokens : List Token) :
    operand ending.unplaced minimum (tokens.map Token.unplaced) =
      (operand ending minimum tokens).unplaced Expression.unplaced := by
  cases tokens with
  | nil =>
      rw [List.map_nil, operand, operand]
      rfl
  | cons token rest =>
      rw [List.map_cons, operand, operand]
      exact congrArg Outcome.afterToken (expression_unplaced minimum token rest)
termination_by 8 * tokens.length

theorem unaryExpression_unplaced (token : Token) (rest : List Token) :
    unaryExpression ending.unplaced token.unplaced (rest.map Token.unplaced) =
      (unaryExpression ending token rest).unplaced Expression.unplaced := by
  have kind : token.unplaced.type = token.type := rfl
  rw [unaryExpression, unaryExpression, kind]
  apply Outcome.within_unplaced
  cases UnaryOperator.ofTokenType? token.type with
  | none => rfl
  | some operator => exact Outcome.map_unplaced (operand_unplaced .unary rest) fun _ => rfl
termination_by 8 * rest.length + 3

theorem groupedExpression_unplaced (rest : List Token) :
    groupedExpression ending.unplaced (rest.map Token.unplaced) =
      (groupedExpression ending rest).unplaced Expression.unplaced := by
  rw [groupedExpression, groupedExpression, operand_unplaced]
  apply Outcome.within_unplaced
  apply Outcome.andThen_unplaced
  intro value
  rw [← List.map_drop]
  exact Outcome.map_unplaced (expect_unplaced ending .rightParenthesis _) fun _ => rfl
termination_by 8 * rest.length + 3

theorem ifExpression_unplaced (token : Token) (rest : List Token) :
    ifExpression ending.unplaced token.unplaced (rest.map Token.unplaced) =
      (ifExpression ending token rest).unplaced Expression.unplaced := by
  rw [ifExpression, ifExpression, expect_unplaced]
  apply Outcome.within_unplaced
  apply Outcome.andThen_unplaced
  intro _
  rw [← List.map_drop]
  dsimp only
  rw [operand_unplaced]
  apply Outcome.andThen_unplaced
  intro test
  rw [← List.map_drop, expect_unplaced]
  apply Outcome.andThen_unplaced
  intro _
  rw [← List.map_drop, bracedBlock_unplaced]
  apply Outcome.andThen_unplaced
  intro consequence
  rw [← List.map_drop]
  apply Outcome.map_unplaced (otherwise_unplaced _)
  rintro (_ | alternative) <;> rfl
termination_by 8 * rest.length + 3

theorem otherwise_unplaced (tokens : List Token) :
    otherwise ending.unplaced (tokens.map Token.unplaced) =
      (otherwise ending tokens).unplaced (Option.map Block.unplaced) := by
  cases tokens with
  | nil =>
      rw [List.map_nil, otherwise, otherwise]
      rfl
  | cons token rest =>
      have kind : token.unplaced.type = token.type := rfl
      rw [List.map_cons, otherwise, otherwise, kind]
      split
      · have branch : (bracedBlock ending.unplaced (rest.map Token.unplaced)).map some =
            ((bracedBlock ending rest).map some).unplaced (Option.map Block.unplaced) :=
          Outcome.map_unplaced (bracedBlock_unplaced rest) fun _ => rfl
        exact congrArg Outcome.afterToken branch
      · rfl
termination_by 8 * tokens.length

theorem functionLiteral_unplaced (token : Token) (rest : List Token) :
    functionLiteral ending.unplaced token.unplaced (rest.map Token.unplaced) =
      (functionLiteral ending token rest).unplaced Expression.unplaced := by
  rw [functionLiteral, functionLiteral, expect_unplaced]
  apply Outcome.within_unplaced
  apply Outcome.andThen_unplaced
  intro _
  rw [← List.map_drop]
  dsimp only
  rw [parameters_unplaced]
  apply Outcome.andThen_unplaced
  intro names
  rw [← List.map_drop]
  exact Outcome.map_unplaced (bracedBlock_unplaced _) fun _ => rfl
termination_by 8 * rest.length + 3

theorem bracedBlock_unplaced (tokens : List Token) :
    bracedBlock ending.unplaced (tokens.map Token.unplaced) =
      (bracedBlock ending tokens).unplaced Block.unplaced := by
  rw [bracedBlock, bracedBlock, expect_unplaced]
  apply Outcome.andThen_unplaced
  intro token
  rw [← List.map_drop]
  exact block_unplaced token _
termination_by 8 * tokens.length + 2

theorem block_unplaced (token : Token) (rest : List Token) :
    block ending.unplaced token.unplaced (rest.map Token.unplaced) =
      (block ending token rest).unplaced Block.unplaced := by
  rw [block, block, blockStatements_unplaced]
  rfl
termination_by 8 * rest.length + 1

theorem blockStatements_unplaced (tokens : List Token) :
    blockStatements ending.unplaced (tokens.map Token.unplaced) =
      (blockStatements ending tokens).unplaced := by
  cases tokens with
  | nil =>
      rw [List.map_nil, blockStatements, blockStatements]
      rfl
  | cons token rest =>
      have kind : token.unplaced.type = token.type := rfl
      rw [List.map_cons, blockStatements, blockStatements, kind]
      split
      · rfl
      · rw [statement_unplaced token rest, ← Series.unplaced_prepend]
        dsimp only
        rw [← List.map_drop]
        exact congrArg _ (blockStatements_unplaced _)
termination_by 8 * tokens.length

theorem continuation_unplaced (minimum : Precedence) (left : Expression)
    (tokens : List Token) :
    continuation ending.unplaced minimum left.unplaced (tokens.map Token.unplaced) =
      (continuation ending minimum left tokens).unplaced Expression.unplaced := by
  cases tokens with
  | nil =>
      rw [List.map_nil, continuation, continuation]
      rfl
  | cons token rest =>
      have kind : token.unplaced.type = token.type := rfl
      rw [List.map_cons, continuation, continuation, kind]
      split
      · cases ExtensionRule.ofTokenType? token.type with
        | none => rfl
        | some rule =>
            dsimp only
            rw [extension_unplaced rule left token rest]
            refine congrArg Outcome.afterToken (Outcome.andThen_unplaced _ fun whole => ?_)
            rw [← List.map_drop]
            exact continuation_unplaced minimum whole _
      · rfl
termination_by 8 * tokens.length

theorem extension_unplaced (rule : ExtensionRule) (left : Expression) (token : Token)
    (rest : List Token) :
    extension ending.unplaced rule left.unplaced token.unplaced (rest.map Token.unplaced) =
      (extension ending rule left token rest).unplaced Expression.unplaced := by
  cases rule with
  | binary =>
      rw [extension, extension]
      exact binaryExpression_unplaced left token rest
  | call =>
      rw [extension, extension]
      exact callExpression_unplaced left token rest
termination_by 8 * rest.length + 4

theorem binaryExpression_unplaced (left : Expression) (token : Token) (rest : List Token) :
    binaryExpression ending.unplaced left.unplaced token.unplaced (rest.map Token.unplaced) =
      (binaryExpression ending left token rest).unplaced Expression.unplaced := by
  have kind : token.unplaced.type = token.type := rfl
  rw [binaryExpression, binaryExpression, kind]
  apply Outcome.within_unplaced
  cases BinaryOperator.ofTokenType? token.type with
  | none => rfl
  | some operator => exact Outcome.map_unplaced (operand_unplaced _ rest) fun _ => rfl
termination_by 8 * rest.length + 3

theorem callExpression_unplaced (callee : Expression) (token : Token) (rest : List Token) :
    callExpression ending.unplaced callee.unplaced token.unplaced (rest.map Token.unplaced) =
      (callExpression ending callee token rest).unplaced Expression.unplaced := by
  rw [callExpression, callExpression]
  apply Outcome.within_unplaced
  exact Outcome.map_unplaced (arguments_unplaced rest) fun _ => rfl
termination_by 8 * rest.length + 3

theorem arguments_unplaced (tokens : List Token) :
    arguments ending.unplaced (tokens.map Token.unplaced) =
      (arguments ending tokens).unplaced unplaceAll := by
  cases tokens with
  | nil =>
      rw [List.map_nil, arguments, arguments]
      exact argumentList_unplaced []
  | cons token rest =>
      have kind : token.unplaced.type = token.type := rfl
      rw [List.map_cons, arguments, arguments, kind]
      split
      · rfl
      · exact argumentList_unplaced (token :: rest)
termination_by 8 * tokens.length + 2

theorem argumentList_unplaced (tokens : List Token) :
    argumentList ending.unplaced (tokens.map Token.unplaced) =
      (argumentList ending tokens).unplaced unplaceAll := by
  rw [argumentList, argumentList, operand_unplaced]
  apply Outcome.andThen_unplaced
  intro value
  rw [← List.map_drop]
  exact Outcome.map_unplaced (moreArguments_unplaced _) fun _ => rfl
termination_by 8 * tokens.length + 1

theorem moreArguments_unplaced (tokens : List Token) :
    moreArguments ending.unplaced (tokens.map Token.unplaced) =
      (moreArguments ending tokens).unplaced unplaceAll := by
  cases tokens with
  | nil =>
      rw [List.map_nil, moreArguments, moreArguments]
      exact Outcome.map_unplaced (expect_unplaced ending .rightParenthesis []) fun _ => rfl
  | cons token rest =>
      have kind : token.unplaced.type = token.type := rfl
      rw [List.map_cons, moreArguments, moreArguments, kind]
      split
      · exact congrArg Outcome.afterToken (argumentList_unplaced rest)
      · exact Outcome.map_unplaced (expect_unplaced ending .rightParenthesis (token :: rest))
          fun _ => rfl
termination_by 8 * tokens.length

theorem statement_unplaced (token : Token) (rest : List Token) :
    statement ending.unplaced token.unplaced (rest.map Token.unplaced) =
      (statement ending token rest).unplaced Statement.unplaced := by
  have kind : token.unplaced.type = token.type := rfl
  rw [statement, statement, kind]
  apply Outcome.within_unplaced
  split
  · exact letStatement_unplaced token rest
  · exact returnStatement_unplaced token rest
  · exact expressionStatement_unplaced token rest
termination_by 8 * rest.length + 7

theorem letStatement_unplaced (token : Token) (rest : List Token) :
    letStatement ending.unplaced token.unplaced (rest.map Token.unplaced) =
      (letStatement ending token rest).unplaced Statement.unplaced := by
  rw [letStatement, letStatement, expect_unplaced]
  apply Outcome.within_unplaced
  apply Outcome.andThen_unplaced
  intro name
  rw [← List.map_drop]
  dsimp only
  rw [expect_unplaced]
  apply Outcome.andThen_unplaced
  intro _
  rw [← List.map_drop, operand_unplaced]
  apply Outcome.andThen_unplaced
  intro value
  rw [← List.map_drop]
  exact closeStatement_unplaced (.binding token name.toIdentifier value) _
termination_by 8 * rest.length + 6

theorem returnStatement_unplaced (token : Token) (rest : List Token) :
    returnStatement ending.unplaced token.unplaced (rest.map Token.unplaced) =
      (returnStatement ending token rest).unplaced Statement.unplaced := by
  cases rest with
  | nil =>
      rw [List.map_nil, returnStatement, returnStatement]
      rfl
  | cons next behind =>
      have kind : next.unplaced.type = next.type := rfl
      rw [List.map_cons, returnStatement, returnStatement, kind]
      apply Outcome.within_unplaced
      split
      · rfl
      · split
        · rfl
        · rw [← List.map_cons, operand_unplaced]
          apply Outcome.andThen_unplaced
          intro value
          rw [← List.map_drop]
          exact closeStatement_unplaced (.returning token (some value)) _
termination_by 8 * rest.length + 6

theorem expressionStatement_unplaced (token : Token) (rest : List Token) :
    expressionStatement ending.unplaced token.unplaced (rest.map Token.unplaced) =
      (expressionStatement ending token rest).unplaced Statement.unplaced := by
  rw [expressionStatement, expressionStatement, expression_unplaced]
  apply Outcome.within_unplaced
  apply Outcome.andThen_unplaced
  intro value
  rw [← List.map_drop]
  exact closeStatement_unplaced (.expression token value) _
termination_by 8 * rest.length + 6

end

theorem programStatements_unplaced (tokens : List Token) :
    programStatements ending.unplaced (tokens.map Token.unplaced) =
      (programStatements ending tokens).unplaced := by
  cases tokens with
  | nil =>
      rw [List.map_nil, programStatements, programStatements]
      rfl
  | cons token rest =>
      rw [List.map_cons, programStatements, programStatements, statement_unplaced,
        ← Series.unplaced_prepend, ← List.map_drop]
      exact congrArg _ (programStatements_unplaced _)
termination_by tokens.length

end Rules

/-! ## Readings of the same words -/

namespace Reading

variable {ending ending' : Token} {tokens tokens' : List Token}

theorem programStatements_eq_of_words (sameEnding : ending.word = ending'.word)
    (same : tokens.map Token.word = tokens'.map Token.word) :
    (programStatements ending tokens).unplaced = (programStatements ending' tokens').unplaced := by
  rw [← programStatements_unplaced, ← programStatements_unplaced,
    Token.unplaced_eq_iff.mpr sameEnding, map_unplaced_eq_iff.mpr same]

/-- The program that is read from tokens depends on their words. -/
theorem program_eq_of_words (sameEnding : ending.word = ending'.word)
    (same : tokens.map Token.word = tokens'.map Token.word) :
    (ofTokens ending tokens).program.unplaced = (ofTokens ending' tokens').program.unplaced :=
  congrArg (Program.mk ·.statements) (programStatements_eq_of_words sameEnding same)

/-- What is found wrong with tokens depends on their words. -/
theorem diagnostics_eq_of_words (sameEnding : ending.word = ending'.word)
    (same : tokens.map Token.word = tokens'.map Token.word) :
    (ofTokens ending tokens).diagnostics.map Diagnostic.unplaced =
      (ofTokens ending' tokens').diagnostics.map Diagnostic.unplaced := by
  have traces := congrArg Series.trace (programStatements_eq_of_words sameEnding same)
  change (Trace.diagnosticsOfAll [.program] (programStatements ending tokens).trace).map _ =
    (Trace.diagnosticsOfAll [.program] (programStatements ending' tokens').trace).map _
  rw [← Trace.diagnosticsOfAll_unplaceTraces, ← Trace.diagnosticsOfAll_unplaceTraces]
  exact congrArg _ traces

end Reading

/-- Sequences of words that the same word ends are equal where they go on alike for ever. -/
theorem eq_of_getD_eq {last : Word} {words words' : List Word} (absent : last ∉ words)
    (absent' : last ∉ words')
    (same : ∀ index : Nat, words[index]?.getD last = words'[index]?.getD last) :
    words = words' := by
  apply List.ext_getElem?
  intro index
  have here := same index
  cases one : words[index]? with
  | none =>
      cases other : words'[index]? with
      | none => rfl
      | some word =>
          rw [one, other, Option.getD_none, Option.getD_some] at here
          exact absurd (here ▸ List.mem_of_getElem? other) absent'
  | some word =>
      cases other : words'[index]? with
      | none =>
          rw [one, other, Option.getD_none, Option.getD_some] at here
          exact absurd (here ▸ List.mem_of_getElem? one) absent
      | some word' => rw [one, other, Option.getD_some, Option.getD_some] at here; rw [here]

namespace Scanner

theorem word_draw_skip (scanner : Scanner) (index : Nat) :
    (scanner.skip index).draw.1.word =
      (scanner.tokens.map Token.word)[index]?.getD ⟨.ending, ""⟩ := by
  rw [draw_skip, List.getElem?_map]
  cases scanner.tokens[index]? <;> rfl

theorem ending_notMem_words (scanner : Scanner) :
    (⟨.ending, ""⟩ : Word) ∉ scanner.tokens.map Token.word := by
  intro member
  rcases List.mem_map.mp member with ⟨token, there, shown⟩
  exact type_ne_ending_of_mem_tokens token there (Token.type_of_word shown rfl)

/-- The same words are drawn from two scanners for ever where the same ones are drawn up
to the end. -/
theorem draws_agree_iff {scanner scanner' : Scanner} :
    (∀ index, (scanner.skip index).draw.1.word = (scanner'.skip index).draw.1.word) ↔
      scanner.tokens.map Token.word = scanner'.tokens.map Token.word := by
  constructor
  · intro same
    apply eq_of_getD_eq scanner.ending_notMem_words scanner'.ending_notMem_words
    intro index
    rw [← word_draw_skip, ← word_draw_skip]
    exact same index
  · intro same index
    rw [word_draw_skip, word_draw_skip, same]

end Scanner

/-- What is read depends on the kinds and the characters of the tokens alone.  From any
two scanners, at the start of a source or behind any number of its tokens, from which the
same words are drawn from now on, programs are read that are equal without places and
have the same text, and the diagnostics are equal without places, one by one. -/
theorem reading_depends_on_words {scanner scanner' : Scanner}
    (same : ∀ index, (scanner.skip index).draw.1.word = (scanner'.skip index).draw.1.word) :
    (Reading.ofScanner scanner).program.unplaced =
        (Reading.ofScanner scanner').program.unplaced ∧
      (Reading.ofScanner scanner).program.render =
        (Reading.ofScanner scanner').program.render ∧
      (Reading.ofScanner scanner).diagnostics.map Diagnostic.unplaced =
        (Reading.ofScanner scanner').diagnostics.map Diagnostic.unplaced := by
  have words := Scanner.draws_agree_iff.mp same
  have programs : (Reading.ofScanner scanner).program.unplaced =
      (Reading.ofScanner scanner').program.unplaced :=
    Reading.program_eq_of_words rfl words
  refine ⟨programs, ?_, ?_⟩
  · exact Program.render_eq_of_erased_eq (Program.erased_eq_of_unplaced_eq programs)
  · exact Reading.diagnostics_eq_of_words rfl words

/-- A scanner behind the first two tokens of a line. -/
def scannerInLine : Scanner := (Scanner.ofString "else ) let x 5; y").skip 2

/-- A scanner at the start of four lines. -/
def scannerOverLines : Scanner := Scanner.ofString "let\nx\n  5;\n\ny"

/-- The same words stand behind the start of a line and on lines of their own.  Both
times the sign of a binding is missing, which is shown at different places. -/
theorem reading_depends_on_words_of_lines :
    (∀ index, (scannerInLine.skip index).draw.1.word =
        (scannerOverLines.skip index).draw.1.word) ∧
      (Reading.ofScanner scannerInLine).program.render = "5;y" ∧
      (Reading.ofScanner scannerOverLines).program.render = "5;y" ∧
      (Reading.ofScanner scannerInLine).diagnostics.map Diagnostic.text =
        ["1:14: expected next token to be =, got INT (in program > statement > let_statement)"] ∧
      (Reading.ofScanner scannerOverLines).diagnostics.map Diagnostic.text =
        ["3:3: expected next token to be =, got INT (in program > statement > let_statement)"] := by
  have same : ∀ index, (scannerInLine.skip index).draw.1.word =
      (scannerOverLines.skip index).draw.1.word :=
    Scanner.draws_agree_iff.mpr (by decide +kernel)
  have text : (Reading.ofScanner scannerInLine).program.render = "5;y" := by decide +kernel
  have alike := (reading_depends_on_words same).2.1
  exact ⟨same, text, alike ▸ text, by decide +kernel, by decide +kernel⟩

end MonkeyLang
