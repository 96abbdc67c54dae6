import MonkeyLang.Proofs.Grammar.Completeness

namespace MonkeyLang

open Text

/-!
# What is read is a phrase

Where the reader finds no fault, the tokens it used up are a phrase of the
grammar.  The induction follows the reader: it is on the same measure that lets
reading end.  No case says which tree the phrase stands for by looking at the
outcome.  Since phrases are read, the tree and the number of tokens of a part are
already settled once the part is known to be a phrase.

Three rules take what was read so far along and are stated with it: a chain, the
list of arguments, and the statements of a block.
-/

theorem ClosingPhrase.exists_of_tokens (tokens : List Token) :
    ∃ closing behind, tokens = closing ++ behind ∧ ClosingPhrase closing behind := by
  cases tokens with
  | nil => exact ⟨[], [], rfl, .absent (Followed.nil _)⟩
  | cons token rest =>
      by_cases kind : token.type = .semicolon
      · exact ⟨[token], rest, rfl, .semicolon kind⟩
      · exact ⟨[], token :: rest, rfl, .absent (Followed.cons kind)⟩

/-- A block goes on with a statement in front. -/
theorem BlockPhrase.prepend {opening : Token} {phrase rest behind : List Token}
    {statement : Statement} {statements : List Statement}
    (first : StatementPhrase phrase (rest ++ behind) statement)
    (block : BlockPhrase (opening :: rest) behind (.mk opening statements)) :
    BlockPhrase (opening :: (phrase ++ rest)) behind (.mk opening (statement :: statements)) := by
  cases block with
  | closed opens inside closes =>
      rw [List.append_assoc] at first
      rw [← List.append_assoc]
      exact .closed opens (.cons first inside) closes
  | ended opens inside => exact .ended opens (.cons first inside)

section Rules

variable {ending : Token}

/-! ## Single tokens and parameters -/

theorem exists_of_expect_clean {wanted : TokenType} {tokens : List Token}
    (clean : (expect ending wanted tokens).Clean) :
    ∃ token rest, tokens = token :: rest ∧ token.type = wanted := by
  cases tokens with
  | nil => exact absurd clean (Outcome.not_clean_fail _ _)
  | cons token rest =>
      by_cases kind : token.type = wanted
      · exact ⟨token, rest, rfl, kind⟩
      · rw [expect, if_neg kind] at clean
        exact absurd clean (Outcome.not_clean_fail _ _)

theorem parameterList_sound : ∀ {tokens : List Token},
    (parameterList ending tokens).Clean -> ∃ inside closing behind names,
      tokens = inside ++ closing :: behind ∧ closing.type = .rightParenthesis ∧
        NamesPhrase inside names
  | [], clean => by
      rw [parameterList] at clean
      exact absurd (Outcome.clean_of_andThen clean) (Outcome.not_clean_fail _ _)
  | token :: rest, clean => by
      rw [parameterList] at clean
      obtain ⟨_, _, shape, kind⟩ := exists_of_expect_clean (Outcome.clean_of_andThen clean)
      cases shape
      have name := expect_reads ending kind rest
      have later := name.clean_next clean
      rw [Outcome.clean_map, name.drop_one] at later
      cases rest with
      | nil =>
          rw [moreParameters, Outcome.clean_map] at later
          exact absurd later (Outcome.not_clean_fail _ _)
      | cons next rest =>
          by_cases separates : next.type = .comma
          · rw [moreParameters, if_pos separates, Outcome.clean_afterToken] at later
            obtain ⟨inside, closing, behind, names, shape, closes, list⟩ :=
              parameterList_sound later
            exact ⟨token :: next :: inside, closing, behind, token.toIdentifier :: names,
              by rw [shape]; rfl, closes, .more kind separates list⟩
          · rw [moreParameters, if_neg separates, Outcome.clean_map] at later
            obtain ⟨_, _, shape, closes⟩ := exists_of_expect_clean later
            cases shape
            exact ⟨[token], next, rest, [token.toIdentifier], rfl, closes, .last kind⟩

theorem parameters_sound {tokens : List Token} (clean : (parameters ending tokens).Clean) :
    ∃ inside closing behind names, tokens = inside ++ closing :: behind ∧
      closing.type = .rightParenthesis ∧ ParametersPhrase inside names := by
  have ofList (list : (parameterList ending tokens).Clean) :
      ∃ inside closing behind names, tokens = inside ++ closing :: behind ∧
        closing.type = .rightParenthesis ∧ ParametersPhrase inside names := by
    obtain ⟨inside, closing, behind, names, shape, closes, phrase⟩ := parameterList_sound list
    exact ⟨inside, closing, behind, names, shape, closes, .some phrase⟩
  cases tokens with
  | nil => exact ofList clean
  | cons token rest =>
      by_cases closes : token.type = .rightParenthesis
      · exact ⟨[], token, rest, [], rfl, closes, .none⟩
      · rw [parameters, if_neg closes] at clean
        exact ofList clean

/-! ## Rules on top of shorter expressions and statements -/

variable (ending) in
/-- Clean expressions and statements are phrases where less than a number of tokens
stand behind their first one. -/
structure SoundBelow (bound : Nat) : Prop where
  expression : ∀ {minimum : Precedence} {token : Token} {rest : List Token},
    minimum ≠ .call -> rest.length < bound ->
    (MonkeyLang.expression ending minimum token rest).Clean ->
    ∃ phrase behind value, rest = phrase ++ behind ∧
      ExpressionPhrase minimum (token :: phrase) behind value
  statement : ∀ {token : Token} {rest : List Token}, rest.length < bound ->
    (MonkeyLang.statement ending token rest).Clean ->
    ∃ phrase behind statement, rest = phrase ++ behind ∧
      StatementPhrase (token :: phrase) behind statement

section Below

variable {bound : Nat} (below : SoundBelow ending bound)
include below

theorem operand_sound {minimum : Precedence} (loose : minimum ≠ .call) {tokens : List Token}
    (fits : tokens.length ≤ bound) (clean : (operand ending minimum tokens).Clean) :
    ∃ phrase behind value, tokens = phrase ++ behind ∧
      ExpressionPhrase minimum phrase behind value := by
  cases tokens with
  | nil =>
      rw [operand, Outcome.clean_within] at clean
      exact absurd clean (Outcome.not_clean_fail _ _)
  | cons token rest =>
      rw [operand, Outcome.clean_afterToken] at clean
      obtain ⟨phrase, behind, value, rfl, inner⟩ := below.expression loose fits clean
      exact ⟨token :: phrase, behind, value, rfl, inner⟩

/-- The last argument so far is known, and what stands behind it is read. -/
theorem moreArguments_sound (size : Nat) : ∀ {phrase tokens : List Token} {value : Expression},
    tokens.length ≤ size -> tokens.length ≤ bound ->
    ExpressionPhrase .lowest phrase tokens value -> (moreArguments ending tokens).Clean ->
    ∃ inside closing behind values, phrase ++ tokens = inside ++ closing :: behind ∧
      closing.type = .rightParenthesis ∧
      ArgumentListPhrase inside (closing :: behind) values := by
  induction size with
  | zero =>
      intro phrase tokens value small fits first clean
      cases tokens with
      | nil =>
          rw [moreArguments, Outcome.clean_map] at clean
          exact absurd clean (Outcome.not_clean_fail _ _)
      | cons => exact absurd small (Nat.not_succ_le_zero _)
  | succ size ih =>
      intro phrase tokens value small fits first clean
      cases tokens with
      | nil =>
          rw [moreArguments, Outcome.clean_map] at clean
          exact absurd clean (Outcome.not_clean_fail _ _)
      | cons token rest =>
          by_cases separates : token.type = .comma
          · rw [moreArguments, if_pos separates, Outcome.clean_afterToken, argumentList] at clean
            rcases operand_sound below (by decide) (Nat.le_of_succ_le fits)
              (Outcome.clean_of_andThen clean) with ⟨next, behind, second, rfl, inner⟩
            have reads := inner.read ending (by decide)
            have later := reads.clean_next clean
            rw [Outcome.clean_map, reads.drop_used] at later
            simp only [List.length_cons, List.length_append] at small fits
            rcases ih (by omega) (by omega) inner later with
              ⟨inside, closing, rest, values, shape, closes, list⟩
            rw [shape] at first
            refine ⟨phrase ++ token :: inside, closing, rest, value :: values, ?_, closes,
              .more first separates list⟩
            rw [shape, List.append_assoc, List.cons_append]
          · rw [moreArguments, if_neg separates, Outcome.clean_map] at clean
            rcases exists_of_expect_clean clean with ⟨_, _, shape, closes⟩
            cases shape
            exact ⟨phrase, token, rest, [value], rfl, closes, .last first⟩

theorem argumentList_sound {tokens : List Token} (fits : tokens.length ≤ bound)
    (clean : (argumentList ending tokens).Clean) :
    ∃ inside closing behind values, tokens = inside ++ closing :: behind ∧
      closing.type = .rightParenthesis ∧
      ArgumentListPhrase inside (closing :: behind) values := by
  rw [argumentList] at clean
  rcases operand_sound below (by decide) fits (Outcome.clean_of_andThen clean) with
    ⟨phrase, behind, value, rfl, inner⟩
  have reads := inner.read ending (by decide)
  have later := reads.clean_next clean
  rw [Outcome.clean_map, reads.drop_used] at later
  rw [List.length_append] at fits
  exact moreArguments_sound below behind.length (Nat.le_refl _) (by omega) inner later

theorem arguments_sound {tokens : List Token} (fits : tokens.length ≤ bound)
    (clean : (arguments ending tokens).Clean) :
    ∃ inside closing behind values, tokens = inside ++ closing :: behind ∧
      closing.type = .rightParenthesis ∧ ArgumentsPhrase inside (closing :: behind) values := by
  have ofList (list : (argumentList ending tokens).Clean) :
      ∃ inside closing behind values, tokens = inside ++ closing :: behind ∧
        closing.type = .rightParenthesis ∧
        ArgumentsPhrase inside (closing :: behind) values := by
    rcases argumentList_sound below fits list with
      ⟨inside, closing, behind, values, shape, closes, phrase⟩
    exact ⟨inside, closing, behind, values, shape, closes, .some phrase⟩
  cases tokens with
  | nil =>
      rw [arguments] at clean
      exact ofList clean
  | cons token rest =>
      by_cases closes : token.type = .rightParenthesis
      · exact ⟨[], token, rest, [], rfl, closes, .none⟩
      · rw [arguments, if_neg closes] at clean
        exact ofList clean

/-- An operator or a call behind a chain makes a longer chain. -/
theorem extension_sound {minimum : Precedence} (loose : minimum ≠ .call)
    {before : List Token} {left : Expression} {token : Token} {rest : List Token}
    (chain : ChainPhrase minimum before (token :: rest) left) (fits : rest.length ≤ bound)
    (admitted : minimum.admits token.type = true) {rule : ExtensionRule}
    (entry : ExtensionRule.ofTokenType? token.type = some rule)
    (clean : (extension ending rule left token rest).Clean) :
    ∃ phrase behind whole, rest = phrase ++ behind ∧
      ChainPhrase minimum (before ++ token :: phrase) behind whole ∧
      (extension ending rule left token rest).Reads whole phrase.length := by
  rcases (minimum.admits_iff loose token.type).mp admitted with opens | ⟨operator, known, tighter⟩
  · cases entry.symm.trans (ExtensionRule.ofTokenType?_eq_call_iff.mpr opens)
    have list : (arguments ending rest).Clean := by
      rwa [extension_of_call, Outcome.clean_within] at clean
    rcases arguments_sound below fits list with
      ⟨inside, closing, behind, values, rfl, closes, phrase⟩
    have reads : (extension ending .call left token (inside ++ closing :: behind)).Reads
        (.call token left values) (inside.length + 1) :=
      extension_reads_call ending (phrase.read ending closing behind rfl closes)
    refine ⟨inside ++ [closing], behind, .call token left values, ?_,
      .call chain opens phrase closes, ?_⟩
    · rw [List.append_assoc, List.singleton_append]
    · rwa [List.length_append]
  · cases entry.symm.trans (ExtensionRule.ofTokenType?_eq_binary_iff.mpr ⟨operator, known⟩)
    have inner : (operand ending operator.precedence rest).Clean := by
      rwa [extension_of_operator ending known, Outcome.clean_within] at clean
    rcases operand_sound below operator.precedence_ne_call fits inner with
      ⟨phrase, behind, right, rfl, second⟩
    exact ⟨phrase, behind, .binary token left operator right, rfl,
      .binary chain known tighter second,
      extension_reads_binary ending known (second.read ending operator.precedence_ne_call)⟩

/-- Whatever ends the reading of a chain is no continuation of it. -/
theorem continuation_sound {minimum : Precedence} (loose : minimum ≠ .call) (size : Nat) :
    ∀ {before tokens : List Token} {left : Expression}, tokens.length ≤ size ->
      tokens.length ≤ bound -> ChainPhrase minimum before tokens left ->
      (continuation ending minimum left tokens).Clean ->
      ∃ phrase behind value, tokens = phrase ++ behind ∧
        ExpressionPhrase minimum (before ++ phrase) behind value := by
  have stop {before tokens : List Token} {left : Expression}
      (chain : ChainPhrase minimum before tokens left) (ends : minimum.Ends tokens) :
      ∃ phrase behind value, tokens = phrase ++ behind ∧
        ExpressionPhrase minimum (before ++ phrase) behind value := by
    refine ⟨[], tokens, left, rfl, ?_⟩
    rw [List.append_nil]
    exact .ended chain ends
  induction size with
  | zero =>
      intro before tokens left small fits chain clean
      cases tokens with
      | nil => exact stop chain (Followed.nil _)
      | cons => exact absurd small (Nat.not_succ_le_zero _)
  | succ size ih =>
      intro before tokens left small fits chain clean
      cases tokens with
      | nil => exact stop chain (Followed.nil _)
      | cons token rest =>
          by_cases admitted : minimum.admits token.type = true
          · rcases ExtensionRule.exists_of_admits admitted with ⟨rule, entry⟩
            rw [continuation_of_admits ending admitted entry, Outcome.clean_afterToken] at clean
            rcases extension_sound below loose chain (Nat.le_of_succ_le fits) admitted entry
              (Outcome.clean_of_andThen clean) with ⟨phrase, behind, whole, rfl, longer, reads⟩
            have later := reads.clean_next clean
            rw [reads.drop_used] at later
            simp only [List.length_cons, List.length_append] at small fits
            rcases ih (by omega) (by omega) longer later with
              ⟨further, rest, value, rfl, expression⟩
            refine ⟨token :: (phrase ++ further), rest, value, ?_, ?_⟩
            · rw [List.cons_append, List.append_assoc]
            · rwa [List.append_assoc, List.cons_append] at expression
          · exact stop chain ((minimum.ends_cons_iff loose token rest).mpr admitted)

/-- Whatever a block goes on with, its opening brace is known. -/
theorem blockStatements_sound {opening : Token} (opens : opening.type = .leftBrace) (size : Nat) :
    ∀ {tokens : List Token}, tokens.length ≤ size -> tokens.length ≤ bound ->
      (blockStatements ending tokens).Clean ->
      ∃ phrase behind statements, tokens = phrase ++ behind ∧
        BlockPhrase (opening :: phrase) behind (.mk opening statements) := by
  induction size with
  | zero =>
      intro tokens small fits clean
      cases tokens with
      | nil => exact ⟨[], [], [], rfl, .ended opens .nil⟩
      | cons => exact absurd small (Nat.not_succ_le_zero _)
  | succ size ih =>
      intro tokens small fits clean
      cases tokens with
      | nil => exact ⟨[], [], [], rfl, .ended opens .nil⟩
      | cons token rest =>
          by_cases closes : token.type = .rightBrace
          · exact ⟨[token], rest, [], rfl, .closed opens .nil closes⟩
          · rw [blockStatements, if_neg closes] at clean
            have parts := Series.clean_of_prepend clean
            rcases below.statement fits parts.1 with ⟨phrase, behind, first, rfl, sentence⟩
            have later := parts.2
            rw [(sentence.read ending token phrase rfl).drop_used] at later
            simp only [List.length_cons, List.length_append] at small fits
            rcases ih (by omega) (by omega) later with
              ⟨further, rest, statements, rfl, block⟩
            refine ⟨token :: (phrase ++ further), rest, first :: statements, ?_,
              block.prepend sentence⟩
            rw [List.cons_append, List.append_assoc]

theorem bracedBlock_sound {tokens : List Token} (fits : tokens.length ≤ bound)
    (clean : (bracedBlock ending tokens).Clean) :
    ∃ phrase behind block, tokens = phrase ++ behind ∧ BlockPhrase phrase behind block := by
  rw [bracedBlock] at clean
  rcases exists_of_expect_clean (Outcome.clean_of_andThen clean) with
    ⟨opening, rest, rfl, opens⟩
  have start := expect_reads ending opens rest
  have later := start.clean_next clean
  rw [start.drop_one, block, Outcome.clean_within] at later
  rcases blockStatements_sound below opens rest.length (Nat.le_refl _)
    (Nat.le_of_succ_le fits) later with ⟨phrase, behind, statements, rfl, block⟩
  exact ⟨opening :: phrase, behind, .mk opening statements, rfl, block⟩

theorem otherwise_sound {tokens : List Token} (fits : tokens.length ≤ bound)
    (clean : (otherwise ending tokens).Clean) :
    ∃ phrase behind alternative, tokens = phrase ++ behind ∧
      AlternativePhrase phrase behind alternative := by
  cases tokens with
  | nil => exact ⟨[], [], none, rfl, .absent (Followed.nil _)⟩
  | cons token rest =>
      by_cases word : token.type = .elseWord
      · rw [otherwise, if_pos word, Outcome.clean_afterToken, Outcome.clean_map] at clean
        rcases bracedBlock_sound below (Nat.le_of_succ_le fits) clean with
          ⟨phrase, behind, block, rfl, branch⟩
        exact ⟨token :: phrase, behind, some block, rfl, .present word branch⟩
      · exact ⟨[], token :: rest, none, rfl, .absent (Followed.cons word)⟩

/-! ## First parts of expressions -/

theorem groupedExpression_sound {token : Token} (opens : token.type = .leftParenthesis)
    {rest : List Token} (fits : rest.length ≤ bound)
    (clean : (groupedExpression ending rest).Clean) :
    ∃ phrase behind value, rest = phrase ++ behind ∧
      PrimaryPhrase (token :: phrase) behind value := by
  rw [groupedExpression, Outcome.clean_within] at clean
  rcases operand_sound below (by decide) fits (Outcome.clean_of_andThen clean) with
    ⟨phrase, tail, value, rfl, inner⟩
  have reads := inner.read ending (by decide)
  have later := reads.clean_next clean
  rw [Outcome.clean_map, reads.drop_used] at later
  rcases exists_of_expect_clean later with ⟨closing, behind, rfl, closes⟩
  refine ⟨phrase ++ [closing], behind, value, ?_, .grouped opens inner closes⟩
  rw [List.append_assoc, List.singleton_append]

theorem ifExpression_sound {word : Token} (kind : word.type = .ifWord) {rest : List Token}
    (fits : rest.length ≤ bound) (clean : (ifExpression ending word rest).Clean) :
    ∃ phrase behind value, rest = phrase ++ behind ∧
      PrimaryPhrase (word :: phrase) behind value := by
  rw [ifExpression, Outcome.clean_within] at clean
  rcases exists_of_expect_clean (Outcome.clean_of_andThen clean) with
    ⟨opening, inside, rfl, opens⟩
  have start := expect_reads ending opens inside
  replace clean := start.clean_next clean
  simp only [start.drop_one] at clean
  rcases operand_sound below (by decide) (Nat.le_of_succ_le fits)
    (Outcome.clean_of_andThen clean) with ⟨test, tail, condition, rfl, inner⟩
  have reads := inner.read ending (by decide)
  replace clean := reads.clean_next clean
  simp only [reads.drop_used] at clean
  rcases exists_of_expect_clean (Outcome.clean_of_andThen clean) with
    ⟨closing, branches, rfl, closes⟩
  have middle := expect_reads ending closes branches
  replace clean := middle.clean_next clean
  simp only [middle.drop_one] at clean
  simp only [List.length_cons, List.length_append] at fits
  rcases bracedBlock_sound below (by omega) (Outcome.clean_of_andThen clean) with
    ⟨first, tail, consequence, rfl, block⟩
  replace clean := (block.read ending).clean_next clean
  rw [Outcome.clean_map, (block.read ending).drop_used] at clean
  rw [List.length_append] at fits
  rcases otherwise_sound below (by omega) clean with ⟨second, behind, alternative, rfl, branch⟩
  refine ⟨opening :: (test ++ closing :: (first ++ second)), behind,
    .conditional word condition consequence alternative, ?_,
    .conditional kind opens inner closes block branch⟩
  simp only [List.cons_append, List.append_assoc]

theorem functionLiteral_sound {word : Token} (kind : word.type = .functionWord)
    {rest : List Token} (fits : rest.length ≤ bound)
    (clean : (functionLiteral ending word rest).Clean) :
    ∃ phrase behind value, rest = phrase ++ behind ∧
      PrimaryPhrase (word :: phrase) behind value := by
  rw [functionLiteral, Outcome.clean_within] at clean
  rcases exists_of_expect_clean (Outcome.clean_of_andThen clean) with
    ⟨opening, inside, rfl, opens⟩
  have start := expect_reads ending opens inside
  replace clean := start.clean_next clean
  simp only [start.drop_one] at clean
  rcases parameters_sound (Outcome.clean_of_andThen clean) with
    ⟨list, closing, tail, names, rfl, closes, parameters⟩
  have reads := parameters.read ending closes tail
  replace clean := reads.clean_next clean
  rw [Outcome.clean_map, reads.used, ← List.drop_drop, List.drop_left, List.drop_one,
    List.tail_cons] at clean
  simp only [List.length_cons, List.length_append] at fits
  rcases bracedBlock_sound below (by omega) clean with ⟨phrase, behind, body, rfl, block⟩
  refine ⟨opening :: (list ++ closing :: phrase), behind, .function word names body, ?_,
    .function kind opens parameters closes block⟩
  simp only [List.cons_append, List.append_assoc]

theorem primary_sound_of_operator {token : Token} {operator : UnaryOperator}
    (known : UnaryOperator.ofTokenType? token.type = some operator) {rest : List Token}
    (fits : rest.length ≤ bound) (clean : (primary ending token rest).Clean) :
    ∃ phrase behind value, rest = phrase ++ behind ∧
      PrimaryPhrase (token :: phrase) behind value := by
  rw [primary_of_operator ending known, Outcome.clean_within, Outcome.clean_map] at clean
  rcases operand_sound below (by decide) fits clean with ⟨phrase, behind, value, rfl, inner⟩
  exact ⟨phrase, behind, .unary token operator value, rfl, .unary known inner⟩

theorem primary_sound {token : Token} {rest : List Token} (fits : rest.length ≤ bound)
    (clean : (primary ending token rest).Clean) :
    ∃ phrase behind value, rest = phrase ++ behind ∧
      PrimaryPhrase (token :: phrase) behind value := by
  cases kind : token.type with
  | identifier => exact ⟨[], rest, .identifier token.toIdentifier, rfl, .identifier kind⟩
  | integer =>
      cases found : represent? (ofDigits token.lexeme.toList) with
      | none =>
          rw [primary, kind] at clean
          change (integerLiteral token).Clean at clean
          rw [integerLiteral, found] at clean
          exact absurd clean (Outcome.not_clean_fail _ _)
      | some value =>
          exact ⟨[], rest, .integer token value, rfl,
            .integer kind (toInt_of_represent? found)⟩
  | trueWord => exact ⟨[], rest, .boolean token true, rfl, .trueWord kind⟩
  | falseWord => exact ⟨[], rest, .boolean token false, rfl, .falseWord kind⟩
  | bang =>
      have known : UnaryOperator.ofTokenType? token.type = some .not := by rw [kind]; rfl
      exact primary_sound_of_operator below known fits clean
  | minus =>
      have known : UnaryOperator.ofTokenType? token.type = some .negate := by rw [kind]; rfl
      exact primary_sound_of_operator below known fits clean
  | leftParenthesis =>
      rw [primary_of_parenthesis ending kind] at clean
      exact groupedExpression_sound below kind fits clean
  | ifWord =>
      rw [primary_of_ifWord ending kind] at clean
      exact ifExpression_sound below kind fits clean
  | functionWord =>
      rw [primary_of_functionWord ending kind] at clean
      exact functionLiteral_sound below kind fits clean
  | _ =>
      rw [primary, kind] at clean
      exact absurd clean (Outcome.not_clean_fail _ _)

theorem expression_sound {minimum : Precedence} (loose : minimum ≠ .call) {token : Token}
    {rest : List Token} (fits : rest.length ≤ bound)
    (clean : (expression ending minimum token rest).Clean) :
    ∃ phrase behind value, rest = phrase ++ behind ∧
      ExpressionPhrase minimum (token :: phrase) behind value := by
  rw [expression, Outcome.clean_within] at clean
  rcases primary_sound below fits (Outcome.clean_of_andThen clean) with
    ⟨phrase, tail, first, rfl, start⟩
  have reads := start.read ending token phrase rfl
  have later := reads.clean_next clean
  rw [reads.drop_used] at later
  rw [List.length_append] at fits
  rcases continuation_sound below loose tail.length (Nat.le_refl _) (by omega) (.start start)
    later with ⟨further, behind, value, rfl, whole⟩
  exact ⟨phrase ++ further, behind, value, (List.append_assoc phrase further behind).symm, whole⟩

/-! ## Statements -/

theorem letStatement_sound {word : Token} (kind : word.type = .letWord) {rest : List Token}
    (fits : rest.length ≤ bound) (clean : (letStatement ending word rest).Clean) :
    ∃ phrase behind result, rest = phrase ++ behind ∧
      StatementPhrase (word :: phrase) behind result := by
  rw [letStatement, Outcome.clean_within] at clean
  rcases exists_of_expect_clean (Outcome.clean_of_andThen clean) with ⟨name, tail, rfl, named⟩
  have first := expect_reads ending named tail
  replace clean := first.clean_next clean
  simp only [first.drop_one] at clean
  rcases exists_of_expect_clean (Outcome.clean_of_andThen clean) with ⟨sign, tail, rfl, equals⟩
  have second := expect_reads ending equals tail
  replace clean := second.clean_next clean
  simp only [second.drop_one] at clean
  simp only [List.length_cons] at fits
  rcases operand_sound below (by decide) (by omega) (Outcome.clean_of_andThen clean) with
    ⟨phrase, tail, value, rfl, inner⟩
  rcases ClosingPhrase.exists_of_tokens tail with ⟨closing, behind, rfl, close⟩
  refine ⟨name :: sign :: (phrase ++ closing), behind, .binding word name.toIdentifier value, ?_,
    .binding kind named equals inner close⟩
  simp only [List.cons_append, List.append_assoc]

theorem returnStatement_sound {word : Token} (kind : word.type = .returnWord)
    {rest : List Token} (fits : rest.length ≤ bound)
    (clean : (returnStatement ending word rest).Clean) :
    ∃ phrase behind result, rest = phrase ++ behind ∧
      StatementPhrase (word :: phrase) behind result := by
  cases rest with
  | nil => exact ⟨[], [], .returning word none, rfl, .lastReturn kind (Followed.nil _)⟩
  | cons next tail =>
      by_cases semicolon : next.type = .semicolon
      · exact ⟨[next], tail, .returning word none, rfl, .bareReturn kind semicolon⟩
      · by_cases brace : next.type = .rightBrace
        · exact ⟨[], next :: tail, .returning word none, rfl,
            .lastReturn kind (Followed.cons brace)⟩
        · simp only [returnStatement, if_neg semicolon, if_neg brace,
            Outcome.clean_within] at clean
          rcases operand_sound below (by decide) fits (Outcome.clean_of_andThen clean) with
            ⟨phrase, tail, value, shape, inner⟩
          rcases ClosingPhrase.exists_of_tokens tail with ⟨closing, behind, rfl, close⟩
          refine ⟨phrase ++ closing, behind, .returning word (some value), ?_,
            .returning kind inner close⟩
          rw [shape, List.append_assoc]

theorem expressionStatement_sound {token : Token} {rest : List Token}
    (fits : rest.length ≤ bound) (clean : (expressionStatement ending token rest).Clean) :
    ∃ phrase behind result, rest = phrase ++ behind ∧
      StatementPhrase (token :: phrase) behind result := by
  rw [expressionStatement, Outcome.clean_within] at clean
  rcases expression_sound below (by decide) fits (Outcome.clean_of_andThen clean) with
    ⟨phrase, tail, value, rfl, inner⟩
  rcases ClosingPhrase.exists_of_tokens tail with ⟨closing, behind, rfl, close⟩
  refine ⟨phrase ++ closing, behind, .expression token value, ?_, .expression inner close⟩
  rw [List.append_assoc]

theorem statement_sound {token : Token} {rest : List Token} (fits : rest.length ≤ bound)
    (clean : (statement ending token rest).Clean) :
    ∃ phrase behind result, rest = phrase ++ behind ∧
      StatementPhrase (token :: phrase) behind result := by
  by_cases isLet : token.type = .letWord
  · rw [statement_of_letWord ending isLet, Outcome.clean_within] at clean
    exact letStatement_sound below isLet fits clean
  · by_cases isReturn : token.type = .returnWord
    · rw [statement_of_returnWord ending isReturn, Outcome.clean_within] at clean
      exact returnStatement_sound below isReturn fits clean
    · rw [statement_of_other ending isLet isReturn, Outcome.clean_within] at clean
      exact expressionStatement_sound below fits clean

end Below

/-- Reading is sound, however many tokens there are. -/
theorem soundBelow (bound : Nat) : SoundBelow ending bound := by
  induction bound with
  | zero =>
      exact ⟨fun _ impossible => absurd impossible (Nat.not_lt_zero _),
        fun impossible => absurd impossible (Nat.not_lt_zero _)⟩
  | succ bound below =>
      exact ⟨fun loose fits => expression_sound below loose (Nat.le_of_lt_succ fits),
        fun fits => statement_sound below (Nat.le_of_lt_succ fits)⟩

theorem programStatements_sound (size : Nat) : ∀ {tokens : List Token}, tokens.length ≤ size ->
    (programStatements ending tokens).Clean ->
    ∃ statements, StatementsPhrase tokens [] statements := by
  induction size with
  | zero =>
      intro tokens small clean
      cases tokens with
      | nil => exact ⟨[], .nil⟩
      | cons => exact absurd small (Nat.not_succ_le_zero _)
  | succ size ih =>
      intro tokens small clean
      cases tokens with
      | nil => exact ⟨[], .nil⟩
      | cons token rest =>
          rw [programStatements] at clean
          have parts := Series.clean_of_prepend clean
          rcases statement_sound (soundBelow rest.length) (Nat.le_refl _) parts.1 with
            ⟨phrase, behind, first, rfl, sentence⟩
          have later := parts.2
          rw [(sentence.read ending token phrase rfl).drop_used] at later
          rw [List.length_cons, List.length_append] at small
          rcases ih (by omega) later with ⟨statements, others⟩
          rw [← List.append_nil behind] at sentence
          exact ⟨first :: statements, .cons sentence others⟩

end Rules

end MonkeyLang
