import MonkeyLang.Proofs.Grammar.Acceptance
import MonkeyLang.Proofs.Syntax.Rereading
import MonkeyLang.Proofs.Syntax.Spelling
import MonkeyLang.Proofs.Token.Lexeme

namespace MonkeyLang

/-!
# Writing a program and reading it again

A writable program is read back from its text, up to tokens.  The text is read
as the words of the program, and tokens that are these words are a phrase of the
program.

A program that was read from a source is writable: its names are tokens of the
source, and its numbers are digits.  So its text is accepted again, stands for
the same statements and is written in the same way.
-/

/-! ## Trees that were read -/

/-- Tokens among which every name token shows a name. -/
def ShowNames (phrase : List Token) : Prop :=
  ∀ token ∈ phrase, token.type = .identifier -> IsName token.lexeme

theorem ShowNames.cons_iff {token : Token} {phrase : List Token} :
    ShowNames (token :: phrase) ↔
      (token.type = .identifier -> IsName token.lexeme) ∧ ShowNames phrase :=
  List.forall_mem_cons

theorem ShowNames.append_iff {first second : List Token} :
    ShowNames (first ++ second) ↔ ShowNames first ∧ ShowNames second :=
  List.forall_mem_append

theorem NamesPhrase.named {phrase : List Token} {names : List Identifier}
    (list : NamesPhrase phrase names) (shown : ShowNames phrase) :
    ∀ parameter ∈ names, IsName parameter.name := by
  induction list with
  | last kind =>
      intro parameter member
      rw [List.mem_singleton.1 member]
      exact shown _ List.mem_cons_self kind
  | more kind _ _ ih =>
      intro parameter member
      rcases List.mem_cons.1 member with rfl | member
      · exact shown _ List.mem_cons_self kind
      · exact ih (ShowNames.cons_iff.1 (ShowNames.cons_iff.1 shown).2).2 parameter member

theorem ParametersPhrase.named {phrase : List Token} {names : List Identifier}
    (list : ParametersPhrase phrase names) (shown : ShowNames phrase) :
    ∀ parameter ∈ names, IsName parameter.name := by
  cases list with
  | none => simp
  | some list => exact list.named shown

theorem Expression.writable_conditional_iff (token : Token) (condition : Expression)
    (consequence : Block) (alternative : Option Block) :
    (Expression.conditional token condition consequence alternative).Writable ↔
      condition.Writable ∧ consequence.Writable ∧ ∀ block ∈ alternative, block.Writable := by
  cases alternative <;> simp [Expression.Writable]

mutual

theorem PrimaryPhrase.writable {phrase behind : List Token} {value : Expression} :
    PrimaryPhrase phrase behind value -> ShowNames phrase -> value.Writable
  | .identifier kind, shown => by
      rw [Expression.Writable]
      exact shown _ List.mem_cons_self kind
  | .integer _ amount, _ => by
      rw [Expression.Writable, amount]
      exact Int.natCast_nonneg _
  | .trueWord _, _ | .falseWord _, _ => by
      rw [Expression.Writable]
      trivial
  | .unary _ operand, shown => by
      rw [Expression.Writable]
      exact operand.writable (ShowNames.cons_iff.1 shown).2
  | .grouped _ inside _, shown =>
      inside.writable (ShowNames.append_iff.1 (ShowNames.cons_iff.1 shown).2).1
  | .conditional _ _ condition _ consequence alternative, shown => by
      rw [Expression.writable_conditional_iff]
      simp only [ShowNames.cons_iff, ShowNames.append_iff] at shown
      exact ⟨condition.writable shown.2.2.1, consequence.writable shown.2.2.2.2.1,
        alternative.writable shown.2.2.2.2.2⟩
  | .function _ _ parameters _ body, shown => by
      rw [Expression.Writable]
      simp only [ShowNames.cons_iff, ShowNames.append_iff] at shown
      exact ⟨parameters.named shown.2.2.1, body.writable shown.2.2.2.2⟩

theorem ChainPhrase.writable {minimum : Precedence} {phrase behind : List Token}
    {value : Expression} :
    ChainPhrase minimum phrase behind value -> ShowNames phrase -> value.Writable
  | .start primary, shown => primary.writable shown
  | .binary left _ _ right, shown => by
      rw [Expression.Writable]
      simp only [ShowNames.cons_iff, ShowNames.append_iff] at shown
      exact ⟨left.writable shown.1, right.writable shown.2.2⟩
  | .call callee _ arguments _, shown => by
      rw [Expression.Writable]
      simp only [ShowNames.cons_iff, ShowNames.append_iff] at shown
      exact ⟨callee.writable shown.1, arguments.writable shown.2.2.1⟩

theorem ExpressionPhrase.writable {minimum : Precedence} {phrase behind : List Token}
    {value : Expression} :
    ExpressionPhrase minimum phrase behind value -> ShowNames phrase -> value.Writable
  | .ended chain _, shown => chain.writable shown

theorem ArgumentsPhrase.writable {phrase behind : List Token} {values : List Expression} :
    ArgumentsPhrase phrase behind values -> ShowNames phrase -> AllWritable values
  | .none, _ => by
      rw [AllWritable]
      trivial
  | .some list, shown => list.writable shown

theorem ArgumentListPhrase.writable {phrase behind : List Token} {values : List Expression} :
    ArgumentListPhrase phrase behind values -> ShowNames phrase -> AllWritable values
  | .last value, shown => by
      rw [AllWritable, AllWritable]
      exact ⟨value.writable shown, trivial⟩
  | .more value _ later, shown => by
      rw [AllWritable]
      simp only [ShowNames.cons_iff, ShowNames.append_iff] at shown
      exact ⟨value.writable shown.1, later.writable shown.2.2⟩

theorem AlternativePhrase.writable {phrase behind : List Token} {alternative : Option Block} :
    AlternativePhrase phrase behind alternative -> ShowNames phrase ->
      ∀ block ∈ alternative, block.Writable
  | .absent _, _ => fun _ member => nomatch member
  | .present _ block, shown => by
      have inside := block.writable (ShowNames.cons_iff.1 shown).2
      rintro other ⟨⟩
      exact inside

theorem BlockPhrase.writable {phrase behind : List Token} {block : Block} :
    BlockPhrase phrase behind block -> ShowNames phrase -> block.Writable
  | .closed _ statements _, shown => by
      rw [Block.Writable]
      exact statements.writable (ShowNames.append_iff.1 (ShowNames.cons_iff.1 shown).2).1
  | .ended _ statements, shown => by
      rw [Block.Writable]
      exact statements.writable (ShowNames.cons_iff.1 shown).2

theorem StatementsPhrase.writable {phrase behind : List Token} {statements : List Statement} :
    StatementsPhrase phrase behind statements -> ShowNames phrase -> StatementsWritable statements
  | .nil, _ => by
      rw [StatementsWritable]
      trivial
  | .cons first later, shown => by
      rw [StatementsWritable]
      rcases ShowNames.append_iff.1 shown with ⟨before, after⟩
      exact ⟨first.writable before, later.writable after⟩

theorem StatementPhrase.writable {phrase behind : List Token} {statement : Statement} :
    StatementPhrase phrase behind statement -> ShowNames phrase -> statement.Writable
  | .binding _ name _ value _, shown => by
      rw [Statement.Writable]
      simp only [ShowNames.cons_iff, ShowNames.append_iff] at shown
      exact ⟨shown.2.1 name, value.writable shown.2.2.2.1⟩
  | .bareReturn _ _, _ | .lastReturn _ _, _ => by
      rw [Statement.Writable]
      trivial
  | .returning _ value _, shown => by
      rw [Statement.Writable]
      simp only [ShowNames.cons_iff, ShowNames.append_iff] at shown
      exact value.writable shown.2.1
  | .expression value _, shown => by
      rw [Statement.Writable]
      rw [← List.cons_append] at shown
      exact value.writable (ShowNames.append_iff.1 shown).1

end

/-- What was read from a source can be written. -/
theorem Program.writable_of_parse {source : String} {program : Program}
    (accepted : parse source = .ok program) : program.Writable := by
  have phrase : ProgramPhrase (Scanner.ofString source).tokens program :=
    (Reading.ofTokens_eq_ok_iff _ _ program).1 accepted
  exact phrase.writable (Scanner.isName_of_mem_tokens _)

/-! ## The round trip -/

/-- A writable program is read back from its text, up to tokens. -/
theorem Program.parse_render {program : Program} (writable : program.Writable) :
    ∃ read, parse program.render = .ok read ∧ read.erased = program.erased := by
  have spelled : (Scanner.ofString program.render).tokens.map Token.word = program.words := by
    rw [Scanner.map_word_tokens]
    exact program.wordsOf_render writable
  rcases ProgramPhrase.of_words writable spelled with ⟨read, phrase, same⟩
  exact ⟨read, (Reading.ofTokens_eq_ok_iff _ _ read).2 phrase, same⟩

/-- A program that was read from a source is read back from its own text. -/
theorem Program.parse_render_of_parse {source : String} {program : Program}
    (accepted : parse source = .ok program) :
    ∃ read, parse program.render = .ok read ∧ read.erased = program.erased :=
  program.parse_render (program.writable_of_parse accepted)

/-- Writing and reading again changes nothing but tokens: neither for a tree that
was made by hand and can be written, nor for one that was read from a source,
whose text is then the same as well. -/
theorem parse_render_round_trip :
    (∀ program : Program, program.Writable ->
      ∃ read, parse program.render = .ok read ∧ read.erased = program.erased) ∧
    (∀ (source : String) (program : Program), parse source = .ok program ->
      ∃ read, parse program.render = .ok read ∧ read.erased = program.erased ∧
        read.render = program.render) := by
  constructor
  · intro program writable
    exact program.parse_render writable
  · intro source program accepted
    rcases program.parse_render_of_parse accepted with ⟨read, again, same⟩
    exact ⟨read, again, same, Program.render_eq_of_erased_eq same⟩

/-- A call of what a conditional gives, which has no alternative, and a statement
behind the call. -/
def calledConditional : Program :=
  ⟨[.expression .erased
      (.call .erased
        (.conditional .erased (.boolean .erased true)
          (.mk .erased [.expression .erased (.identifier ⟨.erased, "f"⟩)]) none)
        [.integer .erased 1]),
    .binding .erased ⟨.erased, "g"⟩ (.unary .erased .negate (.identifier ⟨.erased, "f"⟩))]⟩

theorem parse_render_round_trip_calledConditional :
    (calledConditional.Writable ∧
      ∃ read, parse calledConditional.render = .ok read ∧
        read.erased = calledConditional.erased) ∧
    ∃ program, parse "if (a) {b}(1) -c" = .ok program ∧
      ∃ read, parse program.render = .ok read ∧ read.erased = program.erased ∧
        read.render = program.render := by
  constructor
  · have named : IsName "f" ∧ IsName "g" := by
      constructor <;> exact ⟨⟨by decide, by decide +kernel⟩, by decide⟩
    have writable : calledConditional.Writable := by
      simp [calledConditional, Program.Writable, StatementsWritable, Statement.Writable,
        Expression.Writable, Block.Writable, AllWritable, named]
    exact ⟨writable, parse_render_round_trip.1 calledConditional writable⟩
  · have accepted : ∃ program, parse "if (a) {b}(1) -c" = .ok program :=
      exists_parse_eq_ok (by decide +kernel)
    rcases accepted with ⟨program, shape⟩
    exact ⟨program, shape, parse_render_round_trip.2 _ program shape⟩

end MonkeyLang
