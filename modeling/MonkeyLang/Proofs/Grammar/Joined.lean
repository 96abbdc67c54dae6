import MonkeyLang.Proofs.Grammar.Acceptance
import MonkeyLang.Proofs.Grammar.Assembly
import MonkeyLang.Proofs.Grammar.Unplaced
import MonkeyLang.Proofs.Token.Joined

namespace MonkeyLang

/-!
# Sources that are joined

Whether a source can be joined to another one so that both are read as if they stood
alone depends on the seam.  The last token of the first source has to be a semicolon that
ends a statement outside of all blocks.  A semicolon inside a block belongs to a source
that opens more blocks than it closes, since the end of a source stands for the braces
that are missing there.  So it is enough to count the braces.

Of what follows it a phrase inspects one token, and a semicolon that ends a statement is
part of the statement.  So the statements of such a source are phrases whatever follows
the last of them, and behind them reading goes on as at the start of a source.
-/

/-! ## Phrases and the token behind them -/

theorem Followed.of_head {condition : TokenType -> Prop} {behind behind' : List Token}
    (same : behind.head? = behind'.head?) (followed : Followed condition behind) :
    Followed condition behind' := by
  intro next member
  exact followed next (same ▸ member)

theorem head?_append_congr {behind behind' : List Token} (front : List Token)
    (same : behind.head? = behind'.head?) : (front ++ behind).head? = (front ++ behind').head? := by
  rw [List.head?_append, List.head?_append, same]

theorem ClosingPhrase.of_head {closing behind behind' : List Token}
    (same : behind.head? = behind'.head?) (phrase : ClosingPhrase closing behind) :
    ClosingPhrase closing behind' := by
  cases phrase with
  | semicolon kind => exact .semicolon kind
  | absent next => exact .absent (next.of_head same)

mutual

/-- A phrase is one in front of all that starts with the same token. -/
theorem PrimaryPhrase.of_head {phrase behind behind' : List Token} {value : Expression}
    (same : behind.head? = behind'.head?) :
    PrimaryPhrase phrase behind value -> PrimaryPhrase phrase behind' value
  | .identifier kind => .identifier kind
  | .integer kind reads => .integer kind reads
  | .trueWord kind => .trueWord kind
  | .falseWord kind => .falseWord kind
  | .unary known operand => .unary known (operand.of_head same)
  | .grouped opens inner closes => .grouped opens (inner.of_head (by rfl)) closes
  | .conditional word opens test closes first second =>
      .conditional word opens (test.of_head (by rfl)) closes
        (first.of_head (head?_append_congr _ same)) (second.of_head same)
  | .function word opens parameters closes body =>
      .function word opens parameters closes (body.of_head same)

theorem ChainPhrase.of_head {minimum : Precedence} {phrase behind behind' : List Token}
    {value : Expression} (same : behind.head? = behind'.head?) :
    ChainPhrase minimum phrase behind value -> ChainPhrase minimum phrase behind' value
  | .start primary => .start (primary.of_head same)
  | .binary left known tighter right =>
      .binary (left.of_head (by rfl)) known tighter (right.of_head same)
  | .call callee opens inside closes =>
      .call (callee.of_head (by rfl)) opens (inside.of_head (by rfl)) closes

theorem ExpressionPhrase.of_head {minimum : Precedence} {phrase behind behind' : List Token}
    {value : Expression} (same : behind.head? = behind'.head?) :
    ExpressionPhrase minimum phrase behind value -> ExpressionPhrase minimum phrase behind' value
  | .ended chain ends => .ended (chain.of_head same) (Followed.of_head same ends)

theorem ArgumentsPhrase.of_head {phrase behind behind' : List Token} {values : List Expression}
    (same : behind.head? = behind'.head?) :
    ArgumentsPhrase phrase behind values -> ArgumentsPhrase phrase behind' values
  | .none => .none
  | .some list => .some (list.of_head same)

theorem ArgumentListPhrase.of_head {phrase behind behind' : List Token}
    {values : List Expression} (same : behind.head? = behind'.head?) :
    ArgumentListPhrase phrase behind values -> ArgumentListPhrase phrase behind' values
  | .last value => .last (value.of_head same)
  | .more value comma later => .more (value.of_head (by rfl)) comma (later.of_head same)

theorem AlternativePhrase.of_head {phrase behind behind' : List Token}
    {alternative : Option Block} (same : behind.head? = behind'.head?) :
    AlternativePhrase phrase behind alternative -> AlternativePhrase phrase behind' alternative
  | .absent next => .absent (next.of_head same)
  | .present word block => .present word (block.of_head same)

theorem BlockPhrase.of_head {phrase behind behind' : List Token} {block : Block}
    (same : behind.head? = behind'.head?) :
    BlockPhrase phrase behind block -> BlockPhrase phrase behind' block
  | .closed opens inside closes => .closed opens (inside.of_head (by rfl)) closes
  | .ended opens inside => by
      -- Only the end of all tokens stands for a brace, so nothing follows here either.
      cases behind' with
      | nil => exact .ended opens inside
      | cons token rest => cases same

theorem StatementsPhrase.of_head {phrase behind behind' : List Token}
    {statements : List Statement} (same : behind.head? = behind'.head?) :
    StatementsPhrase phrase behind statements -> StatementsPhrase phrase behind' statements
  | .nil => .nil
  | .cons first others =>
      .cons (first.of_head (head?_append_congr _ same)) (others.of_head same)

theorem StatementPhrase.of_head {phrase behind behind' : List Token} {statement : Statement}
    (same : behind.head? = behind'.head?) :
    StatementPhrase phrase behind statement -> StatementPhrase phrase behind' statement
  | .binding word named equals value close =>
      .binding word named equals (value.of_head (head?_append_congr _ same)) (close.of_head same)
  | .bareReturn word closes => .bareReturn word closes
  | .lastReturn word next => .lastReturn word (next.of_head same)
  | .returning word value close =>
      .returning word (value.of_head (head?_append_congr _ same)) (close.of_head same)
  | .expression value close =>
      .expression (value.of_head (head?_append_congr _ same)) (close.of_head same)

end

/-! ## Counting braces -/

/-- How many tokens are of a kind. -/
def countOf (type : TokenType) (tokens : List Token) : Nat := (tokens.map Token.type).count type

theorem countOf_append (type : TokenType) (first second : List Token) :
    countOf type (first ++ second) = countOf type first + countOf type second := by
  rw [countOf, List.map_append, List.count_append, countOf, countOf]

theorem countOf_cons (type : TokenType) (token : Token) (later : List Token) :
    countOf type (token :: later) = countOf type [token] + countOf type later :=
  countOf_append type [token] later

theorem countOf_singleton_of_eq {type : TokenType} {token : Token} (kind : token.type = type) :
    countOf type [token] = 1 := by
  rw [countOf, List.map_cons, List.map_nil, kind, List.count_singleton_self]

theorem countOf_singleton_of_ne {type : TokenType} {token : Token} (kind : token.type ≠ type) :
    countOf type [token] = 0 := by
  rw [countOf, List.map_cons, List.map_nil, List.count_singleton, beq_false_of_ne kind]
  rfl

/-- Whether tokens close as many blocks as they open. -/
def IsBalanced (tokens : List Token) : Prop :=
  countOf .rightBrace tokens = countOf .leftBrace tokens

/-- Whether tokens close no more blocks than they open. -/
def ClosesWithin (tokens : List Token) : Prop :=
  countOf .rightBrace tokens ≤ countOf .leftBrace tokens

theorem ClosesWithin.nil : ClosesWithin [] := Nat.le_refl _

theorem ClosesWithin.append {first second : List Token} (one : ClosesWithin first)
    (other : ClosesWithin second) : ClosesWithin (first ++ second) := by
  unfold ClosesWithin at *
  rw [countOf_append, countOf_append]
  exact Nat.add_le_add one other

theorem ClosesWithin.cons {token : Token} {later : List Token} (kind : token.type ≠ .rightBrace)
    (within : ClosesWithin later) : ClosesWithin (token :: later) := by
  unfold ClosesWithin at *
  rw [countOf_cons, countOf_singleton_of_ne kind, Nat.zero_add, countOf_cons .leftBrace]
  exact Nat.le_add_left_of_le within

/-- Neither of two parts can make up for a block that the other leaves open. -/
theorem IsBalanced.of_append {first second : List Token} (balanced : IsBalanced (first ++ second))
    (one : ClosesWithin first) (other : ClosesWithin second) :
    IsBalanced first ∧ IsBalanced second := by
  unfold IsBalanced ClosesWithin at *
  rw [countOf_append, countOf_append] at balanced
  omega

/-- Tokens that close no more blocks than they open, and end with a semicolon only where
they leave a block open. -/
structure IsEnclosed (tokens : List Token) : Prop where
  within : ClosesWithin tokens
  last : IsBalanced tokens -> ∀ token ∈ tokens.getLast?, token.type ≠ .semicolon

namespace IsEnclosed

variable {token opening closing : Token} {type : TokenType} {first second phrase : List Token}

theorem nil : IsEnclosed [] where
  within := .nil
  last _ _ member := nomatch member

theorem single (kind : token.type = type) (brace : type ≠ .rightBrace)
    (semicolon : type ≠ .semicolon) : IsEnclosed [token] where
  within := ClosesWithin.nil.cons (kind ▸ brace)
  last _ _ member := Option.some.inj member ▸ kind ▸ semicolon

/-- Of two parts that close all blocks that they open each does so, and the last one that
has a token decides what they end with. -/
theorem append (one : IsEnclosed first) (other : IsEnclosed second) :
    IsEnclosed (first ++ second) where
  within := one.within.append other.within
  last balanced := by
    rcases balanced.of_append one.within other.within with ⟨balanced, balanced'⟩
    intro token member
    rw [List.getLast?_append, Option.mem_def, Option.or_eq_some_iff] at member
    rcases member with member | ⟨_, member⟩
    · exact other.last balanced' token member
    · exact one.last balanced token member

theorem cons (kind : token.type = type) (brace : type ≠ .rightBrace)
    (semicolon : type ≠ .semicolon) (later : IsEnclosed phrase) : IsEnclosed (token :: phrase) :=
  (single kind brace semicolon).append later

theorem closed (opens : opening.type = .leftBrace) (inside : ClosesWithin phrase)
    (closes : closing.type = .rightBrace) : IsEnclosed (opening :: (phrase ++ [closing])) where
  within := by
    have other : countOf .rightBrace [opening] = 0 :=
      countOf_singleton_of_ne (by rw [opens]; decide)
    unfold ClosesWithin at *
    rw [countOf_cons, countOf_append, countOf_cons .leftBrace, countOf_append,
      countOf_singleton_of_eq opens, countOf_singleton_of_eq closes]
    omega
  last _ token member := by
    rw [← List.cons_append, List.getLast?_concat] at member
    cases member
    rw [closes]
    decide

/-- A block that is left open, whatever it ends with. -/
theorem leftOpen (opens : opening.type = .leftBrace) (inside : ClosesWithin phrase) :
    IsEnclosed (opening :: phrase) := by
  have other : countOf .rightBrace [opening] = 0 :=
    countOf_singleton_of_ne (by rw [opens]; decide)
  have fewer : countOf .rightBrace (opening :: phrase) < countOf .leftBrace (opening :: phrase) := by
    unfold ClosesWithin at inside
    rw [countOf_cons, countOf_cons .leftBrace, countOf_singleton_of_eq opens, other]
    omega
  exact ⟨Nat.le_of_lt fewer, fun balanced => absurd balanced (Nat.ne_of_lt fewer)⟩

end IsEnclosed

theorem NamesPhrase.isEnclosed {phrase : List Token} {names : List Identifier}
    (list : NamesPhrase phrase names) : IsEnclosed phrase := by
  induction list with
  | last kind => exact .single kind (by decide) (by decide)
  | more kind comma _ ih =>
      exact (ih.cons comma (by decide) (by decide)).cons kind (by decide) (by decide)

theorem ParametersPhrase.isEnclosed {phrase : List Token} {names : List Identifier}
    (list : ParametersPhrase phrase names) : IsEnclosed phrase := by
  cases list with
  | none => exact .nil
  | some list => exact list.isEnclosed

theorem ClosingPhrase.closesWithin {closing behind : List Token}
    (phrase : ClosingPhrase closing behind) : ClosesWithin closing := by
  cases phrase with
  | semicolon kind => exact ClosesWithin.nil.cons (by rw [kind]; decide)
  | absent _ => exact .nil

mutual

/-- An expression ends with a semicolon only inside a block that it leaves open. -/
theorem PrimaryPhrase.isEnclosed {phrase behind : List Token} {value : Expression} :
    PrimaryPhrase phrase behind value -> IsEnclosed phrase
  | .identifier kind | .integer kind _ | .trueWord kind | .falseWord kind =>
      .single kind (by decide) (by decide)
  | .unary known operand => by
      refine operand.isEnclosed.cons rfl ?_ ?_ <;> intro kind <;> rw [kind] at known <;> cases known
  | .grouped opens inner closes =>
      (inner.isEnclosed.append (.single closes (by decide) (by decide))).cons opens (by decide)
        (by decide)
  | .conditional word opens test closes first second => by
      have branches := first.isEnclosed.append second.isEnclosed
      have behindTest := branches.cons closes (by decide) (by decide)
      have behindWord := (test.isEnclosed.append behindTest).cons opens (by decide) (by decide)
      exact behindWord.cons word (by decide) (by decide)
  | .function word opens parameters closes body => by
      have behindNames := body.isEnclosed.cons closes (by decide) (by decide)
      have behindWord :=
        (parameters.isEnclosed.append behindNames).cons opens (by decide) (by decide)
      exact behindWord.cons word (by decide) (by decide)

theorem ChainPhrase.isEnclosed {minimum : Precedence} {phrase behind : List Token}
    {value : Expression} : ChainPhrase minimum phrase behind value -> IsEnclosed phrase
  | .start primary => primary.isEnclosed
  | .binary left known _ right => by
      refine left.isEnclosed.append (right.isEnclosed.cons rfl ?_ ?_) <;> intro kind <;>
        rw [kind] at known <;> cases known
  | .call callee opens inside closes => by
      have values := inside.isEnclosed.append (.single closes (by decide) (by decide))
      exact callee.isEnclosed.append (values.cons opens (by decide) (by decide))

theorem ExpressionPhrase.isEnclosed {minimum : Precedence} {phrase behind : List Token}
    {value : Expression} : ExpressionPhrase minimum phrase behind value -> IsEnclosed phrase
  | .ended chain _ => chain.isEnclosed

theorem ArgumentsPhrase.isEnclosed {phrase behind : List Token} {values : List Expression} :
    ArgumentsPhrase phrase behind values -> IsEnclosed phrase
  | .none => .nil
  | .some list => list.isEnclosed

theorem ArgumentListPhrase.isEnclosed {phrase behind : List Token} {values : List Expression} :
    ArgumentListPhrase phrase behind values -> IsEnclosed phrase
  | .last value => value.isEnclosed
  | .more value comma later =>
      value.isEnclosed.append (later.isEnclosed.cons comma (by decide) (by decide))

theorem AlternativePhrase.isEnclosed {phrase behind : List Token} {alternative : Option Block} :
    AlternativePhrase phrase behind alternative -> IsEnclosed phrase
  | .absent _ => .nil
  | .present word block => block.isEnclosed.cons word (by decide) (by decide)

theorem BlockPhrase.isEnclosed {phrase behind : List Token} {block : Block} :
    BlockPhrase phrase behind block -> IsEnclosed phrase
  | .closed opens inside closes => .closed opens inside.closesWithin closes
  | .ended opens inside => .leftOpen opens inside.closesWithin

theorem StatementsPhrase.closesWithin {phrase behind : List Token}
    {statements : List Statement} :
    StatementsPhrase phrase behind statements -> ClosesWithin phrase
  | .nil => .nil
  | .cons first others => first.closesWithin.append others.closesWithin

theorem StatementPhrase.closesWithin {phrase behind : List Token} {statement : Statement} :
    StatementPhrase phrase behind statement -> ClosesWithin phrase
  | .binding word named equals value close => by
      have behindSign := value.isEnclosed.within.append close.closesWithin
      have behindName := behindSign.cons (by rw [equals]; decide)
      have behindWord := behindName.cons (by rw [named]; decide)
      exact behindWord.cons (by rw [word]; decide)
  | .bareReturn word closes =>
      (ClosesWithin.nil.cons (by rw [closes]; decide)).cons (by rw [word]; decide)
  | .lastReturn word _ => ClosesWithin.nil.cons (by rw [word]; decide)
  | .returning word value close =>
      (value.isEnclosed.within.append close.closesWithin).cons (by rw [word]; decide)
  | .expression value close => value.isEnclosed.within.append close.closesWithin

end

/-! ## Statements that are complete -/

/-- Whether tokens end with a semicolon outside of all blocks. -/
structure IsComplete (tokens : List Token) : Prop where
  closed : tokens.getLast?.map Token.type = some .semicolon
  balanced : IsBalanced tokens

theorem IsEnclosed.not_isComplete {tokens : List Token} (enclosed : IsEnclosed tokens) :
    ¬ IsComplete tokens := by
  intro complete
  rcases Option.map_eq_some_iff.mp complete.closed with ⟨token, member, kind⟩
  exact enclosed.last complete.balanced token member kind

/-- What is behind complete tokens that close no more blocks than they open. -/
theorem IsComplete.of_append {first second : List Token} (complete : IsComplete (first ++ second))
    (one : ClosesWithin first) (other : ClosesWithin second) (inhabited : second ≠ []) :
    IsComplete second where
  closed := by
    rw [← List.getLast?_append_of_ne_nil first inhabited]
    exact complete.closed
  balanced := (complete.balanced.of_append one other).2

/-- Where a statement is complete its own semicolon is the last token. -/
theorem ClosingPhrase.of_isComplete {front closing : List Token}
    (close : ClosingPhrase closing []) (enclosed : IsEnclosed front)
    (complete : IsComplete (front ++ closing)) :
    ∃ semicolon, closing = [semicolon] ∧ semicolon.type = .semicolon := by
  cases close with
  | semicolon kind => exact ⟨_, rfl, kind⟩
  | absent _ =>
      rw [List.append_nil] at complete
      exact absurd complete enclosed.not_isComplete

/-- A complete statement is one in front of everything. -/
theorem StatementPhrase.of_isComplete {phrase : List Token} {statement : Statement}
    (sentence : StatementPhrase phrase [] statement) (complete : IsComplete phrase)
    (more : List Token) : StatementPhrase phrase more statement := by
  cases sentence with
  | binding word named equals value close =>
      have front := ((value.isEnclosed.cons equals (by decide) (by decide)).cons named (by decide)
        (by decide)).cons word (by decide) (by decide)
      rcases close.of_isComplete front complete with ⟨semicolon, rfl, kind⟩
      exact .binding word named equals (value.of_head (by rfl)) (.semicolon kind)
  | bareReturn word closes => exact .bareReturn word closes
  | lastReturn word _ =>
      exact absurd complete (IsEnclosed.single word (by decide) (by decide)).not_isComplete
  | returning word value close =>
      have front := value.isEnclosed.cons word (by decide) (by decide)
      rcases close.of_isComplete front complete with ⟨semicolon, rfl, kind⟩
      exact .returning word (value.of_head (by rfl)) (.semicolon kind)
  | expression value close =>
      rcases close.of_isComplete value.isEnclosed complete with ⟨semicolon, rfl, kind⟩
      exact .expression (value.of_head (by rfl)) (.semicolon kind)

theorem StatementsPhrase.statements_eq_nil {phrase behind : List Token}
    {statements : List Statement} (list : StatementsPhrase phrase behind statements)
    (empty : phrase = []) : statements = [] := by
  cases list with
  | nil => rfl
  | cons first _ =>
      rcases first.starts with ⟨_, _, rfl, _⟩
      cases empty

/-- Complete statements are statements in front of everything. -/
theorem StatementsPhrase.of_isComplete {phrase behind : List Token}
    {statements : List Statement} (more : List Token) :
    StatementsPhrase phrase behind statements -> behind = [] -> IsComplete phrase ->
      StatementsPhrase phrase more statements
  | .nil, _, _ => .nil
  | @StatementsPhrase.cons _ later _ _ _ first others, last, complete => by
      subst last
      cases later with
      | nil =>
          -- The last statement has to be complete itself to stand in front of anything.
          rw [List.append_nil] at complete
          cases others.statements_eq_nil rfl
          exact .cons (first.of_isComplete complete _) .nil
      | cons token rest =>
          -- Behind this statement stands the same token as before, the first one of the others.
          have later := complete.of_append first.closesWithin others.closesWithin (by simp)
          exact .cons (first.of_head (by rfl)) (others.of_isComplete more rfl later)

/-! ## Reading behind statements -/

/-- A statement is read without a fault, and the reader goes on behind it. -/
theorem StatementPhrase.programStatements_append (ending : Token) {phrase behind : List Token}
    {statement : Statement} (sentence : StatementPhrase phrase behind statement) :
    ∃ trace, Trace.areClean trace = true ∧
      programStatements ending (phrase ++ behind) =
        ⟨statement :: (programStatements ending behind).statements,
          phrase.length + (programStatements ending behind).used,
          trace ++ (programStatements ending behind).trace⟩ := by
  rcases sentence.starts with ⟨token, rest, shape, _⟩
  have reads := sentence.read ending token rest shape
  subst shape
  refine ⟨(MonkeyLang.statement ending token (rest ++ behind)).trace, reads.clean, ?_⟩
  rw [List.cons_append, programStatements, reads.drop_used]
  unfold Series.prepend
  rw [reads.result, reads.used, List.length_cons, Nat.add_comm rest.length]
  rfl

/-- Statements are read without a fault, and behind them the reader goes on as if they
had not been there. -/
theorem StatementsPhrase.programStatements_append (ending : Token) {phrase behind : List Token}
    {statements : List Statement} :
    StatementsPhrase phrase behind statements ->
      ∃ trace, Trace.areClean trace = true ∧
        programStatements ending (phrase ++ behind) =
          ⟨statements ++ (programStatements ending behind).statements,
            phrase.length + (programStatements ending behind).used,
            trace ++ (programStatements ending behind).trace⟩
  | .nil => ⟨[], rfl, by simp⟩
  | .cons first others => by
      rcases first.programStatements_append ending with ⟨front, clean, one⟩
      rcases others.programStatements_append ending with ⟨trace, clean', later⟩
      refine ⟨front ++ trace, ?_, ?_⟩
      · rw [Trace.areClean_append, clean, clean']
        rfl
      · rw [List.append_assoc, one, later, List.length_append, Nat.add_assoc, List.append_assoc]
        rfl

theorem Trace.diagnosticsOfAll_append_of_areClean (context : List Rule) {first : List Trace}
    (clean : areClean first = true) (second : List Trace) :
    diagnosticsOfAll context (first ++ second) = diagnosticsOfAll context second := by
  rw [diagnosticsOfAll_append, (diagnosticsOfAll_eq_nil_iff context first).mpr clean,
    List.nil_append]

namespace Reading

variable {ending : Token} {tokens : List Token} {program : Program}

/-- Behind complete tokens that are a program the reader starts anew. -/
theorem ofTokens_append (accepted : ProgramPhrase tokens program) (complete : IsComplete tokens)
    (behind : List Token) :
    (ofTokens ending (tokens ++ behind)).program =
        ⟨program.statements ++ (ofTokens ending behind).program.statements⟩ ∧
      (ofTokens ending (tokens ++ behind)).diagnostics = (ofTokens ending behind).diagnostics := by
  have phrase := StatementsPhrase.of_isComplete behind accepted rfl complete
  rcases phrase.programStatements_append ending with ⟨trace, clean, shape⟩
  constructor
  · exact congrArg (Program.mk ·.statements) shape
  · have traces := congrArg Series.trace shape
    change Trace.diagnosticsOfAll [.program] (programStatements ending (tokens ++ behind)).trace =
      Trace.diagnosticsOfAll [.program] (programStatements ending behind).trace
    rw [traces, Trace.diagnosticsOfAll_append_of_areClean _ clean]

end Reading

/-- A source that ends with a semicolon outside of all blocks. -/
def IsCompleteSource (source : String) : Prop :=
  IsComplete (Scanner.ofString source).tokens

/-- Such a source and the one that is joined to it keep their words. -/
theorem IsCompleteSource.words_append {source : String} (complete : IsCompleteSource source)
    (behind : String) :
    (Scanner.ofString (source ++ behind)).tokens.map Token.word =
      ((Scanner.ofString source).tokens ++ (Scanner.ofString behind).tokens).map Token.word := by
  have closed : (wordsOf source.toList).getLast?.map Word.type = some .semicolon := by
    change ((Scanner.ofString source).tokens.map Token.word).getLast?.map Word.type = _
    rw [List.getLast?_map, Option.map_map]
    exact complete.closed
  rw [List.map_append, Scanner.map_word_tokens, Scanner.map_word_tokens, Scanner.map_word_tokens]
  change wordsOf (source ++ behind).toList = wordsOf source.toList ++ wordsOf behind.toList
  rw [String.toList_append, wordsOf_append_of_semicolon closed]

section

variable {source : String} {program : Program} (accepted : parse source = .ok program)
  (complete : IsCompleteSource source)
include accepted complete

theorem Reading.program_ofSource_append (behind : String) :
    (ofSource (source ++ behind)).program.unplaced =
      (⟨program.statements ++ (ofSource behind).program.statements⟩ : Program).unplaced := by
  have phrase := (parse_eq_ok_iff_programPhrase source program).mp accepted
  have joined := @ofTokens_append (Scanner.ofString behind).ending _ _ phrase complete
    (Scanner.ofString behind).tokens
  have words := complete.words_append behind
  exact (program_eq_of_words (by rfl) words).trans (congrArg Program.unplaced joined.1)

theorem Reading.diagnostics_ofSource_append (behind : String) :
    (ofSource (source ++ behind)).diagnostics.map Diagnostic.unplaced =
      (ofSource behind).diagnostics.map Diagnostic.unplaced := by
  have phrase := (parse_eq_ok_iff_programPhrase source program).mp accepted
  have joined := @ofTokens_append (Scanner.ofString behind).ending _ _ phrase complete
    (Scanner.ofString behind).tokens
  have words := complete.words_append behind
  exact (diagnostics_eq_of_words (by rfl) words).trans (congrArg _ joined.2)

/-- Two programs whose sources are joined are read as one. -/
theorem exists_parse_append {behind : String} {program' : Program}
    (accepted' : parse behind = .ok program') :
    ∃ whole, parse (source ++ behind) = .ok whole ∧
      whole.unplaced = (⟨program.statements ++ program'.statements⟩ : Program).unplaced := by
  have programs := Reading.program_ofSource_append accepted complete behind
  have diagnostics := Reading.diagnostics_ofSource_append accepted complete behind
  rcases (Reading.ofSource behind).result_eq_ok_iff program' |>.mp accepted' with ⟨clean, rfl⟩
  have none : (Reading.ofSource behind).diagnostics = [] :=
    (Trace.diagnostics_eq_nil_iff [] _).mpr clean
  rw [none, List.map_nil, List.map_eq_nil_iff] at diagnostics
  refine ⟨_, (Reading.result_eq_ok_iff _ _).mpr ⟨?_, rfl⟩, programs⟩
  exact (Trace.diagnostics_eq_nil_iff [] _).mp diagnostics

end

/-- Reading is compositional at the ends of statements.  If a source is a program whose
last token is a semicolon and that closes all blocks it opens, then with any other source
joined to it, its statements are read and then those of the other, and found wrong is
what is found wrong with the other, all up to the places of the tokens. -/
theorem reading_is_compositional {source : String} {program : Program}
    (accepted : parse source = .ok program) (complete : IsCompleteSource source)
    (behind : String) :
    (Reading.ofSource (source ++ behind)).program.unplaced =
        (⟨program.statements ++ (Reading.ofSource behind).program.statements⟩ :
          Program).unplaced ∧
      (Reading.ofSource (source ++ behind)).diagnostics.map Diagnostic.unplaced =
        (Reading.ofSource behind).diagnostics.map Diagnostic.unplaced :=
  ⟨Reading.program_ofSource_append accepted complete behind,
    Reading.diagnostics_ofSource_append accepted complete behind⟩

/-- The binding of a function, with a semicolon inside of the block and one behind it. -/
def functionSource : String := "let f = fn(x) \x7b x; \x7d; "

/-- A call and a brace that closes nothing. -/
def strayBraceSource : String := "f(1) \x7d"

/-- The brace is found wrong where it stands in the whole, and nothing else is. -/
theorem reading_is_compositional_of_function :
    ∃ program, parse functionSource = .ok program ∧ IsCompleteSource functionSource ∧
      (Reading.ofSource (functionSource ++ strayBraceSource)).program.unplaced =
        (⟨program.statements ++ (Reading.ofSource strayBraceSource).program.statements⟩ :
          Program).unplaced ∧
      (Reading.ofSource (functionSource ++ strayBraceSource)).program.statements.length = 2 ∧
      (Reading.ofSource (functionSource ++ strayBraceSource)).diagnostics.map Diagnostic.text =
        ["1:28: no prefix parse rule for \x7d found " ++
          "(in program > statement > expression_statement > expression)"] := by
  rcases @exists_parse_eq_ok functionSource (by decide +kernel) with ⟨program, accepted⟩
  have complete : IsCompleteSource functionSource :=
    ⟨by decide +kernel, by unfold IsBalanced; decide +kernel⟩
  have joined := reading_is_compositional accepted complete strayBraceSource
  exact ⟨program, accepted, complete, joined.1, by decide +kernel, by decide +kernel⟩

end MonkeyLang
