import MonkeyLang.Proofs.Evaluation.Legibility
import MonkeyLang.Proofs.Syntax.Terse

namespace MonkeyLang

open Text

/-!
# Reading the text of a value

The text of an integer, of a truth value or of a function is a source of its own, which
stands for one expression.  For a negative integer this is an operation on the number
without its sign, and for all others a literal.  The expression gives the value again on
any machine, at any depth of calls, as it neither looks anything up nor calls anything.  A
function that is read back is another one, as each function literal gives a new one; but
it has the same parameters and the same body, up to tokens, and so the same text.

There is one exception.  The least integer has no counterpart without a sign.
-/

/-- A value and what becomes of it when its text is read and evaluated. -/
inductive Value.ReadsBackAs : Value -> Value -> Prop
  | integer (number : Int64) : ReadsBackAs (.integer number) (.integer number)
  | boolean (truth : Bool) : ReadsBackAs (.boolean truth) (.boolean truth)
  | function {identity identity' literal literal'} :
      literal'.parameters.map (·.name) = literal.parameters.map (·.name) ->
      literal'.body.erased = literal.body.erased ->
      ReadsBackAs (.closure ⟨identity, .function literal⟩)
        (.closure ⟨identity', .function literal'⟩)

namespace Value.ReadsBackAs

variable {value read : Value}

theorem type_eq (reads : value.ReadsBackAs read) : read.type = value.type := by
  cases reads <;> rfl

theorem text_eq (reads : value.ReadsBackAs read) : read.text = value.text := by
  cases reads with
  | @function _ _ literal literal' names bodies =>
      have body : literal'.body.render = literal.body.render := by
        rw [← literal'.body.render_erased, bodies, literal.body.render_erased]
      change (Callable.function literal').text = (Callable.function literal).text
      rw [Callable.text_function, Callable.text_function, renderParameters, names, body]
      rfl
  | _ => rfl

end Value.ReadsBackAs

/-! ## Texts that are read as one expression -/

/-- A text that is read as an expression where nothing is around it is a source, of which
the expression is the only statement. -/
theorem Expression.IsShownWhere.exists_parse {tree : Expression} {text : String}
    (shown : tree.IsShownWhere Precedence.lowest.Bounds text) :
    ∃ token read, parse text = .ok ⟨[.expression token read]⟩ ∧ read.erased = tree.erased := by
  rcases shown with ⟨words, spells, reads⟩
  have spelled : (Scanner.ofString text).tokens.map Token.word = words := by
    have whole := spells [] .nil
    rw [List.append_nil, wordsOf_nil, List.append_nil] at whole
    rw [Scanner.map_word_tokens]
    exact whole
  rcases StatementPhrase.of_lastExpression reads spelled with ⟨token, read, sentence, same⟩
  have phrase := StatementsPhrase.cons sentence .nil
  rw [List.append_nil] at phrase
  exact ⟨token, read, (Reading.ofTokens_eq_ok_iff _ _ _).2 phrase, same⟩

/-- The canonical text of a writable expression is read as the expression anywhere. -/
theorem Expression.isShownWhere_render {tree : Expression} (writable : tree.Writable)
    (condition : Precedence -> List Token -> Prop) : tree.IsShownWhere condition tree.render :=
  ⟨tree.words, tree.spells writable, tree.isReadWhere_words writable condition⟩

theorem decimal_of_neg {value : Int} (negative : value < 0) :
    decimal value = "-" ++ decimal (-value) := by
  cases value with
  | ofNat number => exact absurd negative (Int.not_lt.mpr (Int.natCast_nonneg number))
  | negSucc number => rfl

/-- The text of a negative integer is that of an operation on the integer without its sign. -/
theorem Expression.isShownWhere_negative {number magnitude : Int64} (negative : number.toInt < 0)
    (opposite : magnitude.toInt = -number.toInt) :
    (Expression.unary .erased .negate (.integer .erased magnitude)).IsShownWhere
      Precedence.lowest.Bounds (decimal number.toInt) := by
  have positive : 0 ≤ magnitude.toInt := by omega
  have writable : (Expression.integer .erased magnitude).Writable := by
    rw [Expression.Writable]
    exact positive
  rcases isShownWhere_render writable Precedence.unary.Bounds with ⟨words, spells, reads⟩
  rw [decimal_of_neg negative, ← opposite]
  refine IsShownWhere.alone ⟨_, ?_, .unary .negate reads⟩
  exact spells.unary .negate fun _ => reads.head?_ne spells

/-! ## What the expressions give -/

/-- Whether an expression gives a value back on every machine, without changing anything
but the number of identities. -/
def Expression.GivesBack (tree : Expression) (value : Value) : Prop :=
  ∀ machine : Machine, ∃ read after, tree.evaluate machine = .ok read after ∧
    after = { machine with identities := after.identities } ∧ value.ReadsBackAs read

namespace Expression

variable {tree : Expression}

theorem givesBack_integer {number : Int64} (same : tree.erased = .integer .erased number) :
    tree.GivesBack (.integer number) := by
  intro machine
  have shape := tree.resembles_erased
  rw [same] at shape
  cases shape
  exact ⟨_, machine, rfl, rfl, .integer number⟩

theorem givesBack_boolean {truth : Bool} (same : tree.erased = .boolean .erased truth) :
    tree.GivesBack (.boolean truth) := by
  intro machine
  have shape := tree.resembles_erased
  rw [same] at shape
  cases shape
  exact ⟨_, machine, rfl, rfl, .boolean truth⟩

/-- The result of the operation is in the range, as it is there already. -/
theorem givesBack_negative {number magnitude : Int64}
    (opposite : magnitude.toInt = -number.toInt)
    (same : tree.erased = .unary .erased .negate (.integer .erased magnitude)) :
    tree.GivesBack (.integer number) := by
  intro machine
  have shape := tree.resembles_erased
  rw [same] at shape
  cases shape with
  | unary operand =>
      cases operand
      have applied : UnaryOperator.negate.apply (.integer magnitude) = .ok (.integer number) := by
        rw [UnaryOperator.apply, exactly, opposite, Int.neg_neg, represent?_toInt]
      refine ⟨.integer number, machine, ?_, rfl, .integer number⟩
      change Run.ofResult (UnaryOperator.negate.apply (.integer magnitude)) machine = _
      rw [applied]
      rfl

theorem givesBack_function {identity : Nat} {literal : Function}
    (same : tree.erased =
      (Expression.function .erased literal.parameters literal.body).erased) :
    tree.GivesBack (.closure ⟨identity, .function literal⟩) := by
  intro machine
  have shape := tree.resembles_erased
  rw [same, Expression.erased] at shape
  cases shape with
  | @function _ _ parameters _ body =>
      rw [Expression.erased, Expression.erased] at same
      injection same with _ names bodies
      refine ⟨_, _, rfl, rfl, .function ?_ bodies⟩
      have shown := congrArg (List.map (·.name)) names
      rwa [List.map_map, List.map_map] at shown

end Expression

/-! ## Values -/

/-- Every negative integer but the least has a counterpart without a sign. -/
theorem exists_opposite {number : Int64} (inside : number ≠ Int64.minValue)
    (negative : number.toInt < 0) : ∃ magnitude : Int64, magnitude.toInt = -number.toInt := by
  have beyond : number.toInt ≠ -2 ^ 63 := by
    rw [← Int64.toInt_minValue]
    exact fun same => inside (Int64.toInt_inj.mp same)
  have low := number.le_toInt
  exact ⟨Int64.ofInt (-number.toInt), Int64.toInt_ofInt_of_le (by omega) (by omega)⟩

/-- Values with a text of their own that reads back. -/
structure Value.HasSource (value : Value) : Prop where
  type : value.type = .integer ∨ value.type = .boolean ∨ value.type = .function
  inside : value ≠ .integer Int64.minValue

theorem Value.exists_shown {value : Value} (writable : value.Writable) (source : value.HasSource) :
    ∃ tree : Expression, tree.IsShownWhere Precedence.lowest.Bounds value.text ∧
      ∀ read : Expression, read.erased = tree.erased -> read.GivesBack value := by
  cases value with
  | integer number =>
      by_cases negative : number.toInt < 0
      · rcases exists_opposite (fun same => source.inside (congrArg _ same)) negative with
          ⟨magnitude, opposite⟩
        exact ⟨_, Expression.isShownWhere_negative negative opposite,
          fun _ same => Expression.givesBack_negative opposite same⟩
      · have shown : (Expression.integer .erased number).Writable := by
          rw [Expression.Writable]
          exact Int.not_lt.mp negative
        exact ⟨_, Expression.isShownWhere_render shown _,
          fun _ same => Expression.givesBack_integer same⟩
  | boolean truth =>
      have shown : (Expression.boolean .erased truth).Writable := by
        rw [Expression.Writable]
        trivial
      exact ⟨_, Expression.isShownWhere_render shown _,
        fun _ same => Expression.givesBack_boolean same⟩
  | closure callee =>
      rcases callee with ⟨identity, literal | named⟩
      · have shown : (Expression.function .erased literal.parameters literal.body).Writable := by
          rw [Expression.Writable]
          exact writable
        have asLiteral : (closure ⟨identity, .function literal⟩).text =
            (Expression.function .erased literal.parameters literal.body).render :=
          Callable.text_function literal
        rw [asLiteral]
        exact ⟨_, Expression.isShownWhere_render shown _,
          fun _ same => Expression.givesBack_function same⟩
      · rcases source.type with type | type | type <;> cases type
  | null => rcases source.type with type | type | type <;> cases type

/-- The text of a value that has a source is a program of one expression, which gives the value
back on every machine. -/
theorem Value.reads_back {value : Value} (writable : value.Writable) (source : value.HasSource) :
    ∃ token tree, parse value.text = .ok ⟨[.expression token tree]⟩ ∧
      ∀ machine : Machine, ∃ read after,
        Program.run ⟨[.expression token tree]⟩ machine = (.ok (some read), after) ∧
        after = { machine with identities := after.identities } ∧ value.ReadsBackAs read := by
  rcases value.exists_shown writable source with ⟨shape, shown, gives⟩
  rcases shown.exists_parse with ⟨token, tree, accepted, same⟩
  refine ⟨token, tree, accepted, fun machine => ?_⟩
  rcases gives tree same machine with ⟨read, after, ended, place, related⟩
  have executed : (Statement.expression token tree).execute machine = .ok (some read) after :=
    Run.bind_of_ok ended
  exact ⟨read, after, runStatements_of_ok executed, place, related⟩

/-- Without its sign the least integer is a number beyond the range. -/
theorem parse_text_minValue : ∃ diagnostic,
    parse (Value.integer Int64.minValue).text = .error [diagnostic] ∧
      diagnostic.fault = .invalidInteger "9223372036854775808" := by
  have faults : (Reading.ofSource (Value.integer Int64.minValue).text).diagnostics.map (·.fault) =
      [.invalidInteger "9223372036854775808"] := by decide +kernel
  rcases List.map_eq_singleton_iff.mp faults with ⟨diagnostic, found, fault⟩
  refine ⟨diagnostic, ?_, fault⟩
  rw [parse, Reading.result, found]
  rfl

/-- No other text of an integer is refused. -/
theorem parse_text_eq_error_iff (number : Int64) :
    (∃ diagnostics, parse (Value.integer number).text = .error diagnostics) ↔
      number = Int64.minValue := by
  constructor
  · rintro ⟨diagnostics, refused⟩
    by_contra inside
    have source : (Value.integer number).HasSource :=
      ⟨.inl rfl, fun same => inside (Value.integer.inj same)⟩
    rcases @Value.reads_back (.integer number) trivial source with ⟨_, _, accepted, _⟩
    cases refused.symm.trans accepted
  · rintro rfl
    rcases parse_text_minValue with ⟨diagnostic, refused, _⟩
    exact ⟨_, refused⟩

end MonkeyLang
