import Mathlib.Data.List.Chain
import MonkeyLang.Proofs.Grammar.Performance

namespace MonkeyLang

/-!
# The rules around a fault

Which rules a rule opens, and with which faults it gives up, can be seen from its routine without
performing it.  A routine keeps to a rule if it opens inside of it only what that rule opens, and
gives up only with its faults.  All routines of the grammar keep to the rules that they are called
in; so the rules around a fault are a path, each of them opened by the one before, down to one
that the fault belongs to.
-/

/-! ## What the rules may do -/

namespace Rule

/-- The rules that a rule opens. -/
def opened : Rule -> List Rule
  | .program | .block => [.statement]
  | .statement => [.letStatement, .returnStatement, .expressionStatement]
  | .letStatement | .returnStatement | .expressionStatement | .unaryExpression
  | .binaryExpression | .groupedExpression | .callExpression => [.expression]
  | .expression => [.unaryExpression, .binaryExpression, .groupedExpression, .ifExpression,
      .functionLiteral, .callExpression]
  | .ifExpression => [.expression, .block]
  | .functionLiteral => [.block]

/-- The rules that ask for tokens of certain kinds. -/
def expecting : List Rule :=
  [.letStatement, .groupedExpression, .ifExpression, .functionLiteral, .callExpression]

/-- A list of rules that starts with the program, each rule opened by the one before. -/
structure IsPath (rules : List Rule) : Prop where
  head : rules.head? = some .program
  chain : rules.IsChain fun outer inner => inner ∈ outer.opened

end Rule

/-- The rules that a fault can be found in: those that ask for tokens, or, where nothing can be
made of the first token of an expression, the expression itself. -/
def Fault.BelongsTo (rule : Rule) : Fault -> Prop
  | .expected _ _ => rule ∈ Rule.expecting
  | .noExpression _ | .invalidInteger _ => rule = .expression

/-- The rules around a fault lead to one that it belongs to. -/
def Diagnostic.IsOnPath (found : Diagnostic) : Prop :=
  Rule.IsPath found.context ∧
    ∃ last, found.context.getLast? = some last ∧ found.fault.BelongsTo last

/-- The rules that a procedure may be called in. -/
def Procedure.MayRunIn (rule : Rule) {α : Type} : Procedure α -> Prop
  | .programStatements => rule = .program
  | .statement => .statement ∈ rule.opened
  | .block => .block ∈ rule.opened
  | .blockStatements => rule = .block
  | .expression _ => .expression ∈ rule.opened
  | .continuation _ _ => rule = .expression
  | .parameterList => rule = .functionLiteral
  | .argumentList => rule = .callExpression

namespace Routine

/-- A routine keeps to a rule that it is performed in. -/
inductive KeepsTo : Rule -> ∀ {α : Type}, Routine α -> Prop
  | give {rule : Rule} {α : Type} {value : α} : KeepsTo rule (.give value)
  | andThen {rule : Rule} {α β : Type} {first : Routine α} {next : α -> Routine β} :
      KeepsTo rule first -> (∀ value, KeepsTo rule (next value)) ->
      KeepsTo rule (.andThen first next)
  | look {rule : Rule} {α : Type} {view : Token -> Token -> α} : KeepsTo rule (.look view)
  | forward {rule : Rule} {α : Type} {value : α} : KeepsTo rule (.forward value)
  | report {rule : Rule} {α : Type} {fault : Fault} {token : Token} :
      fault.BelongsTo rule -> KeepsTo rule (.report fault token : Routine α)
  | quit {rule : Rule} {α : Type} : KeepsTo rule (.quit : Routine α)
  | within {rule inner : Rule} {α : Type} {routine : Routine α} :
      inner ∈ rule.opened -> KeepsTo inner routine -> KeepsTo rule (.within inner routine)
  | survive {rule : Rule} {α β : Type} {inner : Routine β} {settle : Option β -> α} :
      KeepsTo rule inner -> KeepsTo rule (.survive inner settle)
  | call {rule : Rule} {α : Type} {procedure : Procedure α} :
      procedure.MayRunIn rule -> KeepsTo rule (.call procedure)

namespace KeepsTo

variable {rule : Rule}

theorem ite {α : Type} {condition : Prop} [Decidable condition] {first second : Routine α}
    (holds : KeepsTo rule first) (fails : KeepsTo rule second) :
    KeepsTo rule (if condition then first else second) := by
  split
  · exact holds
  · exact fails

/-! ## The routines of the grammar -/

theorem expect {wanted : TokenType} (asks : rule ∈ Rule.expecting) :
    KeepsTo rule (.expect wanted) :=
  .andThen .look fun _ => .ite (.andThen .forward fun _ => .look) (.report asks)

theorem closeStatement {statement : Statement} : KeepsTo rule (.closeStatement statement) :=
  .andThen .look fun _ => .ite (.andThen .forward fun _ => .give) .give

theorem operand {minimum : Precedence} (opens : .expression ∈ rule.opened) :
    KeepsTo rule (.operand minimum) :=
  .andThen .forward fun _ => .call opens

theorem bracedBlock (asks : rule ∈ Rule.expecting) (opens : .block ∈ rule.opened) :
    KeepsTo rule .bracedBlock :=
  .andThen (.expect asks) fun _ => .call opens

theorem parameterList : KeepsTo .functionLiteral .parameterList :=
  have asks : .functionLiteral ∈ Rule.expecting := by decide
  have more : KeepsTo .functionLiteral .moreParameters :=
    .andThen .look fun _ => .ite (.andThen .forward fun _ => .call rfl)
      (.andThen (.expect asks) fun _ => .give)
  .andThen (.expect asks) fun _ => .andThen more fun _ => .give

theorem argumentList : KeepsTo .callExpression .argumentList :=
  have asks : .callExpression ∈ Rule.expecting := by decide
  have more : KeepsTo .callExpression .moreArguments :=
    .andThen .look fun _ => .ite (.andThen .forward fun _ => .call rfl)
      (.andThen (.expect asks) fun _ => .give)
  .andThen (.operand (by decide)) fun _ => .andThen more fun _ => .give

theorem unaryExpression : KeepsTo .expression .unaryExpression := by
  refine .within (by decide) (.andThen .look fun token => ?_)
  cases UnaryOperator.ofTokenType? token.type with
  | none => exact .quit
  | some operator => exact .andThen (.operand (by decide)) fun _ => .give

theorem groupedExpression : KeepsTo .expression .groupedExpression :=
  .within (by decide) (.andThen (.operand (by decide)) fun _ =>
    .andThen (.expect (by decide)) fun _ => .give)

theorem ifExpression : KeepsTo .expression .ifExpression := by
  have asks : .ifExpression ∈ Rule.expecting := by decide
  have branch : KeepsTo .ifExpression .bracedBlock := .bracedBlock asks (by decide)
  have otherwise : KeepsTo .ifExpression .otherwise :=
    .andThen .look fun _ =>
      .ite (.andThen .forward fun _ => .andThen branch fun _ => .give) .give
  refine .within (by decide) (.andThen .look fun _ => ?_)
  exact .andThen (.expect asks) fun _ => .andThen (.operand (by decide)) fun _ =>
    .andThen (.expect asks) fun _ => .andThen branch fun _ => .andThen otherwise fun _ => .give

theorem functionLiteral : KeepsTo .expression .functionLiteral := by
  have asks : .functionLiteral ∈ Rule.expecting := by decide
  have parameters : KeepsTo .functionLiteral .parameters :=
    .andThen .look fun _ => .ite (.andThen .forward fun _ => .give) (.call rfl)
  refine .within (by decide) (.andThen .look fun _ => ?_)
  exact .andThen (.expect asks) fun _ => .andThen parameters fun _ =>
    .andThen (.bracedBlock asks (by decide)) fun _ => .give

theorem integerLiteral : KeepsTo .expression .integerLiteral := by
  refine .andThen .look fun token => ?_
  cases represent? (Text.ofDigits token.lexeme.toList) with
  | none => exact .report rfl
  | some value => exact .give

theorem primary : KeepsTo .expression .primary := by
  refine .andThen .look fun token => ?_
  cases StartRule.ofTokenType? token.type with
  | none => exact .report rfl
  | some start =>
      cases start with
      | identifier | boolean => exact .give
      | integer => exact .integerLiteral
      | unary => exact .unaryExpression
      | grouped => exact .groupedExpression
      | conditional => exact .ifExpression
      | function => exact .functionLiteral

theorem binaryExpression {left : Expression} :
    KeepsTo .expression (.binaryExpression left) := by
  refine .within (by decide) (.andThen .look fun token => ?_)
  cases BinaryOperator.ofTokenType? token.type with
  | none => exact .quit
  | some operator => exact .andThen (.operand (by decide)) fun _ => .give

theorem callExpression {callee : Expression} :
    KeepsTo .expression (.callExpression callee) :=
  have arguments : KeepsTo .callExpression .arguments :=
    .andThen .look fun _ => .ite (.andThen .forward fun _ => .give) (.call rfl)
  .within (by decide) (.andThen .look fun _ => .andThen arguments fun _ => .give)

theorem extension {way : ExtensionRule} {left : Expression} :
    KeepsTo .expression (.extension way left) := by
  cases way with
  | binary => exact .binaryExpression
  | call => exact .callExpression

theorem continuation {minimum : Precedence} {left : Expression} :
    KeepsTo .expression (.continuation minimum left) := by
  refine .andThen .look fun token => .ite ?_ .give
  cases ExtensionRule.ofTokenType? token.type with
  | none => exact .give
  | some way => exact .andThen .forward fun _ => .andThen .extension fun _ => .call rfl

theorem expression {minimum : Precedence} (opens : .expression ∈ rule.opened) :
    KeepsTo rule (.expression minimum) :=
  .within opens (.andThen .primary fun _ => .call rfl)

theorem letStatement : KeepsTo .statement .letStatement := by
  have asks : .letStatement ∈ Rule.expecting := by decide
  refine .within (by decide) (.andThen .look fun _ => ?_)
  exact .andThen (.expect asks) fun _ => .andThen (.expect asks) fun _ =>
    .andThen (.operand (by decide)) fun _ => .closeStatement

theorem returnStatement : KeepsTo .statement .returnStatement := by
  have value : KeepsTo .returnStatement (.operand .lowest) := .operand (by decide)
  refine .within (by decide) (.andThen .look fun _ => .andThen .look fun _ => ?_)
  exact .ite (.andThen .forward fun _ => .give)
    (.ite .give (.andThen value fun _ => .closeStatement))

theorem expressionStatement : KeepsTo .statement .expressionStatement := by
  have value : (Procedure.expression .lowest).MayRunIn .expressionStatement :=
    show _ ∈ _ by decide
  exact .within (by decide) (.andThen .look fun _ =>
    .andThen (.call value) fun _ => .closeStatement)

theorem statement (opens : .statement ∈ rule.opened) : KeepsTo rule .statement := by
  refine .within opens (.andThen .look fun token => ?_)
  cases token.type with
  | letWord => exact .letStatement
  | returnWord => exact .returnStatement
  | _ => exact .expressionStatement

theorem statementsUpTo {kinds : List TokenType} {others : Procedure (List Statement)}
    (opens : .statement ∈ rule.opened) (may : others.MayRunIn rule) :
    KeepsTo rule (.statementsUpTo kinds others) :=
  have first : KeepsTo rule (.attempt (.call .statement)) := .survive (.call opens)
  .andThen .look fun _ => .ite .give (.andThen first fun _ => .andThen .forward fun _ =>
    .andThen (.call may) fun _ => .give)

theorem block (opens : .block ∈ rule.opened) : KeepsTo rule .block :=
  .within opens (.andThen .look fun _ => .andThen .forward fun _ =>
    .andThen (.call rfl) fun _ => .give)

/-- What is done by a procedure keeps to the rules that it may be called in. -/
theorem body {α : Type} {procedure : Procedure α} (may : procedure.MayRunIn rule) :
    KeepsTo rule procedure.body := by
  cases procedure with
  | programStatements => exact .statementsUpTo (may ▸ List.mem_singleton_self _) may
  | statement => exact .statement may
  | block => exact .block may
  | blockStatements => exact .statementsUpTo (may ▸ List.mem_singleton_self _) may
  | expression minimum => exact .expression may
  | continuation minimum left => exact may ▸ .continuation
  | parameterList => exact may ▸ .parameterList
  | argumentList => exact may ▸ .argumentList

end KeepsTo

end Routine

/-! ## Performing on a path -/

theorem Rule.IsPath.enter {rules : List Rule} {rule inner : Rule} (path : IsPath rules)
    (innermost : rules.getLast? = some rule) (opens : inner ∈ rule.opened) :
    IsPath (rules ++ [inner]) where
  head := by rw [List.head?_append, path.head, Option.some_or]
  chain := by
    refine path.chain.append (List.isChain_singleton inner) ?_
    intro last isLast first isFirst
    rw [innermost, Option.mem_some_iff] at isLast
    rw [List.head?_singleton, Option.mem_some_iff] at isFirst
    exact isLast ▸ isFirst ▸ opens

/-- Behind the program a path goes on with a statement, and faults do not belong to the
program. -/
theorem Diagnostic.IsOnPath.exists_context {found : Diagnostic} (on : found.IsOnPath) :
    ∃ inner, found.context = .program :: .statement :: inner := by
  rcases on with ⟨⟨head, chain⟩, last, isLast, belongs⟩
  rcases context : found.context with _ | ⟨first, _ | ⟨second, inner⟩⟩
  · rw [context] at head
    cases head
  · rw [context, List.head?_cons, Option.some.injEq] at head
    rw [context, head, List.getLast?_singleton, Option.some.injEq] at isLast
    subst isLast
    cases kind : found.fault with
    | expected wanted seen =>
        rw [kind] at belongs
        exact absurd belongs (show _ ∉ _ by decide)
    | noExpression seen | invalidInteger lexeme =>
        rw [kind] at belongs
        cases belongs
  · rw [context, List.head?_cons, Option.some.injEq] at head
    rw [context, head, List.isChain_cons_cons] at chain
    have second : second = .statement := List.mem_singleton.mp chain.1
    exact ⟨inner, by rw [head, second]⟩

/-- A parser is inside of a rule, on a path, and so were all faults that it found. -/
structure Parser.IsOnPath (rule : Rule) (parser : Parser) : Prop where
  innermost : parser.rules.getLast? = some rule
  path : Rule.IsPath parser.rules
  found : ∀ found ∈ parser.diagnostics, found.IsOnPath

/-- A parser that performs what keeps to its innermost rule stays on the path. -/
theorem Performs.isOnPath {α : Type} {routine : Routine α} {parser after : Parser}
    {result : Option α} (performs : Performs routine parser result after) {rule : Rule}
    (keeps : routine.KeepsTo rule) (on : parser.IsOnPath rule) : after.IsOnPath rule := by
  induction performs generalizing rule with
  | give _ | look _ | quit => exact on
  | forward _ => exact ⟨on.innermost, on.path, on.found⟩
  | @report _ parser fault token =>
      cases keeps with
      | report belongs =>
          refine ⟨on.innermost, on.path, fun found member => ?_⟩
          rw [parser.diagnostics_report, List.mem_append, List.mem_singleton] at member
          rcases member with earlier | rfl
          · exact on.found found earlier
          · exact ⟨on.path, rule, on.innermost, belongs⟩
  | andThen _ _ ih later =>
      cases keeps with
      | andThen first next => exact later (next _) (ih first on)
  | stopped _ ih =>
      cases keeps with
      | andThen first _ => exact ih first on
  | @within _ inner _ parser after _ performs ih =>
      cases keeps with
      | within opens keeps =>
          have inside : after.IsOnPath inner := by
            refine ih keeps ⟨List.getLast?_concat, on.path.enter on.innermost opens, ?_⟩
            rw [parser.diagnostics_enter]
            exact on.found
          -- Behind the rule the parser stands where it stood before, whatever happened inside.
          have rules : after.leave.rules = parser.rules := by
            rw [Parser.leave_eq performs.rules_eq]
          refine ⟨rules ▸ on.innermost, rules ▸ on.path, ?_⟩
          rw [after.diagnostics_leave]
          exact inside.found
  | survive _ ih =>
      cases keeps with
      | survive keeps => exact ih keeps on
  | call _ ih =>
      cases keeps with
      | call may => exact ih (.body may) on

/-- Reading a program finds its faults on paths. -/
theorem Performs.isOnPath_of_program {scanner : Scanner} {after : Parser}
    {result : Option Program} (performs : Performs .program (.ofScanner scanner) result after) :
    ∀ found ∈ after.diagnostics, found.IsOnPath := by
  cases performs with
  | @within _ _ _ _ inner _ performs =>
      have start : ((Parser.ofScanner scanner).enter .program).IsOnPath .program :=
        ⟨rfl, ⟨rfl, List.isChain_singleton _⟩, List.forall_mem_nil _⟩
      have keeps : Routine.KeepsTo .program
          (.call .programStatements >>= fun statements => pure (Program.mk statements)) :=
        .andThen (.call rfl) fun _ => .give
      rw [inner.diagnostics_leave]
      exact (performs.isOnPath keeps start).found

/-- The rules around every fault of a source start with the program and a statement; each of
them is one that the rule before opens, and the fault belongs to the last.  The parser has left
all of them when it has read the program, whichever faults it found. -/
theorem contexts_are_rule_paths (source : String) :
    let reading : Reading := Reading.ofSource source
    (∀ found ∈ reading.diagnostics,
      (∃ inner, found.context = .program :: .statement :: inner) ∧
      (found.context.IsChain fun outer inner => inner ∈ outer.opened) ∧
      ∃ last, found.context.getLast? = some last ∧ found.fault.BelongsTo last) ∧
    ∃ after,
      PerformsOnly .program (.ofScanner (Scanner.ofString source)) (some reading.program) after ∧
      after.diagnostics = reading.diagnostics ∧ after.rules = [] := by
  intro reading
  rcases Reading.ofScanner_performs (Scanner.ofString source) with ⟨after, performs, _, same, _⟩
  refine ⟨fun found member => ?_, after, performs.only, same, performs.rules_eq⟩
  have on := performs.isOnPath_of_program found (same ▸ member)
  exact ⟨on.exists_context, on.1.chain, on.2⟩

/-- The value is missing in a binding of a function that is called. -/
example : (Reading.ofSource "fn() { let x = ; }(1)").diagnostics.map (·.context) =
    [[.program, .statement, .expressionStatement, .expression, .functionLiteral, .block, .statement,
      .letStatement, .expression]] := by
  decide +kernel

end MonkeyLang
