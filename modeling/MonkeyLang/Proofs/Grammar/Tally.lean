import MonkeyLang.Proofs.Grammar.Acceptance
import MonkeyLang.Proofs.Grammar.Nesting
import MonkeyLang.Proofs.Syntax.Nodes

namespace MonkeyLang

/-!
# Rules that begin and nodes that are left

While no fault is found, each rule that leaves a node begins once for each of its nodes.  How
often it has begun is counted along the routines: a routine is given the number that it starts
with, and says for each value that it may give with which number it ends.  An expression that is
extended has its nodes counted already.

A statement with a fault is left out of the tree, although its rule has begun.  So the count says
nothing of a source with faults.
-/

variable {rule : Rule}

/-- How often a rule has begun. -/
def Parser.entries (rule : Rule) (parser : Parser) : Nat :=
  (Record.lines parser.records).countP (Log.begins rule)

/-- What is counted of a rule before a procedure is called. -/
def Procedure.before (rule : Rule) {α : Type} : Procedure α -> Nat
  | .continuation _ left => left.nodes.count rule
  | _ => 0

/-- What is counted of a rule behind a procedure that gave a value. -/
def Procedure.behind (rule : Rule) {α : Type} : Procedure α -> α -> Nat
  | .programStatements, given => (nodesOfStatements given).count rule
  | .statement, given => given.nodes.count rule
  | .block, given => given.nodes.count rule
  | .blockStatements, given => (nodesOfStatements given).count rule
  | .expression _, given => given.nodes.count rule
  | .continuation _ _, given => given.nodes.count rule
  | .parameterList, _ => 0
  | .argumentList, given => (nodesOfAll given).count rule

namespace Routine

/-- A routine that starts when a rule has begun so many times ends when it has begun as often as
is said for the value that is given.  Nothing but a statement is survived in it. -/
inductive Tallies (rule : Rule) : Nat -> ∀ {α : Type}, Routine α -> (α -> Nat) -> Prop
  | give {α : Type} {before : Nat} {behind : α -> Nat} {value : α} :
      behind value = before -> Tallies rule before (.give value) behind
  | andThen {α β : Type} {before : Nat} {between : α -> Nat} {behind : β -> Nat}
      {first : Routine α} {next : α -> Routine β} :
      Tallies rule before first between ->
      (∀ value, Tallies rule (between value) (next value) behind) ->
      Tallies rule before (.andThen first next) behind
  | look {α : Type} {before : Nat} {view : Token -> Token -> α} :
      Tallies rule before (.look view) fun _ => before
  | forward {α : Type} {before : Nat} {value : α} :
      Tallies rule before (.forward value) fun _ => before
  | report {α : Type} {before : Nat} {behind : α -> Nat} {fault : Fault} {token : Token} :
      Tallies rule before (.report fault token) behind
  | quit {α : Type} {before : Nat} {behind : α -> Nat} :
      Tallies rule before (.quit : Routine α) behind
  | within {α : Type} {before : Nat} {behind : α -> Nat} {inner : Rule} {routine : Routine α} :
      Tallies rule (before + [inner].count rule) routine behind ->
      Tallies rule before (.within inner routine) behind
  | survive {α : Type} {before : Nat} {between : Statement -> Nat} {behind : α -> Nat}
      {settle : Option Statement -> α} :
      Tallies rule before (.call .statement) between ->
      (∀ value, behind (settle (some value)) = between value) ->
      Tallies rule before (.survive (.call .statement) settle) behind
  | call {α : Type} {before : Nat} {behind : α -> Nat} {procedure : Procedure α} (more : Nat) :
      before = more + procedure.before rule ->
      (∀ value, behind value = more + procedure.behind rule value) ->
      Tallies rule before (.call procedure) behind

namespace Tallies

theorem ite {α : Type} {before : Nat} {behind : α -> Nat} {condition : Prop} [Decidable condition]
    {first second : Routine α} (holds : Tallies rule before first behind)
    (fails : Tallies rule before second behind) :
    Tallies rule before (if condition then first else second) behind := by
  split
  · exact holds
  · exact fails

/-- A rule that leaves no node is not counted. -/
theorem unseen {α : Type} {before : Nat} {behind : α -> Nat} {inner : Rule} {routine : Routine α}
    (counted : rule ∈ Rule.leavingNodes) (hidden : inner ∉ Rule.leavingNodes)
    (tallies : Tallies rule before routine behind) :
    Tallies rule before (.within inner routine) behind := by
  have other : [inner].count rule = 0 := by
    rw [List.count_eq_zero, List.mem_singleton]
    rintro rfl
    exact hidden counted
  apply Tallies.within
  rwa [other]

theorem count_node (node : Rule) (inner : List Rule) :
    (node :: inner).count rule = [node].count rule + inner.count rule := by
  rw [← List.singleton_append, List.count_append]

/-! ## The routines of the grammar -/

variable {before : Nat}

theorem expect {wanted : TokenType} : Tallies rule before (.expect wanted) fun _ => before :=
  .andThen .look fun _ => .ite (.andThen .forward fun _ => .look) .report

theorem closeStatement {statement : Statement} {behind : Statement -> Nat}
    (same : behind statement = before) :
    Tallies rule before (.closeStatement statement) behind :=
  .andThen .look fun _ => .ite (.andThen .forward fun _ => .give same) (.give same)

theorem operand {minimum : Precedence} :
    Tallies rule before (.operand minimum) fun value => before + value.nodes.count rule :=
  .andThen .forward fun _ => .call before rfl fun _ => rfl

theorem bracedBlock :
    Tallies rule before .bracedBlock fun given => before + given.nodes.count rule :=
  .andThen .expect fun _ => .call before rfl fun _ => rfl

theorem parameterList : Tallies rule before .parameterList fun _ => before :=
  have more : Tallies rule before .moreParameters fun _ => before :=
    .andThen .look fun _ => .ite (.andThen .forward fun _ => .call before rfl fun _ => rfl)
      (.andThen .expect fun _ => .give rfl)
  .andThen .expect fun _ => .andThen more fun _ => .give rfl

theorem moreArguments :
    Tallies rule before .moreArguments fun given => before + (nodesOfAll given).count rule :=
  .andThen .look fun _ => .ite (.andThen .forward fun _ => .call before rfl fun _ => rfl)
    (.andThen .expect fun _ => .give rfl)

theorem argumentList :
    Tallies rule 0 .argumentList fun given => (nodesOfAll given).count rule := by
  refine .andThen .operand fun value => .andThen .moreArguments fun later => .give ?_
  rw [nodesOfAll, List.count_append]
  omega

theorem unaryExpression :
    Tallies rule 0 .unaryExpression fun given => given.nodes.count rule := by
  refine .within (.andThen .look fun token => ?_)
  cases UnaryOperator.ofTokenType? token.type with
  | none => exact .quit
  | some operator =>
      refine .andThen .operand fun value => .give ?_
      rw [Expression.nodes, count_node, Nat.zero_add]

theorem groupedExpression (counted : rule ∈ Rule.leavingNodes) :
    Tallies rule 0 .groupedExpression fun given => given.nodes.count rule :=
  .unseen counted (by decide) (.andThen .operand fun _ => .andThen .expect fun _ =>
    .give (Nat.zero_add _).symm)

theorem otherwise :
    Tallies rule before .otherwise fun given =>
      before + (given.elim [] Block.nodes).count rule :=
  .andThen .look fun _ => .ite
    (.andThen .forward fun _ => .andThen .bracedBlock fun _ => .give rfl) (.give rfl)

theorem ifExpression :
    Tallies rule 0 .ifExpression fun given => given.nodes.count rule := by
  refine .within (.andThen .look fun token => .andThen .expect fun _ => .andThen .operand
    fun test => .andThen .expect fun _ => .andThen .bracedBlock fun consequence =>
    .andThen .otherwise fun alternative => .give ?_)
  cases alternative with
  | none =>
      rw [Expression.nodes, count_node, List.count_append, Nat.zero_add, ← Nat.add_assoc]
      rfl
  | some alternative =>
      rw [Expression.nodes, count_node, List.count_append, List.count_append, Nat.zero_add,
        ← Nat.add_assoc, ← Nat.add_assoc]
      rfl

theorem functionLiteral :
    Tallies rule 0 .functionLiteral fun given => given.nodes.count rule := by
  have parameters {before : Nat} : Tallies rule before .parameters fun _ => before :=
    .andThen .look fun _ => .ite (.andThen .forward fun _ => .give rfl)
      (.call before rfl fun _ => rfl)
  refine .within (.andThen .look fun token => .andThen .expect fun _ => .andThen parameters
    fun names => .andThen .bracedBlock fun body => .give ?_)
  rw [Expression.nodes, count_node, Nat.zero_add]

theorem integerLiteral :
    Tallies rule 0 .integerLiteral fun given => given.nodes.count rule := by
  refine .andThen .look fun token => ?_
  cases represent? (Text.ofDigits token.lexeme.toList) with
  | none => exact .report
  | some value => exact .give rfl

theorem primary (counted : rule ∈ Rule.leavingNodes) :
    Tallies rule 0 .primary fun given => given.nodes.count rule := by
  refine .andThen .look fun token => ?_
  cases StartRule.ofTokenType? token.type with
  | none => exact .report
  | some start =>
      cases start with
      | identifier | boolean => exact .give rfl
      | integer => exact .integerLiteral
      | unary => exact .unaryExpression
      | grouped => exact .groupedExpression counted
      | conditional => exact .ifExpression
      | function => exact .functionLiteral

theorem binaryExpression {left : Expression} :
    Tallies rule (left.nodes.count rule) (.binaryExpression left)
      fun given => given.nodes.count rule := by
  refine .within (.andThen .look fun token => ?_)
  cases BinaryOperator.ofTokenType? token.type with
  | none => exact .quit
  | some operator =>
      refine .andThen .operand fun right => .give ?_
      rw [Expression.nodes, count_node, List.count_append]
      omega

theorem callExpression {callee : Expression} :
    Tallies rule (callee.nodes.count rule) (.callExpression callee)
      fun given => given.nodes.count rule := by
  have arguments {before : Nat} :
      Tallies rule before .arguments fun given => before + (nodesOfAll given).count rule :=
    .andThen .look fun _ => .ite (.andThen .forward fun _ => .give rfl)
      (.call before rfl fun _ => rfl)
  refine .within (.andThen .look fun token => .andThen arguments fun values => .give ?_)
  rw [Expression.nodes, count_node, List.count_append]
  omega

theorem extension {way : ExtensionRule} {left : Expression} :
    Tallies rule (left.nodes.count rule) (.extension way left)
      fun given => given.nodes.count rule := by
  cases way with
  | binary => exact .binaryExpression
  | call => exact .callExpression

theorem continuation {minimum : Precedence} {left : Expression} :
    Tallies rule (left.nodes.count rule) (.continuation minimum left)
      fun given => given.nodes.count rule := by
  refine .andThen .look fun token => .ite ?_ (.give rfl)
  cases ExtensionRule.ofTokenType? token.type with
  | none => exact .give rfl
  | some way =>
      exact .andThen .forward fun _ => .andThen .extension fun _ =>
        .call 0 (Nat.zero_add _).symm fun _ => (Nat.zero_add _).symm

theorem expression (counted : rule ∈ Rule.leavingNodes) {minimum : Precedence} :
    Tallies rule 0 (.expression minimum) fun given => given.nodes.count rule :=
  .unseen counted (by decide) (.andThen (.primary counted) fun _ =>
    .call 0 (Nat.zero_add _).symm fun _ => (Nat.zero_add _).symm)

theorem letStatement (counted : rule ∈ Rule.leavingNodes) :
    Tallies rule ([.statement].count rule) .letStatement fun given => given.nodes.count rule := by
  refine .unseen counted (by decide) (.andThen .look fun token => .andThen .expect fun name =>
    .andThen .expect fun _ => .andThen .operand fun value => .closeStatement ?_)
  rw [Statement.nodes, count_node]

theorem returnStatement (counted : rule ∈ Rule.leavingNodes) :
    Tallies rule ([.statement].count rule) .returnStatement
      fun given => given.nodes.count rule := by
  refine .unseen counted (by decide) (.andThen .look fun token => .andThen .look fun _ => .ite
    (.andThen .forward fun _ => .give rfl) (.ite (.give rfl) (.andThen .operand fun value =>
      .closeStatement ?_)))
  rw [Statement.nodes, count_node]

theorem expressionStatement (counted : rule ∈ Rule.leavingNodes) :
    Tallies rule ([.statement].count rule) .expressionStatement
      fun given => given.nodes.count rule := by
  refine .unseen counted (by decide) (.andThen .look fun token =>
    .andThen (.call ([.statement].count rule) rfl fun _ => rfl) fun value => .closeStatement ?_)
  rw [Statement.nodes, count_node]
  rfl

theorem statement (counted : rule ∈ Rule.leavingNodes) :
    Tallies rule 0 .statement fun given => given.nodes.count rule := by
  refine .within (.andThen .look fun token => ?_)
  rw [Nat.zero_add]
  cases token.type with
  | letWord => exact .letStatement counted
  | returnWord => exact .returnStatement counted
  | _ => exact .expressionStatement counted

theorem statementsUpTo {kinds : List TokenType} {others : Procedure (List Statement)}
    (front : others.before rule = 0)
    (back : ∀ given, others.behind rule given = (nodesOfStatements given).count rule) :
    Tallies rule 0 (.statementsUpTo kinds others)
      fun given => (nodesOfStatements given).count rule := by
  have first : Tallies rule 0 (.attempt (.call .statement))
      fun given => (nodesOfStatements given.toList).count rule := by
    refine .survive (.call 0 rfl fun _ => rfl) fun value => ?_
    rw [Nat.zero_add]
    exact congrArg (List.count rule) (List.append_nil value.nodes)
  refine .andThen .look fun _ => .ite (.give rfl) (.andThen first fun given =>
    .andThen .forward fun _ => .andThen
      (.call ((nodesOfStatements given.toList).count rule) ?_ fun _ => rfl) fun later => .give ?_)
  · rw [front, Nat.add_zero]
  · rw [back, nodesOfStatements_append, List.count_append]

theorem block (counted : rule ∈ Rule.leavingNodes) :
    Tallies rule 0 .block fun given => given.nodes.count rule :=
  .unseen counted (by decide) (.andThen .look fun _ => .andThen .forward fun _ =>
    .andThen (.call 0 rfl fun _ => rfl) fun _ => .give (Nat.zero_add _).symm)

theorem program (counted : rule ∈ Rule.leavingNodes) :
    Tallies rule 0 .program fun given => given.nodes.count rule :=
  .unseen counted (by decide) (.andThen (.call 0 rfl fun _ => rfl) fun _ =>
    .give (Nat.zero_add _).symm)

/-- What is done by a procedure counts as is said of the procedure. -/
theorem body (counted : rule ∈ Rule.leavingNodes) {α : Type} (procedure : Procedure α) :
    Tallies rule (procedure.before rule) procedure.body (procedure.behind rule) := by
  cases procedure with
  | programStatements => exact .statementsUpTo rfl fun _ => rfl
  | statement => exact .statement counted
  | block => exact .block counted
  | blockStatements => exact .statementsUpTo rfl fun _ => rfl
  | expression minimum => exact .expression counted
  | continuation minimum left => exact .continuation
  | parameterList => exact .parameterList
  | argumentList => exact .argumentList

end Tallies

end Routine

/-! ## Counting along a run -/

namespace Parser

theorem entries_line (parser : Parser) (text : String) :
    (parser.write (.line text)).entries rule =
      parser.entries rule + if Log.begins rule text then 1 else 0 := by
  have lines : Record.lines (parser.write (.line text)).records =
      Record.lines parser.records ++ [text] := List.filterMap_append
  rw [entries, lines, List.countP_append, List.countP_singleton]
  rfl

theorem entries_enter (parser : Parser) (inner : Rule) :
    (parser.enter inner).entries rule = parser.entries rule + [inner].count rule := by
  refine (parser.entries_line _).trans ?_
  rw [Log.begins_begin, List.count_singleton]
  simp

theorem entries_leave (parser : Parser) : parser.leave.entries rule = parser.entries rule := by
  unfold leave
  split
  · rfl
  · refine (parser.entries_line _).trans ?_
    rw [Log.begins_end]
    rfl

end Parser

namespace Performs

variable {α : Type} {routine : Routine α} {parser after : Parser} {result : Option α}

/-- Diagnostics are only ever added. -/
theorem length_diagnostics_le (performs : Performs routine parser result after) :
    parser.diagnostics.length ≤ after.diagnostics.length := by
  induction performs with
  | give _ | look _ | forward _ | quit => exact Nat.le_refl _
  | report fault token =>
      rw [Parser.diagnostics_report, List.length_append]
      exact Nat.le_add_right _ _
  | andThen _ _ ih later => exact Nat.le_trans ih later
  | stopped _ ih | survive _ ih | call _ ih => exact ih
  | within _ ih =>
      rw [Parser.diagnostics_enter] at ih
      rwa [Parser.diagnostics_leave]

/-- Whatever a parser does, it has tokens in front of it and then the end token for ever. -/
theorem exists_faces (performs : Performs routine parser result after) {ending : Token}
    (faces : ∃ tokens, parser.Faces ending tokens) : ∃ tokens, after.Faces ending tokens := by
  induction performs with
  | give _ | look _ | quit => exact faces
  | forward _ => exact faces.imp' List.tail fun _ faces => faces.advance.faces
  | report fault token => exact faces.imp fun _ faces => faces.report fault token
  | andThen _ _ ih later => exact later (ih faces)
  | stopped _ ih | survive _ ih | call _ ih => exact ih faces
  | @within _ rule _ _ _ _ _ ih =>
      exact (ih (faces.imp fun _ faces => faces.enter rule)).imp fun _ faces => faces.leave

/-- A parser that lost a statement has found what was wrong with it. -/
theorem length_diagnostics_of_lost (performs : Performs .statement parser none after)
    {ending : Token} {tokens : List Token} (faces : parser.Faces ending tokens) :
    parser.diagnostics.length < after.diagnostics.length := by
  rcases statement_comesOf faces rfl with ⟨after', performs', _, written⟩
  rcases performs.unique performs' with ⟨lost, rfl⟩
  have found : after.diagnostics = parser.diagnostics ++
      Trace.diagnosticsOfAll parser.rules (statement ending parser.current tokens).trace := by
    rw [Parser.diagnostics, written, ← Trace.diagnostics_recordsOfAll]
    exact List.filterMap_append
  -- If nothing was found, its tokens are a phrase, and then it is read as that.
  have unclean : ¬(statement ending parser.current tokens).Clean := by
    intro clean
    rcases statement_sound (soundBelow tokens.length) (Nat.le_refl _) clean with
      ⟨phrase, behind, value, rfl, sentence⟩
    have given := (sentence.read ending parser.current phrase rfl).result
    rw [← lost] at given
    cases given
  rw [found, List.length_append]
  exact Nat.lt_add_of_pos_right (List.length_pos_iff.mpr fun nothing =>
    unclean ((Trace.diagnosticsOfAll_eq_nil_iff _ _).mp nothing))

/-- While no fault is found, a rule begins as often as the routine says. -/
theorem entries_eq (counted : rule ∈ Rule.leavingNodes)
    (performs : Performs routine parser result after) {value : α} (gives : result = some value)
    {ending : Token} (faces : ∃ tokens, parser.Faces ending tokens)
    (clean : after.diagnostics.length = parser.diagnostics.length) {before : Nat}
    {behind : α -> Nat} (tallies : routine.Tallies rule before behind) {more : Nat}
    (start : parser.entries rule = more + before) :
    after.entries rule = more + behind value := by
  induction performs generalizing before more with
  | give given =>
      cases gives
      cases tallies with
      | give same => rw [start, same]
  | look view =>
      cases tallies
      exact start
  | forward _ =>
      cases tallies
      exact start
  | report _ _ | quit | stopped _ _ => cases gives
  | andThen first second ih later =>
      have front := first.length_diagnostics_le
      have behind := second.length_diagnostics_le
      cases tallies with
      | andThen tallies next =>
          have between := ih rfl faces (by omega) tallies start
          exact later gives (first.exists_faces faces) (by omega) (next _) between
  | @within _ inner _ _ _ _ _ ih =>
      rw [Parser.diagnostics_leave] at clean
      rw [Parser.entries_leave]
      cases tallies with
      | within tallies =>
          refine ih gives (faces.imp fun _ faces => faces.enter inner) ?_ tallies ?_
          · rw [clean, Parser.diagnostics_enter]
          · rw [Parser.entries_enter, start, Nat.add_assoc]
  | @survive _ _ _ _ _ _ result performs ih =>
      cases gives
      cases tallies with
      | survive tallies settled =>
          cases result with
          | none =>
              rcases faces with ⟨tokens, faces⟩
              cases performs with
              | call lost =>
                  exact absurd clean (Nat.ne_of_gt (lost.length_diagnostics_of_lost faces))
          | some value =>
              rw [settled]
              exact ih rfl faces clean tallies start
  | call _ ih =>
      cases tallies with
      | call further front back =>
          -- The procedure counts from what it starts with; the rest was there before.
          rw [back, ← Nat.add_assoc]
          refine ih gives faces clean (.body counted _) ?_
          rw [start, front, Nat.add_assoc]

end Performs

/-- The log of every source is well nested: it starts with the beginning of the program and ends
with its end, every line in between is in place, and the program is open throughout.  Whenever
the parser found a fault, the rules around it were those that the log had left open.  If it
found none, each rule that leaves a node has begun once for each of its nodes in the program. -/
theorem log_is_well_nested (source : String) :
    let reading : Reading := Reading.ofSource source
    (∃ lines, reading.log = "BEGIN program" :: (lines ++ ["END program"])) ∧
    Log.openBehind [] reading.log = some [] ∧
    (∀ count, 0 < count -> count < reading.log.length ->
      ∃ inner, Log.openBehind [] (reading.log.take count) = some (.program :: inner)) ∧
    (∃ after,
      PerformsOnly .program (.ofScanner (Scanner.ofString source)) (some reading.program) after ∧
      Record.lines after.records = reading.log ∧ after.diagnostics = reading.diagnostics ∧
      ∀ before found behind, after.records = before ++ .diagnostic found :: behind ->
        Log.openBehind [] (Record.lines before) = some found.context) ∧
    ∀ program, parse source = .ok program -> ∀ rule ∈ Rule.leavingNodes,
      reading.log.countP (Log.begins rule) = program.nodes.count rule := by
  intro reading
  rcases Reading.ofScanner_performs (Scanner.ofString source) with
    ⟨after, performs, _, same, written⟩
  rcases performs.exists_bracketed with ⟨inner, whole, balanced⟩
  change after.records = Record.bracketed [] .program inner at whole
  have log : reading.log = Record.lines (Record.bracketed [] .program inner) :=
    written.symm.trans (congrArg Record.lines whole)
  refine ⟨⟨Record.lines inner, ?_⟩, ?_, ?_, ⟨after, performs.only, written, same, ?_⟩, ?_⟩
  · rw [log, Record.lines_bracketed]
    rfl
  · rw [log]
    exact Record.openBehind_lines balanced.openBehind_bracketed
  · intro count started goesOn
    rw [log] at goesOn ⊢
    exact balanced.openBehind_take started goesOn
  · intro before found behind split
    have inPlace : Record.openBehind [] after.records = some [] := by
      rw [whole]
      exact balanced.openBehind_bracketed
    rw [split] at inPlace
    exact Record.openBehind_lines_of_diagnostic inPlace
  · intro program accepted rule counted
    rcases (Reading.result_eq_ok_iff reading program).mp accepted with ⟨clean, rfl⟩
    have nothing : reading.diagnostics = [] := (Trace.diagnostics_eq_nil_iff [] _).mpr clean
    have faces := (Parser.stands_ofScanner (Scanner.ofString source)).faces
    have count := performs.entries_eq counted rfl ⟨_, faces⟩
      (by rw [same]; exact congrArg List.length nothing) (.program counted) (Nat.zero_add 0).symm
    rw [Nat.zero_add, Parser.entries, written] at count
    exact count

/-- Statements in both branches of a conditional, one of them in a function. -/
theorem log_is_well_nested_of_branches :
    let source := "if (x) { f(-1) } else { fn(y) { y + 1 } }"
    let reading := Reading.ofSource source
    parse source = .ok reading.program ∧
      reading.program.nodes =
        [.statement, .ifExpression, .statement, .callExpression, .unaryExpression, .statement,
          .functionLiteral, .statement, .binaryExpression] ∧
      reading.log.countP (Log.begins .statement) = reading.program.nodes.count .statement ∧
      ∃ inner, Log.openBehind [] (reading.log.take 9) = some (.program :: inner) := by
  intro source reading
  have accepted : parse source = .ok reading.program :=
    (Reading.result_eq_ok_iff reading _).mpr ⟨by decide +kernel, rfl⟩
  rcases log_is_well_nested source with ⟨_, _, inside, _, counts⟩
  exact ⟨accepted, by decide +kernel,
    counts _ accepted .statement (by decide), inside 9 (by decide) (by decide +kernel)⟩

end MonkeyLang
