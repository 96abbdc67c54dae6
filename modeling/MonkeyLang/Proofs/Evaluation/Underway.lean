import MonkeyLang.Proofs.Evaluation.Custody
import MonkeyLang.Proofs.Evaluation.Halting

namespace MonkeyLang

/-!
# What a run has in its hands on the way

A custody that the primitive steps keep is kept to the end of a run.  It is also kept
wherever a run of a tree or of a call starts inside of that run: what is in the hands there
is what was there at the start and what came into being since.  The derivation of the run
shows these places, and so the custody is put into the derivation.

The machines that a run visits are those at these places.  Every evaluation of a function
literal and every look-up happens on one of them.
-/

namespace Custody

/-- Some world later than a given one has the machine. -/
def Underway (custody : Custody) (base : custody.World) : Nat -> Machine -> Prop :=
  fun _ machine => ∃ world, custody.later base world ∧ custody.machines world machine

variable {custody : Custody} {base world : custody.World} {along : Nat -> Machine -> Prop}
  {nested : Nat} {machine : Machine}

theorem callables_of_accepts (lawful : custody.Lawful) {value : Value} {given : Nat}
    {callable : Callable} (known : custody.Values world value)
    (accepted : value.accepts given = .ok callable) : custody.callables world callable := by
  cases value with
  | closure callee =>
      have callables := lawful.callable known
      unfold Value.accepts at accepted
      dsimp only at accepted
      split at accepted
      · exact Except.ok.inj accepted ▸ callables
      · split at accepted
        · exact Except.ok.inj accepted ▸ callables
        · cases accepted
  | _ => cases accepted

/-! ## What a derivation ends with -/

section

variable (lawful : custody.Lawful) (kept : custody.machines world machine)
include lawful kept

theorem results_of_evaluates {tree : Expression} (kind : custody.expressions tree)
    {ending : Ending Value} (evaluates : Evaluates along nested tree machine ending) :
    custody.Results world custody.Values ending := by
  rw [← evaluates.eq maximumCallDepth (Nat.le_add_left _ _)]
  exact evaluate_keeps lawful (callWithin_keeps lawful maximumCallDepth) kind machine kept

theorem results_of_evaluatesAll {trees : List Expression}
    (kinds : ∀ tree ∈ trees, custody.expressions tree) {ending : Ending (List Value)}
    (evaluates : EvaluatesAll along nested trees machine ending) :
    custody.Results world (fun later values => ∀ value ∈ values, custody.Values later value)
      ending := by
  rw [← evaluates.eq maximumCallDepth (Nat.le_add_left _ _)]
  exact evaluateAll_keeps lawful (callWithin_keeps lawful maximumCallDepth) kinds machine kept

theorem results_of_executes {tree : Statement} (kind : custody.statements tree)
    {ending : Ending (Option Value)} (executes : Executes along nested tree machine ending) :
    custody.Results world (fun later answer => ∀ value ∈ answer, custody.Values later value)
      ending := by
  rw [← executes.eq maximumCallDepth (Nat.le_add_left _ _)]
  exact execute_keeps lawful (callWithin_keeps lawful maximumCallDepth) kind machine kept

end

end Custody

/-! ## A custody along a derivation -/

section

variable {custody : Custody} {base : custody.World} {along : Nat -> Machine -> Prop}

mutual

theorem Evaluates.underway (lawful : custody.Lawful) {world : custody.World} {nested : Nat}
    {tree : Expression} {machine : Machine} {ending : Ending Value} :
    Evaluates along nested tree machine ending -> custody.later base world ->
      custody.machines world machine -> custody.expressions tree ->
      Evaluates (custody.Underway base) nested tree machine ending
  | .identifier _, after, kept, _ => .identifier ⟨world, after, kept⟩
  | .integer _, after, kept, _ => .integer ⟨world, after, kept⟩
  | .boolean _, after, kept, _ => .boolean ⟨world, after, kept⟩
  | .function _, after, kept, _ => .function ⟨world, after, kept⟩
  | .unary _ operand, after, kept, kind =>
      .unary ⟨world, after, kept⟩ (operand.underway lawful after kept (lawful.unary kind))
  | .leftExit _ left, after, kept, kind =>
      .leftExit ⟨world, after, kept⟩ (left.underway lawful after kept (lawful.binary kind).1)
  | .binary _ left right, after, kept, kind => by
      have sides := lawful.binary kind
      cases Custody.results_of_evaluates lawful kept sides.1 left with
      | ok further _ kept' =>
          exact .binary ⟨world, after, kept⟩ (left.underway lawful after kept sides.1)
            (right.underway lawful (lawful.trans after further) kept' sides.2)
  | .conditionExit _ condition, after, kept, kind =>
      .conditionExit ⟨world, after, kept⟩
        (condition.underway lawful after kept (lawful.conditional kind).1)
  | .consequence _ condition truthy branch, after, kept, kind => by
      have parts := lawful.conditional kind
      cases Custody.results_of_evaluates lawful kept parts.1 condition with
      | ok further _ kept' =>
          exact .consequence ⟨world, after, kept⟩
            (condition.underway lawful after kept parts.1) truthy
            (branch.underway lawful (lawful.trans after further) kept' parts.2.1)
  | .alternative _ condition falsy branch, after, kept, kind => by
      have parts := lawful.conditional kind
      cases Custody.results_of_evaluates lawful kept parts.1 condition with
      | ok further _ kept' =>
          exact .alternative ⟨world, after, kept⟩
            (condition.underway lawful after kept parts.1) falsy
            (branch.underway lawful (lawful.trans after further) kept' (parts.2.2 _ rfl))
  | .noAlternative _ condition falsy, after, kept, kind =>
      .noAlternative ⟨world, after, kept⟩
        (condition.underway lawful after kept (lawful.conditional kind).1) falsy
  | .calleeExit _ callee, after, kept, kind =>
      .calleeExit ⟨world, after, kept⟩ (callee.underway lawful after kept (lawful.call kind).1)
  | .rejected _ callee refused, after, kept, kind =>
      .rejected ⟨world, after, kept⟩
        (callee.underway lawful after kept (lawful.call kind).1) refused
  | .argumentsExit _ callee accepted arguments, after, kept, kind => by
      have parts := lawful.call kind
      cases Custody.results_of_evaluates lawful kept parts.1 callee with
      | ok further _ kept' =>
          exact .argumentsExit ⟨world, after, kept⟩
            (callee.underway lawful after kept parts.1) accepted
            (arguments.underway lawful (lawful.trans after further) kept' parts.2)
  | .exceeded _ callee accepted arguments refused, after, kept, kind => by
      have parts := lawful.call kind
      cases Custody.results_of_evaluates lawful kept parts.1 callee with
      | ok further _ kept' =>
          exact .exceeded ⟨world, after, kept⟩ (callee.underway lawful after kept parts.1) accepted
            (arguments.underway lawful (lawful.trans after further) kept' parts.2) refused
  | .called _ callee accepted arguments allowed body, after, kept, kind => by
      have parts := lawful.call kind
      cases Custody.results_of_evaluates lawful kept parts.1 callee with
      | ok further value kept' =>
          have there := lawful.trans after further
          cases Custody.results_of_evaluatesAll lawful kept' parts.2 arguments with
          | ok beyond values kept'' =>
              have callable := lawful.callables_mono beyond
                (Custody.callables_of_accepts lawful value accepted)
              have body := body.underway lawful (lawful.trans there beyond)
                (lawful.withDepth _ kept'') callable values
              exact .called ⟨world, after, kept⟩
                (callee.underway lawful after kept parts.1) accepted
                (arguments.underway lawful there kept' parts.2) allowed body

theorem EvaluatesAll.underway (lawful : custody.Lawful) {world : custody.World} {nested : Nat}
    {trees : List Expression} {machine : Machine} {ending : Ending (List Value)} :
    EvaluatesAll along nested trees machine ending -> custody.later base world ->
      custody.machines world machine -> (∀ tree ∈ trees, custody.expressions tree) ->
      EvaluatesAll (custody.Underway base) nested trees machine ending
  | .nil _, after, kept, _ => .nil ⟨world, after, kept⟩
  | .headExit _ head, after, kept, kinds =>
      .headExit ⟨world, after, kept⟩
        (head.underway lawful after kept (List.forall_mem_cons.mp kinds).1)
  | .cons _ head later, after, kept, kinds => by
      have parts := List.forall_mem_cons.mp kinds
      cases Custody.results_of_evaluates lawful kept parts.1 head with
      | ok further _ kept' =>
          exact .cons ⟨world, after, kept⟩ (head.underway lawful after kept parts.1)
            (later.underway lawful (lawful.trans after further) kept' parts.2)

theorem Executes.underway (lawful : custody.Lawful) {world : custody.World} {nested : Nat}
    {tree : Statement} {machine : Machine} {ending : Ending (Option Value)} :
    Executes along nested tree machine ending -> custody.later base world ->
      custody.machines world machine -> custody.statements tree ->
      Executes (custody.Underway base) nested tree machine ending
  | .bareReturn _, after, kept, _ => .bareReturn ⟨world, after, kept⟩
  | .binding _ value, after, kept, kind =>
      .binding ⟨world, after, kept⟩ (value.underway lawful after kept (lawful.binding kind))
  | .returning _ value, after, kept, kind =>
      .returning ⟨world, after, kept⟩ (value.underway lawful after kept (lawful.returning kind))
  | .expression _ value, after, kept, kind =>
      .expression ⟨world, after, kept⟩ (value.underway lawful after kept (lawful.expression kind))

theorem EvaluatesBlock.underway (lawful : custody.Lawful) {world : custody.World} {nested : Nat}
    {tree : Block} {machine : Machine} {ending : Ending Value} :
    EvaluatesBlock along nested tree machine ending -> custody.later base world ->
      custody.machines world machine -> custody.Blocks tree ->
      EvaluatesBlock (custody.Underway base) nested tree machine ending
  | .mk _ statements, after, kept, kinds =>
      .mk ⟨world, after, kept⟩ (statements.underway lawful after kept kinds)

theorem ExecutesAll.underway (lawful : custody.Lawful) {world : custody.World} {nested : Nat}
    {last : Option Value} {trees : List Statement} {machine : Machine}
    {ending : Ending (Option Value)} :
    ExecutesAll along nested last trees machine ending -> custody.later base world ->
      custody.machines world machine -> (∀ tree ∈ trees, custody.statements tree) ->
      ExecutesAll (custody.Underway base) nested last trees machine ending
  | .nil _, after, kept, _ => .nil ⟨world, after, kept⟩
  | .headExit _ head, after, kept, kinds =>
      .headExit ⟨world, after, kept⟩
        (head.underway lawful after kept (List.forall_mem_cons.mp kinds).1)
  | .cons _ head later, after, kept, kinds => by
      have parts := List.forall_mem_cons.mp kinds
      cases Custody.results_of_executes lawful kept parts.1 head with
      | ok further _ kept' =>
          exact .cons ⟨world, after, kept⟩ (head.underway lawful after kept parts.1)
            (later.underway lawful (lawful.trans after further) kept' parts.2)

theorem CallEnds.underway (lawful : custody.Lawful) {world : custody.World} {nested : Nat}
    {callee : Callable} {arguments : List Value} {machine : Machine} {ending : Ending Value} :
    CallEnds along nested callee arguments machine ending -> custody.later base world ->
      custody.machines world machine -> custody.callables world callee ->
      (∀ value ∈ arguments, custody.Values world value) ->
      CallEnds (custody.Underway base) nested callee arguments machine ending
  | .puts _, after, kept, _, _ => .puts ⟨world, after, kept⟩
  | .function _ body, after, kept, known, values => by
      rcases lawful.enter known values kept with ⟨inner, further, entered⟩
      exact .function ⟨world, after, kept⟩
        (body.underway lawful (lawful.trans after further) entered (lawful.body known))

end

theorem StatementsEnd.underway (lawful : custody.Lawful) {world : custody.World}
    {last : Option Value} {trees : List Statement} {machine : Machine}
    {report : Except RuntimeError (Option Value) × Machine}
    (ends : StatementsEnd along last trees machine report) (after : custody.later base world)
    (kept : custody.machines world machine) (kinds : ∀ tree ∈ trees, custody.statements tree) :
    StatementsEnd (custody.Underway base) last trees machine report := by
  induction ends generalizing world with
  | nil _ => exact .nil ⟨world, after, kept⟩
  | cons _ head _ ih =>
      have parts := List.forall_mem_cons.mp kinds
      cases Custody.results_of_executes lawful kept parts.1 head with
      | ok further _ kept' =>
          exact .cons ⟨world, after, kept⟩ (head.underway lawful after kept parts.1)
            (ih (lawful.trans after further) kept' parts.2)
  | returned _ head =>
      exact .returned ⟨world, after, kept⟩
        (head.underway lawful after kept (List.forall_mem_cons.mp kinds).1)
  | failed _ head =>
      exact .failed ⟨world, after, kept⟩
        (head.underway lawful after kept (List.forall_mem_cons.mp kinds).1)

end

/-! ## The machines that are visited -/

/-- The machines on which the run of a program starts, or a run of a tree or of a call inside
of it: they have every property that some derivation of the run has along. -/
def Program.Visits (program : Program) (start machine : Machine) : Prop :=
  ∀ along : Machine -> Prop,
    ProgramEnds (fun _ => along) program start (program.run start) -> along machine

/-- The machines on which a call from outside starts, or a run of a tree or of a call inside
of it. -/
def Callable.Visits (callable : Callable) (arguments : List Value) (start machine : Machine) :
    Prop :=
  ∀ along : Machine -> Prop,
    CallEnds (fun _ => along) 0 callable arguments start (callable.call arguments start) ->
      along machine

namespace Custody

variable {custody : Custody} (lawful : custody.Lawful) {world : custody.World}
  {start machine : Machine} (kept : custody.machines world start)
include lawful kept

/-- A custody is kept on every machine that a program visits. -/
theorem underway_of_visits {program : Program}
    (kinds : ∀ tree ∈ program.statements, custody.statements tree)
    (visits : program.Visits start machine) :
    ∃ later, custody.later world later ∧ custody.machines later machine := by
  have ends := (programEnds_iff program start _).mpr rfl
  have there : ProgramEnds (custody.Underway world) program start (program.run start) :=
    StatementsEnd.underway lawful ends (lawful.refl world) kept kinds
  exact visits _ there

/-- A custody is kept on every machine that a call from outside visits. -/
theorem underway_of_call_visits {callee : Callable} (known : custody.callables world callee)
    {arguments : List Value} (values : ∀ value ∈ arguments, custody.Values world value)
    (visits : callee.Visits arguments start machine) :
    ∃ later, custody.later world later ∧ custody.machines later machine := by
  have ends := callEnds_callWithin anywhere_handedOn (maximumCallDepth + 1) 0 callee arguments
    start trivial (Nat.succ_pos _) (Nat.le_add_left _ _)
  have there : CallEnds (custody.Underway world) 0 callee arguments start
      (callee.call arguments start) :=
    ends.underway lawful (lawful.refl world) kept known values
  exact visits _ there

end Custody

end MonkeyLang
