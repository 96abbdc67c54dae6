import MonkeyLang.Proofs.Evaluation.Correspondence

namespace MonkeyLang
namespace Correspondence

/-!
# Runs in step

Each way to put runs together keeps two runs in step when its parts are in step.
For the trees that gives, by recursion on their resemblance, that evaluation
keeps in step whenever calls do; and by induction on the number of calls that may
be nested, that calls do.
-/

variable {between : Correspondence} {world : between.World} {α β α' β' : Type}
  {answers : between.World -> α -> β -> Prop}

/-! ## Putting runs together -/

theorem Results.weaken (lawful : between.Lawful) {inner : between.World}
    (after : between.later world inner) {result : EStateM.Result Exit Machine α}
    {result' : EStateM.Result Exit Machine β}
    (related : between.Results inner answers result result') :
    between.Results world answers result result' := by
  cases related with
  | ok further answer machines => exact .ok (lawful.trans after further) answer machines
  | error further exit machines => exact .error (lawful.trans after further) exit machines

namespace Runs

theorem pure (lawful : between.Lawful) {answer : α} {answer' : β}
    (related : answers world answer answer') :
    between.Runs world answers (Pure.pure answer) (Pure.pure answer') := by
  intro machine machine' machines
  exact .ok (lawful.refl world) related machines

theorem exit (lawful : between.Lawful) {exit exit' : Exit}
    (related : between.Exits world exit exit') :
    between.Runs world answers (throw exit) (throw exit') := by
  intro machine machine' machines
  exact .error (lawful.refl world) related machines

theorem fail (lawful : between.Lawful) {failure failure' : Failure}
    (related : between.Failures world failure failure') :
    between.Runs world answers (Run.fail failure) (Run.fail failure') :=
  Runs.exit lawful (.failed related)

theorem bind (lawful : between.Lawful) {middle : between.World -> α' -> β' -> Prop}
    {run : Run α'} {run' : Run β'} {next : α' -> Run α} {next' : β' -> Run β}
    (first : between.Runs world middle run run')
    (second : ∀ {later answer answer'}, between.later world later -> middle later answer answer' ->
      between.Runs later answers (next answer) (next' answer')) :
    between.Runs world answers (run >>= next) (run' >>= next') := by
  intro machine machine' machines
  change between.Results world answers (EStateM.bind run next machine)
    (EStateM.bind run' next' machine')
  have started := first machine machine' machines
  unfold EStateM.bind
  generalize run machine = result at started
  generalize run' machine' = result' at started
  cases started with
  | ok after answer machines => exact .weaken lawful after (second after answer _ _ machines)
  | error after exit machines => exact .error after exit machines

/-- The depth of calls comes back on both sides, and is exceeded on both sides or
on neither. -/
theorem oneDeeper (lawful : between.Lawful) {run : Run α} {run' : Run β}
    (inside : between.Runs world answers run run') :
    between.Runs world answers run.oneDeeper run'.oneDeeper := by
  intro machine machine' machines
  have depths := lawful.depth machines
  unfold Run.oneDeeper
  by_cases allowed : machine.depth < maximumCallDepth
  · rw [if_pos allowed, if_pos (depths ▸ allowed)]
    have started := inside _ _ (lawful.withDepth (congrArg (· + 1) depths) machines)
    generalize run _ = result at started ⊢
    generalize run' _ = result' at started ⊢
    cases started with
    | ok after answer machines =>
        have outer := lawful.withDepth (congrArg (· - 1) (lawful.depth machines)) machines
        exact .ok after answer outer
    | error after exit machines =>
        have outer := lawful.withDepth (congrArg (· - 1) (lawful.depth machines)) machines
        exact .error after exit outer
  · rw [if_neg allowed, if_neg (depths ▸ allowed)]
    exact .error (lawful.refl world) (.failed (.plain rfl)) machines

theorem catchReturn {body body' : Run (Option Value)}
    (inside : between.Runs world between.OptionalValues body body') :
    between.Runs world between.Values (Run.catchReturn body) (Run.catchReturn body') := by
  intro machine machine' machines
  have started := inside machine machine' machines
  unfold Run.catchReturn
  generalize body machine = result at started ⊢
  generalize body' machine' = result' at started ⊢
  cases started with
  | ok after answer machines => exact .ok after answer.getD machines
  | error after exit machines =>
      cases exit with
      | returned value => exact .ok after value machines
      | failed failure => exact .error after (.failed failure) machines

/-- A new frame is matched with a new frame, and the old ones are present again
behind the run. -/
theorem inNewFrame (lawful : between.Lawful) {function function' : Function}
    (functions : between.Functions world function function') {arguments arguments' : List Value}
    (values : List.Forall₂ (between.Values world) arguments arguments')
    {run : Run α} {run' : Run β}
    (inside : ∀ {later}, between.later world later -> between.Runs later answers run run') :
    between.Runs world answers (Run.inNewFrame (function.frame arguments) run)
      (Run.inNewFrame (function'.frame arguments') run') := by
  intro machine machine' machines
  have outer := lawful.scope machines
  rcases lawful.enter functions values machines with ⟨inner, entered, machines⟩
  have started := inside entered _ _ machines
  dsimp only [Run.inNewFrame]
  generalize run _ = result at started ⊢
  generalize run' _ = result' at started ⊢
  cases started with
  | ok after answer machines =>
      have beyond := lawful.trans entered after
      exact .ok beyond answer (lawful.withScope (lawful.scopes_mono beyond outer) machines)
  | error after exit machines =>
      have beyond := lawful.trans entered after
      exact .error beyond exit (lawful.withScope (lawful.scopes_mono beyond outer) machines)

end Runs

/-! ## Operators -/

theorem Runs.ofResult (lawful : between.Lawful) {outcome outcome' : Except Failure Value}
    (related : between.Outcomes world outcome outcome') :
    between.Runs world between.Values (Run.ofResult outcome) (Run.ofResult outcome') := by
  cases related with
  | ok value => exact .pure lawful value
  | error failure => exact .fail lawful failure

theorem exactly_inStep (result : Int) {failure : Failure} (plain : failure.isPlain = true) :
    between.Outcomes world (MonkeyLang.exactly result failure)
      (MonkeyLang.exactly result failure) := by
  unfold MonkeyLang.exactly
  split
  · exact .ok (.integer _)
  · exact .error (.plain plain)

theorem unary_inStep (operator : UnaryOperator) {value value' : Value}
    (related : between.Values world value value') :
    between.Outcomes world (operator.apply value) (operator.apply value') := by
  cases operator with
  | not =>
      rw [UnaryOperator.apply, UnaryOperator.apply, related.isTruthy_eq]
      exact .ok (.boolean _)
  | negate =>
      have types := related.type_eq
      cases related with
      | integer value => exact exactly_inStep _ rfl
      | closure =>
          change between.Outcomes world (.error (.unknownUnary .negate _))
            (.error (.unknownUnary .negate _))
          rw [types]
          exact .error (.plain rfl)
      | _ => exact .error (.plain rfl)

theorem integers_inStep (operator : BinaryOperator) (left right : Int64) :
    between.Outcomes world (operator.applyIntegers left right)
      (operator.applyIntegers left right) := by
  cases operator with
  | plus | minus | times => exact exactly_inStep _ rfl
  | divide =>
      by_cases zero : right = 0
      · rw [BinaryOperator.applyIntegers, if_pos zero]
        exact .error (.plain rfl)
      · rw [BinaryOperator.applyIntegers, if_neg zero]
        exact exactly_inStep _ rfl
  | _ => exact .ok (.boolean _)

theorem others_inStep (lawful : between.Lawful) (operator : BinaryOperator)
    {left left' right right' : Value} (first : between.Values world left left')
    (second : between.Values world right right') :
    between.Outcomes world (operator.applyOthers left right)
      (operator.applyOthers left' right') := by
  unfold BinaryOperator.applyOthers
  rw [first.type_eq, second.type_eq, lawful.equals_eq first second]
  split
  · cases operator with
    | equal | notEqual => exact .ok (.boolean _)
    | _ => exact .error (.plain rfl)
  · exact .error (.plain rfl)

theorem binary_inStep (lawful : between.Lawful) (operator : BinaryOperator)
    {left left' right right' : Value} (first : between.Values world left left')
    (second : between.Values world right right') :
    between.Outcomes world (operator.apply left right) (operator.apply left' right') := by
  have others := others_inStep lawful operator first second
  cases first with
  | integer value =>
      cases second with
      | integer value' => exact integers_inStep operator value value'
      | _ => exact others
  | _ => exact others

/-! ## Calls -/

theorem Runs.callable (lawful : between.Lawful) {value value' : Value}
    (related : between.Values world value value') :
    between.Runs world between.Callables (Run.callable value) (Run.callable value') := by
  cases related with
  | closure _ callable => exact .pure lawful callable
  | _ => exact .fail lawful (.plain rfl)

theorem Runs.checkArity (lawful : between.Lawful) {callee callee' : Callable}
    (related : between.Callables world callee callee') (given : Nat) :
    between.Steps world (Run.checkArity callee given) (Run.checkArity callee' given) := by
  unfold Run.checkArity
  rw [related.arity_eq]
  split
  · exact .pure lawful trivial
  · split
    · exact .pure lawful trivial
    · exact .fail lawful (.wrongArity _ _ related)

theorem Runs.printAll (lawful : between.Lawful) {values values' : List Value}
    (related : List.Forall₂ (between.Values world) values values') :
    between.Runs world between.Values (Run.printAll values) (Run.printAll values') := by
  induction values generalizing world values' with
  | nil =>
      cases related
      exact .pure lawful .null
  | cons value later ih =>
      cases related with
      | cons first others =>
          refine .bind lawful (lawful.print first) fun after _ => ?_
          exact ih (lawful.allValues_mono after others)

/-- Calls that stay in step in every world. -/
def Calls (between : Correspondence) (call call' : Callable -> List Value -> Run Value) : Prop :=
  ∀ {world callee callee' arguments arguments'}, between.Callables world callee callee' ->
    List.Forall₂ (between.Values world) arguments arguments' ->
    between.Runs world between.Values (call callee arguments) (call' callee' arguments')

/-! ## Trees -/

section Walk

variable {call call' : Callable -> List Value -> Run Value}

mutual

/-- Evaluations of expressions of one shape stay in step. -/
theorem evaluate_inStep (lawful : between.Lawful) (calls : between.Calls call call')
    {world : between.World} {first second : Expression} :
    first.Resembles between.names second ->
      between.Runs world between.Values (evaluate call first) (evaluate call' second)
  | .identifier name => lawful.lookup name
  | .integer => .pure lawful (.integer _)
  | .boolean => .pure lawful (.boolean _)
  | .unary operand => by
      refine .bind lawful (evaluate_inStep lawful calls operand) fun _ value => ?_
      exact .ofResult lawful (unary_inStep _ value)
  | .binary left right => by
      refine .bind lawful (evaluate_inStep lawful calls left) fun _ first => ?_
      refine .bind lawful (evaluate_inStep lawful calls right) fun after second => ?_
      exact .ofResult lawful (binary_inStep lawful _ (lawful.values_mono after first) second)
  | .conditional condition consequence => by
      refine .bind lawful (evaluate_inStep lawful calls condition) fun _ test => ?_
      rw [test.isTruthy_eq]
      split
      · exact evaluateBlock_inStep lawful calls consequence
      · exact .pure lawful .null
  | .alternative condition consequence other => by
      refine .bind lawful (evaluate_inStep lawful calls condition) fun _ test => ?_
      rw [test.isTruthy_eq]
      split
      · exact evaluateBlock_inStep lawful calls consequence
      · exact evaluateBlock_inStep lawful calls other
  | .function parameters body => lawful.close parameters body
  | .call callee arguments => by
      refine .bind lawful (evaluate_inStep lawful calls callee) fun _ value => ?_
      refine .bind lawful (.callable lawful value) fun _ callable => ?_
      rw [arguments.length_eq]
      refine .bind lawful (.checkArity lawful callable _) fun after _ => ?_
      refine .bind lawful (evaluateAll_inStep lawful calls arguments) fun after' values => ?_
      have callable := lawful.callables_mono (lawful.trans after after') callable
      exact .oneDeeper lawful (calls callable values)

theorem evaluateAll_inStep (lawful : between.Lawful) (calls : between.Calls call call')
    {world : between.World} {first second : List Expression} :
    ExpressionsResemble between.names first second ->
      between.Runs world (fun later => List.Forall₂ (between.Values later))
        (evaluateAll call first) (evaluateAll call' second)
  | .nil => .pure lawful .nil
  | .cons head tail => by
      refine .bind lawful (evaluate_inStep lawful calls head) fun _ value => ?_
      refine .bind lawful (evaluateAll_inStep lawful calls tail) fun after values => ?_
      exact .pure lawful (.cons (lawful.values_mono after value) values)

theorem execute_inStep (lawful : between.Lawful) (calls : between.Calls call call')
    {world : between.World} {first second : Statement} :
    first.Resembles between.names second ->
      between.Runs world between.OptionalValues (execute call first) (execute call' second)
  | .binding name value => by
      refine .bind lawful (evaluate_inStep lawful calls value) fun _ bound => ?_
      refine .bind lawful (lawful.declare name bound) fun _ _ => ?_
      exact .pure lawful .none
  | .bareReturn => .exit lawful (.returned .null)
  | .returning value => by
      refine .bind lawful (evaluate_inStep lawful calls value) fun _ result => ?_
      exact .exit lawful (.returned result)
  | .expression value => by
      refine .bind lawful (evaluate_inStep lawful calls value) fun _ result => ?_
      exact .pure lawful (.some result)

theorem evaluateBlock_inStep (lawful : between.Lawful) (calls : between.Calls call call')
    {world : between.World} {first second : Block} :
    first.Resembles between.names second ->
      between.Runs world between.Values (evaluateBlock call first) (evaluateBlock call' second)
  | .mk statements => by
      refine .bind lawful (executeAll_inStep lawful calls statements .none) fun _ last => ?_
      exact .pure lawful last.getD

theorem executeAll_inStep (lawful : between.Lawful) (calls : between.Calls call call')
    {world : between.World} {first second : List Statement}
    {last last' : Option Value} :
    StatementsResemble between.names first second -> between.OptionalValues world last last' ->
      between.Runs world between.OptionalValues (executeAll call last first)
        (executeAll call' last' second)
  | .nil, answer => .pure lawful answer
  | .cons head tail, _ => by
      refine .bind lawful (execute_inStep lawful calls head) fun _ answer => ?_
      exact executeAll_inStep lawful calls tail answer

end

end Walk

/-- Calls stay in step, as many of them may be nested on one side as on the other. -/
theorem callWithin_inStep (lawful : between.Lawful) (levels : Nat) :
    between.Calls (callWithin levels) (callWithin levels) := by
  induction levels with
  | zero =>
      intro world callee callee' arguments arguments' _ _
      exact .fail lawful (.plain rfl)
  | succ levels ih =>
      intro world callee callee' arguments arguments' callables values
      cases callables with
      | function functions =>
          apply Runs.inNewFrame lawful functions values
          intro later _
          apply Runs.catchReturn
          exact executeAll_inStep lawful ih functions.body.statements .none
      | builtin named =>
          cases named
          exact .printAll lawful values

/-! ## Programs -/

/-- Reports of two runs of programs that correspond. -/
inductive Reports (world : between.World) :
    Except RuntimeError (Option Value) -> Except RuntimeError (Option Value) -> Prop
  | ok {answer answer'} : between.OptionalValues world answer answer' ->
      Reports world (.ok answer) (.ok answer')
  | error {failure failure' statement statement'} : between.Failures world failure failure' ->
      statement.Resembles between.names statement' ->
      Reports world (.error ⟨failure, statement⟩) (.error ⟨failure', statement'⟩)

/-- Programs of one shape stay in step to their end. -/
theorem runStatements_inStep (lawful : between.Lawful) {world : between.World}
    {first second : List Statement} (shape : StatementsResemble between.names first second)
    {last last' : Option Value} (answer : between.OptionalValues world last last')
    {machine machine' : Machine} (machines : between.machines world machine machine') :
    ∃ later, between.later world later ∧
      Reports later (runStatements last first machine).1 (runStatements last' second machine').1 ∧
      between.machines later (runStatements last first machine).2
        (runStatements last' second machine').2 := by
  induction first generalizing world second last last' machine machine' with
  | nil =>
      cases shape
      exact ⟨world, lawful.refl world, .ok answer, machines⟩
  | cons head tail ih =>
      cases shape with
      | @cons _ second _ later statement others =>
          have started : between.Results world between.OptionalValues (head.execute machine)
              (second.execute machine') :=
            execute_inStep lawful (callWithin_inStep lawful maximumCallDepth) statement _ _ machines
          rw [runStatements, runStatements]
          generalize head.execute machine = result at started ⊢
          generalize second.execute machine' = result' at started ⊢
          cases started with
          | ok after answer machines =>
              rcases ih others answer machines with ⟨final, further, reports, machines⟩
              exact ⟨final, lawful.trans after further, reports, machines⟩
          | error after exit machines =>
              cases exit with
              | returned value => exact ⟨_, after, .ok (.some value), machines⟩
              | failed failure => exact ⟨_, after, .error failure statement, machines⟩

end Correspondence
end MonkeyLang
