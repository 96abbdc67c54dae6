import MonkeyLang.Proofs.Evaluation.Recasting

namespace MonkeyLang
namespace Recasting

/-!
# Programs in another form run alike

Each step on a machine has its counterpart on the other form of the machine, and each way
to put runs together keeps to this.  For the trees that gives, by recursion on them, that
the other form of a tree does the other form of what the tree does whenever calls do; and
by induction on the number of calls that may be nested, that calls do.

The one place where the two trees are not of the same shape is a list of statements with a
`return` in it, if what stands behind is left out.  There the first run never comes to the
part that the second one does not have, since a `return` has no value to go on with.
-/

variable {recasting : Recasting} {α β γ δ : Type}

section

variable (recasting)

/-- Results that are each other's other form, on machines that are. -/
inductive Results (image : α -> β) :
    EStateM.Result Exit Machine α -> EStateM.Result Exit Machine β -> Prop
  | ok {machine machine'} (answer : α) : recasting.Matches machine machine' ->
      Results image (.ok answer machine) (.ok (image answer) machine')
  | error {machine machine'} (exit : Exit) : recasting.Matches machine machine' ->
      Results image (.error exit machine) (.error (recasting.exit exit) machine')

/-- Runs with results in the other form on machines in the other form. -/
def Follows (image : α -> β) (run : Run α) (run' : Run β) : Prop :=
  ∀ machine machine', recasting.Matches machine machine' ->
    recasting.Results image (run machine) (run' machine')

end

namespace Follows

variable {image : α -> β} {last : γ -> δ}

/-! ## Single steps -/

theorem pure (answer : α) : recasting.Follows image (Pure.pure answer) (Pure.pure (image answer)) :=
  fun _ _ agree => .ok answer agree

theorem exit (exit : Exit) :
    recasting.Follows image (throw exit : Run α) (throw (recasting.exit exit)) :=
  fun _ _ agree => .error exit agree

theorem fail (problem : Failure) :
    recasting.Follows image (Run.fail problem) (Run.fail (recasting.failure problem)) :=
  Follows.exit (.failed problem)

theorem ofResult (result : Except Failure Value) :
    recasting.Follows recasting.value (Run.ofResult result)
      (Run.ofResult (recasting.outcome result)) := by
  cases result with
  | ok answer => exact .pure answer
  | error problem => exact .fail problem

theorem callable (callee : Value) :
    recasting.Follows recasting.callable (Run.callable callee)
      (Run.callable (recasting.value callee)) := by
  cases callee with
  | closure closed => exact .pure closed.callable
  | _ => exact .fail (.notCallable _)

theorem checkArity (callee : Callable) (given : Nat) :
    recasting.Follows id (Run.checkArity callee given)
      (Run.checkArity (recasting.callable callee) given) := by
  unfold Run.checkArity
  rw [arity_callable]
  split
  · exact .pure ()
  · split
    · exact .pure ()
    · exact .fail (.wrongArity _ _ _)

theorem lookup (name : String) :
    recasting.Follows recasting.value (Run.lookup name) (Run.lookup (recasting.name name)) := by
  intro machine machine' agree
  unfold Run.lookup
  rw [agree.scope, agree.frames.find?]
  cases machine.frames.find? machine.scope name with
  | none => exact .error (.failed (.unknownIdentifier name)) agree
  | some found => exact .ok found agree

theorem declare (injective : Function.Injective recasting.name) (name : String) (value : Value) :
    recasting.Follows id (Run.declare name value)
      (Run.declare (recasting.name name) (recasting.value value)) :=
  fun _ _ agree => .ok () (agree.declare injective name value)

theorem close (parameters : List Identifier) (body : Block) :
    recasting.Follows recasting.value (Run.close parameters body)
      (Run.close (parameters.map recasting.identifier) (recasting.block body)) := by
  intro machine machine' agree
  have counted := agree.withIdentities (congrArg (· + 1) agree.identities)
  have closure : Value.closure ⟨machine'.identities, .function ⟨machine'.scope,
      parameters.map recasting.identifier, recasting.block body⟩⟩ =
      recasting.value (.closure ⟨machine.identities, .function ⟨machine.scope,
        parameters, body⟩⟩) := by
    rw [agree.identities, agree.scope]
    rfl
  unfold Run.close
  rw [closure]
  exact .ok _ counted

theorem print (value : Value) :
    recasting.Follows id (Run.print value) (Run.print (recasting.value value)) := by
  intro machine machine' agree
  have printed := agree.print value
  rw [Run.print_eq, Run.print_eq, if_pos (congrArg Prod.fst (Sink.accept_of_none agree.room _)),
    if_pos (congrArg Prod.fst (Sink.accept_of_none agree.room' _))]
  exact .ok () printed

/-! ## Putting runs together -/

theorem bind {run : Run α} {run' : Run β} {next : α -> Run γ} {next' : β -> Run δ}
    (first : recasting.Follows image run run')
    (second : ∀ answer, recasting.Follows last (next answer) (next' (image answer))) :
    recasting.Follows last (run >>= next) (run' >>= next') := by
  intro machine machine' agree
  have started := first machine machine' agree
  change recasting.Results last (EStateM.bind run next machine) (EStateM.bind run' next' machine')
  unfold EStateM.bind
  generalize run machine = result at started
  generalize run' machine' = result' at started
  cases started with
  | ok answer agree => exact second answer _ _ agree
  | error exit agree => exact .error exit agree

/-- What would come behind a run that always ends early does not matter. -/
theorem bind_of_exits {run : Run α} {run' : Run β} {next : α -> Run γ} {next' : β -> Run δ}
    (first : recasting.Follows image run run')
    (exits : ∀ machine answer after, run machine ≠ .ok answer after) :
    recasting.Follows last (run >>= next) (run' >>= next') := by
  intro machine machine' agree
  have started := first machine machine' agree
  have early := exits machine
  change recasting.Results last (EStateM.bind run next machine) (EStateM.bind run' next' machine')
  unfold EStateM.bind
  generalize run machine = result at started early
  generalize run' machine' = result' at started
  cases started with
  | ok answer agree => exact absurd rfl (early answer _)
  | error exit agree => exact .error exit agree

theorem printAll (values : List Value) :
    recasting.Follows recasting.value (Run.printAll values)
      (Run.printAll (values.map recasting.value)) := by
  induction values with
  | nil => exact .pure Value.null
  | cons value later ih => exact .bind (.print value) fun _ => ih

theorem oneDeeper {run : Run α} {run' : Run β} (inside : recasting.Follows image run run') :
    recasting.Follows image run.oneDeeper run'.oneDeeper := by
  intro machine machine' agree
  have started := inside _ _ (agree.withDepth (congrArg (· + 1) agree.depth))
  unfold Run.oneDeeper
  by_cases allowed : machine.depth < maximumCallDepth
  · rw [if_pos allowed, if_pos (agree.depth ▸ allowed)]
    generalize run _ = result at started ⊢
    generalize run' _ = result' at started ⊢
    cases started with
    | ok answer agree =>
        exact .ok answer (agree.withDepth (congrArg (· - 1) agree.depth))
    | error exit agree =>
        exact .error exit (agree.withDepth (congrArg (· - 1) agree.depth))
  · rw [if_neg allowed, if_neg (agree.depth ▸ allowed)]
    exact .error (.failed .callDepthExceeded) agree

theorem catchReturn {body body' : Run (Option Value)}
    (inside : recasting.Follows (Option.map recasting.value) body body') :
    recasting.Follows recasting.value (Run.catchReturn body) (Run.catchReturn body') := by
  intro machine machine' agree
  have started := inside machine machine' agree
  unfold Run.catchReturn
  generalize body machine = result at started ⊢
  generalize body' machine' = result' at started ⊢
  cases started with
  | ok answer agree =>
      dsimp only
      rw [getD_value]
      exact .ok (answer.getD .null) agree
  | error exit agree =>
      cases exit with
      | returned value => exact .ok value agree
      | failed problem => exact .error (.failed problem) agree

theorem inNewFrame (injective : Function.Injective recasting.name) (literal : Function)
    (arguments : List Value) {run : Run α} {run' : Run β}
    (inside : recasting.Follows image run run') :
    recasting.Follows image (Run.inNewFrame (literal.frame arguments) run)
      (Run.inNewFrame ((recasting.function literal).frame (arguments.map recasting.value))
        run') := by
  intro machine machine' agree
  have started := inside _ _ (agree.enter injective literal arguments)
  dsimp only [Run.inNewFrame]
  generalize run _ = result at started ⊢
  generalize run' _ = result' at started ⊢
  cases started with
  | ok answer after => exact .ok answer (after.withScope agree.scope)
  | error exit after => exact .error exit (after.withScope agree.scope)

end Follows

/-! ## Trees -/

/-- Executing a `return` never ends with a value to go on with. -/
theorem execute_ne_ok_of_isReturn (call : Callable -> List Value -> Run Value)
    {tree : Statement} (returns : tree.isReturn = true) (machine : Machine)
    (answer : Option Value) (after : Machine) : execute call tree machine ≠ .ok answer after := by
  cases tree with
  | binding | expression => cases returns
  | returning token operand =>
      cases operand with
      | none => exact nofun
      | some value =>
          change EStateM.bind (evaluate call value) (fun result => throw (.returned result)) machine
            ≠ .ok answer after
          unfold EStateM.bind
          split <;> exact nofun

/-- Calls of something and of its other form that run alike. -/
def Calls (recasting : Recasting) (call call' : Callable -> List Value -> Run Value) : Prop :=
  ∀ callee arguments, recasting.Follows recasting.value (call callee arguments)
    (call' (recasting.callable callee) (arguments.map recasting.value))

section Walk

variable {call call' : Callable -> List Value -> Run Value}

mutual

/-- An expression in another form has the other form of its value. -/
theorem evaluate_follows (injective : Function.Injective recasting.name)
    (calls : recasting.Calls call call') :
    (tree : Expression) ->
    recasting.Follows recasting.value (evaluate call tree)
      (evaluate call' (recasting.expression tree))
  | .identifier name => .lookup name.name
  | .integer _ number => .pure (Value.integer number)
  | .boolean _ truth => .pure (Value.boolean truth)
  | .unary _ operator operand => by
      refine .bind (evaluate_follows injective calls operand) fun value => ?_
      rw [← outcome_unary]
      exact .ofResult _
  | .binary _ left operator right => by
      refine .bind (evaluate_follows injective calls left) fun first => ?_
      refine .bind (evaluate_follows injective calls right) fun second => ?_
      rw [← outcome_binary]
      exact .ofResult _
  | .conditional _ condition consequence none => by
      refine .bind (evaluate_follows injective calls condition) fun test => ?_
      rw [isTruthy_value]
      split
      · exact evaluateBlock_follows injective calls consequence
      · exact .pure Value.null
  | .conditional _ condition consequence (some alternative) => by
      refine .bind (evaluate_follows injective calls condition) fun test => ?_
      rw [isTruthy_value]
      split
      · exact evaluateBlock_follows injective calls consequence
      · exact evaluateBlock_follows injective calls alternative
  | .function _ parameters body => .close parameters body
  | .call _ callee arguments => by
      refine .bind (evaluate_follows injective calls callee) fun value => ?_
      refine .bind (.callable value) fun callable => ?_
      rw [length_expressions]
      refine .bind (.checkArity callable _) fun _ => ?_
      refine .bind (evaluateAll_follows injective calls arguments) fun values => ?_
      exact .oneDeeper (calls callable values)
termination_by structural tree => tree

theorem evaluateAll_follows (injective : Function.Injective recasting.name)
    (calls : recasting.Calls call call') :
    (trees : List Expression) ->
    recasting.Follows (List.map recasting.value) (evaluateAll call trees)
      (evaluateAll call' (recasting.expressions trees))
  | [] => .pure []
  | tree :: later => by
      refine .bind (evaluate_follows injective calls tree) fun value => ?_
      refine .bind (evaluateAll_follows injective calls later) fun values => ?_
      exact .pure (value :: values)
termination_by structural trees => trees

theorem execute_follows (injective : Function.Injective recasting.name)
    (calls : recasting.Calls call call') :
    (tree : Statement) ->
    recasting.Follows (Option.map recasting.value) (execute call tree)
      (execute call' (recasting.statement tree))
  | .binding _ name value => by
      refine .bind (evaluate_follows injective calls value) fun bound => ?_
      refine .bind (.declare injective name.name bound) fun _ => ?_
      exact .pure none
  | .returning _ none => .exit (.returned .null)
  | .returning _ (some value) =>
      .bind (evaluate_follows injective calls value) fun result => .exit (.returned result)
  | .expression _ value =>
      .bind (evaluate_follows injective calls value) fun result => .pure (some result)
termination_by structural tree => tree

theorem evaluateBlock_follows (injective : Function.Injective recasting.name)
    (calls : recasting.Calls call call') :
    (tree : Block) ->
    recasting.Follows recasting.value (evaluateBlock call tree)
      (evaluateBlock call' (recasting.block tree))
  | .mk _ trees => by
      refine .bind (executeAll_follows injective calls trees none) fun last => ?_
      rw [getD_value]
      exact .pure (last.getD .null)
termination_by structural tree => tree

theorem executeAll_follows (injective : Function.Injective recasting.name)
    (calls : recasting.Calls call call') :
    (trees : List Statement) -> (last : Option Value) ->
    recasting.Follows (Option.map recasting.value) (executeAll call last trees)
      (executeAll call' (last.map recasting.value) (recasting.statements trees))
  | [], last => .pure last
  | tree :: later, _ => by
      rw [statements]
      split
      -- The other list ends here, and the first run does not come further.
      · next trimmed =>
          have returns := (Bool.and_eq_true_iff.mp trimmed).2
          exact .bind_of_exits (execute_follows injective calls tree)
            (execute_ne_ok_of_isReturn call returns)
      · refine .bind (execute_follows injective calls tree) fun value => ?_
        exact executeAll_follows injective calls later value
termination_by structural trees => trees

end

end Walk

/-! ## Calls and programs -/

section

variable (injective : Function.Injective recasting.name)
include injective

/-- Calls run alike, however many may be nested. -/
theorem callWithin_follows (levels : Nat) :
    recasting.Calls (callWithin levels) (callWithin levels) := by
  induction levels with
  | zero => exact fun _ _ => .fail .callDepthExceeded
  | succ levels ih =>
      intro callee arguments
      cases callee with
      | builtin named =>
          cases named
          exact .printAll arguments
      | function literal =>
          refine .inNewFrame injective literal arguments (.catchReturn ?_)
          change recasting.Follows _ _ (executeAll _ _ (recasting.block literal.body).statements)
          rw [statements_block]
          exact executeAll_follows injective ih literal.body.statements none

/-- A program in another form has the other form of the outcome, on a machine in the other
form. -/
theorem runStatements_follows (trees : List Statement) (last : Option Value)
    {machine machine' : Machine} (agree : recasting.Matches machine machine') :
    (runStatements (last.map recasting.value) (recasting.statements trees) machine').1 =
        recasting.report (runStatements last trees machine).1 ∧
      recasting.Matches (runStatements last trees machine).2
        (runStatements (last.map recasting.value) (recasting.statements trees) machine').2 := by
  induction trees generalizing last machine machine' with
  | nil => exact ⟨rfl, agree⟩
  | cons tree later ih =>
      have started := execute_follows injective
        (callWithin_follows injective maximumCallDepth) tree _ _ agree
      change recasting.Results _ (tree.execute machine)
        ((recasting.statement tree).execute machine') at started
      rw [statements]
      generalize first : tree.execute machine = result at started
      generalize second : (recasting.statement tree).execute machine' = result' at started
      cases started with
      | ok answer agree =>
          have passes : tree.isReturn = false := by
            refine Bool.eq_false_iff.mpr fun returns => ?_
            exact execute_ne_ok_of_isReturn _ returns _ _ _ first
          rw [passes, Bool.and_false, if_neg Bool.false_ne_true, runStatements_of_ok first,
            runStatements_of_ok second]
          exact ih answer agree
      | error exit agree =>
          cases exit with
          | returned value =>
              rw [runStatements_of_returned first]
              split <;> rw [runStatements_of_returned second] <;> exact ⟨rfl, agree⟩
          | failed problem =>
              rw [runStatements_of_failed first]
              split <;> rw [runStatements_of_failed second] <;> exact ⟨rfl, agree⟩

/-- A program in another form has the other form of its outcome on a new interpreter, and
the other forms of the values are printed. -/
theorem run_program (fixed : recasting.name "puts" = "puts") (program : Program) :
    ((recasting.program program).run (Machine.fresh none)).1 =
        recasting.report (program.run (Machine.fresh none)).1 ∧
      ((recasting.program program).run (Machine.fresh none)).2.sink.values =
        (program.run (Machine.fresh none)).2.sink.values.map recasting.value := by
  have ended := runStatements_follows injective program.statements none
    (Matches.fresh injective fixed)
  exact ⟨ended.1, ended.2.values⟩

end

end Recasting

end MonkeyLang
