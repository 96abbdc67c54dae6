import MonkeyLang.Evaluation.Interpreter

namespace MonkeyLang

/-!
# Properties that runs hand on

Evaluation puts runs together from a few primitive steps in a few ways.  A property
of runs that the steps have, and that is handed on to whatever is put together from
runs that have it, is therefore a property of evaluation as a whole.  It is walked
along the tree once, here, for all properties of this kind; the bodies of called
functions, which are not part of the tree, come in by induction on the number of
calls that may be nested.
-/

/-- The machine behind a run, whether it ended with an answer or with an exit. -/
def machineOf {α : Type} : EStateM.Result Exit Machine α -> Machine
  | .ok _ machine => machine
  | .error _ machine => machine

@[simp]
theorem machineOf_ok {α : Type} (answer : α) (machine : Machine) :
    machineOf (.ok answer machine) = machine := rfl

@[simp]
theorem machineOf_error {α : Type} (exit : Exit) (machine : Machine) :
    machineOf (.error exit machine : EStateM.Result Exit Machine α) = machine := rfl

/-- A property of the primitive steps that is handed on to what is put together from
runs that have it. -/
structure Inherited (holds : ∀ {α : Type}, Run α -> Prop) : Prop where
  pure : ∀ {α : Type} (answer : α), holds (Pure.pure answer : Run α)
  exit : ∀ {α : Type} (exit : Exit), holds (throw exit : Run α)
  bind : ∀ {α β : Type} {run : Run α} {next : α -> Run β}, holds run ->
    (∀ answer, holds (next answer)) -> holds (run >>= next)
  lookup : ∀ name, holds (Run.lookup name)
  declare : ∀ name value, holds (Run.declare name value)
  close : ∀ parameters body, holds (Run.close parameters body)
  print : ∀ value, holds (Run.print value)
  oneDeeper : ∀ {run : Run Value}, holds run -> holds run.oneDeeper
  inNewFrame : ∀ {run : Run Value}, holds run -> ∀ frame, holds (Run.inNewFrame frame run)
  catchReturn : ∀ {body : Run (Option Value)}, holds body -> holds (Run.catchReturn body)

variable {holds : ∀ {α : Type}, Run α -> Prop}

namespace Inherited

variable (inherited : Inherited holds)
include inherited

theorem ofResult {α : Type} (outcome : Except Failure α) : holds (Run.ofResult outcome) := by
  cases outcome with
  | ok value => exact inherited.pure value
  | error failure => exact inherited.exit (.failed failure)

theorem callable (value : Value) : holds (Run.callable value) := by
  cases value with
  | closure callee => exact inherited.pure callee.callable
  | _ => exact inherited.exit _

theorem checkArity (callee : Callable) (given : Nat) : holds (Run.checkArity callee given) := by
  unfold Run.checkArity
  split
  · exact inherited.pure ()
  · split
    · exact inherited.pure ()
    · exact inherited.exit _

theorem printAll (values : List Value) : holds (Run.printAll values) := by
  induction values with
  | nil => exact inherited.pure Value.null
  | cons value later ih => exact inherited.bind (inherited.print value) fun _ => ih

end Inherited

section Walk

variable {call : Callable -> List Value -> Run Value}

mutual

/-- Evaluation has what its steps and calls hand on. -/
theorem evaluate_inherits (inherited : Inherited holds)
    (calls : ∀ callee arguments, holds (call callee arguments).oneDeeper) :
    ∀ tree : Expression, holds (evaluate call tree)
  | .identifier name => inherited.lookup name.name
  | .integer _ _ | .boolean _ _ => inherited.pure _
  | .unary _ _ operand => by
      refine inherited.bind (evaluate_inherits inherited calls operand) fun value => ?_
      exact inherited.ofResult _
  | .binary _ left _ right => by
      refine inherited.bind (evaluate_inherits inherited calls left) fun first => ?_
      refine inherited.bind (evaluate_inherits inherited calls right) fun second => ?_
      exact inherited.ofResult _
  | .conditional _ condition consequence none => by
      refine inherited.bind (evaluate_inherits inherited calls condition) fun test => ?_
      split
      · exact evaluateBlock_inherits inherited calls consequence
      · exact inherited.pure _
  | .conditional _ condition consequence (some alternative) => by
      refine inherited.bind (evaluate_inherits inherited calls condition) fun test => ?_
      split
      · exact evaluateBlock_inherits inherited calls consequence
      · exact evaluateBlock_inherits inherited calls alternative
  | .function _ parameters body => inherited.close parameters body
  | .call _ callee arguments => by
      refine inherited.bind (evaluate_inherits inherited calls callee) fun value => ?_
      refine inherited.bind (inherited.callable value) fun called => ?_
      refine inherited.bind (inherited.checkArity called _) fun _ => ?_
      refine inherited.bind (evaluateAll_inherits inherited calls arguments) fun values => ?_
      exact calls called values

theorem evaluateAll_inherits (inherited : Inherited holds)
    (calls : ∀ callee arguments, holds (call callee arguments).oneDeeper) :
    ∀ trees : List Expression, holds (evaluateAll call trees)
  | [] => inherited.pure _
  | tree :: later => by
      refine inherited.bind (evaluate_inherits inherited calls tree) fun value => ?_
      refine inherited.bind (evaluateAll_inherits inherited calls later) fun values => ?_
      exact inherited.pure _

theorem execute_inherits (inherited : Inherited holds)
    (calls : ∀ callee arguments, holds (call callee arguments).oneDeeper) :
    ∀ tree : Statement, holds (execute call tree)
  | .binding _ name value => by
      refine inherited.bind (evaluate_inherits inherited calls value) fun bound => ?_
      refine inherited.bind (inherited.declare name.name bound) fun _ => ?_
      exact inherited.pure _
  | .returning _ none => inherited.exit _
  | .returning _ (some value) => by
      refine inherited.bind (evaluate_inherits inherited calls value) fun result => ?_
      exact inherited.exit _
  | .expression _ value => by
      refine inherited.bind (evaluate_inherits inherited calls value) fun result => ?_
      exact inherited.pure _

theorem evaluateBlock_inherits (inherited : Inherited holds)
    (calls : ∀ callee arguments, holds (call callee arguments).oneDeeper) :
    ∀ tree : Block, holds (evaluateBlock call tree)
  | .mk _ statements => by
      refine inherited.bind (executeAll_inherits inherited calls statements none) fun last => ?_
      exact inherited.pure _

theorem executeAll_inherits (inherited : Inherited holds)
    (calls : ∀ callee arguments, holds (call callee arguments).oneDeeper) :
    ∀ (trees : List Statement) (last : Option Value),
    holds (executeAll call last trees)
  | [], _ => inherited.pure _
  | tree :: later, _ => by
      refine inherited.bind (execute_inherits inherited calls tree) fun value => ?_
      exact executeAll_inherits inherited calls later value

end

end Walk

variable (inherited : Inherited holds)
include inherited

/-- Calls have what their steps hand on, however many of them may be nested. -/
theorem callWithin_inherits (levels : Nat) (callee : Callable) (arguments : List Value) :
    holds (callWithin levels callee arguments) := by
  induction levels generalizing callee arguments with
  | zero => exact inherited.exit _
  | succ levels ih =>
      cases callee with
      | function literal =>
          apply inherited.inNewFrame
          apply inherited.catchReturn
          apply executeAll_inherits inherited
          intro callee arguments
          exact inherited.oneDeeper (ih callee arguments)
      | builtin named =>
          cases named
          exact inherited.printAll arguments

/-- The same for the calls that stand in a tree, which are one level deeper. -/
theorem oneDeeper_callWithin_inherits (levels : Nat) (callee : Callable)
    (arguments : List Value) : holds (callWithin levels callee arguments).oneDeeper :=
  inherited.oneDeeper (callWithin_inherits inherited levels callee arguments)

/-- Statements of a program have what their steps hand on. -/
theorem Statement.execute_inherits (tree : Statement) : holds tree.execute :=
  MonkeyLang.execute_inherits inherited
    (oneDeeper_callWithin_inherits inherited maximumCallDepth) tree

end MonkeyLang
