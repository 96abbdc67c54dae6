import MonkeyLang.Evaluation.Interpreter
import MonkeyLang.Proofs.Syntax.Resemblance

namespace MonkeyLang

/-!
# Comparing two runs

Two runs that start from corresponding machines and walk trees of one shape stay
in step: they end in the same way, with corresponding values or failures, on
corresponding machines.  What corresponds to what may grow while the runs go on,
as both make frames and functions.  A world says what has been matched so far,
and later worlds keep what earlier ones have matched.

A matching fixes when names, frames and identities of functions match, and the
relations on values, failures and exits follow from these.  A correspondence adds
when whole machines match.  The laws below ask of it what the primitive steps
need, and nothing about evaluation.
-/

/-- What is matched between two runs, apart from their machines. -/
structure Matching where
  World : Type
  later : World -> World -> Prop
  names : String -> String -> Prop
  scopes : World -> FrameId -> FrameId -> Prop
  identities : World -> Nat -> Nat -> Prop

/-- What is matched between two runs. -/
structure Correspondence extends Matching where
  machines : World -> Machine -> Machine -> Prop

/-- Whether a failure mentions neither a name nor a function. -/
def Failure.isPlain : Failure -> Bool
  | .unknownIdentifier _ | .wrongArity _ _ _ => false
  | _ => true

namespace Matching

section Relations

variable (between : Matching) (world : between.World)

/-- Function literals of one shape, closed over matched frames. -/
structure Functions (first second : Function) : Prop where
  scope : between.scopes world first.scope second.scope
  parameters : ParametersResemble between.names first.parameters second.parameters
  body : first.body.Resembles between.names second.body

/-- Callables that correspond. -/
inductive Callables : Callable -> Callable -> Prop
  | function {first second} :
      between.Functions world first second -> Callables (.function first) (.function second)
  | builtin (named : Builtin) : Callables (.builtin named) (.builtin named)

/-- Values that correspond. -/
inductive Values : Value -> Value -> Prop
  | integer (value : Int64) : Values (.integer value) (.integer value)
  | boolean (value : Bool) : Values (.boolean value) (.boolean value)
  | closure {identity identity' callable callable'} :
      between.identities world identity identity' ->
      between.Callables world callable callable' ->
      Values (.closure ⟨identity, callable⟩) (.closure ⟨identity', callable'⟩)
  | null : Values .null .null

/-- Values that correspond, or none on both sides. -/
inductive OptionalValues : Option Value -> Option Value -> Prop
  | none : OptionalValues none none
  | some {value value'} :
      between.Values world value value' -> OptionalValues (some value) (some value')

/-- Failures that correspond. -/
inductive Failures : Failure -> Failure -> Prop
  | unknownIdentifier {name name'} :
      between.names name name' -> Failures (.unknownIdentifier name) (.unknownIdentifier name')
  | wrongArity {callee callee'} (given expected : Nat) :
      between.Callables world callee callee' ->
      Failures (.wrongArity callee given expected) (.wrongArity callee' given expected)
  | plain {failure} : failure.isPlain = true -> Failures failure failure

/-- Exits that correspond. -/
inductive Exits : Exit -> Exit -> Prop
  | returned {value value'} :
      between.Values world value value' -> Exits (.returned value) (.returned value')
  | failed {failure failure'} :
      between.Failures world failure failure' -> Exits (.failed failure) (.failed failure')

/-- Outcomes of an operator that correspond. -/
inductive Outcomes : Except Failure Value -> Except Failure Value -> Prop
  | ok {value value'} : between.Values world value value' -> Outcomes (.ok value) (.ok value')
  | error {failure failure'} :
      between.Failures world failure failure' -> Outcomes (.error failure) (.error failure')

end Relations

variable {between : Matching} {world : between.World}

theorem Callables.arity_eq {callee callee' : Callable}
    (related : between.Callables world callee callee') : callee.arity = callee'.arity := by
  cases related with
  | function literal => exact congrArg some literal.parameters.length_eq
  | builtin named => rfl

theorem Values.isTruthy_eq {value value' : Value} (related : between.Values world value value') :
    value.isTruthy = value'.isTruthy := by
  cases related <;> rfl

theorem Values.type_eq {value value' : Value} (related : between.Values world value value') :
    value.type = value'.type := by
  cases related with
  | closure _ callable => cases callable <;> rfl
  | _ => rfl

theorem OptionalValues.getD {value value' : Option Value}
    (related : between.OptionalValues world value value') :
    between.Values world (value.getD .null) (value'.getD .null) := by
  cases related with
  | none => exact .null
  | some inside => exact inside

end Matching

namespace Correspondence

section Relations

variable (between : Correspondence) (world : between.World) {α β : Type}
  (answers : between.World -> α -> β -> Prop)

/-- Results that correspond in some later world. -/
inductive Results :
    EStateM.Result Exit Machine α -> EStateM.Result Exit Machine β -> Prop
  | ok {later answer answer' machine machine'} :
      between.later world later -> answers later answer answer' ->
      between.machines later machine machine' -> Results (.ok answer machine) (.ok answer' machine')
  | error {later exit exit' machine machine'} :
      between.later world later -> between.Exits later exit exit' ->
      between.machines later machine machine' ->
      Results (.error exit machine) (.error exit' machine')

/-- Runs that stay in step from all machines that correspond. -/
def Runs (first : Run α) (second : Run β) : Prop :=
  ∀ machine machine', between.machines world machine machine' ->
    between.Results world answers (first machine) (second machine')

end Relations

/-- Runs whose answers tell nothing. -/
abbrev Steps (between : Correspondence) (world : between.World) (first second : Run Unit) : Prop :=
  between.Runs world (fun _ _ _ => True) first second

/-- What the primitive steps need of a correspondence. -/
structure Lawful (between : Correspondence) : Prop where
  refl : ∀ world, between.later world world
  trans : ∀ {world inner later}, between.later world inner -> between.later inner later ->
    between.later world later
  scopes_mono : ∀ {world later scope scope'}, between.later world later ->
    between.scopes world scope scope' -> between.scopes later scope scope'
  identities_mono : ∀ {world later identity identity'}, between.later world later ->
    between.identities world identity identity' -> between.identities later identity identity'
  identities_iff : ∀ {world first first' second second'},
    between.identities world first first' -> between.identities world second second' ->
    (first = second ↔ first' = second')
  depth : ∀ {world machine machine'}, between.machines world machine machine' ->
    machine.depth = machine'.depth
  scope : ∀ {world machine machine'}, between.machines world machine machine' ->
    between.scopes world machine.scope machine'.scope
  withDepth : ∀ {world machine machine' depth depth'}, depth = depth' ->
    between.machines world machine machine' ->
    between.machines world { machine with depth := depth } { machine' with depth := depth' }
  withScope : ∀ {world machine machine' scope scope'}, between.scopes world scope scope' ->
    between.machines world machine machine' ->
    between.machines world { machine with scope := scope } { machine' with scope := scope' }
  lookup : ∀ {world name name'}, between.names name name' ->
    between.Runs world between.Values (Run.lookup name) (Run.lookup name')
  declare : ∀ {world name name' value value'}, between.names name name' ->
    between.Values world value value' ->
    between.Steps world (Run.declare name value) (Run.declare name' value')
  close : ∀ {world parameters parameters' body body'},
    ParametersResemble between.names parameters parameters' ->
    Block.Resembles between.names body body' ->
    between.Runs world between.Values (Run.close parameters body) (Run.close parameters' body')
  print : ∀ {world value value'}, between.Values world value value' ->
    between.Steps world (Run.print value) (Run.print value')
  enter : ∀ {world function function' arguments arguments' machine machine'},
    between.Functions world function function' ->
    List.Forall₂ (between.Values world) arguments arguments' ->
    between.machines world machine machine' ->
    ∃ inner, between.later world inner ∧ between.machines inner
      { machine with
        frames := machine.frames.push (function.frame arguments)
        scope := machine.frames.size }
      { machine' with
        frames := machine'.frames.push (function'.frame arguments')
        scope := machine'.frames.size }

variable {between : Correspondence} {world later : between.World}

namespace Lawful

variable (lawful : between.Lawful)
include lawful

theorem functions_mono {first second : Function} (after : between.later world later)
    (related : between.Functions world first second) : between.Functions later first second :=
  ⟨lawful.scopes_mono after related.scope, related.parameters, related.body⟩

theorem callables_mono {first second : Callable} (after : between.later world later)
    (related : between.Callables world first second) : between.Callables later first second := by
  cases related with
  | function literal => exact .function (lawful.functions_mono after literal)
  | builtin named => exact .builtin named

theorem values_mono {first second : Value} (after : between.later world later)
    (related : between.Values world first second) : between.Values later first second := by
  cases related with
  | integer value => exact .integer value
  | boolean value => exact .boolean value
  | closure identity callable =>
      exact .closure (lawful.identities_mono after identity) (lawful.callables_mono after callable)
  | null => exact .null

theorem allValues_mono {first second : List Value} (after : between.later world later)
    (related : List.Forall₂ (between.Values world) first second) :
    List.Forall₂ (between.Values later) first second :=
  related.imp fun _ _ => lawful.values_mono after

/-- Whether two values are equal is seen in the same way on both sides. -/
theorem equals_eq {left left' right right' : Value} (first : between.Values world left left')
    (second : between.Values world right right') : left.equals right = left'.equals right' := by
  cases first with
  | closure identity _ =>
      cases second with
      | closure identity' _ => exact decide_eq_decide.2 (lawful.identities_iff identity identity')
      | _ => rfl
  | _ => cases second <;> rfl

end Lawful

end Correspondence
end MonkeyLang
