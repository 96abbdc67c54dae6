import Mathlib.Logic.Function.Basic
import MonkeyLang.Proofs.Evaluation.FullSink
import MonkeyLang.Proofs.Evaluation.Legibility
import MonkeyLang.Proofs.Syntax.Recasting

namespace MonkeyLang

/-!
# Runs of programs in another form

A program and its other form are run side by side.  At every moment the one machine is
the other form of the other: the same frames have been made with the same parents, the
same identities were given out, and where the one frame binds a name to a value, the
other binds the other name to the other form of the value.  What the one run gives or
ends with, the other one gives or ends with in the other form, with the same numbers of
frames and identities in it.

This is an equation on the results, since the other form is a function.  It cannot be one
on the machines, as a frame keeps its bindings in the order of their names.  Machines are
compared by what a look-up in them finds.

That different names stay different is needed where a name is looked up behind a binding
of another one.  That a `return` is never passed is needed where what stands behind it is
left out.
-/

namespace Recasting

section

variable (recasting : Recasting)

/-! ## Values and failures -/

/-- A function in another form. -/
def function (literal : Function) : Function :=
  ⟨literal.scope, literal.parameters.map recasting.identifier, recasting.block literal.body⟩

/-- Something that can be called in another form. -/
def callable : Callable -> Callable
  | .function literal => .function (recasting.function literal)
  | .builtin named => .builtin named

/-- A value in another form.  It stays the same unless it is a function. -/
def value : Value -> Value
  | .closure callee => .closure ⟨callee.identity, recasting.callable callee.callable⟩
  | other => other

/-- A failure in another form.  It stays the same unless it shows a name or a function. -/
def failure : Failure -> Failure
  | .unknownIdentifier name => .unknownIdentifier (recasting.name name)
  | .wrongArity callee given expected => .wrongArity (recasting.callable callee) given expected
  | other => other

/-- The outcome of an operator in another form. -/
def outcome : Except Failure Value -> Except Failure Value
  | .ok answer => .ok (recasting.value answer)
  | .error problem => .error (recasting.failure problem)

/-- An exit in another form. -/
def exit : Exit -> Exit
  | .returned answer => .returned (recasting.value answer)
  | .failed problem => .failed (recasting.failure problem)

/-- The report of a run in another form. -/
def report : Except RuntimeError (Option Value) -> Except RuntimeError (Option Value)
  | .ok answer => .ok (answer.map recasting.value)
  | .error error => .error ⟨recasting.failure error.failure, recasting.statement error.statement⟩

theorem arity_callable (callee : Callable) : (recasting.callable callee).arity = callee.arity := by
  cases callee with
  | function literal => exact congrArg some (List.length_map ..)
  | builtin named => rfl

theorem type_value (operand : Value) : (recasting.value operand).type = operand.type := by
  cases operand with
  | closure callee =>
      rcases callee with ⟨identity, callable⟩
      cases callable <;> rfl
  | _ => rfl

theorem isTruthy_value (operand : Value) :
    (recasting.value operand).isTruthy = operand.isTruthy := by
  cases operand <;> rfl

/-- Functions keep their identities, so that the same values are equal. -/
theorem equals_value (left right : Value) :
    (recasting.value left).equals (recasting.value right) = left.equals right := by
  cases left <;> cases right <;> rfl

theorem getD_value (answer : Option Value) :
    (answer.map recasting.value).getD .null = recasting.value (answer.getD .null) := by
  cases answer <;> rfl

/-! ## Operators -/

theorem outcome_exactly (result : Int) {problem : Failure}
    (same : recasting.failure problem = problem) :
    recasting.outcome (exactly result problem) = exactly result problem := by
  unfold exactly
  split
  · rfl
  · exact congrArg Except.error same

theorem outcome_unary (operator : UnaryOperator) (operand : Value) :
    recasting.outcome (operator.apply operand) = operator.apply (recasting.value operand) := by
  cases operator with
  | not =>
      rw [UnaryOperator.apply, UnaryOperator.apply, isTruthy_value]
      rfl
  | negate =>
      have types := recasting.type_value operand
      cases operand with
      | integer number => exact recasting.outcome_exactly _ rfl
      | closure callee =>
          change Except.error (Failure.unknownUnary .negate (Value.closure callee).type) =
            .error (.unknownUnary .negate (recasting.value (.closure callee)).type)
          rw [types]
      | _ => rfl

theorem outcome_integers (operator : BinaryOperator) (left right : Int64) :
    recasting.outcome (operator.applyIntegers left right) = operator.applyIntegers left right := by
  cases operator with
  | plus | minus | times => exact recasting.outcome_exactly _ rfl
  | divide =>
      by_cases zero : right = 0
      · rw [BinaryOperator.applyIntegers, if_pos zero]
        rfl
      · rw [BinaryOperator.applyIntegers, if_neg zero]
        exact recasting.outcome_exactly _ rfl
  | _ => rfl

theorem outcome_others (operator : BinaryOperator) (left right : Value) :
    recasting.outcome (operator.applyOthers left right) =
      operator.applyOthers (recasting.value left) (recasting.value right) := by
  unfold BinaryOperator.applyOthers
  rw [type_value, type_value, equals_value]
  split
  · cases operator <;> rfl
  · rfl

theorem outcome_binary (operator : BinaryOperator) (left right : Value) :
    recasting.outcome (operator.apply left right) =
      operator.apply (recasting.value left) (recasting.value right) := by
  have others := recasting.outcome_others operator left right
  cases left with
  | integer first => cases right with
    | integer second => exact recasting.outcome_integers operator first second
    | _ => exact others
  | _ => exact others

/-! ## Frames -/

/-- A frame that binds the other names to the other forms of values. -/
structure FrameMatches (first second : Frame) : Prop where
  find? : ∀ name, second.find? (recasting.name name) = (first.find? name).map recasting.value

/-- Frames under the same numbers and with the same parents that bind the other names to
the other forms of values. -/
structure FramesMatch (first second : Frames) : Prop where
  size : second.size = first.size
  parent? : ∀ frame, second.parent? frame = first.parent? frame
  own : ∀ name frame,
    second.own (recasting.name name) frame = (first.own name frame).map recasting.value

end

variable {recasting : Recasting}

namespace FrameMatches

theorem empty (parent parent' : Option FrameId) :
    recasting.FrameMatches (Frame.empty parent) (Frame.empty parent') :=
  ⟨fun _ => rfl⟩

theorem declare {first second : Frame} (injective : Function.Injective recasting.name)
    (agree : recasting.FrameMatches first second) (name : String) (value : Value) :
    recasting.FrameMatches (first.declare name value)
      (second.declare (recasting.name name) (recasting.value value)) := by
  refine ⟨fun other => ?_⟩
  rw [Frame.find?_declare, Frame.find?_declare]
  by_cases here : other = name
  · rw [if_pos here, if_pos (congrArg _ here)]
    rfl
  · rw [if_neg here, if_neg fun same => here (injective same)]
    exact agree.find? other

/-- Parameters are bound to arguments one after another. -/
theorem declareAll {first second : Frame} (injective : Function.Injective recasting.name)
    (agree : recasting.FrameMatches first second) (parameters : List Identifier)
    (arguments : List Value) :
    recasting.FrameMatches (first.declareAll ((parameters.map (·.name)).zip arguments))
      (second.declareAll (((parameters.map recasting.identifier).map (·.name)).zip
        (arguments.map recasting.value))) := by
  induction parameters generalizing first second arguments with
  | nil => exact agree
  | cons parameter later ih =>
      cases arguments with
      | nil => exact agree
      | cons argument others => exact ih (agree.declare injective parameter.name argument) others

theorem of_call (injective : Function.Injective recasting.name) (literal : Function)
    (arguments : List Value) :
    recasting.FrameMatches (literal.frame arguments)
      ((recasting.function literal).frame (arguments.map recasting.value)) :=
  (FrameMatches.empty _ _).declareAll injective literal.parameters arguments

end FrameMatches

namespace FramesMatch

variable {first second : Frames} (agree : recasting.FramesMatch first second)
include agree

/-- A look-up goes through the same frames on the two sides. -/
theorem find? (frame : FrameId) (name : String) :
    second.find? frame (recasting.name name) = (first.find? frame name).map recasting.value := by
  induction frame using Nat.strongRecOn with
  | ind frame ih =>
      have own := agree.own name frame
      have parents := agree.parent? frame
      cases bound : first.own name frame with
      | some value =>
          rw [bound] at own
          rw [Frames.find?_of_own bound, Frames.find?_of_own own]
          rfl
      | none =>
          rw [bound] at own
          cases link : first.parent? frame with
          | none =>
              rw [Frames.find?_of_global bound link,
                Frames.find?_of_global own (parents.trans link)]
              rfl
          | some parent =>
              rw [Frames.find?_of_parent bound link,
                Frames.find?_of_parent own (parents.trans link)]
              exact ih parent (Frames.parent?_lt link)

theorem declare (injective : Function.Injective recasting.name) (owner : FrameId) (bound : String)
    (value : Value) :
    recasting.FramesMatch (first.declare owner bound value)
      (second.declare owner (recasting.name bound) (recasting.value value)) where
  size := by rw [Frames.declare, Frames.declare, Array.size_modify, Array.size_modify, agree.size]
  parent? frame := by
    rw [Frames.parent?_declare, Frames.parent?_declare]
    exact agree.parent? frame
  own name frame := by
    rw [Frames.own_declare, Frames.own_declare, agree.size, agree.own]
    simp only [injective.eq_iff]
    split <;> rfl

theorem push {newest newest' : Frame} (frames : recasting.FrameMatches newest newest')
    (parents : newest'.parent = newest.parent) :
    recasting.FramesMatch (first.push newest) (second.push newest') where
  size := by rw [Array.size_push, Array.size_push, agree.size]
  parent? frame := by
    by_cases newer : frame = first.size
    · rw [newer, Frames.parent?_push_size, ← agree.size, Frames.parent?_push_size, parents]
    · rw [Frames.parent?_push_of_ne _ _ newer, Frames.parent?_push_of_ne _ _ (agree.size ▸ newer)]
      exact agree.parent? frame
  own name frame := by
    rw [Frames.own_push, Frames.own_push, agree.size]
    split
    · exact frames.find? name
    · exact agree.own name frame

end FramesMatch

/-! ## Machines and runs -/

/-- A machine in another form: one with the same frames that bind the other names to the
other forms of values, and to which the other forms of values were printed.  There is room
for all that is printed. -/
structure Matches (recasting : Recasting) (first second : Machine) : Prop where
  frames : recasting.FramesMatch first.frames second.frames
  identities : second.identities = first.identities
  scope : second.scope = first.scope
  depth : second.depth = first.depth
  room : first.sink.room = none
  room' : second.sink.room = none
  values : second.sink.values = first.sink.values.map recasting.value

namespace Matches

variable {first second : Machine}

theorem withIdentities (agree : recasting.Matches first second) {identities identities' : Nat}
    (same : identities' = identities) :
    recasting.Matches { first with identities := identities }
      { second with identities := identities' } :=
  ⟨agree.frames, same, agree.scope, agree.depth, agree.room, agree.room', agree.values⟩

theorem withScope (agree : recasting.Matches first second) {scope scope' : FrameId}
    (same : scope' = scope) :
    recasting.Matches { first with scope := scope } { second with scope := scope' } :=
  ⟨agree.frames, agree.identities, same, agree.depth, agree.room, agree.room', agree.values⟩

theorem withDepth (agree : recasting.Matches first second) {depth depth' : Nat}
    (same : depth' = depth) :
    recasting.Matches { first with depth := depth } { second with depth := depth' } :=
  ⟨agree.frames, agree.identities, agree.scope, same, agree.room, agree.room', agree.values⟩

theorem declare (agree : recasting.Matches first second)
    (injective : Function.Injective recasting.name) (name : String) (value : Value) :
    recasting.Matches { first with frames := first.frames.declare first.scope name value }
      { second with
        frames := second.frames.declare second.scope (recasting.name name)
          (recasting.value value) } :=
  { agree with
    frames := agree.scope ▸ agree.frames.declare injective first.scope name value }

/-- A value and its other form are printed as whole lines. -/
theorem print (agree : recasting.Matches first second) (value : Value) :
    recasting.Matches { first with sink := (first.sink.accept value).2 }
      { second with sink := (second.sink.accept (recasting.value value)).2 } :=
  { agree with
    room := by rw [Sink.accept_of_none agree.room]
    room' := by rw [Sink.accept_of_none agree.room']
    values := by
      rw [Sink.values_accept, Sink.values_accept, agree.values, List.map_append]
      rfl }

theorem enter (agree : recasting.Matches first second)
    (injective : Function.Injective recasting.name) (literal : Function)
    (arguments : List Value) :
    recasting.Matches
      { first with
        frames := first.frames.push (literal.frame arguments)
        scope := first.frames.size }
      { second with
        frames := second.frames.push
          ((recasting.function literal).frame (arguments.map recasting.value))
        scope := second.frames.size } :=
  { agree with
    frames := by
      refine agree.frames.push (.of_call injective literal arguments) ?_
      rw [Function.parent_frame, Function.parent_frame]
      rfl
    scope := agree.frames.size }

/-- New interpreters with a sink without a limit, if the name of the built-in function stays
what it is. -/
theorem fresh (injective : Function.Injective recasting.name)
    (fixed : recasting.name "puts" = "puts") :
    recasting.Matches (Machine.fresh none) (Machine.fresh none) where
  frames := by
    have empty : recasting.FramesMatch #[] #[] := ⟨rfl, fun _ => rfl, fun _ _ => rfl⟩
    have globals := (FrameMatches.empty none none).declare injective "puts"
      (.closure ⟨0, .builtin .puts⟩)
    rw [fixed] at globals
    exact empty.push globals rfl
  identities := rfl
  scope := rfl
  depth := rfl
  room := rfl
  room' := rfl
  values := rfl

end Matches

end Recasting

end MonkeyLang
