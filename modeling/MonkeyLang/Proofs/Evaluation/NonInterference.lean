import MonkeyLang.Proofs.Evaluation.Renumbering

namespace MonkeyLang

/-!
# What a call can see

Names have lexical scope.  A function looks names up in the frame in which it was
evaluated and in those around it, and it can call the functions that it finds
there, which look names up in frames of their own.  The frames that are reached in
this way from a function and its arguments are all that a call can see.  The frame
of the caller is not one of them unless it is reached as well.

This is stated of two calls on two machines that agree on the frames that are
reached, under a renumbering.  The other frames may hold anything.  To compare the
two calls, the renumbering is cut down to the frames that are reached: what these
bind is reached in turn, and so the machines agree on all that is left of it.
-/

/-- The frame in which a function was evaluated. -/
def Callable.scope? : Callable -> Option FrameId
  | .function literal => some literal.scope
  | .builtin _ => none

/-- The frame in which the function that a value stands for was evaluated. -/
def Value.scope? : Value -> Option FrameId
  | .closure callee => callee.callable.scope?
  | _ => none

/-- The frames that are reached from a callable and its arguments: those in which
they were evaluated, the frames around reached frames, and those in which the
functions were evaluated that reached frames bind. -/
inductive Reached (frames : Frames) (callee : Callable) (arguments : List Value) :
    FrameId -> Prop
  | callee {scope} : callee.scope? = some scope -> Reached frames callee arguments scope
  | argument {value scope} : value ∈ arguments -> value.scope? = some scope ->
      Reached frames callee arguments scope
  | parent {frame parent} : Reached frames callee arguments frame ->
      frames.parent? frame = some parent -> Reached frames callee arguments parent
  | bound {frame found name value scope} : Reached frames callee arguments frame ->
      frames[frame]? = some found -> found.find? name = some value ->
      value.scope? = some scope -> Reached frames callee arguments scope

namespace Renumbering

variable {renumbering : Renumbering}

/-- The frame that a callable with a counterpart leads to is paired. -/
theorem exists_pair_of_callables {callee callee' : Callable}
    (related : renumbering.Callables callee callee') {scope : FrameId}
    (leads : callee.scope? = some scope) : ∃ scope', renumbering.frames.pairs scope scope' := by
  cases related with
  | builtin _ => cases leads
  | function literal =>
      cases leads
      exact ⟨_, literal.scope⟩

theorem exists_pair_of_values {value value' : Value} (related : renumbering.Values value value')
    {scope : FrameId} (leads : value.scope? = some scope) :
    ∃ scope', renumbering.frames.pairs scope scope' := by
  cases related with
  | closure _ callable => exact exists_pair_of_callables callable leads
  | _ => cases leads

/-- The renumbering of the frames that have a property, and of all functions. -/
def restrict (renumbering : Renumbering) (kept : FrameId -> Prop) : Renumbering :=
  ⟨renumbering.frames.restrict kept, renumbering.identities⟩

theorem isPartOf_grow_of_restrict (kept : FrameId -> Prop) (made given : Nat) :
    ((renumbering.restrict kept).grow made given).IsPartOf (renumbering.grow made given) where
  frames pair := pair.imp_left And.left
  identities := id

theorem callables_restrict {kept : FrameId -> Prop} {callee callee' : Callable}
    (related : renumbering.Callables callee callee')
    (inside : ∀ scope, callee.scope? = some scope -> kept scope) :
    (renumbering.restrict kept).Callables callee callee' := by
  cases related with
  | builtin named => exact .builtin named
  | function literal =>
      exact .function ⟨⟨literal.scope, inside _ rfl⟩, literal.parameters, literal.body⟩

theorem values_restrict {kept : FrameId -> Prop} {value value' : Value}
    (related : renumbering.Values value value')
    (inside : ∀ scope, value.scope? = some scope -> kept scope) :
    (renumbering.restrict kept).Values value value' := by
  cases related with
  | integer value => exact .integer value
  | boolean value => exact .boolean value
  | null => exact .null
  | closure identity callable => exact .closure identity (callables_restrict callable inside)

end Renumbering

open Renumbering (matching)

/-! ## Agreement on what is reached -/

/-- Stores between which there is a renumbering, and that agree under it on every
frame that is reached in the first from a callable and its arguments. -/
structure AgreeOnReached (renumbering : Renumbering) (callee : Callable)
    (arguments : List Value) (first second : Store) : Prop where
  made : renumbering.frames.bound = first.frames.size
  made' : renumbering.frames.bound' = second.frames.size
  given : renumbering.identities.bound = first.identities
  given' : renumbering.identities.bound' = second.identities
  place : ∀ {frame}, Reached first.frames callee arguments frame ->
    ∃ frame', renumbering.frames.pairs frame frame' ∧
      matching.PlacesAgree renumbering first.frames second.frames frame frame'

namespace AgreeOnReached

variable {renumbering : Renumbering} {callee callee' : Callable}
  {arguments arguments' : List Value} {first second : Store}

/-- Stores that agree on all that is paired agree on what is reached from a callable
and arguments that have counterparts. -/
theorem of_storesAgree {before before' : List Print}
    (callables : renumbering.Callables callee callee')
    (values : List.Forall₂ renumbering.Values arguments arguments')
    (agree : StoresAgree before before' renumbering first second) :
    AgreeOnReached renumbering callee arguments first second where
  made := agree.made
  made' := agree.made'
  given := agree.given
  given' := agree.given'
  place := by
    intro frame reached
    have paired : ∃ frame', renumbering.frames.pairs frame frame' := by
      induction reached with
      | callee leads => exact Renumbering.exists_pair_of_callables callables leads
      | argument member leads =>
          have partnered := (List.forall₂_and_left
            (p := fun value => ∃ value', renumbering.Values value value') _ _).mp <|
              values.imp fun _ value' related => ⟨⟨value', related⟩, related⟩
          rcases partnered.1 _ member with ⟨_, related⟩
          exact Renumbering.exists_pair_of_values related leads
      | parent _ link ih =>
          rcases ih with ⟨_, pair⟩
          exact (agree.heaps.place pair).exists_parent link
      | bound _ there own leads ih =>
          rcases ih with ⟨_, pair⟩
          rcases (agree.heaps.place pair).exists_value there (Eq.refl _) own with
            ⟨_, _, _, _, related⟩
          exact Renumbering.exists_pair_of_values related leads
    rcases paired with ⟨frame', pair⟩
    exact ⟨frame', pair, agree.heaps.place pair⟩

variable (agree : AgreeOnReached renumbering callee arguments first second)
include agree

/-- What a reached frame binds is reached, and so is the frame around it.  Nothing
that is not reached is therefore met when the renumbering is cut down. -/
theorem place_restrict {frame frame' : FrameId}
    (pair : renumbering.frames.pairs frame frame')
    (reached : Reached first.frames callee arguments frame) :
    matching.PlacesAgree (renumbering.restrict (Reached first.frames callee arguments))
      first.frames second.frames frame frame' := by
  rcases agree.place reached with ⟨other, pair', place⟩
  cases renumbering.frames.unique.2 pair pair'
  refine ⟨?_, ?_⟩
  · rcases place.frames with ⟨found, found', there, there', each⟩
    refine ⟨found, found', there, there', ⟨fun {name name'} names => ?_⟩⟩
    have related := each.find? names
    generalize own : found.find? name = value at related ⊢
    generalize found'.find? name' = value' at related ⊢
    cases related with
    | none => exact .none
    | some inside =>
        exact .some (Renumbering.values_restrict inside fun _ => reached.bound there own)
  · have parents := place.parents
    generalize link : first.frames.parent? frame = parent at parents ⊢
    generalize second.frames.parent? frame' = parent' at parents ⊢
    cases parents with
    | none => exact .none
    | some above => exact .some ⟨above, reached.parent link⟩

theorem storesAgree_restrict (rooms : first.sink.room = second.sink.room) :
    StoresAgree first.sink.prints second.sink.prints
      (renumbering.restrict (Reached first.frames callee arguments)) first second where
  made := agree.made
  made' := agree.made'
  given := agree.given
  given' := agree.given'
  heaps := ⟨fun pair => agree.place_restrict pair.1 pair.2⟩
  sinks := .start rooms

omit agree in
/-- What agrees under the renumbering that was cut down agrees under the whole. -/
theorem of_restrict {kept : FrameId -> Prop} {made given : Nat}
    (agree : AgreeOnReached ((renumbering.restrict kept).grow made given) callee arguments
      first second) :
    AgreeOnReached (renumbering.grow made given) callee arguments first second where
  made := agree.made
  made' := agree.made'
  given := agree.given
  given' := agree.given'
  place reached := by
    have within := renumbering.isPartOf_grow_of_restrict kept made given
    rcases agree.place reached with ⟨frame', pair, place⟩
    exact ⟨frame', within.frames pair,
      place.mono within.frames (Renumbering.values_mono within)⟩

end AgreeOnReached

/-- The value of an outcome, if there is one, besides other values that correspond. -/
theorem Renumbering.values_of_outcomes {renumbering : Renumbering}
    {outcome outcome' : Except Failure Value}
    (related : matching.Outcomes renumbering outcome outcome') {values values' : List Value}
    (others : List.Forall₂ renumbering.Values values values') :
    List.Forall₂ renumbering.Values (outcome.toOption.toList ++ values)
      (outcome'.toOption.toList ++ values') := by
  cases related with
  | ok value => exact .cons value others
  | error _ => exact others

/-! ## Non-interference -/

/-- A call sees only what is reached from the function and the arguments.  On two
machines of the same depth, whose sinks have the same room (none of them a limit,
for instance) and whose stores agree on what is reached, calls of corresponding
functions with corresponding arguments write the same bytes.  They end with values
of the same kind and text or with failures of the same kind and text, and these
correspond under the renumbering together with the frames and functions made in
the calls.  Behind the calls the stores agree on what is reached from the values
as well, so that the same holds of the calls that follow. -/
theorem call_sees_what_it_reaches {renumbering : Renumbering} {callee callee' : Callable}
    {arguments arguments' : List Value} {machine machine' : Machine}
    (callables : renumbering.Callables callee callee')
    (values : List.Forall₂ renumbering.Values arguments arguments')
    (agree : AgreeOnReached renumbering callee arguments machine.toStore machine'.toStore)
    (rooms : machine.sink.room = machine'.sink.room) (depth : machine.depth = machine'.depth) :
    (∃ written,
      (callee.callOn arguments machine).2.sink.bytes = machine.sink.bytes ++ written ∧
      (callee'.callOn arguments' machine').2.sink.bytes = machine'.sink.bytes ++ written) ∧
    observeCall (callee.callOn arguments machine).1 =
      observeCall (callee'.callOn arguments' machine').1 ∧
    ∃ made given,
      matching.Outcomes (renumbering.grow made given)
        (callee.callOn arguments machine).1 (callee'.callOn arguments' machine').1 ∧
      AgreeOnReached (renumbering.grow made given) callee
        ((callee.callOn arguments machine).1.toOption.toList ++ arguments)
        (callee.callOn arguments machine).2.toStore
        (callee'.callOn arguments' machine').2.toStore := by
  let reached := renumbering.restrict (Reached machine.frames callee arguments)
  have callables' : reached.Callables callee callee' :=
    Renumbering.callables_restrict callables fun _ => .callee
  have values' : List.Forall₂ reached.Values arguments arguments' := by
    have inside : ∀ value ∈ arguments, ∀ scope, value.scope? = some scope ->
        Reached machine.frames callee arguments scope := fun _ member _ => .argument member
    exact ((List.forall₂_and_left _ _).mpr ⟨inside, values⟩).imp fun _ _ both =>
      Renumbering.values_restrict both.2 both.1
  rcases callOn_agree callables' values' (agree.storesAgree_restrict rooms) depth with
    ⟨made, given, outcomes, stores⟩
  have whole : matching.Outcomes (renumbering.grow made given) _ _ :=
    Renumbering.outcomes_mono (renumbering.isPartOf_grow_of_restrict _ made given) outcomes
  have later := reached.isPartOf_grow made given
  have behind := AgreeOnReached.of_storesAgree (Renumbering.callables_mono later callables')
    (Renumbering.values_of_outcomes outcomes <| values'.imp fun _ _ =>
      Renumbering.values_mono later) stores
  exact ⟨stores.sinks.bytes,
    Matching.Outcomes.observeCall_eq (rfl : (upToNumbers [] []).names = Eq) whole,
    made, given, whole, behind.of_restrict⟩

/-- A function without parameters, evaluated in some frame, that gives what a name
stands for. -/
def giving (scope : FrameId) (name : String) : Callable :=
  .function ⟨scope, [], .mk .erased [.expression .erased (.identifier ⟨.erased, name⟩)]⟩

/-- The store of an interpreter that has bound the name of the built-in function. -/
def rebound : Store :=
  let made := (Interpreter.new {}).2
  { made with frames := made.frames.declare 0 "puts" .null }

/-- A function of a second interpreter is called while the frame of the first is
present, in which the name that it looks up is bound to something else.  It gives
what the same function gives on a fresh machine. -/
theorem call_sees_what_it_reaches_of_rebound :
    let second := { (Interpreter.new rebound).1.machine (Interpreter.new rebound).2 with scope := 0 }
    second.frames.find? second.scope "puts" = some .null ∧
      observeCall ((giving 0 "puts").callOn [] (Machine.fresh none)).1 =
        observeCall ((giving 1 "puts").callOn [] second).1 := by
  intro second
  have inStep := MachinesInStep.new (.empty {} rebound rfl)
  have callables : ((Renumbering.empty {} rebound).grow 1 Interpreter.builtins.length).Callables
      (giving 0 "puts") (giving 1 "puts") :=
    .function ⟨inStep.scope, .nil, Block.resembles_self _⟩
  have agree := AgreeOnReached.of_storesAgree callables .nil inStep.toStoresAgree
  have shown : _ ∧ observeCall ((giving 0 "puts").callOn [] (Machine.fresh none)).1 =
      observeCall ((giving 1 "puts").callOn [] second).1 ∧ _ :=
    call_sees_what_it_reaches callables .nil agree rfl rfl
  exact ⟨Frames.find?_of_own (by decide), shown.2.1⟩

end MonkeyLang
