import MonkeyLang.Proofs.Evaluation.Keeping
import MonkeyLang.Proofs.Evaluation.Renumbering

namespace MonkeyLang

/-!
# What exists in a store

A function refers to the frame in which it was evaluated, and as a value it has an
identity.  Both were given out by some store, and a store is whole when everything
that its frames bind refers to what that store has given out.  In a whole store
each frame and each function stands for itself: it agrees with itself under the
renumbering that changes no number.  What is known of two runs under a renumbering
then also holds of one run twice, which is how the stores behind a run are seen to
be whole again.

The states that a host can bring about with interpreters over one store are
described by their steps.  All of them are whole.
-/

/-- The frame in which a function was evaluated is there. -/
def Callable.ExistsIn (store : Store) : Callable -> Prop
  | .function literal => literal.scope < store.frames.size
  | .builtin _ => True

/-- The identity of a function was given out, and its frame is there. -/
def Value.ExistsIn (store : Store) : Value -> Prop
  | .closure callee => callee.identity < store.identities ∧ callee.callable.ExistsIn store
  | _ => True

theorem Callable.ExistsIn.mono {first second : Store} {callable : Callable}
    (there : callable.ExistsIn first) (frames : first.frames.size ≤ second.frames.size) :
    callable.ExistsIn second := by
  cases callable with
  | function literal => exact Nat.lt_of_lt_of_le there frames
  | builtin _ => trivial

theorem Value.ExistsIn.mono {first second : Store} {value : Value} (there : value.ExistsIn first)
    (frames : first.frames.size ≤ second.frames.size)
    (identities : first.identities ≤ second.identities) : value.ExistsIn second := by
  cases value with
  | closure callee => exact ⟨Nat.lt_of_lt_of_le there.1 identities, there.2.mono frames⟩
  | _ => trivial

/-- Everything that the frames bind exists. -/
structure Store.IsWhole (store : Store) : Prop where
  bound : ∀ {frame : FrameId} {found : Frame} {name : String} {value : Value},
    store.frames[frame]? = some found -> found.find? name = some value -> value.ExistsIn store

namespace Renumbering

/-- Every frame and every function of a store standing for itself. -/
def identity (store : Store) : Renumbering :=
  ⟨.identity store.frames.size, .identity store.identities⟩

variable {store : Store}

theorem callables_identity {callable : Callable} :
    (identity store).Callables callable callable ↔ callable.ExistsIn store := by
  constructor
  · rintro (⟨scope, _, _⟩ | _)
    · exact scope.2
    · trivial
  · intro there
    cases callable with
    | builtin named => exact .builtin named
    | function literal =>
        exact .function ⟨⟨rfl, there⟩, .self literal.parameters, literal.body.resembles_self⟩

theorem values_identity {value : Value} :
    (identity store).Values value value ↔ value.ExistsIn store := by
  constructor
  · rintro (_ | _ | ⟨identity, callable⟩ | _)
    · trivial
    · trivial
    · exact ⟨identity.2, callables_identity.1 callable⟩
    · trivial
  · intro there
    cases value with
    | integer value => exact .integer value
    | boolean value => exact .boolean value
    | null => exact .null
    | closure callee => exact .closure ⟨rfl, there.1⟩ (callables_identity.2 there.2)

theorem optionalValues_identity {value : Option Value}
    (inside : ∀ bound, value = some bound -> bound.ExistsIn store) :
    matching.OptionalValues (identity store) value value := by
  cases value with
  | none => exact .none
  | some bound => exact .some (values_identity.2 (inside bound rfl))

theorem allValues_identity {values : List Value} (there : ∀ value ∈ values, value.ExistsIn store) :
    List.Forall₂ (identity store).Values values values :=
  List.forall₂_same.mpr fun value member => values_identity.2 (there value member)

end Renumbering

open Renumbering (matching)

/-! ## Whole stores agree with themselves -/

theorem Store.IsWhole.storesAgree {store : Store} (whole : store.IsWhole) :
    StoresAgree store.sink.prints store.sink.prints (.identity store) store store where
  made := rfl
  made' := rfl
  given := rfl
  given' := rfl
  heaps := by
    refine ⟨fun {frame frame'} same => ?_⟩
    rcases same with ⟨rfl, there⟩
    refine ⟨⟨store.frames[frame], store.frames[frame], ?_, ?_, ?_⟩, ?_⟩
    · exact Array.getElem?_eq_getElem there
    · exact Array.getElem?_eq_getElem there
    · refine ⟨?_⟩
      rintro name _ rfl
      exact Renumbering.optionalValues_identity fun _ =>
        whole.bound (Array.getElem?_eq_getElem there)
    · generalize link : store.frames.parent? frame = parent
      cases parent with
      | none => exact .none
      | some parent => exact .some ⟨rfl, Nat.lt_trans (Frames.parent?_lt link) there⟩
  sinks := .start rfl

namespace StoresAgree

variable {before before' : List Print} {store later : Store} {made given : Nat}

/-- What grew out of each thing standing for itself is that once more. -/
theorem grow_identity
    (agree : StoresAgree before before' ((Renumbering.identity store).grow made given)
      later later) :
    (Renumbering.identity store).grow made given = .identity later := by
  have frames : store.frames.size + made = later.frames.size := agree.made
  have identities : store.identities + given = later.identities := agree.given
  rw [Renumbering.grow, Renumbering.identity, Pairing.grow_identity, Pairing.grow_identity,
    frames, identities, Renumbering.identity]

/-- A store that agrees with itself is whole. -/
theorem isWhole
    (agree : StoresAgree before before' ((Renumbering.identity store).grow made given)
      later later) : later.IsWhole := by
  rw [agree.grow_identity] at agree
  refine ⟨fun {frame found name value} there own => ?_⟩
  have below : frame < later.frames.size := (Array.getElem?_eq_some_iff.mp there).1
  rcases (agree.heaps.place ⟨rfl, below⟩).exists_value there (Eq.refl name) own with
    ⟨_, _, there', own', related⟩
  cases there.symm.trans there'
  cases own.symm.trans own'
  exact Renumbering.values_identity.1 related

end StoresAgree

/-! ## Stores behind runs and calls -/

namespace Store.IsWhole

variable {store : Store} (whole : store.IsWhole)
include whole

theorem new : (Interpreter.new store).2.IsWhole :=
  (MachinesInStep.new whole.storesAgree).isWhole

/-- Behind a program the store is whole, and the value of the program exists in it. -/
theorem run (program : Program) {interpreter : Interpreter}
    (there : interpreter.scope < store.frames.size) :
    (program.run (interpreter.machine store)).2.toStore.IsWhole ∧
      ∀ value, (program.run (interpreter.machine store)).1 = .ok (some value) ->
        value.ExistsIn (program.run (interpreter.machine store)).2.toStore := by
  have inStep : MachinesInStep store.sink.prints store.sink.prints (.identity store)
      (interpreter.machine store) (interpreter.machine store) :=
    { whole.storesAgree with scope := ⟨rfl, there⟩, depth := rfl }
  rcases runStatements_agree (statementsResemble_self program.statements) inStep with
    ⟨made, given, reports, behind⟩
  refine ⟨behind.isWhole, fun value ended => ?_⟩
  change (runStatements none program.statements (interpreter.machine store)).1 = _ at ended
  rw [behind.grow_identity, ended] at reports
  cases reports with
  | ok answer =>
      cases answer with
      | some related => exact Renumbering.values_identity.1 related

/-- Behind a call the store is whole, and the value of the call exists in it. -/
theorem call {callee : Callable} (calleeThere : callee.ExistsIn store) {arguments : List Value}
    (argumentsThere : ∀ value ∈ arguments, value.ExistsIn store) (interpreter : Interpreter) :
    (callee.callOn arguments (interpreter.machine store)).2.toStore.IsWhole ∧
      ∀ value, (callee.callOn arguments (interpreter.machine store)).1 = .ok value ->
        value.ExistsIn (callee.callOn arguments (interpreter.machine store)).2.toStore := by
  have agree : StoresAgree store.sink.prints store.sink.prints (.identity store)
      (interpreter.machine store).toStore (interpreter.machine store).toStore := whole.storesAgree
  rcases callOn_agree (Renumbering.callables_identity.2 calleeThere)
    (Renumbering.allValues_identity argumentsThere) agree rfl with
    ⟨made, given, outcomes, behind⟩
  refine ⟨behind.isWhole, fun value ended => ?_⟩
  rw [behind.grow_identity, ended] at outcomes
  cases outcomes with
  | ok related => exact Renumbering.values_identity.1 related

theorem declare {frame : FrameId} (frameThere : frame < store.frames.size) (name : String)
    {value : Value} (valueThere : value.ExistsIn store) :
    Store.IsWhole { store with frames := store.frames.declare frame name value } := by
  have agree := whole.storesAgree.declare ⟨rfl, frameThere⟩ name
    (Renumbering.values_identity.2 valueThere)
  rw [← Renumbering.grow_zero (.identity store)] at agree
  exact agree.isWhole

theorem enclose {parent : Option FrameId}
    (parentThere : ∀ frame, parent = some frame -> frame < store.frames.size) :
    Store.IsWhole { store with frames := store.frames.push (.empty parent) } := by
  have parents : Option.Rel (Renumbering.identity store).frames.pairs
      (parent.filter (· < store.frames.size)) (parent.filter (· < store.frames.size)) := by
    cases parent with
    | none => exact .none
    | some frame =>
        rw [Option.filter_some, if_pos (decide_eq_true (parentThere frame rfl))]
        exact .some ⟨rfl, parentThere frame rfl⟩
  exact (whole.storesAgree.push (.empty parent parent) parents).isWhole

end Store.IsWhole

/-! ## The states that a host can bring about -/

/-- Interpreters and the store that they share, as a host can bring them about.  It
starts with an empty store and some sink.  It makes interpreters and copies them, runs
programs on them, and calls on them what exists with values that exist.  Besides, it
binds names in frames, makes frames of its own, and fetches what was printed. -/
inductive Reachable : List Interpreter -> Store -> Prop
  | start (room : Option Nat) : Reachable [] { sink := { room := room } }
  | new {interpreters store} : Reachable interpreters store ->
      Reachable ((Interpreter.new store).1 :: interpreters) (Interpreter.new store).2
  | clone {interpreters store interpreter} : Reachable interpreters store ->
      interpreter ∈ interpreters -> Reachable (interpreter :: interpreters) store
  | run {interpreters store interpreter} (program : Program) : Reachable interpreters store ->
      interpreter ∈ interpreters ->
      Reachable ((program.run (interpreter.machine store)).2.interpreter :: interpreters)
        (program.run (interpreter.machine store)).2.toStore
  | call {interpreters store interpreter} {callee : Callable} {arguments : List Value} :
      Reachable interpreters store -> interpreter ∈ interpreters -> callee.ExistsIn store ->
      (∀ value ∈ arguments, value.ExistsIn store) ->
      Reachable ((callee.callOn arguments (interpreter.machine store)).2.interpreter ::
          interpreters)
        (callee.callOn arguments (interpreter.machine store)).2.toStore
  | declare {interpreters store} {frame : FrameId} (name : String) {value : Value} :
      Reachable interpreters store -> frame < store.frames.size -> value.ExistsIn store ->
      Reachable interpreters { store with frames := store.frames.declare frame name value }
  | enclose {interpreters store} {parent : Option FrameId} : Reachable interpreters store ->
      (∀ frame, parent = some frame -> frame < store.frames.size) ->
      Reachable interpreters { store with frames := store.frames.push (.empty parent) }
  | fetch {interpreters store} : Reachable interpreters store ->
      Reachable interpreters { store with sink := store.sink.drain }

namespace Reachable

variable {interpreters : List Interpreter} {store : Store}

/-- Every store that a host can bring about is whole, and the frames that its
interpreters bind names in are there. -/
theorem isWhole_and_scope_lt (reachable : Reachable interpreters store) :
    store.IsWhole ∧ ∀ interpreter ∈ interpreters, interpreter.scope < store.frames.size := by
  -- behind a run the present frame is the one before it, and no frame has gone
  have behind : ∀ {others : List Interpreter} {store : Store} {interpreter : Interpreter}
      {after : Machine}, Advances (interpreter.machine store) after ->
      (∀ other ∈ others, other.scope < store.frames.size) -> interpreter ∈ others ->
      ∀ other ∈ after.interpreter :: others, other.scope < after.frames.size := by
    intro others store interpreter after advances there listed other member
    refine Nat.lt_of_lt_of_le ?_ advances.frames
    rcases List.mem_cons.mp member with rfl | earlier
    · change after.scope < _
      rw [advances.scope]
      exact there interpreter listed
    · exact there other earlier
  induction reachable with
  | start room =>
      refine ⟨⟨fun there => ?_⟩, fun _ member => nomatch member⟩
      rw [Array.getElem?_empty] at there
      cases there
  | @new interpreters store _ ih =>
      have grown : (Interpreter.new store).2.frames.size = store.frames.size + 1 :=
        Array.size_push ..
      refine ⟨ih.1.new, fun interpreter member => ?_⟩
      rw [grown]
      rcases List.mem_cons.mp member with rfl | earlier
      · exact Nat.lt_succ_self _
      · exact Nat.lt_succ_of_lt (ih.2 interpreter earlier)
  | clone _ listed ih =>
      refine ⟨ih.1, fun interpreter member => ?_⟩
      rcases List.mem_cons.mp member with rfl | earlier
      · exact ih.2 _ listed
      · exact ih.2 _ earlier
  | run program _ listed ih =>
      exact ⟨(ih.1.run program (ih.2 _ listed)).1,
        behind (runStatements_keeps advances_preserved ..) ih.2 listed⟩
  | call _ listed calleeThere argumentsThere ih =>
      exact ⟨(ih.1.call calleeThere argumentsThere _).1,
        behind (callOn_keeps advances_preserved ..) ih.2 listed⟩
  | declare name _ frameThere valueThere ih =>
      refine ⟨ih.1.declare frameThere name valueThere, fun interpreter member => ?_⟩
      exact Nat.lt_of_lt_of_eq (ih.2 interpreter member) (Array.size_modify ..).symm
  | enclose _ parentThere ih =>
      refine ⟨ih.1.enclose parentThere, fun interpreter member => ?_⟩
      rw [Array.size_push]
      exact Nat.lt_succ_of_lt (ih.2 interpreter member)
  | fetch _ ih => exact ⟨⟨ih.1.bound⟩, ih.2⟩

end Reachable

end MonkeyLang
