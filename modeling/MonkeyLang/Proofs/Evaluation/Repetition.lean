import MonkeyLang.Proofs.Evaluation.Confinement
import MonkeyLang.Proofs.Evaluation.Existence

namespace MonkeyLang

/-!
# Calling twice

Nothing that a call does can be seen by a call after it.  The frames that were
there before the first call are the same when the second one starts, and the
frames and functions that the first one made are met by nothing that the second
one looks at.  Compared with the first call, the second one therefore starts from
a store that agrees on everything that existed, and only gives out later numbers.
-/

/-- A function whose identity was given out between two states of a store. -/
def Value.MadeBetween (before after : Store) : Value -> Prop
  | .closure callee => before.identities ≤ callee.identity ∧ callee.identity < after.identities
  | _ => False

/-- Nothing that was in the store before a call is changed by the call. -/
theorem extends_callOn (callee : Callable) (arguments : List Value) (machine : Machine) :
    machine.toStore.Extends (callee.callOn arguments machine).2.toStore
      (· < machine.frames.size) where
  frames := (callOn_keeps advances_preserved callee arguments machine).frames
  identities := (callOn_keeps advances_preserved callee arguments machine).identities
  kept := fun there => by
    rw [machineOf_callOn]
    exact frames_of_callWithin _ callee arguments machine there

/-- A whole store and what a call leaves of it agree on all that existed before. -/
theorem storesAgree_callOn {machine : Machine} (whole : machine.toStore.IsWhole)
    (unlimited : machine.sink.room = none) (callee : Callable) (arguments : List Value) :
    ∃ wider : Renumbering, (Renumbering.identity machine.toStore).IsPartOf wider ∧
      wider.identities.pairs = (Renumbering.identity machine.toStore).identities.pairs ∧
      StoresAgree machine.sink.prints (callee.callOn arguments machine).2.sink.prints wider
        machine.toStore (callee.callOn arguments machine).2.toStore := by
  have extended := extends_callOn callee arguments machine
  have room : machine.sink.room = (callee.callOn arguments machine).2.sink.room := by
    rw [unlimited, (callOn_keeps advances_preserved callee arguments machine).unlimited unlimited]
  have same : machine.toStore.Extends (callee.callOn arguments machine).2.toStore
      fun frame' => ∃ frame, (Renumbering.identity machine.toStore).frames.pairs frame frame' :=
    ⟨extended.frames, extended.identities, fun ⟨_, pair⟩ => extended.kept (pair.1 ▸ pair.2)⟩
  rcases whole.storesAgree.widen ⟨Nat.le_refl _, Nat.le_refl _, fun _ => rfl⟩ same (.start room) with
    ⟨wider, frames, identities, agree⟩
  have within : (Renumbering.identity machine.toStore).IsPartOf wider := by
    refine ⟨fun pair => ?_, fun pair => ?_⟩
    · rwa [frames]
    · rwa [identities]
  exact ⟨wider, within, identities, agree⟩

/-- Values that stand for each other behind two runs are equal, unless they are
functions that were made in the runs. -/
theorem equals_or_madeBetween {store first second first' second' : Store}
    {before before' : List Print} {wider : Renumbering} {made given : Nat}
    (same : wider.identities.pairs = (Renumbering.identity store).identities.pairs)
    (start : StoresAgree before before' wider first second)
    (behind : StoresAgree before before' (wider.grow made given) first' second')
    {value value' : Value} (related : (wider.grow made given).Values value value') :
    value.equals value' = true ∨
      (value.MadeBetween first first' ∧ value'.MadeBetween second second') := by
  cases related with
  | integer _ | boolean _ => exact .inl (decide_eq_true rfl)
  | null => exact .inl rfl
  | @closure identity identity' _ _ pair _ =>
      replace pair : (wider.identities.grow given).pairs identity identity' := pair
      have below : identity < (wider.grow made given).identities.bound ∧
          identity' < (wider.grow made given).identities.bound' := Pairing.below _ pair
      rw [behind.given, behind.given'] at below
      rcases Pairing.pairs_or_le_of_grow pair with old | beyond
      · rw [same] at old
        exact .inl (decide_eq_true old.1)
      · rw [start.given, start.given'] at beyond
        exact .inr ⟨⟨beyond.1, below.1⟩, ⟨beyond.2, below.2⟩⟩

/-- Calls can be repeated.  In a state that a host can bring about with a sink that
has no limit, something that exists is called with values that exist, on any
interpreter, and then called with them once more on the interpreter behind the first
call, which is the same as before.  Both calls write the same bytes.  They end with
values of the same kind and text or with failures of the same kind and text; and the
values are equal, unless they are functions that were made in the two calls. -/
theorem call_again_ends_alike {interpreters : List Interpreter} {store : Store}
    (reachable : Reachable interpreters store) (unlimited : store.sink.room = none)
    (interpreter : Interpreter) {callee : Callable}
    (calleeThere : callee.ExistsIn store) {arguments : List Value}
    (argumentsThere : ∀ value ∈ arguments, value.ExistsIn store) :
    let first := callee.callOn arguments (interpreter.machine store)
    let second := callee.callOn arguments first.2
    first.2.interpreter = interpreter ∧
    (∃ written, first.2.sink.bytes = store.sink.bytes ++ written ∧
      second.2.sink.bytes = first.2.sink.bytes ++ written) ∧
    observeCall first.1 = observeCall second.1 ∧
    ∀ value value', first.1 = .ok value -> second.1 = .ok value' ->
      value.equals value' = true ∨
        (value.MadeBetween store first.2.toStore ∧
          value'.MadeBetween first.2.toStore second.2.toStore) := by
  intro first second
  have whole := reachable.isWhole_and_scope_lt.1
  have place : Advances (interpreter.machine store) first.2 :=
    callOn_keeps advances_preserved callee arguments _
  rcases @storesAgree_callOn (interpreter.machine store) whole unlimited callee arguments with
    ⟨wider, within, identities, start⟩
  have callables := Renumbering.callables_mono within <|
    Renumbering.callables_identity.2 calleeThere
  have values := (Renumbering.allValues_identity argumentsThere).imp fun _ _ =>
    Renumbering.values_mono within
  rcases callOn_agree callables values start place.depth.symm with
    ⟨made, given, outcomes, behind⟩
  have seen : observeCall first.1 = observeCall second.1 :=
    Matching.Outcomes.observeCall_eq (rfl : (upToNumbers [] []).names = Eq) outcomes
  refine ⟨place.interpreter_eq, behind.sinks.bytes, seen, fun value value' ended ended' => ?_⟩
  change Renumbering.matching.Outcomes _ first.1 second.1 at outcomes
  rw [ended, ended'] at outcomes
  cases outcomes with
  | ok related => exact equals_or_madeBetween identities start behind related

/-- A function without parameters that makes another one whenever it is called. -/
def making : Callable :=
  .function ⟨0, [], .mk .erased [.expression .erased (.function .erased [] (.mk .erased []))]⟩

/-- The functions that it makes in two calls in succession are the same to see, but
they are not equal. -/
theorem call_again_ends_alike_of_making :
    let first := making.callOn [] (Machine.fresh none)
    let second := making.callOn [] first.2
    observeCall first.1 = observeCall second.1 ∧
      ∃ value value', first.1 = .ok value ∧ second.1 = .ok value' ∧
        value.equals value' = false ∧
        value.MadeBetween (Machine.fresh none).toStore first.2.toStore ∧
        value'.MadeBetween first.2.toStore second.2.toStore := by
  intro first second
  have reachable : Reachable _ (Interpreter.new { sink := { room := none } }).2 :=
    .new (.start none)
  have there : making.ExistsIn (Interpreter.new { sink := { room := none } }).2 :=
    Nat.zero_lt_one
  rcases call_again_ends_alike reachable rfl (Machine.fresh none).interpreter there
    (List.forall_mem_nil _) with ⟨_, _, seen, equal⟩
  have ended : first.1 = .ok (.closure ⟨1, .function ⟨1, [], .mk .erased []⟩⟩) := rfl
  have ended' : second.1 = .ok (.closure ⟨2, .function ⟨2, [], .mk .erased []⟩⟩) := rfl
  exact ⟨seen, _, _, ended, ended', by decide, (equal _ _ ended ended').resolve_left (by decide)⟩

end MonkeyLang
