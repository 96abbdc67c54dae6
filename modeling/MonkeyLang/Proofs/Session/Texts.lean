import MonkeyLang.Proofs.Evaluation.ReadBack
import MonkeyLang.Proofs.Session.Effects

namespace MonkeyLang

/-!
# The texts that a session shows

A session runs programs that it has read, and calls functions that came from them.  All
values that it comes by in this way have texts that read back, as far as they are integers,
truth values or functions: the values of its steps, those that are bound in its frames, and
those that are printed while a program is run or a function is called.
-/

namespace Session

/-- Values that a session has come by, or that are printed during its next step. -/
inductive Obtains (session : Session) : Value -> Prop
  | kept {value} : some value ∈ session.values -> session.Obtains value
  | bound {frame : FrameId} {found : Frame} {name value} :
      session.store.frames[frame]? = some found -> found.find? name = some value ->
      session.Obtains value
  | printed {source program index interpreter value} : parse source = .ok program ->
      session.interpreter index = .ok interpreter ->
      value ∈ (program.run (interpreter.machine session.store)).2.sink.values ->
      session.Obtains value
  | printedInCall {index interpreter of target values callee value} {arguments : List Reference} :
      session.interpreter index = .ok interpreter -> session.resolve of = .ok target ->
      arguments.mapM session.resolve = .ok values -> callable target = .ok callee ->
      value ∈ (callee.callOn values (interpreter.machine session.store)).2.sink.values ->
      session.Obtains value

/-- A session in which all functions show their names and numbers. -/
structure IsWritable (session : Session) : Prop where
  store : session.store.IsWritable
  values : ∀ value, some value ∈ session.values -> value.Writable

theorem isWritable_start (room : Option Nat) : (start room).IsWritable where
  store := by
    refine Store.IsWritable.new ⟨⟨fun there => ?_⟩, List.forall_mem_nil _⟩
    rw [Array.getElem?_empty] at there
    cases there
  values _ member := nomatch member

namespace IsWritable

variable {session later : Session} {answered : Answer} (writable : session.IsWritable)
include writable

theorem resolve {of : Reference} {value : Value} (resolved : session.resolve of = .ok value) :
    value.Writable := by
  cases value with
  | closure callee => exact writable.values _ (mem_values_of_resolve resolved)
  | _ => trivial

theorem resolveAll {arguments : List Reference} {values : List Value}
    (resolved : arguments.mapM session.resolve = .ok values) :
    ∀ value ∈ values, value.Writable := by
  intro value member
  rcases exists_of_resolveAll resolved value member with ⟨_, referred⟩
  exact writable.resolve referred

theorem callable {of : Reference} {target : Value} {callee : Callable}
    (resolved : session.resolve of = .ok target) (called : Session.callable target = .ok callee) :
    callee.Writable := by
  rcases eq_closure_of_callable called with ⟨_, rfl⟩
  exact writable.resolve resolved

/-- Whatever a step does, its functions show their names and numbers. -/
theorem does (does : session.Does answered later) :
    later.store.IsWritable ∧ ∀ value, answered.value? = some value -> value.Writable := by
  cases does with
  | stays refers =>
      refine ⟨writable.store, fun value kept => ?_⟩
      rcases refers value kept with ⟨_, resolved⟩
      exact writable.resolve resolved
  | @runs _ _ _ interpreter accepted found =>
      have behind := writable.store.run accepted interpreter
      refine ⟨⟨behind.1.bound, List.forall_mem_nil _⟩, fun value kept => ?_⟩
      exact behind.2 value (Answer.ok_of_evaluated kept)
  | makes => exact ⟨writable.store.new, fun _ absurd => nomatch absurd⟩
  | copies found => exact ⟨writable.store, fun _ absurd => nomatch absurd⟩
  | @binds _ _ _ _ _ frame name resolved resolved' called enclosed =>
      exact ⟨writable.store.declare frame name (writable.resolve resolved'),
        fun _ absurd => nomatch absurd⟩
  | @calls _ interpreter _ _ _ _ _ found resolved resolvedAll called =>
      have behind := writable.store.call (writable.callable resolved called)
        (writable.resolveAll resolvedAll) interpreter
      refine ⟨⟨behind.1.bound, List.forall_mem_nil _⟩, fun value kept => ?_⟩
      exact behind.2 value (Answer.ok_of_called kept)

theorem take (step : Step) : (session.take step).2.IsWritable := by
  rcases session.exists_does step with ⟨answered, later, taken, does⟩
  have follows := writable.does does
  rw [taken]
  refine ⟨follows.1, fun value member => ?_⟩
  rcases List.mem_append.mp member with earlier | newest
  · rw [does.values_eq] at earlier
    exact writable.values value earlier
  · exact follows.2 value (List.mem_singleton.mp newest).symm

/-- All that a session has come by shows its names and numbers. -/
theorem of_obtains {value : Value} (obtained : session.Obtains value) : value.Writable := by
  cases obtained with
  | kept member => exact writable.values value member
  | bound there own => exact (writable.store.bound.each there).own own
  | printed accepted found member => exact (writable.store.run accepted _).1.printed value member
  | @printedInCall _ interpreter _ _ _ _ _ _ found resolved resolvedAll called member =>
      have behind := writable.store.call (writable.callable resolved called)
        (writable.resolveAll resolvedAll) interpreter
      exact behind.1.printed value member

end IsWritable

theorem isWritable_behind (room : Option Nat) (steps : List Step) :
    ((start room).behind steps).IsWritable :=
  behind_induction (fun _ writable => writable.take) (isWritable_start room) steps

end Session

/-- The texts of values read back.  Of all values that a session has come by, an integer other
than the least one, a truth value or a function has a text that is a program of one
expression.  On any machine, whatever its frames and its depth of calls are, this program ends
with a value of the same kind and text: the same integer or truth value, or a function with
the same names of parameters and the same body, up to tokens.  It prints nothing, and leaves
all as it was but the number of identities.  The text of the least integer alone is not a
program, since the number in it is beyond the range. -/
theorem printed_values_read_back :
    (∀ (room : Option Nat) (steps : List Step) (value : Value),
      ((Session.start room).behind steps).Obtains value ->
      value.type = .integer ∨ value.type = .boolean ∨ value.type = .function ->
      value ≠ .integer Int64.minValue ->
      ∃ token tree, parse value.text = .ok ⟨[.expression token tree]⟩ ∧
        ∀ machine : Machine, ∃ read after,
          Program.run ⟨[.expression token tree]⟩ machine = (.ok (some read), after) ∧
          after = { machine with identities := after.identities } ∧
          read.type = value.type ∧ read.text = value.text ∧ value.ReadsBackAs read) ∧
    (∀ number : Int64, (∃ diagnostics, parse (Value.integer number).text = .error diagnostics) ↔
      number = Int64.minValue) ∧
    ∃ diagnostic, parse (Value.integer Int64.minValue).text = .error [diagnostic] ∧
      diagnostic.fault = .invalidInteger "9223372036854775808" := by
  refine ⟨fun room steps value obtained type inside => ?_, parse_text_eq_error_iff,
    parse_text_minValue⟩
  have writable := (Session.isWritable_behind room steps).of_obtains obtained
  rcases Value.reads_back writable ⟨type, inside⟩ with ⟨token, tree, accepted, ends⟩
  refine ⟨token, tree, accepted, fun machine => ?_⟩
  rcases ends machine with ⟨read, after, ended, place, reads⟩
  exact ⟨read, after, ended, place, reads.type_eq, reads.text_eq, reads⟩

/-- A session in which an operation and a function were evaluated. -/
def differences : Session :=
  (Session.start none).behind [.evaluate 0 "2 - 7", .evaluate 0 "fn(a, b) \x7b a - b \x7d"]

/-- A negative integer reads back as an operation, and a function as a function with the same
text. -/
theorem printed_values_read_back_of_differences :
    (some (Value.integer (-5)) ∈ differences.values ∧
      ∃ token tree, parse "-5" = .ok ⟨[.expression token tree]⟩ ∧
        ∀ machine : Machine, ∃ after,
          Program.run ⟨[.expression token tree]⟩ machine = (.ok (some (.integer (-5))), after)) ∧
    ∃ value, some value ∈ differences.values ∧ value.text = "fn(a, b) \x7b (a - b); \x7d" ∧
      ∃ token tree, parse value.text = .ok ⟨[.expression token tree]⟩ ∧
        ∀ machine : Machine, ∃ read after,
          Program.run ⟨[.expression token tree]⟩ machine = (.ok (some read), after) ∧
          read.text = value.text := by
  have readsBack := printed_values_read_back.1 none
    [.evaluate 0 "2 - 7", .evaluate 0 "fn(a, b) \x7b a - b \x7d"]
  constructor
  · have kept : some (Value.integer (-5)) ∈ differences.values := by decide +kernel
    rcases readsBack _ (.kept kept) (.inl rfl) (by decide) with ⟨token, tree, accepted, ends⟩
    refine ⟨kept, token, tree, accepted, fun machine => ?_⟩
    rcases ends machine with ⟨read, after, ended, -, -, -, same⟩
    cases same
    exact ⟨after, ended⟩
  · have seen : some (ValueType.function, "fn(a, b) \x7b (a - b); \x7d") ∈
        differences.values.map (Option.map fun value => (value.type, value.text)) := by
      decide +kernel
    rcases List.mem_map.mp seen with ⟨answer, kept, shape⟩
    rcases Option.map_eq_some_iff.mp shape with ⟨value, rfl, parts⟩
    rcases Prod.mk.inj parts with ⟨type, text⟩
    have inside : value ≠ .integer Int64.minValue := by
      rintro rfl
      cases type
    rcases readsBack value (.kept kept) (.inr (.inr type)) inside with
      ⟨token, tree, accepted, ends⟩
    refine ⟨value, kept, text, token, tree, accepted, fun machine => ?_⟩
    rcases ends machine with ⟨read, after, ended, -, -, same, -⟩
    exact ⟨read, after, ended, same⟩

end MonkeyLang
