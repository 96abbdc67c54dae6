import Mathlib.Data.List.Forall2
import MonkeyLang.Evaluation.Interpreter

namespace MonkeyLang

/-!
# What reaches the sink

Printing several values hands one line after another to the sink until it refuses
a part of one.  Only the sink changes by this, and what it takes is decided by the
texts of the values and by the room that it has.  Two sinks with the same room to
which the same texts are printed therefore go on taking the same bytes, whatever
they had taken before.
-/

/-- A sink after values were printed to it one after another, and whether it took
all of their lines.  What follows a line that was cut is not printed. -/
def Sink.acceptAll (sink : Sink) : List Value -> Bool × Sink
  | [] => (true, sink)
  | value :: later =>
      if (sink.accept value).1 then (sink.accept value).2.acceptAll later
      else (false, (sink.accept value).2)

theorem Run.print_eq (value : Value) (machine : Machine) :
    Run.print value machine =
      if (machine.sink.accept value).1 then
        .ok () { machine with sink := (machine.sink.accept value).2 }
      else
        .error (.failed .sinkFull) { machine with sink := (machine.sink.accept value).2 } := rfl

/-- Printing changes the sink alone, and fails when the sink is full. -/
theorem Run.printAll_eq (values : List Value) (machine : Machine) :
    Run.printAll values machine =
      if (machine.sink.acceptAll values).1 then
        .ok .null { machine with sink := (machine.sink.acceptAll values).2 }
      else
        .error (.failed .sinkFull) { machine with sink := (machine.sink.acceptAll values).2 } := by
  induction values generalizing machine with
  | nil => rfl
  | cons value later ih =>
      have printed := Run.print_eq value machine
      rw [Run.printAll, Sink.acceptAll]
      split at printed
      · next whole => rw [bind_of_ok printed, ih, if_pos whole]
      · next cut =>
          rw [bind_of_error printed, if_neg cut]
          rfl

/-- A call of the built-in function prints its arguments, and is no more than that. -/
theorem Callable.callOn_puts (arguments : List Value) (machine : Machine) :
    (Callable.builtin .puts).callOn arguments machine =
      (if (machine.sink.acceptAll arguments).1 then .ok .null else .error .sinkFull,
        { machine with sink := (machine.sink.acceptAll arguments).2 }) := by
  have printed : (Callable.builtin .puts).call arguments machine = _ :=
    Run.printAll_eq arguments machine
  split at printed
  · next whole => rw [callOn_of_ok printed, if_pos whole]
  · next cut => rw [callOn_of_failed printed, if_neg cut]

/-! ## Sinks that take the same -/

/-- Printed values with the same text, of which the same part was taken. -/
structure PrintsAgree (first second : Print) : Prop where
  text : first.value.text = second.value.text
  taken : first.taken = second.taken

/-- Sinks with the same room that took the same since they had taken certain
prints. -/
structure SinksAgree (before before' : List Print) (first second : Sink) : Prop where
  room : first.room = second.room
  since : ∃ since since', first.prints = since ++ before ∧ second.prints = since' ++ before' ∧
    List.Forall₂ PrintsAgree since since'

/-- The bytes of prints, of which the latest is first. -/
def bytesOf (prints : List Print) : List UInt8 := prints.reverse.flatMap Print.bytes

theorem bytesOf_append (later earlier : List Print) :
    bytesOf (later ++ earlier) = bytesOf earlier ++ bytesOf later := by
  rw [bytesOf, List.reverse_append, List.flatMap_append]
  rfl

/-- Prints that agree are shown in the same way, and are the same bytes. -/
theorem map_eq_of_agree {first second : List Print}
    (agree : List.Forall₂ PrintsAgree first second) :
    first.map Print.text = second.map Print.text ∧
      first.map Print.bytes = second.map Print.bytes := by
  induction agree with
  | nil => exact ⟨rfl, rfl⟩
  | @cons print other _ _ head _ ih =>
      have line : print.value.line = other.value.line := by
        rw [Value.line, Value.line, head.text]
      have text : print.text = other.text := by
        rw [Print.text, Print.text, line, head.taken]
      have bytes : print.bytes = other.bytes := by
        rw [Print.bytes, Print.bytes, line, head.taken]
      exact ⟨congrArg₂ List.cons text ih.1, congrArg₂ List.cons bytes ih.2⟩

theorem bytesOf_eq_of_agree {first second : List Print}
    (agree : List.Forall₂ PrintsAgree first second) : bytesOf first = bytesOf second := by
  rw [bytesOf, bytesOf, List.flatMap_def, List.flatMap_def, List.map_reverse, List.map_reverse,
    (map_eq_of_agree agree).2]

namespace SinksAgree

variable {before before' : List Print} {first second : Sink}

theorem start (room : first.room = second.room) :
    SinksAgree first.prints second.prints first second :=
  ⟨room, [], [], rfl, rfl, .nil⟩

theorem accept (agree : SinksAgree before before' first second) {value value' : Value}
    (text : value.text = value'.text) :
    (first.accept value).1 = (second.accept value').1 ∧
      SinksAgree before before' (first.accept value).2 (second.accept value').2 := by
  have line : value.line = value'.line := by rw [Value.line, Value.line, text]
  rcases agree with ⟨room, since, since', prints, prints', same⟩
  unfold Sink.accept
  rw [line, room]
  cases second.room with
  | none =>
      exact ⟨rfl, rfl, _ :: since, _ :: since', congrArg _ prints, congrArg _ prints',
        .cons ⟨text, rfl⟩ same⟩
  | some room =>
      exact ⟨rfl, rfl, _ :: since, _ :: since', congrArg _ prints, congrArg _ prints',
        .cons ⟨text, rfl⟩ same⟩

theorem acceptAll {values values' : List Value}
    (texts : List.Forall₂ (fun value value' => value.text = value'.text) values values')
    (agree : SinksAgree before before' first second) :
    (first.acceptAll values).1 = (second.acceptAll values').1 ∧
      SinksAgree before before' (first.acceptAll values).2 (second.acceptAll values').2 := by
  induction texts generalizing first second with
  | nil => exact ⟨rfl, agree⟩
  | @cons value value' later later' text _ ih =>
      rcases agree.accept text with ⟨whole, after⟩
      rw [Sink.acceptAll, Sink.acceptAll, whole]
      split
      · exact ih after
      · exact ⟨rfl, after⟩

/-- Sinks from which everything was fetched have taken nothing since. -/
theorem drain (agree : SinksAgree before before' first second) :
    SinksAgree [] [] first.drain second.drain :=
  ⟨agree.room, [], [], rfl, rfl, .nil⟩

/-- The bytes since then are the same on both sides. -/
theorem bytes (agree : SinksAgree before before' first second) :
    ∃ written, first.bytes = bytesOf before ++ written ∧
      second.bytes = bytesOf before' ++ written := by
  rcases agree.since with ⟨since, since', prints, prints', same⟩
  refine ⟨bytesOf since, ?_, ?_⟩
  · rw [← bytesOf_append, ← prints]
    rfl
  · rw [bytesOf_eq_of_agree same, ← bytesOf_append, ← prints']
    rfl

/-- What is shown of sinks that took nothing before is the same. -/
theorem text_eq (agree : SinksAgree [] [] first second) : first.text = second.text := by
  rcases agree.since with ⟨since, since', prints, prints', same⟩
  rw [List.append_nil] at prints prints'
  rw [Sink.text, Sink.text, List.map_reverse, List.map_reverse, prints, prints',
    (map_eq_of_agree same).1]

end SinksAgree

end MonkeyLang
