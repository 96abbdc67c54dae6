import MonkeyLang.Proofs.Evaluation.Keeping

namespace MonkeyLang

/-!
# Interpreters behind programs that ended badly

A call moves the interpreter into a frame of its own and one level deeper, and both
moves are undone on every way out of it.  So a program leaves the interpreter where it
was, whether it ends with a value, by a `return` or with any failure, and a call does
so too, at whatever depth it is made.

What an interpreter knows apart from the store is this place alone.  A copy knows the
same, and so it goes on knowing the same as the original while programs are run on
either of them.  It therefore makes no difference on which of them the next program is
run.
-/

/-- What a program is answered with: its report, and the store behind it. -/
abbrev ProgramAnswer := Except RuntimeError (Option Value) × Store

namespace Interpreter

/-- The answers to programs that are run one after another on one interpreter. -/
def answers (interpreter : Interpreter) (store : Store) : List Program -> List ProgramAnswer
  | [] => []
  | program :: later =>
      let (report, behind) := program.run (interpreter.machine store)
      (report, behind.toStore) :: behind.interpreter.answers behind.toStore later

end Interpreter

/-- Programs that are run one after another over one store, each on any of several
interpreters, of which copies are made in between.  A program changes the interpreter
that it is run on to the one behind it, and no other. -/
inductive AnswersOnCopies :
    List Interpreter -> Store -> List Program -> List ProgramAnswer -> Prop
  | nil {interpreters store} : AnswersOnCopies interpreters store [] []
  | clone {interpreters store interpreter programs answers} :
      interpreter ∈ interpreters ->
      AnswersOnCopies (interpreters ++ [interpreter]) store programs answers ->
      AnswersOnCopies interpreters store programs answers
  | run {interpreters store index interpreter program report behind programs answers} :
      interpreters[index]? = some interpreter ->
      program.run (interpreter.machine store) = (report, behind) ->
      AnswersOnCopies (interpreters.set index behind.interpreter) behind.toStore programs
        answers ->
      AnswersOnCopies interpreters store (program :: programs)
        ((report, behind.toStore) :: answers)

theorem samePlace_run (program : Program) (machine : Machine) :
    SamePlace machine (program.run machine).2 :=
  runStatements_keeps samePlace_preserved none program.statements machine

/-- The interpreter behind a program is the one before it. -/
theorem Interpreter.interpreter_run (interpreter : Interpreter) (program : Program)
    (store : Store) : (program.run (interpreter.machine store)).2.interpreter = interpreter := by
  have place := samePlace_run program (interpreter.machine store)
  rw [Machine.interpreter, place.scope, place.depth]
  rfl

/-- As long as all interpreters are copies of one, programs are answered as that one
answers them. -/
theorem AnswersOnCopies.eq {interpreters : List Interpreter} {store : Store}
    {programs : List Program} {answers : List ProgramAnswer}
    (answered : AnswersOnCopies interpreters store programs answers) {original : Interpreter}
    (copies : ∀ copy ∈ interpreters, copy = original) :
    answers = original.answers store programs := by
  induction answered with
  | nil => rfl
  | clone listed _ ih =>
      refine ih fun copy member => ?_
      rcases List.mem_append.mp member with earlier | newest
      · exact copies copy earlier
      · rw [List.mem_singleton.mp newest]
        exact copies _ listed
  | @run _ store _ interpreter program _ behind _ _ listed ended _ ih =>
      obtain rfl := copies interpreter (List.mem_of_getElem? listed)
      have same : behind.interpreter = interpreter := by
        have restored := interpreter.interpreter_run program store
        rwa [ended] at restored
      have later := ih fun copy member => by
        rcases List.mem_or_eq_of_mem_set member with earlier | changed
        · exact copies copy earlier
        · exact changed.trans same
      rw [Interpreter.answers, ended, later]
      dsimp only
      rw [same]

/-- One interpreter alone is enough to answer programs. -/
theorem Interpreter.answersOnCopies_answers (interpreter : Interpreter) (store : Store)
    (programs : List Program) :
    AnswersOnCopies [interpreter] store programs (interpreter.answers store programs) := by
  induction programs generalizing interpreter store with
  | nil => exact .nil
  | cons program later ih =>
      have listed : [interpreter][0]? = some interpreter := rfl
      exact .run listed rfl (ih _ _)

/-- No program and no call, however it ends, leaves the interpreter in another frame or
at another depth than before; and this is so of the calls that a program makes, of which
any number may be left.  So when programs are run one after another, each of them on an
interpreter or on any copy of it that was made in between, or on a copy of a copy, the
reports and the stores behind them are those of the interpreter alone. -/
theorem interpreter_is_restored :
    (∀ (program : Program) (machine : Machine),
      (program.run machine).2.scope = machine.scope ∧
        (program.run machine).2.depth = machine.depth) ∧
    (∀ (callable : Callable) (arguments : List Value) (machine : Machine),
      (callable.callOn arguments machine).2.scope = machine.scope ∧
        (callable.callOn arguments machine).2.depth = machine.depth) ∧
    (∀ (levels : Nat) (callable : Callable) (arguments : List Value) (machine : Machine),
      (machineOf (callWithin levels callable arguments machine)).scope = machine.scope ∧
        (machineOf (callWithin levels callable arguments machine)).depth = machine.depth) ∧
    (∀ (interpreter : Interpreter) (store : Store) (programs : List Program)
      (answers : List ProgramAnswer),
      AnswersOnCopies [interpreter] store programs answers ↔
        answers = interpreter.answers store programs) := by
  refine ⟨?_, ?_, ?_, ?_⟩
  · intro program machine
    have place := samePlace_run program machine
    exact ⟨place.scope, place.depth⟩
  · intro callable arguments machine
    have place := callOn_keeps samePlace_preserved callable arguments machine
    exact ⟨place.scope, place.depth⟩
  · intro levels callable arguments machine
    have place := callWithin_inherits samePlace_preserved.inherited levels callable arguments machine
    exact ⟨place.scope, place.depth⟩
  · intro interpreter store programs answers
    constructor
    · intro answered
      exact answered.eq fun copy member => List.mem_singleton.mp member
    · rintro rfl
      exact interpreter.answersOnCopies_answers store programs

end MonkeyLang
