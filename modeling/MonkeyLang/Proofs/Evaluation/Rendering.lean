import MonkeyLang.Proofs.Evaluation.Renumbering
import MonkeyLang.Proofs.Syntax.RoundTrip

namespace MonkeyLang

/-!
# The meaning of the canonical text

A program and what is read back from its text differ in their tokens only.  So do
the functions that they make when they run, and nothing that a run looks at or
shows depends on a token: not the text of a function, which is written out again
from its tree, and not the statement that an error names.  The two runs therefore
show the same.
-/

/-- Machines that agree up to tokens, whatever the numbers of their frames and of
their functions are. -/
def Matching.MachinesAgree (first second : Machine) : Prop :=
  ∃ renumbering, MachinesInStep [] [] renumbering first second

/-- A fresh machine has no token in it. -/
theorem Matching.MachinesAgree.fresh (room : Option Nat) :
    Matching.MachinesAgree (Machine.fresh room) (Machine.fresh room) := by
  let bare : Store := { sink := { room := room } }
  exact ⟨_, .new (.empty bare bare rfl)⟩

theorem Matching.MachinesAgree.bytes_eq {first second : Machine}
    (agree : Matching.MachinesAgree first second) : first.sink.bytes = second.sink.bytes := by
  rcases agree with ⟨_, inStep⟩
  rcases inStep.sinks.bytes with ⟨written, bytes, bytes'⟩
  rw [bytes, bytes']

/-- Programs that differ in tokens only show the same when they run. -/
theorem Program.observe_run_eq {first second : Program}
    (shape : StatementsResemble Eq first.statements second.statements)
    {machine machine' : Machine} (agree : Matching.MachinesAgree machine machine') :
    observe (first.run machine).1 = observe (second.run machine').1 ∧
      Matching.MachinesAgree (first.run machine).2 (second.run machine').2 := by
  rcases agree with ⟨_, inStep⟩
  rcases runStatements_agree shape inStep with ⟨_, _, reports, machines⟩
  exact ⟨Correspondence.Reports.observe_eq rfl reports, _, machines⟩

/-- A program that was read from a source, and what is read back from its text,
show the same on a fresh machine: they end with no value, with values of the same
kind and text, or with errors of the same kind, text and message, and print the
same bytes. -/
theorem observe_run_reread_eq (source : String) (program : Program)
    (accepted : parse source = .ok program) :
    ∃ again, parse program.render = .ok again ∧
      observe (again.run (Machine.fresh none)).1 = observe (program.run (Machine.fresh none)).1 ∧
      (again.run (Machine.fresh none)).2.sink.bytes =
        (program.run (Machine.fresh none)).2.sink.bytes := by
  rcases program.parse_render_of_parse accepted with ⟨again, reread, same⟩
  have fresh := Matching.MachinesAgree.fresh none
  have first := @Program.observe_run_eq program program.erased
    (statementsResemble_eraseStatements program.statements) _ _ fresh
  have second := @Program.observe_run_eq again again.erased
    (statementsResemble_eraseStatements again.statements) _ _ fresh
  refine ⟨again, reread, ?_, ?_⟩
  · rw [second.1, same, first.1]
  · rw [second.2.bytes_eq, same, first.2.bytes_eq]

/-- A program that prints a function and then calls it with too few arguments. -/
theorem observe_run_reread_eq_of_printed_function :
    ∃ program, parse "let f = fn(x) { x } puts(f); f()" = .ok program ∧
      ∃ again, parse program.render = .ok again ∧
        observe (again.run (Machine.fresh none)).1 = observe (program.run (Machine.fresh none)).1 ∧
        (again.run (Machine.fresh none)).2.sink.bytes =
          (program.run (Machine.fresh none)).2.sink.bytes := by
  have accepted : ∃ program, parse "let f = fn(x) { x } puts(f); f()" = .ok program :=
    exists_parse_eq_ok (by decide +kernel)
  rcases accepted with ⟨program, shape⟩
  exact ⟨program, shape, observe_run_reread_eq _ program shape⟩

end MonkeyLang
