import MonkeyLang.Grammar.Parse
import MonkeyLang.Proofs.Evaluation.Observation
import MonkeyLang.Proofs.Evaluation.RecastRuns
import MonkeyLang.Proofs.Syntax.Unplaced

namespace MonkeyLang

/-!
# Nothing behind a `return` runs

A `return` ends the call or the program around it, whatever branches, operands, arguments
and bindings it stands in.  What stands behind it in its list of statements is therefore
never executed, and two programs that differ there only cannot be told apart by running
them: the same values are printed, and the same value or error is what they end with.  The
one trace of the difference is in the functions among these values, whose bodies are parts
of the programs and differ in the same way.

Programs are compared without what stands behind a `return`, and with their tokens changed
as one likes: not at all, or for tokens without places if the programs are read from two
sources, in which the same things stand at different places.
-/

/-- Programs that are the same without what stands behind a `return` end in the same way and
print the same values, but for what stands behind a `return` in the bodies of functions. -/
theorem nothing_runs_behind_return (token : Token -> Token) {first second : Program}
    (same : first.trimmed token = second.trimmed token) :
    let form := Recasting.upToReturns token
    let one := first.run (Machine.fresh none)
    let other := second.run (Machine.fresh none)
    form.report one.1 = form.report other.1 ∧
      one.2.sink.values.map form.value = other.2.sink.values.map form.value := by
  intro form one other
  have left := form.run_program Function.injective_id rfl first
  have right := form.run_program Function.injective_id rfl second
  have trimmed : form.program first = form.program second := same
  rw [trimmed] at left
  exact ⟨left.1.symm.trans right.1, left.2.symm.trans right.2⟩

/-- A program in which something stands behind a `return` in a branch, in the body of a
function and in its own list. -/
def longProgram : Program :=
  (Reading.ofSource ("let f = fn(x) { if (x) { return x; puts(2) } return 3; f(x) }; " ++
    "puts(f(0 > 1)); return f; puts(4)")).program

/-- The same program without this. -/
def shortProgram : Program :=
  (Reading.ofSource ("let f = fn(x) { if (x) { return x } return 3 }; " ++
    "puts(f(0 > 1)); return f")).program

/-- Both programs print the same number and end with a function. -/
theorem nothing_runs_behind_return_of_function :
    longProgram.trimmed Token.unplaced = shortProgram.trimmed Token.unplaced ∧
      longProgram.statements.length = 4 ∧ shortProgram.statements.length = 3 ∧
      (longProgram.run (Machine.fresh none)).2.sink.values.map
        (Recasting.upToReturns Token.unplaced).value = [.integer 3] ∧
      observe ((Recasting.upToReturns Token.unplaced).report
        (longProgram.run (Machine.fresh none)).1) =
          .value .function "fn(x) { if (x) { return x; }; return 3; }" := by
  have same : longProgram.trimmed Token.unplaced = shortProgram.trimmed Token.unplaced := by
    decide +kernel
  rcases nothing_runs_behind_return Token.unplaced same with ⟨report, values⟩
  refine ⟨same, by decide +kernel, by decide +kernel, values.trans (by decide +kernel), ?_⟩
  rw [report]
  decide +kernel

end MonkeyLang
