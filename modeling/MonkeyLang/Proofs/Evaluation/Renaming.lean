import Mathlib.Logic.Equiv.Basic
import MonkeyLang.Grammar.Parse
import MonkeyLang.Proofs.Evaluation.Observation
import MonkeyLang.Proofs.Evaluation.RecastRuns

namespace MonkeyLang

/-!
# Names are only names

Putting other names in the place of the names of a program changes what it does in these
names only, as long as different names stay different and the built-in function keeps its
name.  Names are compared with each other and are shown, and nothing else is ever done with
them; so a look-up under the other name goes through the same frames to the same binding,
whether it is that of an outer frame, of a parameter that is repeated, or of a global name
that was bound behind the function that reads it.

Which tokens the trees keep makes no difference either, and so these may change with the
names.
-/

/-- A program under other names ends in the same way under these names, and prints the same
values under them. -/
theorem renaming_changes_only_names (name : String -> String)
    (injective : Function.Injective name) (fixed : name "puts" = "puts") (token : Token -> Token)
    (program : Program) :
    let form := Recasting.ofNames name token
    let before := program.run (Machine.fresh none)
    let behind := (program.renamed name token).run (Machine.fresh none)
    behind.1 = form.report before.1 ∧
      behind.2.sink.values = before.2.sink.values.map form.value :=
  (Recasting.ofNames name token).run_program injective fixed program

/-- A program in which names of one function are names of the global frame as well. -/
def overlappingProgram : Program :=
  (Reading.ofSource "let x = 1; let f = fn(y, y) { let x = y; x }; puts(f(2, 3)); y").program

/-- With two names of it exchanged it prints the same number, and misses the other name. -/
theorem renaming_changes_only_names_of_exchanged :
    let exchange := Equiv.swap "x" "y"
    let behind := (overlappingProgram.renamed exchange id).run (Machine.fresh none)
    Function.Injective exchange ∧ exchange "puts" = "puts" ∧
      behind.2.sink.values = [.integer 3] ∧
      observe behind.1 =
        .error .unknownIdentifier "identifier not found: x" "identifier not found: x (in `x`)" := by
  intro exchange behind
  have fixed : exchange "puts" = "puts" := by decide +kernel
  rcases renaming_changes_only_names exchange exchange.injective fixed id overlappingProgram with
    ⟨report, values⟩
  refine ⟨exchange.injective, fixed, values.trans (by decide +kernel), ?_⟩
  rw [report]
  decide +kernel

end MonkeyLang
