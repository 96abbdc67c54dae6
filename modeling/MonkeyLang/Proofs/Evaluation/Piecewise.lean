import MonkeyLang.Proofs.Evaluation.FullSink
import MonkeyLang.Proofs.Evaluation.Tokens
import MonkeyLang.Proofs.Grammar.Joined

namespace MonkeyLang

/-!
# Programs run piece by piece

A source that ends with a semicolon outside of all blocks can be joined to another one,
and the whole is read as the statements of the one and then those of the other.  Run as a
whole they do what they do when they are run one after the other on the same interpreter.
The first piece leaves the machine as the whole has it in its middle, calls and frames
included; where it ends early, by a `return` or by a failure, the whole ends there too.

The statements of the second piece stand at other places in the whole.  Their tokens are
therefore others, and so are those of the functions that they make, which no run shows.
-/

/-- Whether a program ends before its statements do, as one of them returns or fails. -/
def Program.endsEarly (program : Program) (machine : Machine) : Bool :=
  match executeAll Callable.nestedCall none program.statements machine with
  | .ok _ _ => false
  | .error _ _ => true

/-- The bytes that a program adds to those that a sink took already. -/
def Program.output (program : Program) (machine : Machine) : List UInt8 :=
  (program.run machine).2.sink.bytes.drop machine.sink.bytes.length

/-! ## Statements one after another -/

section

variable {last value : Option Value} {statement : Statement} {front behind : List Statement}
  {machine between after : Machine} {exit : Exit}

theorem executeAll_of_ok (ended : statement.execute machine = .ok value between) :
    executeAll Callable.nestedCall last (statement :: behind) machine =
      executeAll Callable.nestedCall value behind between :=
  Run.bind_of_ok ended

theorem executeAll_of_error (ended : statement.execute machine = .error exit after) :
    executeAll Callable.nestedCall last (statement :: behind) machine = .error exit after :=
  Run.bind_of_error ended

/-- Behind statements that do not end early, the others are executed. -/
theorem runStatements_append_of_ok
    (made : executeAll Callable.nestedCall last front machine = .ok value after) :
    runStatements last (front ++ behind) machine = runStatements value behind after := by
  induction front generalizing last machine with
  | nil =>
      cases made
      rfl
  | cons statement later ih =>
      rw [List.cons_append]
      cases ended : statement.execute machine with
      | ok answer between =>
          rw [executeAll_of_ok ended] at made
          rw [runStatements_of_ok ended]
          exact ih made
      | error exit between =>
          rw [executeAll_of_error ended] at made
          cases made

/-- Behind a statement that returns or fails, nothing is executed. -/
theorem runStatements_append_of_error
    (made : executeAll Callable.nestedCall last front machine = .error exit after) :
    runStatements last (front ++ behind) machine = runStatements last front machine := by
  induction front generalizing last machine with
  | nil => cases made
  | cons statement later ih =>
      rw [List.cons_append]
      cases ended : statement.execute machine with
      | ok answer between =>
          rw [executeAll_of_ok ended] at made
          rw [runStatements_of_ok ended, runStatements_of_ok ended]
          exact ih made
      | error exit between =>
          cases exit with
          | returned answer => rw [runStatements_of_returned ended, runStatements_of_returned ended]
          | failed failure => rw [runStatements_of_failed ended, runStatements_of_failed ended]

/-- An error names the first statement that fails: the statements in front of it are
executed to their ends, and it fails on the machine that they leave. -/
theorem runStatements_eq_error_iff {statements : List Statement} {error : RuntimeError} :
    runStatements last statements machine = (.error error, after) ↔
      ∃ front behind value between, statements = front ++ error.statement :: behind ∧
        executeAll Callable.nestedCall last front machine = .ok value between ∧
        error.statement.execute between = .error (.failed error.failure) after := by
  constructor
  · intro ran
    induction statements generalizing last machine with
    | nil => cases ran
    | cons statement later ih =>
        cases ended : statement.execute machine with
        | ok answer between =>
            rw [runStatements_of_ok ended] at ran
            rcases ih ran with ⟨front, behind, value, inner, rfl, made, fails⟩
            exact ⟨statement :: front, behind, value, inner, rfl,
              (executeAll_of_ok ended).trans made, fails⟩
        | error exit between =>
            cases exit with
            | returned answer =>
                rw [runStatements_of_returned ended] at ran
                cases ran
            | failed failure =>
                rw [runStatements_of_failed ended] at ran
                cases ran
                exact ⟨[], later, last, machine, rfl, rfl, ended⟩
  · rintro ⟨front, behind, value, between, rfl, made, fails⟩
    rw [runStatements_append_of_ok made, runStatements_of_failed fails]

/-- Only a program without statements has the value of what came before it. -/
theorem runStatements_eq_of_ne_nil (inhabited : behind ≠ []) (last last' : Option Value) :
    runStatements last behind machine = runStatements last' behind machine := by
  rcases List.exists_cons_of_ne_nil inhabited with ⟨statement, later, rfl⟩
  rw [runStatements, runStatements]

end

namespace Program

variable {program : Program} {machine : Machine}

theorem exists_of_endsEarly (early : program.endsEarly machine = true) :
    ∃ exit after, executeAll Callable.nestedCall none program.statements machine =
      .error exit after := by
  unfold endsEarly at early
  split at early
  · cases early
  · exact ⟨_, _, ‹_›⟩

/-- A program that does not end early ends with the value of its last statement, and the
others that may be put behind it start on the machine that it leaves. -/
theorem exists_of_not_endsEarly (through : program.endsEarly machine = false) :
    ∃ value, ∀ behind, runStatements none (program.statements ++ behind) machine =
      runStatements value behind (program.run machine).2 := by
  unfold endsEarly at through
  split at through
  · next value after made =>
      have ran : program.run machine = (.ok value, after) := by
        rw [run, ← List.append_nil program.statements, runStatements_append_of_ok made,
          runStatements]
      rw [ran]
      exact ⟨value, fun behind => runStatements_append_of_ok made⟩
  · cases through

/-- Programs that differ in tokens only end early on the same machines. -/
theorem endsEarly_eq {first second : Program} (same : first.erased = second.erased)
    (machine : Machine) : first.endsEarly machine = second.endsEarly machine := by
  have bare (program : Program) :
      program.endsEarly machine = program.erased.endsEarly machine := by
    let between := upToTokensSince machine.sink.prints
    have inStep : between.Results () between.OptionalValues
        (executeAll Callable.nestedCall none program.statements machine)
        (executeAll Callable.nestedCall none program.erased.statements machine) :=
      Correspondence.executeAll_inStep upToTokensSince_lawful
        (Correspondence.callWithin_inStep upToTokensSince_lawful maximumCallDepth)
        (statementsResemble_eraseStatements program.statements) .none machine machine
        (.self machine)
    unfold endsEarly
    generalize executeAll _ none program.statements machine = ending at inStep ⊢
    generalize executeAll _ none program.erased.statements machine = ending' at inStep ⊢
    cases inStep <;> rfl
  rw [bare first, bare second, same]

theorem run_keeps_adds (program : Program) (machine : Machine) :
    Adds machine (program.run machine).2 :=
  runStatements_keeps adds_preserved none program.statements machine

/-- A sink without a limit keeps what it took, and takes the output of a program. -/
theorem bytes_run (unlimited : machine.sink.room = none) :
    (program.run machine).2.sink.bytes = machine.sink.bytes ++ program.output machine := by
  rcases (program.run_keeps_adds machine unlimited).2 with ⟨written, shape⟩
  rw [output, ← shape, List.drop_left]

end Program

/-! ## Programs that are joined -/

section

variable {program program' whole : Program}
  (same : whole.unplaced = (⟨program.statements ++ program'.statements⟩ : Program).unplaced)
include same

/-- The whole starts with the statements of the first program, at the same places or at
others. -/
theorem Program.exists_front_of_joined :
    ∃ front behind, whole.statements = front ++ behind ∧
      Program.unplaced ⟨front⟩ = program.unplaced := by
  have parts : whole.statements.map Statement.unplaced =
      program.statements.map Statement.unplaced ++ program'.statements.map Statement.unplaced := by
    rw [← List.map_append, ← unplaceStatements_eq_map, ← unplaceStatements_eq_map]
    exact congrArg Program.statements same
  rcases List.map_eq_append_iff.mp parts with ⟨front, behind, shape, one, _⟩
  refine ⟨front, behind, shape, ?_⟩
  rw [Program.unplaced, Program.unplaced, unplaceStatements_eq_map, unplaceStatements_eq_map, one]

/-- Where the first program ends early, nothing behind it is executed. -/
theorem Program.run_joined_of_endsEarly {machine : Machine}
    (early : program.endsEarly machine = true) :
    ∃ front behind, whole.statements = front ++ behind ∧
      Program.unplaced ⟨front⟩ = program.unplaced ∧
      ∀ others, Program.run ⟨front ++ others⟩ machine = Program.run ⟨front⟩ machine := by
  rcases exists_front_of_joined same with ⟨front, behind, shape, alike⟩
  have early' : Program.endsEarly ⟨front⟩ machine = true := by
    rw [endsEarly_eq (erased_eq_of_unplaced_eq alike), early]
  rcases exists_of_endsEarly early' with ⟨exit, after, made⟩
  exact ⟨front, behind, shape, alike, fun others => runStatements_append_of_error made⟩

/-- Where it does not, the second program runs behind it. -/
theorem Program.run_joined_of_not_endsEarly (inhabited : program'.statements ≠ [])
    {machine : Machine} (through : program.endsEarly machine = false) :
    observe (whole.run machine).1 = observe (program'.run (program.run machine).2).1 ∧
      ShowTheSame (whole.run machine).2 (program'.run (program.run machine).2).2 := by
  rcases exists_of_not_endsEarly through with ⟨value, onward⟩
  have ran : Program.run ⟨program.statements ++ program'.statements⟩ machine =
      program'.run (program.run machine).2 := by
    rw [run, run, onward, runStatements_eq_of_ne_nil inhabited value none]
  rw [← ran]
  exact run_alike (erased_eq_of_unplaced_eq same) machine

end

/-- Two programs whose sources are joined, run one after the other and as one.  The first
source is a program that ends with a semicolon outside of all blocks, and the second one
has a statement; the machine is any one whose sink has no limit.

Where the first program ends early, by a `return` or a failure, the whole shows the same
as the first program alone: the same report, the same output and the same bindings.  It
does so whatever stands behind the statements of the first program, so nothing of the
second is executed.  Otherwise the whole shows what the second program shows on the
machine that the first one leaves, and its output is that of the first followed by that of
the second.

The statement that an error of any program names is the first one at the top level that
fails: those in front of it are executed to their ends. -/
theorem running_piecewise {source source' : String} {program program' : Program}
    (accepted : parse source = .ok program) (complete : IsCompleteSource source)
    (accepted' : parse source' = .ok program') (inhabited : program'.statements ≠ [])
    {machine : Machine} (unlimited : machine.sink.room = none) :
    (∃ whole : Program, parse (source ++ source') = .ok whole ∧
      (program.endsEarly machine = true ->
        observe (whole.run machine).1 = observe (program.run machine).1 ∧
        whole.output machine = program.output machine ∧
        ShowTheSame (whole.run machine).2 (program.run machine).2 ∧
        ∃ front behind, whole.statements = front ++ behind ∧
          Program.unplaced ⟨front⟩ = program.unplaced ∧
          ∀ others, Program.run ⟨front ++ others⟩ machine = whole.run machine) ∧
      (program.endsEarly machine = false ->
        observe (whole.run machine).1 = observe (program'.run (program.run machine).2).1 ∧
        whole.output machine =
          program.output machine ++ program'.output (program.run machine).2 ∧
        ShowTheSame (whole.run machine).2 (program'.run (program.run machine).2).2)) ∧
    ∀ (any : Program) (start : Machine) (error : RuntimeError) (after : Machine),
      any.run start = (.error error, after) ↔
        ∃ front behind value between, any.statements = front ++ error.statement :: behind ∧
          executeAll Callable.nestedCall none front start = .ok value between ∧
          error.statement.execute between = .error (.failed error.failure) after := by
  refine ⟨?_, fun any start error after => runStatements_eq_error_iff⟩
  rcases exists_parse_append accepted complete accepted' with ⟨whole, read, same⟩
  refine ⟨whole, read, ?_, ?_⟩
  · intro early
    -- The whole runs its own copy of the first statements, which stand at other places.
    rcases Program.run_joined_of_endsEarly same early with ⟨front, behind, shape, alike, cut⟩
    have ran : whole.run machine = Program.run ⟨front⟩ machine := by
      rw [← cut behind, ← shape]
    rcases Program.run_alike (Program.erased_eq_of_unplaced_eq alike) machine with ⟨report, shown⟩
    refine ⟨?_, ?_, ?_, front, behind, shape, alike, ?_⟩
    · rw [ran, report]
    · rw [Program.output, Program.output, ran, shown.bytes]
    · rw [ran]
      exact shown
    · intro others
      rw [cut others, ran]
  · intro through
    rcases Program.run_joined_of_not_endsEarly same inhabited through with ⟨report, shown⟩
    refine ⟨report, ?_, shown⟩
    have between := (program.run_keeps_adds machine unlimited).1
    rw [Program.output, shown.bytes, Program.bytes_run between, Program.bytes_run unlimited,
      List.append_assoc, List.drop_left]

/-- A program that binds a function and prints a number. -/
def counterSource : String :=
  "let n = 1; let add = fn(x) \x7b puts(x + n); x + n; \x7d; puts(n);"

/-- A program that binds a name of the other one anew and calls its function. -/
def callingSource : String := " let n = 10; add(5)"

/-- A program that ends with a `return` before its last statement. -/
def returningSource : String := "let n = 1; return n; puts(n);"

/-- The program of a source. -/
def programOf (source : String) : Program := (Reading.ofSource source).program

/-- Joined, a function of the first source sees what the second one binds, and behind a
`return` of the first source nothing of the second is executed. -/
theorem running_piecewise_of_counter :
    (∃ whole, parse (counterSource ++ callingSource) = .ok whole ∧
      observe (whole.run (Machine.fresh none)).1 = .value .integer "15" ∧
      whole.output (Machine.fresh none) = Text.bytes "1\n" ++ Text.bytes "15\n") ∧
    (∃ whole, parse (returningSource ++ callingSource) = .ok whole ∧
      observe (whole.run (Machine.fresh none)).1 = .value .integer "1" ∧
      whole.output (Machine.fresh none) = []) := by
  have read (source : String) (clean : (Reading.ofSource source).diagnostics = []) :
      parse source = .ok (programOf source) :=
    (Reading.result_eq_ok_iff _ _).mpr ⟨(Trace.diagnostics_eq_nil_iff [] _).mp clean, rfl⟩
  have counter := read counterSource (by decide +kernel)
  have returning := read returningSource (by decide +kernel)
  have calling := read callingSource (by decide +kernel)
  have inhabited : (programOf callingSource).statements ≠ [] := by decide +kernel
  constructor
  · have complete : IsCompleteSource counterSource :=
      ⟨by decide +kernel, by unfold IsBalanced; decide +kernel⟩
    rcases (running_piecewise counter complete calling inhabited
      (show (Machine.fresh none).sink.room = none from rfl)).1 with ⟨whole, made, -, onward⟩
    rcases onward (by decide +kernel) with ⟨report, written, -⟩
    exact ⟨whole, made, report.trans (by decide +kernel), written.trans (by decide +kernel)⟩
  · have complete : IsCompleteSource returningSource :=
      ⟨by decide +kernel, by unfold IsBalanced; decide +kernel⟩
    rcases (running_piecewise returning complete calling inhabited
      (show (Machine.fresh none).sink.room = none from rfl)).1 with ⟨whole, made, ended, -⟩
    rcases ended (by decide +kernel) with ⟨report, written, -⟩
    exact ⟨whole, made, report.trans (by decide +kernel), written.trans (by decide +kernel)⟩

end MonkeyLang
