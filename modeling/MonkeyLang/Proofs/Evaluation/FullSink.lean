import MonkeyLang.Proofs.Evaluation.Keeping
import MonkeyLang.Proofs.Evaluation.Printing
import MonkeyLang.Proofs.Syntax.Erasure

namespace MonkeyLang

/-!
# Runs cut short by a full sink

A sink with a limit takes bytes up to it and not one more.  Here a run is compared
with the same run on a machine that differs in this limit alone.  The room that is
left follows from the limit and from the bytes that were taken, so as long as the
limit holds the machines go on differing in nothing else, and every step of one is a
step of the other.  The step that would take a byte beyond the limit takes the bytes
before it and fails; no way to put runs together makes more steps behind a failure or
turns a failure into an answer, and so this one reaches the end of the program.

What carries the argument is that bytes are only ever added: were a byte beyond the
limit taken back later, the whole run could end within the limit although the other
one was cut.
-/

/-- A sink that has room for a number of bytes in all, with those it took already. -/
def Sink.limited (limit : Nat) (sink : Sink) : Sink :=
  { sink with room := some (limit - sink.bytes.length) }

/-- A machine with a sink that has room for a number of bytes in all. -/
def Machine.limited (limit : Nat) (machine : Machine) : Machine :=
  { machine with sink := machine.sink.limited limit }

namespace Machine

variable (limit : Nat) (machine : Machine)

@[simp]
theorem frames_limited : (machine.limited limit).frames = machine.frames := rfl

@[simp]
theorem scope_limited : (machine.limited limit).scope = machine.scope := rfl

@[simp]
theorem depth_limited : (machine.limited limit).depth = machine.depth := rfl

@[simp]
theorem sink_limited : (machine.limited limit).sink = machine.sink.limited limit := rfl

end Machine

/-! ## One line -/

namespace Sink

theorem bytes_cons (room : Option Nat) (print : Print) (prints : List Print) :
    Sink.bytes ⟨room, print :: prints⟩ = bytesOf prints ++ print.bytes := by
  simp [Sink.bytes, bytesOf]

theorem bytes_limited (limit : Nat) (sink : Sink) : (sink.limited limit).bytes = sink.bytes := by
  simp [Sink.limited, Sink.bytes]

/-- A sink without a limit takes lines as a whole. -/
theorem accept_of_none {sink : Sink} (unlimited : sink.room = none) (value : Value) :
    sink.accept value = (true, ⟨none, ⟨value, value.line.utf8ByteSize⟩ :: sink.prints⟩) := by
  rw [Sink.accept, unlimited]

theorem length_bytes_line (value : Value) :
    (Text.bytes value.line).length = value.line.utf8ByteSize := rfl

theorem bytes_accept_of_none {sink : Sink} (unlimited : sink.room = none) (value : Value) :
    (sink.accept value).2.bytes = sink.bytes ++ Text.bytes value.line := by
  rw [accept_of_none unlimited, bytes_cons, Print.bytes, List.take_of_length_le]
  · rfl
  · exact Nat.le_of_eq (length_bytes_line value)

variable {limit : Nat} {sink : Sink} {value : Value}

/-- A line within the limit is taken as if there were none. -/
theorem accept_limited_of_le (unlimited : sink.room = none)
    (within : (sink.accept value).2.bytes.length ≤ limit) :
    (sink.limited limit).accept value = (true, (sink.accept value).2.limited limit) := by
  have total := congrArg List.length (bytes_accept_of_none unlimited value)
  rw [List.length_append, length_bytes_line] at total
  have fits : value.line.utf8ByteSize ≤ limit - sink.bytes.length := by omega
  have left : limit - sink.bytes.length - value.line.utf8ByteSize =
      limit - (sink.accept value).2.bytes.length := by omega
  rw [Sink.accept]
  dsimp only [Sink.limited]
  rw [decide_eq_true fits, Nat.min_eq_left fits, left, accept_of_none unlimited]

/-- A line beyond the limit is cut there and not taken as a whole. -/
theorem accept_limited_of_lt (unlimited : sink.room = none)
    (within : sink.bytes.length ≤ limit) (beyond : limit < (sink.accept value).2.bytes.length) :
    ((sink.limited limit).accept value).1 = false ∧
      ((sink.limited limit).accept value).2.bytes = (sink.accept value).2.bytes.take limit := by
  have total := congrArg List.length (bytes_accept_of_none unlimited value)
  rw [List.length_append, length_bytes_line] at total
  have exceeds : limit - sink.bytes.length < value.line.utf8ByteSize := by omega
  constructor
  · exact decide_eq_false (Nat.not_le_of_lt exceeds)
  · rw [bytes_accept_of_none unlimited, List.take_append, List.take_of_length_le within]
    change Sink.bytes ⟨_, ⟨value, min _ _⟩ :: sink.prints⟩ = _
    rw [bytes_cons, Nat.min_eq_right (Nat.le_of_lt exceeds)]
    rfl

end Sink

/-! ## Runs -/

/-- Machines of which the second took what the first took and perhaps more, as long as
there is no limit. -/
def Adds (first second : Machine) : Prop :=
  first.sink.room = none ->
    second.sink.room = none ∧ first.sink.bytes <+: second.sink.bytes

theorem adds_of_sink_eq {first second : Machine} (same : second.sink = first.sink) :
    Adds first second := by
  intro unlimited
  rw [same]
  exact ⟨unlimited, List.prefix_rfl⟩

theorem adds_preserved : Preserved Adds where
  refl _ := adds_of_sink_eq rfl
  trans first second unlimited :=
    ⟨(second (first unlimited).1).1,
      (first unlimited).2.trans (second (first unlimited).1).2⟩
  declare _ _ _ := adds_of_sink_eq rfl
  close _ _ _ := adds_of_sink_eq rfl
  print value machine unlimited := by
    rw [machineOf_print]
    refine ⟨Sink.accept_room_of_none unlimited value, ?_⟩
    rw [Sink.bytes_accept_of_none unlimited]
    apply List.prefix_append
  within inside := inside
  deeper _ inside := inside

theorem take_eq_of_isPrefix {first second : List UInt8} (more : first <+: second) {limit : Nat}
    (within : limit ≤ first.length) : first.take limit = second.take limit := by
  rcases more with ⟨_, rfl⟩
  rw [List.take_append_of_le_length within]

/-- How a run ends when its machine has a limit, given how it ends without: in the same
way as long as the limit holds, and otherwise with a failure, the bytes being those up
to the limit. -/
inductive CutAt {α : Type} (limit : Nat) :
    EStateM.Result Exit Machine α -> EStateM.Result Exit Machine α -> Prop
  | ok {answer after} : after.sink.bytes.length ≤ limit ->
      CutAt limit (.ok answer after) (.ok answer (after.limited limit))
  | error {exit after} : after.sink.bytes.length ≤ limit ->
      CutAt limit (.error exit after) (.error exit (after.limited limit))
  | full {whole cut} : limit < (machineOf whole).sink.bytes.length ->
      cut.sink.bytes = (machineOf whole).sink.bytes.take limit ->
      CutAt limit whole (.error (.failed .sinkFull) cut)

/-- A run that adds to what a sink took, and that a limit cuts in this way. -/
structure Run.IsCut (limit : Nat) {α : Type} (run : Run α) : Prop where
  adds : run.Keeps Adds
  cutAt : ∀ machine, machine.sink.room = none -> machine.sink.bytes.length ≤ limit ->
    CutAt limit (run machine) (run (machine.limited limit))

namespace Run.IsCut

variable {limit : Nat}

theorem pure {α : Type} (answer : α) : (Pure.pure answer : Run α).IsCut limit where
  adds := adds_preserved.inherited.pure answer
  cutAt _ _ within := .ok within

theorem exit {α : Type} (exit : Exit) : (throw exit : Run α).IsCut limit where
  adds := adds_preserved.inherited.exit exit
  cutAt _ _ within := .error within

theorem bind {α β : Type} {run : Run α} {next : α -> Run β} (first : run.IsCut limit)
    (second : ∀ answer, (next answer).IsCut limit) : (run >>= next).IsCut limit where
  adds := adds_preserved.bind first.adds fun answer => (second answer).adds
  cutAt machine unlimited within := by
    have added := first.adds machine unlimited
    have started := first.cutAt machine unlimited within
    cases made : run machine with
    | ok answer after =>
        rw [made, machineOf_ok] at added
        rw [made] at started
        rw [bind_of_ok made]
        generalize limitedRun : run (machine.limited limit) = ending at started
        cases started with
        | ok within =>
            rw [bind_of_ok limitedRun]
            exact (second answer).cutAt after added.1 within
        | full beyond taken =>
            -- What comes behind the failure only adds bytes to the whole run.
            rw [bind_of_error limitedRun]
            rw [machineOf_ok] at beyond taken
            have more := ((second answer).adds after added.1).2
            apply CutAt.full
            · exact Nat.lt_of_lt_of_le beyond more.length_le
            · rw [taken]
              exact take_eq_of_isPrefix more (Nat.le_of_lt beyond)
    | error exit after =>
        rw [made] at started
        rw [bind_of_error made]
        generalize limitedRun : run (machine.limited limit) = ending at started
        cases started with
        | error within =>
            rw [bind_of_error limitedRun]
            exact .error within
        | full beyond taken =>
            rw [bind_of_error limitedRun]
            exact .full beyond taken

theorem lookup (name : String) : (Run.lookup name).IsCut limit where
  adds := adds_preserved.lookup name
  cutAt machine _ within := by
    unfold Run.lookup
    rw [Machine.frames_limited, Machine.scope_limited]
    cases machine.frames.find? machine.scope name with
    | some value => exact .ok within
    | none => exact .error within

theorem declare (name : String) (value : Value) : (Run.declare name value).IsCut limit where
  adds := adds_preserved.declare name value
  cutAt _ _ within := .ok within

theorem close (parameters : List Identifier) (body : Block) :
    (Run.close parameters body).IsCut limit where
  adds := adds_preserved.close parameters body
  cutAt _ _ within := .ok within

theorem print (value : Value) : (Run.print value).IsCut limit where
  adds := adds_preserved.print value
  cutAt machine unlimited within := by
    have whole : Run.print value machine =
        .ok () { machine with sink := (machine.sink.accept value).2 } := by
      rw [Run.print_eq, Sink.accept_of_none unlimited, if_pos rfl]
    rw [whole, Run.print_eq, Machine.sink_limited]
    by_cases fits : (machine.sink.accept value).2.bytes.length ≤ limit
    · rw [Sink.accept_limited_of_le unlimited fits, if_pos rfl]
      exact .ok fits
    · have beyond := Nat.lt_of_not_le fits
      rcases Sink.accept_limited_of_lt unlimited within beyond with ⟨cut, taken⟩
      rw [cut, if_neg Bool.false_ne_true]
      exact .full beyond taken

theorem oneDeeper {run : Run Value} (inside : run.IsCut limit) : run.oneDeeper.IsCut limit where
  adds := adds_preserved.oneDeeper inside.adds
  cutAt machine unlimited within := by
    have started := inside.cutAt { machine with depth := machine.depth + 1 } unlimited within
    have same : ({ machine with depth := machine.depth + 1 } : Machine).limited limit =
        { machine.limited limit with depth := machine.depth + 1 } := rfl
    rw [same] at started
    unfold Run.oneDeeper
    rw [Machine.depth_limited]
    split
    · generalize run { machine with depth := machine.depth + 1 } = whole at started ⊢
      generalize run { machine.limited limit with depth := machine.depth + 1 } = ending
        at started ⊢
      cases started with
      | ok within => exact .ok within
      | error within => exact .error within
      | full beyond taken => cases whole <;> exact .full beyond taken
    · exact .error within

theorem inNewFrame {run : Run Value} (inside : run.IsCut limit) (frame : Frame) :
    (Run.inNewFrame frame run).IsCut limit where
  adds := adds_preserved.inNewFrame inside.adds frame
  cutAt machine unlimited within := by
    have started := inside.cutAt
      { machine with frames := machine.frames.push frame, scope := machine.frames.size }
      unlimited within
    have same :
        ({ machine with
          frames := machine.frames.push frame
          scope := machine.frames.size } : Machine).limited limit =
        { machine.limited limit with
          frames := (machine.limited limit).frames.push frame
          scope := (machine.limited limit).frames.size } := rfl
    rw [same] at started
    dsimp only [Run.inNewFrame]
    generalize run _ = whole at started ⊢
    generalize run { machine.limited limit with frames := _, scope := _ } = ending at started ⊢
    cases started with
    | ok within => exact .ok within
    | error within => exact .error within
    | full beyond taken => cases whole <;> exact .full beyond taken

theorem catchReturn {body : Run (Option Value)} (inside : body.IsCut limit) :
    (Run.catchReturn body).IsCut limit where
  adds := Preserved.catchReturn inside.adds
  cutAt machine unlimited within := by
    have started := inside.cutAt machine unlimited within
    unfold Run.catchReturn
    generalize body machine = whole at started ⊢
    generalize body (machine.limited limit) = ending at started ⊢
    cases started with
    | ok within => exact .ok within
    | @error exit _ within => cases exit with
      | returned value => exact .ok within
      | failed failure => exact .error within
    | full beyond taken => cases whole with
      | ok value after => exact .full beyond taken
      | error exit after => cases exit <;> exact .full beyond taken

end Run.IsCut

/-- A limit cuts evaluation as a whole. -/
theorem inherited_isCut (limit : Nat) : Inherited (Run.IsCut limit) where
  pure := .pure
  exit := .exit
  bind := .bind
  lookup := .lookup
  declare := .declare
  close := .close
  print := .print
  oneDeeper := .oneDeeper
  inNewFrame := .inNewFrame
  catchReturn := .catchReturn

/-! ## Programs -/

/-- Statements that are run on a machine take the byte behind a number of bytes during
one of them: at most that many were taken before it, and more behind it. -/
inductive TakesByteDuring (count : Nat) : List Statement -> Machine -> Statement -> Prop
  | here {statement later machine} : machine.sink.bytes.length ≤ count ->
      count < (machineOf (statement.execute machine)).sink.bytes.length ->
      TakesByteDuring count (statement :: later) machine statement
  | later {statement later machine value after found} :
      statement.execute machine = .ok value after ->
      TakesByteDuring count later after found ->
      TakesByteDuring count (statement :: later) machine found

theorem adds_of_execute {tree : Statement} {machine after : Machine} {value : Option Value}
    (made : tree.execute machine = .ok value after) : Adds machine after := by
  have added := Statement.execute_inherits adds_preserved.inherited tree machine
  rwa [made] at added

namespace TakesByteDuring

variable {count : Nat} {trees : List Statement} {machine : Machine} {found other : Statement}

theorem bytes_le (during : TakesByteDuring count trees machine found)
    (unlimited : machine.sink.room = none) : machine.sink.bytes.length ≤ count := by
  induction during with
  | here before _ => exact before
  | later made _ ih =>
      rcases adds_of_execute made unlimited with ⟨behind, more⟩
      exact Nat.le_trans more.length_le (ih behind)

/-- No byte is taken during two statements. -/
theorem unique (during : TakesByteDuring count trees machine found)
    (during' : TakesByteDuring count trees machine other)
    (unlimited : machine.sink.room = none) : other = found := by
  induction during with
  | here _ beyond =>
      cases during' with
      | here => rfl
      | later made during' =>
          rw [made] at beyond
          have within := during'.bytes_le (adds_of_execute made unlimited).1
          exact absurd within (Nat.not_le_of_lt beyond)
  | later made during ih =>
      have behind := (adds_of_execute made unlimited).1
      cases during' with
      | here _ beyond =>
          rw [made] at beyond
          exact absurd (during.bytes_le behind) (Nat.not_le_of_lt beyond)
      | later made' during' =>
          cases made.symm.trans made'
          exact ih during' behind

end TakesByteDuring

/-- How a program ends when its machine has a limit, given how it ends without. -/
inductive ProgramCutAt (limit : Nat) (trees : List Statement) (machine : Machine) :
    Except RuntimeError (Option Value) × Machine ->
      Except RuntimeError (Option Value) × Machine -> Prop
  | same {report after} : after.sink.bytes.length ≤ limit ->
      ProgramCutAt limit trees machine (report, after) (report, after.limited limit)
  | full {whole cut statement} : limit < whole.2.sink.bytes.length ->
      cut.sink.bytes = whole.2.sink.bytes.take limit ->
      TakesByteDuring limit trees machine statement ->
      ProgramCutAt limit trees machine whole (.error ⟨.sinkFull, statement⟩, cut)

/-- Statements behind one that ended within the limit decide how the program ends. -/
theorem ProgramCutAt.later {limit : Nat} {tree : Statement} {later : List Statement}
    {machine after : Machine} {value : Option Value}
    {whole ending : Except RuntimeError (Option Value) × Machine}
    (made : tree.execute machine = .ok value after)
    (cutAt : ProgramCutAt limit later after whole ending) :
    ProgramCutAt limit (tree :: later) machine whole ending := by
  cases cutAt with
  | same within => exact .same within
  | full beyond taken during => exact .full beyond taken (.later made during)

/-- The limit is reached in at most one statement, and no statement runs behind it. -/
theorem runStatements_limited {limit : Nat} (last : Option Value) (trees : List Statement)
    {machine : Machine} (unlimited : machine.sink.room = none)
    (within : machine.sink.bytes.length ≤ limit) :
    ProgramCutAt limit trees machine (runStatements last trees machine)
      (runStatements last trees (machine.limited limit)) := by
  induction trees generalizing last machine with
  | nil => exact .same within
  | cons tree later ih =>
      have isCut := Statement.execute_inherits (inherited_isCut limit) tree
      have added := isCut.adds machine unlimited
      have started := isCut.cutAt machine unlimited within
      have here := @TakesByteDuring.here limit tree later machine within
      generalize limitedRun : tree.execute (machine.limited limit) = ending at started
      cases made : tree.execute machine with
      | ok value after =>
          rw [made, machineOf_ok] at added here
          rw [made] at started
          rw [runStatements_of_ok made]
          cases started with
          | ok within =>
              rw [runStatements_of_ok limitedRun]
              exact (ih value added.1 within).later made
          | full beyond taken =>
              -- The statements behind this one run without the limit alone.
              rw [machineOf_ok] at beyond taken
              rw [runStatements_of_failed limitedRun]
              have more := (runStatements_keeps adds_preserved value later after added.1).2
              apply ProgramCutAt.full
              · exact Nat.lt_of_lt_of_le beyond more.length_le
              · rw [taken]
                exact take_eq_of_isPrefix more (Nat.le_of_lt beyond)
              · exact here beyond
      | error exit after =>
          rw [made, machineOf_error] at here
          rw [made] at started
          cases started with
          | error within =>
              cases exit with
              | returned value =>
                  rw [runStatements_of_returned made, runStatements_of_returned limitedRun]
                  exact .same within
              | failed failure =>
                  rw [runStatements_of_failed made, runStatements_of_failed limitedRun]
                  exact .same within
          | full beyond taken =>
              rw [machineOf_error] at beyond taken
              rw [runStatements_of_failed limitedRun]
              cases exit with
              | returned value =>
                  rw [runStatements_of_returned made]
                  exact .full beyond taken (here beyond)
              | failed failure =>
                  rw [runStatements_of_failed made]
                  exact .full beyond taken (here beyond)

/-- A program on a fresh interpreter whose sink takes a number of bytes in all does the
same as on one without a limit, as long as no more bytes are written there.  Otherwise
it writes exactly the first of them, and it fails as the sink is full, in the one
statement of the program during which the byte beyond is written. -/
theorem full_sink_cuts_run (program : Program) (limit : Nat) :
    let whole := program.run (Machine.fresh none)
    let cut := program.run (Machine.fresh (some limit))
    (whole.2.sink.bytes.length ≤ limit ->
      cut.2.sink.bytes = whole.2.sink.bytes ∧ cut.1 = whole.1) ∧
    (limit < whole.2.sink.bytes.length ->
      cut.2.sink.bytes = whole.2.sink.bytes.take limit ∧
      ∃ statement, cut.1 = .error ⟨.sinkFull, statement⟩ ∧
        ∀ other, TakesByteDuring limit program.statements (Machine.fresh none) other ↔
          other = statement) := by
  intro whole cut
  have cutAt : ProgramCutAt limit program.statements (Machine.fresh none) whole cut :=
    runStatements_limited none program.statements rfl (Nat.zero_le limit)
  generalize whole = whole, cut = cut at cutAt
  cases cutAt with
  | same within =>
      refine ⟨fun _ => ⟨Sink.bytes_limited limit _, rfl⟩, fun beyond => ?_⟩
      exact absurd within (Nat.not_le_of_lt beyond)
  | full beyond taken during =>
      refine ⟨fun within => ?_, fun _ => ⟨taken, _, rfl, fun other => ⟨?_, ?_⟩⟩⟩
      · exact absurd within (Nat.not_le_of_lt beyond)
      · intro during'
        exact during.unique during' rfl
      · rintro rfl
        exact during

/-- A statement that prints a number. -/
def printing (number : Int64) : Statement :=
  .expression .erased
    (.call .erased (.identifier ⟨.erased, "puts"⟩) [.integer .erased number])

/-- Of a line of three bytes and one of four a sink of four bytes takes the first and
one byte of the second, whose statement fails. -/
theorem full_sink_cuts_run_of_two_lines :
    let program : Program := ⟨[printing 12, printing 345]⟩
    let whole := program.run (Machine.fresh none)
    let cut := program.run (Machine.fresh (some 4))
    whole.2.sink.bytes = Text.bytes "12\n345\n" ∧ 4 < whole.2.sink.bytes.length ∧
      cut.2.sink.bytes = Text.bytes "12\n3" ∧ cut.1 = .error ⟨.sinkFull, printing 345⟩ := by
  intro program whole cut
  have bytes : whole.2.sink.bytes = Text.bytes "12\n345\n" := by decide +kernel
  have beyond : 4 < whole.2.sink.bytes.length := by
    rw [bytes]
    decide +kernel
  rcases (full_sink_cuts_run program 4).2 beyond with ⟨taken, statement, ended, only⟩
  have first : (Text.bytes "12\n345\n").take 4 = Text.bytes "12\n3" := by decide +kernel
  have second : statement = printing 345 := by
    cases (only statement).mpr rfl with
    | here _ beyond => exact absurd beyond (by decide +kernel)
    | later _ during =>
        cases during with
        | here => rfl
        | later _ during => cases during
  exact ⟨bytes, beyond, taken.trans (bytes ▸ first), second ▸ ended⟩

end MonkeyLang
