import MonkeyLang.Proofs.Evaluation.Keeping
import MonkeyLang.Proofs.Syntax.Erasure

namespace MonkeyLang

/-!
# What the limit on nested calls does to a run

A run looks at the depth of calls only to see whether the limit is reached, and where it
is reached the run fails and does nothing more.  So a run that does not fail in this way
has found the depth small enough at each of its calls, and would have found any smaller
depth small enough as well.  Started with fewer calls around it, it therefore takes the
same steps, and the machines that it comes through differ in their depth alone.

Nothing is said of a run that fails at the limit.  Started less deep it may go on, print
more and end in any way.
-/

/-- A machine with another number of calls around it. -/
def Machine.atDepth (depth : Nat) (machine : Machine) : Machine := { machine with depth := depth }

/-- How a run ends, on a machine with another number of calls around it. -/
def endingAtDepth {α : Type} (depth : Nat) :
    EStateM.Result Exit Machine α -> EStateM.Result Exit Machine α
  | .ok answer after => .ok answer (after.atDepth depth)
  | .error exit after => .error exit (after.atDepth depth)

/-- Whether an exit is due to the limit on nested calls. -/
def Exit.isAtLimit : Exit -> Bool
  | .failed .callDepthExceeded => true
  | _ => false

/-- Whether a run ends because the limit on nested calls was reached. -/
def failsAtLimit {α : Type} : EStateM.Result Exit Machine α -> Bool
  | .ok _ _ => false
  | .error exit _ => exit.isAtLimit

/-- A run that puts the depth back, and that does the same with fewer calls around it
unless it fails at the limit. -/
structure Run.IsOnlyCut {α : Type} (run : Run α) : Prop where
  restores : run.Keeps SamePlace
  agrees : ∀ machine shallow, shallow ≤ machine.depth -> failsAtLimit (run machine) = false ->
    run (machine.atDepth shallow) = endingAtDepth shallow (run machine)

namespace Run.IsOnlyCut

theorem pure {α : Type} (answer : α) : (Pure.pure answer : Run α).IsOnlyCut where
  restores := samePlace_preserved.inherited.pure answer
  agrees _ _ _ _ := rfl

theorem exit {α : Type} (exit : Exit) : (throw exit : Run α).IsOnlyCut where
  restores := samePlace_preserved.inherited.exit exit
  agrees _ _ _ _ := rfl

theorem bind {α β : Type} {run : Run α} {next : α -> Run β} (first : run.IsOnlyCut)
    (second : ∀ answer, (next answer).IsOnlyCut) : (run >>= next).IsOnlyCut where
  restores := samePlace_preserved.bind first.restores fun answer => (second answer).restores
  agrees machine shallow fewer within := by
    have place := first.restores machine
    have started := first.agrees machine shallow fewer
    cases made : run machine with
    | ok answer after =>
        rw [made, machineOf_ok] at place
        rw [made] at started
        rw [bind_of_ok made] at within ⊢
        rw [bind_of_ok (started rfl)]
        -- The first run put its depth back, so there are still fewer calls around the second.
        exact (second answer).agrees after shallow (place.depth ▸ fewer) within
    | error exit after =>
        rw [made] at started
        rw [bind_of_error made] at within ⊢
        exact bind_of_error (started within)

theorem lookup (name : String) : (Run.lookup name).IsOnlyCut where
  restores := samePlace_preserved.lookup name
  agrees machine shallow _ _ := by
    unfold Run.lookup Machine.atDepth
    dsimp only
    cases machine.frames.find? machine.scope name with
    | some value => rfl
    | none => rfl

theorem declare (name : String) (value : Value) : (Run.declare name value).IsOnlyCut where
  restores := samePlace_preserved.declare name value
  agrees _ _ _ _ := rfl

theorem close (parameters : List Identifier) (body : Block) :
    (Run.close parameters body).IsOnlyCut where
  restores := samePlace_preserved.close parameters body
  agrees _ _ _ _ := rfl

theorem print (value : Value) : (Run.print value).IsOnlyCut where
  restores := samePlace_preserved.print value
  agrees machine shallow _ _ := by
    unfold Run.print Machine.atDepth
    dsimp only
    split <;> rfl

/-- A call that is allowed is allowed with fewer calls around it, and what it calls
starts with fewer calls around it too. -/
theorem oneDeeper {run : Run Value} (inside : run.IsOnlyCut) : run.oneDeeper.IsOnlyCut where
  restores := samePlace_preserved.oneDeeper inside.restores
  agrees machine shallow fewer within := by
    have started := inside.agrees { machine with depth := machine.depth + 1 } (shallow + 1)
      (Nat.succ_le_succ fewer)
    have same : ({ machine with depth := machine.depth + 1 } : Machine).atDepth (shallow + 1) =
        { machine.atDepth shallow with depth := (machine.atDepth shallow).depth + 1 } := rfl
    rw [same] at started
    unfold Run.oneDeeper at within ⊢
    by_cases allowed : machine.depth < maximumCallDepth
    · have allowed' : (machine.atDepth shallow).depth < maximumCallDepth :=
        Nat.lt_of_le_of_lt fewer allowed
      rw [if_pos allowed] at within ⊢
      rw [if_pos allowed']
      generalize run { machine with depth := machine.depth + 1 } = ending at started within ⊢
      cases ending with
      | ok answer after => rw [started rfl]; rfl
      | error exit after => rw [started within]; rfl
    · rw [if_neg allowed] at within
      cases within

theorem inNewFrame {run : Run Value} (inside : run.IsOnlyCut) (frame : Frame) :
    (Run.inNewFrame frame run).IsOnlyCut where
  restores := samePlace_preserved.inNewFrame inside.restores frame
  agrees machine shallow fewer within := by
    have started := inside.agrees
      { machine with frames := machine.frames.push frame, scope := machine.frames.size }
      shallow fewer
    have same :
        ({ machine with
          frames := machine.frames.push frame
          scope := machine.frames.size } : Machine).atDepth shallow =
        { machine.atDepth shallow with
          frames := (machine.atDepth shallow).frames.push frame
          scope := (machine.atDepth shallow).frames.size } := rfl
    rw [same] at started
    dsimp only [Run.inNewFrame] at within ⊢
    generalize run { machine with frames := _, scope := _ } = ending at started within ⊢
    cases ending with
    | ok answer after => rw [started rfl]; rfl
    | error exit after => rw [started within]; rfl

theorem catchReturn {body : Run (Option Value)} (inside : body.IsOnlyCut) :
    (Run.catchReturn body).IsOnlyCut where
  restores := Preserved.catchReturn inside.restores
  agrees machine shallow fewer within := by
    have started := inside.agrees machine shallow fewer
    unfold Run.catchReturn at within ⊢
    generalize body machine = ending at started within ⊢
    cases ending with
    | ok answer after => rw [started rfl]; rfl
    | error exit after =>
        cases exit with
        | returned value => rw [started rfl]; rfl
        | failed failure => rw [started within]; rfl

end Run.IsOnlyCut

/-- The limit on nested calls only cuts evaluation as a whole. -/
theorem inherited_isOnlyCut : Inherited Run.IsOnlyCut where
  pure := .pure
  exit := .exit
  bind := .bind
  lookup := .lookup
  declare := .declare
  close := .close
  print := .print
  oneDeeper := .oneDeeper
  inNewFrame := .inNewFrame
  catchReturn := .catchReturn

/-! ## Calls from outside -/

theorem callOn_atDepth {callable : Callable} {arguments : List Value} {machine : Machine}
    {shallow : Nat} (fewer : shallow ≤ machine.depth)
    (within : (callable.callOn arguments machine).1 ≠ .error .callDepthExceeded) :
    callable.callOn arguments (machine.atDepth shallow) =
      ((callable.callOn arguments machine).1,
        (callable.callOn arguments machine).2.atDepth shallow) := by
  have isOnlyCut : (callable.call arguments).IsOnlyCut :=
    callWithin_inherits inherited_isOnlyCut _ callable arguments
  have started := isOnlyCut.agrees machine shallow fewer
  cases made : callable.call arguments machine with
  | ok value after =>
      rw [made] at started
      rw [Callable.callOn_of_ok made, Callable.callOn_of_ok (started rfl)]
  | error exit after =>
      rw [made] at started
      cases exit with
      | returned value =>
          rw [Callable.callOn_of_returned made, Callable.callOn_of_returned (started rfl)]
      | failed failure =>
          rw [Callable.callOn_of_failed made] at within ⊢
          have other : failsAtLimit (.error (.failed failure) after :
              EStateM.Result Exit Machine Value) = false := by
            cases failure with
            | callDepthExceeded => exact absurd rfl within
            | _ => rfl
          rw [Callable.callOn_of_failed (started other)]

/-- The limit on nested calls only cuts computations.  If an expression, evaluated with
some number of calls around it, does not fail at the limit, then evaluated on the same
machine with fewer calls around it, it ends with the same value or exit on a machine that
is the same in its frames, in all that was printed and in everything else but the depth.
So does a call from outside, of anything with any arguments. -/
theorem limit_only_cuts :
    (∀ (expression : Expression) (machine : Machine) (shallow deep : Nat), shallow ≤ deep ->
      failsAtLimit (expression.evaluate (machine.atDepth deep)) = false ->
      expression.evaluate (machine.atDepth shallow) =
        endingAtDepth shallow (expression.evaluate (machine.atDepth deep))) ∧
    (∀ (callable : Callable) (arguments : List Value) (machine : Machine) (shallow deep : Nat),
      shallow ≤ deep ->
      (callable.callOn arguments (machine.atDepth deep)).1 ≠ .error .callDepthExceeded ->
      callable.callOn arguments (machine.atDepth shallow) =
        ((callable.callOn arguments (machine.atDepth deep)).1,
          (callable.callOn arguments (machine.atDepth deep)).2.atDepth shallow)) := by
  constructor
  · intro expression machine shallow deep fewer within
    have isOnlyCut : expression.evaluate.IsOnlyCut :=
      evaluate_inherits inherited_isOnlyCut
        (oneDeeper_callWithin_inherits inherited_isOnlyCut maximumCallDepth) expression
    exact isOnlyCut.agrees (machine.atDepth deep) shallow fewer within
  · intro callable arguments machine shallow deep fewer within
    have fewer' : shallow ≤ (machine.atDepth deep).depth := fewer
    exact callOn_atDepth fewer' within

/-- A function that prints its argument, called with a number: two nested calls. -/
def printingCall : Expression :=
  .call .erased
    (.function .erased [⟨.erased, "x"⟩]
      (.mk .erased [.expression .erased
        (.call .erased (.identifier ⟨.erased, "puts"⟩) [.identifier ⟨.erased, "x"⟩])]))
    [.integer .erased 7]

/-- With two calls below the limit it prints, as it then does outside of all calls; with
one call more around it, it fails. -/
theorem limit_only_cuts_of_printingCall :
    failsAtLimit (printingCall.evaluate ((Machine.fresh none).atDepth 254)) = false ∧
      printingCall.evaluate ((Machine.fresh none).atDepth 0) =
        endingAtDepth 0 (printingCall.evaluate ((Machine.fresh none).atDepth 254)) ∧
      (machineOf (printingCall.evaluate ((Machine.fresh none).atDepth 254))).sink.bytes =
        Text.bytes "7\n" ∧
      failsAtLimit (printingCall.evaluate ((Machine.fresh none).atDepth 255)) = true := by
  have within : failsAtLimit (printingCall.evaluate ((Machine.fresh none).atDepth 254)) = false := by
    decide +kernel
  have printed : (machineOf (printingCall.evaluate ((Machine.fresh none).atDepth 254))).sink.bytes =
      Text.bytes "7\n" := by
    decide +kernel
  have beyond : failsAtLimit (printingCall.evaluate ((Machine.fresh none).atDepth 255)) = true := by
    decide +kernel
  exact ⟨within, limit_only_cuts.1 _ _ 0 254 (by decide) within, printed, beyond⟩

end MonkeyLang
