import MonkeyLang.Proofs.Evaluation.Inheritance

namespace MonkeyLang

/-!
# What a run keeps

However a run ends, the machine that it ends on is related to the one it started
from.  A relation that every primitive step obeys, and that survives the entry
into a call and the way back, is obeyed by evaluation as a whole.  The depth of
calls and the present frame are the first example: each call changes both and
puts both back.
-/

/-- Whether a run leads from every machine to a related one. -/
def Run.Keeps {α : Type} (relation : Machine -> Machine -> Prop) (run : Run α) : Prop :=
  ∀ machine, relation machine (machineOf (run machine))

/-- A relation that the primitive steps obey, and that the way through a call
preserves. -/
structure Preserved (relation : Machine -> Machine -> Prop) : Prop where
  refl : ∀ machine, relation machine machine
  trans : ∀ {first second third}, relation first second -> relation second third ->
    relation first third
  declare : ∀ name value, Run.Keeps relation (Run.declare name value)
  close : ∀ parameters body, Run.Keeps relation (Run.close parameters body)
  print : ∀ value, Run.Keeps relation (Run.print value)
  within : ∀ {frame machine after},
    relation { machine with
      frames := machine.frames.push frame
      scope := machine.frames.size } after ->
    relation machine { after with scope := machine.scope }
  deeper : ∀ {machine after}, machine.depth < maximumCallDepth ->
    relation { machine with depth := machine.depth + 1 } after ->
    relation machine { after with depth := after.depth - 1 }

namespace Preserved

variable {relation : Machine -> Machine -> Prop} (preserved : Preserved relation)
include preserved

theorem bind {α β : Type} {run : Run α} {next : α -> Run β} (first : run.Keeps relation)
    (second : ∀ answer, (next answer).Keeps relation) : (run >>= next).Keeps relation := by
  intro machine
  change relation machine (machineOf (EStateM.bind run next machine))
  have started := first machine
  unfold EStateM.bind
  generalize run machine = result at started ⊢
  cases result with
  | ok answer after => exact preserved.trans started (second answer after)
  | error exit after => exact started

theorem lookup (name : String) : (Run.lookup name).Keeps relation := by
  intro machine
  unfold Run.lookup
  split <;> exact preserved.refl machine

theorem oneDeeper {run : Run Value} (inside : run.Keeps relation) :
    run.oneDeeper.Keeps relation := by
  intro machine
  unfold Run.oneDeeper
  by_cases allowed : machine.depth < maximumCallDepth
  · rw [if_pos allowed]
    have started := preserved.deeper allowed (inside _)
    generalize run _ = result at started ⊢
    cases result <;> exact started
  · rw [if_neg allowed]
    exact preserved.refl machine

theorem inNewFrame {run : Run Value} (inside : run.Keeps relation) (frame : Frame) :
    (Run.inNewFrame frame run).Keeps relation := by
  intro machine
  have started := preserved.within (inside { machine with
    frames := machine.frames.push frame
    scope := machine.frames.size })
  dsimp only [Run.inNewFrame]
  generalize run _ = result at started ⊢
  cases result <;> exact started

omit preserved in
theorem catchReturn {body : Run (Option Value)} (inside : body.Keeps relation) :
    (Run.catchReturn body).Keeps relation := by
  intro machine
  have started := inside machine
  unfold Run.catchReturn
  generalize body machine = result at started ⊢
  cases result with
  | ok answer after => exact started
  | error exit after => cases exit <;> exact started

/-- Evaluation as a whole keeps what its steps keep. -/
theorem inherited : Inherited (Run.Keeps relation) where
  pure _ machine := preserved.refl machine
  exit _ machine := preserved.refl machine
  bind := preserved.bind
  lookup := preserved.lookup
  declare := preserved.declare
  close := preserved.close
  print := preserved.print
  oneDeeper := preserved.oneDeeper
  inNewFrame := preserved.inNewFrame
  catchReturn := catchReturn

end Preserved

/-- Programs keep what their steps keep. -/
theorem runStatements_keeps {relation : Machine -> Machine -> Prop}
    (preserved : Preserved relation) (last : Option Value) (trees : List Statement)
    (machine : Machine) : relation machine (runStatements last trees machine).2 := by
  induction trees generalizing last machine with
  | nil => exact preserved.refl machine
  | cons tree later ih =>
      have first := Statement.execute_inherits preserved.inherited tree machine
      cases made : tree.execute machine with
      | ok value after =>
          rw [made] at first
          rw [runStatements_of_ok made]
          exact preserved.trans first (ih value after)
      | error exit after =>
          rw [made] at first
          cases exit with
          | returned value =>
              rw [runStatements_of_returned made]
              exact first
          | failed failure =>
              rw [runStatements_of_failed made]
              exact first

theorem machineOf_callOn (callable : Callable) (arguments : List Value) (machine : Machine) :
    (callable.callOn arguments machine).2 = machineOf (callable.call arguments machine) := by
  unfold Callable.callOn
  cases callable.call arguments machine with
  | ok value after => rfl
  | error exit after => cases exit <;> rfl

/-- Calls from outside keep what their steps keep. -/
theorem callOn_keeps {relation : Machine -> Machine -> Prop} (preserved : Preserved relation)
    (callable : Callable) (arguments : List Value) (machine : Machine) :
    relation machine (callable.callOn arguments machine).2 := by
  rw [machineOf_callOn]
  exact callWithin_inherits preserved.inherited _ callable arguments machine

/-! ## The depth of calls and the present frame -/

/-- Machines of the same depth with the same present frame. -/
structure SamePlace (first second : Machine) : Prop where
  depth : second.depth = first.depth
  scope : second.scope = first.scope

theorem samePlace_preserved : Preserved SamePlace where
  refl _ := ⟨rfl, rfl⟩
  trans first second := ⟨second.depth.trans first.depth, second.scope.trans first.scope⟩
  declare _ _ _ := ⟨rfl, rfl⟩
  close _ _ _ := ⟨rfl, rfl⟩
  print value machine := by
    unfold Run.print
    dsimp only
    split <;> exact ⟨rfl, rfl⟩
  within inside := ⟨inside.depth, rfl⟩
  deeper _ inside := ⟨congrArg (· - 1) inside.depth, inside.scope⟩

/-! ## The frames that a run changes -/

/-- Machines of which the second is the first after a while.  Frames and functions
were only added, and of the frames that were there the present one alone may bind
other names. -/
structure Advances (first second : Machine) : Prop extends SamePlace first second where
  frames : first.frames.size ≤ second.frames.size
  kept : ∀ frame, frame < first.frames.size -> frame ≠ first.scope ->
    second.frames[frame]? = first.frames[frame]?
  identities : first.identities ≤ second.identities
  unlimited : first.sink.room = none -> second.sink.room = none

/-- The interpreter behind a run is the one before it. -/
theorem Advances.interpreter_eq {interpreter : Interpreter} {store : Store} {after : Machine}
    (advances : Advances (interpreter.machine store) after) : after.interpreter = interpreter := by
  rw [Machine.interpreter, advances.scope, advances.depth]
  rfl

/-- Printing changes the sink alone, whether the sink takes the line or not. -/
theorem machineOf_print (value : Value) (machine : Machine) :
    machineOf (Run.print value machine) =
      { machine with sink := (machine.sink.accept value).2 } := by
  unfold Run.print
  dsimp only
  split <;> rfl

theorem Sink.accept_room_of_none {sink : Sink} (unlimited : sink.room = none) (value : Value) :
    (sink.accept value).2.room = none := by
  rw [Sink.accept, unlimited]

theorem declare_advances (name : String) (value : Value) :
    Run.Keeps Advances (Run.declare name value) := by
  intro machine
  refine { samePlace_preserved.declare name value machine with
    frames := Nat.le_of_eq (Array.size_modify ..).symm
    kept := fun frame _ other => ?_
    identities := Nat.le_refl _
    unlimited := id }
  exact (Array.getElem?_modify ..).trans (if_neg (Ne.symm other))

theorem print_advances (value : Value) : Run.Keeps Advances (Run.print value) := by
  intro machine
  rw [machineOf_print]
  exact
    { depth := rfl
      scope := rfl
      frames := Nat.le_refl _
      kept := fun _ _ _ => rfl
      identities := Nat.le_refl _
      unlimited := fun unlimited => Sink.accept_room_of_none unlimited value }

/-- Behind a call the new frame is an old one like others, and the frame that is
present again was not present in between. -/
theorem Advances.within {frame : Frame} {machine after : Machine}
    (inside : Advances { machine with
      frames := machine.frames.push frame
      scope := machine.frames.size } after) :
    Advances machine { after with scope := machine.scope } where
  toSamePlace := samePlace_preserved.within inside.toSamePlace
  frames := by
    have grown := inside.frames
    rw [Array.size_push] at grown
    exact Nat.le_of_succ_le grown
  kept old below _ := by
    have grown : old < (machine.frames.push frame).size := by
      rw [Array.size_push]
      exact Nat.lt_succ_of_lt below
    rw [inside.kept old grown (Nat.ne_of_lt below)]
    exact (Array.getElem?_push ..).trans (if_neg (Nat.ne_of_lt below))
  identities := inside.identities
  unlimited := inside.unlimited

theorem advances_preserved : Preserved Advances where
  refl machine :=
    { samePlace_preserved.refl machine with
      frames := Nat.le_refl _
      kept := fun _ _ _ => rfl
      identities := Nat.le_refl _
      unlimited := id }
  trans first second :=
    { samePlace_preserved.trans first.toSamePlace second.toSamePlace with
      frames := Nat.le_trans first.frames second.frames
      kept := fun frame below other =>
        (second.kept frame (Nat.lt_of_lt_of_le below first.frames) (first.scope ▸ other)).trans
          (first.kept frame below other)
      identities := Nat.le_trans first.identities second.identities
      unlimited := second.unlimited ∘ first.unlimited }
  declare := declare_advances
  close parameters body machine :=
    { samePlace_preserved.close parameters body machine with
      frames := Nat.le_refl _
      kept := fun _ _ _ => rfl
      identities := Nat.le_succ _
      unlimited := id }
  print := print_advances
  within inside := inside.within
  deeper allowed inside :=
    { samePlace_preserved.deeper allowed inside.toSamePlace with
      frames := inside.frames
      kept := inside.kept
      identities := inside.identities
      unlimited := inside.unlimited }

end MonkeyLang
