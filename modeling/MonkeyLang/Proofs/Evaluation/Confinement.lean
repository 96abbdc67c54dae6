import MonkeyLang.Proofs.Evaluation.Halting
import MonkeyLang.Proofs.Evaluation.Printing

namespace MonkeyLang

/-!
# What a call leaves alone

A call runs the body of a function in a frame of its own, and so do the calls that
it makes.  Names are bound in the present frame only, which during the call is
always one that was made since the call began.  The frames that were there before
keep their bindings and their parents, however the call ends; so what a name
stands for in any of them is the same behind the call as before it.

The first part is read off the frames themselves.  It would not show a binding
that gives a name in an old frame the value that it has already.  The second part
is therefore about the derivation of the run, in which the frame of every binding
is seen.
-/

/-! ## The frames behind a call -/

theorem machineOf_catchReturn (body : Run (Option Value)) (machine : Machine) :
    machineOf (Run.catchReturn body machine) = machineOf (body machine) := by
  unfold Run.catchReturn
  cases body machine with
  | ok value after => rfl
  | error exit after => cases exit <;> rfl

theorem machineOf_inNewFrame {α : Type} (frame : Frame) (run : Run α) (machine : Machine) :
    machineOf (Run.inNewFrame frame run machine) =
      { machineOf (run { machine with
          frames := machine.frames.push frame
          scope := machine.frames.size }) with scope := machine.scope } := by
  unfold Run.inNewFrame
  dsimp only
  cases run _ <;> rfl

/-- Printing makes no frame and changes none. -/
theorem frames_of_printAll (values : List Value) (machine : Machine) :
    (machineOf (Run.printAll values machine)).frames = machine.frames := by
  rw [Run.printAll_eq]
  split <;> rfl

/-- A call keeps all frames, the present one among them, and adds to them. -/
theorem frames_of_callWithin (levels : Nat) (callee : Callable) (arguments : List Value)
    (machine : Machine) {frame : FrameId} (there : frame < machine.frames.size) :
    (machineOf (callWithin levels callee arguments machine)).frames[frame]? =
      machine.frames[frame]? := by
  cases levels with
  | zero => rfl
  | succ levels =>
      cases callee with
      | builtin named =>
          cases named
          exact congrArg (fun frames : Frames => frames[frame]?)
            (frames_of_printAll arguments machine)
      | function literal =>
          have body : Run.Keeps Advances
              (executeAll (callWithin levels) none literal.body.statements) :=
            executeAll_inherits advances_preserved.inherited oneDeeper_callWithin_advances _ none
          have grown : frame < (machine.frames.push (literal.frame arguments)).size := by
            rw [Array.size_push]
            exact Nat.lt_succ_of_lt there
          rw [callWithin, machineOf_inNewFrame, machineOf_catchReturn]
          exact ((body _).kept frame grown (Nat.ne_of_lt there)).trans <|
            (Array.getElem?_push ..).trans (if_neg (Nat.ne_of_lt there))

/-- A look-up sees the frames around a frame only, which are older. -/
theorem Frames.find?_of_kept {first second : Frames} {bound : Nat}
    (kept : ∀ frame, frame < bound -> second[frame]? = first[frame]?) (name : String)
    (frame : FrameId) (below : frame < bound) :
    second.find? frame name = first.find? frame name := by
  induction frame using Nat.strongRecOn with
  | ind frame ih =>
      have own : second[frame]?.bind (·.find? name) = first[frame]?.bind (·.find? name) := by
        rw [kept frame below]
      have link : second.parent? frame = first.parent? frame := by
        rw [Frames.parent?, Frames.parent?, kept frame below]
      cases bound : first[frame]?.bind (·.find? name) with
      | some value => rw [find?_of_own bound, find?_of_own (own.trans bound)]
      | none =>
          cases above : first.parent? frame with
          | none =>
              rw [find?_of_global bound above, find?_of_global (own.trans bound) (link.trans above)]
          | some parent =>
              have older := parent?_lt above
              rw [find?_of_parent bound above,
                find?_of_parent (own.trans bound) (link.trans above)]
              exact ih parent older (Nat.lt_trans older below)

/-! ## The frames of the bindings that a call makes -/

/-- The present frame is not among the first so many frames, and neither is one
that is made from now on. -/
def PresentSince (count : Nat) : Nat -> Machine -> Prop := fun _ machine =>
  count ≤ machine.scope ∧ count ≤ machine.frames.size

theorem presentSince_handedOn (count : Nat) : HandedOn (PresentSince count) where
  later here advances := ⟨advances.scope ▸ here.1, Nat.le_trans here.2 advances.frames⟩
  within here := by
    refine ⟨here.2, ?_⟩
    rw [Array.size_push]
    exact Nat.le_succ_of_le here.2
  deeper here _ := here

section

variable {along : Nat -> Machine -> Prop} {nested : Nat} {token : Token} {name : Identifier}
  {value : Expression} {machine after : Machine} {literal : Function} {arguments : List Value}

/-- A binding is made in the frame that is present where the statement starts. -/
theorem Executes.binding_declares {answer : Option Value}
    (executes : Executes along nested (.binding token name value) machine (.ok answer after)) :
    along nested machine ∧
    ∃ bound behind, Evaluates along nested value machine (.ok bound behind) ∧
      after = { behind with
        frames := behind.frames.declare machine.scope name.name bound } := by
  generalize made : EStateM.Result.ok answer after = ending at executes
  cases executes with
  | @binding _ _ _ _ _ inner here evaluates =>
      refine ⟨here, ?_⟩
      cases inner with
      | error exit behind => cases made
      | ok bound behind =>
          have place := advances_of_evaluate
            (evaluates.eq maximumCallDepth (Nat.le_add_left _ _))
          have scope : behind.scope = machine.scope := place.scope
          cases made
          exact ⟨bound, behind, evaluates, scope ▸ rfl⟩

/-- The parameters of a call are bound in a frame that is made for them, in which
the body then runs. -/
theorem CallEnds.function_enters {ending : Ending Value}
    (ends : CallEnds along nested (.function literal) arguments machine ending) :
    along nested machine ∧
    ∃ inner, ExecutesAll along nested none literal.body.statements
        { machine with
          frames := machine.frames.push (literal.frame arguments)
          scope := machine.frames.size } inner ∧
      ending =
        Run.inNewFrame (literal.frame arguments) (Run.catchReturn (Run.ended inner)) machine := by
  cases ends with
  | function here body => exact ⟨here, _, body, rfl⟩

end

/-- The body of a called function runs in frames that the call makes, and so does
all that is called from it. -/
theorem executesAll_of_call (literal : Function) (arguments : List Value) (machine : Machine) :
    ∃ inner, ExecutesAll (PresentSince machine.frames.size) 0 none literal.body.statements
        { machine with
          frames := machine.frames.push (literal.frame arguments)
          scope := machine.frames.size } inner ∧
      (Callable.function literal).call arguments machine =
        Run.inNewFrame (literal.frame arguments) (Run.catchReturn (Run.ended inner)) machine := by
  have handed := presentSince_handedOn machine.frames.size
  have inside : PresentSince machine.frames.size 0
      { machine with
        frames := machine.frames.push (literal.frame arguments)
        scope := machine.frames.size } := by
    refine ⟨Nat.le_refl _, ?_⟩
    rw [Array.size_push]
    exact Nat.le_succ _
  exact ⟨_, executesAll_executeAll handed (callEnds_callWithin handed maximumCallDepth)
    literal.body.statements none 0 _ inside (Nat.le_add_left _ _), rfl⟩

/-- A call binds nothing outside of itself.  Every frame that was there before is
the same behind it, with its bindings and its parent, and every name means the same
in each of them.  A built-in function touches no frame at all.  The body of any
other runs with a frame present that the call made, and wherever in its run a
`let` binds a name, or a nested call its parameters, that is a frame that the call
made. -/
theorem call_binds_in_its_own_frames (callable : Callable) (arguments : List Value)
    (machine : Machine) :
    (∀ frame, frame < machine.frames.size ->
      (callable.callOn arguments machine).2.frames[frame]? = machine.frames[frame]?) ∧
    (∀ frame name, frame < machine.frames.size ->
      (callable.callOn arguments machine).2.frames.find? frame name =
        machine.frames.find? frame name) ∧
    (∀ named, callable = .builtin named ->
      (callable.callOn arguments machine).2.frames = machine.frames) ∧
    (∀ literal, callable = .function literal ->
      ∃ inner, ExecutesAll (PresentSince machine.frames.size) 0 none literal.body.statements
          { machine with
            frames := machine.frames.push (literal.frame arguments)
            scope := machine.frames.size } inner ∧
        callable.call arguments machine =
          Run.inNewFrame (literal.frame arguments) (Run.catchReturn (Run.ended inner)) machine) ∧
    (∀ nested token name value start answer after,
      Executes (PresentSince machine.frames.size) nested (.binding token name value) start
        (.ok answer after) ->
      machine.frames.size ≤ start.scope ∧
      ∃ bound behind,
        Evaluates (PresentSince machine.frames.size) nested value start (.ok bound behind) ∧
        after = { behind with frames := behind.frames.declare start.scope name.name bound }) ∧
    (∀ nested literal given start ending,
      CallEnds (PresentSince machine.frames.size) nested (.function literal) given start ending ->
      machine.frames.size ≤ start.frames.size ∧
      ∃ inner, ExecutesAll (PresentSince machine.frames.size) nested none literal.body.statements
          { start with
            frames := start.frames.push (literal.frame given)
            scope := start.frames.size } inner ∧
        ending =
          Run.inNewFrame (literal.frame given) (Run.catchReturn (Run.ended inner)) start) := by
  have kept : ∀ frame, frame < machine.frames.size ->
      (callable.callOn arguments machine).2.frames[frame]? = machine.frames[frame]? := by
    intro frame there
    rw [machineOf_callOn]
    exact frames_of_callWithin _ callable arguments machine there
  refine ⟨kept, fun frame name => Frames.find?_of_kept kept name frame, ?_, ?_, ?_, ?_⟩
  · rintro named rfl
    cases named
    rw [machineOf_callOn]
    exact frames_of_printAll arguments machine
  · rintro literal rfl
    exact executesAll_of_call literal arguments machine
  · intro nested token name value start answer after executes
    rcases executes.binding_declares with ⟨here, declared⟩
    exact ⟨here.1, declared⟩
  · intro nested literal given start ending ends
    rcases ends.function_enters with ⟨here, entered⟩
    exact ⟨here.2, entered⟩

/-- A function that binds the name of the built-in function. -/
def shadowing : Callable :=
  .function ⟨0, [⟨.erased, "x"⟩],
    .mk .erased [.binding .erased ⟨.erased, "puts"⟩ (.identifier ⟨.erased, "x"⟩)]⟩

/-- Behind a call of it the name means in the global frame what it meant before. -/
theorem call_binds_in_its_own_frames_of_shadowing :
    0 < (Machine.fresh none).frames.size ∧
      (shadowing.callOn [.null] (Machine.fresh none)).2.frames.find? 0 "puts" =
        some (.closure ⟨0, .builtin .puts⟩) := by
  have global : 0 < (Machine.fresh none).frames.size := by decide
  have own : ((Machine.fresh none).frames[0]?).bind (·.find? "puts") =
      some (.closure ⟨0, .builtin .puts⟩) := by decide
  rcases call_binds_in_its_own_frames shadowing [.null] (Machine.fresh none) with ⟨_, same, _⟩
  exact ⟨global, (same 0 "puts" global).trans (Frames.find?_of_own own)⟩

end MonkeyLang
