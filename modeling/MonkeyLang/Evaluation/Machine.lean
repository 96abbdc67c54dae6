import MonkeyLang.Evaluation.Failure
import MonkeyLang.Evaluation.Scope
import MonkeyLang.Evaluation.Sink

namespace MonkeyLang

/-!
# The machine that a program runs on

A store holds what outlives a program: the frames, the number of identities that
were given out, and the sink.  A machine is a store together with the frame in
which names are bound now and the number of calls around the present one.  A
run changes the machine step by step and ends with a value or with an exit,
which is a `return` on its way to the nearest call or a failure.
-/

/-- The frames and the sink that interpreters share. -/
structure Store where
  frames : Frames := #[]
  identities : Nat := 0
  sink : Sink := {}

/-- A store, the frame in which names are bound now, and the depth of calls. -/
structure Machine extends Store where
  scope : FrameId
  depth : Nat

/-- What ends a run early. -/
inductive Exit where
  | returned (value : Value)
  | failed (failure : Failure)

/-- Steps on a machine that end with a value or with an exit.  The steps made
before an exit stay made. -/
abbrev Run := EStateM Exit Machine

namespace Run

variable {α β : Type}

theorem bind_of_ok {run : Run α} {next : α -> Run β} {machine after : Machine} {value : α}
    (ended : run machine = .ok value after) : (run >>= next) machine = next value after := by
  change EStateM.bind run next machine = next value after
  rw [EStateM.bind, ended]

theorem bind_of_error {run : Run α} {next : α -> Run β} {machine after : Machine} {exit : Exit}
    (ended : run machine = .error exit after) : (run >>= next) machine = .error exit after := by
  change EStateM.bind run next machine = .error exit after
  rw [EStateM.bind, ended]

/-- End a run with a failure. -/
def fail (failure : Failure) : Run α := throw (.failed failure)

/-- The outcome of an operator as a run. -/
def ofResult : Except Failure α -> Run α
  | .ok value => pure value
  | .error failure => fail failure

/-- What a value stands for when it is called. -/
def callable : Value -> Run Callable
  | .closure callee => pure callee.callable
  | other => fail (.notCallable other.type)

/-- Check the number of arguments of a call. -/
def checkArity (callee : Callable) (given : Nat) : Run Unit :=
  match callee.arity with
  | none => pure ()
  | some expected => if given = expected then pure () else fail (.wrongArity callee given expected)

/-- The value of a name in the present frame. -/
def lookup (name : String) : Run Value := fun machine =>
  match machine.frames.find? machine.scope name with
  | some value => .ok value machine
  | none => .error (.failed (.unknownIdentifier name)) machine

/-- Bind a name in the present frame. -/
def declare (name : String) (value : Value) : Run Unit := fun machine =>
  .ok () { machine with frames := machine.frames.declare machine.scope name value }

/-- A function literal as a value with an identity of its own, closed over the
present frame. -/
def close (parameters : List Identifier) (body : Block) : Run Value := fun machine =>
  .ok (.closure ⟨machine.identities, .function ⟨machine.scope, parameters, body⟩⟩)
    { machine with identities := machine.identities + 1 }

/-- Print a value as a line. -/
def print (value : Value) : Run Unit := fun machine =>
  let (whole, sink) := machine.sink.accept value
  if whole then .ok () { machine with sink := sink }
  else .error (.failed .sinkFull) { machine with sink := sink }

/-- Print values one after another. -/
def printAll : List Value -> Run Value
  | [] => pure .null
  | value :: later => do
      print value
      printAll later

/-- A run with a new frame as the present one.  The old one is present again
behind it, however it ends. -/
def inNewFrame (frame : Frame) (run : Run α) : Run α := fun machine =>
  let outer := machine.scope
  let inner := machine.frames.size
  match run { machine with frames := machine.frames.push frame, scope := inner } with
  | .ok value after => .ok value { after with scope := outer }
  | .error exit after => .error exit { after with scope := outer }

section

variable {frame : Frame} {run : Run α} {machine after : Machine}

theorem inNewFrame_of_ok {value : α}
    (ended : run { machine with
        frames := machine.frames.push frame
        scope := machine.frames.size } = .ok value after) :
    inNewFrame frame run machine = .ok value { after with scope := machine.scope } := by
  rw [inNewFrame, ended]

theorem inNewFrame_of_error {exit : Exit}
    (ended : run { machine with
        frames := machine.frames.push frame
        scope := machine.frames.size } = .error exit after) :
    inNewFrame frame run machine = .error exit { after with scope := machine.scope } := by
  rw [inNewFrame, ended]

end

/-- A run one call deeper, as far as that is allowed.  The depth is what it was
behind it, however it ends. -/
def oneDeeper (run : Run α) : Run α := fun machine =>
  if machine.depth < maximumCallDepth then
    match run { machine with depth := machine.depth + 1 } with
    | .ok value after => .ok value { after with depth := after.depth - 1 }
    | .error exit after => .error exit { after with depth := after.depth - 1 }
  else .error (.failed .callDepthExceeded) machine

/-- The value of a function whose body was run: that of a `return`, or else that
of the last statement, or else null. -/
def catchReturn (body : Run (Option Value)) : Run Value := fun machine =>
  match body machine with
  | .ok value after => .ok (value.getD .null) after
  | .error (.returned value) after => .ok value after
  | .error (.failed failure) after => .error (.failed failure) after

end Run

/-- The frame of a call: the parameters bound to the arguments one after another,
as far as there are both. -/
def Function.frame (function : Function) (arguments : List Value) : Frame :=
  (Frame.empty (some function.scope)).declareAll
    ((function.parameters.map (·.name)).zip arguments)

end MonkeyLang
