import MonkeyLang.Description
import MonkeyLang.Grammar.Reading
import MonkeyLang.Session.Step

namespace MonkeyLang

open Text

/-!
# Sessions

A session is a series of steps on interpreters that share one store, and so one
sink.  Programs are evaluated, values of earlier steps are compared, inspected
and called, and each answer says what was printed since the last one that did.
A step that makes no sense is refused and changes nothing.
-/

/-- The store, the interpreters made so far, and the values of the steps. -/
structure Session where
  store : Store
  interpreters : List Interpreter
  values : List (Option Value)

namespace Session

/-- A session with one interpreter, and a sink with room for some bytes. -/
def start (room : Option Nat) : Session :=
  let (interpreter, store) := Interpreter.new { sink := { room := room } }
  ⟨store, [interpreter], []⟩

/-- The interpreter with a number. -/
def interpreter (session : Session) (index : Nat) : Except Complaint Interpreter :=
  match session.interpreters[index]? with
  | some interpreter => .ok interpreter
  | none => .error .noSuchInterpreter

/-- The value that a reference stands for. -/
def resolve (session : Session) : Reference -> Except Complaint Value
  | .step index =>
      match session.values[index]? with
      | some (some value) => .ok value
      | _ => .error .noValue
  | .integer text =>
      match (ofDecimal? text.toList).bind represent? with
      | some value => .ok (.integer value)
      | none => .error .notAnInteger
  | .boolean value => .ok (.boolean value)
  | .null => .ok .null

/-- What can be called in a value. -/
def callable : Value -> Except Complaint Callable
  | .closure callee => .ok callee.callable
  | _ => .error .notAClosure

/-- The frame in which a function was evaluated. -/
def scope : Callable -> Except Complaint FrameId
  | .function literal => .ok literal.scope
  | .builtin _ => .error .noScope

/-- Take over the machine that an interpreter was run on, and fetch what was
printed. -/
def resume (session : Session) (index : Nat) (machine : Machine) : Session × String :=
  ({ session with
      store := { machine.toStore with sink := machine.sink.drain }
      interpreters := session.interpreters.set index machine.interpreter },
    machine.sink.text)

/-- Run a program on an interpreter. -/
def evaluate (session : Session) (index : Nat) (interpreter : Interpreter) (program : Program) :
    Answer × Session :=
  let (outcome, machine) := program.run (interpreter.machine session.store)
  let (later, printed) := session.resume index machine
  (.evaluated outcome printed, later)

/-- The frames from a frame outward, as a look-up shows them. -/
def view (session : Session) (frame : FrameId) (names : List String) : List FrameView :=
  (session.store.frames.chain frame).map fun frame =>
    ⟨names.map fun name => (name, session.store.frames.find? frame name),
      session.store.frames.description frame⟩

/-- The answer to a step and the session behind it, without the value of the step
being kept. -/
def answer (session : Session) : Step -> Except Complaint (Answer × Session)
  | .evaluate index source =>
      match parse source with
      | .error diagnostics => return (.unparsed diagnostics, session)
      | .ok program => do
          let interpreter ← session.interpreter index
          return session.evaluate index interpreter program
  | .new =>
      let (interpreter, store) := Interpreter.new session.store
      return (.interpreter session.interpreters.length,
        { session with store := store, interpreters := session.interpreters ++ [interpreter] })
  | .clone index => do
      let interpreter ← session.interpreter index
      return (.interpreter session.interpreters.length,
        { session with interpreters := session.interpreters ++ [interpreter] })
  | .value of => do
      return (.value (← session.resolve of), session)
  | .equal left right => do
      let first ← session.resolve left
      let second ← session.resolve right
      return (.equal (first.equals second), session)
  | .inspect of => do
      return (.callable (← callable (← session.resolve of)), session)
  | .lookup of names => do
      let frame ← scope (← callable (← session.resolve of))
      return (.frames (session.view frame names), session)
  | .declare of name value => do
      let target ← session.resolve of
      let bound ← session.resolve value
      let frame ← scope (← callable target)
      return (.declared name, { session with
        store := { session.store with
          frames := session.store.frames.declare frame name bound } })
  | .call index of arguments => do
      let interpreter ← session.interpreter index
      let target ← session.resolve of
      let values ← arguments.mapM session.resolve
      let callee ← callable target
      let (outcome, machine) := callee.callOn values (interpreter.machine session.store)
      let (later, printed) := session.resume index machine
      return (.called outcome printed, later)
  | .describe index => do
      let interpreter ← session.interpreter index
      return (.description (interpreter.description session.store.frames), session)
  | .describeValue of => do
      return (.description (← session.resolve of).description, session)

/-- Take a step and keep its value. -/
def take (session : Session) (step : Step) : Answer × Session :=
  let (answer, later) := match session.answer step with
    | .ok answered => answered
    | .error complaint => (.refused complaint, session)
  (answer, { later with values := later.values ++ [answer.value?] })

/-- The answers to a series of steps. -/
def answers (session : Session) : List Step -> List Answer
  | [] => []
  | step :: later =>
      let (answer, behind) := session.take step
      answer :: behind.answers later

end Session

end MonkeyLang
