import MonkeyLang.Evaluation.Evaluate

namespace MonkeyLang

/-!
# Interpreters

An interpreter runs programs one after another in a global frame of its own, in
which the built-in functions are bound.  Several interpreters may share a store,
and a copy of an interpreter shares its global frame.
-/

/-- Execute the statements of a program in order.  A `return` ends the program
with its value; a failure ends it with the statement during which it
happened. -/
def runStatements (last : Option Value) :
    List Statement -> Machine -> Except RuntimeError (Option Value) × Machine
  | [], machine => (.ok last, machine)
  | statement :: later, machine =>
      match statement.execute machine with
      | .ok value after => runStatements value later after
      | .error (.returned value) after => (.ok (some value), after)
      | .error (.failed failure) after => (.error ⟨failure, statement⟩, after)

section

variable {last value : Option Value} {statement : Statement} {later : List Statement}
  {machine after : Machine}

theorem runStatements_of_ok (ended : statement.execute machine = .ok value after) :
    runStatements last (statement :: later) machine = runStatements value later after := by
  rw [runStatements, ended]

theorem runStatements_of_returned {value : Value}
    (ended : statement.execute machine = .error (.returned value) after) :
    runStatements last (statement :: later) machine = (.ok (some value), after) := by
  rw [runStatements, ended]

theorem runStatements_of_failed {failure : Failure}
    (ended : statement.execute machine = .error (.failed failure) after) :
    runStatements last (statement :: later) machine = (.error ⟨failure, statement⟩, after) := by
  rw [runStatements, ended]

end

/-- Run a program.  Its value is that of its last statement, which has none
unless it is an expression. -/
def Program.run (program : Program) (machine : Machine) :
    Except RuntimeError (Option Value) × Machine :=
  runStatements none program.statements machine

/-- The frame that an interpreter binds names in, and the depth of its calls. -/
structure Interpreter where
  scope : FrameId
  depth : Nat := 0
  deriving DecidableEq

namespace Interpreter

/-- The built-in functions. -/
def builtins : List Builtin := [.puts]

/-- The bindings of the built-in functions, with identities from a number on. -/
def builtinBindings (identity : Nat) : List Builtin -> List (String × Value)
  | [] => []
  | named :: later =>
      (named.name, .closure ⟨identity, .builtin named⟩) :: builtinBindings (identity + 1) later

/-- A new interpreter with a global frame of its own. -/
def new (store : Store) : Interpreter × Store :=
  let globals := (Frame.empty none).declareAll (builtinBindings store.identities builtins)
  ({ scope := store.frames.size },
    { store with
      frames := store.frames.push globals
      identities := store.identities + builtins.length })

/-- The machine of an interpreter. -/
def machine (interpreter : Interpreter) (store : Store) : Machine :=
  { store with scope := interpreter.scope, depth := interpreter.depth }

end Interpreter

/-- The interpreter that a machine belongs to. -/
def Machine.interpreter (machine : Machine) : Interpreter := ⟨machine.scope, machine.depth⟩

/-- The machine of the first interpreter in an empty store. -/
def Machine.fresh (room : Option Nat) : Machine :=
  let (interpreter, store) := Interpreter.new { sink := { room := room } }
  interpreter.machine store

/-- Call something from outside a program. -/
def Callable.callOn (callable : Callable) (arguments : List Value) (machine : Machine) :
    Except Failure Value × Machine :=
  match callable.call arguments machine with
  | .ok value after => (.ok value, after)
  | .error (.returned value) after => (.ok value, after)
  | .error (.failed failure) after => (.error failure, after)

namespace Callable

variable {callable : Callable} {arguments : List Value} {machine after : Machine}

theorem callOn_of_ok {value : Value} (ended : callable.call arguments machine = .ok value after) :
    callable.callOn arguments machine = (.ok value, after) := by
  rw [callOn, ended]

theorem callOn_of_returned {value : Value}
    (ended : callable.call arguments machine = .error (.returned value) after) :
    callable.callOn arguments machine = (.ok value, after) := by
  rw [callOn, ended]

theorem callOn_of_failed {failure : Failure}
    (ended : callable.call arguments machine = .error (.failed failure) after) :
    callable.callOn arguments machine = (.error failure, after) := by
  rw [callOn, ended]

end Callable

end MonkeyLang
