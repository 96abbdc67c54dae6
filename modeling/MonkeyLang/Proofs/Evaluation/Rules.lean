import MonkeyLang.Evaluation.Interpreter

namespace MonkeyLang

/-!
# The rules of evaluation

The relations below say how a run of each kind of tree ends, and when a call
ends.  They bound nothing: a call runs the body of the function that it calls,
whose run may call again, and there is a derivation only where all of this comes
to an end.  What limits the depth of calls is the check that the rules for calls
make, on the depth that the machine itself counts.

Each relation also carries the number of calls of the program around the present
one, which no rule looks at, and a property of this number and the machine that
has to hold wherever a run of a tree or of a call starts.  With the property that
always holds, a derivation says no more than how the run ends.
-/

/-- How a run ends: with an answer or with an exit, and on which machine. -/
abbrev Ending (α : Type) := EStateM.Result Exit Machine α

/-- A run that was made already. -/
def Run.ended {α : Type} (ending : Ending α) : Run α := fun _ => ending

/-- What a value stands for when it is called with a number of arguments, or why
it cannot be called with them. -/
def Value.accepts (value : Value) (given : Nat) : Except Failure Callable :=
  match value with
  | .closure callee =>
      match callee.callable.arity with
      | none => .ok callee.callable
      | some expected =>
          if given = expected then .ok callee.callable
          else .error (.wrongArity callee.callable given expected)
  | other => .error (.notCallable other.type)

section

variable (along : Nat -> Machine -> Prop)

mutual

/-- How the evaluation of an expression ends. -/
inductive Evaluates : Nat -> Expression -> Machine -> Ending Value -> Prop
  | identifier {nested name machine} :
      along nested machine ->
      Evaluates nested (.identifier name) machine (Run.lookup name.name machine)
  | integer {nested token value machine} :
      along nested machine ->
      Evaluates nested (.integer token value) machine (.ok (.integer value) machine)
  | boolean {nested token value machine} :
      along nested machine ->
      Evaluates nested (.boolean token value) machine (.ok (.boolean value) machine)
  | unary {nested token operator operand machine ending} :
      along nested machine -> Evaluates nested operand machine ending ->
      Evaluates nested (.unary token operator operand) machine
        ((Run.ended ending >>= fun value => Run.ofResult (operator.apply value)) machine)
  | leftExit {nested token left operator right machine exit after} :
      along nested machine -> Evaluates nested left machine (.error exit after) ->
      Evaluates nested (.binary token left operator right) machine (.error exit after)
  | binary {nested token left operator right machine first after ending} :
      along nested machine -> Evaluates nested left machine (.ok first after) ->
      Evaluates nested right after ending ->
      Evaluates nested (.binary token left operator right) machine
        ((Run.ended ending >>= fun second => Run.ofResult (operator.apply first second)) machine)
  | conditionExit {nested token condition consequence alternative machine exit after} :
      along nested machine -> Evaluates nested condition machine (.error exit after) ->
      Evaluates nested (.conditional token condition consequence alternative) machine
        (.error exit after)
  | consequence {nested token condition consequence alternative machine test after ending} :
      along nested machine -> Evaluates nested condition machine (.ok test after) ->
      test.isTruthy = true -> EvaluatesBlock nested consequence after ending ->
      Evaluates nested (.conditional token condition consequence alternative) machine ending
  | alternative {nested token condition consequence alternative machine test after ending} :
      along nested machine -> Evaluates nested condition machine (.ok test after) ->
      test.isTruthy = false -> EvaluatesBlock nested alternative after ending ->
      Evaluates nested (.conditional token condition consequence (some alternative)) machine ending
  | noAlternative {nested token condition consequence machine test after} :
      along nested machine -> Evaluates nested condition machine (.ok test after) ->
      test.isTruthy = false ->
      Evaluates nested (.conditional token condition consequence none) machine (.ok .null after)
  | function {nested token parameters body machine} :
      along nested machine ->
      Evaluates nested (.function token parameters body) machine
        (Run.close parameters body machine)
  | calleeExit {nested token callee arguments machine exit after} :
      along nested machine -> Evaluates nested callee machine (.error exit after) ->
      Evaluates nested (.call token callee arguments) machine (.error exit after)
  | rejected {nested token callee arguments machine value after failure} :
      along nested machine -> Evaluates nested callee machine (.ok value after) ->
      value.accepts arguments.length = .error failure ->
      Evaluates nested (.call token callee arguments) machine (.error (.failed failure) after)
  | argumentsExit {nested token callee arguments machine value after callable exit behind} :
      along nested machine -> Evaluates nested callee machine (.ok value after) ->
      value.accepts arguments.length = .ok callable ->
      EvaluatesAll nested arguments after (.error exit behind) ->
      Evaluates nested (.call token callee arguments) machine (.error exit behind)
  | exceeded {nested token callee arguments machine value after callable values behind} :
      along nested machine -> Evaluates nested callee machine (.ok value after) ->
      value.accepts arguments.length = .ok callable ->
      EvaluatesAll nested arguments after (.ok values behind) ->
      ¬ behind.depth < maximumCallDepth ->
      Evaluates nested (.call token callee arguments) machine
        (.error (.failed .callDepthExceeded) behind)
  | called {nested token callee arguments machine value after callable values behind ending} :
      along nested machine -> Evaluates nested callee machine (.ok value after) ->
      value.accepts arguments.length = .ok callable ->
      EvaluatesAll nested arguments after (.ok values behind) ->
      behind.depth < maximumCallDepth ->
      CallEnds (nested + 1) callable values { behind with depth := behind.depth + 1 } ending ->
      Evaluates nested (.call token callee arguments) machine ((Run.ended ending).oneDeeper behind)

/-- How the evaluation of expressions, one after another, ends. -/
inductive EvaluatesAll : Nat -> List Expression -> Machine -> Ending (List Value) -> Prop
  | nil {nested machine} :
      along nested machine -> EvaluatesAll nested [] machine (.ok [] machine)
  | headExit {nested tree later machine exit after} :
      along nested machine -> Evaluates nested tree machine (.error exit after) ->
      EvaluatesAll nested (tree :: later) machine (.error exit after)
  | cons {nested tree later machine value after ending} :
      along nested machine -> Evaluates nested tree machine (.ok value after) ->
      EvaluatesAll nested later after ending ->
      EvaluatesAll nested (tree :: later) machine
        ((Run.ended ending >>= fun values => pure (value :: values)) machine)

/-- How the execution of a statement ends. -/
inductive Executes : Nat -> Statement -> Machine -> Ending (Option Value) -> Prop
  | binding {nested token name value machine ending} :
      along nested machine -> Evaluates nested value machine ending ->
      Executes nested (.binding token name value) machine
        ((Run.ended ending >>= fun bound => do
          Run.declare name.name bound
          return none) machine)
  | bareReturn {nested token machine} :
      along nested machine ->
      Executes nested (.returning token none) machine (.error (.returned .null) machine)
  | returning {nested token value machine ending} :
      along nested machine -> Evaluates nested value machine ending ->
      Executes nested (.returning token (some value)) machine
        ((Run.ended ending >>= fun result => throw (.returned result)) machine)
  | expression {nested token value machine ending} :
      along nested machine -> Evaluates nested value machine ending ->
      Executes nested (.expression token value) machine
        ((Run.ended ending >>= fun result => pure (some result)) machine)

/-- How the evaluation of a branch ends. -/
inductive EvaluatesBlock : Nat -> Block -> Machine -> Ending Value -> Prop
  | mk {nested token statements machine ending} :
      along nested machine -> ExecutesAll nested none statements machine ending ->
      EvaluatesBlock nested (.mk token statements) machine
        ((Run.ended ending >>= fun last => pure (last.getD .null)) machine)

/-- How the execution of statements, one after another, ends. -/
inductive ExecutesAll :
    Nat -> Option Value -> List Statement -> Machine -> Ending (Option Value) -> Prop
  | nil {nested last machine} :
      along nested machine -> ExecutesAll nested last [] machine (.ok last machine)
  | headExit {nested last tree later machine exit after} :
      along nested machine -> Executes nested tree machine (.error exit after) ->
      ExecutesAll nested last (tree :: later) machine (.error exit after)
  | cons {nested last tree later machine value after ending} :
      along nested machine -> Executes nested tree machine (.ok value after) ->
      ExecutesAll nested value later after ending ->
      ExecutesAll nested last (tree :: later) machine ending

/-- How a call ends, on the machine of the callee. -/
inductive CallEnds : Nat -> Callable -> List Value -> Machine -> Ending Value -> Prop
  | puts {nested arguments machine} :
      along nested machine ->
      CallEnds nested (.builtin .puts) arguments machine (Run.printAll arguments machine)
  | function {nested literal arguments machine ending} :
      along nested machine ->
      ExecutesAll nested none literal.body.statements
        { machine with
          frames := machine.frames.push (literal.frame arguments)
          scope := machine.frames.size } ending ->
      CallEnds nested (.function literal) arguments machine
        (Run.inNewFrame (literal.frame arguments) (Run.catchReturn (Run.ended ending)) machine)

end

/-- How the statements of a program end, which no call is around. -/
inductive StatementsEnd : Option Value -> List Statement -> Machine ->
    Except RuntimeError (Option Value) × Machine -> Prop
  | nil {last machine} : along 0 machine -> StatementsEnd last [] machine (.ok last, machine)
  | cons {last tree later machine value after report} :
      along 0 machine -> Executes along 0 tree machine (.ok value after) ->
      StatementsEnd value later after report ->
      StatementsEnd last (tree :: later) machine report
  | returned {last tree later machine value after} :
      along 0 machine -> Executes along 0 tree machine (.error (.returned value) after) ->
      StatementsEnd last (tree :: later) machine (.ok (some value), after)
  | failed {last tree later machine failure after} :
      along 0 machine -> Executes along 0 tree machine (.error (.failed failure) after) ->
      StatementsEnd last (tree :: later) machine (.error ⟨failure, tree⟩, after)

/-- How a program ends. -/
def ProgramEnds (program : Program) (machine : Machine)
    (report : Except RuntimeError (Option Value) × Machine) : Prop :=
  StatementsEnd along none program.statements machine report

end

end MonkeyLang
