import MonkeyLang.Evaluation.Machine
import MonkeyLang.Evaluation.Operation

namespace MonkeyLang

/-!
# Evaluation

Evaluation walks a tree.  The body of a called function is not a part of that
tree, so the walk is given what a call does, and never calls itself for it.
Calls are then defined by the number of calls that may still be nested: the
body of a function is walked with calls of which one less may be nested.  Since
at most `maximumCallDepth` calls are ever nested, this number is always enough,
and nothing is left out.
-/

section Walk

variable (call : Callable -> List Value -> Run Value)

mutual

/-- The value of an expression. -/
def evaluate : Expression -> Run Value
  | .identifier name => Run.lookup name.name
  | .integer _ value => pure (.integer value)
  | .boolean _ value => pure (.boolean value)
  | .unary _ operator operand => do
      let value ← evaluate operand
      Run.ofResult (operator.apply value)
  | .binary _ left operator right => do
      let first ← evaluate left
      let second ← evaluate right
      Run.ofResult (operator.apply first second)
  | .conditional _ condition consequence none => do
      let test ← evaluate condition
      if test.isTruthy then evaluateBlock consequence else pure .null
  | .conditional _ condition consequence (some alternative) => do
      let test ← evaluate condition
      if test.isTruthy then evaluateBlock consequence else evaluateBlock alternative
  | .function _ parameters body => Run.close parameters body
  | .call _ callee arguments => do
      let value ← evaluate callee
      let callable ← Run.callable value
      Run.checkArity callable arguments.length
      let values ← evaluateAll arguments
      (call callable values).oneDeeper
termination_by structural tree => tree

/-- The values of expressions, evaluated in order. -/
def evaluateAll : List Expression -> Run (List Value)
  | [] => pure []
  | expression :: later => do
      let value ← evaluate expression
      let values ← evaluateAll later
      return value :: values
termination_by structural trees => trees

/-- Execute a statement.  Only an expression has a value. -/
def execute : Statement -> Run (Option Value)
  | .binding _ name value => do
      let bound ← evaluate value
      Run.declare name.name bound
      return none
  | .returning _ none => throw (.returned .null)
  | .returning _ (some value) => do
      let result ← evaluate value
      throw (.returned result)
  | .expression _ value => do
      let result ← evaluate value
      return some result
termination_by structural tree => tree

/-- The value of a branch: that of its last statement, or else null.  A branch
binds names in the present frame. -/
def evaluateBlock : Block -> Run Value
  | .mk _ statements => do
      let last ← executeAll none statements
      return last.getD .null
termination_by structural tree => tree

/-- Execute statements in order.  The value is that of the last one. -/
def executeAll (last : Option Value) : List Statement -> Run (Option Value)
  | [] => pure last
  | statement :: later => do
      let value ← execute statement
      executeAll value later
termination_by structural trees => trees

end

end Walk

/-- Call something with arguments, where only a number of calls may be nested,
this one included. -/
def callWithin : Nat -> Callable -> List Value -> Run Value
  | 0, _, _ => Run.fail .callDepthExceeded
  | _ + 1, .builtin .puts, arguments => Run.printAll arguments
  | levels + 1, .function function, arguments =>
      Run.inNewFrame (function.frame arguments)
        (Run.catchReturn (executeAll (callWithin levels) none function.body.statements))

/-- Call something from outside a program.  The number of arguments is not
checked, and the call itself does not count in the depth of calls. -/
def Callable.call (callable : Callable) (arguments : List Value) : Run Value :=
  callWithin (maximumCallDepth + 1) callable arguments

/-- Call something from inside a program. -/
def Callable.nestedCall (callable : Callable) (arguments : List Value) : Run Value :=
  callWithin maximumCallDepth callable arguments

/-- The value of an expression of a program. -/
def Expression.evaluate (expression : Expression) : Run Value :=
  MonkeyLang.evaluate Callable.nestedCall expression

/-- Execute a statement of a program. -/
def Statement.execute (statement : Statement) : Run (Option Value) :=
  MonkeyLang.execute Callable.nestedCall statement

end MonkeyLang
