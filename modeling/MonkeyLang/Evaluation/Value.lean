import MonkeyLang.Syntax.Equality
import MonkeyLang.Syntax.Render

namespace MonkeyLang

open Text

/-!
# Values

The values of the language are integers, truth values, functions and null.
Functions are told apart by the evaluation that made them and not by what they
contain: each evaluation of a function literal has an identity of its own, and
so has each copy of a built-in function.
-/

/-- The number of a frame of bindings. -/
abbrev FrameId := Nat

/-- The functions that are there without being defined. -/
inductive Builtin where
  | puts
  deriving DecidableEq

/-- The name that a built-in function is bound to. -/
def Builtin.name : Builtin -> String
  | .puts => "puts"

/-- The number of arguments that a built-in function takes, if that is fixed. -/
def Builtin.arity : Builtin -> Option Nat
  | .puts => none

/-- A function literal and the frame in which it was evaluated. -/
structure Function where
  scope : FrameId
  parameters : List Identifier
  body : Block
  deriving DecidableEq

/-- What can be called. -/
inductive Callable where
  | function (literal : Function)
  | builtin (named : Builtin)
  deriving DecidableEq

namespace Callable

/-- The number of arguments that a call has to give, if that is fixed. -/
def arity : Callable -> Option Nat
  | .function literal => some literal.parameters.length
  | .builtin named => named.arity

/-- The names of the parameters from one on that has some index.  In front of each but the
first of all there is a separator. -/
def parameterNames (index : Nat) : List Identifier -> String
  | [] => ""
  | parameter :: later =>
      (if 0 < index then ", " else "") ++ parameter.name ++ parameterNames (index + 1) later

/-- The text of something that can be called. -/
def text : Callable -> String
  | .function literal =>
      "fn(" ++ parameterNames 0 literal.parameters ++ ") " ++ literal.body.render
  | .builtin named => "builtin function " ++ named.name

/-- A separator in front of a name is one behind the name before. -/
theorem name_append_parameterNames (parameter : Identifier) (later : List Identifier)
    (index : Nat) :
    parameter.name ++ parameterNames (index + 1) later =
      renderParameters (parameter :: later) := by
  induction later generalizing parameter index with
  | nil => exact String.append_empty
  | cons next later ih =>
      have behind := ih next (index + 1)
      calc parameter.name ++ parameterNames (index + 1) (next :: later)
          = parameter.name ++ ", " ++ (next.name ++ parameterNames (index + 2) later) := by
            rw [parameterNames, if_pos (Nat.succ_pos index)]
            simp only [String.append_assoc]
        _ = renderParameters (parameter :: next :: later) := by
            rw [behind]
            rfl

/-- A function shows its parameters as its literal does. -/
theorem parameterNames_zero (parameters : List Identifier) :
    parameterNames 0 parameters = renderParameters parameters := by
  cases parameters with
  | nil => rfl
  | cons parameter later =>
      rw [parameterNames, if_neg (Nat.lt_irrefl 0), String.empty_append]
      exact name_append_parameterNames parameter later 0

theorem text_function (literal : Function) :
    (Callable.function literal).text =
      "fn(" ++ renderParameters literal.parameters ++ ") " ++ literal.body.render := by
  rw [← parameterNames_zero]
  rfl

end Callable

/-- Something that can be called, as a value with an identity. -/
structure Closure where
  identity : Nat
  callable : Callable
  deriving DecidableEq

/-- The values of the language. -/
inductive Value where
  | integer (value : Int64)
  | boolean (value : Bool)
  | closure (callee : Closure)
  | null
  deriving DecidableEq

/-- The kinds of values that error texts tell apart. -/
inductive ValueType where
  | integer | boolean | function | builtin | null
  deriving DecidableEq

/-- The name of a kind of values. -/
def ValueType.text : ValueType -> String
  | .integer => "INTEGER"
  | .boolean => "BOOLEAN"
  | .function => "FUNCTION"
  | .builtin => "BUILTIN"
  | .null => "NULL"

namespace Value

/-- The kind of a value. -/
def type : Value -> ValueType
  | .integer _ => .integer
  | .boolean _ => .boolean
  | .closure ⟨_, .function _⟩ => .function
  | .closure ⟨_, .builtin _⟩ => .builtin
  | .null => .null

/-- The text of a value. -/
def text : Value -> String
  | .integer value => decimal value.toInt
  | .boolean value => if value then "true" else "false"
  | .closure callee => callee.callable.text
  | .null => "null"

/-- Whether a value counts as true in a condition: all do but false and null. -/
def isTruthy : Value -> Bool
  | .boolean value => value
  | .null => false
  | _ => true

/-- The equality of the language.  Values of different kinds are unequal, and
functions are equal only to themselves. -/
def equals : Value -> Value -> Bool
  | .integer left, .integer right => left = right
  | .boolean left, .boolean right => left = right
  | .closure left, .closure right => left.identity = right.identity
  | .null, .null => true
  | _, _ => false

end Value

end MonkeyLang
