import MonkeyLang.Evaluation.Interpreter
import MonkeyLang.Text.Quoted

namespace MonkeyLang

open Text

/-!
# Descriptions of the inside

A description shows the inside of a value, a frame or an interpreter: records
with their fields, and texts between quotation marks.  Places in memory are all
written alike, since nothing may depend on them.  A frame lists its bindings in
order of the names.
-/

/-- The sign for a place in memory. -/
def addressText : String := "0x_"

/-- A record with its name and its fields. -/
def recordText (name : String) (fields : List (String × String)) : String :=
  name ++ " \x7b " ++ separated ", " (fields.map fun field => field.1 ++ ": " ++ field.2) ++ " \x7d"

/-- Items between square brackets. -/
def bracketed (items : List String) : String := "[" ++ separated ", " items ++ "]"

/-- The kinds of token by the names that descriptions use. -/
def TokenType.label : TokenType -> String
  | .leftParenthesis => "LeftParen"
  | .rightParenthesis => "RightParen"
  | .leftBrace => "LeftBrace"
  | .rightBrace => "RightBrace"
  | .comma => "Comma"
  | .semicolon => "Semicolon"
  | .minus => "Minus"
  | .plus => "Plus"
  | .slash => "Slash"
  | .star => "Star"
  | .less => "Less"
  | .greater => "Greater"
  | .bang => "Bang"
  | .bangEqual => "BangEqual"
  | .assign => "Assign"
  | .equalEqual => "EqualEqual"
  | .identifier => "Identifier"
  | .integer => "Int"
  | .letWord => "Let"
  | .functionWord => "Function"
  | .trueWord => "True"
  | .falseWord => "False"
  | .ifWord => "If"
  | .elseWord => "Else"
  | .returnWord => "Return"
  | .illegal => "Illegal"
  | .ending => "Eof"

/-- The kind of token with a name. -/
def TokenType.ofLabel? (label : String) : Option TokenType :=
  all.find? (·.label == label)

/-- The description of the place of a token. -/
def Span.description (span : Span) : String :=
  recordText "Span" [("start_line", natural span.line), ("start_column", natural span.column),
    ("end_line", natural span.endLine), ("end_column", natural span.endColumn)]

/-- The description of a token. -/
def Token.description (token : Token) : String :=
  recordText "Token" [("token_type", token.type.label), ("lexeme", quoted token.lexeme),
    ("span", token.span.description)]

/-- The description of a name. -/
def Identifier.description (identifier : Identifier) : String :=
  recordText "Identifier"
    [("token", identifier.token.description), ("name", quoted identifier.name)]

/-- The description of what can be called. -/
def Callable.description : Callable -> String
  | .function literal =>
      "Function(" ++ recordText "CallableFunction" [("scope", addressText),
        ("parameters", bracketed (literal.parameters.map Identifier.description)),
        ("body", quoted literal.body.render)] ++ ")"
  | .builtin named =>
      "Builtin(" ++ recordText "Builtin" [("name", quoted named.name),
        ("arity", match named.arity with
          | none => "None"
          | some arity => "Some(" ++ natural arity ++ ")"),
        ("function", addressText)] ++ ")"

/-- The description of a value. -/
def Value.description : Value -> String
  | .integer value => "Integer(" ++ decimal value.toInt ++ ")"
  | .boolean value => "Boolean(" ++ (if value then "true" else "false") ++ ")"
  | .closure callee => "Closure(" ++ callee.callable.description ++ ")"
  | .null => "Null"

namespace Frame

/-- The names that a frame binds, in order, with the texts of their values. -/
def listing (frame : Frame) : List (String × String) :=
  frame.bindings.map fun binding => (binding.1, binding.2.text)

/-- The description of a frame. -/
def description (frame : Frame) : String :=
  recordText ("Scope<" ++ addressText ++ ">")
    [("values", bracketed (frame.listing.map fun pair =>
        "(" ++ quoted pair.1 ++ ", " ++ quoted pair.2 ++ ")")),
      ("parent", match frame.parent with
        | none => "None"
        | some _ => "Some(" ++ addressText ++ ")")]

end Frame

/-- The description of the frame with a number. -/
def Frames.description (frames : Frames) (frame : FrameId) : String :=
  match frames[frame]? with
  | none => ""
  | some found => found.description

/-- The description of an interpreter. -/
def Interpreter.description (interpreter : Interpreter) (frames : Frames) : String :=
  recordText "Interpreter"
    [("scope", recordText "RefCell" [("value", frames.description interpreter.scope)]),
      ("depth", natural interpreter.depth)]

end MonkeyLang
