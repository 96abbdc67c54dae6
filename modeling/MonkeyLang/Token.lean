import MonkeyLang.Text.Decimal

namespace MonkeyLang

open Text

/-!
# Tokens

A token is the smallest part of a source text that the grammar looks at.  It
keeps its exact characters and the place where they stand, so that diagnostics
and syntax trees can point back into the source.
-/

/-- The kinds of token.  `illegal` is a character that starts no other token,
and `ending` stands after the last character of the source. -/
inductive TokenType where
  | leftParenthesis | rightParenthesis | leftBrace | rightBrace
  | comma | semicolon | minus | plus | slash | star | less | greater
  | bang | bangEqual | assign | equalEqual
  | identifier | integer
  | letWord | functionWord | trueWord | falseWord | ifWord | elseWord | returnWord
  | illegal | ending
  deriving DecidableEq

/-- All kinds of token. -/
def TokenType.all : List TokenType :=
  [.leftParenthesis, .rightParenthesis, .leftBrace, .rightBrace, .comma, .semicolon, .minus,
    .plus, .slash, .star, .less, .greater, .bang, .bangEqual, .assign, .equalEqual, .identifier,
    .integer, .letWord, .functionWord, .trueWord, .falseWord, .ifWord, .elseWord, .returnWord,
    .illegal, .ending]

/-- The name of a kind of token in diagnostics and listings: a symbol names
itself, every other kind has a word in capitals. -/
def TokenType.text : TokenType -> String
  | .leftParenthesis => "("
  | .rightParenthesis => ")"
  | .leftBrace => "\x7b"
  | .rightBrace => "\x7d"
  | .comma => ","
  | .semicolon => ";"
  | .minus => "-"
  | .plus => "+"
  | .slash => "/"
  | .star => "*"
  | .less => "<"
  | .greater => ">"
  | .bang => "!"
  | .bangEqual => "!="
  | .assign => "="
  | .equalEqual => "=="
  | .identifier => "IDENT"
  | .integer => "INT"
  | .letWord => "LET"
  | .functionWord => "FUNCTION"
  | .trueWord => "TRUE"
  | .falseWord => "FALSE"
  | .ifWord => "IF"
  | .elseWord => "ELSE"
  | .returnWord => "RETURN"
  | .illegal => "ILLEGAL"
  | .ending => "EOF"

/-- The place of a token: the line and column of its first character, both
counted from one, and the number of its characters.  No token spans two lines,
so line and width determine the end. -/
structure Span where
  line : Nat
  column : Nat
  width : Nat
  deriving DecidableEq

namespace Span

/-- The place of a token in a tree that was not read from a source. -/
def nowhere : Span := ⟨0, 0, 0⟩

/-- The line of the last character. -/
def endLine (span : Span) : Nat := span.line

/-- The column behind the last character. -/
def endColumn (span : Span) : Nat := span.column + span.width

/-- The text `line:column`. -/
def text (span : Span) : String :=
  natural span.line ++ ":" ++ natural span.column

end Span

/-- A kind of token, its characters and their place. -/
structure Token where
  type : TokenType
  lexeme : String
  span : Span
  deriving DecidableEq

end MonkeyLang
