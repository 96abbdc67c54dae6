import MonkeyLang.Text.Column
import MonkeyLang.Token.Scanner

namespace MonkeyLang

open Text

/-!
# The listing of tokens

A listing has one line for each token: its kind in a column of ten characters
and its lexeme.  In front stands the number of the source line at the first
token of that line, and a bar at the others.
-/

/-- What stands in front of a token, given the line of the token before it. -/
def listingMargin (previous line : Nat) : String :=
  if line = previous then "   | " else alignRight 4 (natural line) ++ " "

/-- The line of a listing for one token. -/
def Token.listingLine (token : Token) (previous : Nat) : String :=
  listingMargin previous token.span.line ++ alignLeft 10 token.type.text ++ " " ++ token.lexeme

/-- The lines of a listing, given the line of the token before it. -/
def listingLines (previous : Nat) : List Token -> List String
  | [] => []
  | token :: later => token.listingLine previous :: listingLines token.span.line later

/-- The listing of a source, from its first token up to the end token.  Lines
are counted from one, so the first token shows its line. -/
def listing (source : String) : List String :=
  listingLines 0 (tokensOf source)

end MonkeyLang
