import MonkeyLang.Text.Alphabetic
import MonkeyLang.Text.Blank
import MonkeyLang.Token

namespace MonkeyLang

open Text

/-!
# Reading tokens from characters

A scanner holds the characters that are not read yet and the position of the
first of them.  It passes over blanks and then takes the longest token that
starts where it stands: a run of letters, a run of digits, one of the symbols
`==` and `!=`, or a single character.  At the end of the source it answers the
end token, again and again.
-/

/-- A place between two characters, by the line and column of the second. -/
structure Position where
  line : Nat := 1
  column : Nat := 1
  deriving DecidableEq

namespace Position

/-- The position behind a character.  A line feed, and nothing else, starts a
new line. -/
def after (position : Position) (character : Char) : Position :=
  if character = '\n' then ⟨position.line + 1, 1⟩ else ⟨position.line, position.column + 1⟩

/-- The position behind several characters. -/
def advance (position : Position) (characters : List Char) : Position :=
  characters.foldl after position

theorem advance_nil (position : Position) : position.advance [] = position := rfl

theorem advance_append (position : Position) (first second : List Char) :
    position.advance (first ++ second) = (position.advance first).advance second :=
  List.foldl_append

/-- The place of a token that starts here. -/
def span (position : Position) (width : Nat) : Span :=
  ⟨position.line, position.column, width⟩

end Position

/-- Letters make up names and keywords: the alphabetic characters and the
underscore. -/
def isLetter (character : Char) : Bool :=
  isAlphabetic character || character == '_'

/-- The kinds of the characters that are a token by themselves, whatever
follows them. -/
def TokenType.ofSymbol? : Char -> Option TokenType
  | ';' => some .semicolon
  | '(' => some .leftParenthesis
  | ')' => some .rightParenthesis
  | ',' => some .comma
  | '+' => some .plus
  | '-' => some .minus
  | '/' => some .slash
  | '*' => some .star
  | '<' => some .less
  | '>' => some .greater
  | '{' => some .leftBrace
  | '}' => some .rightBrace
  | _ => none

/-- The kinds of the runs of letters that are no names. -/
def TokenType.ofKeyword? (word : String) : Option TokenType :=
  if word = "let" then some .letWord
  else if word = "fn" then some .functionWord
  else if word = "true" then some .trueWord
  else if word = "false" then some .falseWord
  else if word = "if" then some .ifWord
  else if word = "else" then some .elseWord
  else if word = "return" then some .returnWord
  else none

/-- A symbol that an equals sign may complete. -/
def completedByEquals (whole alone : TokenType) : List Char -> TokenType × List Char
  | '=' :: _ => (whole, ['='])
  | _ => (alone, [])

/-- The kind of the longest token that starts with `first`, and the characters
it takes from those behind. -/
def longestToken (first : Char) (later : List Char) : TokenType × List Char :=
  if first = '=' then completedByEquals .equalEqual .assign later
  else if first = '!' then completedByEquals .bangEqual .bang later
  else match TokenType.ofSymbol? first with
    | some type => (type, [])
    | none =>
        if isLetter first then
          let run := later.takeWhile isLetter
          ((TokenType.ofKeyword? (String.ofList (first :: run))).getD .identifier, run)
        else if first.isDigit then (.integer, later.takeWhile Char.isDigit)
        else (.illegal, [])

theorem completedByEquals_isPrefix (whole alone : TokenType) (later : List Char) :
    (completedByEquals whole alone later).2 <+: later := by
  unfold completedByEquals
  split
  · exact ⟨_, rfl⟩
  · exact List.nil_prefix

/-- A token takes its characters from the front of what follows. -/
theorem longestToken_isPrefix (first : Char) (later : List Char) :
    (longestToken first later).2 <+: later := by
  unfold longestToken
  split
  · exact completedByEquals_isPrefix _ _ later
  · split
    · exact completedByEquals_isPrefix _ _ later
    · split
      · exact List.nil_prefix
      · split
        · exact List.takeWhile_prefix _
        · split
          · exact List.takeWhile_prefix _
          · exact List.nil_prefix

/-- The characters of a source that are not read yet, and where they start. -/
structure Scanner where
  unread : List Char
  position : Position := {}

namespace Scanner

/-- A scanner at the start of a source. -/
def ofString (source : String) : Scanner := { unread := source.toList }

/-- The first token behind the blanks, and the scanner behind that token.  Only
blanks are left where there is none. -/
def next? (scanner : Scanner) : Option (Token × Scanner) :=
  match scanner.unread.dropWhile isBlank with
  | [] => none
  | first :: later =>
      let start := scanner.position.advance (scanner.unread.takeWhile isBlank)
      let (type, taken) := longestToken first later
      let lexeme := first :: taken
      some (⟨type, String.ofList lexeme, start.span lexeme.length⟩,
        ⟨later.drop taken.length, start.advance lexeme⟩)

/-- The end token of a source stands behind its last character and is empty. -/
def ending (scanner : Scanner) : Token :=
  ⟨.ending, "", (scanner.position.advance scanner.unread).span 0⟩

/-- The scanner behind the last character. -/
def finish (scanner : Scanner) : Scanner :=
  ⟨[], scanner.position.advance scanner.unread⟩

/-- The next token, which is the end token once only blanks are left. -/
def draw (scanner : Scanner) : Token × Scanner :=
  scanner.next?.getD (scanner.ending, scanner.finish)

/-- A token uses up at least its first character. -/
theorem next?_length {scanner later : Scanner} {token : Token}
    (drawn : scanner.next? = some (token, later)) :
    later.unread.length < scanner.unread.length := by
  unfold next? at drawn
  split at drawn
  · exact absurd drawn (by simp)
  · next first behind shape =>
      have shorter := (List.dropWhile_suffix isBlank (l := scanner.unread)).length_le
      simp only [shape, List.length_cons] at shorter
      simp only [Option.some.injEq, Prod.mk.injEq] at drawn
      rw [← drawn.2]
      simp only [List.length_drop]
      omega

/-- All tokens before the end, in order. -/
def tokens (scanner : Scanner) : List Token :=
  match _drawn : scanner.next? with
  | none => []
  | some (token, later) => token :: tokens later
termination_by scanner.unread.length
decreasing_by exact next?_length _drawn

theorem tokens_of_none {scanner : Scanner} (drawn : scanner.next? = none) :
    scanner.tokens = [] := by
  rw [tokens]
  split
  · rfl
  · next shape => simp [drawn] at shape

theorem tokens_of_some {scanner later : Scanner} {token : Token}
    (drawn : scanner.next? = some (token, later)) :
    scanner.tokens = token :: later.tokens := by
  rw [tokens]
  split
  · next shape => simp [drawn] at shape
  · next shape =>
      rw [drawn] at shape
      cases shape
      rfl

/-- The scanner behind a number of tokens, the end token counting as often as
it is drawn. -/
def skip (scanner : Scanner) : Nat -> Scanner
  | 0 => scanner
  | count + 1 => scanner.draw.2.skip count

end Scanner

/-- The tokens of a source, up to and with the end token. -/
def tokensOf (source : String) : List Token :=
  let scanner := Scanner.ofString source
  scanner.tokens ++ [scanner.ending]

end MonkeyLang
