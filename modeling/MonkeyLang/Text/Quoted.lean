import MonkeyLang.Text.Visible

namespace MonkeyLang
namespace Text

/-!
# Quoted text

Between quotation marks the mark itself, the backslash and the usual control
characters are written as a backslash and a sign, and every other character that
does not show by itself is written as its code point.
-/

/-- A character as it is written between quotation marks. -/
def quotedCharacter (character : Char) : String :=
  match character with
  | '\x00' => "\\0"
  | '\t' => "\\t"
  | '\n' => "\\n"
  | '\r' => "\\r"
  | '"' => "\\\""
  | '\\' => "\\\\"
  | _ =>
      if isVisible character then String.singleton character
      else "\\u\x7b" ++ String.ofList (Nat.toDigits 16 character.toNat) ++ "\x7d"

/-- A text between quotation marks. -/
def quoted (text : String) : String :=
  "\"" ++ String.join (text.toList.map quotedCharacter) ++ "\""

end Text
end MonkeyLang
