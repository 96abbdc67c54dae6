namespace MonkeyLang
namespace Text

/-!
# Lists in text
-/

/-- Texts with a separator between them. -/
def separated (separator : String) : List String -> String
  | [] => ""
  | [text] => text
  | text :: next :: later => text ++ separator ++ separated separator (next :: later)

/-- Texts as lines, each with a line feed behind it. -/
def asLines : List String -> String
  | [] => ""
  | text :: later => text ++ "\n" ++ asLines later

end Text
end MonkeyLang
