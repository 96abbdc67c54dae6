import MonkeyLang.Text.CharacterClass

namespace MonkeyLang
namespace Text

/-!
# Blank characters

The code points of the property `White_Space`.  They separate tokens and mean
nothing else, and a line of an interactive session is read without the blanks
at its two ends.
-/

/-- The ranges of the property `White_Space`. -/
def blankRanges : Ranges := [
  (0x0009, 0x000D), (0x0020, 0x0020), (0x0085, 0x0085), (0x00A0, 0x00A0), (0x1680, 0x1680),
  (0x2000, 0x200A), (0x2028, 0x2029), (0x202F, 0x202F), (0x205F, 0x205F), (0x3000, 0x3000)]

/-- Whether a character has the property `White_Space`. -/
def isBlank (character : Char) : Bool :=
  blankRanges.contains character.toNat

/-- A text without the blanks before its first and after its last other character. -/
def trim (characters : List Char) : List Char :=
  ((characters.dropWhile isBlank).reverse.dropWhile isBlank).reverse

/-- What is left of a text after its leading blanks starts with no blank. -/
theorem not_isBlank_of_dropWhile {characters later : List Char} {first : Char}
    (shape : characters.dropWhile isBlank = first :: later) : isBlank first = false := by
  induction characters with
  | nil => simp at shape
  | cons head tail ih =>
      cases blank : isBlank head with
      | true => exact ih (by simpa [List.dropWhile, blank] using shape)
      | false =>
          simp only [List.dropWhile, blank] at shape
          exact (List.cons.inj shape).1 ▸ blank

end Text
end MonkeyLang
