namespace MonkeyLang
namespace Text

/-!
# Texts as bytes

Texts are written out in UTF-8.  A writer that takes a limited number of bytes
may stop in the middle of a character; the part of a character that was written
is shown as the replacement character.
-/

/-- The bytes of a text. -/
def bytes (text : String) : List UInt8 := text.toByteArray.data.toList

/-- The characters that a number of bytes has room for. -/
def charactersWithin : Nat -> List Char -> List Char
  | _, [] => []
  | 0, _ :: _ => []
  | room + 1, character :: later =>
      if character.utf8Size ≤ room + 1 then
        character :: charactersWithin (room + 1 - character.utf8Size) later
      else ['\uFFFD']

/-- The text that is shown for the first bytes of a text. -/
def firstBytes (count : Nat) (text : String) : String :=
  if text.utf8ByteSize ≤ count then text
  else String.ofList (charactersWithin count text.toList)

end Text
end MonkeyLang
