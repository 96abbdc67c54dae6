import MonkeyLang.CommandLine
import MonkeyLang.Proofs.Text.Lines

namespace MonkeyLang

open Text

/-!
# Inputs that are texts

An input is a series of bytes, which is a text if it is the encoding of one.  The byte of a
line feed occurs in the encoding of line feeds alone.  So it makes no difference whether an
input is cut into lines before or after it is read as a text, and every line of a text is one.
-/

/-- A text is read from its own bytes, and from no others. -/
theorem Command.textOf_eq_some_iff {input : ByteArray} {source : String} :
    textOf input = some source ↔ input = source.toByteArray := by
  rw [textOf, String.fromUTF8?]
  constructor
  · intro text
    split at text
    · cases text
      rfl
    · cases text
  · rintro rfl
    exact dif_pos source.isValidUTF8

namespace Text

/-- The bytes of a text are those of its characters. -/
theorem bytes_eq_flatMap (text : String) :
    bytes text = text.toList.flatMap String.utf8EncodeChar := by
  have encoded : (String.ofList text.toList).toByteArray = text.toList.utf8Encode :=
    String.toByteArray_ofList
  rw [String.ofList_toList] at encoded
  rw [bytes, encoded, List.utf8Encode, List.data_toByteArray]

theorem bytes_append (first second : String) :
    bytes (first ++ second) = bytes first ++ bytes second := by
  rw [bytes_eq_flatMap, String.toList_append, List.flatMap_append, ← bytes_eq_flatMap,
    ← bytes_eq_flatMap]

theorem textOf_bytes (text : String) : Command.textOf ⟨(bytes text).toArray⟩ = some text := by
  rw [Command.textOf_eq_some_iff, bytes, Array.toArray_toList]

theorem map_textOf_bytes (texts : List String) :
    (texts.map bytes).map (fun bytes => Command.textOf ⟨bytes.toArray⟩) = texts.map some := by
  rw [List.map_map]
  exact List.map_congr_left fun text _ => textOf_bytes text

/-- No other character has the byte of a line feed in its encoding. -/
theorem feed_notMem_encoding {character : Char} (other : character ≠ '\n') :
    (10 : UInt8) ∉ String.utf8EncodeChar character := by
  have apart : character.val.toNat ≠ 10 := fun same => other (Char.ext (UInt32.toNat_inj.mp same))
  have ne {byte : Nat} (different : byte % 256 ≠ 10) : (10 : UInt8) ≠ UInt8.ofNat byte := by
    intro same
    have number : (10 : Nat) = byte % 256 := congrArg UInt8.toNat same
    exact different number.symm
  unfold String.utf8EncodeChar
  dsimp only
  -- the bytes of a character that has several are all above those of single ones
  split
  · simp only [List.mem_singleton]
    exact ne (by omega)
  · split
    · simp only [List.mem_cons, List.not_mem_nil, or_false, not_or]
      refine ⟨ne ?_, ne ?_⟩ <;> omega
    · split
      · simp only [List.mem_cons, List.not_mem_nil, or_false, not_or]
        refine ⟨ne ?_, ne ?_, ne ?_⟩ <;> omega
      · simp only [List.mem_cons, List.not_mem_nil, or_false, not_or]
        refine ⟨ne ?_, ne ?_, ne ?_, ne ?_⟩ <;> omega

theorem encoding_ne_nil (character : Char) : String.utf8EncodeChar character ≠ [] := by
  unfold String.utf8EncodeChar
  dsimp only
  split
  · exact List.cons_ne_nil _ _
  · split
    · exact List.cons_ne_nil _ _
    · split <;> exact List.cons_ne_nil _ _

/-- A session cuts its input at the bytes of line feeds. -/
theorem splitLines_eq_piecesAt (input : List UInt8) :
    Repl.splitLines input = piecesAt 10 input := by
  induction input with
  | nil => rfl
  | cons byte later ih =>
      rw [Repl.splitLines, piecesAt, ih]
      split
      · rfl
      · cases piecesAt 10 later <;> rfl

/-- Lines in front of any bytes are found again, even if the bytes are no text. -/
theorem splitLines_asLines_append {lines : List String}
    (solid : ∀ line ∈ lines, '\n' ∉ line.toList) (behind : List UInt8) :
    Repl.splitLines (bytes (asLines lines) ++ behind) =
      lines.map bytes ++ Repl.splitLines behind := by
  simp only [splitLines_eq_piecesAt]
  induction lines with
  | nil => rfl
  | cons line later ih =>
      have parts := List.forall_mem_cons.mp solid
      have apart : (10 : UInt8) ∉ bytes line := by
        rw [bytes_eq_flatMap, List.mem_flatMap]
        rintro ⟨character, listed, inside⟩
        exact feed_notMem_encoding (fun same => parts.1 (same ▸ listed)) inside
      have first : bytes (asLines (line :: later)) = bytes line ++ 10 :: bytes (asLines later) := by
        rw [asLines, bytes_append, bytes_append, List.append_assoc]
        rfl
      rw [first, List.append_assoc, List.cons_append, piecesAt_append apart, ih parts.2,
        List.map_cons, List.cons_append]

/-- The lines of the bytes of a text are the bytes of its lines. -/
theorem splitLines_bytes (text : String) :
    Repl.splitLines (bytes text) = (linesOf text).map bytes := by
  have encoded : bytes ∘ String.ofList = fun line => line.flatMap String.utf8EncodeChar := by
    funext line
    rw [Function.comp_apply, bytes_eq_flatMap, String.toList_ofList]
  have feed : String.utf8EncodeChar '\n' = [10] := by decide
  rw [splitLines_eq_piecesAt, bytes_eq_flatMap, linesOf, List.map_map, encoded]
  exact piecesAt_flatMap feed
    (fun other different => ⟨feed_notMem_encoding different, encoding_ne_nil other⟩) _

end Text
end MonkeyLang
