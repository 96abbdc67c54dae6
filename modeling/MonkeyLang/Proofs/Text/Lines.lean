import MonkeyLang.Text.Separated

namespace MonkeyLang
namespace Text

/-!
# Texts in pieces

A text is cut behind each of its line feeds, or at its spaces, and so are bytes.  What is cut
out is known piece by piece, as long as the sign at which the text is cut is in none of the
pieces.  Lines that were written one after another are therefore found again, and they are the
same in a text and in any encoding of it that keeps line feeds apart.
-/

section

variable {α β : Type} [DecidableEq α] [DecidableEq β]

/-- The pieces of a list that end with a sign, without the sign.  What is left behind the last
one is a piece, too, unless it is empty. -/
def piecesAt (sign : α) : List α -> List (List α)
  | [] => []
  | first :: later =>
      if first = sign then [] :: piecesAt sign later
      else (first :: (piecesAt sign later).headD []) :: (piecesAt sign later).tail

variable {sign : α} {piece : List α}

/-- What does not end goes on in the first piece behind it. -/
theorem piecesAt_append_of_ne_nil (solid : sign ∉ piece) (inhabited : piece ≠ [])
    (later : List α) :
    piecesAt sign (piece ++ later) =
      (piece ++ (piecesAt sign later).headD []) :: (piecesAt sign later).tail := by
  induction piece with
  | nil => exact absurd rfl inhabited
  | cons first rest ih =>
      rw [List.mem_cons, not_or] at solid
      rw [List.cons_append, piecesAt, if_neg (Ne.symm solid.1)]
      cases rest with
      | nil => rfl
      | cons second others =>
          rw [ih solid.2 (List.cons_ne_nil _ _)]
          rfl

/-- What does not end is one piece. -/
theorem piecesAt_of_notMem (solid : sign ∉ piece) (inhabited : piece ≠ []) :
    piecesAt sign piece = [piece] := by
  have alone := piecesAt_append_of_ne_nil solid inhabited []
  rwa [piecesAt, List.headD_nil, List.append_nil, List.tail_nil] at alone

/-- A piece that ends is the first one, whatever stands behind it. -/
theorem piecesAt_append (solid : sign ∉ piece) (later : List α) :
    piecesAt sign (piece ++ sign :: later) = piece :: piecesAt sign later := by
  have ended : piecesAt sign (sign :: later) = [] :: piecesAt sign later := if_pos rfl
  cases piece with
  | nil => exact ended
  | cons first rest =>
      rw [piecesAt_append_of_ne_nil solid (List.cons_ne_nil _ _), ended, List.headD_cons,
        List.append_nil, List.tail_cons]

/-- The pieces of an encoded list are the encoded pieces, if the sign is encoded by itself and
is in the code of nothing else. -/
theorem piecesAt_flatMap {encode : α -> List β} {code : β} (coded : encode sign = [code])
    (others : ∀ other, other ≠ sign -> code ∉ encode other ∧ encode other ≠ [])
    (text : List α) :
    piecesAt code (text.flatMap encode) =
      (piecesAt sign text).map (·.flatMap encode) := by
  induction text with
  | nil => rfl
  | cons first later ih =>
      rw [List.flatMap_cons, piecesAt]
      split
      · next same => rw [same, coded, List.singleton_append, piecesAt, if_pos rfl, ih]; rfl
      · next different =>
          rcases others first different with ⟨solid, inhabited⟩
          rw [piecesAt_append_of_ne_nil solid inhabited, ih, List.map_cons, List.flatMap_cons,
            List.map_tail]
          cases piecesAt sign later <;> rfl

end

/-! ## Lines -/

theorem notMem_append {first second : String} {character : Char}
    (early : character ∉ first.toList) (late : character ∉ second.toList) :
    character ∉ (first ++ second).toList := by
  rw [String.toList_append, List.mem_append, not_or]
  exact ⟨early, late⟩

theorem toList_asLines_cons (line : String) (lines : List String) :
    (asLines (line :: lines)).toList = line.toList ++ '\n' :: (asLines lines).toList := by
  rw [asLines, String.toList_append, String.toList_append, List.append_assoc]
  rfl

/-- The lines of a text, without their line feeds. -/
def linesOf (text : String) : List String := (piecesAt '\n' text.toList).map String.ofList

/-- Lines in front of a text are found again, and then those of the text. -/
theorem linesOf_asLines_append {lines : List String} (solid : ∀ line ∈ lines, '\n' ∉ line.toList)
    (behind : String) : linesOf (asLines lines ++ behind) = lines ++ linesOf behind := by
  induction lines with
  | nil => rw [asLines, String.empty_append, List.nil_append]
  | cons line later ih =>
      have parts := List.forall_mem_cons.mp solid
      have inside := ih parts.2
      rw [linesOf, String.toList_append] at inside ⊢
      rw [toList_asLines_cons, List.append_assoc, List.cons_append, piecesAt_append parts.1,
        List.map_cons, String.ofList_toList, inside, List.cons_append]

/-- Lines that were written one after another are found again. -/
theorem linesOf_asLines {lines : List String} (solid : ∀ line ∈ lines, '\n' ∉ line.toList) :
    linesOf (asLines lines) = lines := by
  have found := linesOf_asLines_append solid ""
  rwa [String.append_empty, show linesOf "" = [] from rfl, List.append_nil] at found

end Text
end MonkeyLang
