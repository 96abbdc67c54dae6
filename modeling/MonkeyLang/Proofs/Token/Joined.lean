import MonkeyLang.Proofs.Token.Lexeme

namespace MonkeyLang

open Text

/-!
# Joined texts

The words of two joined texts need not be the words of the one and then those of the
other, as a name or a sign may go on across the seam.  A semicolon is complete as it is.
So a text whose last word is one can be joined to any other, and each keeps its words.
-/

theorem completedByEquals_append (whole alone : TokenType) {later : List Char}
    (inhabited : later ≠ []) (more : List Char) :
    completedByEquals whole alone (later ++ more) = completedByEquals whole alone later := by
  rcases List.exists_cons_of_ne_nil inhabited with ⟨next, rest, rfl⟩
  by_cases same : next = '='
  · rw [same]
    rfl
  · have unequal (behind : List Char) : (next :: behind).head? ≠ some '=' := by simp [same]
    rw [List.cons_append, completedByEquals_of_ne (unequal _), completedByEquals_of_ne (unequal _)]

/-- A token that ends before a text does is not made longer by what is joined to it. -/
theorem longestToken_append {first : Char} {later : List Char}
    (stops : (longestToken first later).2.length < later.length) (more : List Char) :
    longestToken first (later ++ more) = longestToken first later := by
  have inhabited : later ≠ [] := by
    rintro rfl
    exact absurd stops (Nat.not_lt_zero _)
  have run {kind : Char -> Bool} (short : (later.takeWhile kind).length < later.length) :
      (later ++ more).takeWhile kind = later.takeWhile kind := by
    rw [List.takeWhile_append, if_neg (Nat.ne_of_lt short)]
  cases letter : isLetter first with
  | true =>
      rw [longestToken_of_isLetter letter] at stops
      rw [longestToken_of_isLetter letter, longestToken_of_isLetter letter, run stops]
  | false =>
      cases digit : first.isDigit with
      | true =>
          rw [longestToken_of_isDigit digit] at stops
          rw [longestToken_of_isDigit digit, longestToken_of_isDigit digit, run stops]
      | false =>
          unfold longestToken
          rw [letter, digit, completedByEquals_append _ _ inhabited,
            completedByEquals_append _ _ inhabited]
          rfl

/-- Only a semicolon is the longest token of its kind. -/
theorem eq_semicolon_of_longestToken {first : Char} (solid : isBlank first = false)
    {later : List Char} (kind : (longestToken first later).1 = .semicolon) : first = ';' := by
  have shape := lexeme_of_longestToken solid later
  rw [kind] at shape
  exact List.head_eq_of_cons_eq (shape.eq_text (by decide))

theorem wordsOf_append_of_blank {blanks : List Char} (blank : blanks.dropWhile isBlank = [])
    (more : List Char) : wordsOf (blanks ++ more) = wordsOf more := by
  rw [← wordsOf_dropWhile, List.dropWhile_append, blank, List.isEmpty_nil, if_pos rfl,
    wordsOf_dropWhile]

theorem wordsOf_eq_nil {characters : List Char} (none : wordsOf characters = []) :
    characters.dropWhile isBlank = [] := by
  cases shape : characters.dropWhile isBlank with
  | nil => rfl
  | cons first later => rw [wordsOf_of_dropWhile shape] at none; cases none

/-- A text whose last word is a semicolon does not run into the text that is joined to
it. -/
theorem wordsOf_append_of_semicolon {characters : List Char}
    (closed : (wordsOf characters).getLast?.map Word.type = some .semicolon)
    (more : List Char) :
    wordsOf (characters ++ more) = wordsOf characters ++ wordsOf more := by
  induction size : characters.length using Nat.strongRecOn generalizing characters with
  | ind size ih =>
      cases shape : characters.dropWhile isBlank with
      | nil =>
          rw [← wordsOf_dropWhile, shape, wordsOf_nil] at closed
          cases closed
      | cons first later =>
          have joined : (characters ++ more).dropWhile isBlank = first :: (later ++ more) := by
            rw [List.dropWhile_append, shape]
            rfl
          have shorter := (List.dropWhile_suffix isBlank (l := characters)).length_le
          rw [shape, List.length_cons, size] at shorter
          rw [wordsOf_of_dropWhile shape] at closed ⊢
          rw [wordsOf_of_dropWhile joined]
          cases words : wordsOf (later.drop (longestToken first later).2.length) with
          | nil =>
              -- This word is the last one of the text, so it is the semicolon.
              rw [words] at closed
              have kind : (longestToken first later).1 = .semicolon := Option.some.inj closed
              cases eq_semicolon_of_longestToken (not_isBlank_of_dropWhile shape) kind
              have alone (behind : List Char) : longestToken ';' behind = (.semicolon, []) :=
                longestToken_of_ofSymbol? rfl behind
              rw [alone] at words ⊢
              rw [alone, List.length_nil, List.drop_zero]
              exact congrArg _ (wordsOf_append_of_blank (wordsOf_eq_nil words) more)
          | cons word others =>
              -- As another word stands behind it, this one stops within the text.
              have stops : (longestToken first later).2.length < later.length := by
                apply Nat.lt_of_not_le
                intro reaches
                rw [List.drop_of_length_le reaches, wordsOf_nil] at words
                cases words
              have rest : (wordsOf (later.drop (longestToken first later).2.length)).getLast?.map
                  Word.type = some .semicolon := by
                rw [words] at closed ⊢
                exact closed
              have onward := ih _ (by rw [List.length_drop]; omega) rest rfl
              rw [longestToken_append stops, List.drop_append_of_le_length (Nat.le_of_lt stops),
                onward, words]
              rfl

end MonkeyLang
