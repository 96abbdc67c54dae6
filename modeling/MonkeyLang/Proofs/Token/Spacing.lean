import Mathlib.Data.List.Chain
import MonkeyLang.Proofs.Token.Joined
import MonkeyLang.Proofs.Token.Layout

namespace MonkeyLang

open Text

/-!
# Other spacing for the same words

A source may be laid out anew, with other blanks between its tokens or with none.  It keeps
its words exactly where no token runs on into the next one, and the pairs that do are few:
two runs of letters, two runs of digits, and a sign that an equals sign completes in front
of a lexeme that starts with one.  Everything else may stand side by side, keywords and
numbers and illegal characters included.

The reason lies in the language of lexemes alone.  A lexeme that is longer than another one
and starts with it goes on with a character of the same run, or with an equals sign.  So
nothing has to be known about how the scanner finds its lexemes, beyond their being the
longest.
-/

/-! ## Lexemes that go on -/

/-- Whether a lexeme is a part of a longer one with the character behind it. -/
def GoesOn (lexeme : List Char) (next : Char) : Prop :=
  (∃ kind, IsRunKind kind ∧ lexeme.all kind = true ∧ kind next = true) ∨
    ((lexeme = ['='] ∨ lexeme = ['!']) ∧ next = '=')

/-- Whether two lexemes have to have a blank between them: two runs of letters, two runs
of digits, or a sign that an equals sign completes and a lexeme that starts with one. -/
def NeedGap (first second : List Char) : Prop :=
  (∃ kind, IsRunKind kind ∧ first.all kind = true ∧ second.all kind = true) ∨
    ((first = ['='] ∨ first = ['!']) ∧ second.head? = some '=')

/-- A lexeme that starts with another text goes on from there as runs and signs do. -/
theorem Lexeme.goesOn {type : TokenType} {front more : List Char} {next : Char}
    (shape : Lexeme type (front ++ next :: more)) (inhabited : front ≠ []) :
    GoesOn front next := by
  have run {kind : Char -> Bool} (runs : IsRunKind kind)
      (members : (front ++ next :: more).all kind = true) : GoesOn front next := by
    rw [List.all_append, List.all_cons, Bool.and_eq_true, Bool.and_eq_true] at members
    exact .inl ⟨kind, runs, members.1, members.2.1⟩
  have sign {first : Char} (signs : front ++ next :: more = [first, '=']) :
      front = [first] ∧ next = '=' := by
    rcases List.exists_cons_of_ne_nil inhabited with ⟨head, rest, rfl⟩
    cases rest with
    | nil =>
        cases signs
        exact ⟨rfl, rfl⟩
    | cons _ _ => simp at signs
  have long : (front ++ next :: more).length ≠ 1 := by
    have positive := List.length_pos_of_ne_nil inhabited
    rw [List.length_append, List.length_cons]
    omega
  generalize front ++ next :: more = lexeme at shape run sign long
  cases shape with
  | letters _ members => exact run (.inl rfl) members
  | digits _ members => exact run (.inr rfl) members
  | illegal => exact absurd rfl long
  | symbol member text =>
      have shapes : ∀ type ∈ TokenType.symbols, type.text.toList.length = 1 ∨
          type.text.toList = ['=', '='] ∨ type.text.toList = ['!', '='] := by decide
      rcases text ▸ shapes type member with single | equals | unequal
      · exact absurd single long
      · exact .inr ⟨.inl (sign equals).1, (sign equals).2⟩
      · exact .inr ⟨.inr (sign unequal).1, (sign unequal).2⟩

/-- Where a lexeme goes on there is a longer one. -/
theorem GoesOn.exists_lexeme {lexeme : List Char} {next : Char} (goesOn : GoesOn lexeme next) :
    ∃ type, Lexeme type (lexeme ++ [next]) := by
  rcases goesOn with ⟨kind, runs, members, member⟩ | ⟨rfl | rfl, rfl⟩
  · exact runs.exists_lexeme (by simp) (by simp [members, member])
  · exact ⟨.equalEqual, .symbol (by decide) (by decide)⟩
  · exact ⟨.bangEqual, .symbol (by decide) (by decide)⟩

theorem not_goesOn_of_isBlank {lexeme : List Char} {next : Char} (blank : isBlank next = true) :
    ¬ GoesOn lexeme next := by
  rintro (⟨kind, runs, _, member⟩ | ⟨_, rfl⟩)
  · rw [runs.of_isBlank blank] at member
    cases member
  · exact absurd blank (by decide +kernel)

/-- Whether a lexeme goes on into another one shows at the first character of that one. -/
theorem Lexeme.needGap_iff {type : TokenType} {lexeme rest : List Char} {next : Char}
    (shape : Lexeme type (next :: rest)) : NeedGap lexeme (next :: rest) ↔ GoesOn lexeme next := by
  unfold NeedGap GoesOn
  refine or_congr ⟨?_, ?_⟩ ?_
  · rintro ⟨kind, runs, members, members'⟩
    rw [List.all_cons, Bool.and_eq_true] at members'
    exact ⟨kind, runs, members, members'.1⟩
  · rintro ⟨kind, runs, members, member⟩
    exact ⟨kind, runs, members, shape.all_of_mem runs List.mem_cons_self member⟩
  · rw [List.head?_cons, Option.some.injEq]

/-- A whole lexeme is taken for what it is. -/
theorem Lexeme.longestToken_type {type : TokenType} {first : Char} {rest : List Char}
    (shape : Lexeme type (first :: rest)) : (longestToken first rest).1 = type := by
  generalize whole : first :: rest = lexeme at shape
  cases shape with
  | letters _ members =>
      subst whole
      rw [List.all_cons, Bool.and_eq_true] at members
      rw [longestToken_of_isLetter members.1,
        List.takeWhile_eq_self_iff.mpr (List.all_eq_true.mp members.2)]
      rfl
  | digits _ members =>
      subst whole
      rw [List.all_cons, Bool.and_eq_true] at members
      rw [longestToken_of_isDigit members.1]
  | symbol member text =>
      have known : ∀ type ∈ TokenType.symbols,
          (type.text.toList.head?.map fun first =>
            (longestToken first type.text.toList.tail).1) = some type := by decide +kernel
      have taken := known type member
      rw [text, ← whole] at taken
      exact Option.some.inj taken
  | illegal _ letter digit free =>
      cases whole
      have unequal : first ≠ '=' ∧ first ≠ '!' := by
        constructor <;> rintro rfl
        · exact free .assign (by decide) (by decide)
        · exact free .bang (by decide) (by decide)
      have unsigned : TokenType.ofSymbol? first = none := by
        cases known : TokenType.ofSymbol? first with
        | none => rfl
        | some type =>
            rcases symbol_of_ofSymbol? known with ⟨member, text⟩
            exact absurd text (free type member)
      simp [longestToken, unequal.1, unequal.2, unsigned, letter, digit]

/-- A text is a lexeme of one kind only. -/
theorem Lexeme.type_unique {type other : TokenType} {lexeme : List Char}
    (shape : Lexeme type lexeme) (shape' : Lexeme other lexeme) : type = other := by
  rcases List.exists_cons_of_ne_nil shape.ne_nil with ⟨first, rest, rfl⟩
  exact shape.longestToken_type.symm.trans shape'.longestToken_type

/-! ## The first word of a text -/

/-- The first word of a text that starts with a lexeme is the longest lexeme that starts
with it. -/
theorem exists_wordsOf_eq {type : TokenType} {lexeme : List Char} (shape : Lexeme type lexeme)
    (behind : List Char) :
    ∃ kind more rest, Lexeme kind (lexeme ++ more) ∧ behind = more ++ rest ∧
      wordsOf (lexeme ++ behind) = ⟨kind, String.ofList (lexeme ++ more)⟩ :: wordsOf rest ∧
      ∀ {other longer}, Lexeme other longer -> longer <+: lexeme ++ behind ->
        longer.length ≤ (lexeme ++ more).length := by
  rcases List.exists_cons_of_ne_nil shape.ne_nil with ⟨first, later, rfl⟩
  have solid := shape.isBlank_of_mem first List.mem_cons_self
  have taken := lexeme_of_longestToken solid (later ++ behind)
  have longest {other : TokenType} {longer : List Char} (shape : Lexeme other longer)
      (front : longer <+: first :: (later ++ behind)) := length_le_longestToken shape front
  have words := wordsOf_cons solid (later ++ behind)
  rcases longestToken_isPrefix first (later ++ behind) with ⟨rest, whole⟩
  -- What is taken is no shorter than the lexeme, and so starts with it.
  have starts : later <+: (longestToken first (later ++ behind)).2 :=
    List.prefix_of_prefix_length_le (List.prefix_append later behind) ⟨rest, whole⟩
      (Nat.le_of_succ_le_succ (longest shape (List.prefix_append _ behind)))
  rcases starts with ⟨more, joined⟩
  rw [← joined, List.append_assoc] at whole
  have split : behind = more ++ rest := (List.append_cancel_left whole).symm
  have left : (later ++ behind).drop (later ++ more).length = rest := by
    rw [split, ← List.append_assoc, List.drop_left]
  rw [← joined] at taken words longest
  rw [left] at words
  exact ⟨_, more, rest, taken, split, words, longest⟩

/-- A lexeme is the first word of a text that starts with it and does not go on. -/
theorem wordsOf_lexeme {type : TokenType} {lexeme behind : List Char} (shape : Lexeme type lexeme)
    (ends : ∀ next ∈ behind.head?, ¬ GoesOn lexeme next) :
    wordsOf (lexeme ++ behind) = ⟨type, String.ofList lexeme⟩ :: wordsOf behind := by
  rcases exists_wordsOf_eq shape behind with ⟨kind, more, rest, taken, rfl, words, _⟩
  cases more with
  | nil =>
      rw [List.append_nil] at taken words
      rw [words, shape.type_unique taken, List.nil_append]
  | cons next later => exact absurd (taken.goesOn shape.ne_nil) (ends next rfl)

/-- A lexeme that goes on is not the first word of a text. -/
theorem wordsOf_ne_cons {type : TokenType} {lexeme behind : List Char} {next : Char}
    (goesOn : GoesOn lexeme next) (follows : next ∈ behind.head?)
    (shape : Lexeme type lexeme) (words : List Word) :
    wordsOf (lexeme ++ behind) ≠ ⟨type, String.ofList lexeme⟩ :: words := by
  rcases exists_wordsOf_eq shape behind with ⟨kind, more, rest, _, _, found, longest⟩
  intro same
  rw [found] at same
  have alone : lexeme ++ more = lexeme :=
    String.ofList_injective (Word.mk.inj (List.cons.inj same).1).2
  rcases goesOn.exists_lexeme with ⟨other, longer⟩
  rcases List.head?_eq_some_iff.mp follows with ⟨later, rfl⟩
  have short := longest longer ⟨later, by simp⟩
  rw [alone, List.length_append] at short
  exact absurd short (Nat.not_succ_le_self _)

/-! ## Layouts with the same tokens -/

namespace Layout

/-- Whether there is a gap behind a part of a layout, as far as it needs one in front of
the next part. -/
def HasGap (part next : Token × List Char) : Prop :=
  NeedGap part.1.lexeme.toList next.1.lexeme.toList -> part.2 ≠ []

/-- A lexeme goes on into what is laid out behind it exactly where it needs a gap and has
none. -/
theorem goesOn_iff {token : Token} {gap : List Char} {parts : List (Token × List Char)}
    (blank : gap.all isBlank = true)
    (lexemes : ∀ part ∈ parts, Lexeme part.1.type part.1.lexeme.toList) :
    (∀ next ∈ (mk gap parts).text.head?, ¬ GoesOn token.lexeme.toList next) ↔
      ∀ next ∈ parts.head?, HasGap (token, gap) next := by
  cases gap with
  | cons first rest =>
      rw [List.all_cons, Bool.and_eq_true] at blank
      refine ⟨fun _ _ _ _ => List.cons_ne_nil _ _, fun _ next follows => ?_⟩
      cases follows
      exact not_goesOn_of_isBlank blank.1
  | nil =>
      cases parts with
      | nil => simp [text]
      | cons part later =>
          rcases part with ⟨second, behind⟩
          have shape := lexemes _ List.mem_cons_self
          rcases List.exists_cons_of_ne_nil shape.ne_nil with ⟨first, rest, lexeme⟩
          dsimp only at lexeme
          rw [lexeme] at shape
          have needGap : NeedGap token.lexeme.toList (first :: rest) ↔
              GoesOn token.lexeme.toList first := shape.needGap_iff
          simp [text, HasGap, lexeme, needGap]

/-- Tokens that are laid out are the words of the text exactly where none of them goes on
into the next one. -/
theorem wordsOf_text_iff (layout : Layout) (blank : ∀ gap ∈ layout.gaps, gap.all isBlank = true)
    (lexemes : ∀ token ∈ layout.tokens, Lexeme token.type token.lexeme.toList) :
    wordsOf layout.text = layout.tokens.map Token.word ↔ layout.parts.IsChain HasGap := by
  rcases layout with ⟨start, parts⟩
  have leading {gap : List Char} (blanks : gap.all isBlank = true) (behind : List Char) :
      wordsOf (gap ++ behind) = wordsOf behind :=
    wordsOf_append_of_blank (List.dropWhile_eq_nil_iff.mpr (List.all_eq_true.mp blanks)) behind
  induction parts generalizing start with
  | nil =>
      have starts := leading (blank start List.mem_cons_self) []
      rw [List.append_nil, wordsOf_nil] at starts
      rw [text_nil, starts]
      exact ⟨fun _ => .nil, fun _ => rfl⟩
  | cons part later ih =>
      rcases part with ⟨token, gap⟩
      have starts := leading (blank start List.mem_cons_self)
      have blank' := (List.forall_mem_cons.mp blank).2
      have shape := (List.forall_mem_cons.mp lexemes).1
      have lexemes' := (List.forall_mem_cons.mp lexemes).2
      have stops := @goesOn_iff token gap later (blank' gap List.mem_cons_self)
        (List.forall_mem_map.mp lexemes')
      have word : token.word = ⟨token.type, String.ofList token.lexeme.toList⟩ := by
        rw [String.ofList_toList]
        rfl
      have onward : wordsOf (mk gap later).text = (mk gap later).tokens.map Token.word ↔
          later.IsChain HasGap := ih gap blank' lexemes'
      change wordsOf _ = token.word :: (mk gap later).tokens.map Token.word ↔ _
      rw [text_cons, starts, List.isChain_cons, ← stops, ← onward, word]
      constructor
      · intro words
        have ends : ∀ next ∈ (mk gap later).text.head?, ¬ GoesOn token.lexeme.toList next :=
          fun next follows goesOn => wordsOf_ne_cons goesOn follows shape _ words
        rw [wordsOf_lexeme shape ends] at words
        exact ⟨ends, (List.cons.inj words).2⟩
      · rintro ⟨ends, words⟩
        rw [wordsOf_lexeme shape ends, words]

end Layout

/-- The words of a source with its end. -/
theorem map_word_tokensOf (source : String) :
    (tokensOf source).map Token.word = wordsOf source.toList ++ [⟨.ending, ""⟩] :=
  List.map_append

/-- The tokens of a source may be laid out with any blanks between them, and with none
except where two runs of letters or two runs of digits would become one, or where an equals
sign would complete a sign.  The text then has the same tokens, places apart.  Where such a
gap is missing it has not. -/
theorem spacing_is_free (source : String) (layout : Layout)
    (tokens : layout.tokens = (Scanner.ofString source).tokens)
    (blank : ∀ gap ∈ layout.gaps, gap.all isBlank = true) :
    (tokensOf (String.ofList layout.text)).map Token.word = (tokensOf source).map Token.word ↔
      layout.parts.IsChain Layout.HasGap := by
  have lexemes : ∀ token ∈ layout.tokens, Lexeme token.type token.lexeme.toList := by
    rw [tokens]
    exact Scanner.lexeme_of_mem_tokens
  have words : wordsOf source.toList = layout.tokens.map Token.word := by
    rw [tokens]
    rfl
  rw [map_word_tokensOf, map_word_tokensOf, List.append_left_inj, String.toList_ofList, words]
  exact layout.wordsOf_text_iff blank lexemes

/-- The tokens of `let a = 1 2 != = b` with as few blanks as they can do with. -/
def tightLayout : Layout where
  start := []
  parts := (Scanner.ofString "let a = 1 2 != = b").tokens.zip
    [[' '], [], [], ['\n'], [], [], [], []]

theorem spacing_is_free_of_touching_signs :
    String.ofList tightLayout.text = "let a=1\n2!==b" ∧
      tightLayout.tokens = (Scanner.ofString "let a = 1 2 != = b").tokens ∧
      (∀ gap ∈ tightLayout.gaps, gap.all isBlank = true) ∧
      ((tokensOf (String.ofList tightLayout.text)).map Token.word =
          (tokensOf "let a = 1 2 != = b").map Token.word ↔
        tightLayout.parts.IsChain Layout.HasGap) := by
  have tokens : tightLayout.tokens = (Scanner.ofString "let a = 1 2 != = b").tokens := by
    decide +kernel
  have blank : ∀ gap ∈ tightLayout.gaps, gap.all isBlank = true := by decide +kernel
  exact ⟨by decide +kernel, tokens, blank, spacing_is_free _ tightLayout tokens blank⟩

end MonkeyLang
