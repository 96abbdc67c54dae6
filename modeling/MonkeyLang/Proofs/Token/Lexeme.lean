import MonkeyLang.Proofs.Token.Word

namespace MonkeyLang

open Text

/-!
# Lexemes

A small language says which texts are tokens, and of which kind.  It knows no order of
rules and no text around a lexeme.  What the scanner takes is a lexeme of that language,
and none that starts at the same place is longer.  So the order in which the scanner asks
for symbols, letters and digits does not matter.

At the end stands what drawing a token does, from which all that follows on tokens and
their places is derived.
-/

/-! ## Lexemes -/

/-- The kinds of token that are written in one way only. -/
def TokenType.symbols : List TokenType :=
  [.leftParenthesis, .rightParenthesis, .leftBrace, .rightBrace, .comma, .semicolon, .minus,
    .plus, .slash, .star, .less, .greater, .bang, .bangEqual, .assign, .equalEqual]

/-- The texts that are tokens, by their kind: a run of letters, which is a keyword or a
name, a run of digits, a symbol, and by itself every other character that is not blank. -/
inductive Lexeme : TokenType -> List Char -> Prop
  | letters {run} : run ≠ [] -> run.all isLetter = true ->
      Lexeme ((TokenType.ofKeyword? (String.ofList run)).getD .identifier) run
  | digits {run} : run ≠ [] -> run.all Char.isDigit = true -> Lexeme .integer run
  | symbol {type lexeme} : type ∈ TokenType.symbols -> type.text.toList = lexeme ->
      Lexeme type lexeme
  | illegal {character} : isBlank character = false -> isLetter character = false ->
      character.isDigit = false ->
      (∀ type ∈ TokenType.symbols, type.text.toList ≠ [character]) ->
      Lexeme .illegal [character]

theorem ofKeyword?_ne_identifier (text : String) :
    TokenType.ofKeyword? text ≠ some .identifier := by
  unfold TokenType.ofKeyword?
  grind

namespace Lexeme

variable {type : TokenType} {lexeme : List Char}

theorem ne_nil (shape : Lexeme type lexeme) : lexeme ≠ [] := by
  cases shape with
  | letters inhabited _ | digits inhabited _ => exact inhabited
  | symbol member text =>
      have inhabited : ∀ type ∈ TokenType.symbols, type.text.toList ≠ [] := by decide
      exact text ▸ inhabited type member
  | illegal => exact List.cons_ne_nil _ _

/-- No lexeme holds a blank. -/
theorem isBlank_of_mem (shape : Lexeme type lexeme) :
    ∀ character ∈ lexeme, isBlank character = false := by
  cases shape with
  | letters _ members =>
      intro character member
      exact isBlank_of_isLetter (List.all_eq_true.mp members character member)
  | digits _ members =>
      intro character member
      exact isBlank_of_isDigit (List.all_eq_true.mp members character member)
  | symbol member text =>
      have solid : ∀ type ∈ TokenType.symbols, type.text.toList.all (!isBlank ·) = true := by
        decide +kernel
      intro character inside
      have each := List.all_eq_true.mp (solid type member) character (text ▸ inside)
      rwa [Bool.not_eq_true'] at each
  | illegal solid =>
      intro character member
      rwa [List.mem_singleton.mp member]

theorem interrupts_isBlank (shape : Lexeme type lexeme) (behind : List Char) :
    Interrupts isBlank (lexeme ++ behind) := by
  rcases List.exists_cons_of_ne_nil shape.ne_nil with ⟨first, rest, rfl⟩
  rintro next ⟨⟩
  exact shape.isBlank_of_mem _ List.mem_cons_self

/-- A run of letters is neither a symbol nor the end of a source. -/
theorem kind_of_letters (run : String) :
    (TokenType.ofKeyword? run).getD .identifier ∉ TokenType.symbols ∧
      (TokenType.ofKeyword? run).getD .identifier ≠ .ending := by
  unfold TokenType.ofKeyword?
  repeat' split
  all_goals decide

/-- The end of a source is written as nothing. -/
theorem type_ne_ending (shape : Lexeme type lexeme) : type ≠ .ending := by
  cases shape with
  | letters => exact (kind_of_letters _).2
  | digits | illegal => exact TokenType.noConfusion
  | symbol member =>
      rintro rfl
      exact absurd member (by decide)

/-- Every kind of symbol is written in one way. -/
theorem eq_text (shape : Lexeme type lexeme) (symbol : type ∈ TokenType.symbols) :
    lexeme = type.text.toList := by
  cases shape with
  | letters => exact absurd symbol (kind_of_letters _).1
  | digits | illegal => exact absurd symbol (by decide)
  | symbol _ text => exact text.symm

/-- A lexeme is a name only where it is a run of letters and no keyword. -/
theorem isName (shape : Lexeme .identifier lexeme) : IsName (String.ofList lexeme) := by
  generalize kind : TokenType.identifier = type at shape
  cases shape with
  | letters inhabited members =>
      refine ⟨⟨?_, ?_⟩, ?_⟩
      · rwa [Ne, String.ofList_eq_empty_iff]
      · rwa [String.toList_ofList]
      · cases keyword : TokenType.ofKeyword? (String.ofList lexeme) with
        | none => rfl
        | some type =>
            rw [keyword, Option.getD_some] at kind
            exact absurd (kind ▸ keyword) (ofKeyword?_ne_identifier _)
  | digits | illegal => cases kind
  | symbol member => exact absurd (kind ▸ member) (by decide)

end Lexeme

theorem symbol_of_ofSymbol? {character : Char} {type : TokenType}
    (known : TokenType.ofSymbol? character = some type) :
    type ∈ TokenType.symbols ∧ type.text.toList = [character] := by
  unfold TokenType.ofSymbol? at known
  split at known <;> cases known <;> decide

/-- A character that is a symbol is one that an equals sign may complete or one that is
always a token by itself. -/
theorem ofSymbol?_of_symbol {character : Char} {type : TokenType}
    (member : type ∈ TokenType.symbols) (text : type.text.toList = [character]) :
    character = '=' ∨ character = '!' ∨ (TokenType.ofSymbol? character).isSome = true := by
  have known : ∀ type ∈ TokenType.symbols, type.text.toList.all (fun symbol =>
      symbol == '=' || (symbol == '!' || (TokenType.ofSymbol? symbol).isSome)) = true := by
    decide
  have each := List.all_eq_true.mp (known type member) character
    (text ▸ List.mem_singleton_self character)
  simpa only [Bool.or_eq_true, beq_iff_eq] using each

/-! ## The longest lexeme -/

/-- What the scanner takes is a lexeme. -/
theorem lexeme_of_longestToken {first : Char} (solid : isBlank first = false)
    (later : List Char) :
    Lexeme (longestToken first later).1 (first :: (longestToken first later).2) := by
  have equals (whole alone : TokenType) (completed : Lexeme whole [first, '='])
      (single : Lexeme alone [first]) :
      Lexeme (completedByEquals whole alone later).1
        (first :: (completedByEquals whole alone later).2) := by
    unfold completedByEquals
    split
    · exact completed
    · exact single
  unfold longestToken
  split
  · next same =>
      subst same
      exact equals _ _ (.symbol (by decide) rfl) (.symbol (by decide) rfl)
  · next notEquals =>
      split
      · next same =>
          subst same
          exact equals _ _ (.symbol (by decide) rfl) (.symbol (by decide) rfl)
      · next notBang =>
          cases symbol : TokenType.ofSymbol? first with
          | some type =>
              rcases symbol_of_ofSymbol? symbol with ⟨member, text⟩
              exact .symbol member text
          | none =>
              cases letter : isLetter first with
              | true => exact .letters (List.cons_ne_nil _ _) (by simp [letter])
              | false =>
                  cases digit : first.isDigit with
                  | true => exact .digits (List.cons_ne_nil _ _) (by simp [digit])
                  | false =>
                      refine .illegal solid letter digit fun type member text => ?_
                      rcases ofSymbol?_of_symbol member text with same | same | known
                      · exact notEquals same
                      · exact notBang same
                      · simp [symbol] at known

/-- Of a run of characters no more is in front of a text than the run at its front. -/
theorem length_le_takeWhile {kind : Char -> Bool} {run text : List Char}
    (members : run.all kind = true) (front : run <+: text) :
    run.length ≤ (text.takeWhile kind).length := by
  rcases front with ⟨rest, rfl⟩
  rw [List.takeWhile_append_of_pos (List.all_eq_true.mp members), List.length_append]
  exact Nat.le_add_right _ _

/-- Nothing longer than what the scanner takes is a lexeme. -/
theorem length_le_longestToken {first : Char} {later other : List Char} {type : TokenType}
    (shape : Lexeme type other) (front : other <+: first :: later) :
    other.length ≤ (first :: (longestToken first later).2).length := by
  rcases List.exists_cons_of_ne_nil shape.ne_nil with ⟨head, rest, rfl⟩
  rcases List.cons_prefix_cons.mp front with ⟨rfl, inside⟩
  apply Nat.succ_le_succ
  cases shape with
  | letters _ members =>
      rw [List.all_cons, Bool.and_eq_true] at members
      rw [longestToken_of_isLetter members.1]
      exact length_le_takeWhile members.2 inside
  | digits _ members =>
      rw [List.all_cons, Bool.and_eq_true] at members
      rw [longestToken_of_isDigit members.1]
      exact length_le_takeWhile members.2 inside
  | illegal => exact Nat.zero_le _
  | symbol member text =>
      have shapes : ∀ type ∈ TokenType.symbols, type.text.toList.length = 1 ∨
          type.text.toList = ['=', '='] ∨ type.text.toList = ['!', '='] := by decide
      rcases text ▸ shapes type member with alone | completed | completed
      · exact Nat.le_trans (Nat.le_of_eq (Nat.succ.inj alone)) (Nat.zero_le _)
      · cases completed
        rcases inside with ⟨more, rfl⟩
        exact Nat.le_refl _
      · cases completed
        rcases inside with ⟨more, rfl⟩
        exact Nat.le_refl _

/-! ## Drawing a token -/

/-- A scanner passes over blanks and draws a token, and another scanner is left. -/
structure Scanner.Draws (scanner : Scanner) (gap : List Char) (token : Token)
    (later : Scanner) : Prop where
  unread : scanner.unread = gap ++ (token.lexeme.toList ++ later.unread)
  blank : gap.all isBlank = true
  place : token.span = (scanner.position.advance gap).span token.lexeme.toList.length
  position : later.position = (scanner.position.advance gap).advance token.lexeme.toList
  shape : Lexeme token.type token.lexeme.toList
  longest : ∀ {kind other}, Lexeme kind other ->
    other <+: token.lexeme.toList ++ later.unread -> other.length ≤ token.lexeme.toList.length

theorem Scanner.draws_of_next? {scanner later : Scanner} {token : Token}
    (drawn : scanner.next? = some (token, later)) : ∃ gap, scanner.Draws gap token later := by
  unfold next? at drawn
  have parts := List.takeWhile_append_dropWhile (p := isBlank) (l := scanner.unread)
  cases shape : scanner.unread.dropWhile isBlank with
  | nil => simp [shape] at drawn
  | cons first behind =>
      rw [shape] at drawn parts
      simp only [Option.some.injEq, Prod.mk.injEq] at drawn
      rcases drawn with ⟨rfl, rfl⟩
      rcases longestToken_isPrefix first behind with ⟨rest, whole⟩
      have left : behind.drop (longestToken first behind).2.length = rest :=
        (congrArg _ whole).symm.trans List.drop_left
      have joined : first :: (longestToken first behind).2 ++ rest = first :: behind := by
        rw [List.cons_append, whole]
      refine ⟨scanner.unread.takeWhile isBlank, ?_, List.all_takeWhile, ?_, ?_, ?_, ?_⟩
      · simp only [String.toList_ofList, left, joined, parts]
      · simp only [String.toList_ofList]
      · simp only [String.toList_ofList]
      · simp only [String.toList_ofList]
        exact lexeme_of_longestToken (not_isBlank_of_dropWhile shape) behind
      · intro kind other lexeme front
        simp only [String.toList_ofList, left, joined] at front ⊢
        exact length_le_longestToken lexeme front

/-- Every token that is drawn is a lexeme of its kind. -/
theorem Scanner.lexeme_of_mem_tokens {scanner : Scanner} :
    ∀ token ∈ scanner.tokens, Lexeme token.type token.lexeme.toList := by
  induction scanner using Scanner.tokens.induct with
  | case1 scanner drawn =>
      rw [tokens_of_none drawn]
      exact List.forall_mem_nil _
  | case2 scanner head later drawn ih =>
      rcases draws_of_next? drawn with ⟨gap, draws⟩
      rw [tokens_of_some drawn]
      exact List.forall_mem_cons.mpr ⟨draws.shape, ih⟩

/-- A name token of a source shows a name. -/
theorem Scanner.isName_of_mem_tokens (scanner : Scanner) :
    ∀ token ∈ scanner.tokens, token.type = .identifier -> IsName token.lexeme := by
  intro token member named
  have shape := lexeme_of_mem_tokens token member
  rw [named] at shape
  have name := shape.isName
  rwa [String.ofList_toList] at name

end MonkeyLang
