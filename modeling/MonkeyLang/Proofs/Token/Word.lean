import MonkeyLang.Token.Scanner

namespace MonkeyLang

open Text

/-!
# Words

A word is a token without its place.  The words of a text depend on its
characters alone, so they can be read off a text piece by piece: a blank adds
none, a symbol is a word whatever follows it, and a run of letters or of digits
is a word where what follows does not go on with the run.

That the pieces do not run into each other rests on the classes of characters
being disjoint: no blank is a letter, and no symbol or digit is either.
-/

/-- What a token says, apart from where it stands. -/
structure Word where
  type : TokenType
  lexeme : String
  deriving DecidableEq

/-- The word that a token is. -/
def Token.word (token : Token) : Word := ⟨token.type, token.lexeme⟩

theorem Token.type_of_word {token : Token} {word : Word} {type : TokenType}
    (shown : token.word = word) (kind : word.type = type) : token.type = type :=
  (congrArg Word.type shown).trans kind

theorem Token.lexeme_of_word {token : Token} {word : Word} (shown : token.word = word) :
    token.lexeme = word.lexeme :=
  congrArg Word.lexeme shown

namespace Word

/-- The word of a character that is a token by itself. -/
def symbol (character : Char) : Word :=
  ⟨(TokenType.ofSymbol? character).getD .illegal, character.toString⟩

/-- The word of a run of letters: a keyword or a name. -/
def letters (run : String) : Word := ⟨(TokenType.ofKeyword? run).getD .identifier, run⟩

/-- The word of a run of digits. -/
def digits (run : String) : Word := ⟨.integer, run⟩

end Word

/-! ## The classes of characters -/

/-- No blank is alphabetic, by comparing the two tables. -/
theorem isAlphabetic_of_isBlank {character : Char} (blank : isBlank character = true) :
    isAlphabetic character = false := by
  have apart : ∀ range ∈ blankRanges, ∀ offset < range.2 + 1 - range.1,
      alphabeticRanges.contains (range.1 + offset) = false := by decide +kernel
  rcases blankRanges.exists_range_of_contains character.toNat blank with
    ⟨range, member, low, high⟩
  have inside := apart range member (character.toNat - range.1) (by omega)
  rwa [Nat.add_sub_cancel' low] at inside

theorem isBlank_of_isLetter {character : Char} (letter : isLetter character = true) :
    isBlank character = false := by
  cases blank : isBlank character with
  | false => rfl
  | true =>
      have alphabetic := isAlphabetic_of_isBlank blank
      simp only [isLetter, alphabetic, Bool.false_or, beq_iff_eq] at letter
      subst letter
      cases blank

theorem toNat_of_isDigit {character : Char} (digit : character.isDigit = true) :
    48 ≤ character.toNat ∧ character.toNat ≤ 57 := by
  simp only [Char.isDigit, Bool.and_eq_true, decide_eq_true_eq, UInt32.le_iff_toNat_le] at digit
  exact digit

/-- A digit is in no other class, as all tables leave its range free. -/
theorem isBlank_of_isDigit {character : Char} (digit : character.isDigit = true) :
    isBlank character = false := by
  have apart : ∀ offset < 10, blankRanges.contains (48 + offset) = false := by decide +kernel
  rcases toNat_of_isDigit digit with ⟨low, high⟩
  have inside := apart (character.toNat - 48) (by omega)
  rwa [Nat.add_sub_cancel' low] at inside

theorem isLetter_of_isDigit {character : Char} (digit : character.isDigit = true) :
    isLetter character = false := by
  have apart : ∀ offset < 10, alphabeticRanges.contains (48 + offset) = false := by decide +kernel
  rcases toNat_of_isDigit digit with ⟨low, high⟩
  have inside := apart (character.toNat - 48) (by omega)
  rw [Nat.add_sub_cancel' low] at inside
  have other : character ≠ '_' := by
    rintro rfl
    cases digit
  simp [isLetter, isAlphabetic, inside, other]

theorem ofSymbol?_of_isDigit {character : Char} (digit : character.isDigit = true) :
    TokenType.ofSymbol? character = none := by
  unfold TokenType.ofSymbol?
  split <;> first | rfl | cases digit

theorem isLetter_of_ofSymbol? {character : Char} {type : TokenType}
    (symbol : TokenType.ofSymbol? character = some type) : isLetter character = false := by
  unfold TokenType.ofSymbol? at symbol
  split at symbol <;> cases symbol <;> decide +kernel

theorem isBlank_of_ofSymbol? {character : Char} {type : TokenType}
    (symbol : TokenType.ofSymbol? character = some type) : isBlank character = false := by
  unfold TokenType.ofSymbol? at symbol
  split at symbol <;> cases symbol <;> decide +kernel

/-! ## The longest token by the class of its first character -/

theorem longestToken_of_ofSymbol? {first : Char} {type : TokenType}
    (symbol : TokenType.ofSymbol? first = some type) (later : List Char) :
    longestToken first later = (type, []) := by
  have plain : first ≠ '=' ∧ first ≠ '!' := by
    constructor <;> rintro rfl <;> cases symbol
  simp [longestToken, plain.1, plain.2, symbol]

theorem longestToken_of_isLetter {first : Char} (letter : isLetter first = true)
    (later : List Char) :
    longestToken first later =
      ((Word.letters (String.ofList (first :: later.takeWhile isLetter))).type,
        later.takeWhile isLetter) := by
  have unsigned : TokenType.ofSymbol? first = none := by
    cases symbol : TokenType.ofSymbol? first with
    | none => rfl
    | some type => simp [isLetter_of_ofSymbol? symbol] at letter
  have plain : first ≠ '=' ∧ first ≠ '!' := by
    constructor <;> rintro rfl <;> exact absurd letter (by decide +kernel)
  simp [longestToken, plain.1, plain.2, unsigned, letter, Word.letters]

theorem longestToken_of_isDigit {first : Char} (digit : first.isDigit = true)
    (later : List Char) :
    longestToken first later = (.integer, later.takeWhile Char.isDigit) := by
  have plain : first ≠ '=' ∧ first ≠ '!' := by
    constructor <;> rintro rfl <;> cases digit
  simp [longestToken, plain.1, plain.2, ofSymbol?_of_isDigit digit, isLetter_of_isDigit digit,
    digit]

/-! ## The words of a text -/

/-- The words of a text, in order. -/
def wordsOf (characters : List Char) : List Word :=
  (Scanner.mk characters {}).tokens.map Token.word

namespace Scanner

theorem next?_of_dropWhile {scanner : Scanner} {first : Char} {later : List Char}
    (shape : scanner.unread.dropWhile isBlank = first :: later) :
    ∃ token behind, scanner.next? = some (token, behind) ∧
      token.word = ⟨(longestToken first later).1,
        String.ofList (first :: (longestToken first later).2)⟩ ∧
      behind.unread = later.drop (longestToken first later).2.length := by
  unfold next?
  rw [shape]
  exact ⟨_, _, rfl, rfl, rfl⟩

/-- Where the scanner stands shows in the places of the tokens only. -/
theorem map_word_tokens (scanner : Scanner) :
    scanner.tokens.map Token.word = wordsOf scanner.unread := by
  unfold wordsOf
  generalize start : Scanner.mk scanner.unread {} = other
  have same : scanner.unread = other.unread := by rw [← start]
  clear start
  induction size : scanner.unread.length using Nat.strongRecOn generalizing scanner other with
  | ind size ih =>
      cases shape : scanner.unread.dropWhile isBlank with
      | nil =>
          have drawn : scanner.next? = none := by simp [next?, shape]
          have drawn' : other.next? = none := by simp [next?, ← same, shape]
          rw [tokens_of_none drawn, tokens_of_none drawn']
      | cons first later =>
          rcases next?_of_dropWhile shape with ⟨token, behind, drawn, word, rest⟩
          rcases next?_of_dropWhile (same ▸ shape) with ⟨token', behind', drawn', word', rest'⟩
          have shorter := next?_length drawn
          have onward := ih _ (size ▸ shorter) behind behind' (rest.trans rest'.symm) rfl
          rw [tokens_of_some drawn, tokens_of_some drawn', List.map_cons, List.map_cons, onward,
            word, word']

end Scanner

theorem wordsOf_of_dropWhile {characters later : List Char} {first : Char}
    (shape : characters.dropWhile isBlank = first :: later) :
    wordsOf characters =
      ⟨(longestToken first later).1, String.ofList (first :: (longestToken first later).2)⟩ ::
        wordsOf (later.drop (longestToken first later).2.length) := by
  rcases @Scanner.next?_of_dropWhile ⟨characters, {}⟩ first later shape with
    ⟨token, behind, drawn, word, rest⟩
  rw [wordsOf, Scanner.tokens_of_some drawn, List.map_cons, behind.map_word_tokens, word, rest]

theorem wordsOf_nil : wordsOf [] = [] := by
  rw [wordsOf, Scanner.tokens_of_none rfl, List.map_nil]

/-- Only the words of what is behind the leading blanks count. -/
theorem wordsOf_dropWhile (characters : List Char) :
    wordsOf (characters.dropWhile isBlank) = wordsOf characters := by
  cases shape : characters.dropWhile isBlank with
  | nil =>
      have drawn : (Scanner.mk characters {}).next? = none := by simp [Scanner.next?, shape]
      rw [wordsOf_nil, wordsOf, Scanner.tokens_of_none drawn, List.map_nil]
  | cons first later =>
      have solid := not_isBlank_of_dropWhile shape
      have stays : (first :: later).dropWhile isBlank = first :: later := by simp [solid]
      rw [wordsOf_of_dropWhile shape, wordsOf_of_dropWhile stays]

theorem wordsOf_blank {character : Char} (blank : isBlank character = true) (rest : List Char) :
    wordsOf (character :: rest) = wordsOf rest := by
  rw [← wordsOf_dropWhile (character :: rest), ← wordsOf_dropWhile rest,
    List.dropWhile_cons_of_pos blank]

theorem wordsOf_cons {first : Char} (solid : isBlank first = false) (later : List Char) :
    wordsOf (first :: later) =
      ⟨(longestToken first later).1, String.ofList (first :: (longestToken first later).2)⟩ ::
        wordsOf (later.drop (longestToken first later).2.length) :=
  wordsOf_of_dropWhile (by simp [solid])

/-- A symbol is a word by itself. -/
theorem wordsOf_symbol (character : Char)
    (symbol : (TokenType.ofSymbol? character).isSome = true) (rest : List Char) :
    wordsOf (character :: rest) = Word.symbol character :: wordsOf rest := by
  rcases Option.isSome_iff_exists.1 symbol with ⟨type, known⟩
  rw [wordsOf_cons (isBlank_of_ofSymbol? known), longestToken_of_ofSymbol? known, Word.symbol,
    known]
  rfl

/-! ## Runs of letters and of digits -/

/-- A text that a run of characters of some kind ends in front of. -/
def Interrupts (kind : Char -> Bool) (behind : List Char) : Prop :=
  ∀ next ∈ behind.head?, kind next = false

theorem Interrupts.takeWhile_append {kind : Char -> Bool} {run behind : List Char}
    (interrupts : Interrupts kind behind) (members : run.all kind = true) :
    (run ++ behind).takeWhile kind = run := by
  rw [List.takeWhile_append_of_pos (List.all_eq_true.1 members)]
  cases behind with
  | nil => simp
  | cons next later => simp [interrupts next rfl]

/-- A text that no run in front of it goes on with. -/
structure Apart (behind : List Char) : Prop where
  letters : Interrupts isLetter behind
  digits : Interrupts Char.isDigit behind

theorem Apart.nil : Apart [] := by
  constructor <;> rintro next ⟨⟩

theorem Apart.cons {first : Char} (letter : isLetter first = false)
    (digit : first.isDigit = false) (later : List Char) : Apart (first :: later) := by
  constructor
  · rintro next ⟨⟩
    exact letter
  · rintro next ⟨⟩
    exact digit

theorem Apart.of_isBlank {first : Char} (blank : isBlank first = true) (later : List Char) :
    Apart (first :: later) := by
  apply Apart.cons
  · cases letter : isLetter first with
    | false => rfl
    | true => simp [isBlank_of_isLetter letter] at blank
  · cases digit : first.isDigit with
    | false => rfl
    | true => simp [isBlank_of_isDigit digit] at blank

theorem Apart.of_ofSymbol? {first : Char}
    (symbol : (TokenType.ofSymbol? first).isSome = true) (later : List Char) :
    Apart (first :: later) := by
  rcases Option.isSome_iff_exists.1 symbol with ⟨type, known⟩
  apply Apart.cons (isLetter_of_ofSymbol? known)
  cases digit : first.isDigit with
  | false => rfl
  | true => simp [ofSymbol?_of_isDigit digit] at known

/-- A text of one or more characters of some kind. -/
structure IsRun (kind : Char -> Bool) (text : String) : Prop where
  inhabited : text ≠ ""
  members : text.toList.all kind = true

/-- A name: a run of letters that is no keyword. -/
structure IsName (text : String) : Prop extends IsRun isLetter text where
  free : TokenType.ofKeyword? text = none

theorem IsRun.of_ofKeyword? {text : String} {type : TokenType}
    (keyword : TokenType.ofKeyword? text = some type) : IsRun isLetter text := by
  have member : text ∈ ["let", "fn", "true", "false", "if", "else", "return"] := by
    unfold TokenType.ofKeyword? at keyword
    grind
  have runs : ∀ word ∈ ["let", "fn", "true", "false", "if", "else", "return"],
      word ≠ "" ∧ word.toList.all isLetter = true := by decide +kernel
  rcases runs text member with ⟨inhabited, members⟩
  exact ⟨inhabited, members⟩

theorem IsRun.natural (number : Nat) : IsRun Char.isDigit (Text.natural number) := by
  constructor
  · intro empty
    exact Nat.toDigits_ne_nil (String.ofList_eq_empty_iff.1 empty)
  · rw [Text.natural, String.toList_ofList, List.all_eq_true]
    intro character member
    exact Nat.isDigit_of_mem_toDigits (by decide) (by decide) member

theorem decimal_of_nonneg {value : Int} (nonneg : 0 ≤ value) :
    decimal value = natural value.toNat := by
  cases value with
  | ofNat number => rfl
  | negSucc number => omega

/-- A run of letters is one word, and which one it is only the run decides. -/
theorem wordsOf_letters {run : String} (shape : IsRun isLetter run) {behind : List Char}
    (apart : Apart behind) :
    wordsOf (run.toList ++ behind) = Word.letters run :: wordsOf behind := by
  rcases shape with ⟨inhabited, members⟩
  rcases shape : run.toList with _ | ⟨first, later⟩
  · exact absurd (String.toList_eq_nil_iff.1 shape) inhabited
  · rw [shape, List.all_cons, Bool.and_eq_true] at members
    have whole : String.ofList (first :: later) = run := by rw [← shape, String.ofList_toList]
    rw [List.cons_append, wordsOf_cons (isBlank_of_isLetter members.1),
      longestToken_of_isLetter members.1, apart.letters.takeWhile_append members.2,
      List.drop_left, whole]
    rfl

theorem wordsOf_digits {run : String} (shape : IsRun Char.isDigit run) {behind : List Char}
    (apart : Apart behind) :
    wordsOf (run.toList ++ behind) = Word.digits run :: wordsOf behind := by
  rcases shape with ⟨inhabited, members⟩
  rcases shape : run.toList with _ | ⟨first, later⟩
  · exact absurd (String.toList_eq_nil_iff.1 shape) inhabited
  · rw [shape, List.all_cons, Bool.and_eq_true] at members
    have whole : String.ofList (first :: later) = run := by rw [← shape, String.ofList_toList]
    rw [List.cons_append, wordsOf_cons (isBlank_of_isDigit members.1),
      longestToken_of_isDigit members.1, apart.digits.takeWhile_append members.2,
      List.drop_left, whole]
    rfl

/-! ## Symbols that an equals sign may complete -/

theorem completedByEquals_of_ne {whole alone : TokenType} {later : List Char}
    (unequal : later.head? ≠ some '=') : completedByEquals whole alone later = (alone, []) := by
  unfold completedByEquals
  split
  · exact absurd rfl unequal
  · rfl

theorem wordsOf_equalEqual (rest : List Char) :
    wordsOf ('=' :: '=' :: rest) = ⟨.equalEqual, "=="⟩ :: wordsOf rest := by
  rw [wordsOf_cons (by decide +kernel)]
  rfl

theorem wordsOf_bangEqual (rest : List Char) :
    wordsOf ('!' :: '=' :: rest) = ⟨.bangEqual, "!="⟩ :: wordsOf rest := by
  rw [wordsOf_cons (by decide +kernel)]
  rfl

theorem wordsOf_assign {rest : List Char} (alone : rest.head? ≠ some '=') :
    wordsOf ('=' :: rest) = ⟨.assign, "="⟩ :: wordsOf rest := by
  have longest : longestToken '=' rest = (.assign, []) := completedByEquals_of_ne alone
  rw [wordsOf_cons (by decide +kernel), longest]
  rfl

theorem wordsOf_bang {rest : List Char} (alone : rest.head? ≠ some '=') :
    wordsOf ('!' :: rest) = ⟨.bang, "!"⟩ :: wordsOf rest := by
  have longest : longestToken '!' rest = (.bang, []) := completedByEquals_of_ne alone
  rw [wordsOf_cons (by decide +kernel), longest]
  rfl

end MonkeyLang
