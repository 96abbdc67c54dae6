import Mathlib.Data.List.TakeWhile
import MonkeyLang.Proofs.Token.Places

namespace MonkeyLang

open Text

/-!
# The layout of a source

A source is laid out as its tokens with blanks between them: nothing is left out, and
nothing is taken twice.  Every token is the longest lexeme that starts where it stands,
and no run of letters or digits is cut in two.

As no lexeme holds a blank, the blanks can only lie between the tokens.  So the layout is
settled by the source, and one can speak of the characters in front of a token.
-/

/-! ## Where a lexeme stands -/

/-- The characters that come in runs. -/
def IsRunKind (kind : Char -> Bool) : Prop := kind = isLetter ∨ kind = Char.isDigit

/-- A lexeme that is the longest one where it stands.  A run of letters or of digits is
not even part of a longer one that starts further in front. -/
structure IsLongest (type : TokenType) (front lexeme behind : List Char) : Prop where
  shape : Lexeme type lexeme
  longest : ∀ {kind other}, Lexeme kind other -> other <+: lexeme ++ behind ->
    other.length ≤ lexeme.length
  whole : ∀ {kind}, IsRunKind kind -> lexeme.all kind = true ->
    Interrupts kind front.reverse ∧ Interrupts kind behind

theorem IsRunKind.of_neither {kind : Char -> Bool} (runs : IsRunKind kind) {character : Char}
    (letter : isLetter character = false) (digit : character.isDigit = false) :
    kind character = false := by
  rcases runs with rfl | rfl
  · exact letter
  · exact digit

theorem IsRunKind.of_isBlank {kind : Char -> Bool} (runs : IsRunKind kind) {character : Char}
    (blank : isBlank character = true) : kind character = false :=
  have apart := Apart.of_isBlank blank []
  runs.of_neither (apart.letters character rfl) (apart.digits character rfl)

/-- A run of letters or of digits is a lexeme. -/
theorem IsRunKind.exists_lexeme {kind : Char -> Bool} (runs : IsRunKind kind) {run : List Char}
    (inhabited : run ≠ []) (members : run.all kind = true) : ∃ type, Lexeme type run := by
  rcases runs with rfl | rfl
  · exact ⟨_, .letters inhabited members⟩
  · exact ⟨_, .digits inhabited members⟩

/-- A lexeme that holds a letter holds letters only, and likewise for digits. -/
theorem Lexeme.all_of_mem {type : TokenType} {lexeme : List Char} (shape : Lexeme type lexeme)
    {kind : Char -> Bool} (runs : IsRunKind kind) {character : Char} (member : character ∈ lexeme)
    (of_kind : kind character = true) : lexeme.all kind = true := by
  cases shape with
  | letters _ members =>
      rcases runs with rfl | rfl
      · exact members
      · have letter := List.all_eq_true.mp members character member
        rw [isLetter_of_isDigit of_kind] at letter
        cases letter
  | digits _ members =>
      rcases runs with rfl | rfl
      · have digit := List.all_eq_true.mp members character member
        rw [isLetter_of_isDigit digit] at of_kind
        cases of_kind
      · exact members
  | symbol symbol text =>
      have neither : ∀ type ∈ TokenType.symbols,
          type.text.toList.all (fun other => !isLetter other && !other.isDigit) = true := by
        decide +kernel
      have apart := List.all_eq_true.mp (neither type symbol) character (text ▸ member)
      rw [Bool.and_eq_true, Bool.not_eq_true', Bool.not_eq_true'] at apart
      rw [runs.of_neither apart.1 apart.2] at of_kind
      cases of_kind
  | illegal _ letter digit =>
      rw [List.mem_singleton.mp member, runs.of_neither letter digit] at of_kind
      cases of_kind

/-- Whether no run goes on across the seam of two texts. -/
def Parted (front behind : List Char) : Prop :=
  ∀ kind, IsRunKind kind -> Interrupts kind front.reverse ∨ Interrupts kind behind

namespace Scanner.Draws

variable {scanner later : Scanner} {gap front : List Char} {token : Token}

/-- A token that is drawn where no run is under way stands as the longest lexeme. -/
theorem isLongest (draws : scanner.Draws gap token later) (parted : Parted front scanner.unread) :
    IsLongest token.type (front ++ gap) token.lexeme.toList later.unread := by
  refine ⟨draws.shape, draws.longest, fun {kind} runs members => ⟨?_, ?_⟩⟩
  · rw [List.reverse_append]
    cases reversed : gap.reverse with
    | cons last others =>
        have member : last ∈ gap := List.mem_reverse.mp (reversed ▸ List.mem_cons_self)
        rintro next ⟨⟩
        exact runs.of_isBlank (List.all_eq_true.mp draws.blank last member)
    | nil =>
        -- Without a blank between them the run would go on from in front of the token.
        rcases parted kind runs with interrupts | interrupts
        · exact interrupts
        · rcases List.exists_cons_of_ne_nil draws.shape.ne_nil with ⟨first, rest, text⟩
          have unread := draws.unread
          rw [List.reverse_eq_nil_iff.mp reversed, text] at unread
          rw [text, List.all_cons, interrupts first (unread ▸ rfl), Bool.false_and] at members
          cases members
  · -- With the character behind it the run would be a longer lexeme.
    intro next follows
    rcases List.head?_eq_some_iff.mp follows with ⟨behind, unread⟩
    cases goesOn : kind next with
    | false => rfl
    | true =>
        have more : (token.lexeme.toList ++ [next]).all kind = true := by simp [members, goesOn]
        rcases runs.exists_lexeme (by simp) more with ⟨type, shape⟩
        have short := draws.longest shape ⟨behind, by simp [unread]⟩
        rw [List.length_append] at short
        exact absurd short (Nat.not_succ_le_self _)

/-- Behind a token no run is under way. -/
theorem parted (draws : scanner.Draws gap token later) (parted : Parted front scanner.unread) :
    Parted (front ++ gap ++ token.lexeme.toList) later.unread := by
  intro kind runs
  cases members : token.lexeme.toList.all kind with
  | true => exact .inr ((draws.isLongest parted).whole runs members).2
  | false =>
      left
      rw [List.reverse_append]
      cases reversed : token.lexeme.toList.reverse with
      | nil => exact absurd (List.reverse_eq_nil_iff.mp reversed) draws.shape.ne_nil
      | cons last others =>
          have member : last ∈ token.lexeme.toList :=
            List.mem_reverse.mp (reversed ▸ List.mem_cons_self)
          rintro next ⟨⟩
          cases of_kind : kind last with
          | false => rfl
          | true =>
              rw [draws.shape.all_of_mem runs member of_kind] at members
              cases members

end Scanner.Draws

/-! ## Layouts -/

/-- Tokens with gaps between them: the characters in front of the first token, and the
tokens with the characters behind each of them. -/
structure Layout where
  start : List Char
  parts : List (Token × List Char)

namespace Layout

/-- The tokens of a layout. -/
def tokens (layout : Layout) : List Token := layout.parts.map Prod.fst

/-- The gaps of a layout, which are one more than its tokens. -/
def gaps (layout : Layout) : List (List Char) := layout.start :: layout.parts.map Prod.snd

/-- The characters of a layout: the first gap, and each lexeme with the gap behind it. -/
def text (layout : Layout) : List Char :=
  layout.start ++ layout.parts.flatMap fun part => part.1.lexeme.toList ++ part.2

theorem text_nil (start : List Char) : (mk start []).text = start := List.append_nil start

theorem text_cons (start : List Char) (token : Token) (gap : List Char)
    (parts : List (Token × List Char)) :
    (mk start ((token, gap) :: parts)).text = start ++ (token.lexeme.toList ++ (mk gap parts).text) := by
  simp only [text, List.flatMap_cons, List.append_assoc]

/-- A layout of what a scanner has not read yet: all of it, by the tokens that the
scanner draws, with nothing but blanks between them. -/
structure IsOf (layout : Layout) (scanner : Scanner) : Prop where
  text : layout.text = scanner.unread
  tokens : layout.tokens = scanner.tokens
  blank : ∀ gap ∈ layout.gaps, gap.all isBlank = true

theorem IsOf.nil {scanner : Scanner} (drawn : scanner.next? = none) :
    (Layout.mk scanner.unread []).IsOf scanner where
  text := text_nil scanner.unread
  tokens := (Scanner.tokens_of_none drawn).symm
  blank := by
    rw [gaps, List.map_nil, List.forall_mem_singleton, List.all_eq_true]
    apply List.dropWhile_eq_nil_iff.mp
    cases shape : scanner.unread.dropWhile isBlank with
    | nil => rfl
    | cons first later => simp [Scanner.next?, shape] at drawn

theorem IsOf.cons {scanner later : Scanner} {gap : List Char} {token : Token} {layout : Layout}
    (drawn : scanner.next? = some (token, later)) (draws : scanner.Draws gap token later)
    (behind : layout.IsOf later) :
    (Layout.mk gap ((token, layout.start) :: layout.parts)).IsOf scanner where
  text := by rw [text_cons, draws.unread, ← behind.text]
  tokens := by
    rw [Scanner.tokens_of_some drawn, ← behind.tokens]
    rfl
  blank := List.forall_mem_cons.mpr ⟨draws.blank, behind.blank⟩

/-- Some characters in front of a layout and its first gap are in front of its first
token, and with that token in front of what is behind it. -/
theorem exists_isOf (scanner : Scanner) (front : List Char)
    (start : scanner.position = Position.advance {} front)
    (parted : Parted front scanner.unread) :
    ∃ layout : Layout, layout.IsOf scanner ∧
      ∀ before token gap later, layout.parts = before ++ (token, gap) :: later ->
        let ahead := front ++ (Layout.mk layout.start before).text
        IsLongest token.type ahead token.lexeme.toList (Layout.mk gap later).text ∧
          token.span = (Position.advance {} ahead).span token.lexeme.toList.length := by
  induction scanner using Scanner.tokens.induct generalizing front with
  | case1 scanner drawn =>
      refine ⟨_, IsOf.nil drawn, fun before token gap later shape => ?_⟩
      cases before <;> cases shape
  | case2 scanner head later drawn ih =>
      rcases Scanner.draws_of_next? drawn with ⟨gap, draws⟩
      have onward : later.position =
          Position.advance {} (front ++ gap ++ head.lexeme.toList) := by
        rw [draws.position, start, Position.advance_append, Position.advance_append]
      rcases ih _ onward (draws.parted parted) with ⟨layout, isOf, each⟩
      refine ⟨_, isOf.cons drawn draws, fun before token next behind shape => ?_⟩
      cases before with
      | nil =>
          cases shape
          have stands := draws.isLongest parted
          have place := draws.place
          rw [start, ← Position.advance_append] at place
          simp only [text_nil]
          refine ⟨?_, place⟩
          have behind : (Layout.mk layout.start layout.parts).text = later.unread := isOf.text
          rwa [behind]
      | cons part before =>
          rcases List.cons.inj shape with ⟨rfl, rest⟩
          have ahead : front ++ (Layout.mk gap ((head, layout.start) :: before)).text =
              front ++ gap ++ head.lexeme.toList ++ (Layout.mk layout.start before).text := by
            simp only [text_cons, List.append_assoc]
          simp only [ahead]
          exact each before token next behind rest

/-- A source has a layout, in which every token stands as the longest lexeme and shows the
place behind what is in front of it. -/
theorem exists_isOf_source (source : String) :
    ∃ layout : Layout, layout.IsOf (Scanner.ofString source) ∧
      ∀ front token gap later, layout.parts = front ++ (token, gap) :: later ->
        let ahead := (Layout.mk layout.start front).text
        IsLongest token.type ahead token.lexeme.toList (Layout.mk gap later).text ∧
          token.span = (Position.advance {} ahead).span token.lexeme.toList.length := by
  have parted : Parted [] (Scanner.ofString source).unread := by
    intro kind _
    left
    rintro next ⟨⟩
  exact exists_isOf (Scanner.ofString source) [] rfl parted

/-! ## The only layout -/

/-- Layouts of one text by the same lexemes have the same gaps. -/
theorem eq_of_text {first second : Layout} (text : first.text = second.text)
    (tokens : first.tokens = second.tokens)
    (blank : ∀ gap ∈ first.gaps, gap.all isBlank = true)
    (blank' : ∀ gap ∈ second.gaps, gap.all isBlank = true)
    (lexemes : ∀ token ∈ first.tokens, Lexeme token.type token.lexeme.toList) :
    first = second := by
  rcases first with ⟨start, parts⟩
  rcases second with ⟨start', parts'⟩
  induction parts generalizing start start' parts' with
  | nil =>
      cases parts' with
      | nil =>
          rw [text_nil, text_nil] at text
          rw [text]
      | cons part later => cases tokens
  | cons part later ih =>
      rcases part with ⟨token, gap⟩
      cases parts' with
      | nil => cases tokens
      | cons part' later' =>
          rcases part' with ⟨token', gap'⟩
          rcases List.cons.inj tokens with ⟨same, others⟩
          dsimp only at same
          subst same
          have shape := lexemes token List.mem_cons_self
          rw [text_cons, text_cons] at text
          have starts : start = start' := by
            -- Each gap is what the text starts with up to the first character of the lexeme.
            have leading := congrArg (List.takeWhile isBlank) text
            rwa [(shape.interrupts_isBlank _).takeWhile_append (blank start List.mem_cons_self),
              (shape.interrupts_isBlank _).takeWhile_append
                (blank' start' List.mem_cons_self)] at leading
          subst starts
          have behind := List.append_cancel_left (List.append_cancel_left text)
          have later := ih gap (List.forall_mem_cons.mp blank).2
            (List.forall_mem_cons.mp lexemes).2 gap' later' (List.forall_mem_cons.mp blank').2
            behind others
          cases later
          rfl

theorem IsOf.unique {first second : Layout} {scanner : Scanner} (isOf : first.IsOf scanner)
    (isOf' : second.IsOf scanner) : first = second := by
  refine eq_of_text (isOf.text.trans isOf'.text.symm) (isOf.tokens.trans isOf'.tokens.symm)
    isOf.blank isOf'.blank ?_
  rw [isOf.tokens]
  exact Scanner.lexeme_of_mem_tokens

end Layout

/-- A source is the lexemes of its tokens with blanks around them, and nothing else.  Each
lexeme starts with no blank and is the longest one where it stands.  Behind them there is
one end token, which is empty. -/
theorem tokens_are_longest_lexemes (source : String) :
    ∃ layout : Layout, layout.IsOf (Scanner.ofString source) ∧
      (∃ ending, tokensOf source = layout.tokens ++ [ending] ∧ ending.type = .ending ∧
        ending.lexeme = "") ∧
      (∀ token ∈ layout.tokens, token.type ≠ .ending) ∧
      ∀ front token gap later, layout.parts = front ++ (token, gap) :: later ->
        (∃ first rest, token.lexeme.toList = first :: rest ∧ isBlank first = false) ∧
        IsLongest token.type (Layout.mk layout.start front).text token.lexeme.toList
          (Layout.mk gap later).text := by
  rcases Layout.exists_isOf_source source with ⟨layout, isOf, each⟩
  refine ⟨layout, isOf, ⟨(Scanner.ofString source).ending, ?_, rfl, rfl⟩, ?_, ?_⟩
  · rw [isOf.tokens]
    rfl
  · rw [isOf.tokens]
    exact Scanner.type_ne_ending_of_mem_tokens
  · intro front token gap later shape
    have stands := (each front token gap later shape).1
    rcases List.exists_cons_of_ne_nil stands.shape.ne_nil with ⟨first, rest, text⟩
    have solid := stands.shape.isBlank_of_mem first (text ▸ List.mem_cons_self)
    exact ⟨⟨first, rest, text, solid⟩, stands⟩

end MonkeyLang
