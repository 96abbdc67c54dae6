import Mathlib.Data.List.Basic
import MonkeyLang.Proofs.Token.Lexeme

namespace MonkeyLang

open Text

/-!
# The order of tokens in a source

Tokens are drawn from the front to the back, and each takes at least one character; so
a token starts behind the start of every token before it, and the end token starts
behind them all.  No token therefore occurs twice, and the number of a token in its
source can be read off the token.

A source can be asked for more tokens than it has.  It then goes on with its end token,
which has no other number than the first time.
-/

namespace Position

/-- Whether a position is in front of another one. -/
def Precedes (first second : Position) : Prop :=
  first.line < second.line ∨ first.line = second.line ∧ first.column < second.column

theorem Precedes.irrefl (position : Position) : ¬ position.Precedes position := by
  unfold Precedes
  omega

theorem Precedes.trans {first second third : Position} (before : first.Precedes second)
    (behind : second.Precedes third) : first.Precedes third := by
  unfold Precedes at *
  omega

theorem precedes_after (position : Position) (character : Char) :
    position.Precedes (position.after character) := by
  unfold after
  split
  · exact .inl (Nat.lt_succ_self _)
  · exact .inr ⟨rfl, Nat.lt_succ_self _⟩

/-- Characters lead forward. -/
theorem precedes_advance_cons (position : Position) (first : Char) (later : List Char) :
    position.Precedes (position.advance (first :: later)) := by
  induction later generalizing position first with
  | nil => exact position.precedes_after first
  | cons second later ih =>
      exact (position.precedes_after first).trans (ih (position.after first) second)

theorem Precedes.advance {first second : Position} (before : first.Precedes second)
    (characters : List Char) : first.Precedes (second.advance characters) := by
  cases characters with
  | nil => exact before
  | cons first later => exact before.trans (second.precedes_advance_cons first later)

end Position

/-- The place at which a token starts. -/
def Token.place (token : Token) : Position := ⟨token.span.line, token.span.column⟩

namespace Scanner

/-- A token starts behind the blanks in front of it, ends where the scanner goes on, and
leaves the end of the source where it is. -/
theorem next?_places {scanner later : Scanner} {token : Token}
    (drawn : scanner.next? = some (token, later)) :
    (∃ blanks, token.place = scanner.position.advance blanks) ∧
      token.place.Precedes later.position ∧ later.ending = scanner.ending := by
  rcases draws_of_next? drawn with ⟨gap, draws⟩
  have start : token.place = scanner.position.advance gap := by
    rw [Token.place, draws.place]
    rfl
  refine ⟨⟨gap, start⟩, ?_, ?_⟩
  · rcases List.exists_cons_of_ne_nil draws.shape.ne_nil with ⟨first, rest, text⟩
    rw [start, draws.position, text]
    exact Position.precedes_advance_cons _ _ _
  · unfold ending
    rw [draws.unread, draws.position, Position.advance_append, Position.advance_append]

/-! ## All tokens of a source -/

/-- What is in front of a scanner is in front of all tokens that it draws. -/
theorem precedes_of_mem_tokens {scanner : Scanner} {position : Position}
    (before : position.Precedes scanner.position) :
    ∀ token ∈ scanner.tokens ++ [scanner.ending], position.Precedes token.place := by
  induction scanner using Scanner.tokens.induct with
  | case1 scanner drawn =>
      intro token member
      rw [tokens_of_none drawn, List.nil_append, List.mem_singleton] at member
      subst member
      exact before.advance scanner.unread
  | case2 scanner head later drawn ih =>
      rcases next?_places drawn with ⟨⟨blanks, start⟩, forward, same⟩
      have here : position.Precedes head.place := start ▸ before.advance blanks
      intro token member
      rw [tokens_of_some drawn, List.cons_append, List.mem_cons, ← same] at member
      rcases member with rfl | member
      · exact here
      · exact ih (here.trans forward) token member

/-- Tokens come in the order of their places. -/
theorem pairwise_tokens (scanner : Scanner) :
    (scanner.tokens ++ [scanner.ending]).Pairwise
      fun first second => first.place.Precedes second.place := by
  induction scanner using Scanner.tokens.induct with
  | case1 scanner drawn =>
      rw [tokens_of_none drawn]
      exact List.pairwise_singleton _ _
  | case2 scanner head later drawn ih =>
      rcases next?_places drawn with ⟨_, forward, same⟩
      rw [tokens_of_some drawn, List.cons_append, ← same, List.pairwise_cons]
      exact ⟨precedes_of_mem_tokens forward, ih⟩

/-- The end token is not drawn before the end. -/
theorem type_ne_ending_of_mem_tokens {scanner : Scanner} :
    ∀ token ∈ scanner.tokens, token.type ≠ .ending :=
  fun token member => (lexeme_of_mem_tokens token member).type_ne_ending

/-! ## Drawing again and again -/

theorem draw_fst (scanner : Scanner) :
    scanner.draw.1 = scanner.tokens.head?.getD scanner.ending := by
  cases drawn : scanner.next? with
  | none => simp [draw, drawn, tokens_of_none drawn]
  | some pair => simp [draw, drawn, tokens_of_some drawn]

theorem tokens_draw (scanner : Scanner) : scanner.draw.2.tokens = scanner.tokens.tail := by
  cases drawn : scanner.next? with
  | none =>
      have finished : scanner.finish.tokens = [] := tokens_of_none rfl
      simp [draw, drawn, tokens_of_none drawn, finished]
  | some pair => simp [draw, drawn, tokens_of_some drawn]

theorem ending_draw (scanner : Scanner) : scanner.draw.2.ending = scanner.ending := by
  cases drawn : scanner.next? with
  | none => simp [draw, drawn, finish, ending, Position.advance_nil]
  | some pair => simp [draw, drawn, (next?_places drawn).2.2]

theorem tokens_skip (scanner : Scanner) (count : Nat) :
    (scanner.skip count).tokens = scanner.tokens.drop count := by
  induction count generalizing scanner with
  | zero => rfl
  | succ count ih => rw [skip, ih, tokens_draw, List.drop_tail]

theorem ending_skip (scanner : Scanner) (count : Nat) :
    (scanner.skip count).ending = scanner.ending := by
  induction count generalizing scanner with
  | zero => rfl
  | succ count ih => rw [skip, ih, ending_draw]

/-- Tokens are drawn in order, and then the end token again and again. -/
theorem draw_skip (scanner : Scanner) (index : Nat) :
    (scanner.skip index).draw.1 = scanner.tokens[index]?.getD scanner.ending := by
  rw [draw_fst, tokens_skip, ending_skip, List.head?_drop]

end Scanner

/-- No token occurs twice. -/
theorem nodup_tokensOf (source : String) : (tokensOf source).Nodup := by
  apply (Scanner.pairwise_tokens (Scanner.ofString source)).imp
  rintro first second before rfl
  exact Position.Precedes.irrefl _ before

/-- The number of a token in its source. -/
def numberIn (source : String) (token : Token) : Nat := (tokensOf source).idxOf token

/-- Behind a number of tokens of a source the others are numbered from there on. -/
theorem numberIn_of_append {source : String} {front behind : List Token}
    (shape : tokensOf source = front ++ behind) {token : Token} (member : token ∈ behind) :
    numberIn source token = front.length + behind.idxOf token := by
  have nodup := shape ▸ nodup_tokensOf source
  have fresh : token ∉ front := fun early =>
    (List.nodup_append.mp nodup).2.2 token early token member rfl
  rw [numberIn, shape, List.idxOf_append_of_notMem fresh]

end MonkeyLang
