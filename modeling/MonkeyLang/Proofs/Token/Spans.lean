import Mathlib.Data.List.Induction
import MonkeyLang.Proofs.Token.Layout

namespace MonkeyLang

open Text

/-!
# The places that tokens show

A token shows the line and the column of its first character, and how many characters it
has.  These were counted while the source was passed over.  Here they are read off the
layout of the source instead, from all that is in front of the token: the line feeds in
it, and the characters behind the last of them.

As blanks and line feeds only lie between tokens, a token stays in its line.  So its end
is where its width says, and the next token does not start in front of it.
-/

namespace Position

/-- What is counted while characters are passed over from the start of a source. -/
theorem advance_start (characters : List Char) :
    ({} : Position).advance characters =
      ⟨1 + characters.count '\n', 1 + (characters.reverse.takeWhile (· ≠ '\n')).length⟩ := by
  induction characters using List.reverseRecOn with
  | nil => rfl
  | append_singleton front last ih =>
      rw [advance_append, ih, List.count_append, List.reverse_concat]
      by_cases feed : last = '\n'
      · simp [advance, after, feed, Nat.add_assoc]
      · simp [advance, after, feed, Nat.add_comm]

/-- Characters without a line feed lead along a line. -/
theorem advance_of_notMem {characters : List Char} (line : '\n' ∉ characters)
    (position : Position) :
    position.advance characters = ⟨position.line, position.column + characters.length⟩ := by
  induction characters generalizing position with
  | nil => rfl
  | cons first later ih =>
      rw [List.mem_cons, not_or] at line
      have step : position.advance (first :: later) = (position.after first).advance later := rfl
      rw [step, ih line.2, after, if_neg (Ne.symm line.1), List.length_cons]
      dsimp only
      rw [Nat.add_assoc, Nat.add_comm 1]

/-- No position is behind one that characters lead to from it. -/
theorem not_precedes_of_advance (position : Position) (characters : List Char) :
    ¬ (position.advance characters).Precedes position := by
  cases characters with
  | nil => exact Precedes.irrefl position
  | cons first later =>
      intro back
      exact Precedes.irrefl _ (back.trans (position.precedes_advance_cons first later))

end Position

/-- The place behind the last character of a token. -/
def Token.finish (token : Token) : Position := ⟨token.span.endLine, token.span.endColumn⟩

/-- A token shows its place as the one behind some characters: its line is one more than
the line feeds among them, its column one more than the characters behind the last line
feed, and it ends in its line after as many columns as it has characters. -/
structure Token.IsPlacedBehind (token : Token) (front : List Char) : Prop where
  line : token.span.line = 1 + front.count '\n'
  column : token.span.column = 1 + (front.reverse.takeWhile (· ≠ '\n')).length
  endLine : token.span.endLine = token.span.line
  endColumn : token.span.endColumn = token.span.column + token.lexeme.length

theorem Token.IsPlacedBehind.of_span {token : Token} {front : List Char}
    (place : token.span = (Position.advance {} front).span token.lexeme.length) :
    token.IsPlacedBehind front where
  line := by rw [place, Position.advance_start]; rfl
  column := by rw [place, Position.advance_start]; rfl
  endLine := rfl
  endColumn := by
    rw [Span.endColumn, place]
    rfl

/-- One token is over before another one starts. -/
def Token.Precedes (first second : Token) : Prop :=
  first.place.Precedes second.place ∧ ¬ second.place.Precedes first.finish

namespace Scanner

theorem notMem_lexeme_of_mem_tokens {scanner : Scanner} :
    ∀ token ∈ scanner.tokens ++ [scanner.ending], '\n' ∉ token.lexeme.toList := by
  rw [List.forall_mem_append, List.forall_mem_singleton]
  refine ⟨fun token member feed => ?_, List.not_mem_nil⟩
  have solid := (lexeme_of_mem_tokens token member).isBlank_of_mem '\n' feed
  cases solid

/-- A token ends where the scanner goes on. -/
theorem Draws.finish_eq {scanner later : Scanner} {gap : List Char} {token : Token}
    (draws : scanner.Draws gap token later) : token.finish = later.position := by
  have line : '\n' ∉ token.lexeme.toList := by
    intro feed
    cases draws.shape.isBlank_of_mem '\n' feed
  rw [draws.position, Position.advance_of_notMem line, Token.finish, Span.endLine,
    Span.endColumn, draws.place]
  rfl

/-- All that a scanner draws starts where it stands or further behind. -/
theorem not_precedes_of_mem_tokens {scanner : Scanner} :
    ∀ token ∈ scanner.tokens ++ [scanner.ending], ¬ token.place.Precedes scanner.position := by
  induction scanner using Scanner.tokens.induct with
  | case1 scanner drawn =>
      rw [tokens_of_none drawn, List.nil_append, List.forall_mem_singleton]
      exact scanner.position.not_precedes_of_advance scanner.unread
  | case2 scanner head later drawn ih =>
      rcases draws_of_next? drawn with ⟨gap, draws⟩
      rcases next?_places drawn with ⟨_, _, same⟩
      rw [tokens_of_some drawn, List.cons_append, ← same]
      refine List.forall_mem_cons.mpr ⟨?_, fun token member back => ?_⟩
      · have start : head.place = scanner.position.advance gap := by
          rw [Token.place, draws.place]
          rfl
        rw [start]
        exact scanner.position.not_precedes_of_advance gap
      · have further := (back.advance gap).advance head.lexeme.toList
        rw [← draws.position] at further
        exact ih token member further

/-- Tokens are over one after another. -/
theorem pairwise_precedes (scanner : Scanner) :
    (scanner.tokens ++ [scanner.ending]).Pairwise Token.Precedes := by
  have started := pairwise_tokens scanner
  induction scanner using Scanner.tokens.induct with
  | case1 scanner drawn =>
      rw [tokens_of_none drawn]
      exact List.pairwise_singleton _ _
  | case2 scanner head later drawn ih =>
      rcases draws_of_next? drawn with ⟨gap, draws⟩
      rcases next?_places drawn with ⟨_, _, same⟩
      rw [tokens_of_some drawn, List.cons_append, ← same, List.pairwise_cons] at started ⊢
      refine ⟨fun token member => ⟨started.1 token member, ?_⟩, ih started.2⟩
      rw [draws.finish_eq]
      exact not_precedes_of_mem_tokens token member

end Scanner

/-- A source is laid out as its tokens in one way only, and every token shows the place
behind the characters that are in front of it.  So does the end token behind the last
character.  No token goes on in another line, and each is over before the next starts. -/
theorem places_are_exact (source : String) :
    ∃ layout : Layout, layout.IsOf (Scanner.ofString source) ∧
      (∀ other : Layout, other.IsOf (Scanner.ofString source) -> other = layout) ∧
      (∀ front token gap later, layout.parts = front ++ (token, gap) :: later ->
        token.IsPlacedBehind (Layout.mk layout.start front).text) ∧
      (∃ ending, tokensOf source = layout.tokens ++ [ending] ∧
        ending.IsPlacedBehind source.toList) ∧
      (∀ token ∈ tokensOf source, '\n' ∉ token.lexeme.toList) ∧
      (tokensOf source).Pairwise Token.Precedes := by
  rcases Layout.exists_isOf_source source with ⟨layout, isOf, each⟩
  refine ⟨layout, isOf, fun other isOf' => isOf'.unique isOf, ?_, ?_, ?_, ?_⟩
  · intro front token gap later shape
    exact .of_span (each front token gap later shape).2
  · refine ⟨(Scanner.ofString source).ending, ?_, .of_span rfl⟩
    rw [isOf.tokens]
    rfl
  · exact Scanner.notMem_lexeme_of_mem_tokens
  · exact Scanner.pairwise_precedes _

end MonkeyLang
