import MonkeyLang.Grammar.Reading
import MonkeyLang.Proofs.Grammar.Lockstep
import MonkeyLang.Proofs.Token.Places

namespace MonkeyLang

/-!
# Diagnostics that no later text changes

What a reader says about a token it says before it has seen the next one.  So the
diagnostics of a source that are shown by its first tokens are known as soon as these
tokens are: two sources that start with the same ones have the same diagnostics there,
whatever follows in either.  A source that has ended goes on with its end token, and a
source that has not yet ended at that point differs from it.
-/

/-- The tokens of a source as they are numbered there. -/
def numbering (source : String) : Numbering :=
  ⟨(Scanner.ofString source).ending, numberIn source⟩

/-- A token that is drawn from a source, where the end token is drawn again and again. -/
def drawnFrom (source : String) (index : Nat) : Token :=
  ((Scanner.ofString source).skip index).draw.1

/-- What is wrong with the first tokens of a source. -/
def earlyFindings (source : String) (count : Nat) : List Finding :=
  (numbering source).findings count (Reading.ofSource source).diagnostics

/-! ## Sources that start alike -/

/-- Whether tokens are what is left of a source behind a number of them. -/
def LeftOf (source : String) (passed : Nat) (tokens : List Token) : Prop :=
  ∃ front, front.length = passed ∧
    tokensOf source = front ++ (tokens ++ [(Scanner.ofString source).ending])

namespace LeftOf

variable {source : String} {passed : Nat} {token : Token} {tokens : List Token}

theorem start (source : String) : LeftOf source 0 (Scanner.ofString source).tokens :=
  ⟨[], rfl, rfl⟩

theorem next (left : LeftOf source passed (token :: tokens)) :
    LeftOf source (passed + 1) tokens := by
  rcases left with ⟨front, length, shape⟩
  refine ⟨front ++ [token], ?_, ?_⟩
  · rw [List.length_append, length, List.length_singleton]
  · rw [shape, List.append_assoc, List.singleton_append, List.cons_append]

/-- The token in front has the number of those that were passed. -/
theorem number_head (left : LeftOf source passed (token :: tokens)) :
    numberIn source token = passed := by
  rcases left with ⟨front, length, shape⟩
  rw [numberIn_of_append shape List.mem_cons_self, length, List.cons_append,
    List.idxOf_cons_self, Nat.add_zero]

theorem number_ending (left : LeftOf source passed []) :
    numberIn source (Scanner.ofString source).ending = passed := by
  rcases left with ⟨front, length, shape⟩
  rw [numberIn_of_append shape List.mem_cons_self, length, List.nil_append,
    List.idxOf_cons_self, Nat.add_zero]

theorem late (left : LeftOf source passed tokens) {count : Nat} (beyond : count ≤ passed) :
    (numbering source).Late count tokens := by
  rcases left with ⟨front, length, shape⟩
  intro token member
  have there : token ∈ tokens ++ [(Scanner.ofString source).ending] := by
    rw [List.mem_append, List.mem_singleton]
    exact (List.mem_cons.mp member).symm
  have number : (numbering source).number token = _ := numberIn_of_append shape there
  rw [Numbering.IsLate, number, length]
  exact Nat.le_add_right_of_le beyond

theorem type_head (left : LeftOf source passed (token :: tokens)) : token.type ≠ .ending := by
  rcases left with ⟨front, _, shape⟩
  rw [tokensOf, ← List.append_assoc, List.append_cancel_right_eq] at shape
  have member : token ∈ (Scanner.ofString source).tokens := by
    rw [shape]
    exact List.mem_append_right _ List.mem_cons_self
  exact Scanner.type_ne_ending_of_mem_tokens token member

end LeftOf

/-- Sources are alike as long as the same words are drawn from them. -/
theorem shared_of_words {source source' : String} {count passed : Nat}
    {tokens tokens' : List Token} (left : LeftOf source passed tokens)
    (left' : LeftOf source' passed tokens')
    (same : ∀ index, passed + index < count ->
      (tokens[index]?.getD (Scanner.ofString source).ending).word =
        (tokens'[index]?.getD (Scanner.ofString source').ending).word) :
    Shared count (numbering source) (numbering source') tokens tokens' := by
  induction tokens generalizing passed tokens' with
  | nil =>
      rcases Nat.lt_or_ge passed count with within | beyond
      · have first := same 0 within
        cases tokens' with
        | nil => exact .ended ⟨first, left.number_ending.trans left'.number_ending.symm⟩
        | cons token' rest' => exact absurd (congrArg Word.type first).symm left'.type_head
      · exact .apart (left.late beyond) (left'.late beyond)
  | cons token rest ih =>
      rcases Nat.lt_or_ge passed count with within | beyond
      · have first := same 0 within
        cases tokens' with
        | nil => exact absurd (congrArg Word.type first) left.type_head
        | cons token' rest' =>
            refine .token ⟨first, left.number_head.trans left'.number_head.symm⟩ ?_
            refine ih left.next left'.next fun index fits => ?_
            rw [Nat.add_right_comm, Nat.add_assoc] at fits
            exact same (index + 1) fits
      · exact .apart (left.late beyond) (left'.late beyond)

/-- The diagnostics of a source are shown by tokens of the source. -/
theorem Reading.token_mem_tokensOf (source : String) :
    ∀ diagnostic ∈ (Reading.ofSource source).diagnostics, diagnostic.token ∈ tokensOf source := by
  have assembled : Assembled (· ∈ tokensOf source) (Scanner.ofString source).tokens
      ((programStatements (Scanner.ofString source).ending
        (Scanner.ofString source).tokens).outcome Program.mk) := by
    apply programStatements_assembled
    · exact List.mem_append_right _ List.mem_cons_self
    · exact fun token member => List.mem_append_left _ member
  exact assembled.shownBy [.program]

/-- Every diagnostic is shown by the token of its source that has its number.  And where
the first tokens that are drawn from two sources are of the same kinds with the same
characters, the diagnostics that are shown by one of these tokens say the same, one by
one: the same faults with the same details, inside the same rules, at the tokens of the
same numbers. -/
theorem diagnostics_are_online :
    (∀ source : String, ∀ diagnostic ∈ (Reading.ofSource source).diagnostics,
      (tokensOf source)[numberIn source diagnostic.token]? = some diagnostic.token) ∧
    (∀ (source source' : String) (count : Nat),
      (∀ index < count, (drawnFrom source index).word = (drawnFrom source' index).word) ->
      earlyFindings source count = earlyFindings source' count) := by
  constructor
  · intro source diagnostic member
    have there := Reading.token_mem_tokensOf source diagnostic member
    exact List.getElem?_idxOf there
  · intro source source' count same
    have shared := shared_of_words (LeftOf.start source) (LeftOf.start source')
      fun index (within : 0 + index < count) => by
        rw [← Scanner.draw_skip, ← Scanner.draw_skip]
        exact same index (Nat.zero_add index ▸ within)
    exact (programStatements_agrees Program.mk Program.mk shared).found [.program]

/-- Two sources that part behind a number where a name has to stand. -/
theorem diagnostics_are_online_of_missing_name :
    (∀ index < 2, (drawnFrom "let 5 = 1" index).word = (drawnFrom "let 5 ( let" index).word) ∧
      earlyFindings "let 5 = 1" 2 = earlyFindings "let 5 ( let" 2 ∧
      earlyFindings "let 5 = 1" 2 =
        [⟨.expected .identifier .integer, [.program, .statement, .letStatement], 1⟩] := by
  have words : ∀ index < 2,
      (drawnFrom "let 5 = 1" index).word = (drawnFrom "let 5 ( let" index).word := by
    decide +kernel
  have found : earlyFindings "let 5 = 1" 2 =
      [⟨.expected .identifier .integer, [.program, .statement, .letStatement], 1⟩] := by
    decide +kernel
  exact ⟨words, diagnostics_are_online.2 _ _ 2 words, found⟩

end MonkeyLang
