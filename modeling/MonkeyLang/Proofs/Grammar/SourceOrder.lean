import MonkeyLang.Proofs.Grammar.Online
import MonkeyLang.Proofs.Grammar.Successive

namespace MonkeyLang

/-!
# Diagnostics in source order

The diagnostics of a source come in the order of the tokens that show them, although a
reader goes on behind each fault in whatever block it is in then.  What a diagnostic says is
the case with its token.  A token shows at most two of them: that another kind of token has to
stand there, and then that no expression starts with it or that it is too large a number.  The
end token is met again by each rule that is not complete, and may show any number of them.
-/

/-! ## Numbers and times -/

namespace Numbering

variable {numbering : Numbering} {place : Nat} {tokens : List Token}

theorem Counts.number_ending (counts : numbering.Counts place tokens) :
    numbering.number numbering.ending = place + tokens.length := by
  induction counts with
  | nil last => exact last
  | cons _ _ ih => rw [ih, List.length_cons, Nat.add_right_comm, Nat.add_assoc]

/-- The end token has the largest number. -/
theorem Counts.number_lt (counts : numbering.Counts place tokens) :
    ∀ token ∈ tokens, numbering.number token < numbering.number numbering.ending := by
  induction counts with
  | nil _ => exact List.forall_mem_nil _
  | @cons place token rest number counts ih =>
      refine List.forall_mem_cons.mpr ⟨?_, ih⟩
      rw [number, counts.number_ending]
      omega

/-- What is found earlier is shown by a token that is not later. -/
theorem Earlier.number_le {first second : Diagnostic} (earlier : numbering.Earlier first second)
    (bounded : numbering.number first.token ≤ numbering.number numbering.ending) :
    numbering.number first.token ≤ numbering.number second.token := by
  rcases earlier with before | ⟨_, last⟩
  · have below := numbering.le_time first
    have above := numbering.time_le second
    omega
  · exact Nat.le_trans bounded last

/-- Of two faults with one token, which is not the end token, the first is that another token
has to stand there, and the second is not. -/
theorem Earlier.isExpected {first second : Diagnostic} (earlier : numbering.Earlier first second)
    (same : first.token = second.token)
    (inner : numbering.number first.token < numbering.number numbering.ending) :
    first.fault.isExpected = true ∧ second.fault.isExpected = false := by
  rcases earlier with before | ⟨last, _⟩
  · unfold time at before
    rw [same] at before
    cases expected : first.fault.isExpected with
    | true =>
        cases expected' : second.fault.isExpected with
        | true => simp [expected, expected'] at before
        | false => exact ⟨rfl, rfl⟩
    | false =>
        rw [expected, if_neg Bool.false_ne_true] at before
        split at before <;> omega
  · exact absurd inner (Nat.not_lt_of_le last)

end Numbering

theorem LeftOf.counts {source : String} {passed : Nat} {tokens : List Token}
    (left : LeftOf source passed tokens) : (numbering source).Counts passed tokens := by
  induction tokens generalizing passed with
  | nil => exact .nil left.number_ending
  | cons token rest ih => exact .cons left.number_head (ih left.next)

/-- A token of a source stands at its number there, and nowhere else. -/
theorem getElem?_tokensOf_iff {source : String} {token : Token}
    (member : token ∈ tokensOf source) {place : Nat} :
    (tokensOf source)[place]? = some token ↔ place = numberIn source token := by
  constructor
  · intro found
    rcases List.getElem?_eq_some_iff.mp found with ⟨_, rfl⟩
    exact ((nodup_tokensOf source).idxOf_getElem place _).symm
  · rintro rfl
    exact List.getElem?_idxOf member

/-- All tokens of a source but the end token stand before that one. -/
theorem numberIn_lt_ending {source : String} {token : Token} (member : token ∈ tokensOf source)
    (other : token ≠ (Scanner.ofString source).ending) :
    numberIn source token < numberIn source (Scanner.ofString source).ending := by
  rcases List.mem_append.mp member with early | last
  · exact (LeftOf.start source).counts.number_lt token early
  · exact absurd (List.mem_singleton.mp last) other

/-- The diagnostics of a source are found one after another and describe their tokens. -/
theorem Reading.orderly (source : String) :
    ∃ stop, (numbering source).Orderly 1 stop (Reading.ofSource source).diagnostics := by
  have last : (numbering source).ending.type = .ending := rfl
  have series := programStatements_inOrder last (LeftOf.start source).counts
  exact ⟨_, series.orderly [.program]⟩

/-! ## The order of diagnostics -/

/-- Truth values of which only the first may be true and only the second may be false. -/
theorem sublist_of_pairwise {values : List Bool}
    (ordered : values.Pairwise fun first second => first = true ∧ second = false) :
    values.Sublist [true, false] := by
  cases ordered with
  | nil => exact List.nil_sublist _
  | @cons first rest between ordered =>
      cases ordered with
      | nil => cases first <;> decide
      | @cons second others between' _ =>
          rcases between second List.mem_cons_self with ⟨rfl, rfl⟩
          cases others with
          | nil => exact List.Sublist.refl _
          | cons third _ => exact absurd (between' third List.mem_cons_self).1 Bool.false_ne_true

/-- Diagnostics come in the order of the tokens of their source and describe them.  Each is
shown by a token that stands there at its number only: a token of another kind than the one
that has to stand there, a token of a kind with which no expression starts, or a number that is
too large.  The numbers never go down.  All that one token shows, if it is not the end token,
is at most one fault of the first sort and behind it at most one of the others. -/
theorem diagnostics_follow_source (source : String) :
    (∀ diagnostic ∈ (Reading.ofSource source).diagnostics,
      (∀ place, (tokensOf source)[place]? = some diagnostic.token ↔
        place = numberIn source diagnostic.token) ∧
      diagnostic.fault.Suits diagnostic.token) ∧
    (Reading.ofSource source).diagnostics.Pairwise
      (fun first second => numberIn source first.token ≤ numberIn source second.token) ∧
    ∀ token, token ≠ (Scanner.ofString source).ending ->
      (((Reading.ofSource source).diagnostics.filter (·.token = token)).map
        (·.fault.isExpected)).Sublist [true, false] := by
  rcases Reading.orderly source with ⟨stop, orderly⟩
  have there := Reading.token_mem_tokensOf source
  refine ⟨fun diagnostic member => ?_, ?_, fun token other => ?_⟩
  · exact ⟨fun _ => getElem?_tokensOf_iff (there diagnostic member),
      orderly.suits diagnostic member⟩
  · refine orderly.ordered.imp_of_mem fun {first second} member _ earlier => ?_
    refine earlier.number_le ?_
    by_cases last : first.token = (Scanner.ofString source).ending
    · exact Nat.le_of_eq (congrArg (numberIn source) last)
    · exact Nat.le_of_lt (numberIn_lt_ending (there first member) last)
  · refine sublist_of_pairwise (List.pairwise_map.mpr ?_)
    refine (orderly.ordered.filter _).imp_of_mem fun {first second} member member' earlier => ?_
    rcases List.mem_filter.mp member with ⟨listed, same⟩
    have here : first.token = token := of_decide_eq_true same
    have here' : second.token = token := of_decide_eq_true (List.mem_filter.mp member').2
    exact earlier.isExpected (here.trans here'.symm)
      (numberIn_lt_ending (there first listed) (here ▸ other))

/-- No name stands behind `let`, and no expression starts with what stands there. -/
example : (Reading.ofSource "let ] 5").diagnostics.map (fun found =>
    (numberIn "let ] 5" found.token, found.fault.isExpected)) = [(1, true), (1, false)] := by
  decide +kernel

end MonkeyLang
