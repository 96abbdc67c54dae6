import MonkeyLang.Proofs.Grammar.Agreement
import MonkeyLang.Proofs.Grammar.Phrase

namespace MonkeyLang

open Text

/-!
# Faults in the order of their tokens

A rule finds a fault either with the token that it has to read next, and then leaves this
token where it is, or with the token that it read last.  So a token can show two faults, the
one before it is read and the other behind that; but once the token behind it was read, it
shows no more.  The end token alone is never read, and shows faults again and again.

Each fault therefore has a time: twice the number of its token, and one more if the token was
read already.  The faults that a rule finds are not earlier than the rule was entered and are
found at later and later times, up to the time at which the rule is left.  A rule that gives
nothing may have found a fault with the token that is then the next one.  The statement behind
reads this token first, and so its faults are later still.
-/

namespace Fault

/-- Whether a fault is that a token of another kind has to stand there. -/
def isExpected : Fault -> Bool
  | .expected _ _ => true
  | _ => false

/-- Whether a fault says of a token what is the case: it is of another kind than the one that
has to stand there, no expression starts with its kind, or it is a number that is too large. -/
def Suits (token : Token) : Fault -> Prop
  | .expected wanted found => found = token.type ∧ found ≠ wanted
  | .noExpression found => found = token.type ∧ found.startsExpression = false
  | .invalidInteger lexeme =>
      token.type = .integer ∧ lexeme = token.lexeme ∧ 9223372036854775807 < ofDigits lexeme.toList

end Fault

namespace Numbering

variable (numbering : Numbering)

/-- When a fault is found: with a token that has to be read next, or behind that. -/
def time (found : Diagnostic) : Nat :=
  2 * numbering.number found.token + if found.fault.isExpected then 0 else 1

/-- Whether a diagnostic is shown by the end token. -/
def AtEnd (found : Diagnostic) : Prop :=
  numbering.number numbering.ending ≤ numbering.number found.token

/-- Whether a diagnostic was found before another one, or both are shown by the end token. -/
def Earlier (first second : Diagnostic) : Prop :=
  numbering.time first < numbering.time second ∨ numbering.AtEnd first ∧ numbering.AtEnd second

/-- Diagnostics that were found one after another, between two times, and describe their
tokens.  With the end token they may be found up to the end of that time. -/
structure Orderly (start stop : Nat) (found : List Diagnostic) : Prop where
  start : ∀ diagnostic ∈ found, start ≤ numbering.time diagnostic
  stop : ∀ diagnostic ∈ found, numbering.time diagnostic < stop ∨
    numbering.AtEnd diagnostic ∧ 2 * numbering.number numbering.ending ≤ stop
  ordered : found.Pairwise numbering.Earlier
  suits : ∀ diagnostic ∈ found, diagnostic.fault.Suits diagnostic.token

/-- Tokens that are numbered from a place on, with the end token behind them. -/
inductive Counts : Nat -> List Token -> Prop
  | nil {place} : numbering.number numbering.ending = place -> Counts place []
  | cons {place token rest} : numbering.number token = place -> Counts (place + 1) rest ->
      Counts place (token :: rest)

variable {numbering} {start middle stop : Nat}

theorem time_le (found : Diagnostic) :
    numbering.time found ≤ 2 * numbering.number found.token + 1 := by
  unfold time
  split <;> omega

theorem le_time (found : Diagnostic) : 2 * numbering.number found.token ≤ numbering.time found :=
  Nat.le_add_right ..

/-- What is not found before the time of the end token is shown by it. -/
theorem atEnd_of_le_time {found : Diagnostic}
    (late : 2 * numbering.number numbering.ending ≤ numbering.time found) :
    numbering.AtEnd found := by
  have above := numbering.time_le found
  unfold AtEnd
  omega

namespace Orderly

theorem nil : numbering.Orderly start stop [] :=
  ⟨List.forall_mem_nil _, List.forall_mem_nil _, .nil, List.forall_mem_nil _⟩

theorem single {found : Diagnostic} (early : start ≤ numbering.time found)
    (late : numbering.time found < stop) (suits : found.fault.Suits found.token) :
    numbering.Orderly start stop [found] :=
  ⟨List.forall_mem_singleton.mpr early, List.forall_mem_singleton.mpr (.inl late),
    List.pairwise_singleton .., List.forall_mem_singleton.mpr suits⟩

theorem earlier {found : List Diagnostic} (orderly : numbering.Orderly start stop found)
    {sooner : Nat} (before : sooner ≤ start) : numbering.Orderly sooner stop found :=
  { orderly with start := fun other member => Nat.le_trans before (orderly.start other member) }

/-- What is found in two times, one behind the other, is found one after another. -/
theorem append {first second : List Diagnostic} (before : numbering.Orderly start middle first)
    (behind : numbering.Orderly middle stop second) (forward : start ≤ middle)
    (further : middle ≤ stop) : numbering.Orderly start stop (first ++ second) where
  start := List.forall_mem_append.mpr ⟨before.start, (behind.earlier forward).start⟩
  stop := by
    refine List.forall_mem_append.mpr ⟨fun other member => ?_, behind.stop⟩
    rcases before.stop other member with early | ⟨last, ended⟩
    · exact .inl (Nat.lt_of_lt_of_le early further)
    · exact .inr ⟨last, Nat.le_trans ended further⟩
  ordered := by
    refine List.pairwise_append.mpr ⟨before.ordered, behind.ordered, ?_⟩
    intro one first other second
    have late := behind.start other second
    rcases before.stop one first with early | ⟨last, ended⟩
    · exact .inl (Nat.lt_of_lt_of_le early late)
    · exact .inr ⟨last, atEnd_of_le_time (Nat.le_trans ended late)⟩
  suits := List.forall_mem_append.mpr ⟨before.suits, behind.suits⟩

/-- At the end no time is needed for a fault with the next token. -/
theorem ended {found : List Diagnostic} {place : Nat}
    (orderly : numbering.Orderly start (2 * place + 1) found)
    (last : numbering.number numbering.ending = place) :
    numbering.Orderly start (2 * place) found := by
  refine { orderly with stop := fun other member => ?_ }
  have above := numbering.time_le other
  rcases orderly.stop other member with early | ⟨atEnd, _⟩
  · rcases Nat.lt_or_ge (numbering.time other) (2 * place) with sooner | now
    · exact .inl sooner
    · exact .inr ⟨atEnd_of_le_time (last ▸ now), Nat.le_of_eq (congrArg (2 * ·) last)⟩
  · exact .inr ⟨atEnd, Nat.le_of_eq (congrArg (2 * ·) last)⟩

end Orderly

namespace Counts

variable {place : Nat} {token : Token} {tokens : List Token}

theorem number (counts : numbering.Counts place (token :: tokens)) :
    numbering.number token = place := by
  cases counts with
  | cons number _ => exact number

theorem rest (counts : numbering.Counts place (token :: tokens)) :
    numbering.Counts (place + 1) tokens := by
  cases counts with
  | cons _ rest => exact rest

theorem ending (counts : numbering.Counts place []) :
    numbering.number numbering.ending = place := by
  cases counts with
  | nil last => exact last

theorem drop (counts : numbering.Counts place tokens) {used : Nat} (fits : used ≤ tokens.length) :
    numbering.Counts (place + used) (tokens.drop used) := by
  induction counts generalizing used with
  | nil last =>
      cases Nat.le_zero.mp fits
      exact .nil last
  | @cons place token rest number counts ih =>
      cases used with
      | zero => exact .cons number counts
      | succ used =>
          have dropped := ih (Nat.le_of_succ_le_succ fits)
          rwa [Nat.add_right_comm] at dropped

end Counts

end Numbering

/-! ## Outcomes -/

/-- The time at which a rule is left that read tokens up to a place, which is a little later
if it gave nothing. -/
def Outcome.leaving {α : Type} (outcome : Outcome α) (place : Nat) : Nat :=
  2 * (place + outcome.used) + if outcome.result.isSome then 0 else 1

section

variable {α : Type} {outcome : Outcome α} {place : Nat}

theorem Outcome.leaving_of_none (nothing : outcome.result = none) :
    outcome.leaving place = 2 * (place + outcome.used) + 1 := by
  rw [leaving, nothing]
  rfl

theorem Outcome.leaving_of_some {value : α} (given : outcome.result = some value) :
    outcome.leaving place = 2 * (place + outcome.used) := by
  rw [leaving, given]
  rfl

theorem Outcome.le_leaving : 2 * (place + outcome.used) ≤ outcome.leaving place :=
  Nat.le_add_right ..

end

/-- An outcome on tokens at a place whose diagnostics are found one after another from some
time on. -/
structure InOrder {α : Type} (numbering : Numbering) (start place : Nat) (tokens : List Token)
    (outcome : Outcome α) : Prop where
  fits : outcome.used ≤ tokens.length
  orderly : ∀ context, numbering.Orderly start (outcome.leaving place)
    (Trace.diagnosticsOfAll context outcome.trace)

namespace InOrder

variable {α β : Type} {numbering : Numbering} {start place : Nat} {token : Token}
  {tokens : List Token}

theorem done (value : α) : InOrder numbering start place tokens (.done value) :=
  ⟨Nat.zero_le _, fun _ => .nil⟩

theorem nothing : InOrder numbering start place tokens (.nothing : Outcome α) :=
  ⟨Nat.zero_le _, fun _ => .nil⟩

/-- A fault with a token that has to be read next. -/
theorem unread {fault : Fault} (expected : fault.isExpected = true) (suits : fault.Suits token)
    (number : numbering.number token = place) :
    InOrder numbering (2 * place) place tokens (.fail fault token : Outcome α) := by
  refine ⟨Nat.zero_le _, fun context => ?_⟩
  rw [Outcome.fail, Trace.diagnosticsOfAll_fault]
  have time : numbering.time ⟨fault, token, context⟩ = 2 * place := by
    rw [Numbering.time, if_pos expected, number, Nat.add_zero]
  refine .single (Nat.le_of_eq time.symm) ?_ suits
  rw [time, Outcome.leaving_of_none rfl]
  exact Nat.lt_succ_self _

/-- A fault with a token that was read last. -/
theorem readLast {fault : Fault} (other : fault.isExpected = false) (suits : fault.Suits token)
    (number : numbering.number token = place) :
    InOrder numbering (2 * place + 1) (place + 1) tokens (.fail fault token : Outcome α) := by
  refine ⟨Nat.zero_le _, fun context => ?_⟩
  rw [Outcome.fail, Trace.diagnosticsOfAll_fault]
  have time : numbering.time ⟨fault, token, context⟩ = 2 * place + 1 := by
    rw [Numbering.time, other, if_neg Bool.false_ne_true, number]
  refine .single (Nat.le_of_eq time.symm) ?_ suits
  rw [time, Outcome.leaving_of_none rfl]
  omega

/-- A fault with the end token, which is never read. -/
theorem atEnd {fault : Fault} (other : fault.isExpected = false)
    (suits : fault.Suits numbering.ending) (counts : numbering.Counts place []) :
    InOrder numbering (2 * place) place [] (.fail fault numbering.ending : Outcome α) := by
  refine ⟨Nat.zero_le _, fun context => ?_⟩
  rw [Outcome.fail, Trace.diagnosticsOfAll_fault]
  have time : numbering.time ⟨fault, numbering.ending, context⟩ = 2 * place + 1 := by
    rw [Numbering.time, other, if_neg Bool.false_ne_true, counts.ending]
  have single : numbering.Orderly (2 * place) (2 * place + 2)
      [⟨fault, numbering.ending, context⟩] :=
    .single (by omega) (by omega) suits
  refine { single with stop := List.forall_mem_singleton.mpr (.inr ⟨Nat.le_refl _, ?_⟩) }
  rw [Outcome.leaving_of_none rfl, counts.ending]
  exact Nat.le_succ _

section

variable {outcome : Outcome α}

theorem earlier (inOrder : InOrder numbering start place tokens outcome) {sooner : Nat}
    (before : sooner ≤ start) : InOrder numbering sooner place tokens outcome :=
  ⟨inOrder.fits, fun context => (inOrder.orderly context).earlier before⟩

theorem map (inOrder : InOrder numbering start place tokens outcome) (change : α -> β) :
    InOrder numbering start place tokens (outcome.map change) := by
  refine ⟨inOrder.fits, fun context => ?_⟩
  have leaving : (outcome.map change).leaving place = outcome.leaving place := by
    rw [Outcome.leaving, Outcome.leaving, Outcome.map, Option.isSome_map]
  rw [leaving]
  exact inOrder.orderly context

theorem within (inOrder : InOrder numbering start place tokens outcome) (rule : Rule) :
    InOrder numbering start place tokens (outcome.within rule) := by
  refine ⟨inOrder.fits, fun context => ?_⟩
  rw [Outcome.within, Trace.diagnosticsOfAll_rule]
  exact inOrder.orderly _

theorem afterToken (inOrder : InOrder numbering start (place + 1) tokens outcome) :
    InOrder numbering start place (token :: tokens) outcome.afterToken := by
  refine ⟨Nat.succ_le_succ inOrder.fits, fun context => ?_⟩
  have leaving : outcome.afterToken.leaving place = outcome.leaving (place + 1) := by
    rw [Outcome.leaving, Outcome.leaving, Outcome.afterToken, Nat.add_right_comm, Nat.add_assoc]
  rw [leaving]
  exact inOrder.orderly context

end

/-- What is read behind a value is found behind what was found with it. -/
theorem andThen {first : Outcome α} {next : α -> Outcome β}
    (inOrder : InOrder numbering start place tokens first) (forward : start ≤ 2 * place)
    (later : ∀ value, InOrder numbering (2 * (place + first.used)) (place + first.used)
      (tokens.drop first.used) (next value)) :
    InOrder numbering start place tokens (first.andThen next) := by
  unfold Outcome.andThen
  cases given : first.result with
  | none =>
      refine ⟨inOrder.fits, fun context => ?_⟩
      have before := inOrder.orderly context
      rw [Outcome.leaving_of_none given] at before
      exact before
  | some value =>
      have fits := (later value).fits
      rw [List.length_drop] at fits
      refine ⟨Nat.add_le_of_le_sub' inOrder.fits fits, fun context => ?_⟩
      have before := inOrder.orderly context
      rw [Outcome.leaving_of_some given] at before
      have leaving : Outcome.leaving ⟨(next value).result, first.used + (next value).used,
          first.trace ++ (next value).trace⟩ place =
            (next value).leaving (place + first.used) := by
        rw [Outcome.leaving, Outcome.leaving, Nat.add_assoc]
      have further : 2 * (place + first.used) ≤ (next value).leaving (place + first.used) :=
        Nat.le_trans (by omega) Outcome.le_leaving
      dsimp only
      rw [leaving, Trace.diagnosticsOfAll_append]
      exact before.append ((later value).orderly context) (by omega) further

end InOrder

/-! ## Series of statements -/

/-- Statements on tokens at a place whose diagnostics are found one after another once the
first token was read. -/
structure SeriesInOrder (numbering : Numbering) (place : Nat) (tokens : List Token)
    (series : Series) : Prop where
  fits : series.used ≤ tokens.length
  moves : tokens ≠ [] -> 0 < series.used
  orderly : ∀ context, numbering.Orderly (2 * place + 1) (2 * (place + series.used))
    (Trace.diagnosticsOfAll context series.trace)

namespace SeriesInOrder

variable {numbering : Numbering} {place : Nat} {token : Token} {tokens rest : List Token}

theorem outcome {α : Type} {series : Series}
    (inOrder : SeriesInOrder numbering place tokens series) (build : List Statement -> α) :
    InOrder numbering (2 * place) place tokens (series.outcome build) :=
  ⟨inOrder.fits, fun context => (inOrder.orderly context).earlier (Nat.le_succ _)⟩

/-- The statements behind a statement start with the token that it may have found a fault
with, unless that is the end token. -/
theorem prepend {first : Outcome Statement} {later : Series}
    (counts : numbering.Counts (place + 1) rest)
    (inOrder : InOrder numbering (2 * place + 1) (place + 1) rest first)
    (behind : SeriesInOrder numbering (place + 1 + first.used) (rest.drop first.used) later) :
    SeriesInOrder numbering place (token :: rest) (.prepend first later) := by
  have fits := behind.fits
  have fits' := inOrder.fits
  rw [List.length_drop] at fits
  refine ⟨?_, fun _ => ?_, fun context => ?_⟩
  · change 1 + first.used + later.used ≤ rest.length + 1
    omega
  · change 0 < 1 + first.used + later.used
    omega
  · have before := inOrder.orderly context
    have after := behind.orderly context
    have place_eq : place + (Series.prepend first later).used =
        place + 1 + first.used + later.used := by
      unfold Series.prepend
      dsimp only
      omega
    have reached : 2 * place + 1 ≤ 2 * (place + 1 + first.used) := by omega
    have beyond : 2 * (place + 1 + first.used) ≤ 2 * (place + 1 + first.used + later.used) :=
      Nat.mul_le_mul_left 2 (Nat.le_add_right ..)
    unfold Series.prepend at place_eq ⊢
    rw [Trace.diagnosticsOfAll_append, place_eq]
    cases given : first.result with
    | some statement =>
        rw [Outcome.leaving_of_some given] at before
        exact before.append (after.earlier (Nat.le_succ _)) reached beyond
    | none =>
        rw [Outcome.leaving_of_none given] at before
        by_cases ended : rest.drop first.used = []
        · have last := (ended ▸ counts.drop fits').ending
          exact (before.ended last).append (after.earlier (Nat.le_succ _)) reached beyond
        · have moved := behind.moves ended
          exact before.append after (Nat.le_succ_of_le reached) (by omega)

end SeriesInOrder

end MonkeyLang
