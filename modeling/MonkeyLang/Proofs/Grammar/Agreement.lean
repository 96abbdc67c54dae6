import MonkeyLang.Proofs.Grammar.Assembly
import MonkeyLang.Proofs.Token.Word

namespace MonkeyLang

/-!
# Readings that agree

Two lists of tokens that start alike are to be read alike as far as they do.  What this
asks of the outcome of a rule is said here: the same is found wrong at the tokens that
count, and either the rules behind it can go on alike, or nothing that counts is left
for them.  Tokens are told apart by numbers, and those with a number below a bound
count.

Agreement is kept wherever outcomes are put together.  The difficulty is the point at
which the readings part.  From there on one of them may fail where the other goes on,
and nothing is known of one from the other.  So agreement also says of each outcome by
itself that it is of no account once the tokens are, and that carries a reading on that
the other one does not follow.
-/

/-- What a diagnostic says, with the number of the token that shows it. -/
structure Finding where
  fault : Fault
  context : List Rule
  index : Nat
  deriving DecidableEq

/-- The end token of a source and the numbers of its tokens. -/
structure Numbering where
  ending : Token
  number : Token -> Nat

namespace Numbering

/-- What diagnostics say that are shown by tokens with a number below a bound. -/
def findings (numbering : Numbering) (bound : Nat) (diagnostics : List Diagnostic) :
    List Finding :=
  (diagnostics.map fun diagnostic =>
    (⟨diagnostic.fault, diagnostic.context, numbering.number diagnostic.token⟩ : Finding)).filter
      (·.index < bound)

theorem findings_append (numbering : Numbering) (bound : Nat) (first second : List Diagnostic) :
    numbering.findings bound (first ++ second) =
      numbering.findings bound first ++ numbering.findings bound second := by
  simp [findings]

/-- Whether the number of a token does not count. -/
def IsLate (numbering : Numbering) (bound : Nat) (token : Token) : Prop :=
  bound ≤ numbering.number token

/-- Whether neither the end nor the number of any of the tokens counts. -/
def Late (numbering : Numbering) (bound : Nat) (tokens : List Token) : Prop :=
  AllShown (numbering.IsLate bound) (numbering.ending :: tokens)

namespace Late

variable {numbering : Numbering} {bound : Nat} {token : Token} {tokens : List Token}

theorem drop (late : numbering.Late bound tokens) (used : Nat) :
    numbering.Late bound (tokens.drop used) :=
  List.forall_mem_cons.mpr ⟨late.head, late.tail.drop used⟩

theorem behind (late : numbering.Late bound (token :: tokens)) : numbering.Late bound tokens :=
  late.drop 1

end Late

/-- Nothing is found that counts where all faults are shown by late tokens. -/
theorem findings_of_quiet {numbering : Numbering} {bound : Nat} {traces : List Trace}
    (quiet : Trace.ShownBy (numbering.IsLate bound) traces) (context : List Rule) :
    numbering.findings bound (Trace.diagnosticsOfAll context traces) = [] := by
  unfold findings
  rw [List.filter_eq_nil_iff, List.forall_mem_map]
  intro diagnostic member counts
  exact absurd (quiet context diagnostic member) (Nat.not_le_of_lt (of_decide_eq_true counts))

end Numbering

/-! ## Tokens that are shared -/

/-- Tokens of the same kind with the same characters and the same number. -/
structure Paired (one other : Numbering) (token token' : Token) : Prop where
  word : token.word = token'.word
  number : one.number token = other.number token'

namespace Paired

variable {one other : Numbering} {token token' : Token}

theorem type_eq (paired : Paired one other token token') : token.type = token'.type :=
  congrArg Word.type paired.word

theorem lexeme_eq (paired : Paired one other token token') : token.lexeme = token'.lexeme :=
  congrArg Word.lexeme paired.word

end Paired

/-- Lists of tokens that are alike up to the end of both, or up to where numbers do not
count any more. -/
inductive Shared (bound : Nat) (one other : Numbering) : List Token -> List Token -> Prop
  | token {token token' rest rest'} : Paired one other token token' ->
      Shared bound one other rest rest' -> Shared bound one other (token :: rest) (token' :: rest')
  | ended : Paired one other one.ending other.ending -> Shared bound one other [] []
  | apart {tokens tokens'} : one.Late bound tokens -> other.Late bound tokens' ->
      Shared bound one other tokens tokens'

theorem Shared.drop {bound : Nat} {one other : Numbering} {tokens tokens' : List Token}
    (shared : Shared bound one other tokens tokens') (used : Nat) :
    Shared bound one other (tokens.drop used) (tokens'.drop used) := by
  induction shared generalizing used with
  | token paired rest ih =>
      cases used with
      | zero => exact .token paired rest
      | succ used => exact ih used
  | ended paired =>
      rw [List.drop_nil]
      exact .ended paired
  | apart late late' => exact .apart (late.drop used) (late'.drop used)

/-! ## Outcomes that agree -/

/-- Outcomes in which the same is found, as far as it counts.  Either they also used up
as many tokens, and gave a value or gave none alike, or nothing that counts is left of
either list.  And where nothing counted in a list, nothing is found of account. -/
structure Agrees (bound : Nat) (one other : Numbering) {α β : Type} (tokens tokens' : List Token)
    (outcome : Outcome α) (outcome' : Outcome β) : Prop where
  found : ∀ context,
    one.findings bound (Trace.diagnosticsOfAll context outcome.trace) =
      other.findings bound (Trace.diagnosticsOfAll context outcome'.trace)
  onward : (outcome.result.isSome = outcome'.result.isSome ∧ outcome.used = outcome'.used) ∨
    (one.Late bound (tokens.drop outcome.used) ∧ other.Late bound (tokens'.drop outcome'.used))
  quiet : one.Late bound tokens -> Trace.ShownBy (one.IsLate bound) outcome.trace
  quiet' : other.Late bound tokens' -> Trace.ShownBy (other.IsLate bound) outcome'.trace

namespace Agrees

variable {bound : Nat} {one other : Numbering} {α β γ δ : Type} {tokens tokens' : List Token}

theorem symm {outcome : Outcome α} {outcome' : Outcome β}
    (agrees : Agrees bound one other tokens tokens' outcome outcome') :
    Agrees bound other one tokens' tokens outcome' outcome where
  found context := (agrees.found context).symm
  onward := agrees.onward.imp (fun same => ⟨same.1.symm, same.2.symm⟩) And.symm
  quiet := agrees.quiet'
  quiet' := agrees.quiet

/-- Readings that have parted find nothing that counts. -/
theorem apart {outcome : Outcome α} {outcome' : Outcome β} (late : one.Late bound tokens)
    (late' : other.Late bound tokens')
    (assembled : Assembled (one.IsLate bound) tokens outcome)
    (assembled' : Assembled (other.IsLate bound) tokens' outcome') :
    Agrees bound one other tokens tokens' outcome outcome' where
  found context := by
    rw [Numbering.findings_of_quiet assembled.shownBy,
      Numbering.findings_of_quiet assembled'.shownBy]
  onward := .inr ⟨late.drop _, late'.drop _⟩
  quiet _ := assembled.shownBy
  quiet' _ := assembled'.shownBy

theorem done (value : α) (value' : β) :
    Agrees bound one other tokens tokens' (.done value) (.done value') where
  found _ := rfl
  onward := .inl ⟨rfl, rfl⟩
  quiet _ := .nil
  quiet' _ := .nil

theorem nothing :
    Agrees bound one other tokens tokens' (.nothing : Outcome α) (.nothing : Outcome β) where
  found _ := rfl
  onward := .inl ⟨rfl, rfl⟩
  quiet _ := .nil
  quiet' _ := .nil

theorem fail {token token' : Token} (paired : Paired one other token token') (fault : Fault)
    (shown : one.Late bound tokens -> one.IsLate bound token)
    (shown' : other.Late bound tokens' -> other.IsLate bound token') :
    Agrees bound one other tokens tokens' (.fail fault token : Outcome α)
      (.fail fault token' : Outcome β) where
  found context := by
    simp [Outcome.fail, Trace.diagnosticsOfAll_fault, Numbering.findings, paired.number]
  onward := .inl ⟨rfl, rfl⟩
  quiet late := .fault fault (shown late)
  quiet' late := .fault fault (shown' late)

theorem map {outcome : Outcome α} {outcome' : Outcome β}
    (agrees : Agrees bound one other tokens tokens' outcome outcome') (change : α -> γ)
    (change' : β -> δ) :
    Agrees bound one other tokens tokens' (outcome.map change) (outcome'.map change') where
  found := agrees.found
  onward := by
    rw [Outcome.map, Outcome.map, Option.isSome_map, Option.isSome_map]
    exact agrees.onward
  quiet := agrees.quiet
  quiet' := agrees.quiet'

theorem within {outcome : Outcome α} {outcome' : Outcome β}
    (agrees : Agrees bound one other tokens tokens' outcome outcome') (rule : Rule) :
    Agrees bound one other tokens tokens' (outcome.within rule) (outcome'.within rule) where
  found context := by
    rw [Outcome.within, Outcome.within, Trace.diagnosticsOfAll_rule, Trace.diagnosticsOfAll_rule]
    exact agrees.found _
  onward := agrees.onward
  quiet late := (agrees.quiet late).rule _ _
  quiet' late := (agrees.quiet' late).rule _ _

theorem afterToken {outcome : Outcome α} {outcome' : Outcome β}
    (agrees : Agrees bound one other tokens tokens' outcome outcome') (token token' : Token) :
    Agrees bound one other (token :: tokens) (token' :: tokens') outcome.afterToken
      outcome'.afterToken where
  found := agrees.found
  onward := agrees.onward.imp_left fun same => ⟨same.1, congrArg (· + 1) same.2⟩
  quiet late := agrees.quiet late.behind
  quiet' late := agrees.quiet' late.behind

theorem shared {outcome : Outcome α} {outcome' : Outcome β}
    (agrees : Agrees bound one other tokens tokens' outcome outcome')
    (tokensShared : Shared bound one other tokens tokens') :
    Shared bound one other (tokens.drop outcome.used) (tokens'.drop outcome'.used) := by
  rcases agrees.onward with ⟨_, used⟩ | ⟨late, late'⟩
  · rw [used]
    exact tokensShared.drop _
  · exact .apart late late'

/-- Once the readings have parted, it is of no account whether one of them goes on. -/
theorem goesOn {first : Outcome α} {next : α -> Outcome γ} {outcome' : Outcome β}
    (agrees : Agrees bound one other tokens tokens' first outcome')
    (late : one.Late bound (tokens.drop first.used))
    (late' : other.Late bound (tokens'.drop outcome'.used))
    (quiet : ∀ value, Trace.ShownBy (one.IsLate bound) (next value).trace) :
    Agrees bound one other tokens tokens' (first.andThen next) outcome' ∧
      one.Late bound (tokens.drop (first.andThen next).used) := by
  unfold Outcome.andThen
  cases first.result with
  | none => exact ⟨⟨agrees.found, .inr ⟨late, late'⟩, agrees.quiet, agrees.quiet'⟩, late⟩
  | some value =>
      have further : one.Late bound (tokens.drop (first.used + (next value).used)) := by
        rw [← List.drop_drop]
        exact late.drop _
      refine ⟨⟨fun context => ?_, .inr ⟨further, late'⟩, fun early => ?_, agrees.quiet'⟩, further⟩
      · rw [Trace.diagnosticsOfAll_append, Numbering.findings_append,
          Numbering.findings_of_quiet (quiet value), List.append_nil]
        exact agrees.found context
      · exact (agrees.quiet early).append (quiet value)

theorem andThen {first first' : Outcome α} {next : α -> Outcome γ} {next' : α -> Outcome δ}
    (agrees : Agrees bound one other tokens tokens' first first')
    (tokensShared : Shared bound one other tokens tokens')
    (later : Shared bound one other (tokens.drop first.used) (tokens'.drop first'.used) ->
      ∀ value value', Agrees bound one other (tokens.drop first.used) (tokens'.drop first'.used)
        (next value) (next' value')) :
    Agrees bound one other tokens tokens' (first.andThen next) (first'.andThen next') := by
  have behind := later (agrees.shared tokensShared)
  rcases agrees.onward with ⟨given, used⟩ | ⟨late, late'⟩
  · unfold Outcome.andThen
    cases result : first.result with
    | none =>
        rw [result, Option.isSome_none, eq_comm, Option.isSome_eq_false_iff,
          Option.isNone_iff_eq_none] at given
        rw [given]
        exact ⟨agrees.found, .inl ⟨rfl, used⟩, agrees.quiet, agrees.quiet'⟩
    | some value =>
        rw [result, Option.isSome_some, eq_comm, Option.isSome_iff_exists] at given
        rcases given with ⟨value', result'⟩
        rw [result']
        have inner := behind value value'
        refine ⟨fun context => ?_, ?_, fun late => ?_, fun late => ?_⟩
        · rw [Trace.diagnosticsOfAll_append, Trace.diagnosticsOfAll_append,
            Numbering.findings_append, Numbering.findings_append, agrees.found, inner.found]
        · dsimp only
          rw [← List.drop_drop, ← List.drop_drop]
          exact inner.onward.imp_left fun same => ⟨same.1, by rw [used, same.2]⟩
        · exact (agrees.quiet late).append (inner.quiet (late.drop _))
        · exact (agrees.quiet' late).append (inner.quiet' (late.drop _))
  · rcases agrees.goesOn late late' fun value => (behind value value).quiet late with
      ⟨agrees, late⟩
    exact (agrees.symm.goesOn late' late fun value => (behind value value).quiet' late').1.symm

/-! A rule that is entered with its first token may show a fault by it.  So its outcome
is compared together with this token. -/

theorem failAfter {token token' : Token} (paired : Paired one other token token')
    (fault : Fault) :
    Agrees bound one other (token :: tokens) (token' :: tokens')
      (Outcome.fail fault token : Outcome α).afterToken
      (Outcome.fail fault token' : Outcome β).afterToken := by
  have failed : Agrees bound one other (token :: tokens) (token' :: tokens')
      (.fail fault token : Outcome α) (.fail fault token' : Outcome β) :=
    .fail paired fault (fun late => late.tail.head) fun late => late.tail.head
  exact ⟨failed.found, .inl ⟨rfl, rfl⟩, failed.quiet, failed.quiet'⟩

theorem withinAfter {token token' : Token} {outcome : Outcome α} {outcome' : Outcome β}
    (agrees : Agrees bound one other (token :: tokens) (token' :: tokens') outcome.afterToken
      outcome'.afterToken) (rule : Rule) :
    Agrees bound one other (token :: tokens) (token' :: tokens')
      (outcome.within rule).afterToken (outcome'.within rule).afterToken :=
  agrees.within rule

theorem andThenAfter {token token' : Token} {first first' : Outcome α}
    {next : α -> Outcome γ} {next' : α -> Outcome δ}
    (agrees : Agrees bound one other (token :: tokens) (token' :: tokens') first.afterToken
      first'.afterToken)
    (tokensShared : Shared bound one other (token :: tokens) (token' :: tokens'))
    (later : Shared bound one other (tokens.drop first.used) (tokens'.drop first'.used) ->
      ∀ value value', Agrees bound one other (tokens.drop first.used) (tokens'.drop first'.used)
        (next value) (next' value')) :
    Agrees bound one other (token :: tokens) (token' :: tokens') (first.andThen next).afterToken
      (first'.andThen next').afterToken := by
  rw [Outcome.afterToken_andThen, Outcome.afterToken_andThen]
  exact agrees.andThen tokensShared later

/-- Statements behind one that was entered are read whether it was read or not. -/
theorem prepend {token token' : Token} {first first' : Outcome Statement}
    {later later' : Series} {build build' : List Statement -> α}
    (agrees : Agrees bound one other (token :: tokens) (token' :: tokens') first.afterToken
      first'.afterToken)
    (tokensShared : Shared bound one other (token :: tokens) (token' :: tokens'))
    (others : Shared bound one other (tokens.drop first.used) (tokens'.drop first'.used) ->
      ∀ build build' : List Statement -> α,
        Agrees bound one other (tokens.drop first.used) (tokens'.drop first'.used)
          (later.outcome build) (later'.outcome build')) :
    Agrees bound one other (token :: tokens) (token' :: tokens')
      ((Series.prepend first later).outcome build)
      ((Series.prepend first' later').outcome build') := by
  rw [Series.outcome_prepend, Series.outcome_prepend]
  have attempted : Agrees bound one other (token :: tokens) (token' :: tokens')
      first.attempt.afterToken first'.attempt.afterToken :=
    ⟨agrees.found, agrees.onward.imp_left fun same => ⟨rfl, same.2⟩, agrees.quiet, agrees.quiet'⟩
  apply attempted.andThen tokensShared
  intro shared statement statement'
  exact others shared _ _

end Agrees

end MonkeyLang
