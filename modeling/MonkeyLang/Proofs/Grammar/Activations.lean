import MonkeyLang.Proofs.Grammar.Acceptance
import MonkeyLang.Proofs.Grammar.Assembly

namespace MonkeyLang

/-!
# One fault for each statement that is lost

A statement that cannot be read is left out of its block, and reading goes on behind
it.  What was wrong with it must then have been said, and said once: a second fault
would blame the source for what is only a consequence of the first.

A trace is divided here among the statements in it.  A fault belongs to the innermost
statement around it, so a statement owns none of the faults of the statements in its
blocks.  Between its beginning and its end each rule either gives its value and owns
no fault, or gives none and owns one, since it goes on behind a part only if that part
gave its value.  A block hides the failures of its own statements; but these have
owners already, and the block itself always gives its value.

There are two ways out of a rule without a word: the rules for operators look up which
operator their token stands for, and give nothing where it stands for none.  A statement
that left one of them in this way would be lost without a fault.  The tables of the grammar
agree, so both rules are only ever entered with an operator.  This is used where outcomes
are shown to be assembled.
-/

/-- One reading of a statement: whether it gave the statement, and the faults that have
it as the innermost statement around them. -/
structure Activation where
  completed : Bool
  own : List Diagnostic

namespace Activation

/-- The faults that a reading has to have: none when it is completed, and otherwise
one. -/
def due (completed : Bool) : Nat := if completed then 0 else 1

/-- Whether a reading of a statement has the faults that it has to have. -/
def IsExact (activation : Activation) : Prop :=
  activation.own.length = due activation.completed

end Activation

namespace Trace

mutual

/-- The faults of a trace that are not inside a statement of it, as diagnostics below
some rules. -/
def own (context : List Rule) : Trace -> List Diagnostic
  | .fault problem token => [⟨problem, token, context⟩]
  | .rule name _ inner =>
      if name = .statement then [] else ownOfAll (context ++ [name]) inner
termination_by structural trace => trace

/-- The faults of several traces that are not inside a statement. -/
def ownOfAll (context : List Rule) : List Trace -> List Diagnostic
  | [] => []
  | trace :: later => trace.own context ++ ownOfAll context later
termination_by structural traces => traces

end

mutual

/-- The readings of statements in a trace, each one before those inside it. -/
def activations (context : List Rule) : Trace -> List Activation
  | .fault _ _ => []
  | .rule name completed inner =>
      let nested := activationsOfAll (context ++ [name]) inner
      if name = .statement then ⟨completed, ownOfAll (context ++ [name]) inner⟩ :: nested
      else nested
termination_by structural trace => trace

/-- The readings of statements in several traces. -/
def activationsOfAll (context : List Rule) : List Trace -> List Activation
  | [] => []
  | trace :: later => trace.activations context ++ activationsOfAll context later
termination_by structural traces => traces

end

/-! ## Traces divided among statements -/

variable (context : List Rule)

theorem ownOfAll_append (first second : List Trace) :
    ownOfAll context (first ++ second) = ownOfAll context first ++ ownOfAll context second := by
  induction first with
  | nil => rfl
  | cons trace later ih => rw [List.cons_append, ownOfAll, ownOfAll, ih, List.append_assoc]

theorem activationsOfAll_append (first second : List Trace) :
    activationsOfAll context (first ++ second) =
      activationsOfAll context first ++ activationsOfAll context second := by
  induction first with
  | nil => rfl
  | cons trace later ih =>
      rw [List.cons_append, activationsOfAll, activationsOfAll, ih, List.append_assoc]

theorem ownOfAll_statement (completed : Bool) (inner : List Trace) :
    ownOfAll context [.rule .statement completed inner] = [] := by
  simp [ownOfAll, own]

theorem activationsOfAll_statement (completed : Bool) (inner : List Trace) :
    activationsOfAll context [.rule .statement completed inner] =
      ⟨completed, ownOfAll (context ++ [.statement]) inner⟩ ::
        activationsOfAll (context ++ [.statement]) inner := by
  simp [activationsOfAll, activations]

theorem ownOfAll_rule {name : Rule} (other : name ≠ .statement) (completed : Bool)
    (inner : List Trace) :
    ownOfAll context [.rule name completed inner] = ownOfAll (context ++ [name]) inner := by
  simp [ownOfAll, own, other]

theorem activationsOfAll_rule {name : Rule} (other : name ≠ .statement) (completed : Bool)
    (inner : List Trace) :
    activationsOfAll context [.rule name completed inner] =
      activationsOfAll (context ++ [name]) inner := by
  simp [activationsOfAll, activations, other]

mutual

/-- Every diagnostic of a trace is owned once: by a statement in it, or by the trace
itself. -/
theorem diagnostics_perm : ∀ (context : List Rule) (trace : Trace),
    (trace.diagnostics context).Perm
      (trace.own context ++ (trace.activations context).flatMap Activation.own)
  | context, .fault problem token => by simp [diagnostics, own, activations]
  | context, .rule name completed inner => by
      have divided := diagnosticsOfAll_perm (context ++ [name]) inner
      rw [diagnostics, own, activations]
      split
      · exact divided
      · exact divided

theorem diagnosticsOfAll_perm : ∀ (context : List Rule) (traces : List Trace),
    (diagnosticsOfAll context traces).Perm
      (ownOfAll context traces ++ (activationsOfAll context traces).flatMap Activation.own)
  | context, [] => by simp [diagnosticsOfAll, ownOfAll, activationsOfAll]
  | context, trace :: later => by
      rw [diagnosticsOfAll, ownOfAll, activationsOfAll, List.flatMap_append]
      apply ((diagnostics_perm context trace).append (diagnosticsOfAll_perm context later)).trans
      rw [List.append_assoc, List.append_assoc]
      apply List.Perm.append_left
      apply List.perm_append_comm_assoc

end

end Trace

/-! ## What every outcome owns -/

/-- An outcome that uses up tokens it was given, at least one for each statement in it,
and that owns the faults that it has to own, as do the statements in it. -/
structure Outcome.Accounts {α : Type} (tokens : List Token) (outcome : Outcome α) : Prop where
  used : outcome.used ≤ tokens.length
  own : ∀ context, (Trace.ownOfAll context outcome.trace).length =
    Activation.due outcome.result.isSome
  entered : ∀ context, (Trace.activationsOfAll context outcome.trace).length ≤ outcome.used
  exact : ∀ context, ∀ activation ∈ Trace.activationsOfAll context outcome.trace,
    activation.IsExact

namespace Outcome.Accounts

variable {α β : Type} {tokens : List Token}

theorem done (value : α) : (Outcome.done value).Accounts tokens where
  used := Nat.zero_le _
  own _ := rfl
  entered _ := Nat.zero_le _
  exact _ _ member := nomatch member

theorem fail (fault : Fault) (token : Token) :
    (Outcome.fail fault token : Outcome α).Accounts tokens where
  used := Nat.zero_le _
  own _ := rfl
  entered _ := Nat.zero_le _
  exact _ _ member := nomatch member

theorem map {outcome : Outcome α} (accounts : outcome.Accounts tokens) (change : α -> β) :
    (outcome.map change).Accounts tokens where
  used := accounts.used
  own context := by
    rw [Outcome.map, Option.isSome_map]
    exact accounts.own context
  entered := accounts.entered
  exact := accounts.exact

theorem afterToken {token : Token} {outcome : Outcome α} (accounts : outcome.Accounts tokens) :
    outcome.afterToken.Accounts (token :: tokens) where
  used := Nat.succ_le_succ accounts.used
  own := accounts.own
  entered context := Nat.le_succ_of_le (accounts.entered context)
  exact := accounts.exact

theorem within {outcome : Outcome α} (accounts : outcome.Accounts tokens) {rule : Rule}
    (other : rule ≠ .statement) : (outcome.within rule).Accounts tokens where
  used := accounts.used
  own context := by
    rw [Outcome.within, Trace.ownOfAll_rule context other]
    exact accounts.own _
  entered context := by
    rw [Outcome.within, Trace.activationsOfAll_rule context other]
    exact accounts.entered _
  exact context := by
    rw [Outcome.within, Trace.activationsOfAll_rule context other]
    exact accounts.exact _

/-- What comes behind a part is read only if the part owns no fault. -/
theorem andThen {first : Outcome α} {next : α -> Outcome β} (accounts : first.Accounts tokens)
    (later : ∀ value, (next value).Accounts (tokens.drop first.used)) :
    (first.andThen next).Accounts tokens := by
  have own := accounts.own
  unfold Outcome.andThen
  cases given : first.result with
  | none =>
      rw [given] at own
      exact ⟨accounts.used, own, accounts.entered, accounts.exact⟩
  | some value =>
      rw [given] at own
      have behind := later value
      refine ⟨?_, fun context => ?_, fun context => ?_, fun context activation member => ?_⟩
      · have fits := behind.used
        rw [List.length_drop] at fits
        have here := accounts.used
        dsimp only
        omega
      · rw [Trace.ownOfAll_append, List.length_append, own, behind.own]
        exact Nat.zero_add _
      · rw [Trace.activationsOfAll_append, List.length_append]
        exact Nat.add_le_add (accounts.entered context) (behind.entered context)
      · rw [Trace.activationsOfAll_append] at member
        rcases List.mem_append.mp member with early | late
        · exact accounts.exact context activation early
        · exact behind.exact context activation late

/-- A statement keeps its faults to itself, and its first token stands for it. -/
theorem statement {token : Token} {inner : Outcome Statement} (accounts : inner.Accounts tokens) :
    (inner.within .statement).attempt.afterToken.Accounts (token :: tokens) where
  used := Nat.succ_le_succ accounts.used
  own context := by
    change (Trace.ownOfAll context [.rule .statement _ inner.trace]).length = 0
    rw [Trace.ownOfAll_statement, List.length_nil]
  entered context := by
    change (Trace.activationsOfAll context [.rule .statement _ inner.trace]).length ≤ _
    rw [Trace.activationsOfAll_statement, List.length_cons]
    exact Nat.succ_le_succ (accounts.entered _)
  exact context := by
    change ∀ activation ∈ Trace.activationsOfAll context [.rule .statement _ inner.trace], _
    rw [Trace.activationsOfAll_statement, List.forall_mem_cons]
    exact ⟨accounts.own _, accounts.exact _⟩

end Outcome.Accounts

/-- Whatever is read accounts for its faults. -/
theorem Assembled.accounts {α : Type} {shown : Token -> Prop} {tokens : List Token}
    {outcome : Outcome α} (assembled : Assembled shown tokens outcome) :
    outcome.Accounts tokens := by
  induction assembled with
  | done value => exact .done value
  | fail fault _ => exact .fail fault _
  | map change _ ih => exact ih.map change
  | afterToken _ ih => exact ih.afterToken
  | within other _ ih => exact ih.within other
  | andThen _ _ ih later => exact ih.andThen later
  | statement _ ih => exact ih.statement

/-! ## Sources -/

theorem Activation.length_flatMap_own {activations : List Activation}
    (exact : ∀ activation ∈ activations, activation.IsExact) :
    (activations.flatMap Activation.own).length =
      activations.countP fun activation => !activation.completed := by
  induction activations with
  | nil => rfl
  | cons activation later ih =>
      have first : activation.own.length = due activation.completed :=
        exact activation List.mem_cons_self
      rw [List.flatMap_cons, List.length_append, first,
        ih fun other member => exact other (List.mem_cons_of_mem _ member)]
      cases completed : activation.completed <;> simp [due, completed, Nat.add_comm]

/-- The statements of a source account for all that is wrong in it. -/
theorem Reading.accounts (ending : Token) (tokens : List Token) :
    let reading := Reading.ofTokens ending tokens
    let activations := reading.trace.activations []
    (∀ activation ∈ activations, activation.IsExact) ∧
      reading.diagnostics.Perm (activations.flatMap Activation.own) ∧
      activations.length ≤ tokens.length := by
  intro reading activations
  have assembled : Assembled (fun _ => True) tokens
      ((programStatements ending tokens).outcome Program.mk) :=
    programStatements_assembled trivial Program.mk fun _ _ => trivial
  have accounts := assembled.accounts
  have none : reading.trace.own [] = [] := List.eq_nil_of_length_eq_zero (accounts.own [.program])
  refine ⟨accounts.exact [.program], ?_, Nat.le_trans (accounts.entered [.program]) accounts.used⟩
  have divided := Trace.diagnostics_perm [] reading.trace
  rwa [none] at divided

theorem exists_parse_eq_ok_iff (source : String) :
    (∃ program, parse source = .ok program) ↔ (Reading.ofSource source).diagnostics = [] := by
  unfold parse
  simp only [Reading.result_eq_ok_iff, exists_and_left, exists_eq', and_true]
  exact (Trace.diagnostics_eq_nil_iff [] _).symm

/-- Whenever a statement is entered, at any tokens, its trace says whether the statement
was read, and owns exactly one fault if it was not and none if it was.  In the reading
of a source this is so of all statements that are entered, and these own all
diagnostics, none of them twice.  So there are as many diagnostics as statements that
were lost, not more than there are tokens, and there is a program exactly if no
statement was lost. -/
theorem each_lost_statement_is_reported_once :
    (∀ (ending token : Token) (rest : List Token),
      let outcome := statement ending token rest
      ∃ inner, outcome.trace = [.rule .statement outcome.result.isSome inner] ∧
        ∀ context, (Trace.ownOfAll context inner).length =
          Activation.due outcome.result.isSome) ∧
    (∀ source : String,
      let reading := Reading.ofSource source
      let activations := reading.trace.activations []
      (∀ activation ∈ activations, activation.IsExact) ∧
      reading.diagnostics.Perm (activations.flatMap Activation.own) ∧
      reading.diagnostics.length =
        activations.countP (fun activation => !activation.completed) ∧
      reading.diagnostics.length ≤ (Scanner.ofString source).tokens.length ∧
      ((∃ program, parse source = .ok program) ↔
        ∀ activation ∈ activations, activation.completed = true)) := by
  constructor
  · intro ending token rest outcome
    have entered : ∃ inner, outcome = inner.within .statement ∧
        Assembled (fun _ => True) rest inner :=
      statement_assembled trivial trivial fun _ _ => trivial
    rcases entered with ⟨inner, same, assembled⟩
    refine ⟨inner.trace, ?_⟩
    rw [same]
    exact ⟨rfl, assembled.accounts.own⟩
  · intro source reading activations
    rcases Reading.accounts (Scanner.ofString source).ending (Scanner.ofString source).tokens
      with ⟨exact, divided, entered⟩
    change reading.diagnostics.Perm (activations.flatMap Activation.own) at divided
    have count := divided.length_eq.trans (Activation.length_flatMap_own exact)
    refine ⟨exact, divided, count, ?_, ?_⟩
    · rw [count]
      exact Nat.le_trans List.countP_le_length entered
    · rw [exists_parse_eq_ok_iff, ← List.length_eq_zero_iff]
      change reading.diagnostics.length = 0 ↔ _
      rw [count, List.countP_eq_zero]
      simp

/-- A statement that is lost inside a block, which is read all the same, and another one
that is lost at the end of the source: two diagnostics, and no program. -/
theorem each_lost_statement_is_reported_once_of_two :
    let reading := Reading.ofSource "if (a) \x7b + \x7d let"
    (reading.trace.activations []).map Activation.completed = [true, false, false] ∧
      reading.diagnostics.length = 2 ∧
      ¬ ∃ program, parse "if (a) \x7b + \x7d let" = .ok program := by
  intro reading
  have completed : (reading.trace.activations []).map Activation.completed =
      [true, false, false] := by decide +kernel
  have lost : (reading.trace.activations []).countP (fun activation => !activation.completed) =
      2 := by decide +kernel
  rcases each_lost_statement_is_reported_once.2 "if (a) \x7b + \x7d let" with
    ⟨_, _, count, _, accepted⟩
  refine ⟨completed, count.trans lost, fun program => ?_⟩
  have none : (reading.trace.activations []).countP (fun activation => !activation.completed) =
      0 := by
    rw [List.countP_eq_zero]
    simpa using accepted.mp program
  rw [lost] at none
  cases none

end MonkeyLang
