import MonkeyLang.Grammar.Reading

namespace MonkeyLang

/-!
# Clean outcomes

A trace is clean when nothing was found wrong below it.  An outcome that gave a
value may still have faults in its trace, since a block keeps the faults of its
statements and goes on behind them; so clean is more than successful.  Two kinds
of lemma are collected here: how clean outcomes are put together, and what a
clean outcome says about the outcomes that it was put together from.
-/

namespace Trace

mutual

/-- Whether no fault was found. -/
def isClean : Trace -> Bool
  | .fault _ _ => false
  | .rule _ _ inner => areClean inner
termination_by structural trace => trace

/-- Whether no fault was found in several traces. -/
def areClean : List Trace -> Bool
  | [] => true
  | trace :: later => trace.isClean && areClean later
termination_by structural traces => traces

end

theorem areClean_append (first second : List Trace) :
    areClean (first ++ second) = (areClean first && areClean second) := by
  induction first with
  | nil => rfl
  | cons trace later ih => rw [List.cons_append, areClean, areClean, ih, Bool.and_assoc]

mutual

/-- Diagnostics are the faults of a trace, whatever the rules around it. -/
theorem diagnostics_eq_nil_iff (context : List Rule) :
    ∀ trace : Trace, trace.diagnostics context = [] ↔ trace.isClean = true
  | .fault problem token => by simp [diagnostics, isClean]
  | .rule name completed inner => by
      rw [diagnostics, isClean]
      exact diagnosticsOfAll_eq_nil_iff (context ++ [name]) inner

theorem diagnosticsOfAll_eq_nil_iff (context : List Rule) :
    ∀ traces : List Trace, diagnosticsOfAll context traces = [] ↔ areClean traces = true
  | [] => by simp [diagnosticsOfAll, areClean]
  | trace :: later => by
      rw [diagnosticsOfAll, areClean, List.append_eq_nil_iff, Bool.and_eq_true,
        diagnostics_eq_nil_iff context trace, diagnosticsOfAll_eq_nil_iff context later]

end

end Trace

/-- An outcome that gave a value, used up a number of tokens and found no fault. -/
structure Outcome.Reads {α : Type} (outcome : Outcome α) (value : α) (used : Nat) : Prop where
  result : outcome.result = some value
  used : outcome.used = used
  clean : Trace.areClean outcome.trace = true

/-- A series that gave statements, used up a number of tokens and found no fault. -/
structure Series.Reads (series : Series) (statements : List Statement) (used : Nat) : Prop where
  statements : series.statements = statements
  used : series.used = used
  clean : Trace.areClean series.trace = true

namespace Outcome

variable {α β : Type}

/-! ## Clean outcomes put together -/

namespace Reads

theorem done (value : α) : (Outcome.done value).Reads value 0 := ⟨rfl, rfl, rfl⟩

theorem map {outcome : Outcome α} {value : α} {used : Nat} (reads : outcome.Reads value used)
    (change : α -> β) : (outcome.map change).Reads (change value) used :=
  ⟨congrArg (Option.map change) reads.result, reads.used, reads.clean⟩

theorem afterToken {outcome : Outcome α} {value : α} {used : Nat}
    (reads : outcome.Reads value used) : outcome.afterToken.Reads value (used + 1) :=
  ⟨reads.result, congrArg (· + 1) reads.used, reads.clean⟩

theorem within {outcome : Outcome α} {value : α} {used : Nat}
    (reads : outcome.Reads value used) (rule : Rule) :
    (outcome.within rule).Reads value used := by
  refine ⟨reads.result, reads.used, ?_⟩
  change (Trace.areClean outcome.trace && true) = true
  rw [reads.clean, Bool.and_true]

theorem andThen {first : Outcome α} {value : α} {used : Nat} (reads : first.Reads value used)
    {next : α -> Outcome β} {result : β} {more : Nat} (later : (next value).Reads result more) :
    (first.andThen next).Reads result (used + more) := by
  have shape : first.andThen next =
      ⟨(next value).result, first.used + (next value).used,
        first.trace ++ (next value).trace⟩ := by
    rw [Outcome.andThen, reads.result]
  rw [shape]
  refine ⟨later.result, ?_, ?_⟩
  · change first.used + (next value).used = used + more
    rw [reads.used, later.used]
  · change Trace.areClean (first.trace ++ (next value).trace) = true
    rw [Trace.areClean_append, reads.clean, later.clean, Bool.and_true]

/-- An outcome used up as many tokens as its phrase has, so that the rule behind
it starts where the phrase ends. -/
theorem drop_used {outcome : Outcome α} {value : α} {phrase : List Token}
    (reads : outcome.Reads value phrase.length) (behind : List Token) :
    (phrase ++ behind).drop outcome.used = behind := by
  rw [reads.used, List.drop_left]

/-- The same for a phrase of one token. -/
theorem drop_one {outcome : Outcome α} {value : α} (reads : outcome.Reads value 1)
    (token : Token) (behind : List Token) : (token :: behind).drop outcome.used = behind := by
  rw [reads.used, List.drop_one, List.tail_cons]

end Reads

/-! ## Clean outcomes taken apart -/

/-- Whether nothing was found wrong. -/
def Clean (outcome : Outcome α) : Prop := Trace.areClean outcome.trace = true

theorem not_clean_fail (fault : Fault) (token : Token) :
    ¬ (Outcome.fail fault token : Outcome α).Clean := by
  intro clean
  cases clean

theorem clean_within {rule : Rule} {outcome : Outcome α} :
    (outcome.within rule).Clean ↔ outcome.Clean := by
  change (Trace.areClean outcome.trace && true) = true ↔ Trace.areClean outcome.trace = true
  rw [Bool.and_true]

theorem clean_map {change : α -> β} {outcome : Outcome α} :
    (outcome.map change).Clean ↔ outcome.Clean := Iff.rfl

theorem clean_afterToken {outcome : Outcome α} :
    outcome.afterToken.Clean ↔ outcome.Clean := Iff.rfl

theorem clean_of_andThen {first : Outcome α} {next : α -> Outcome β}
    (clean : (first.andThen next).Clean) : first.Clean := by
  unfold Clean Outcome.andThen at clean
  split at clean
  · exact clean
  · rw [Trace.areClean_append, Bool.and_eq_true] at clean
    exact clean.1

/-- What comes behind a clean outcome is as clean as the whole. -/
theorem Reads.clean_next {first : Outcome α} {value : α} {used : Nat}
    (reads : first.Reads value used) {next : α -> Outcome β}
    (clean : (first.andThen next).Clean) : (next value).Clean := by
  unfold Clean Outcome.andThen at clean
  rw [reads.result] at clean
  rw [Trace.areClean_append, Bool.and_eq_true] at clean
  exact clean.2

end Outcome

namespace Series

theorem Reads.empty : Series.empty.Reads [] 0 := ⟨rfl, rfl, rfl⟩

theorem Reads.prepend {first : Outcome Statement} {statement : Statement} {used : Nat}
    (reads : first.Reads statement used) {later : Series} {statements : List Statement}
    {more : Nat} (others : later.Reads statements more) :
    (Series.prepend first later).Reads (statement :: statements) (1 + used + more) := by
  refine ⟨?_, ?_, ?_⟩
  · change first.result.toList ++ later.statements = statement :: statements
    rw [reads.result, others.statements]
    rfl
  · change 1 + first.used + later.used = 1 + used + more
    rw [reads.used, others.used]
  · change Trace.areClean (first.trace ++ later.trace) = true
    rw [Trace.areClean_append, reads.clean, others.clean, Bool.and_true]

theorem Reads.outcome {α : Type} {series : Series} {statements : List Statement} {used : Nat}
    (reads : series.Reads statements used) (build : List Statement -> α) :
    (series.outcome build).Reads (build statements) used :=
  ⟨congrArg (some ∘ build) reads.statements, reads.used, reads.clean⟩

/-- Whether nothing was found wrong. -/
def Clean (series : Series) : Prop := Trace.areClean series.trace = true

theorem clean_of_prepend {first : Outcome Statement} {later : Series}
    (clean : (Series.prepend first later).Clean) : first.Clean ∧ later.Clean := by
  change Trace.areClean (first.trace ++ later.trace) = true at clean
  rwa [Trace.areClean_append, Bool.and_eq_true] at clean

end Series

end MonkeyLang
