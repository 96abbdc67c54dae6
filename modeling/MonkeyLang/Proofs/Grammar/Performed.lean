import MonkeyLang.Proofs.Grammar.Assembly
import MonkeyLang.Proofs.Grammar.Routine
import MonkeyLang.Proofs.Token.Places

namespace MonkeyLang

/-!
# Outcomes are performed

What a rule of the grammar makes of a list of tokens is what its routine does, when it is
performed by a parser that has these tokens in front of it: it comes to an end, gives the same,
stops behind as many tokens and writes down the trace.

A list of tokens ends, and the tokens of a parser do not.  Where the list has ended the parser
may have gone on to the end token once more than the rule knows of.  So nothing is said of the
token that a parser stands at when a routine has ended, but only of those in front of it; a
routine that looks at the token it starts with has gone on to this token itself.
-/

/-! ## What a trace looks like written down -/

namespace Trace

mutual

/-- What is written down in the course of a trace below some rules. -/
def records (context : List Rule) : Trace -> List Record
  | .fault problem token => [.diagnostic ⟨problem, token, context⟩]
  | .rule name _ inner => Record.bracketed context name (recordsOfAll (context ++ [name]) inner)
termination_by structural trace => trace

/-- What is written down in the course of several traces below some rules. -/
def recordsOfAll (context : List Rule) : List Trace -> List Record
  | [] => []
  | trace :: later => trace.records context ++ recordsOfAll context later
termination_by structural traces => traces

end

theorem recordsOfAll_append (context : List Rule) (first second : List Trace) :
    recordsOfAll context (first ++ second) =
      recordsOfAll context first ++ recordsOfAll context second := by
  induction first with
  | nil => rfl
  | cons trace later ih => rw [List.cons_append, recordsOfAll, recordsOfAll, ih, List.append_assoc]

theorem recordsOfAll_singleton (context : List Rule) (trace : Trace) :
    recordsOfAll context [trace] = trace.records context := by
  rw [recordsOfAll, recordsOfAll, List.append_nil]

mutual

/-- The lines that are written down are the log. -/
theorem lines_records (context : List Rule) :
    ∀ trace : Trace, Record.lines (trace.records context) = trace.log context.length
  | .fault _ _ => by
      rw [records, log]
      rfl
  | .rule name _ inner => by
      have inside := lines_recordsOfAll (context ++ [name]) inner
      rw [List.length_append, List.length_singleton] at inside
      rw [records, log, Record.lines_bracketed, inside]

theorem lines_recordsOfAll (context : List Rule) :
    ∀ traces : List Trace,
      Record.lines (recordsOfAll context traces) = logOfAll context.length traces
  | [] => rfl
  | trace :: later => by
      rw [recordsOfAll, logOfAll, ← lines_records context trace,
        ← lines_recordsOfAll context later]
      exact List.filterMap_append

end

mutual

/-- The diagnostics that are written down are those of the trace. -/
theorem diagnostics_records (context : List Rule) :
    ∀ trace : Trace, Record.diagnostics (trace.records context) = trace.diagnostics context
  | .fault _ _ => by
      rw [records, diagnostics]
      rfl
  | .rule name _ inner => by
      rw [records, diagnostics, Record.diagnostics_bracketed]
      exact diagnostics_recordsOfAll (context ++ [name]) inner

theorem diagnostics_recordsOfAll (context : List Rule) :
    ∀ traces : List Trace,
      Record.diagnostics (recordsOfAll context traces) = diagnosticsOfAll context traces
  | [] => rfl
  | trace :: later => by
      rw [recordsOfAll, diagnosticsOfAll, ← diagnostics_records context trace,
        ← diagnostics_recordsOfAll context later]
      exact List.filterMap_append

end

end Trace

/-! ## What a parser has in front of it -/

/-- A parser has some tokens in front of it, and then the end token for ever. -/
structure Parser.Faces (ending : Token) (tokens : List Token) (parser : Parser) : Prop where
  next : parser.next = tokens.head?.getD ending
  behind : parser.scanner.tokens = tokens.tail
  last : parser.scanner.ending = ending
  inner : ∀ token ∈ tokens, token.type ≠ .ending

/-- A parser stands at the first of some tokens, and has the others in front of it. -/
structure Parser.Stands (ending : Token) (tokens : List Token) (parser : Parser) : Prop where
  here : parser.current = tokens.head?.getD ending
  faces : parser.Faces ending tokens.tail
  inner : ∀ token ∈ tokens, token.type ≠ .ending

namespace Parser

variable {ending token : Token} {tokens rest : List Token} {parser : Parser}

theorem current_leave : parser.leave.current = parser.current := by
  unfold leave
  split <;> rfl

theorem Faces.leave (faces : parser.Faces ending tokens) : parser.leave.Faces ending tokens := by
  unfold Parser.leave
  split
  · exact faces
  · exact ⟨faces.next, faces.behind, faces.last, faces.inner⟩

theorem Faces.enter (faces : parser.Faces ending tokens) (rule : Rule) :
    (parser.enter rule).Faces ending tokens :=
  ⟨faces.next, faces.behind, faces.last, faces.inner⟩

theorem Faces.report (faces : parser.Faces ending tokens) (fault : Fault) (token : Token) :
    (parser.report fault token).Faces ending tokens :=
  ⟨faces.next, faces.behind, faces.last, faces.inner⟩

theorem Faces.type_ending (faces : parser.Faces ending tokens) : ending.type = .ending := by
  rw [← faces.last]
  rfl

theorem Faces.advance (faces : parser.Faces ending tokens) :
    parser.advance.Stands ending tokens where
  here := faces.next
  faces :=
    { next := by
        rw [← faces.behind, ← faces.last]
        exact parser.scanner.draw_fst
      behind := by
        rw [← faces.behind]
        exact parser.scanner.tokens_draw
      last := parser.scanner.ending_draw.trans faces.last
      inner := fun token member => faces.inner token (List.mem_of_mem_tail member) }
  inner := faces.inner

theorem Faces.type_ending_ne (faces : parser.Faces ending tokens) {type : TokenType}
    (inner : type ≠ .ending) : ending.type ≠ type := by
  rw [faces.type_ending]
  exact inner.symm

theorem Faces.next_nil (faces : parser.Faces ending []) : parser.next = ending := faces.next

theorem Faces.next_cons (faces : parser.Faces ending (token :: rest)) : parser.next = token :=
  faces.next

theorem Faces.advance_cons (faces : parser.Faces ending (token :: rest)) :
    parser.advance.Faces ending rest := faces.advance.faces

theorem Faces.advance_nil (faces : parser.Faces ending []) :
    parser.advance.Faces ending [] := faces.advance.faces

end Parser

/-! ## Outcomes of routines -/

/-- An outcome on some tokens is what comes of a routine when a parser performs it that has these
tokens in front of it. -/
def ComesOf {α : Type} (ending : Token) (tokens : List Token) (parser : Parser)
    (routine : Routine α) (outcome : Outcome α) : Prop :=
  ∃ after, Performs routine parser outcome.result after ∧
    after.Faces ending (tokens.drop outcome.used) ∧
    after.records = parser.records ++ Trace.recordsOfAll parser.rules outcome.trace

namespace ComesOf

variable {α β : Type} {ending token : Token} {tokens rest : List Token} {parser : Parser}

theorem give (faces : parser.Faces ending tokens) (value : α) :
    ComesOf ending tokens parser (pure value) (.done value) :=
  ⟨parser, .give value, faces, (List.append_nil _).symm⟩

theorem quit (faces : parser.Faces ending tokens) :
    ComesOf ending tokens parser (.quit : Routine α) .nothing :=
  ⟨parser, .quit, faces, (List.append_nil _).symm⟩

theorem report (faces : parser.Faces ending tokens) (fault : Fault) (token : Token) :
    ComesOf ending tokens parser (.report fault token : Routine α) (.fail fault token) := by
  refine ⟨parser.report fault token, .report fault token, faces.report fault token, ?_⟩
  rw [Outcome.fail, Trace.recordsOfAll_singleton, Trace.records]
  rfl

theorem atCurrent (faces : parser.Faces ending tokens) (here : parser.current = token) :
    ComesOf ending tokens parser Routine.current (.done token) := by
  subst here
  exact ⟨parser, .look _, faces, (List.append_nil _).symm⟩

theorem current {next : Token -> Routine α} {outcome : Outcome α} (here : parser.current = token)
    (comes : ComesOf ending tokens parser (next token) outcome) :
    ComesOf ending tokens parser (Routine.current >>= next) outcome := by
  subst here
  rcases comes with ⟨after, performs, rest⟩
  exact ⟨after, .andThen (.look _) performs, rest⟩

theorem next {next : Token -> Routine α} {outcome : Outcome α} (seen : parser.next = token)
    (comes : ComesOf ending tokens parser (next token) outcome) :
    ComesOf ending tokens parser (Routine.next >>= next) outcome := by
  subst seen
  rcases comes with ⟨after, performs, rest⟩
  exact ⟨after, .andThen (.look _) performs, rest⟩

theorem advance {next : Unit -> Routine α} {outcome : Outcome α}
    (comes : ComesOf ending rest parser.advance (next ()) outcome) :
    ComesOf ending (token :: rest) parser (Routine.advance >>= next) outcome.afterToken := by
  rcases comes with ⟨after, performs, faces, written⟩
  exact ⟨after, .andThen (.forward ()) performs, faces, written⟩

theorem advance_nil {next : Unit -> Routine α} {outcome : Outcome α}
    (comes : ComesOf ending [] parser.advance (next ()) outcome) :
    ComesOf ending [] parser (Routine.advance >>= next) outcome := by
  rcases comes with ⟨after, performs, faces, written⟩
  exact ⟨after, .andThen (.forward ()) performs, faces, written⟩

theorem call {procedure : Procedure α} {outcome : Outcome α}
    (comes : ComesOf ending tokens parser procedure.body outcome) :
    ComesOf ending tokens parser (.call procedure) outcome := by
  rcases comes with ⟨after, performs, rest⟩
  exact ⟨after, .call performs, rest⟩

/-- A routine that decides as an outcome does. -/
theorem ite {condition condition' : Prop} [Decidable condition] [Decidable condition']
    {first second : Routine α} {outcome outcome' : Outcome α} (same : condition ↔ condition')
    (holds : condition' -> ComesOf ending tokens parser first outcome)
    (fails : ¬condition' -> ComesOf ending tokens parser second outcome') :
    ComesOf ending tokens parser (if condition then first else second)
      (if condition' then outcome else outcome') := by
  by_cases decided : condition'
  · rw [if_pos (same.mpr decided), if_pos decided]
    exact holds decided
  · rw [if_neg (decided ∘ same.mp), if_neg decided]
    exact fails decided

/-- What comes behind a routine may depend on how that was performed. -/
theorem andThenOf {first : Routine α} {next : α -> Routine β} {outcome : Outcome α}
    {later : α -> Outcome β} (comes : ComesOf ending tokens parser first outcome)
    (behind : ∀ value between, Performs first parser (some value) between ->
      between.Faces ending (tokens.drop outcome.used) ->
      ComesOf ending (tokens.drop outcome.used) between (next value) (later value)) :
    ComesOf ending tokens parser (first >>= next) (outcome.andThen later) := by
  rcases comes with ⟨between, performs, faces, written⟩
  unfold Outcome.andThen
  cases given : outcome.result with
  | none =>
      rw [given] at performs
      exact ⟨between, .stopped performs, faces, written⟩
  | some value =>
      rw [given] at performs
      rcases behind value between performs faces with ⟨after, performs', faces', written'⟩
      refine ⟨after, .andThen performs performs', ?_, ?_⟩
      · dsimp only
        rwa [← List.drop_drop]
      -- Both traces stand below the same rules, since the first routine has left its own.
      · rw [written', written, performs.rules_eq, Trace.recordsOfAll_append, List.append_assoc]

theorem andThen {first : Routine α} {next : α -> Routine β} {outcome : Outcome α}
    {later : α -> Outcome β} (comes : ComesOf ending tokens parser first outcome)
    (behind : ∀ value between, between.Faces ending (tokens.drop outcome.used) ->
      ComesOf ending (tokens.drop outcome.used) between (next value) (later value)) :
    ComesOf ending tokens parser (first >>= next) (outcome.andThen later) :=
  comes.andThenOf fun value between _ faces => behind value between faces

/-- Nothing is done behind a fault. -/
theorem stopped {first : Routine α} {next : α -> Routine β} {fault : Fault}
    (comes : ComesOf ending tokens parser first (.fail fault token)) :
    ComesOf ending tokens parser (first >>= next) (.fail fault token) := by
  rcases comes with ⟨after, performs, rest⟩
  exact ⟨after, .stopped performs, rest⟩

theorem map {routine : Routine α} {outcome : Outcome α}
    (comes : ComesOf ending tokens parser routine outcome) (change : α -> β) :
    ComesOf ending tokens parser (routine >>= fun value => pure (change value))
      (outcome.map change) := by
  rcases comes with ⟨after, performs, rest⟩
  refine ⟨after, ?_, rest⟩
  unfold Outcome.map
  cases given : outcome.result with
  | none =>
      rw [given] at performs
      exact .stopped performs
  | some value =>
      rw [given] at performs
      exact .andThen performs (.give (change value))

theorem within {rule : Rule} {inner : Routine α} {outcome : Outcome α}
    (comes : ComesOf ending tokens (parser.enter rule) inner outcome) :
    ComesOf ending tokens parser (.within rule inner) (outcome.within rule) := by
  rcases comes with ⟨after, performs, faces, written⟩
  refine ⟨after.leave, .within performs, faces.leave, ?_⟩
  rw [Parser.records_leave performs.rules_eq written, Outcome.within,
    Trace.recordsOfAll_singleton, Trace.records]
  rfl

end ComesOf

/-! ## Series of statements -/

/-- Statements come of a routine that a parser performs until it has reached something. -/
def SeriesComesOf (parser : Parser) (routine : Routine (List Statement)) (series : Series)
    (reached : Parser -> Prop) : Prop :=
  ∃ after, Performs routine parser (some series.statements) after ∧ reached after ∧
    after.records = parser.records ++ Trace.recordsOfAll parser.rules series.trace

namespace SeriesComesOf

variable {ending token : Token} {tokens rest : List Token} {parser : Parser}
  {kinds : List TokenType} {others : Procedure (List Statement)} {reached : Parser -> Prop}

/-- Where a token ends the statements there are none. -/
theorem none {used : Nat} (ends : parser.current.type ∈ kinds) (here : reached parser) :
    SeriesComesOf parser (.statementsUpTo kinds others) ⟨[], used, []⟩ reached := by
  have performs : Performs (.statementsUpTo kinds others) parser (some []) parser := by
    apply Performs.andThen (.look _)
    rw [if_pos ends]
    exact .give []
  exact ⟨parser, performs, here, (List.append_nil _).symm⟩

/-- A statement is left behind, and the parser goes on to the others, whether it was read or
not. -/
theorem prepend {first : Outcome Statement} {later : Series}
    (goesOn : parser.current.type ∉ kinds)
    (comes : ComesOf ending rest parser .statement first)
    (behind : ∀ between : Parser, between.Stands ending (rest.drop first.used) ->
      SeriesComesOf between others.body later reached) :
    SeriesComesOf parser (.statementsUpTo kinds others) (.prepend first later) reached := by
  rcases comes with ⟨between, performs, faces, written⟩
  rcases behind between.advance faces.advance with ⟨after, performs', reached, written'⟩
  refine ⟨after, ?_, reached, ?_⟩
  · have called : Performs (.call .statement) parser first.result between := .call performs
    apply Performs.andThen (.look _)
    rw [if_neg goesOn]
    apply Performs.andThen (.survive called)
    apply Performs.andThen (.forward ())
    exact .andThen (.call performs') (.give _)
  · have inside : between.advance.rules = parser.rules := performs.rules_eq
    have before : between.advance.records =
        parser.records ++ Trace.recordsOfAll parser.rules first.trace := written
    rw [written', inside, before, Series.prepend, Trace.recordsOfAll_append, List.append_assoc]

end SeriesComesOf

end MonkeyLang
