import MonkeyLang.Proofs.Grammar.Performance

namespace MonkeyLang

/-!
# The log is well nested

A line of the log says that a rule begins or ends, and how many rules there are around it.  Who
reads the lines one after another knows which rules are open behind each of them, as long as
every rule begins at the depth that it is at and the rule that ends is the one that began last.

That this is always so does not depend on the grammar.  A parser leaves every rule that it
enters, whatever it does in between and whether that gives a value or not; what it writes down
meanwhile leads back to where it was.
-/

/-! ## Reading the log -/

/-- All rules. -/
def Rule.all : List Rule :=
  [.program, .statement, .letStatement, .returnStatement, .expressionStatement, .block,
    .expression, .unaryExpression, .binaryExpression, .groupedExpression, .ifExpression,
    .functionLiteral, .callExpression]

theorem Rule.mem_all (rule : Rule) : rule ∈ all := by
  cases rule <;> decide

theorem Rule.text_injective : Function.Injective Rule.text := by
  have distinct : ∀ rule ∈ all, ∀ other ∈ all, rule.text = other.text -> rule = other := by
    decide +kernel
  exact fun rule other => distinct rule rule.mem_all other other.mem_all

namespace Log

/-- The number of tabs that a line is indented by. -/
def depth (line : String) : Nat := (line.toList.takeWhile (· = '\t')).length

/-- Whether a line says that a rule begins, at any depth. -/
def begins (rule : Rule) (line : String) : Bool :=
  line.toList.dropWhile (· = '\t') = ("BEGIN " ++ rule.text).toList

/-- Whether a line says that a rule ends, at any depth. -/
def ends (rule : Rule) (line : String) : Bool :=
  line.toList.dropWhile (· = '\t') = ("END " ++ rule.text).toList

/-- Read one line of the log when some rules are open, outermost first.  The beginning of a rule
is indented by the number of these rules and opens one more.  The end is that of the innermost
one, indented by the number of the others, and closes it.  Any other line is out of place. -/
def follow (opened : List Rule) (line : String) : Option (List Rule) :=
  match Rule.all.find? (begins · line), opened.getLast? with
  | some rule, _ => if depth line = opened.length then some (opened ++ [rule]) else none
  | none, some innermost =>
      if ends innermost line ∧ depth line + 1 = opened.length then some opened.dropLast else none
  | none, none => none

/-- The rules that are open behind some lines, unless one of them is out of place. -/
def openBehind (opened : List Rule) (lines : List String) : Option (List Rule) :=
  lines.foldlM follow opened

section Lines

open Trace (logLine)

variable {event : String} {first : Char} {rest : List Char}

theorem toList_logLine (depth : Nat) (event : String) (rule : Rule) :
    (logLine depth event rule).toList =
      List.replicate depth '\t' ++ (event ++ " " ++ rule.text).toList := by
  simp [logLine, String.toList_append]

theorem depth_logLine (shape : event.toList = first :: rest) (noTab : first ≠ '\t') (count : Nat)
    (rule : Rule) : depth (logLine count event rule) = count := by
  rw [depth, toList_logLine, List.takeWhile_append, List.takeWhile_replicate]
  simp [String.toList_append, shape, noTab]

theorem dropWhile_logLine (shape : event.toList = first :: rest) (noTab : first ≠ '\t')
    (count : Nat) (rule : Rule) :
    (logLine count event rule).toList.dropWhile (· = '\t') =
      (event ++ " " ++ rule.text).toList := by
  rw [toList_logLine, List.dropWhile_append, List.dropWhile_replicate]
  simp [String.toList_append, shape, noTab]

theorem toList_begin : "BEGIN".toList = 'B' :: ['E', 'G', 'I', 'N'] := by decide

theorem toList_end : "END".toList = 'E' :: ['N', 'D'] := by decide

theorem begins_begin (rule : Rule) (count : Nat) (entered : Rule) :
    begins rule (logLine count "BEGIN" entered) = decide (entered = rule) := by
  have same : "BEGIN " ++ rule.text = "BEGIN" ++ " " ++ rule.text := rfl
  rw [begins, dropWhile_logLine toList_begin (by decide), same, decide_eq_decide,
    String.toList_inj, String.append_right_inj]
  exact Rule.text_injective.eq_iff

theorem begins_end (rule : Rule) (count : Nat) (left : Rule) :
    begins rule (logLine count "END" left) = false := by
  rw [begins, dropWhile_logLine toList_end (by decide), decide_eq_false_iff_not,
    String.toList_inj]
  intro same
  have heads := congrArg (fun text => text.toList.head?) same
  simp [String.toList_append] at heads

theorem ends_end (count : Nat) (left : Rule) : ends left (logLine count "END" left) = true := by
  rw [ends, dropWhile_logLine toList_end (by decide), decide_eq_true_iff]
  rfl

theorem follow_begin (opened : List Rule) (rule : Rule) :
    follow opened (logLine opened.length "BEGIN" rule) = some (opened ++ [rule]) := by
  have found : Rule.all.find? (begins · (logLine opened.length "BEGIN" rule)) = some rule := by
    simp only [begins_begin]
    cases rule <;> rfl
  rw [follow, found, depth_logLine toList_begin (by decide)]
  exact if_pos rfl

theorem follow_end (outer : List Rule) (rule : Rule) :
    follow (outer ++ [rule]) (logLine outer.length "END" rule) = some outer := by
  have none : Rule.all.find? (begins · (logLine outer.length "END" rule)) = none := by
    simp only [begins_end]
    rfl
  rw [follow, none, List.getLast?_concat, depth_logLine toList_end (by decide),
    List.length_append, List.dropLast_concat]
  exact if_pos ⟨ends_end outer.length rule, rfl⟩

end Lines

end Log

/-! ## Reading all that is written down -/

namespace Record

/-- Read one record when some rules are open.  A diagnostic is in place if these are the rules
that it names, and opens or closes none. -/
def follow (opened : List Rule) : Record -> Option (List Rule)
  | .line text => Log.follow opened text
  | .diagnostic found => if found.context = opened then some opened else none

/-- The rules that are open behind some records, unless one of them is out of place. -/
def openBehind (opened : List Rule) (records : List Record) : Option (List Rule) :=
  records.foldlM follow opened

variable {opened between after : List Rule} {record : Record} {records first second : List Record}

theorem openBehind_cons (followed : follow opened record = some between) :
    openBehind opened (record :: records) = openBehind between records := by
  rw [openBehind, List.foldlM_cons, followed]
  rfl

theorem openBehind_line {text : String} (followed : Log.follow opened text = some between) :
    openBehind opened (.line text :: records) = openBehind between records :=
  openBehind_cons followed

theorem openBehind_append (front : openBehind opened first = some between) :
    openBehind opened (first ++ second) = openBehind between second := by
  rw [openBehind] at front
  rw [openBehind, List.foldlM_append, front]
  rfl

theorem exists_of_openBehind_cons (inPlace : openBehind opened (record :: records) = some after) :
    ∃ between, follow opened record = some between ∧ openBehind between records = some after := by
  rw [openBehind, List.foldlM_cons] at inPlace
  exact Option.bind_eq_some_iff.mp inPlace

/-- The lines among records that are in place are in place. -/
theorem openBehind_lines (inPlace : openBehind opened records = some after) :
    Log.openBehind opened (lines records) = some after := by
  induction records generalizing opened with
  | nil => exact inPlace
  | cons record later ih =>
      rcases exists_of_openBehind_cons inPlace with ⟨between, followed, rest⟩
      cases record with
      | line text =>
          have behind := ih rest
          change Log.openBehind opened (text :: lines later) = some after
          rw [Log.openBehind] at behind ⊢
          rw [List.foldlM_cons, show Log.follow opened text = some between from followed]
          exact behind
      | diagnostic found =>
          rw [follow, Option.ite_none_right_eq_some, Option.some.injEq] at followed
          exact ih (followed.2 ▸ rest)

/-- A diagnostic in place names the rules that are open behind the lines before it. -/
theorem openBehind_lines_of_diagnostic {before behind : List Record} {found : Diagnostic}
    (inPlace : openBehind opened (before ++ .diagnostic found :: behind) = some after) :
    Log.openBehind opened (lines before) = some found.context := by
  rw [openBehind, List.foldlM_append] at inPlace
  rcases Option.bind_eq_some_iff.mp inPlace with ⟨between, front, rest⟩
  rcases exists_of_openBehind_cons rest with ⟨_, followed, _⟩
  rw [follow, Option.ite_none_right_eq_some] at followed
  rw [openBehind_lines front, followed.1]

/-- Some records are in place, lead back to the rules that were open before, and close none of
these on the way. -/
structure AreBalanced (opened : List Rule) (records : List Record) : Prop where
  settled : openBehind opened records = some opened
  inside : ∀ front, front <+: records -> ∃ inner, openBehind opened front = some (opened ++ inner)

namespace AreBalanced

theorem nil : AreBalanced opened [] where
  settled := rfl
  inside := by
    intro front part
    rw [List.prefix_nil.mp part]
    exact ⟨[], congrArg some (List.append_nil opened).symm⟩

theorem diagnostic (fault : Fault) (token : Token) :
    AreBalanced opened [.diagnostic ⟨fault, token, opened⟩] := by
  have settled : openBehind opened [.diagnostic ⟨fault, token, opened⟩] = some opened :=
    openBehind_cons (if_pos rfl)
  refine ⟨settled, fun front part => ⟨[], ?_⟩⟩
  rw [List.append_nil]
  rcases List.prefix_cons_iff.mp part with rfl | ⟨later, rfl, rest⟩
  · rfl
  · rw [List.prefix_nil.mp rest]
    exact settled

theorem append (balanced : AreBalanced opened first) (behind : AreBalanced opened second) :
    AreBalanced opened (first ++ second) where
  settled := by rw [openBehind_append balanced.settled, behind.settled]
  inside := by
    intro front part
    rcases List.prefix_or_prefix_of_prefix part (List.prefix_append first second) with
      within | ⟨later, rfl⟩
    · exact balanced.inside front within
    · rw [openBehind_append balanced.settled]
      exact behind.inside later ((List.prefix_append_right_inj first).mp part)

section Bracketed

variable {rule : Rule} (balanced : AreBalanced (opened ++ [rule]) records)

include balanced

/-- A rule stays open from the line where it begins up to the line where it ends. -/
theorem openBehind_of_prefix_bracketed {front : List Record}
    (part : front <+: bracketed opened rule records) :
    front = [] ∨ (∃ inner, openBehind opened front = some (opened ++ rule :: inner)) ∨
      front = bracketed opened rule records := by
  rcases List.prefix_cons_iff.mp part with rfl | ⟨later, rfl, rest⟩
  · exact .inl rfl
  · rcases List.prefix_concat_iff.mp rest with rfl | within
    · exact .inr (.inr rfl)
    · rcases balanced.inside later within with ⟨inner, opens⟩
      rw [List.append_assoc, List.singleton_append] at opens
      refine .inr (.inl ⟨inner, ?_⟩)
      rwa [openBehind_line (Log.follow_begin opened rule)]

theorem openBehind_bracketed : openBehind opened (bracketed opened rule records) = some opened := by
  rw [bracketed, openBehind_line (Log.follow_begin opened rule), openBehind_append balanced.settled]
  exact openBehind_line (Log.follow_end opened rule)

/-- The lines behind the first one and before the last are read while the rule is open. -/
theorem openBehind_take {count : Nat} (started : 0 < count)
    (goesOn : count < (lines (bracketed opened rule records)).length) :
    ∃ inner, Log.openBehind opened ((lines (bracketed opened rule records)).take count) =
      some (opened ++ rule :: inner) := by
  have split := (List.take_append_drop count (lines (bracketed opened rule records))).symm
  -- The lines that are taken are those of the records up to some place.
  rcases List.filterMap_eq_append_iff.mp split with ⟨front, behind, whole, taken, _⟩
  have length := congrArg List.length taken
  rw [List.length_take_of_le (Nat.le_of_lt goesOn)] at length
  rw [← taken]
  rcases balanced.openBehind_of_prefix_bracketed ⟨behind, whole.symm⟩ with
    rfl | ⟨inner, opens⟩ | rfl
  · exact absurd length (Nat.ne_of_lt started)
  · exact ⟨inner, openBehind_lines opens⟩
  · exact absurd length (Nat.ne_of_gt goesOn)

theorem bracket : AreBalanced opened (bracketed opened rule records) where
  settled := balanced.openBehind_bracketed
  inside := by
    intro front part
    rcases balanced.openBehind_of_prefix_bracketed part with rfl | ⟨inner, opens⟩ | rfl
    · exact ⟨[], congrArg some (List.append_nil opened).symm⟩
    · exact ⟨rule :: inner, opens⟩
    · exact ⟨[], by rw [balanced.openBehind_bracketed, List.append_nil]⟩

end Bracketed

end AreBalanced

end Record

/-- Whatever a parser does, what it writes down is balanced. -/
theorem Performs.balanced {α : Type} {routine : Routine α} {parser after : Parser}
    {result : Option α} (performs : Performs routine parser result after) :
    ∃ new, after.records = parser.records ++ new ∧ Record.AreBalanced parser.rules new := by
  induction performs with
  | give _ | look _ | forward _ | quit => exact ⟨[], (List.append_nil _).symm, .nil⟩
  | report fault token => exact ⟨_, rfl, .diagnostic fault token⟩
  | andThen performs _ ih later =>
      rcases ih with ⟨new, written, balanced⟩
      rcases later with ⟨more, written', balanced'⟩
      rw [performs.rules_eq] at balanced'
      exact ⟨new ++ more, by rw [written', written, List.append_assoc], balanced.append balanced'⟩
  | stopped _ ih | survive _ ih | call _ ih => exact ih
  | within performs ih =>
      rcases ih with ⟨new, written, balanced⟩
      exact ⟨_, Parser.records_leave performs.rules_eq written, balanced.bracket⟩

/-- What is written down inside of a rule stands between its beginning and its end. -/
theorem Performs.exists_bracketed {α : Type} {rule : Rule} {inner : Routine α}
    {parser after : Parser} {result : Option α}
    (performs : Performs (.within rule inner) parser result after) :
    ∃ new, after.records = parser.records ++ Record.bracketed parser.rules rule new ∧
      Record.AreBalanced (parser.rules ++ [rule]) new := by
  cases performs with
  | within performs =>
      rcases performs.balanced with ⟨new, written, balanced⟩
      exact ⟨new, Parser.records_leave performs.rules_eq written, balanced⟩

end MonkeyLang
