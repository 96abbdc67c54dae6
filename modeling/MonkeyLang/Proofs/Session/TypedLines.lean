import MonkeyLang.Proofs.Evaluation.Identity
import MonkeyLang.Proofs.Evaluation.Piecewise
import MonkeyLang.Proofs.Grammar.Exhaustion
import MonkeyLang.Proofs.Grammar.SourceOrder
import MonkeyLang.Proofs.Session.Copies
import MonkeyLang.Proofs.Session.Independence
import MonkeyLang.Proofs.Token.Recovery

namespace MonkeyLang

open Text

/-!
# Lines that are typed

An interactive session is a series of prompts with a response behind each of them but the
last.  A response depends on the line that was typed and on the machine that the earlier lines
left.  A line that is blank or is no program leaves that machine as it was, so it takes part in
no other response.  A line that fails leaves the machine on which it failed, with all that was
bound and printed until then.  The line that ends the session leaves nothing, and what stands
behind it is not even looked at.

Besides, the responses are the answers of a session that evaluates the lines on one
interpreter, one after another and without the blanks at their ends.  No other state is handed
from one line to the next.
-/

/-! ## Diagnostics in one line -/

theorem Reading.result_eq_error_iff {reading : Reading} {diagnostics : List Diagnostic} :
    reading.result = .error diagnostics ↔
      reading.diagnostics = diagnostics ∧ diagnostics ≠ [] := by
  unfold Reading.result
  split
  · next clean =>
      rw [List.isEmpty_iff.mp clean]
      exact iff_of_false (fun absurd => nomatch absurd) fun both => both.2 both.1.symm
  · next faulty =>
      have inhabited : reading.diagnostics ≠ [] := fun nothing =>
        faulty (List.isEmpty_iff.mpr nothing)
      rw [Except.error.injEq]
      exact ⟨fun same => ⟨same, same ▸ inhabited⟩, And.left⟩

theorem notMem_separated {separator : String} {texts : List String} {character : Char}
    (apart : character ∉ separator.toList) (each : ∀ text ∈ texts, character ∉ text.toList) :
    character ∉ (separated separator texts).toList := by
  induction texts with
  | nil => exact List.not_mem_nil
  | cons text later ih =>
      have parts := List.forall_mem_cons.mp each
      cases later with
      | nil => exact parts.1
      | cons next others =>
          exact notMem_append (notMem_append parts.1 apart) (ih parts.2)

/-- The text of a fault has no line feed, as the number that it may show is a lexeme. -/
theorem Fault.notMem_text {fault : Fault} {token : Token} (suits : fault.Suits token)
    (solid : '\n' ∉ token.lexeme.toList) : '\n' ∉ fault.text.toList := by
  cases fault with
  | expected wanted found =>
      exact notMem_append (notMem_append (notMem_append (by decide) wanted.text_solid.2.2)
        (by decide)) found.text_solid.2.2
  | noExpression found =>
      exact notMem_append (notMem_append (by decide) found.text_solid.2.2) (by decide)
  | invalidInteger lexeme =>
      obtain ⟨_, rfl, _⟩ := suits
      exact notMem_append (notMem_append (by decide) solid) (by decide)

/-- The text of a diagnostic is one line. -/
theorem Diagnostic.notMem_text {source : String} {diagnostics : List Diagnostic}
    (refused : parse source = .error diagnostics) :
    ∀ diagnostic ∈ diagnostics, '\n' ∉ diagnostic.text.toList := by
  obtain ⟨rfl, _⟩ := Reading.result_eq_error_iff.mp refused
  intro diagnostic member
  rcases Reading.orderly source with ⟨_, orderly⟩
  have solid := Scanner.notMem_lexeme_of_mem_tokens _
    (Reading.token_mem_tokensOf source diagnostic member)
  have fault := Fault.notMem_text (orderly.suits diagnostic member) solid
  have number (count : Nat) : '\n' ∉ (natural count).toList := by
    rw [natural, String.toList_ofList]
    exact (digits_solid count).2.2.1
  have rules : '\n' ∉ (contextText diagnostic.context).toList := by
    unfold contextText
    split
    · exact List.not_mem_nil
    · have inside : '\n' ∉ (separated " > " (diagnostic.context.map Rule.text)).toList := by
        refine notMem_separated (by decide) fun name listed => ?_
        rcases List.mem_map.mp listed with ⟨rule, _, rfl⟩
        cases rule <;> decide
      exact notMem_append (notMem_append (by decide) inside) (by decide)
  have place := notMem_append (notMem_append (number diagnostic.token.span.line)
    (by decide : '\n' ∉ ":".toList)) (number diagnostic.token.span.column)
  exact notMem_append (notMem_append (notMem_append place (by decide)) fault) rules

/-! ## What a failing statement leaves -/

/-- Machines of which the second has the frames of the first and perhaps more, where names were
bound in the frames that were there and nothing else happened to them. -/
def Machine.OnlyBinds (first second : Machine) : Prop :=
  ∀ (frame : FrameId) (found : Frame), first.frames[frame]? = some found ->
    ∃ series, second.frames[frame]? = some (found.declareAll series)

theorem onlyBinds_preserved : Preserved Machine.OnlyBinds where
  refl _ _ _ there := ⟨[], there⟩
  trans first second frame found there := by
    rcases first frame found there with ⟨series, between⟩
    rcases second frame _ between with ⟨series', behind⟩
    exact ⟨series ++ series', by rw [behind, Frame.declareAll_append]⟩
  declare name value machine frame found there := by
    change ∃ series, (machine.frames.modify machine.scope (·.declare name value))[frame]? = _
    rw [Array.getElem?_modify, there]
    split
    · exact ⟨[(name, value)], rfl⟩
    · exact ⟨[], rfl⟩
  close _ _ _ _ _ there := ⟨[], there⟩
  print value machine frame found there := by
    rw [machineOf_print]
    exact ⟨[], there⟩
  within {newest machine _} inside frame found there := by
    refine inside frame found ?_
    rcases Array.getElem?_eq_some_iff.mp there with ⟨below, _⟩
    exact (Array.getElem?_push ..).trans ((if_neg (Nat.ne_of_lt below)).trans there)
  deeper _ inside := inside

/-- Machines of which the second printed what the first did and perhaps more. -/
def Machine.PrintsOn (first second : Machine) : Prop :=
  first.sink.prints <:+ second.sink.prints

theorem printsOn_preserved : Preserved Machine.PrintsOn where
  refl _ := List.suffix_rfl
  trans first second := first.trans second
  declare _ _ _ := List.suffix_rfl
  close _ _ _ := List.suffix_rfl
  print value machine := by
    rw [machineOf_print, Machine.PrintsOn, Sink.accept]
    dsimp only
    split <;> exact List.suffix_cons _ _
  within inside := inside
  deeper _ inside := inside

/-- What was printed is shown in front of what is printed later. -/
theorem Machine.PrintsOn.exists_text {first second : Machine} (printed : first.PrintsOn second) :
    ∃ later, second.sink.text = first.sink.text ++ later := by
  rcases printed with ⟨since, shape⟩
  refine ⟨String.join (since.reverse.map Print.text), ?_⟩
  rw [Sink.text, ← shape, List.reverse_append, List.map_append, String.join_append]
  rfl

/-! ## Replies and responses -/

/-- What an interactive session shows for the answer to a source. -/
def Answer.shown : Answer -> String
  | .unparsed diagnostics => asLines (diagnostics.map fun diagnostic => "\t" ++ diagnostic.text)
  | .evaluated outcome printed =>
      printed ++ match outcome with
        | .ok none => ""
        | .ok (some last) => last.line
        | .error error => "Error: " ++ error.text ++ "\n"
  | _ => ""

namespace Repl

/-- A line without the blanks at its ends. -/
def trimmed (line : String) : String := String.ofList (trim line.toList)

/-- Whether a line ends a session. -/
def Quits (line : String) : Prop := trimmed line = quitLine

instance (line : String) : Decidable (Quits line) :=
  inferInstanceAs (Decidable (trimmed line = quitLine))

/-- The reply to a line that does not end the session. -/
def reply (machine : Machine) (line : String) : Reply :=
  if trimmed line = "" then ⟨"", [], machine⟩ else respond machine (trimmed line)

/-- What a session writes between one prompt and the next: the replies to lines, up to one that
ends the session. -/
def responses (machine : Machine) : List String -> List String
  | [] => []
  | line :: later =>
      match answer? machine line with
      | none => []
      | some reply => reply.shown :: responses reply.machine later

/-- The machine behind lines of which none ends the session. -/
def machineBehind (machine : Machine) (lines : List String) : Machine :=
  lines.foldl (fun machine line => (reply machine line).machine) machine

/-- The steps of a session that evaluates the lines in front of one that ends it. -/
def steps (lines : List String) : List Step :=
  (lines.takeWhile fun line => ¬ Quits line).map fun line => .evaluate 0 (trimmed line)

/-- A session that writes responses writes each of them behind a prompt, and a prompt at its
end. -/
def prompted (responses : List String) : String :=
  String.join (responses.map (prompt ++ ·)) ++ prompt

variable {machine : Machine} {line : String} {front : List String}

theorem answer?_eq (machine : Machine) (line : String) :
    answer? machine line = if Quits line then none else some (reply machine line) := by
  change (if Quits line then none else if trimmed line = "" then some ⟨"", [], machine⟩
    else some (respond machine (trimmed line))) = _
  split
  · rfl
  · rw [reply]
    split <;> rfl

theorem responses_cons (goesOn : ¬ Quits line) (later : List String) :
    responses machine (line :: later) =
      (reply machine line).shown :: responses (reply machine line).machine later := by
  rw [responses, answer?_eq, if_neg goesOn]

theorem responses_of_quits (quits : Quits line) (later : List String) :
    responses machine (line :: later) = [] := by
  rw [responses, answer?_eq, if_pos quits]

theorem steps_cons (goesOn : ¬ Quits line) (later : List String) :
    steps (line :: later) = .evaluate 0 (trimmed line) :: steps later := by
  rw [steps, List.takeWhile_cons, if_pos (decide_eq_true goesOn), List.map_cons, steps]

theorem steps_of_quits (quits : Quits line) (later : List String) :
    steps (line :: later) = [] := by
  have ends : ¬ decide (¬ Quits line) = true := fun goesOn => of_decide_eq_true goesOn quits
  rw [steps, List.takeWhile_cons, if_neg ends, List.map_nil]

/-- There is one response to each line, and the lines behind are answered on the machine that
these lines leave. -/
theorem responses_append (goOn : ∀ line ∈ front, ¬ Quits line) (machine : Machine)
    (behind : List String) :
    responses machine (front ++ behind) =
        responses machine front ++ responses (machineBehind machine front) behind ∧
      (responses machine front).length = front.length := by
  induction front generalizing machine with
  | nil => exact ⟨rfl, rfl⟩
  | cons line later ih =>
      have parts := List.forall_mem_cons.mp goOn
      rcases ih parts.2 (reply machine line).machine with ⟨append, length⟩
      rw [List.cons_append, responses_cons parts.1, responses_cons parts.1, append]
      exact ⟨rfl, congrArg (· + 1) length⟩

/-- What a session on texts writes. -/
theorem transcript_texts (machine : Machine) (lines : List String) :
    (transcript machine (lines.map some)).shown = prompted (responses machine lines) ∧
      (transcript machine (lines.map some)).broken = false := by
  induction lines generalizing machine with
  | nil => exact ⟨rfl, rfl⟩
  | cons line later ih =>
      rw [List.map_cons, transcript, answer?_eq]
      by_cases quits : Quits line
      · rw [if_pos quits, responses_of_quits quits]
        exact ⟨rfl, rfl⟩
      · rcases ih (reply machine line).machine with ⟨shown, whole⟩
        rw [if_neg quits, responses_cons quits]
        refine ⟨?_, whole⟩
        dsimp only
        rw [shown, prompted, prompted, List.map_cons, String.join_cons, String.append_assoc,
          String.append_assoc, String.append_assoc]

/-- Nothing that stands behind the line that ends a session is looked at. -/
theorem transcript_of_quits (quits : Quits line) (machine : Machine)
    (later : List (Option String)) :
    transcript machine (front.map some ++ some line :: later) =
      transcript machine ((front ++ [line]).map some) := by
  induction front generalizing machine with
  | nil =>
      rw [List.map_nil, List.nil_append, List.nil_append, List.map_singleton, transcript,
        transcript, answer?_eq, if_pos quits]
  | cons first others ih =>
      rw [List.map_cons, List.cons_append, List.cons_append, List.map_cons, transcript, transcript]
      cases answer? machine first with
      | none => rfl
      | some reply =>
          dsimp only
          rw [ih]

/-! ## Blank lines, lines that are no program, and programs -/

theorem reply_of_blank (blank : trimmed line = "") (machine : Machine) :
    reply machine line = ⟨"", [], machine⟩ := if_pos blank

/-- Nothing is a program without statements. -/
theorem parse_empty : parse "" = .ok ⟨[]⟩ := by
  have nothing : (Scanner.ofString "").tokens = [] := Scanner.tokens_of_none rfl
  rw [parse, Reading.ofSource, Reading.ofScanner, nothing, Reading.ofTokens_nil]
  rfl

theorem ne_empty_of_error {diagnostics : List Diagnostic}
    (refused : parse (trimmed line) = .error diagnostics) : trimmed line ≠ "" := by
  intro blank
  rw [blank, parse_empty] at refused
  cases refused

/-- A line that is no program leaves the machine as it was. -/
theorem reply_of_error {diagnostics : List Diagnostic}
    (refused : parse (trimmed line) = .error diagnostics) (machine : Machine) :
    (reply machine line).shown = (Answer.unparsed diagnostics).shown ∧
      (reply machine line).machine = machine := by
  rw [reply, if_neg (ne_empty_of_error refused), respond]
  rw [parse] at refused
  dsimp only
  rw [refused]
  exact ⟨rfl, rfl⟩

/-- A line that is a program runs it, and what it printed is fetched. -/
theorem reply_of_ok_of_ne {program : Program} (accepted : parse (trimmed line) = .ok program)
    (solid : trimmed line ≠ "") (machine : Machine) :
    (reply machine line).shown =
        (Answer.evaluated (program.run machine).1 (program.run machine).2.sink.text).shown ∧
      (reply machine line).machine = fetched (program.run machine).2 := by
  rw [reply, if_neg solid, respond]
  rw [parse] at accepted
  dsimp only
  rw [accepted]
  exact ⟨rfl, rfl⟩

/-- The same for a line that is blank, if there is nothing to fetch. -/
theorem reply_of_ok {program : Program} (accepted : parse (trimmed line) = .ok program)
    (drained : machine.sink.prints = []) :
    (reply machine line).shown =
        (Answer.evaluated (program.run machine).1 (program.run machine).2.sink.text).shown ∧
      (reply machine line).machine = fetched (program.run machine).2 := by
  by_cases blank : trimmed line = ""
  · rw [blank, parse_empty] at accepted
    cases accepted
    rw [reply_of_blank blank]
    change "" = machine.sink.text ++ "" ∧ machine = { machine with sink := machine.sink.drain }
    constructor
    · rw [Sink.text, drained]
      rfl
    · rw [Sink.drain, ← drained]
  · exact reply_of_ok_of_ne accepted blank machine

/-- A line that leaves the machine as it was takes part in no other response. -/
theorem responses_insert (goOn : ∀ line ∈ front, ¬ Quits line) (goesOn : ¬ Quits line)
    (same : ∀ machine, (reply machine line).machine = machine) (machine : Machine)
    (behind : List String) :
    responses machine (front ++ line :: behind) =
      responses machine front ++ (reply (machineBehind machine front) line).shown ::
        responses (machineBehind machine front) behind := by
  rw [(responses_append goOn machine _).1, responses_cons goesOn, same]

/-! ## Lines that fail -/

variable {program : Program} {error : RuntimeError} {after : Machine}

/-- A line that fails shows what the statements in front of the failing one printed, and what
that one printed itself, and then the error.  The machine that is left is the one on which the
line failed. -/
theorem exists_of_failing (goesOn : ¬ Quits line) (accepted : parse (trimmed line) = .ok program)
    (failed : program.run machine = (.error error, after)) (later : List String) :
    after.interpreter = machine.interpreter ∧
      ∃ front behind value between printed,
        program.statements = front ++ error.statement :: behind ∧
        executeAll Callable.nestedCall none front machine = .ok value between ∧
        error.statement.execute between = .error (.failed error.failure) after ∧
        between.OnlyBinds after ∧
        responses machine (line :: later) =
          (between.sink.text ++ printed ++ "Error: " ++ error.text ++ "\n") ::
            responses (fetched after) later := by
  have solid : trimmed line ≠ "" := by
    intro blank
    rw [blank, parse_empty] at accepted
    cases accepted
    cases failed
  have same : (program.run machine).2.interpreter = machine.interpreter :=
    machine.interpreter.interpreter_run program machine.toStore
  have shown := reply_of_ok_of_ne accepted solid machine
  rw [failed] at same shown
  -- the failing statement may have printed and bound names before it failed, as in a block
  rcases runStatements_eq_error_iff.mp failed with
    ⟨front, behind, value, between, parts, made, fails⟩
  have binds := Statement.execute_inherits onlyBinds_preserved.inherited error.statement between
  have prints := Statement.execute_inherits printsOn_preserved.inherited error.statement between
  rw [fails, machineOf_error] at binds prints
  rcases Machine.PrintsOn.exists_text prints with ⟨printed, text⟩
  refine ⟨same, front, behind, value, between, printed, parts, made, fails, binds, ?_⟩
  rw [responses_cons goesOn, shown.1, shown.2, Answer.shown]
  change (after.sink.text ++ ("Error: " ++ error.text ++ "\n")) :: _ = _
  rw [text]
  simp only [String.append_assoc]

end Repl

/-! ## The session behind the responses -/

namespace Session

open Repl

/-- A session whose first interpreter is that of a machine, on the same store, where all that
was printed has been fetched. -/
structure StandsAt (session : Session) (machine : Machine) : Prop where
  listed : session.interpreters[0]? = some machine.interpreter
  store : session.store = machine.toStore
  prints : machine.sink.prints = []

theorem standsAt_start (room : Option Nat) : (start room).StandsAt (Machine.fresh room) :=
  ⟨rfl, rfl, rfl⟩

variable {session : Session} {machine : Machine}

/-- A session answers the source of a line as the line is answered. -/
theorem StandsAt.take (standsAt : session.StandsAt machine) (line : String) :
    (session.take (.evaluate 0 (trimmed line))).1.shown = (reply machine line).shown ∧
      (session.take (.evaluate 0 (trimmed line))).2.StandsAt (reply machine line).machine := by
  cases accepted : parse (trimmed line) with
  | error diagnostics =>
      rcases reply_of_error accepted machine with ⟨shown, same⟩
      rw [take_evaluate_of_error accepted, shown, same]
      exact ⟨rfl, standsAt.listed, standsAt.store, standsAt.prints⟩
  | ok program =>
      have here : machine.interpreter.machine session.store = machine := by
        rw [standsAt.store]
        rfl
      have same := machine.interpreter.interpreter_run program session.store
      rcases take_evaluate_of_ok accepted standsAt.listed with ⟨values, taken⟩
      rcases reply_of_ok accepted standsAt.prints with ⟨shown, behind⟩
      rw [here] at same
      rw [taken, Interpreter.storeBehind, here, shown, behind]
      exact ⟨rfl, standsAt.listed.trans (congrArg some same.symm), rfl, rfl⟩

/-- The responses to lines are what is shown for the answers to their sources. -/
theorem StandsAt.responses_eq (standsAt : session.StandsAt machine) (lines : List String) :
    responses machine lines = (session.answers (steps lines)).map Answer.shown := by
  induction lines generalizing session machine with
  | nil => rfl
  | cons line later ih =>
      by_cases quits : Quits line
      · rw [responses_of_quits quits, steps_of_quits quits]
        rfl
      · rcases standsAt.take line with ⟨shown, behind⟩
        rw [responses_cons quits, steps_cons quits, answers, List.map_cons, ← shown, ih behind]

end Session

/-! ## Whole sessions -/

namespace Command

open Repl

/-- Where the input is a text, a session writes a response to each line, and its exit code is
zero. -/
theorem report_repl {input : ByteArray} {lines : List String}
    (cut : (splitLines input.data.toList).map (fun line => textOf ⟨line.toArray⟩) =
      lines.map some) (traced : Bool) :
    (repl.report traced (.ok input)).output =
        greeting ++ prompted (responses (Machine.fresh none) lines) ∧
      (repl.report traced (.ok input)).exitCode = 0 := by
  rcases transcript_texts (Machine.fresh none) lines with ⟨shown, whole⟩
  rw [report, reportAndLog, cut, converse, ← shown]
  dsimp only
  rw [whole]
  cases traced <;> exact ⟨rfl, rfl⟩

/-- An input that goes on behind the line that ends a session is as good as one that does not. -/
theorem report_repl_of_quits {before : List String} {line : String} (quits : Quits line)
    (solid : ∀ other ∈ before ++ [line], '\n' ∉ other.toList) (behind : List UInt8)
    (traced : Bool) :
    repl.report traced (.ok ⟨(bytes (asLines (before ++ [line])) ++ behind).toArray⟩) =
      repl.report traced (.ok ⟨(bytes (asLines (before ++ [line]))).toArray⟩) := by
  have cut (behind : List UInt8) :
      (splitLines (bytes (asLines (before ++ [line])) ++ behind)).map
          (fun line => textOf ⟨line.toArray⟩) =
        before.map some ++ some line ::
          (splitLines behind).map fun line => textOf ⟨line.toArray⟩ := by
    rw [splitLines_asLines_append solid, List.map_append, map_textOf_bytes, List.map_append,
      List.append_assoc]
    rfl
  have ended (behind : List UInt8) :
      reportAndLog ⟨(bytes (asLines (before ++ [line])) ++ behind).toArray⟩ .repl =
        converse ((before ++ [line]).map some) := by
    rw [reportAndLog, List.toList_toArray, cut, converse, transcript_of_quits quits, converse]
  have alone := ended []
  rw [List.append_nil] at alone
  rw [report, ended, report, alone]

/-- The input of a text is cut into the lines of the text. -/
theorem splitLines_textOf {input : ByteArray} {source : String}
    (text : textOf input = some source) :
    (splitLines input.data.toList).map (fun line => textOf ⟨line.toArray⟩) =
      (linesOf source).map some := by
  rw [textOf_eq_some_iff.mp text]
  change (splitLines (bytes source)).map _ = _
  rw [splitLines_bytes, map_textOf_bytes]

end Command

namespace Repl

/-- A complete line that is blank or no program is put between other lines. -/
theorem responses_inserted {before : List String} {inserted : String}
    (solid : ∀ line ∈ before ++ [inserted], '\n' ∉ line.toList)
    (goOn : ∀ line ∈ before, ¬ Quits line) (machine : Machine) (behind : String) :
    ∃ early late, early.length = before.length ∧
      responses machine (linesOf (asLines before ++ behind)) = early ++ late ∧
      (trimmed inserted = "" ->
        responses machine (linesOf (asLines (before ++ [inserted]) ++ behind)) =
          early ++ "" :: late) ∧
      ∀ diagnostics, ¬ Quits inserted -> parse (trimmed inserted) = .error diagnostics ->
        responses machine (linesOf (asLines (before ++ [inserted]) ++ behind)) =
          early ++ asLines (diagnostics.map fun found => "\t" ++ found.text) :: late := by
  have split := linesOf_asLines_append (fun line member =>
    solid line (List.mem_append_left _ member)) behind
  have longer := linesOf_asLines_append solid behind
  rw [List.append_assoc, List.singleton_append] at longer
  rcases responses_append goOn machine (linesOf behind) with ⟨parts, length⟩
  refine ⟨_, _, length, split ▸ parts, ?_, ?_⟩
  · intro blank
    have goesOn : ¬ Quits inserted := by
      rw [Quits, blank]
      decide
    have same (machine : Machine) : (reply machine inserted).machine = machine := by
      rw [reply_of_blank blank]
    rw [longer, responses_insert goOn goesOn same, reply_of_blank blank]
  · intro diagnostics goesOn refused
    have same (machine : Machine) := (reply_of_error refused machine).2
    rw [longer, responses_insert goOn goesOn same, (reply_of_error refused _).1]
    rfl

end Repl

/-- Bad lines leave no trace in an interactive session.

Where the input is a text, the session writes its greeting and then, behind a prompt each, the
responses to the lines, and its exit code is zero.  The responses are those of a session that
evaluates the lines, without the blanks at their ends, one after another on one interpreter.

Where a complete line that is blank or no program is put behind lines of which none ends the
session, the responses to all other lines are the same, before it and behind it.  Its own
response is empty, or a line for each diagnostic, of which there are some.

A line that fails during a statement shows what was printed until then, and the error.  The
lines behind it are answered on the machine on which it failed.  The statements in front of
the failing one were executed to their ends, of which all is kept, except that the failing one
may have bound names anew; the interpreter is the same as before.

Behind a line that ends the session the input makes no difference, whatever its bytes are. -/
theorem bad_lines_leave_no_trace :
    (∀ (traced : Bool) {input : ByteArray} {source : String},
      Command.textOf input = some source ->
      (Command.repl.report traced (.ok input)).output =
          Repl.greeting ++ Repl.prompted (Repl.responses (Machine.fresh none) (linesOf source)) ∧
        (Command.repl.report traced (.ok input)).exitCode = 0) ∧
    (∀ lines : List String, Repl.responses (Machine.fresh none) lines =
      ((Session.start none).answers (Repl.steps lines)).map Answer.shown) ∧
    (∀ (machine : Machine) (before : List String) (inserted behind : String),
      (∀ line ∈ before ++ [inserted], '\n' ∉ line.toList) ->
      (∀ line ∈ before, ¬ Repl.Quits line) ->
      ∃ early late, early.length = before.length ∧
        Repl.responses machine (linesOf (asLines before ++ behind)) = early ++ late ∧
        (Repl.trimmed inserted = "" ->
          Repl.responses machine (linesOf (asLines (before ++ [inserted]) ++ behind)) =
            early ++ "" :: late) ∧
        ∀ diagnostics, ¬ Repl.Quits inserted ->
          parse (Repl.trimmed inserted) = .error diagnostics ->
          Repl.responses machine (linesOf (asLines (before ++ [inserted]) ++ behind)) =
            early ++ asLines (diagnostics.map fun found => "\t" ++ found.text) :: late) ∧
    (∀ (source : String) (diagnostics : List Diagnostic), parse source = .error diagnostics ->
      diagnostics ≠ [] ∧ ∀ found ∈ diagnostics, '\n' ∉ found.text.toList) ∧
    (∀ (machine after : Machine) (line : String) (later : List String) (program : Program)
      (error : RuntimeError), ¬ Repl.Quits line ->
      parse (Repl.trimmed line) = .ok program -> program.run machine = (.error error, after) ->
      after.interpreter = machine.interpreter ∧
        ∃ front behind value between printed,
          program.statements = front ++ error.statement :: behind ∧
          executeAll Callable.nestedCall none front machine = .ok value between ∧
          error.statement.execute between = .error (.failed error.failure) after ∧
          between.OnlyBinds after ∧
          Repl.responses machine (line :: later) =
            (between.sink.text ++ printed ++ "Error: " ++ error.text ++ "\n") ::
              Repl.responses (Repl.fetched after) later) ∧
    ∀ (traced : Bool) (before : List String) (line : String) (behind : List UInt8),
      Repl.Quits line -> (∀ other ∈ before ++ [line], '\n' ∉ other.toList) ->
      Command.repl.report traced
          (.ok ⟨(bytes (asLines (before ++ [line])) ++ behind).toArray⟩) =
        Command.repl.report traced (.ok ⟨(bytes (asLines (before ++ [line]))).toArray⟩) ∧
      (Command.repl.report traced
        (.ok ⟨(bytes (asLines (before ++ [line])) ++ behind).toArray⟩)).exitCode = 0 := by
  refine ⟨?_, ?_, ?_, ?_, ?_, ?_⟩
  · intro traced input source text
    exact Command.report_repl (Command.splitLines_textOf text) traced
  · exact (Session.standsAt_start none).responses_eq
  · intro machine before inserted behind solid goOn
    exact Repl.responses_inserted solid goOn machine behind
  · intro source diagnostics refused
    exact ⟨(Reading.result_eq_error_iff.mp refused).2, Diagnostic.notMem_text refused⟩
  · intro machine after line later program error goesOn accepted failed
    exact Repl.exists_of_failing goesOn accepted failed later
  · intro traced before line behind quits solid
    have same := Command.report_repl_of_quits quits solid behind traced
    have alone := textOf_bytes (asLines (before ++ [line]))
    exact ⟨same, same ▸ (Command.report_repl (Command.splitLines_textOf alone) traced).2⟩

/-- A blank line and one that is no program, put between a binding and the use of its name; a
line that prints and fails; and a line that ends a session in front of a byte that is in no
text. -/
theorem bad_lines_leave_no_trace_of_mistakes :
    (Command.repl.report true (.ok ⟨(bytes "let a = 5;\na").toArray⟩)).exitCode = 0 ∧
    (∃ early late diagnostics, parse ")" = .error diagnostics ∧ diagnostics ≠ [] ∧
      Repl.responses (Machine.fresh none) (linesOf (asLines ["let a = 5;"] ++ "a")) =
        early ++ late ∧
      Repl.responses (Machine.fresh none) (linesOf (asLines ["let a = 5;", ")"] ++ "a")) =
        early ++ asLines (diagnostics.map fun found => "\t" ++ found.text) :: late) ∧
    (∃ early late,
      Repl.responses (Machine.fresh none) (linesOf (asLines ["let a = 5;"] ++ "a")) =
        early ++ late ∧
      Repl.responses (Machine.fresh none) (linesOf (asLines ["let a = 5;", " "] ++ "a")) =
        early ++ "" :: late) ∧
    (∃ (error : RuntimeError) (after between : Machine) (printed : String),
      error.text = "identifier not found: a (in `a`)" ∧ between.OnlyBinds after ∧
      Repl.responses (Machine.fresh none) ["puts(5); a", "6"] =
        (between.sink.text ++ printed ++ "Error: " ++ error.text ++ "\n") ::
          Repl.responses (Repl.fetched after) ["6"]) ∧
    Command.repl.report true (.ok ⟨(bytes (asLines ["5", " \\q"]) ++ [255]).toArray⟩) =
      Command.repl.report true (.ok ⟨(bytes (asLines ["5", " \\q"])).toArray⟩) := by
  rcases bad_lines_leave_no_trace with ⟨whole, -, inserted, faulty, failing, ended⟩
  refine ⟨(whole true (textOf_bytes _)).2, ?_, ?_, ?_, (ended true ["5"] _ [255] ?_ ?_).1⟩
  · have refused : parse ")" = .error (Reading.ofSource ")").diagnostics :=
      Reading.result_eq_error_iff.mpr ⟨rfl, by decide +kernel⟩
    rcases inserted (Machine.fresh none) ["let a = 5;"] ")" "a" (by decide) (by decide) with
      ⟨early, late, -, without, -, within⟩
    exact ⟨early, late, _, refused, (faulty _ _ refused).1, without, within _ (by decide) refused⟩
  · rcases inserted (Machine.fresh none) ["let a = 5;"] " " "a" (by decide) (by decide) with
      ⟨early, late, -, without, within, -⟩
    exact ⟨early, late, without, within (by decide)⟩
  · have accepted : parse "puts(5); a" = .ok (programOf "puts(5); a") :=
      (Reading.result_eq_ok_iff _ _).mpr
        ⟨(Trace.diagnostics_eq_nil_iff [] _).mp (by decide +kernel), rfl⟩
    have fails : observe ((programOf "puts(5); a").run (Machine.fresh none)).1 =
        .error .unknownIdentifier "identifier not found: a"
          "identifier not found: a (in `a`)" := by
      decide +kernel
    rcases ran : (programOf "puts(5); a").run (Machine.fresh none) with ⟨outcome, after⟩
    rw [ran] at fails
    cases outcome with
    | ok value => cases value <;> cases fails
    | error error =>
        rcases failing (Machine.fresh none) after "puts(5); a" ["6"] _ error (by decide) accepted
          ran with ⟨-, _, _, _, between, printed, -, -, -, binds, answered⟩
        injection fails with _ _ message
        exact ⟨error, after, between, printed, message, binds, answered⟩
  · decide
  · decide

end MonkeyLang
