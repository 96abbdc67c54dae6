import MonkeyLang.Proofs.Evaluation.Keeping
import MonkeyLang.Proofs.Evaluation.Renumbering
import MonkeyLang.Session.Course

namespace MonkeyLang

/-!
# Interpreters over one store

Interpreters that a session makes share the store and the sink, but nothing that
one of them does is seen by another, as long as the host hands no value from one to
another.  Each has a global frame of its own, and the frames that its programs make
lie within that frame.  The steps of the others only shift the numbers that are
given out next.

A session is therefore compared with one that takes the steps of a single
interpreter alone.  The machines of this interpreter in the two sessions are kept in
step under a renumbering in which no frame of another interpreter occurs.
-/

namespace Step

/-- Whether a step runs a source on an interpreter. -/
def isOn (index : Nat) : Step -> Bool
  | .evaluate other _ => decide (other = index)
  | _ => false

/-- A step on an interpreter as it is in a session with no other interpreter. -/
def alone : Step -> Step
  | .evaluate _ source => .evaluate 0 source
  | step => step

end Step

/-- Steps that make interpreters and run sources on interpreters that were made
before them, where there are so many interpreters at first. -/
inductive Schedule : Nat -> List Step -> Prop
  | nil {count} : Schedule count []
  | new {count later} : Schedule (count + 1) later -> Schedule count (.new :: later)
  | evaluate {count index source later} : index < count -> Schedule count later ->
      Schedule count (.evaluate index source :: later)

/-- Answers to the evaluation of a source that show the same: the same diagnostics,
or the same of the report and the same printed text. -/
inductive Answer.ShowSame : Answer -> Answer -> Prop
  | unparsed (diagnostics : List Diagnostic) :
      Answer.ShowSame (.unparsed diagnostics) (.unparsed diagnostics)
  | evaluated {report report' : Except RuntimeError (Option Value)} (printed : String) :
      observe report = observe report' ->
      Answer.ShowSame (.evaluated report printed) (.evaluated report' printed)

/-- The store behind the run of a program, when what was printed has been fetched. -/
def Interpreter.storeBehind (interpreter : Interpreter) (program : Program) (store : Store) :
    Store :=
  let after := (program.run (interpreter.machine store)).2
  { after.toStore with sink := after.sink.drain }

theorem Interpreter.advances_run (interpreter : Interpreter) (program : Program) (store : Store) :
    Advances (interpreter.machine store) (program.run (interpreter.machine store)).2 :=
  runStatements_keeps advances_preserved none program.statements _

namespace Session

variable {session : Session}

/-- The answers to those of a series of steps that run sources on an interpreter. -/
def answersOn (session : Session) (index : Nat) (steps : List Step) : List Answer :=
  ((steps.zip (session.answers steps)).filter (·.1.isOn index)).map (·.2)

theorem answersOn_cons_of_on {index : Nat} {step : Step} (on : step.isOn index = true)
    (later : List Step) :
    session.answersOn index (step :: later) =
      (session.take step).1 :: (session.take step).2.answersOn index later := by
  simp only [answersOn, answers, List.zip_cons_cons, List.filter_cons, on, if_true, List.map_cons]

theorem answersOn_cons_of_off {index : Nat} {step : Step} (off : step.isOn index = false)
    (later : List Step) :
    session.answersOn index (step :: later) = (session.take step).2.answersOn index later := by
  simp only [answersOn, answers, List.zip_cons_cons, List.filter_cons, off, Bool.false_eq_true,
    if_false]

/-! ## Single steps -/

theorem take_evaluate_of_error {index : Nat} {source : String} {diagnostics : List Diagnostic}
    (refused : parse source = .error diagnostics) :
    session.take (.evaluate index source) =
      (.unparsed diagnostics, { session with values := session.values ++ [none] }) := by
  rw [take, answer, refused]
  rfl

/-- A source that is read is run, and the interpreter is the same behind it. -/
theorem take_evaluate_of_ok {index : Nat} {source : String} {program : Program}
    {interpreter : Interpreter} (accepted : parse source = .ok program)
    (there : session.interpreters[index]? = some interpreter) :
    ∃ values, session.take (.evaluate index source) =
      (.evaluated (program.run (interpreter.machine session.store)).1
          (program.run (interpreter.machine session.store)).2.sink.text,
        { session with
          store := interpreter.storeBehind program session.store
          values := values }) := by
  have same := (interpreter.advances_run program session.store).interpreter_eq
  have unchanged : session.interpreters.set index interpreter = session.interpreters := by
    rcases List.getElem?_eq_some_iff.mp there with ⟨within, rfl⟩
    exact List.set_getElem_self within
  have found : session.interpreter index = .ok interpreter := by
    rw [Session.interpreter, there]
  refine ⟨session.values ++ [(Answer.evaluated (program.run (interpreter.machine session.store)).1
    (program.run (interpreter.machine session.store)).2.sink.text).value?], ?_⟩
  rw [take, answer, accepted]
  simp only [found, bind, Except.bind, evaluate, resume, same, unchanged]
  rfl

end Session

/-! ## What a step leaves as it was -/

namespace Interpreter

variable {interpreter : Interpreter} {store : Store}

/-- A program changes no frame that was there but the global one of its interpreter. -/
theorem extends_storeBehind (program : Program) :
    store.Extends (interpreter.storeBehind program store)
      (fun frame => frame < store.frames.size ∧ frame ≠ interpreter.scope) where
  frames := (interpreter.advances_run program store).frames
  identities := (interpreter.advances_run program store).identities
  kept here := (interpreter.advances_run program store).kept _ here.1 here.2

theorem sink_storeBehind (program : Program) (drained : store.sink = {}) :
    (interpreter.storeBehind program store).sink = {} := by
  have unlimited := (interpreter.advances_run program store).unlimited
    (congrArg Sink.room drained)
  rw [storeBehind, Sink.drain, unlimited]

end Interpreter

/-- Machines go on being in step while other frames are made in one of the stores and
frames that are not paired change in it. -/
theorem MachinesInStep.elsewhere {renumbering : Renumbering} {own only : Interpreter}
    {store later alone : Store}
    (inStep : MachinesInStep [] [] renumbering (own.machine store) (only.machine alone))
    (extended : store.Extends later fun frame => ∃ frame', renumbering.frames.pairs frame frame')
    (sink : later.sink = store.sink) :
    ∃ wider : Renumbering, wider.frames.pairs = renumbering.frames.pairs ∧
      MachinesInStep [] [] wider (own.machine later) (only.machine alone) := by
  have sinks : SinksAgree [] [] later.sink alone.sink := sink ▸ inStep.sinks
  rcases inStep.toStoresAgree.widen extended ⟨Nat.le_refl _, Nat.le_refl _, fun _ => rfl⟩ sinks with
    ⟨wider, frames, _, stores⟩
  have scope : wider.frames.pairs own.scope only.scope := frames ▸ inStep.scope
  exact ⟨wider, frames, { stores with scope := scope, depth := inStep.depth }⟩

/-! ## Sessions in step -/

namespace Session

/-- A session without a limit on its sink, whose interpreters bind names in frames
that are there, and from which everything that was printed has been fetched. -/
structure Ready (session : Session) : Prop where
  sink : session.store.sink = {}
  there : ∀ interpreter ∈ session.interpreters, interpreter.scope < session.store.frames.size

/-- An interpreter of a session is in step with the first one of another session, and
no global frame of any other interpreter has a counterpart. -/
structure InStepOn (index : Nat) (renumbering : Renumbering) (own only : Interpreter)
    (session alone : Session) : Prop where
  ready : session.Ready
  listed : session.interpreters[index]? = some own
  listed' : alone.interpreters[0]? = some only
  machines : MachinesInStep [] [] renumbering (own.machine session.store)
    (only.machine alone.store)
  apart : ∀ {other : Nat} {interpreter : Interpreter} {frame' : FrameId},
    session.interpreters[other]? = some interpreter -> other ≠ index ->
    ¬ renumbering.frames.pairs interpreter.scope frame'

variable {session alone : Session} {index : Nat}

theorem interpreter_of_new {interpreter : Interpreter}
    (listed : (session.take .new).2.interpreters[index]? = some interpreter) :
    session.interpreters[index]? = some interpreter ∨
      (index = session.interpreters.length ∧ interpreter = (Interpreter.new session.store).1) := by
  change (session.interpreters ++ [(Interpreter.new session.store).1])[index]? = _ at listed
  rcases Nat.lt_or_ge index session.interpreters.length with early | late
  · rw [List.getElem?_append_left early] at listed
    exact .inl listed
  · rw [List.getElem?_append_right late] at listed
    have within := (List.getElem?_eq_some_iff.mp listed).1
    exact .inr ⟨by rw [List.length_singleton] at within; omega,
      List.mem_singleton.mp (List.mem_of_getElem? listed)⟩

theorem Ready.new (ready : session.Ready) : (session.take .new).2.Ready where
  sink := ready.sink
  there interpreter member := by
    have grown : (Interpreter.new session.store).2.frames.size = session.store.frames.size + 1 :=
      Array.size_push ..
    change interpreter.scope < (Interpreter.new session.store).2.frames.size
    rw [grown]
    rcases List.mem_append.mp member with earlier | newest
    · exact Nat.lt_succ_of_lt (ready.there interpreter earlier)
    · rw [List.mem_singleton.mp newest]
      exact Nat.lt_succ_self _

theorem Ready.behind (ready : session.Ready) (interpreter : Interpreter) (program : Program)
    (values : List (Option Value)) :
    Ready { session with
      store := interpreter.storeBehind program session.store
      values := values } where
  sink := Interpreter.sink_storeBehind program ready.sink
  there other member := Nat.lt_of_lt_of_le (ready.there other member)
    (Interpreter.extends_storeBehind program).frames

theorem Ready.evaluate (ready : session.Ready) {source : String}
    (within : index < session.interpreters.length) :
    (session.take (.evaluate index source)).2.Ready := by
  cases accepted : parse source with
  | error diagnostics =>
      rw [take_evaluate_of_error accepted]
      exact ⟨ready.sink, ready.there⟩
  | ok program =>
      rcases take_evaluate_of_ok accepted (List.getElem?_eq_getElem within) with ⟨values, taken⟩
      rw [taken]
      exact ready.behind _ program values

/-- A new interpreter is in step with the one that a session starts with. -/
theorem Ready.inStepOn_new (ready : session.Ready) :
    ∃ renumbering own only, InStepOn session.interpreters.length renumbering own only
      (session.take .new).2 (start none) := by
  have room : session.store.sink.room = none := congrArg Sink.room ready.sink
  have prints : session.store.sink.prints = [] := congrArg Sink.prints ready.sink
  have machines := MachinesInStep.new (.empty session.store { sink := { room := none } } room)
  rw [prints] at machines
  refine ⟨_, (Interpreter.new session.store).1, (Interpreter.new { sink := { room := none } }).1,
    { ready := ready.new
      listed := List.getElem?_concat_length
      listed' := rfl
      machines := machines
      apart := ?_ }⟩
  intro other interpreter frame' listed different pair
  rcases interpreter_of_new listed with earlier | ⟨newest, _⟩
  · have below := ready.there interpreter (List.mem_of_getElem? earlier)
    rcases Pairing.pairs_or_le_of_grow pair with absurd | beyond
    · exact absurd
    · exact Nat.lt_irrefl _ (Nat.lt_of_lt_of_le below beyond.1)
  · exact different newest

variable {renumbering : Renumbering} {own only : Interpreter}

/-- What is paired is there. -/
theorem InStepOn.there (inStep : InStepOn index renumbering own only session alone)
    {frame frame' : FrameId} (pair : renumbering.frames.pairs frame frame') :
    frame < session.store.frames.size :=
  Nat.lt_of_lt_of_eq (renumbering.frames.below pair).1 inStep.machines.made

/-- Another interpreter is made. -/
theorem InStepOn.new (inStep : InStepOn index renumbering own only session alone) :
    ∃ wider, InStepOn index wider own only (session.take .new).2 alone := by
  have extended : session.store.Extends (Interpreter.new session.store).2
      fun frame => ∃ frame', renumbering.frames.pairs frame frame' :=
    { Interpreter.extends_new session.store with
      kept := fun ⟨_, pair⟩ =>
        (Interpreter.extends_new session.store).kept (inStep.there pair) }
  rcases inStep.machines.elsewhere extended rfl with ⟨wider, frames, machines⟩
  have within := (List.getElem?_eq_some_iff.mp inStep.listed).1
  refine ⟨wider,
    { ready := inStep.ready.new
      listed := (List.getElem?_append_left within).trans inStep.listed
      listed' := inStep.listed'
      machines := machines
      apart := ?_ }⟩
  intro other interpreter frame' listed different
  rw [frames]
  rcases interpreter_of_new listed with earlier | ⟨_, rfl⟩
  · exact inStep.apart earlier different
  · exact fun pair => Nat.lt_irrefl _ (inStep.there pair)

/-- Another interpreter runs a source. -/
theorem InStepOn.evaluate_other (inStep : InStepOn index renumbering own only session alone)
    {other : Nat} (within : other < session.interpreters.length) (different : other ≠ index)
    (source : String) :
    ∃ wider, InStepOn index wider own only (session.take (.evaluate other source)).2 alone := by
  cases accepted : parse source with
  | error diagnostics =>
      rw [take_evaluate_of_error accepted]
      exact ⟨renumbering, { inStep with ready := ⟨inStep.ready.sink, inStep.ready.there⟩ }⟩
  | ok program =>
      have listed := List.getElem?_eq_getElem within
      rcases take_evaluate_of_ok accepted listed with ⟨values, taken⟩
      have behind := inStep.ready.behind session.interpreters[other] program values
      have extended : session.store.Extends
          (session.interpreters[other].storeBehind program session.store)
          fun frame => ∃ frame', renumbering.frames.pairs frame frame' :=
        { Interpreter.extends_storeBehind program with
          kept := fun ⟨_, pair⟩ => (Interpreter.extends_storeBehind program).kept
            ⟨inStep.there pair, fun same => inStep.apart listed different (same ▸ pair)⟩ }
      rcases inStep.machines.elsewhere extended (behind.sink.trans inStep.ready.sink.symm) with
        ⟨wider, frames, machines⟩
      rw [taken]
      exact ⟨wider,
        { ready := behind
          listed := inStep.listed
          listed' := inStep.listed'
          machines := machines
          apart := fun listed different => frames ▸ inStep.apart listed different }⟩

/-- Both sessions run a source on the interpreters that are in step. -/
theorem InStepOn.evaluate_own (inStep : InStepOn index renumbering own only session alone)
    (source : String) :
    Answer.ShowSame (session.take (.evaluate index source)).1
        (alone.take (.evaluate 0 source)).1 ∧
      ∃ later, InStepOn index later own only (session.take (.evaluate index source)).2
        (alone.take (.evaluate 0 source)).2 := by
  cases accepted : parse source with
  | error diagnostics =>
      rw [take_evaluate_of_error accepted, take_evaluate_of_error accepted]
      exact ⟨.unparsed diagnostics, renumbering,
        { inStep with ready := ⟨inStep.ready.sink, inStep.ready.there⟩ }⟩
  | ok program =>
      rcases take_evaluate_of_ok accepted inStep.listed with ⟨values, taken⟩
      rcases take_evaluate_of_ok accepted inStep.listed' with ⟨values', taken'⟩
      rcases runStatements_agree (statementsResemble_self program.statements) inStep.machines with
        ⟨made, given, reports, machines⟩
      rw [taken, taken', show (program.run (own.machine session.store)).2.sink.text = _ from
        machines.sinks.text_eq]
      have sinks : SinksAgree [] [] (own.storeBehind program session.store).sink
          (only.storeBehind program alone.store).sink := machines.sinks.drain
      have scope : (renumbering.grow made given).frames.pairs own.scope only.scope :=
        Pairing.pairs_grow made inStep.machines.scope
      refine ⟨.evaluated _ (Correspondence.Reports.observe_eq rfl reports),
        renumbering.grow made given,
        { ready := inStep.ready.behind own program values
          listed := inStep.listed
          listed' := inStep.listed'
          machines :=
            { machines.toStoresAgree.withSinks sinks with
              scope := scope
              depth := inStep.machines.depth }
          apart := ?_ }⟩
      intro other interpreter frame' listed different pair
      rcases Pairing.pairs_or_le_of_grow pair with old | beyond
      · exact inStep.apart listed different old
      · have below := inStep.ready.there interpreter (List.mem_of_getElem? listed)
        rw [inStep.machines.made] at beyond
        exact Nat.lt_irrefl _ (Nat.lt_of_lt_of_le below beyond.1)

/-! ## Whole schedules -/

theorem length_take_new :
    (session.take .new).2.interpreters.length = session.interpreters.length + 1 :=
  List.length_append

theorem length_take_evaluate (within : index < session.interpreters.length) (source : String) :
    (session.take (.evaluate index source)).2.interpreters.length =
      session.interpreters.length := by
  cases accepted : parse source with
  | error diagnostics => rw [take_evaluate_of_error accepted]
  | ok program =>
      rcases take_evaluate_of_ok accepted (List.getElem?_eq_getElem within) with ⟨values, taken⟩
      rw [taken]

/-- An interpreter that is in step with one that is alone answers as that one does. -/
theorem InStepOn.answersOn {count : Nat} {steps : List Step} (schedule : Schedule count steps)
    (inStep : InStepOn index renumbering own only session alone)
    (length : session.interpreters.length = count) :
    List.Forall₂ Answer.ShowSame (session.answersOn index steps)
      (alone.answers ((steps.filter (·.isOn index)).map Step.alone)) := by
  induction schedule generalizing session alone renumbering with
  | nil => exact .nil
  | new _ ih =>
      rcases inStep.new with ⟨_, later⟩
      rw [answersOn_cons_of_off rfl]
      exact ih later (length ▸ length_take_new)
  | @evaluate count other source later within _ ih =>
      rw [← length] at within
      have length' := (length_take_evaluate within source).trans length
      by_cases same : other = index
      · have on : (Step.evaluate other source).isOn index = true := decide_eq_true same
        rw [answersOn_cons_of_on on, List.filter_cons_of_pos on]
        subst same
        rcases inStep.evaluate_own source with ⟨first, _, behind⟩
        exact .cons first (ih behind length')
      · have off : (Step.evaluate other source).isOn index = false := decide_eq_false same
        rcases inStep.evaluate_other within same source with ⟨_, behind⟩
        rw [answersOn_cons_of_off off, List.filter_cons_of_neg (ne_true_of_eq_false off)]
        exact ih behind length'

/-- Before an interpreter is made nothing is asked of it, and from then on it is in
step with one that is alone. -/
theorem Ready.answersOn {count : Nat} {steps : List Step} (schedule : Schedule count steps)
    (ready : session.Ready) (length : session.interpreters.length = count)
    (later : count ≤ index) :
    List.Forall₂ Answer.ShowSame (session.answersOn index steps)
      ((start none).answers ((steps.filter (·.isOn index)).map Step.alone)) := by
  induction schedule generalizing session with
  | nil => exact .nil
  | @new count _ schedule ih =>
      rw [answersOn_cons_of_off rfl]
      have length' : (session.take .new).2.interpreters.length = count + 1 :=
        length ▸ length_take_new
      rcases Nat.eq_or_lt_of_le later with rfl | beyond
      · rcases ready.inStepOn_new with ⟨_, _, _, inStep⟩
        exact (length ▸ inStep).answersOn schedule length'
      · exact ih ready.new length' beyond
  | @evaluate count other source _ within _ ih =>
      have off : (Step.evaluate other source).isOn index = false :=
        decide_eq_false (Nat.ne_of_lt (Nat.lt_of_lt_of_le within later))
      rw [← length] at within
      rw [answersOn_cons_of_off off, List.filter_cons_of_neg (ne_true_of_eq_false off)]
      exact ih (ready.evaluate within) ((length_take_evaluate within source).trans length) later

/-- The session before its first interpreter was made. -/
theorem ready_empty : Ready ⟨{ sink := { room := none } }, [], []⟩ where
  sink := rfl
  there _ member := nomatch member

end Session

/-- Interpreters that share a store and a sink without a limit do not interfere.  In
a session that starts with one interpreter, more are made at any time, and sources
are run on them in any order.  The answers of each interpreter show what the answers
of a session show in which its sources alone are run in the same order: the same
diagnostics; or the same kind and text of the value, or kind, text and message of
the error, and the same printed text. -/
theorem evaluations_are_independent {steps : List Step} (schedule : Schedule 1 steps)
    (index : Nat) :
    List.Forall₂ Answer.ShowSame ((Session.start none).answersOn index steps)
      ((Session.start none).answers ((steps.filter (·.isOn index)).map Step.alone)) := by
  cases index with
  | zero =>
      rcases Session.ready_empty.inStepOn_new with ⟨renumbering, own, only, made⟩
      have inStep : Session.InStepOn 0 renumbering own only (.start none) (.start none) :=
        ⟨⟨made.ready.sink, made.ready.there⟩, made.listed, made.listed', made.machines,
          made.apart⟩
      exact inStep.answersOn schedule rfl
  | succ index =>
      have ready : (Session.start none).Ready :=
        ⟨Session.ready_empty.new.sink, Session.ready_empty.new.there⟩
      exact ready.answersOn schedule rfl (Nat.succ_le_succ (Nat.zero_le index))

/-- Two interpreters bind the same name, and the first one prints and fails between
two steps of the second one. -/
def interleaved : List Step :=
  [.new, .evaluate 1 "let a = 1", .evaluate 0 "let a = 2 puts(a) b", .evaluate 1 "puts(a)"]

/-- The second interpreter answers as if the first one did nothing. -/
theorem evaluations_are_independent_of_interleaved :
    List.Forall₂ Answer.ShowSame ((Session.start none).answersOn 1 interleaved)
      ((Session.start none).answers [.evaluate 0 "let a = 1", .evaluate 0 "puts(a)"]) := by
  have schedule : Schedule 1 interleaved :=
    .new (.evaluate (by decide) (.evaluate (by decide) (.evaluate (by decide) .nil)))
  exact evaluations_are_independent schedule 1

end MonkeyLang
