import MonkeyLang.Proofs.Evaluation.Heap
import MonkeyLang.Proofs.Evaluation.Observation
import MonkeyLang.Proofs.Evaluation.Pairing
import MonkeyLang.Proofs.Evaluation.Printing

namespace MonkeyLang

/-!
# Runs under other numbers

The numbers of frames and the identities of functions carry no meaning beyond
which of them are the same.  Two stores agree under a renumbering when the frames
that it pairs bind the same names to values that are the same up to the
renumbering and up to tokens, and when their sinks go on taking the same.  Two runs
of one program from machines that agree make frames and functions at the same
moments, so that the renumbering grows by a pair each time, and they end in the
same way.

Frames that are not paired may be there on either side and hold anything.  Nothing
is said of them, and nothing that the runs do depends on them.
-/

/-- Which frames and which functions of two stores stand for each other. -/
@[ext] structure Renumbering where
  frames : Pairing
  identities : Pairing

namespace Renumbering

/-- The renumbering after so many frames and functions were made on both sides. -/
def grow (renumbering : Renumbering) (made given : Nat) : Renumbering :=
  ⟨renumbering.frames.grow made, renumbering.identities.grow given⟩

@[simp] theorem grow_zero (renumbering : Renumbering) : renumbering.grow 0 0 = renumbering := by
  rw [grow, Pairing.grow_zero, Pairing.grow_zero]

@[simp] theorem grow_grow (renumbering : Renumbering) (made given made' given' : Nat) :
    (renumbering.grow made given).grow made' given' =
      renumbering.grow (made + made') (given + given') := by
  rw [grow, grow, grow, Pairing.grow_grow, Pairing.grow_grow]

/-- The renumbering of two stores of which nothing stands for anything. -/
def empty (first second : Store) : Renumbering :=
  ⟨.empty first.frames.size second.frames.size, .empty first.identities second.identities⟩

/-- The matching of two runs whose frames and functions have different numbers. -/
def matching : Matching where
  World := Renumbering
  later world later := ∃ made given, later = world.grow made given
  names := Eq
  scopes world := world.frames.pairs
  identities world := world.identities.pairs

/-- Values that stand for each other under a renumbering. -/
abbrev Values (renumbering : Renumbering) : Value -> Value -> Prop :=
  matching.Values renumbering

/-- Callables that stand for each other under a renumbering. -/
abbrev Callables (renumbering : Renumbering) : Callable -> Callable -> Prop :=
  matching.Callables renumbering

/-- All pairs of the one are pairs of the other. -/
structure IsPartOf (part whole : Renumbering) : Prop where
  frames : ∀ {frame frame'}, part.frames.pairs frame frame' -> whole.frames.pairs frame frame'
  identities : ∀ {identity identity'}, part.identities.pairs identity identity' ->
    whole.identities.pairs identity identity'

theorem isPartOf_grow (renumbering : Renumbering) (made given : Nat) :
    renumbering.IsPartOf (renumbering.grow made given) :=
  ⟨Pairing.pairs_grow made, Pairing.pairs_grow given⟩

section

variable {part whole : Renumbering} (within : part.IsPartOf whole)
include within

theorem callables_mono {callable callable' : Callable}
    (related : part.Callables callable callable') : whole.Callables callable callable' := by
  cases related with
  | builtin named => exact .builtin named
  | function literal =>
      exact .function ⟨within.frames literal.scope, literal.parameters, literal.body⟩

theorem values_mono {value value' : Value} (related : part.Values value value') :
    whole.Values value value' := by
  cases related with
  | integer value => exact .integer value
  | boolean value => exact .boolean value
  | null => exact .null
  | closure identity callable =>
      exact .closure (within.identities identity) (callables_mono within callable)

theorem outcomes_mono {outcome outcome' : Except Failure Value}
    (related : matching.Outcomes part outcome outcome') :
    matching.Outcomes whole outcome outcome' := by
  cases related with
  | ok value => exact .ok (values_mono within value)
  | error failure =>
      cases failure with
      | unknownIdentifier name => exact .error (.unknownIdentifier name)
      | wrongArity given expected callable =>
          exact .error (.wrongArity given expected (callables_mono within callable))
      | plain plain => exact .error (.plain plain)

end

end Renumbering

open Renumbering (matching)

/-! ## Stores and machines that agree -/

/-- Stores that agree on what is paired, and whose sinks took the same since they
had taken certain prints. -/
structure StoresAgree (before before' : List Print) (renumbering : Renumbering)
    (first second : Store) : Prop where
  made : renumbering.frames.bound = first.frames.size
  made' : renumbering.frames.bound' = second.frames.size
  given : renumbering.identities.bound = first.identities
  given' : renumbering.identities.bound' = second.identities
  heaps : matching.HeapsAgree renumbering first.frames second.frames
  sinks : SinksAgree before before' first.sink second.sink

/-- Machines of the same depth whose stores agree and whose present frames are
paired. -/
structure MachinesInStep (before before' : List Print) (renumbering : Renumbering)
    (first second : Machine) : Prop
    extends StoresAgree before before' renumbering first.toStore second.toStore where
  scope : renumbering.frames.pairs first.scope second.scope
  depth : first.depth = second.depth

/-- The correspondence of two runs under other numbers. -/
def upToNumbers (before before' : List Print) : Correspondence where
  toMatching := matching
  machines := MachinesInStep before before'

section

variable {before before' : List Print} {renumbering : Renumbering}

theorem uniqueNames : Relator.BiUnique matching.names :=
  ⟨fun _ _ _ first second => first.trans second.symm,
    fun _ _ _ first second => first.symm.trans second⟩

namespace StoresAgree

/-- Any two stores agree on nothing, as long as their sinks have the same room. -/
theorem empty (first second : Store) (room : first.sink.room = second.sink.room) :
    StoresAgree first.sink.prints second.sink.prints (.empty first second) first second where
  made := rfl
  made' := rfl
  given := rfl
  given' := rfl
  heaps := ⟨fun paired => paired.elim⟩
  sinks := .start room

variable {first second : Store} (agree : StoresAgree before before' renumbering first second)
include agree

/-- As many identities are given out on both sides. -/
theorem give (count : Nat) : StoresAgree before before' (renumbering.grow 0 count)
    { first with identities := first.identities + count }
    { second with identities := second.identities + count } where
  made := agree.made
  made' := agree.made'
  given := congrArg (· + count) agree.given
  given' := congrArg (· + count) agree.given'
  heaps := by
    refine agree.heaps.mono ?_ ?_ (Renumbering.values_mono (renumbering.isPartOf_grow 0 count))
    · intro frame frame' paired
      exact Pairing.pairs_grow 0 paired
    · intro frame frame' paired
      change (renumbering.frames.grow 0).pairs frame frame' at paired
      rwa [Pairing.grow_zero] at paired
  sinks := agree.sinks

/-- Frames that agree are made on both sides. -/
theorem push {frame frame' : Frame}
    (frames : matching.FramesAgree (renumbering.grow 1 0) frame frame')
    (parents : Option.Rel renumbering.frames.pairs (frame.parent.filter (· < first.frames.size))
      (frame'.parent.filter (· < second.frames.size))) :
    StoresAgree before before' (renumbering.grow 1 0)
      { first with frames := first.frames.push frame }
      { second with frames := second.frames.push frame' } where
  made := (congrArg (· + 1) agree.made).trans (Array.size_push ..).symm
  made' := (congrArg (· + 1) agree.made').trans (Array.size_push ..).symm
  given := agree.given
  given' := agree.given'
  heaps := by
    refine agree.heaps.push (Pairing.pairs_grow 1)
      (Renumbering.values_mono (renumbering.isPartOf_grow 1 0)) ?_ frames parents
    intro old old' paired
    rw [← agree.made, ← agree.made']
    exact Pairing.pairs_grow_one paired
  sinks := agree.sinks

theorem declare {frame frame' : FrameId} (paired : renumbering.frames.pairs frame frame')
    (name : String) {value value' : Value} (related : renumbering.Values value value') :
    StoresAgree before before' renumbering
      { first with frames := first.frames.declare frame name value }
      { second with frames := second.frames.declare frame' name value' } where
  made := agree.made.trans (Array.size_modify ..).symm
  made' := agree.made'.trans (Array.size_modify ..).symm
  given := agree.given
  given' := agree.given'
  heaps := agree.heaps.declare uniqueNames renumbering.frames.unique paired rfl related
  sinks := agree.sinks

theorem withSinks {sink sink' : Sink} (sinks : SinksAgree before before' sink sink') :
    StoresAgree before before' renumbering { first with sink := sink }
      { second with sink := sink' } :=
  { agree with sinks := sinks }

/-- The frame of a call is made in both stores. -/
theorem enter {function function' : Function} {arguments arguments' : List Value}
    (functions : matching.Functions renumbering function function')
    (values : List.Forall₂ renumbering.Values arguments arguments') :
    StoresAgree before before' (renumbering.grow 1 0)
      { first with frames := first.frames.push (function.frame arguments) }
      { second with frames := second.frames.push (function'.frame arguments') } := by
  have later : matching.Functions (renumbering.grow 1 0) function function' :=
    ⟨Pairing.pairs_grow 1 functions.scope, functions.parameters, functions.body⟩
  have frames : matching.FramesAgree (renumbering.grow 1 0) (function.frame arguments)
      (function'.frame arguments') :=
    .of_call uniqueNames later (values.imp fun _ _ =>
      Renumbering.values_mono (renumbering.isPartOf_grow 1 0))
  refine agree.push frames ?_
  have below := renumbering.frames.below functions.scope
  rw [agree.made, agree.made'] at below
  rw [Function.parent_frame, Function.parent_frame, Option.filter_some, Option.filter_some]
  rw [if_pos (decide_eq_true below.1), if_pos (decide_eq_true below.2)]
  exact .some functions.scope

end StoresAgree

/-- A store in which there is all that there was, and of which some frames stayed as
they were. -/
structure Store.Extends (earlier later : Store) (kept : FrameId -> Prop) : Prop where
  frames : earlier.frames.size ≤ later.frames.size
  identities : earlier.identities ≤ later.identities
  kept : ∀ {frame}, kept frame -> later.frames[frame]? = earlier.frames[frame]?

theorem Store.Extends.parent?_eq {earlier later : Store} {kept : FrameId -> Prop}
    (extended : earlier.Extends later kept) {frame : FrameId} (here : kept frame) :
    later.frames.parent? frame = earlier.frames.parent? frame := by
  rw [Frames.parent?, Frames.parent?, extended.kept here]

/-- A new interpreter changes nothing that was there. -/
theorem Interpreter.extends_new (store : Store) :
    store.Extends (Interpreter.new store).2 (· < store.frames.size) where
  frames := by
    rw [Interpreter.new, Array.size_push]
    exact Nat.le_succ _
  identities := Nat.le_add_right _ _
  kept there := (Array.getElem?_push ..).trans (if_neg (Nat.ne_of_lt there))

/-- Stores go on agreeing on what was paired while other frames and functions are
made on either side and frames that are not paired change. -/
theorem StoresAgree.widen {first second later later' : Store}
    (agree : StoresAgree before before' renumbering first second)
    (extended : first.Extends later fun frame => ∃ frame', renumbering.frames.pairs frame frame')
    (extended' : second.Extends later' fun frame' => ∃ frame, renumbering.frames.pairs frame frame')
    {since since' : List Print} (sinks : SinksAgree since since' later.sink later'.sink) :
    ∃ wider : Renumbering, wider.frames.pairs = renumbering.frames.pairs ∧
      wider.identities.pairs = renumbering.identities.pairs ∧
      StoresAgree since since' wider later later' := by
  let wider : Renumbering :=
    ⟨renumbering.frames.widen (Nat.le_trans (Nat.le_of_eq agree.made) extended.frames)
        (Nat.le_trans (Nat.le_of_eq agree.made') extended'.frames),
      renumbering.identities.widen (Nat.le_trans (Nat.le_of_eq agree.given) extended.identities)
        (Nat.le_trans (Nat.le_of_eq agree.given') extended'.identities)⟩
  have within : renumbering.IsPartOf wider := ⟨id, id⟩
  refine ⟨wider, rfl, rfl, rfl, rfl, rfl, rfl, ⟨fun {frame frame'} pair => ?_⟩, sinks⟩
  have place : matching.PlacesAgree wider first.frames second.frames frame frame' :=
    (agree.heaps.place pair).mono within.frames (Renumbering.values_mono within)
  refine ⟨?_, ?_⟩
  · rw [extended.kept ⟨frame', pair⟩, extended'.kept ⟨frame, pair⟩]
    exact place.frames
  · rw [extended.parent?_eq ⟨frame', pair⟩, extended'.parent?_eq ⟨frame, pair⟩]
    exact place.parents

/-! ## The correspondence -/

theorem lookup_upToNumbers (name : String) :
    (upToNumbers before before').Runs renumbering matching.Values (Run.lookup name)
      (Run.lookup name) := by
  intro machine machine' machines
  have found := machines.heaps.find? machines.scope (rfl : name = name)
  unfold Run.lookup
  generalize machine.frames.find? machine.scope name = value at found ⊢
  generalize machine'.frames.find? machine'.scope name = value' at found ⊢
  cases found with
  | none =>
      exact .error ⟨0, 0, renumbering.grow_zero.symm⟩ (.failed (.unknownIdentifier rfl)) machines
  | some related => exact .ok ⟨0, 0, renumbering.grow_zero.symm⟩ related machines

theorem declare_upToNumbers (name : String) {value value' : Value}
    (related : renumbering.Values value value') :
    (upToNumbers before before').Steps renumbering (Run.declare name value)
      (Run.declare name value') := by
  intro machine machine' machines
  have stores := machines.toStoresAgree.declare machines.scope name related
  have after : (upToNumbers before before').machines renumbering
      { machine with frames := machine.frames.declare machine.scope name value }
      { machine' with frames := machine'.frames.declare machine'.scope name value' } :=
    { stores with scope := machines.scope, depth := machines.depth }
  exact .ok ⟨0, 0, renumbering.grow_zero.symm⟩ trivial after

theorem close_upToNumbers {parameters parameters' : List Identifier} {body body' : Block}
    (names : ParametersResemble Eq parameters parameters') (bodies : body.Resembles Eq body') :
    (upToNumbers before before').Runs renumbering matching.Values (Run.close parameters body)
      (Run.close parameters' body') := by
  intro machine machine' machines
  have scope : (renumbering.grow 0 1).frames.pairs machine.scope machine'.scope :=
    Pairing.pairs_grow 0 machines.scope
  have after : (upToNumbers before before').machines (renumbering.grow 0 1)
      { machine with identities := machine.identities + 1 }
      { machine' with identities := machine'.identities + 1 } :=
    { machines.toStoresAgree.give 1 with scope := scope, depth := machines.depth }
  have identity : (renumbering.grow 0 1).identities.pairs machine.identities
      machine'.identities := by
    rw [← machines.given, ← machines.given']
    exact Pairing.pairs_grow_next Nat.one_pos
  have made : (renumbering.grow 0 1).Values
      (.closure ⟨machine.identities, .function ⟨machine.scope, parameters, body⟩⟩)
      (.closure ⟨machine'.identities, .function ⟨machine'.scope, parameters', body'⟩⟩) :=
    .closure identity (.function ⟨scope, names, bodies⟩)
  exact .ok ⟨0, 1, rfl⟩ made after

theorem print_upToNumbers {value value' : Value} (related : renumbering.Values value value') :
    (upToNumbers before before').Steps renumbering (Run.print value) (Run.print value') := by
  intro machine machine' machines
  have text : value.text = value'.text :=
    Matching.Values.text_eq (rfl : (upToNumbers before before').names = Eq) related
  rcases machines.sinks.accept text with ⟨whole, sinks⟩
  have after : (upToNumbers before before').machines renumbering
      { machine with sink := (machine.sink.accept value).2 }
      { machine' with sink := (machine'.sink.accept value').2 } :=
    { machines.toStoresAgree.withSinks sinks with
      scope := machines.scope
      depth := machines.depth }
  rw [Run.print_eq, Run.print_eq, whole]
  split
  · exact .ok ⟨0, 0, renumbering.grow_zero.symm⟩ trivial after
  · exact .error ⟨0, 0, renumbering.grow_zero.symm⟩ (.failed (.plain rfl)) after

theorem upToNumbers_lawful : (upToNumbers before before').Lawful where
  refl world := ⟨0, 0, world.grow_zero.symm⟩
  trans := by
    rintro world inner later ⟨made, given, rfl⟩ ⟨made', given', rfl⟩
    exact ⟨made + made', given + given', world.grow_grow made given made' given'⟩
  scopes_mono := by
    rintro world later scope scope' ⟨made, given, rfl⟩ paired
    exact Pairing.pairs_grow made paired
  identities_mono := by
    rintro world later identity identity' ⟨made, given, rfl⟩ paired
    exact Pairing.pairs_grow given paired
  identities_iff := fun {world} _ _ _ _ first second =>
    Relator.rel_eq world.identities.unique first second
  depth machines := machines.depth
  scope machines := machines.scope
  withDepth same machines := { machines with depth := same }
  withScope same machines := { machines with scope := same }
  lookup := by
    rintro world name _ rfl
    exact lookup_upToNumbers name
  declare := by
    rintro world name _ value value' rfl related
    exact declare_upToNumbers name related
  close names bodies := close_upToNumbers names bodies
  print related := print_upToNumbers related
  enter := by
    intro world function function' arguments arguments' machine machine' functions values machines
    have scope : (world.grow 1 0).frames.pairs machine.frames.size machine'.frames.size := by
      rw [← machines.made, ← machines.made']
      exact Pairing.pairs_grow_next Nat.one_pos
    exact ⟨world.grow 1 0, ⟨1, 0, rfl⟩,
      { machines.toStoresAgree.enter functions values with
        scope := scope
        depth := machines.depth }⟩

/-! ## Programs, calls and new interpreters -/

/-- Programs that differ in tokens only end in the same way on machines that agree,
and the machines behind them agree. -/
theorem runStatements_agree {first second : List Statement}
    (shape : StatementsResemble Eq first second) {machine machine' : Machine}
    (agree : MachinesInStep before before' renumbering machine machine') :
    ∃ made given,
      (upToNumbers before before').Reports (renumbering.grow made given)
        (runStatements none first machine).1 (runStatements none second machine').1 ∧
      MachinesInStep before before' (renumbering.grow made given)
        (runStatements none first machine).2 (runStatements none second machine').2 := by
  have nothing : (upToNumbers before before').OptionalValues renumbering none none := .none
  rcases Correspondence.runStatements_inStep upToNumbers_lawful shape nothing agree with
    ⟨_, ⟨made, given, rfl⟩, reports, machines⟩
  exact ⟨made, given, reports, machines⟩

/-- The built-in functions of two new interpreters are the same under other
identities. -/
theorem builtinBindings_agree (listed : List Builtin) {identity identity' : Nat}
    (paired : ∀ step, step < listed.length ->
      renumbering.identities.pairs (identity + step) (identity' + step)) :
    matching.BindingsAgree renumbering (Interpreter.builtinBindings identity listed)
      (Interpreter.builtinBindings identity' listed) := by
  induction listed generalizing identity identity' with
  | nil => exact .nil
  | cons named later ih =>
      refine .cons ⟨rfl, .closure (paired 0 (Nat.succ_pos _)) (.builtin named)⟩ (ih ?_)
      intro step within
      rw [Nat.add_assoc, Nat.add_assoc, Nat.add_comm 1]
      exact paired (step + 1) (Nat.succ_lt_succ within)

/-- The global frame of a new interpreter, in which the built-in functions have
identities from a number on. -/
def globals (identity : Nat) : Frame :=
  (Frame.empty none).declareAll (Interpreter.builtinBindings identity Interpreter.builtins)

theorem parent_globals (identity : Nat) : (globals identity).parent = none :=
  Frame.parent_declareAll ..

/-- New interpreters on stores that agree are in step. -/
theorem MachinesInStep.new {first second : Store}
    (agree : StoresAgree before before' renumbering first second) :
    MachinesInStep before before' (renumbering.grow 1 Interpreter.builtins.length)
      ((Interpreter.new first).1.machine (Interpreter.new first).2)
      ((Interpreter.new second).1.machine (Interpreter.new second).2) := by
  have given := agree.give Interpreter.builtins.length
  have whole : (renumbering.grow 0 Interpreter.builtins.length).grow 1 0 =
      renumbering.grow 1 Interpreter.builtins.length := renumbering.grow_grow ..
  have frames : matching.FramesAgree (renumbering.grow 1 Interpreter.builtins.length)
      (globals first.identities) (globals second.identities) := by
    refine (Matching.FramesAgree.empty none none).declareAll uniqueNames
      (builtinBindings_agree _ fun step within => ?_)
    rw [← agree.given, ← agree.given']
    exact Pairing.pairs_grow_next within
  have stores := given.push (whole.symm ▸ frames) (by
    rw [parent_globals, parent_globals]
    exact .none)
  have scope : (renumbering.grow 1 Interpreter.builtins.length).frames.pairs
      first.frames.size second.frames.size := by
    rw [← agree.made, ← agree.made']
    exact Pairing.pairs_grow_next Nat.one_pos
  exact { (whole ▸ stores : StoresAgree before before' _ _ _) with scope := scope, depth := rfl }

/-- The body of a function and what becomes of a `return` in it stay in step. -/
theorem catchReturn_body_upToNumbers {literal literal' : Function}
    (body : literal.body.Resembles Eq literal'.body) :
    (upToNumbers before before').Runs renumbering matching.Values
      (Run.catchReturn (executeAll (callWithin maximumCallDepth) none literal.body.statements))
      (Run.catchReturn (executeAll (callWithin maximumCallDepth) none literal'.body.statements)) :=
  Correspondence.Runs.catchReturn <|
    Correspondence.executeAll_inStep upToNumbers_lawful
      (Correspondence.callWithin_inStep upToNumbers_lawful maximumCallDepth) body.statements .none

/-- A call from outside ends in the same way on stores that agree, and the stores
behind it agree.  The present frames need not be paired, since a call does not look
at them: a function runs in a frame around which is its own, and a built-in
function in none. -/
theorem callOn_agree {callee callee' : Callable}
    (callables : renumbering.Callables callee callee') {arguments arguments' : List Value}
    (values : List.Forall₂ renumbering.Values arguments arguments') {machine machine' : Machine}
    (agree : StoresAgree before before' renumbering machine.toStore machine'.toStore)
    (depth : machine.depth = machine'.depth) :
    ∃ made given,
      matching.Outcomes (renumbering.grow made given) (callee.callOn arguments machine).1
        (callee'.callOn arguments' machine').1 ∧
      StoresAgree before before' (renumbering.grow made given)
        (callee.callOn arguments machine).2.toStore
        (callee'.callOn arguments' machine').2.toStore := by
  cases callables with
  | builtin named =>
      cases named
      have texts : List.Forall₂ (fun value value' : Value => value.text = value'.text)
          arguments arguments' := values.imp fun _ _ related =>
        Matching.Values.text_eq (rfl : (upToNumbers before before').names = Eq) related
      rcases agree.sinks.acceptAll texts with ⟨whole, sinks⟩
      rw [Callable.callOn_puts, Callable.callOn_puts, whole]
      refine ⟨0, 0, ?_, ?_⟩
      · split
        · exact .ok .null
        · exact .error (.plain rfl)
      · rw [renumbering.grow_zero]
        exact agree.withSinks sinks
  | @function literal literal' functions =>
      have scope : (renumbering.grow 1 0).frames.pairs machine.frames.size
          machine'.frames.size := by
        rw [← agree.made, ← agree.made']
        exact Pairing.pairs_grow_next Nat.one_pos
      have entered : MachinesInStep before before' (renumbering.grow 1 0)
          { machine with
            frames := machine.frames.push (literal.frame arguments)
            scope := machine.frames.size }
          { machine' with
            frames := machine'.frames.push (literal'.frame arguments')
            scope := machine'.frames.size } :=
        { agree.enter functions values with scope := scope, depth := depth }
      have body := catchReturn_body_upToNumbers functions.body _ _ entered
      generalize ended : Run.catchReturn _ _ = result at body
      generalize ended' : Run.catchReturn _ _ = result' at body
      cases body with
      | ok later answer machines =>
          have called : (Callable.function literal).call arguments machine = _ :=
            Run.inNewFrame_of_ok ended
          have called' : (Callable.function literal').call arguments' machine' = _ :=
            Run.inNewFrame_of_ok ended'
          rcases later with ⟨made, given, rfl⟩
          rw [Callable.callOn_of_ok called, Callable.callOn_of_ok called']
          rw [renumbering.grow_grow] at answer machines
          exact ⟨1 + made, 0 + given, .ok answer, machines.toStoresAgree⟩
      | error later exit machines =>
          have called : (Callable.function literal).call arguments machine = _ :=
            Run.inNewFrame_of_error ended
          have called' : (Callable.function literal').call arguments' machine' = _ :=
            Run.inNewFrame_of_error ended'
          rcases later with ⟨made, given, rfl⟩
          rw [renumbering.grow_grow] at exit machines
          refine ⟨1 + made, 0 + given, ?_⟩
          cases exit with
          | returned value =>
              rw [Callable.callOn_of_returned called, Callable.callOn_of_returned called']
              exact ⟨.ok value, machines.toStoresAgree⟩
          | failed failure =>
              rw [Callable.callOn_of_failed called, Callable.callOn_of_failed called']
              exact ⟨.error failure, machines.toStoresAgree⟩

end

end MonkeyLang
