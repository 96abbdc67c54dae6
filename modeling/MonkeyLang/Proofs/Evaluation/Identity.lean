import MonkeyLang.Proofs.Evaluation.Confinement
import MonkeyLang.Proofs.Evaluation.Making
import MonkeyLang.Proofs.Evaluation.Underway

namespace MonkeyLang

/-!
# Functions are equal by their making

A host makes interpreters, runs programs on them and calls functions, looks up names and
binds them.  As long as it has functions from nowhere else than from its interpreters, all
that it does goes on with one course, and so does each step on the way of it.  At every
moment all functions that are bound or were given to the host come from the makings of that
course; a literal that is evaluated then gives a function that none of them is equal to, even
if it is the literal that one of them came from.

In between, functions are handed on: they are bound, looked up, passed as arguments and
returned.  Each of these hands on the function itself, so that it comes from the same making.
-/

/-! ## Hosts -/

/-- Whether a host that was given some values has a value.  It has functions from there
only. -/
def Value.IsHeld (given : List Value) : Value -> Prop
  | .closure callee => .closure callee ∈ given
  | _ => True

theorem Value.IsHeld.isFrom {given : List Value} {makings : List Making}
    (known : ∀ value ∈ given, value.IsFrom makings) {value : Value} (held : value.IsHeld given) :
    value.IsFrom makings := by
  cases value with
  | closure callee => exact known _ held
  | _ => trivial

theorem values_made_of_held {given arguments : List Value} {makings : List Making}
    (known : ∀ value ∈ given, value.IsFrom makings)
    (held : ∀ value ∈ arguments, value.IsHeld given) :
    ∀ value ∈ arguments, Custody.made.Values makings value :=
  fun value member => Custody.values_made.2 ((held value member).isFrom known)

/-- The interpreters of a host, the values that it was given, and the store.  It makes
interpreters, runs programs on them and calls functions that it was given, looks up names and
binds what it has.  A copy of an interpreter is that interpreter once more. -/
inductive Handled : List Interpreter -> List Value -> Store -> Prop
  | start (room : Option Nat) : Handled [] [] { sink := { room := room } }
  | new {interpreters given store} : Handled interpreters given store ->
      Handled ((Interpreter.new store).1 :: interpreters) given (Interpreter.new store).2
  | run {interpreters given store interpreter} (program : Program) :
      Handled interpreters given store -> interpreter ∈ interpreters ->
      Handled
        ((program.run (interpreter.machine store)).2.interpreter :: interpreters)
        ((program.run (interpreter.machine store)).1.toOption.join.toList ++ given)
        (program.run (interpreter.machine store)).2.toStore
  | call {interpreters given store interpreter} {callee : Closure} {arguments : List Value} :
      Handled interpreters given store -> interpreter ∈ interpreters ->
      .closure callee ∈ given -> (∀ value ∈ arguments, value.IsHeld given) ->
      Handled
        ((callee.callable.callOn arguments (interpreter.machine store)).2.interpreter ::
          interpreters)
        ((callee.callable.callOn arguments (interpreter.machine store)).1.toOption.toList ++ given)
        (callee.callable.callOn arguments (interpreter.machine store)).2.toStore
  | look {interpreters given store frame name value} : Handled interpreters given store ->
      store.frames.find? frame name = some value ->
      Handled interpreters (value :: given) store
  | declare {interpreters given store value} (frame : FrameId) (name : String) :
      Handled interpreters given store -> value.IsHeld given ->
      Handled interpreters given { store with frames := store.frames.declare frame name value }
  | print {interpreters given store} (sink : Sink) : Handled interpreters given store ->
      Handled interpreters given { store with sink := sink }

/-- The values that a host was given and a machine that there was then: between the things
that the host does, or on the way of a program or of a call. -/
inductive Met : List Value -> Machine -> Prop
  | between {interpreters given store interpreter} : Handled interpreters given store ->
      interpreter ∈ interpreters -> Met given (interpreter.machine store)
  | running {interpreters given store interpreter machine} {program : Program} :
      Handled interpreters given store -> interpreter ∈ interpreters ->
      program.Visits (interpreter.machine store) machine -> Met given machine
  | calling {interpreters given store interpreter machine} {callee : Closure}
      {arguments : List Value} : Handled interpreters given store -> interpreter ∈ interpreters ->
      .closure callee ∈ given -> (∀ value ∈ arguments, value.IsHeld given) ->
      callee.callable.Visits arguments (interpreter.machine store) machine ->
      Met given machine

/-- Behind a program or a call what was given before was made, and so was what is given now. -/
theorem exists_course_behind {makings : List Making} {given values : List Value}
    (known : ∀ value ∈ given, value.IsFrom makings) {machine : Machine} {isGiven : Value -> Prop}
    (behind : Custody.made.Behind makings isGiven machine)
    (answers : ∀ value ∈ values, isGiven value) :
    ∃ later, Course later machine.toStore ∧ ∀ value ∈ values ++ given, value.IsFrom later := by
  rcases behind with ⟨later, more, course, made⟩
  refine ⟨later, course, List.forall_mem_append.mpr ⟨fun value member => ?_, ?_⟩⟩
  · exact Custody.values_made.1 (made value (answers value member))
  · exact fun value member => (known value member).mono more

/-- What a host was given was made in the course of its store. -/
theorem Handled.course {interpreters : List Interpreter} {given : List Value} {store : Store}
    (handled : Handled interpreters given store) :
    ∃ makings, Course makings store ∧ ∀ value ∈ given, value.IsFrom makings := by
  induction handled with
  | start room => exact ⟨[], .start { room := room }, List.forall_mem_nil _⟩
  | new _ ih =>
      rcases ih with ⟨makings, course, known⟩
      exact ⟨_, course.new, fun value member => (known value member).mono (List.prefix_append ..)⟩
  | @run _ _ store interpreter program _ _ ih =>
      rcases ih with ⟨makings, course, known⟩
      have kinds : ∀ tree ∈ program.statements, Custody.made.statements tree := fun _ _ => trivial
      have kept : Custody.made.machines makings (interpreter.machine store) := course
      refine exists_course_behind known
        (Custody.run_behind Custody.made_lawful kinds kept) fun value member => ?_
      rw [Option.mem_toList, Option.join_eq_some_iff] at member
      exact eq_ok_of_toOption member
  | @call _ _ store interpreter callee arguments _ _ _ held ih =>
      rcases ih with ⟨makings, course, known⟩
      have kind : Custody.made.callables makings callee.callable := trivial
      have kept : Custody.made.machines makings (interpreter.machine store) := course
      refine exists_course_behind known (Custody.callOn_behind Custody.made_lawful kind
        (values_made_of_held known held) kept) fun value member => ?_
      exact eq_ok_of_toOption (Option.mem_toList.mp member)
  | look _ found ih =>
      rcases ih with ⟨makings, course, known⟩
      exact ⟨makings, course, List.forall_mem_cons.mpr ⟨course.bound.find? found, known⟩⟩
  | declare frame name _ held ih =>
      rcases ih with ⟨makings, course, known⟩
      exact ⟨makings, course.declare frame name (held.isFrom known), known⟩
  | print sink _ ih =>
      rcases ih with ⟨makings, course, known⟩
      exact ⟨makings, course.print sink, known⟩

/-- Between the things that a host does and on the way of them, there is a course in which
all that it was given was made. -/
theorem Met.course {given : List Value} {machine : Machine} (reached : Met given machine) :
    ∃ makings, Course makings machine.toStore ∧ ∀ value ∈ given, value.IsFrom makings := by
  cases reached with
  | between handled _ => exact handled.course
  | @running _ _ store interpreter _ program handled _ visits =>
      rcases handled.course with ⟨makings, course, known⟩
      have kept : Custody.made.machines makings (interpreter.machine store) := course
      rcases Custody.underway_of_visits Custody.made_lawful kept (fun _ _ => trivial) visits with
        ⟨later, more, course⟩
      exact ⟨later, course, fun value member => (known value member).mono more⟩
  | @calling _ _ store interpreter _ callee arguments handled _ _ held visits =>
      rcases handled.course with ⟨makings, course, known⟩
      have kept : Custody.made.machines makings (interpreter.machine store) := course
      rcases Custody.underway_of_call_visits Custody.made_lawful kept trivial
        (values_made_of_held known held) visits with ⟨later, more, course⟩
      exact ⟨later, course, fun value member => (known value member).mono more⟩

/-! ## The present frame is there -/

/-- A present frame that is there. -/
def Machine.IsPlaced (machine : Machine) : Prop := machine.scope < machine.frames.size

theorem Machine.IsPlaced.later {machine after : Machine} (placed : machine.IsPlaced)
    (advances : Advances machine after) : after.IsPlaced := by
  unfold IsPlaced
  rw [advances.scope]
  exact Nat.lt_of_lt_of_le placed advances.frames

theorem isPlaced_handedOn : HandedOn fun _ machine => machine.IsPlaced where
  later := Machine.IsPlaced.later
  within _ := by
    unfold Machine.IsPlaced
    rw [Array.size_push]
    exact Nat.lt_succ_self _
  deeper placed _ := placed

/-- A program or a call that a host starts leaves all of its interpreters placed. -/
theorem isPlaced_behind {interpreters : List Interpreter} {interpreter : Interpreter}
    {store : Store} {after : Machine}
    (placed : ∀ interpreter ∈ interpreters, (interpreter.machine store).IsPlaced)
    (listed : interpreter ∈ interpreters) (advances : Advances (interpreter.machine store) after) :
    ∀ other ∈ after.interpreter :: interpreters, (other.machine after.toStore).IsPlaced := by
  have grown : ∀ other ∈ interpreters, (other.machine after.toStore).IsPlaced :=
    fun other member => Nat.lt_of_lt_of_le (placed other member) advances.frames
  refine List.forall_mem_cons.mpr ⟨?_, grown⟩
  rw [advances.interpreter_eq]
  exact grown interpreter listed

theorem Handled.isPlaced {interpreters : List Interpreter} {given : List Value} {store : Store}
    (handled : Handled interpreters given store) :
    ∀ interpreter ∈ interpreters, (interpreter.machine store).IsPlaced := by
  induction handled with
  | start room => exact List.forall_mem_nil _
  | @new _ _ store _ ih =>
      have grown : (Interpreter.new store).2.frames.size = store.frames.size + 1 :=
        Array.size_push ..
      refine List.forall_mem_cons.mpr ⟨?_, fun interpreter member => ?_⟩
      · exact Nat.lt_of_lt_of_eq (Nat.lt_succ_self _) grown.symm
      · exact Nat.lt_of_lt_of_eq (Nat.lt_succ_of_lt (ih interpreter member)) grown.symm
  | run program _ listed ih =>
      exact isPlaced_behind ih listed
        (runStatements_keeps advances_preserved none program.statements _)
  | call _ listed _ _ ih => exact isPlaced_behind ih listed (callOn_keeps advances_preserved _ _ _)
  | look _ _ ih | print _ _ ih => exact ih
  | declare frame name _ _ ih =>
      exact fun interpreter member =>
        Nat.lt_of_lt_of_eq (ih interpreter member) (Array.size_modify ..).symm

theorem Met.isPlaced {given : List Value} {machine : Machine} (met : Met given machine) :
    machine.IsPlaced := by
  cases met with
  | between handled member => exact handled.isPlaced _ member
  | @running _ _ store interpreter _ program handled member visits =>
      exact visits _ (statementsEnd_runStatements isPlaced_handedOn program.statements none _
        (handled.isPlaced interpreter member))
  | @calling _ _ store interpreter _ callee arguments handled member _ _ visits =>
      exact visits _ (callEnds_callWithin isPlaced_handedOn (maximumCallDepth + 1) 0 _ arguments _
        (handled.isPlaced interpreter member) (Nat.succ_pos _) (Nat.le_add_left _ _))

/-! ## Handing functions on -/

/-- The machine on which the body of a called function runs. -/
def Machine.entered (machine : Machine) (literal : Function) (arguments : List Value) : Machine :=
  { machine with
    frames := machine.frames.push (literal.frame arguments)
    scope := machine.frames.size }

/-- From a machine on values are handed on as they are: by a `let` and a look-up behind it, by
a look-up through frames, as an argument, to a function in the frame of which it is, by a
`return` or as the last value of a body, and to the host.  The next program finds the machine
that the last one left. -/
structure Machine.HandsOn (machine : Machine) : Prop where
  bound : ∀ {token name tree value behind}, tree.evaluate machine = .ok value behind ->
    ∃ after, (Statement.binding token name tree).execute machine = .ok none after ∧
      (Expression.identifier name).evaluate after = .ok value after
  found : ∀ {name value}, (Expression.identifier name).evaluate machine = .ok value machine ↔
    ∃ inner frame outer, machine.frames.chain machine.scope = inner ++ frame :: outer ∧
      machine.frames.own name.name frame = some value ∧
      ∀ other ∈ inner, machine.frames.own name.name other = none
  passed : ∀ {scope front parameter later body before value behind},
    List.length front = List.length before ->
    (∀ other ∈ later, Identifier.name other ≠ parameter.name) ->
    let literal : Function := ⟨scope, front ++ parameter :: later, body⟩
    let inside := machine.entered literal (before ++ value :: behind)
    (Expression.identifier parameter).evaluate inside = .ok value inside
  captured : ∀ {literal arguments name value},
    (∀ parameter ∈ literal.parameters, parameter.name ≠ name.name) ->
    machine.frames.find? literal.scope name.name = some value ->
    let inside := machine.entered literal arguments
    (Expression.identifier name).evaluate inside = .ok value inside
  exits : ∀ {token tree value behind}, tree.evaluate machine = .ok value behind ->
    (Statement.returning token (some tree)).execute machine = .error (.returned value) behind
  returned : ∀ {levels literal arguments value behind},
    executeAll (callWithin levels) none literal.body.statements
      (machine.entered literal arguments) = .error (.returned value) behind ->
    callWithin (levels + 1) (.function literal) arguments machine =
      .ok value { behind with scope := machine.scope }
  last : ∀ {levels literal arguments value behind},
    executeAll (callWithin levels) none literal.body.statements
      (machine.entered literal arguments) = .ok (some value) behind ->
    callWithin (levels + 1) (.function literal) arguments machine =
      .ok value { behind with scope := machine.scope }
  given : ∀ {before token tree value behind}, tree.evaluate machine = .ok value behind ->
    runStatements before [.expression token tree] machine = (.ok (some value), behind)
  givenBack : ∀ {before token tree later value behind}, tree.evaluate machine = .ok value behind ->
    runStatements before (.returning token (some tree) :: later) machine =
      (.ok (some value), behind)
  next : machine.interpreter.machine machine.toStore = machine

/-- A frame binds a name as before once names were bound that are other ones. -/
theorem Frame.find?_declareAll_of_ne {bindings : List (String × Value)} {name : String}
    (others : ∀ binding ∈ bindings, binding.1 ≠ name) (frame : Frame) :
    (frame.declareAll bindings).find? name = frame.find? name := by
  induction bindings generalizing frame with
  | nil => rfl
  | cons binding later ih =>
      have parts := List.forall_mem_cons.mp others
      rw [Frame.declareAll, ih parts.2, Frame.find?_declare, if_neg parts.1.symm]

theorem Frame.declareAll_append (front behind : List (String × Value)) (frame : Frame) :
    frame.declareAll (front ++ behind) = (frame.declareAll front).declareAll behind := by
  induction front generalizing frame with
  | nil => rfl
  | cons binding later ih => exact ih _

theorem ne_of_mem_zip {parameters : List Identifier} {name : String}
    (others : ∀ parameter ∈ parameters, parameter.name ≠ name) (arguments : List Value) :
    ∀ binding ∈ (parameters.map (·.name)).zip arguments, binding.1 ≠ name := by
  rintro ⟨bound, value⟩ member
  rcases List.mem_map.mp (List.of_mem_zip member).1 with ⟨parameter, listed, rfl⟩
  exact others parameter listed

/-- The frame of a call binds the last of the parameters with a name to its argument. -/
theorem Function.find?_frame {front later : List Identifier} {parameter : Identifier}
    {before behind : List Value} (lengths : front.length = before.length)
    (others : ∀ other ∈ later, other.name ≠ parameter.name) (scope : FrameId) (body : Block)
    (value : Value) :
    (Function.frame ⟨scope, front ++ parameter :: later, body⟩ (before ++ value :: behind)).find?
      parameter.name = some value := by
  unfold Function.frame
  dsimp only
  rw [List.map_append, List.map_cons, List.zip_append (by rwa [List.length_map]),
    Frame.declareAll_append, List.zip_cons_cons, Frame.declareAll,
    Frame.find?_declareAll_of_ne (ne_of_mem_zip others behind), Frame.find?_declare, if_pos rfl]

/-- A name that the frame of a call does not bind is looked up from the frame in which the
function was made. -/
theorem find?_entered (machine : Machine) (literal : Function) (arguments : List Value)
    {name : String} (free : (literal.frame arguments).find? name = none) :
    (machine.entered literal arguments).frames.find? machine.frames.size name =
      machine.frames.find? literal.scope name := by
  have own : (machine.entered literal arguments).frames.own name machine.frames.size = none :=
    (Frames.own_push ..).trans ((if_pos rfl).trans free)
  have parent := (Frames.parent?_push_size machine.frames (literal.frame arguments)).trans
    (congrArg _ (literal.parent_frame arguments))
  by_cases there : literal.scope < machine.frames.size
  · rw [Option.filter_some, if_pos (decide_eq_true there)] at parent
    rw [Frames.find?_of_parent own parent]
    exact Frames.find?_of_kept
      (fun frame below => (Array.getElem?_push ..).trans (if_neg (Nat.ne_of_lt below))) name _ there
  · have missing : machine.frames[literal.scope]? = none :=
      Array.getElem?_eq_none (Nat.le_of_not_lt there)
    have nothing : machine.frames.own name literal.scope = none := by
      rw [Frames.own, missing]
      rfl
    have global : machine.frames.parent? literal.scope = none := by
      rw [Frames.parent?, missing]
      rfl
    rw [Option.filter_some, if_neg (by simpa using there)] at parent
    rw [Frames.find?_of_global own parent, Frames.find?_of_global nothing global]

theorem evaluate_identifier_iff {name : Identifier} {machine : Machine} {value : Value} :
    (Expression.identifier name).evaluate machine = .ok value machine ↔
      machine.frames.find? machine.scope name.name = some value := by
  change Run.lookup name.name machine = .ok value machine ↔ _
  unfold Run.lookup
  cases machine.frames.find? machine.scope name.name with
  | none => exact ⟨nofun, nofun⟩
  | some found =>
      rw [EStateM.Result.ok.injEq, Option.some.injEq]
      exact and_iff_left rfl

theorem Machine.handsOn {machine : Machine} (placed : machine.IsPlaced) : machine.HandsOn where
  bound {token name tree value behind} ended := by
    have advances : Advances machine behind := advances_of_evaluate ended
    have there := placed.later advances
    refine ⟨{ behind with frames := behind.frames.declare behind.scope name.name value },
      Run.bind_of_ok ended, ?_⟩
    refine evaluate_identifier_iff.mpr (Frames.find?_of_own ?_)
    exact (Frames.own_declare ..).trans (if_pos ⟨rfl, there, rfl⟩)
  found {name value} := by
    rw [evaluate_identifier_iff, Frames.find?_eq_findSome?_chain, List.findSome?_eq_some_iff]
  passed {scope front parameter later body before value behind} lengths others := by
    refine evaluate_identifier_iff.mpr (Frames.find?_of_own ?_)
    refine (Frames.own_push ..).trans ((if_pos rfl).trans ?_)
    exact Function.find?_frame lengths others scope body value
  captured {literal arguments name value} others found := by
    have free : (literal.frame arguments).find? name.name = none :=
      Frame.find?_declareAll_of_ne (ne_of_mem_zip others arguments) _
    exact evaluate_identifier_iff.mpr ((find?_entered machine literal arguments free).trans found)
  exits ended := Run.bind_of_ok ended
  returned {levels literal arguments value behind} ended := by
    apply Run.inNewFrame_of_ok
    change Run.catchReturn _ (machine.entered literal arguments) = .ok value behind
    rw [Run.catchReturn, ended]
  last {levels literal arguments value behind} ended := by
    apply Run.inNewFrame_of_ok
    change Run.catchReturn _ (machine.entered literal arguments) = .ok value behind
    rw [Run.catchReturn, ended]
    rfl
  given ended := runStatements_of_ok (Run.bind_of_ok ended)
  givenBack ended := runStatements_of_returned (Run.bind_of_ok ended)
  next := rfl

/-! ## Equality -/

theorem exists_closure_of_type {value : Value} (type : value.type = .function) :
    ∃ callee, value = .closure callee := by
  cases value with
  | closure callee => exact ⟨callee, rfl⟩
  | _ => cases type

/-- The operators compare functions as values are compared. -/
theorem apply_equal {first second : Value} (type : first.type = .function)
    (type' : second.type = .function) :
    BinaryOperator.equal.apply first second = .ok (.boolean (first.equals second)) ∧
      BinaryOperator.notEqual.apply first second = .ok (.boolean !first.equals second) := by
  rcases exists_closure_of_type type with ⟨callee, rfl⟩
  have types : (Value.closure callee).type = second.type := type.trans type'.symm
  exact ⟨if_pos types, if_pos types⟩

/-- Functions are equal exactly when they come from one evaluation of a literal.  Whatever a
host did and wherever it stands in it, all functions that are bound in frames or were given to
it come from makings, each of which gave the identity that is its number; so they are equal
when the makings are the same.  A literal that is evaluated is one more making, and gives a
function that is equal to none of those that were made before.  Of two expressions whose
values are functions the operators tell whether the functions come from one making.  And
whatever hands a function on hands on the function itself. -/
theorem functions_are_equal_by_making {given : List Value} {machine : Machine}
    (met : Met given machine) :
    ∃ makings, Course makings machine.toStore ∧
      (∀ frame name value, machine.frames.own name frame = some value ->
        value.IsFrom makings) ∧
      (∀ value ∈ given, value.IsFrom makings) ∧
      (∀ index index' value value', Value.IsMadeBy makings index value ->
        Value.IsMadeBy makings index' value' -> value.equals value' = decide (index = index')) ∧
      (∀ token parameters body, ∃ making after, making.before = machine.toStore ∧
        (Expression.function token parameters body).evaluate machine =
          .ok (.closure making.closure) after ∧
        Course (makings ++ [making]) after.toStore ∧
        ∀ value, value.IsFrom makings -> (Value.closure making.closure).equals value = false) ∧
      (∀ token left right middle after first second,
        left.evaluate machine = .ok first middle -> right.evaluate middle = .ok second after ->
        first.type = .function -> second.type = .function ->
        ∃ later index index', makings <+: later ∧ Course later after.toStore ∧
          first.IsMadeBy later index ∧ second.IsMadeBy later index' ∧
          (Expression.binary token left .equal right).evaluate machine =
            .ok (.boolean (decide (index = index'))) after ∧
          (Expression.binary token left .notEqual right).evaluate machine =
            .ok (.boolean !decide (index = index')) after) ∧
      machine.HandsOn := by
  rcases met.course with ⟨makings, course, known⟩
  refine ⟨makings, course, ?_, known, ?_, ?_, ?_, Machine.handsOn met.isPlaced⟩
  · intro frame name value own
    exact course.bound.find? (Frames.find?_of_own own)
  · exact fun _ _ _ _ made made' => course.equals_eq made made'
  · intro token parameters body
    have made := course.make (.function ⟨machine.scope, parameters, body⟩)
    exact ⟨_, { machine with identities := machine.identities + 1 }, rfl, rfl, made,
      fun value known => course.fresh _ known⟩
  · intro token left right middle after first second ended ended' type type'
    rcases exists_closure_of_type type with ⟨callee, rfl⟩
    rcases exists_closure_of_type type' with ⟨callee', rfl⟩
    rcases course.evaluate ended with ⟨between, more, course, made⟩
    rcases course.evaluate ended' with ⟨later, further, course, made'⟩
    rcases (made.mono further).exists_isMadeBy with ⟨index, made⟩
    rcases made'.exists_isMadeBy with ⟨index', made'⟩
    have compared (operator : BinaryOperator) :
        (Expression.binary token left operator right).evaluate machine =
          Run.ofResult (operator.apply (.closure callee) (.closure callee')) after :=
      (Run.bind_of_ok ended).trans (Run.bind_of_ok ended')
    refine ⟨later, index, index', more.trans further, course, made, made', ?_, ?_⟩
    · rw [compared, (apply_equal type type').1, course.equals_eq made made']
      rfl
    · rw [compared, (apply_equal type type').2, course.equals_eq made made']
      rfl

/-- The body of the functions below, which give their argument back. -/
def givingBack : Block := .mk .erased [.expression .erased (.identifier ⟨.erased, "x"⟩)]

/-- A program that evaluates a literal twice and binds the first function under two names:
`let make = fn() { fn(x) { x } }; let f = make(); let g = f; let h = make();`. -/
def twiceMaking : Program :=
  let called : Expression := .call .erased (.identifier ⟨.erased, "make"⟩) []
  ⟨[.binding .erased ⟨.erased, "make"⟩ (.function .erased [] (.mk .erased
      [.expression .erased (.function .erased [⟨.erased, "x"⟩] givingBack)])),
    .binding .erased ⟨.erased, "f"⟩ called,
    .binding .erased ⟨.erased, "g"⟩ (.identifier ⟨.erased, "f"⟩),
    .binding .erased ⟨.erased, "h"⟩ called]⟩

/-- The machine behind that program. -/
def twiceMade : Machine := (twiceMaking.run (Machine.fresh none)).2

/-- Two functions that differ in their identities and in the frames of the calls in which
they were made. -/
def firstMade : Value := .closure ⟨2, .function ⟨1, [⟨.erased, "x"⟩], givingBack⟩⟩

@[inherit_doc firstMade]
def secondMade : Value := .closure ⟨3, .function ⟨2, [⟨.erased, "x"⟩], givingBack⟩⟩

/-- Behind that program the functions `f` and `g` come from one making, and `h` from another. -/
theorem functions_are_equal_by_making_of_twiceMade :
    Met [] twiceMade ∧ twiceMade.frames.own "f" 0 = some firstMade ∧
      twiceMade.frames.own "g" 0 = some firstMade ∧
      twiceMade.frames.own "h" 0 = some secondMade ∧
      ∃ makings index index', Course makings twiceMade.toStore ∧
        firstMade.IsMadeBy makings index ∧ secondMade.IsMadeBy makings index' ∧
        index ≠ index' := by
  have nothing : (twiceMaking.run (Machine.fresh none)).1.toOption.join.toList ++ [] = [] := by
    decide +kernel
  have met : Met [] twiceMade := nothing ▸
    .between (((Handled.start none).new).run twiceMaking List.mem_cons_self) List.mem_cons_self
  have first : twiceMade.frames.own "f" 0 = some firstMade := by decide +kernel
  have second : twiceMade.frames.own "h" 0 = some secondMade := by decide +kernel
  rcases functions_are_equal_by_making met with ⟨makings, course, bound, -, compared, -⟩
  rcases (bound _ _ _ first).exists_isMadeBy with ⟨index, made⟩
  rcases (bound _ _ _ second).exists_isMadeBy with ⟨index', made'⟩
  have different := compared index index' firstMade secondMade made made'
  exact ⟨met, first, by decide +kernel, second, makings, index, index', course, made, made',
    of_decide_eq_false different.symm⟩

end MonkeyLang
