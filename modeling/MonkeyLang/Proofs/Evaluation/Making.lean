import MonkeyLang.Proofs.Evaluation.Legibility

namespace MonkeyLang

/-!
# Functions are told apart by their making

Two functions are equal when they have the same identity, and nothing else about them is
looked at.  Each evaluation of a function literal gives out the next identity, and so does
each making of a built-in function.  The makings are therefore numbered by the identities of
what they made, and the functions that are about can be traced back to them: whatever binds,
passes on or returns a function does so with the function that it got.  Functions are equal
exactly when they come from one making, although this is not what is compared.

A course is what a store went through: functions were made, frames with bindings were made,
names were bound, and lines were printed.  What a run does with a store goes on with the
course of the store.
-/

/-! ## Makings -/

/-- The making of a function: what there was before it, and what can be called since. -/
structure Making where
  before : Store
  callable : Callable

/-- The function that was made, under the identity that was the next one. -/
def Making.closure (making : Making) : Closure := ⟨making.before.identities, making.callable⟩

/-- Whether a value, if it is a function, is one of those that were made. -/
def Value.IsFrom (makings : List Making) : Value -> Prop
  | .closure callee => ∃ making ∈ makings, making.closure = callee
  | _ => True

/-- Whether a value is the function that was made by the making with a number. -/
def Value.IsMadeBy (makings : List Making) (index : Nat) (value : Value) : Prop :=
  ∃ making, makings[index]? = some making ∧ value = .closure making.closure

theorem Value.IsFrom.exists_isMadeBy {makings : List Making} {callee : Closure}
    (known : Value.IsFrom makings (.closure callee)) :
    ∃ index, Value.IsMadeBy makings index (.closure callee) := by
  rcases known with ⟨making, member, rfl⟩
  rcases List.getElem?_of_mem member with ⟨index, found⟩
  exact ⟨index, making, found, rfl⟩

theorem Value.IsFrom.mono {earlier later : List Making} {value : Value}
    (known : value.IsFrom earlier) (more : earlier <+: later) : value.IsFrom later := by
  cases value with
  | closure callee =>
      rcases known with ⟨making, member, made⟩
      exact ⟨making, more.subset member, made⟩
  | _ => trivial

theorem Frame.Binds.mono {frame : Frame} {holds holds' : Value -> Prop}
    (binds : frame.Binds holds) (weaker : ∀ {value}, holds value -> holds' value) :
    frame.Binds holds' :=
  ⟨fun own => weaker (binds.own own)⟩

theorem Frames.Bind.mono {frames : Frames} {holds holds' : Value -> Prop}
    (bind : frames.Bind holds) (weaker : ∀ {value}, holds value -> holds' value) :
    frames.Bind holds' :=
  ⟨fun there => (bind.each there).mono weaker⟩

/-- What a store went through since there was nothing in it, with the makings in order.
Names are bound to values that were made on the way. -/
inductive Course : List Making -> Store -> Prop
  | start (sink : Sink) : Course [] { sink := sink }
  | make {makings store} (callable : Callable) : Course makings store ->
      Course (makings ++ [⟨store, callable⟩]) { store with identities := store.identities + 1 }
  | enclose {makings store frame} : Course makings store ->
      Frame.Binds (Value.IsFrom makings) frame ->
      Course makings { store with frames := store.frames.push frame }
  | declare {makings store value} (owner : FrameId) (name : String) : Course makings store ->
      value.IsFrom makings ->
      Course makings { store with frames := store.frames.declare owner name value }
  | print {makings store} (sink : Sink) : Course makings store ->
      Course makings { store with sink := sink }

namespace Course

variable {makings : List Making} {store : Store}

/-- As many identities were given out as functions were made. -/
theorem identities_eq (course : Course makings store) : store.identities = makings.length := by
  induction course with
  | start sink => rfl
  | make callable _ ih => rw [List.length_append, List.length_singleton, ← ih]
  | enclose _ _ ih | declare _ _ _ _ ih | print _ _ ih => exact ih

/-- Before a making there was a course with the makings before it. -/
theorem take (course : Course makings store) {index : Nat} {making : Making}
    (found : makings[index]? = some making) : Course (makings.take index) making.before := by
  induction course with
  | start sink => cases found
  | @make earlier before callable course ih =>
      rcases Nat.lt_or_ge index earlier.length with older | newest
      · rw [List.getElem?_append_left older] at found
        rw [List.take_append_of_le_length (Nat.le_of_lt older)]
        exact ih found
      · rw [List.getElem?_append_right newest] at found
        rcases List.getElem?_eq_some_iff.mp found with ⟨single, made⟩
        rw [List.length_singleton] at single
        have here : index = earlier.length := by omega
        rw [List.getElem_singleton] at made
        rw [here, List.take_left' rfl, ← made]
        exact course
  | enclose _ _ ih | declare _ _ _ _ ih | print _ _ ih => exact ih found

/-- The identity of a function is the number of its making. -/
theorem identity_eq (course : Course makings store) {index : Nat} {making : Making}
    (found : makings[index]? = some making) : making.closure.identity = index := by
  rcases List.getElem?_eq_some_iff.mp found with ⟨below, -⟩
  have made := (course.take found).identities_eq
  rw [List.length_take, Nat.min_eq_left (Nat.le_of_lt below)] at made
  exact made

/-- Functions are equal when they were made by the same making. -/
theorem equals_eq (course : Course makings store) {index index' : Nat} {value value' : Value}
    (made : value.IsMadeBy makings index) (made' : value'.IsMadeBy makings index') :
    value.equals value' = decide (index = index') := by
  rcases made with ⟨making, found, rfl⟩
  rcases made' with ⟨making', found', rfl⟩
  change decide (making.closure.identity = making'.closure.identity) = _
  rw [course.identity_eq found, course.identity_eq found']

/-- What is bound in frames was made. -/
theorem bound (course : Course makings store) : store.frames.Bind (Value.IsFrom makings) := by
  induction course with
  | start sink =>
      refine ⟨fun there => ?_⟩
      rw [Array.getElem?_empty] at there
      cases there
  | make callable _ ih => exact ih.mono fun known => known.mono (List.prefix_append ..)
  | enclose _ binds ih => exact ih.push binds
  | declare owner name _ known ih => exact ih.declare owner name known
  | print _ _ ih => exact ih

/-- A function that is made now is equal to none of those that were made. -/
theorem fresh (course : Course makings store) (callable : Callable) {value : Value}
    (known : value.IsFrom makings) :
    (Value.closure (Making.closure ⟨store, callable⟩)).equals value = false := by
  cases value with
  | closure callee =>
      rcases known.exists_isMadeBy with ⟨index, making, found, made⟩
      have older : callee.identity < makings.length := by
        rw [Value.closure.inj made, course.identity_eq found]
        exact (List.getElem?_eq_some_iff.mp found).1
      refine decide_eq_false fun same => ?_
      rw [← same] at older
      exact Nat.lt_irrefl _ (course.identities_eq ▸ older)
  | _ => rfl

theorem new (course : Course makings store) :
    Course (makings ++ [⟨store, .builtin .puts⟩]) (Interpreter.new store).2 := by
  have made := course.make (.builtin .puts)
  refine made.enclose ((Frame.binds_empty none).declareAll ?_)
  refine List.forall_mem_singleton.mpr ⟨⟨store, .builtin .puts⟩, ?_, rfl⟩
  exact List.mem_append_right _ List.mem_cons_self

end Course

/-! ## Runs -/

/-- The custody of functions that were made. -/
def Custody.made : Custody where
  World := List Making
  later earlier later := earlier <+: later
  scopes _ _ := True
  callables _ _ := True
  closures makings callee := ∃ making ∈ makings, making.closure = callee
  machines makings machine := Course makings machine.toStore
  expressions _ := True
  statements _ := True

theorem Custody.values_made {makings : List Making} {value : Value} :
    Custody.made.Values makings value ↔ value.IsFrom makings := by
  cases value <;> rfl

/-- A run makes the functions of the literals that it evaluates, one after another, and
hands on those that were made. -/
theorem Custody.made_lawful : Custody.made.Lawful where
  unary _ := trivial
  binary _ := ⟨trivial, trivial⟩
  conditional _ := ⟨trivial, fun _ _ => trivial, fun _ _ _ _ => trivial⟩
  call _ := ⟨trivial, fun _ _ => trivial⟩
  binding _ := trivial
  returning _ := trivial
  expression _ := trivial
  refl _ := List.prefix_rfl
  trans first second := first.trans second
  scopes_mono _ _ := trivial
  callables_mono _ _ := trivial
  closures_mono {first _ callee} more known :=
    have made : (Value.closure callee).IsFrom first := known
    made.mono more
  callable _ := trivial
  body _ _ _ := trivial
  scope _ := trivial
  withScope _ course := course
  withDepth _ course := course
  print {makings machine value} _ course :=
    ⟨makings, List.prefix_rfl, course.print (machine.sink.accept value).2⟩
  lookup course found := values_made.2 (course.bound.find? found)
  declare {makings machine _} name known course :=
    ⟨makings, List.prefix_rfl, course.declare machine.scope name (values_made.1 known)⟩
  close {_ machine _ parameters body} _ course :=
    ⟨_, List.prefix_append .., ⟨_, List.mem_append_right _ List.mem_cons_self, rfl⟩,
      course.make (.function ⟨machine.scope, parameters, body⟩)⟩
  enter {makings function _ _} _ known course :=
    ⟨makings, List.prefix_rfl, course.enclose <| function.binds_frame fun value member =>
      values_made.1 (known value member)⟩

/-- The value of an expression was made on the way, or before. -/
theorem Course.evaluate {makings : List Making} {machine after : Machine} {value : Value}
    (course : Course makings machine.toStore) {tree : Expression}
    (ended : tree.evaluate machine = .ok value after) :
    ∃ later, makings <+: later ∧ Course later after.toStore ∧ value.IsFrom later := by
  have kind : Custody.made.expressions tree := trivial
  have kept := Custody.evaluate_keeps Custody.made_lawful
    (Custody.callWithin_keeps Custody.made_lawful maximumCallDepth) kind machine course
  change Custody.made.Results makings _ (tree.evaluate machine) at kept
  rw [ended] at kept
  cases kept with
  | ok more known course => exact ⟨_, more, course, Custody.values_made.1 known⟩

end MonkeyLang
