import MonkeyLang.Proofs.Evaluation.ScopeChains
import MonkeyLang.Proofs.Syntax.RoundTrip

namespace MonkeyLang

/-!
# Functions that show their names and numbers

The text of a function is that of its literal, and shows what it is made of when the names
in it are names and the numbers are digits.  A literal that was read from a source is of
that kind.  Runs put functions together from the literals of the program and from nothing
else; so as long as only such programs are run, all functions are of that kind, wherever
they are bound, given or printed.
-/

/-- Whether the text of something that can be called shows its names and numbers. -/
def Callable.Writable : Callable -> Prop
  | .function literal =>
      (∀ parameter ∈ literal.parameters, IsName parameter.name) ∧ literal.body.Writable
  | .builtin _ => True

/-- Whether the text of a value shows the names and numbers of a function. -/
def Value.Writable : Value -> Prop
  | .closure callee => callee.callable.Writable
  | _ => True

/-! ## What frames bind -/

section

variable {holds : Value -> Prop}

/-- A frame that binds names to values of some kind only. -/
structure Frame.Binds (holds : Value -> Prop) (frame : Frame) : Prop where
  own : ∀ {name : String} {value : Value}, frame.find? name = some value -> holds value

/-- Frames that bind names to values of some kind only. -/
structure Frames.Bind (holds : Value -> Prop) (frames : Frames) : Prop where
  each : ∀ {frame : FrameId} {found : Frame}, frames[frame]? = some found -> found.Binds holds

namespace Frame.Binds

variable {frame : Frame} (binds : frame.Binds holds)
include binds

theorem declare (name : String) {value : Value} (kind : holds value) :
    (frame.declare name value).Binds holds := by
  refine ⟨fun {other bound} own => ?_⟩
  rw [Frame.find?_declare] at own
  split at own
  · exact Option.some.inj own ▸ kind
  · exact binds.own own

theorem declareAll {bindings : List (String × Value)}
    (kinds : ∀ binding ∈ bindings, holds binding.2) :
    (frame.declareAll bindings).Binds holds := by
  induction bindings generalizing frame with
  | nil => exact binds
  | cons binding later ih =>
      have parts := List.forall_mem_cons.mp kinds
      exact ih (binds.declare binding.1 parts.1) parts.2

end Frame.Binds

theorem Frame.binds_empty (parent : Option FrameId) : (Frame.empty parent).Binds holds := by
  refine ⟨fun own => ?_⟩
  cases own

/-- The frame of a call binds arguments only. -/
theorem Function.binds_frame (function : Function) {arguments : List Value}
    (kinds : ∀ value ∈ arguments, holds value) : (function.frame arguments).Binds holds := by
  refine (Frame.binds_empty _).declareAll fun ⟨name, value⟩ member => ?_
  exact kinds value (List.of_mem_zip member).2

namespace Frames.Bind

variable {frames : Frames} (bind : frames.Bind holds)
include bind

theorem find? {frame : FrameId} {name : String} {value : Value}
    (found : frames.find? frame name = some value) : holds value := by
  rcases Frames.exists_own_of_find? found with ⟨owner, own⟩
  rcases Option.bind_eq_some_iff.mp own with ⟨found, there, bound⟩
  exact (bind.each there).own bound

theorem declare (owner : FrameId) (name : String) {value : Value} (kind : holds value) :
    (frames.declare owner name value).Bind holds := by
  refine ⟨fun {frame found} there => ?_⟩
  rcases exists_of_getElem?_declare there with ⟨old, before, rfl | rfl⟩
  · exact bind.each before
  · exact (bind.each before).declare name kind

theorem push {newest : Frame} (binds : newest.Binds holds) :
    Frames.Bind holds (frames.push newest) := by
  refine ⟨fun {frame found} there => ?_⟩
  rcases eq_or_of_getElem?_push there with ⟨_, rfl⟩ | there
  · exact binds
  · exact bind.each there

end Frames.Bind

end

/-! ## What runs bind, give and print -/

theorem Sink.values_accept (sink : Sink) (value : Value) :
    (sink.accept value).2.values = sink.values ++ [value] := by
  unfold Sink.accept Sink.values
  cases sink.room with
  | none => exact (congrArg (List.map _) (List.reverse_cons ..)).trans (List.map_append ..)
  | some room => exact (congrArg (List.map _) (List.reverse_cons ..)).trans (List.map_append ..)

/-- A store in which all functions that are bound or were printed show their names and
numbers. -/
structure Store.IsWritable (store : Store) : Prop where
  bound : store.frames.Bind Value.Writable
  printed : ∀ value ∈ store.sink.values, value.Writable

theorem Block.writable_iff (block : Block) :
    block.Writable ↔ ∀ statement ∈ block.statements, statement.Writable := by
  cases block with
  | mk token statements =>
      rw [Block.Writable]
      exact statementsWritable_iff statements

/-- The custody of functions that show their names and numbers, on runs of trees that do. -/
def Custody.writable : Custody where
  World := Unit
  later _ _ := True
  scopes _ _ := True
  callables _ callable := callable.Writable
  closures _ callee := callee.callable.Writable
  machines _ machine := machine.toStore.IsWritable
  expressions tree := tree.Writable
  statements tree := tree.Writable

theorem Custody.values_writable {world : Unit} {value : Value} :
    Custody.writable.Values world value ↔ value.Writable := by
  cases value <;> rfl

theorem Custody.writable_hereditary : Custody.writable.Hereditary where
  unary kind := by
    change Expression.Writable _ at kind
    rwa [Expression.Writable] at kind
  binary kind := by
    change Expression.Writable _ at kind
    rwa [Expression.Writable] at kind
  conditional kind := by
    change Expression.Writable _ at kind
    rw [Expression.writable_conditional_iff] at kind
    exact ⟨kind.1, (Block.writable_iff _).1 kind.2.1,
      fun block member => block.writable_iff.1 (kind.2.2 block member)⟩
  call kind := by
    change Expression.Writable _ at kind
    rw [Expression.Writable, allWritable_iff] at kind
    exact kind
  binding kind := by
    change Statement.Writable _ at kind
    rw [Statement.Writable] at kind
    exact kind.2
  returning kind := by
    change Statement.Writable _ at kind
    rwa [Statement.Writable] at kind
  expression kind := by
    change Statement.Writable _ at kind
    rwa [Statement.Writable] at kind

/-- A run makes functions of the literals that it meets, and hands on those that there are. -/
theorem Custody.writable_lawful : Custody.writable.Lawful where
  toHereditary := writable_hereditary
  refl _ := trivial
  trans _ _ := trivial
  scopes_mono _ _ := trivial
  callables_mono _ kind := kind
  closures_mono _ kind := kind
  callable kind := kind
  body {_ function} kind := (Block.writable_iff function.body).1 kind.2
  scope _ := trivial
  withScope _ kept := ⟨kept.bound, kept.printed⟩
  withDepth _ kept := ⟨kept.bound, kept.printed⟩
  print {_ machine value} kind kept := by
    refine ⟨(), trivial, kept.bound, ?_⟩
    rw [Sink.values_accept]
    exact List.forall_mem_append.mpr
      ⟨kept.printed, List.forall_mem_singleton.mpr (values_writable.1 kind)⟩
  lookup kept found := values_writable.2 (kept.bound.find? found)
  declare {_ machine _} name kind kept :=
    ⟨(), trivial, kept.bound.declare machine.scope name (values_writable.1 kind), kept.printed⟩
  close {_ _ _ parameters body} kind kept := by
    change Expression.Writable _ at kind
    rw [Expression.Writable] at kind
    exact ⟨(), trivial, kind, kept.bound, kept.printed⟩
  enter {_ function _ _} _ kinds kept :=
    ⟨(), trivial,
      kept.bound.push (function.binds_frame fun value member =>
        values_writable.1 (kinds value member)),
      kept.printed⟩

theorem writable_of_mem_builtinBindings (listed : List Builtin) (identity : Nat) :
    ∀ binding ∈ Interpreter.builtinBindings identity listed, binding.2.Writable := by
  induction listed generalizing identity with
  | nil => exact List.forall_mem_nil _
  | cons named later ih => exact List.forall_mem_cons.mpr ⟨trivial, ih (identity + 1)⟩

namespace Store.IsWritable

variable {store : Store} (writable : store.IsWritable)
include writable

theorem new : (Interpreter.new store).2.IsWritable where
  bound := writable.bound.push <|
    (Frame.binds_empty none).declareAll (writable_of_mem_builtinBindings _ _)
  printed := writable.printed

theorem declare (frame : FrameId) (name : String) {value : Value} (kind : value.Writable) :
    Store.IsWritable { store with frames := store.frames.declare frame name value } :=
  ⟨writable.bound.declare frame name kind, writable.printed⟩

/-- Behind a program that was read from a source all functions show their names and
numbers. -/
theorem run {source : String} {program : Program} (accepted : parse source = .ok program)
    (interpreter : Interpreter) :
    (program.run (interpreter.machine store)).2.toStore.IsWritable ∧
      ∀ value, (program.run (interpreter.machine store)).1 = .ok (some value) ->
        value.Writable := by
  have kind := (statementsWritable_iff _).1 (program.writable_of_parse accepted)
  have kept : Custody.writable.machines () (interpreter.machine store) := writable
  rcases Custody.run_behind Custody.writable_lawful kind kept with ⟨_, _, kept, values⟩
  exact ⟨kept, fun value given => Custody.values_writable.1 (values value given)⟩

theorem call {callee : Callable} (calleeKind : callee.Writable) {arguments : List Value}
    (kinds : ∀ value ∈ arguments, value.Writable) (interpreter : Interpreter) :
    (callee.callOn arguments (interpreter.machine store)).2.toStore.IsWritable ∧
      ∀ value, (callee.callOn arguments (interpreter.machine store)).1 = .ok value ->
        value.Writable := by
  have kept : Custody.writable.machines () (interpreter.machine store) := writable
  have known : ∀ value ∈ arguments, Custody.writable.Values () value := fun value member =>
    Custody.values_writable.2 (kinds value member)
  rcases Custody.callOn_behind Custody.writable_lawful calleeKind known kept with
    ⟨_, _, kept, values⟩
  exact ⟨kept, fun value given => Custody.values_writable.1 (values value given)⟩

end Store.IsWritable

end MonkeyLang
