import MonkeyLang.Description
import MonkeyLang.Proofs.Evaluation.Heap
import MonkeyLang.Proofs.Evaluation.Observation
import MonkeyLang.Proofs.Evaluation.Printing

namespace MonkeyLang

/-!
# Runs that differ in tokens

The functions that a run makes keep the tokens of their bodies, and a run never looks at
them.  So programs that differ in tokens only, run on one machine or on machines that
differ in tokens only, make the same frames under the same numbers, give out the same
identities and print the same lines.  In contrast to runs under other numbers nothing is
asked of the machines here: a number of a frame that is not there is not there on the
other side either.
-/

/-- The matching of runs that differ in tokens. -/
def Matching.upToTokens : Matching where
  World := Unit
  later _ _ := True
  names := Eq
  scopes _ := Eq
  identities _ := Eq

open Matching (upToTokens)

/-- Values that differ in tokens only. -/
abbrev ValuesAlike : Value -> Value -> Prop := upToTokens.Values ()

/-- The same names in the same order, bound to values that differ in tokens only. -/
abbrev BindingsAlike : List (String × Value) -> List (String × Value) -> Prop :=
  upToTokens.BindingsAgree ()

theorem ValuesAlike.self (value : Value) : ValuesAlike value value := by
  cases value with
  | integer value => exact .integer value
  | boolean value => exact .boolean value
  | null => exact .null
  | closure callee =>
      rcases callee with ⟨identity, callable⟩
      cases callable with
      | builtin named => exact .closure rfl (.builtin named)
      | function literal =>
          exact .closure rfl
            (.function ⟨rfl, .self literal.parameters, literal.body.resembles_self⟩)

/-! ## Bindings and frames -/

namespace BindingsAlike

variable {bindings bindings' : List (String × Value)}

theorem lookup (alike : BindingsAlike bindings bindings') (name : String) :
    upToTokens.OptionalValues () (bindings.lookup name) (bindings'.lookup name) := by
  induction alike with
  | nil => exact .none
  | @cons binding binding' later later' head _ ih =>
      rcases binding with ⟨bound, value⟩
      rcases binding' with ⟨bound', value'⟩
      rcases head with ⟨rfl, values⟩
      by_cases here : name = bound
      · subst here
        rw [Bindings.lookup_cons_self, Bindings.lookup_cons_self]
        exact .some values
      · rw [Bindings.lookup_cons_ne here, Bindings.lookup_cons_ne here]
        exact ih

theorem insert (alike : BindingsAlike bindings bindings') (name : String) {value value' : Value}
    (values : ValuesAlike value value') :
    BindingsAlike (Bindings.insert name value bindings) (Bindings.insert name value' bindings') := by
  induction alike with
  | nil => exact .cons ⟨rfl, values⟩ .nil
  | @cons binding binding' later later' head others ih =>
      have names : binding.1 = binding'.1 := head.1
      rw [Bindings.insert, Bindings.insert, names]
      split
      · exact .cons ⟨rfl, values⟩ (.cons head others)
      · split
        · exact .cons ⟨rfl, values⟩ others
        · exact .cons head ih

end BindingsAlike

/-- Frames that differ in the tokens of their values only. -/
structure FramesAlike (first second : Frame) : Prop where
  parent : first.parent = second.parent
  bindings : BindingsAlike first.bindings second.bindings

namespace FramesAlike

theorem self (frame : Frame) : FramesAlike frame frame where
  parent := rfl
  bindings := List.forall₂_same.mpr fun binding _ => ⟨rfl, ValuesAlike.self binding.2⟩

variable {first second : Frame} (alike : FramesAlike first second)
include alike

theorem declare (name : String) {value value' : Value} (values : ValuesAlike value value') :
    FramesAlike (first.declare name value) (second.declare name value') where
  parent := alike.parent
  bindings := alike.bindings.insert name values

theorem declareAll {bindings bindings' : List (String × Value)}
    (all : BindingsAlike bindings bindings') :
    FramesAlike (first.declareAll bindings) (second.declareAll bindings') := by
  induction all generalizing first second with
  | nil => exact alike
  | @cons binding binding' _ _ head _ ih =>
      rcases binding with ⟨name, value⟩
      rcases binding' with ⟨name', value'⟩
      rcases head with ⟨rfl, values⟩
      exact ih (alike.declare name values)

end FramesAlike

/-- The frames of calls of one function, up to tokens, with the same arguments. -/
theorem FramesAlike.of_call {function function' : Function}
    (functions : upToTokens.Functions () function function') {arguments arguments' : List Value}
    (values : List.Forall₂ ValuesAlike arguments arguments') :
    FramesAlike (function.frame arguments) (function'.frame arguments') := by
  have start : FramesAlike (.empty (some function.scope)) (.empty (some function'.scope)) :=
    ⟨congrArg some functions.scope, .nil⟩
  exact start.declareAll (.zip functions.parameters values)

/-! ## Heaps -/

/-- Frames under the same numbers that differ in the tokens of their values only. -/
structure HeapsAlike (first second : Frames) : Prop where
  size : first.size = second.size
  each : ∀ frame : FrameId, Option.Rel FramesAlike first[frame]? second[frame]?

namespace HeapsAlike

theorem self (frames : Frames) : HeapsAlike frames frames where
  size := rfl
  each frame := by
    cases frames[frame]? with
    | none => exact .none
    | some found => exact .some (.self found)

variable {first second : Frames} (alike : HeapsAlike first second)
include alike

/-- What is alike of two frames that are alike is the same of those under one number. -/
theorem bind_eq {Seen : Type} {view : Frame -> Option Seen}
    (sees : ∀ {found found'}, FramesAlike found found' -> view found = view found')
    (frame : FrameId) : first[frame]?.bind view = second[frame]?.bind view := by
  have each := alike.each frame
  generalize first[frame]? = found at each ⊢
  generalize second[frame]? = found' at each ⊢
  cases each with
  | none => rfl
  | some frames => exact sees frames

theorem parent?_eq (frame : FrameId) : first.parent? frame = second.parent? frame := by
  have same : (first[frame]?).bind (·.parent) = (second[frame]?).bind (·.parent) :=
    alike.bind_eq FramesAlike.parent frame
  rw [Frames.parent?, Frames.parent?, same]

theorem own (frame : FrameId) (name : String) :
    upToTokens.OptionalValues () ((first[frame]?).bind (·.find? name))
      ((second[frame]?).bind (·.find? name)) := by
  have each := alike.each frame
  generalize first[frame]? = found at each
  generalize second[frame]? = found' at each
  cases each with
  | none => exact .none
  | some frames => exact frames.bindings.lookup name

/-- A look-up goes through the same frames on the two sides. -/
theorem find? (frame : FrameId) (name : String) :
    upToTokens.OptionalValues () (first.find? frame name) (second.find? frame name) := by
  induction frame using Nat.strongRecOn with
  | ind frame ih =>
      have own := alike.own frame name
      have parents := alike.parent?_eq frame
      generalize bound : (first[frame]?).bind (·.find? name) = value at own
      generalize bound' : (second[frame]?).bind (·.find? name) = value' at own
      cases own with
      | some values =>
          rw [Frames.find?_of_own bound, Frames.find?_of_own bound']
          exact .some values
      | none =>
          cases link : first.parent? frame with
          | none =>
              rw [Frames.find?_of_global bound link,
                Frames.find?_of_global bound' (parents ▸ link)]
              exact .none
          | some parent =>
              rw [Frames.find?_of_parent bound link,
                Frames.find?_of_parent bound' (parents ▸ link)]
              exact ih parent (Frames.parent?_lt link)

theorem declare (frame : FrameId) (name : String) {value value' : Value}
    (values : ValuesAlike value value') :
    HeapsAlike (first.declare frame name value) (second.declare frame name value') where
  size := by rw [Frames.declare, Frames.declare, Array.size_modify, Array.size_modify, alike.size]
  each other := by
    rw [Frames.declare, Frames.declare, Array.getElem?_modify, Array.getElem?_modify]
    have each := alike.each other
    split
    · generalize first[other]? = found at each ⊢
      generalize second[other]? = found' at each ⊢
      cases each with
      | none => exact .none
      | some frames => exact .some (frames.declare name values)
    · exact each

theorem push {newest newest' : Frame} (frames : FramesAlike newest newest') :
    HeapsAlike (first.push newest) (second.push newest') where
  size := by rw [Array.size_push, Array.size_push, alike.size]
  each other := by
    rw [Array.getElem?_push, Array.getElem?_push, alike.size]
    split
    · exact .some frames
    · exact alike.each other

end HeapsAlike

/-! ## Machines -/

/-- Machines that differ in tokens only, and whose sinks took the same since they had
taken certain prints. -/
structure MachinesAlike (before : List Print) (first second : Machine) : Prop where
  heaps : HeapsAlike first.frames second.frames
  identities : first.identities = second.identities
  sinks : SinksAgree before before first.sink second.sink
  scope : first.scope = second.scope
  depth : first.depth = second.depth

theorem MachinesAlike.self (machine : Machine) :
    MachinesAlike machine.sink.prints machine machine :=
  ⟨.self machine.frames, rfl, .start rfl, rfl, rfl⟩

/-- The correspondence of runs that differ in tokens. -/
def upToTokensSince (before : List Print) : Correspondence where
  toMatching := upToTokens
  machines _ := MachinesAlike before

variable {before : List Print}

theorem upToTokensSince_lawful : (upToTokensSince before).Lawful where
  refl _ := trivial
  trans _ _ := trivial
  scopes_mono _ same := same
  identities_mono _ same := same
  identities_iff := by
    rintro world first first' second second' rfl rfl
    exact Iff.rfl
  depth machines := machines.depth
  scope machines := machines.scope
  withDepth same machines := { machines with depth := same }
  withScope same machines := { machines with scope := same }
  lookup := by
    rintro world name _ rfl machine machine' machines
    have found := machines.heaps.find? machine.scope name
    unfold Run.lookup
    rw [← machines.scope]
    generalize machine.frames.find? machine.scope name = value at found ⊢
    generalize machine'.frames.find? machine.scope name = value' at found ⊢
    cases found with
    | none => exact .error trivial (.failed (.unknownIdentifier rfl)) machines
    | some values => exact .ok trivial values machines
  declare := by
    rintro world name _ value value' rfl values machine machine' machines
    have heaps := machines.heaps.declare machine.scope name values
    have after : (upToTokensSince before).machines world
        { machine with frames := machine.frames.declare machine.scope name value }
        { machine' with frames := machine'.frames.declare machine'.scope name value' } :=
      { machines with heaps := machines.scope ▸ heaps }
    exact .ok trivial trivial after
  close := by
    intro world parameters parameters' body body' names bodies machine machine' machines
    have made : ValuesAlike
        (.closure ⟨machine.identities, .function ⟨machine.scope, parameters, body⟩⟩)
        (.closure ⟨machine'.identities, .function ⟨machine'.scope, parameters', body'⟩⟩) :=
      .closure machines.identities (.function ⟨machines.scope, names, bodies⟩)
    have after : MachinesAlike before { machine with identities := machine.identities + 1 }
        { machine' with identities := machine'.identities + 1 } :=
      { machines with identities := congrArg (· + 1) machines.identities }
    exact .ok trivial made after
  print := by
    intro world value value' values machine machine' machines
    have text : value.text = value'.text :=
      Matching.Values.text_eq (rfl : (upToTokensSince before).names = Eq) values
    rcases machines.sinks.accept text with ⟨whole, sinks⟩
    have after : (upToTokensSince before).machines world
        { machine with sink := (machine.sink.accept value).2 }
        { machine' with sink := (machine'.sink.accept value').2 } :=
      { machines with sinks := sinks }
    rw [Run.print_eq, Run.print_eq, whole]
    split
    · exact .ok trivial trivial after
    · exact .error trivial (.failed (.plain rfl)) after
  enter := by
    intro world function function' arguments arguments' machine machine' functions values machines
    have heaps := machines.heaps.push (FramesAlike.of_call functions values)
    exact ⟨(), trivial, { machines with heaps := heaps, scope := machines.heaps.size }⟩

/-! ## What is shown -/

/-- The names that a frame binds and the texts of their values, where there is such a
frame. -/
def Machine.listing? (machine : Machine) (frame : FrameId) : Option (List (String × String)) :=
  machine.frames[frame]?.map Frame.listing

/-- Machines that show the same: their sinks took the same bytes, every frame lists the
same names with the same texts of values, and the same interpreter runs on them. -/
structure ShowTheSame (first second : Machine) : Prop where
  bytes : first.sink.bytes = second.sink.bytes
  listings : ∀ frame, first.listing? frame = second.listing? frame
  interpreter : first.interpreter = second.interpreter

namespace ShowTheSame

theorem symm {first second : Machine} (same : ShowTheSame first second) :
    ShowTheSame second first :=
  ⟨same.bytes.symm, fun frame => (same.listings frame).symm, same.interpreter.symm⟩

theorem trans {first second third : Machine} (same : ShowTheSame first second)
    (same' : ShowTheSame second third) : ShowTheSame first third :=
  ⟨same.bytes.trans same'.bytes, fun frame => (same.listings frame).trans (same'.listings frame),
    same.interpreter.trans same'.interpreter⟩

end ShowTheSame

theorem FramesAlike.listing_eq {first second : Frame} (alike : FramesAlike first second) :
    first.listing = second.listing := by
  have bindings := alike.bindings
  unfold Frame.listing
  generalize first.bindings = listed at bindings ⊢
  generalize second.bindings = listed' at bindings ⊢
  induction bindings with
  | nil => rfl
  | @cons binding binding' _ _ head _ ih =>
      have names : binding.1 = binding'.1 := head.1
      have texts : binding.2.text = binding'.2.text :=
        Matching.Values.text_eq (rfl : (upToTokensSince []).names = Eq) head.2
      rw [List.map_cons, List.map_cons, ih, names, texts]

theorem MachinesAlike.showTheSame {first second : Machine}
    (alike : MachinesAlike before first second) : ShowTheSame first second where
  bytes := by
    rcases alike.sinks.bytes with ⟨written, bytes, bytes'⟩
    rw [bytes, bytes']
  listings frame := by
    rw [Machine.listing?, Machine.listing?, Option.map_eq_bind, Option.map_eq_bind]
    exact alike.heaps.bind_eq (fun frames => congrArg some frames.listing_eq) frame
  interpreter := by rw [Machine.interpreter, Machine.interpreter, alike.scope, alike.depth]

/-- Programs that differ in tokens only show the same on every machine. -/
theorem Program.run_alike {first second : Program} (same : first.erased = second.erased)
    (machine : Machine) :
    observe (first.run machine).1 = observe (second.run machine).1 ∧
      ShowTheSame (first.run machine).2 (second.run machine).2 := by
  have bare (program : Program) :
      observe (program.run machine).1 = observe (program.erased.run machine).1 ∧
        ShowTheSame (program.run machine).2 (program.erased.run machine).2 := by
    have nothing : (upToTokensSince machine.sink.prints).OptionalValues () none none := .none
    rcases Correspondence.runStatements_inStep upToTokensSince_lawful
      (statementsResemble_eraseStatements program.statements) nothing
      (MachinesAlike.self machine) with ⟨_, _, reports, machines⟩
    exact ⟨reports.observe_eq rfl, machines.showTheSame⟩
  have one := bare first
  have other := bare second
  rw [same] at one
  exact ⟨one.1.trans other.1.symm, one.2.trans other.2.symm⟩

end MonkeyLang
