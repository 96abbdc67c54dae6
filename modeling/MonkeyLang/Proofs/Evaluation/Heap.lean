import Mathlib.Logic.Relator
import MonkeyLang.Proofs.Evaluation.Correspondence

namespace MonkeyLang

/-!
# Frames that correspond

Matched frames bind matched names to values that correspond, and the frames around
them are matched in turn.  A look-up then finds corresponding values on both sides,
or none on both.  As long as names and frames are matched one to one, binding a
name in matched frames and making a new frame on both sides keep this up.
-/

/-! ## The frames around frames -/

namespace Frames

theorem parent?_declare (frames : Frames) (frame other : FrameId) (name : String)
    (value : Value) : (frames.declare frame name value).parent? other = frames.parent? other := by
  rw [parent?, parent?, declare, Array.getElem?_modify]
  split
  · cases frames[other]? <;> rfl
  · rfl

theorem parent?_push_of_ne (frames : Frames) (frame : Frame) {other : FrameId}
    (older : other ≠ frames.size) :
    parent? (frames.push frame) other = frames.parent? other := by
  rw [parent?, parent?, Array.getElem?_push, if_neg older]

theorem parent?_push_size (frames : Frames) (frame : Frame) :
    parent? (frames.push frame) frames.size = frame.parent.filter (· < frames.size) := by
  rw [parent?, Array.getElem?_push, if_pos rfl]
  rfl

end Frames

theorem Frame.parent_declareAll (frame : Frame) (bindings : List (String × Value)) :
    (frame.declareAll bindings).parent = frame.parent := by
  induction bindings generalizing frame with
  | nil => rfl
  | cons binding later ih => exact ih (frame.declare binding.1 binding.2)

theorem Function.parent_frame (function : Function) (arguments : List Value) :
    (function.frame arguments).parent = some function.scope :=
  Frame.parent_declareAll ..

namespace Matching

section

variable (between : Matching) (world : between.World)

/-- Frames that bind matched names to values that correspond. -/
structure FramesAgree (first second : Frame) : Prop where
  find? : ∀ {name name'}, between.names name name' ->
    between.OptionalValues world (first.find? name) (second.find? name')

/-- Numbers of frames that are there and agree, as do the frames around them. -/
structure PlacesAgree (first second : Frames) (frame frame' : FrameId) : Prop where
  frames : ∃ found found', first[frame]? = some found ∧ second[frame']? = some found' ∧
    between.FramesAgree world found found'
  parents : Option.Rel (between.scopes world) (first.parent? frame) (second.parent? frame')

/-- Frames of which the matched ones agree. -/
structure HeapsAgree (first second : Frames) : Prop where
  place : ∀ {frame frame'}, between.scopes world frame frame' ->
    between.PlacesAgree world first second frame frame'

end

variable {between : Matching} {world later : between.World}

/-! ## Single frames -/

theorem OptionalValues.mono {value value' : Option Value}
    (related : between.OptionalValues world value value')
    (values : ∀ {value value'}, between.Values world value value' ->
      between.Values later value value') :
    between.OptionalValues later value value' := by
  cases related with
  | none => exact .none
  | some inside => exact .some (values inside)

theorem FramesAgree.empty (parent parent' : Option FrameId) :
    between.FramesAgree world (Frame.empty parent) (Frame.empty parent') :=
  ⟨fun _ => .none⟩

theorem FramesAgree.declare {first second : Frame} (unique : Relator.BiUnique between.names)
    (agree : between.FramesAgree world first second) {name name' : String}
    (names : between.names name name') {value value' : Value}
    (related : between.Values world value value') :
    between.FramesAgree world (first.declare name value) (second.declare name' value') := by
  refine ⟨fun {other other'} others => ?_⟩
  have same : other = name ↔ other' = name' := Relator.rel_eq unique others names
  rw [Frame.find?_declare, Frame.find?_declare]
  by_cases here : other = name
  · rw [if_pos here, if_pos (same.1 here)]
    exact .some related
  · rw [if_neg here, if_neg (mt same.2 here)]
    exact agree.find? others

theorem FramesAgree.mono {first second : Frame} (agree : between.FramesAgree world first second)
    (values : ∀ {value value'}, between.Values world value value' ->
      between.Values later value value') :
    between.FramesAgree later first second :=
  ⟨fun names => (agree.find? names).mono values⟩

/-- Bindings of matched names to values that correspond. -/
abbrev BindingsAgree (between : Matching) (world : between.World)
    (first second : List (String × Value)) : Prop :=
  List.Forall₂ (fun binding other =>
    between.names binding.1 other.1 ∧ between.Values world binding.2 other.2) first second

theorem FramesAgree.declareAll {first second : Frame} (unique : Relator.BiUnique between.names)
    (agree : between.FramesAgree world first second) {bindings bindings' : List (String × Value)}
    (related : between.BindingsAgree world bindings bindings') :
    between.FramesAgree world (first.declareAll bindings) (second.declareAll bindings') := by
  induction related generalizing first second with
  | nil => exact agree
  | cons binding _ ih => exact ih (agree.declare unique binding.1 binding.2)

theorem BindingsAgree.zip {parameters parameters' : List Identifier}
    (names : ParametersResemble between.names parameters parameters')
    {values values' : List Value} (related : List.Forall₂ (between.Values world) values values') :
    between.BindingsAgree world ((parameters.map (·.name)).zip values)
      ((parameters'.map (·.name)).zip values') := by
  induction names generalizing values values' with
  | nil => exact .nil
  | cons name _ ih =>
      cases related with
      | nil => exact .nil
      | cons value others => exact .cons ⟨name, value⟩ (ih others)

/-- The frames of two calls agree where the functions and the arguments do. -/
theorem FramesAgree.of_call (unique : Relator.BiUnique between.names)
    {function function' : Function} (functions : between.Functions world function function')
    {arguments arguments' : List Value}
    (values : List.Forall₂ (between.Values world) arguments arguments') :
    between.FramesAgree world (function.frame arguments) (function'.frame arguments') :=
  (FramesAgree.empty (some function.scope) (some function'.scope)).declareAll unique
    (.zip functions.parameters values)

/-! ## All frames -/

theorem parents_mono {parent parent' : Option FrameId}
    (parents : Option.Rel (between.scopes world) parent parent')
    (scopes : ∀ {frame frame'}, between.scopes world frame frame' ->
      between.scopes later frame frame') :
    Option.Rel (between.scopes later) parent parent' := by
  cases parents with
  | none => exact .none
  | some matched => exact .some (scopes matched)

theorem PlacesAgree.mono {first second : Frames} {frame frame' : FrameId}
    (agree : between.PlacesAgree world first second frame frame')
    (scopes : ∀ {frame frame'}, between.scopes world frame frame' ->
      between.scopes later frame frame')
    (values : ∀ {value value'}, between.Values world value value' ->
      between.Values later value value') :
    between.PlacesAgree later first second frame frame' := by
  rcases agree.frames with ⟨found, found', there, there', each⟩
  exact ⟨⟨found, found', there, there', each.mono values⟩, parents_mono agree.parents scopes⟩

namespace PlacesAgree

variable {first second : Frames} {frame frame' : FrameId}
  (agree : between.PlacesAgree world first second frame frame')
include agree

/-- What a name is bound to in a frame has a counterpart. -/
theorem exists_value {found : Frame} (there : first[frame]? = some found) {name name' : String}
    (names : between.names name name') {value : Value} (own : found.find? name = some value) :
    ∃ found' value', second[frame']? = some found' ∧ found'.find? name' = some value' ∧
      between.Values world value value' := by
  rcases agree.frames with ⟨_, found', here, there', each⟩
  cases there.symm.trans here
  have related := each.find? names
  rw [own] at related
  generalize own' : found'.find? name' = other at related
  cases related with
  | some inside => exact ⟨found', _, there', own', inside⟩

/-- The frame around a frame has a counterpart. -/
theorem exists_parent {parent : FrameId} (link : first.parent? frame = some parent) :
    ∃ parent', between.scopes world parent parent' := by
  have parents := agree.parents
  rw [link] at parents
  generalize second.parent? frame' = other at parents
  cases parents with
  | some matched => exact ⟨_, matched⟩

end PlacesAgree

namespace HeapsAgree

variable {first second : Frames} (agree : between.HeapsAgree world first second)
include agree

/-- A look-up goes through matched frames on the two sides. -/
theorem find? {frame frame' : FrameId} (frames : between.scopes world frame frame')
    {name name' : String} (names : between.names name name') :
    between.OptionalValues world (first.find? frame name) (second.find? frame' name') := by
  induction frame using Nat.strongRecOn generalizing frame' with
  | ind frame ih =>
      rcases (agree.place frames).frames with ⟨found, found', there, there', each⟩
      have own := each.find? names
      generalize bound : found.find? name = value at own
      generalize bound' : found'.find? name' = value' at own
      replace bound : first[frame]?.bind (·.find? name) = value := by rw [there]; exact bound
      replace bound' : second[frame']?.bind (·.find? name') = value' := by rw [there']; exact bound'
      cases own with
      | some related =>
          rw [Frames.find?_of_own bound, Frames.find?_of_own bound']
          exact .some related
      | none =>
          have link := (agree.place frames).parents
          generalize above : first.parent? frame = parent at link
          generalize above' : second.parent? frame' = parent' at link
          cases link with
          | none =>
              rw [Frames.find?_of_global bound above, Frames.find?_of_global bound' above']
              exact .none
          | some parents =>
              rw [Frames.find?_of_parent bound above, Frames.find?_of_parent bound' above']
              exact ih _ (Frames.parent?_lt above) parents

theorem declare (unique : Relator.BiUnique between.names)
    (scopes : Relator.BiUnique (between.scopes world)) {frame frame' : FrameId}
    (frames : between.scopes world frame frame') {name name' : String}
    (names : between.names name name') {value value' : Value}
    (related : between.Values world value value') :
    between.HeapsAgree world (first.declare frame name value)
      (second.declare frame' name' value') := by
  refine ⟨fun {other other'} others => ⟨?_, ?_⟩⟩
  · have same : frame = other ↔ frame' = other' := Relator.rel_eq scopes frames others
    rcases (agree.place others).frames with ⟨found, found', there, there', each⟩
    rw [Frames.declare, Frames.declare, Array.getElem?_modify, Array.getElem?_modify, there, there']
    by_cases here : frame = other
    · rw [if_pos here, if_pos (same.1 here)]
      exact ⟨_, _, rfl, rfl, each.declare unique names related⟩
    · rw [if_neg here, if_neg (mt same.2 here)]
      exact ⟨_, _, rfl, rfl, each⟩
  · rw [Frames.parent?_declare, Frames.parent?_declare]
    exact (agree.place others).parents

/-- Frames go on agreeing when more functions are matched. -/
theorem mono (scopes : ∀ {frame frame'}, between.scopes world frame frame' ->
      between.scopes later frame frame')
    (scopes' : ∀ {frame frame'}, between.scopes later frame frame' ->
      between.scopes world frame frame')
    (values : ∀ {value value'}, between.Values world value value' ->
      between.Values later value value') :
    between.HeapsAgree later first second :=
  ⟨fun matched => (agree.place (scopes' matched)).mono scopes values⟩

/-- New frames that agree are matched, and no old frame is matched anew. -/
theorem push (scopes : ∀ {frame frame'}, between.scopes world frame frame' ->
      between.scopes later frame frame')
    (values : ∀ {value value'}, between.Values world value value' ->
      between.Values later value value')
    (oldOrNew : ∀ {frame frame'}, between.scopes later frame frame' ->
      (between.scopes world frame frame' ∧ frame ≠ first.size ∧ frame' ≠ second.size) ∨
        (frame = first.size ∧ frame' = second.size))
    {newest newest' : Frame} (frames : between.FramesAgree later newest newest')
    (parents : Option.Rel (between.scopes world) (newest.parent.filter (· < first.size))
      (newest'.parent.filter (· < second.size))) :
    between.HeapsAgree later (first.push newest) (second.push newest') := by
  refine ⟨fun {frame frame'} matched => ?_⟩
  rcases oldOrNew matched with ⟨old, older, older'⟩ | ⟨rfl, rfl⟩
  · have place := (agree.place old).mono scopes values
    refine ⟨?_, ?_⟩
    · rw [Array.getElem?_push, Array.getElem?_push, if_neg older, if_neg older']
      exact place.frames
    · rw [Frames.parent?_push_of_ne _ _ older, Frames.parent?_push_of_ne _ _ older']
      exact place.parents
  · refine ⟨?_, ?_⟩
    · rw [Array.getElem?_push, Array.getElem?_push, if_pos rfl, if_pos rfl]
      exact ⟨newest, newest', rfl, rfl, frames⟩
    · rw [Frames.parent?_push_size, Frames.parent?_push_size]
      exact parents_mono parents scopes

end HeapsAgree

end Matching
end MonkeyLang
