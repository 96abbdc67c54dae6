import MonkeyLang.Evaluation.Value

namespace MonkeyLang

/-!
# Frames of bindings

Names are bound in frames.  A frame that is not global has a parent, in which a
name is looked up that the frame itself does not bind.  Frames are numbered in
the order in which they are made, and a parent is made before its children; so
a look-up, which goes from a frame to its parent, comes to an end.

A frame keeps its bindings in order of their names, each name bound once.  What
it shows therefore depends on its bindings alone, and not on the order in which
they were made.
-/

namespace Bindings

/-- Bindings with a name bound to a value, instead of any value that it was bound
to before.  The order of the names is kept. -/
def insert (name : String) (value : Value) :
    List (String × Value) -> List (String × Value)
  | [] => [(name, value)]
  | binding :: later =>
      if name < binding.1 then (name, value) :: binding :: later
      else if name = binding.1 then (name, value) :: later
      else binding :: insert name value later

theorem lookup_cons_self (name : String) (value : Value) (later : List (String × Value)) :
    ((name, value) :: later).lookup name = some value := by
  simp

theorem lookup_cons_ne {name other : String} (different : other ≠ name) (value : Value)
    (later : List (String × Value)) :
    ((name, value) :: later).lookup other = later.lookup other := by
  have unequal : (other == name) = false := by simpa using different
  rw [List.lookup_cons, unequal]

/-- A name has the value that it was bound to last, and no other name changes. -/
theorem lookup_insert (name other : String) (value : Value)
    (bindings : List (String × Value)) :
    (insert name value bindings).lookup other =
      if other = name then some value else bindings.lookup other := by
  induction bindings with
  | nil =>
      split
      · next same => exact same ▸ lookup_cons_self other value []
      · next different => exact lookup_cons_ne different value []
  | cons binding later ih =>
      obtain ⟨bound, old⟩ := binding
      unfold insert
      split
      · split
        · next same => exact same ▸ lookup_cons_self other value _
        · next different => exact lookup_cons_ne different value _
      · split
        · next same =>
            subst same
            split
            · next same => exact same ▸ lookup_cons_self other value _
            · next different => rw [lookup_cons_ne different, lookup_cons_ne different]
        · next different =>
            by_cases here : other = bound
            · subst here
              rw [lookup_cons_self, lookup_cons_self, if_neg (Ne.symm different)]
            · rw [lookup_cons_ne here, lookup_cons_ne here, ih]

theorem mem_of_mem_insert {name : String} {value : Value} {bindings : List (String × Value)}
    {binding : String × Value} (member : binding ∈ insert name value bindings) :
    binding = (name, value) ∨ binding ∈ bindings := by
  induction bindings with
  | nil => simpa [insert] using member
  | cons head later ih =>
      unfold insert at member
      grind

/-- The names stay in order, each of them bound once. -/
theorem ordered_insert {bindings : List (String × Value)}
    (ordered : bindings.Pairwise (·.1 < ·.1)) (name : String) (value : Value) :
    (insert name value bindings).Pairwise (·.1 < ·.1) := by
  induction bindings with
  | nil => exact List.pairwise_singleton _ _
  | cons head later ih =>
      have bound := List.pairwise_cons.mp ordered
      unfold insert
      split
      · next before =>
          refine List.pairwise_cons.mpr ⟨fun other member => ?_, ordered⟩
          rcases List.mem_cons.mp member with same | inside
          · exact same ▸ before
          · exact String.lt_trans before (bound.1 other inside)
      · split
        · next same =>
            exact List.pairwise_cons.mpr
              ⟨fun other member => same ▸ bound.1 other member, bound.2⟩
        · next notBefore different =>
            refine List.pairwise_cons.mpr ⟨fun other member => ?_, ih bound.2⟩
            rcases mem_of_mem_insert member with same | inside
            · rw [same]
              grind
            · exact bound.1 other inside

end Bindings

/-- Bindings in order of their names, and the frame around them. -/
structure Frame where
  bindings : List (String × Value)
  parent : Option FrameId

namespace Frame

/-- A frame without bindings. -/
def empty (parent : Option FrameId) : Frame := ⟨[], parent⟩

/-- The value that a frame itself binds a name to. -/
def find? (frame : Frame) (name : String) : Option Value :=
  frame.bindings.lookup name

/-- A frame in which a name is bound to a value. -/
def declare (frame : Frame) (name : String) (value : Value) : Frame :=
  { frame with bindings := Bindings.insert name value frame.bindings }

/-- A frame in which several names are bound one after another. -/
def declareAll (frame : Frame) : List (String × Value) -> Frame
  | [] => frame
  | (name, value) :: later => (frame.declare name value).declareAll later

theorem find?_declare (frame : Frame) (name other : String) (value : Value) :
    (frame.declare name value).find? other =
      if other = name then some value else frame.find? other :=
  Bindings.lookup_insert name other value frame.bindings

theorem parent_declare (frame : Frame) (name : String) (value : Value) :
    (frame.declare name value).parent = frame.parent := rfl

end Frame

/-- The frames made so far, by their numbers. -/
abbrev Frames := Array Frame

namespace Frames

/-- The frame around a frame.  A link to a frame that is not older, which is
never made, counts as none. -/
def parent? (frames : Frames) (frame : FrameId) : Option FrameId :=
  ((frames[frame]?).bind (·.parent)).filter (· < frame)

theorem parent?_lt {frames : Frames} {frame parent : FrameId}
    (found : frames.parent? frame = some parent) : parent < frame := by
  unfold parent? at found
  simpa using (Option.filter_eq_some_iff.mp found).2

/-- The frames in which a name is looked up, starting from a frame. -/
def chain (frames : Frames) (frame : FrameId) : List FrameId :=
  match _link : frames.parent? frame with
  | none => [frame]
  | some parent => frame :: frames.chain parent
termination_by frame
decreasing_by exact parent?_lt _link

/-- The value of a name, which is that of the nearest frame that binds it. -/
def find? (frames : Frames) (frame : FrameId) (name : String) : Option Value :=
  match (frames[frame]?).bind (·.find? name) with
  | some value => some value
  | none =>
      match _link : frames.parent? frame with
      | none => none
      | some parent => frames.find? parent name
termination_by frame
decreasing_by exact parent?_lt _link

/-- A name has the value that the frame itself binds it to. -/
theorem find?_of_own {frames : Frames} {frame : FrameId} {name : String} {value : Value}
    (own : (frames[frame]?).bind (·.find? name) = some value) :
    frames.find? frame name = some value := by
  rw [find?, own]

/-- A name that a frame without a parent does not bind has no value. -/
theorem find?_of_global {frames : Frames} {frame : FrameId} {name : String}
    (own : (frames[frame]?).bind (·.find? name) = none) (link : frames.parent? frame = none) :
    frames.find? frame name = none := by
  rw [find?, own]
  dsimp only
  split
  · rfl
  · next found => simp [link] at found

/-- A name that a frame does not bind has the value that it has in the parent. -/
theorem find?_of_parent {frames : Frames} {frame parent : FrameId} {name : String}
    (own : (frames[frame]?).bind (·.find? name) = none)
    (link : frames.parent? frame = some parent) :
    frames.find? frame name = frames.find? parent name := by
  rw [find?, own]
  dsimp only
  split
  · next found => simp [link] at found
  · next found =>
      rw [link] at found
      cases found
      rfl

/-- The frames with a name bound in one of them. -/
def declare (frames : Frames) (frame : FrameId) (name : String) (value : Value) : Frames :=
  frames.modify frame (·.declare name value)

end Frames

end MonkeyLang
