import Mathlib.Data.List.Nodup
import MonkeyLang.Description
import MonkeyLang.Proofs.Evaluation.Identity

namespace MonkeyLang

open Text

/-!
# The listing of a frame

The text of a frame lists its bindings.  A frame that was made by binding names keeps each
name once and in order, however often and in whatever order they were bound; and no run makes
other frames.  So a listing is determined by the values that the names have at last, and by
their texts alone.

That the bindings are kept in order is a choice, and nothing depends on it.  A frame might
enumerate its bindings in any order; once the pairs of names and texts are sorted, they are
the listing.
-/

/-! ## Frames in order -/

namespace Frame

/-- Whether the bindings of a frame are in order of their names, with each name bound once. -/
def IsOrdered (frame : Frame) : Prop := frame.bindings.Pairwise (·.1 < ·.1)

/-- What the listing of a frame shows of a binding. -/
def shown (binding : String × Value) : String × String := (binding.1, binding.2.text)

theorem isOrdered_empty (parent : Option FrameId) : (empty parent).IsOrdered := .nil

variable {frame other : Frame}

theorem IsOrdered.declare (ordered : frame.IsOrdered) (name : String) (value : Value) :
    (frame.declare name value).IsOrdered :=
  Bindings.ordered_insert ordered name value

theorem IsOrdered.declareAll (ordered : frame.IsOrdered) (series : List (String × Value)) :
    (frame.declareAll series).IsOrdered := by
  induction series generalizing frame with
  | nil => exact ordered
  | cons binding later ih => exact ih (ordered.declare binding.1 binding.2)

/-- The bindings of a frame in order are those that are found in it. -/
theorem IsOrdered.mem_bindings_iff (ordered : frame.IsOrdered) {name : String} {value : Value} :
    (name, value) ∈ frame.bindings ↔ frame.find? name = some value := by
  rw [find?, List.lookup_eq_some_iff]
  constructor
  · intro member
    rcases List.append_of_mem member with ⟨front, behind, shape⟩
    refine ⟨front, behind, shape, fun binding early => ?_⟩
    rw [IsOrdered, shape] at ordered
    have before := (List.pairwise_append.mp ordered).2.2 binding early _ List.mem_cons_self
    exact bne_iff_ne.mpr fun same => String.lt_irrefl _ (same ▸ before)
  · rintro ⟨front, behind, shape, _⟩
    exact shape ▸ List.mem_append_right front List.mem_cons_self

theorem IsOrdered.listing_pairwise (ordered : frame.IsOrdered) :
    frame.listing.Pairwise (·.1 < ·.1) :=
  List.pairwise_map.mpr ordered

/-- A listing shows of each name the text of the value that is found. -/
theorem IsOrdered.mem_listing_iff (ordered : frame.IsOrdered) {name text : String} :
    (name, text) ∈ frame.listing ↔ (frame.find? name).map Value.text = some text := by
  rw [listing, List.mem_map, Option.map_eq_some_iff]
  constructor
  · rintro ⟨⟨bound, value⟩, member, same⟩
    cases same
    exact ⟨value, ordered.mem_bindings_iff.mp member, rfl⟩
  · rintro ⟨value, found, rfl⟩
    exact ⟨(name, value), ordered.mem_bindings_iff.mpr found, rfl⟩

end Frame

/-! ## Pairs in order -/

section

variable {α : Type} {pairs other : List (String × α)}

theorem nodup_of_pairwise_lt (ordered : pairs.Pairwise (·.1 < ·.1)) : pairs.Nodup := by
  refine ordered.imp fun {first second} before equal => ?_
  rw [equal] at before
  exact String.lt_irrefl _ before

/-- Pairs in strict order of their names are determined by what is among them. -/
theorem eq_of_pairwise_lt (ordered : pairs.Pairwise (·.1 < ·.1))
    (ordered' : other.Pairwise (·.1 < ·.1)) (same : ∀ pair, pair ∈ pairs ↔ pair ∈ other) :
    pairs = other := by
  have perm := (List.perm_ext_iff_of_nodup (nodup_of_pairwise_lt ordered)
    (nodup_of_pairwise_lt ordered')).mpr same
  refine List.Perm.eq_of_pairwise (fun _ _ _ _ before behind => ?_) ordered ordered' perm
  exact absurd (String.lt_trans before behind) (String.lt_irrefl _)

/-- Among pairs in strict order of their names no other pair has the name of one of them. -/
theorem filter_eq_singleton (ordered : pairs.Pairwise (·.1 < ·.1)) {pair : String × α}
    (member : pair ∈ pairs) : pairs.filter (·.1 = pair.1) = [pair] := by
  rcases List.append_of_mem member with ⟨front, behind, rfl⟩
  rcases List.pairwise_append.mp ordered with ⟨_, later, before⟩
  have early : front.filter (·.1 = pair.1) = [] := by
    refine List.filter_eq_nil_iff.mpr fun other inside same => ?_
    exact String.lt_irrefl _ (of_decide_eq_true same ▸ before other inside pair List.mem_cons_self)
  have late : behind.filter (·.1 = pair.1) = [] := by
    refine List.filter_eq_nil_iff.mpr fun other inside same => ?_
    exact String.lt_irrefl _ (of_decide_eq_true same ▸ (List.pairwise_cons.mp later).1 other inside)
  have here : decide (pair.1 = pair.1) = true := decide_eq_true rfl
  rw [List.filter_append, early, List.nil_append, List.filter_cons, if_pos here, late]

end

/-- The order of pairs of texts: that of the first texts, and of the second ones where the
first are the same. -/
def PairsInOrder (first second : String × String) : Prop :=
  first.1 < second.1 ∨ first.1 = second.1 ∧ first.2 ≤ second.2

theorem PairsInOrder.antisymm {first second : String × String} (before : PairsInOrder first second)
    (behind : PairsInOrder second first) : first = second := by
  rcases before with before | ⟨same, before⟩
  · rcases behind with behind | ⟨same, _⟩
    · exact absurd (String.lt_trans before behind) (String.lt_irrefl _)
    · exact absurd (same ▸ before) (String.lt_irrefl _)
  · rcases behind with behind | ⟨_, behind⟩
    · exact absurd (same ▸ behind) (String.lt_irrefl _)
    · exact Prod.ext same (String.le_antisymm before behind)

/-! ## What a series of bindings leaves -/

/-- The value that a series of bindings gives a name last. -/
def lastBound? (series : List (String × Value)) (name : String) : Option Value :=
  series.reverse.lookup name

namespace Frame

variable {frame other : Frame}

/-- Behind a series of bindings a name has the value that it got last, or the one that it had
before if it got none. -/
theorem find?_declareAll (frame : Frame) (series : List (String × Value)) (name : String) :
    (frame.declareAll series).find? name = (lastBound? series name).or (frame.find? name) := by
  induction series generalizing frame with
  | nil => rfl
  | cons binding later ih =>
      rw [declareAll, ih, find?_declare, lastBound?, lastBound?, List.reverse_cons,
        List.lookup_append, Option.or_assoc]
      by_cases here : name = binding.1
      · rw [if_pos here, here, Bindings.lookup_cons_self, Option.some_or]
      · rw [if_neg here, Bindings.lookup_cons_ne here, List.lookup_nil, Option.none_or]

/-- Frames in order that show the same of every name have the same listing. -/
theorem IsOrdered.listing_eq (ordered : frame.IsOrdered) (ordered' : other.IsOrdered)
    (same : ∀ name, (frame.find? name).map Value.text = (other.find? name).map Value.text) :
    frame.listing = other.listing := by
  refine eq_of_pairwise_lt ordered.listing_pairwise ordered'.listing_pairwise fun ⟨name, text⟩ => ?_
  rw [ordered.mem_listing_iff, ordered'.mem_listing_iff, same]

/-- The text of a frame shows its listing, and besides only whether it has a parent. -/
theorem description_eq (listed : frame.listing = other.listing)
    (parent : frame.parent = other.parent) : frame.description = other.description := by
  rw [description, description, listed, parent]

/-! ## Bindings in any order -/

/-- Whether a list holds the bindings of a frame, each name once, in whatever order. -/
structure IsEnumeratedBy (frame : Frame) (entries : List (String × Value)) : Prop where
  nodup : (entries.map (·.1)).Nodup
  mem_iff : ∀ name value, (name, value) ∈ entries ↔ frame.find? name = some value

theorem IsOrdered.isEnumeratedBy (ordered : frame.IsOrdered) :
    frame.IsEnumeratedBy frame.bindings where
  nodup := by
    refine List.pairwise_map.mpr (ordered.imp fun {first second} before equal => ?_)
    exact String.lt_irrefl _ (equal ▸ before)
  mem_iff _ _ := ordered.mem_bindings_iff

/-- Two enumerations of a frame differ in their order alone. -/
theorem IsEnumeratedBy.perm {entries entries' : List (String × Value)}
    (enumerated : frame.IsEnumeratedBy entries) (enumerated' : frame.IsEnumeratedBy entries') :
    entries.Perm entries' := by
  refine (List.perm_ext_iff_of_nodup enumerated.nodup.of_map enumerated'.nodup.of_map).mpr ?_
  rintro ⟨name, value⟩
  rw [enumerated.mem_iff, enumerated'.mem_iff]

/-- However the bindings of a frame are enumerated, what they show is the listing once it is
sorted. -/
theorem IsOrdered.sorted_iff (ordered : frame.IsOrdered) {entries : List (String × Value)}
    (enumerated : frame.IsEnumeratedBy entries) {pairs : List (String × String)} :
    pairs.Perm (entries.map shown) ∧ pairs.Pairwise PairsInOrder ↔ pairs = frame.listing := by
  have perm : frame.listing.Perm (entries.map shown) :=
    (ordered.isEnumeratedBy.perm enumerated).map shown
  have sorted : frame.listing.Pairwise PairsInOrder := ordered.listing_pairwise.imp Or.inl
  constructor
  · rintro ⟨same, inOrder⟩
    exact List.Perm.eq_of_pairwise (fun _ _ _ _ => PairsInOrder.antisymm) inOrder sorted
      (same.trans perm.symm)
  · rintro rfl
    exact ⟨perm, sorted⟩

end Frame

/-! ## Frames that there are -/

/-- Frames that are all in order. -/
structure Frames.AreOrdered (frames : Frames) : Prop where
  each : ∀ {frame : FrameId} {found : Frame}, frames[frame]? = some found -> found.IsOrdered

namespace Frames.AreOrdered

variable {frames : Frames} (ordered : frames.AreOrdered)
include ordered

theorem declare (owner : FrameId) (name : String) (value : Value) :
    (frames.declare owner name value).AreOrdered := by
  refine ⟨fun there => ?_⟩
  rcases exists_of_getElem?_declare there with ⟨old, before, rfl | rfl⟩
  · exact ordered.each before
  · exact (ordered.each before).declare name value

theorem push {newest : Frame} (inOrder : newest.IsOrdered) :
    Frames.AreOrdered (frames.push newest) := by
  refine ⟨fun there => ?_⟩
  rcases eq_or_of_getElem?_push there with ⟨_, rfl⟩ | there
  · exact inOrder
  · exact ordered.each there

end Frames.AreOrdered

/-- The custody of frames in order, which knows nothing of values and trees. -/
def Custody.ordered : Custody where
  World := Unit
  later _ _ := True
  scopes _ _ := True
  callables _ _ := True
  closures _ _ := True
  machines _ machine := machine.frames.AreOrdered
  expressions _ := True
  statements _ := True

/-- A run binds names in frames, and makes the frames of calls by binding parameters. -/
theorem Custody.ordered_lawful : Custody.ordered.Lawful where
  unary _ := trivial
  binary _ := ⟨trivial, trivial⟩
  conditional _ := ⟨trivial, fun _ _ => trivial, fun _ _ _ _ => trivial⟩
  call _ := ⟨trivial, fun _ _ => trivial⟩
  binding _ := trivial
  returning _ := trivial
  expression _ := trivial
  refl _ := trivial
  trans _ _ := trivial
  scopes_mono _ _ := trivial
  callables_mono _ _ := trivial
  closures_mono _ _ := trivial
  callable _ := trivial
  body _ _ _ := trivial
  scope _ := trivial
  withScope _ kept := kept
  withDepth _ kept := kept
  print _ kept := ⟨(), trivial, kept⟩
  lookup {_ _ _ value} _ _ := by cases value <;> trivial
  declare {_ machine value} name _ kept :=
    ⟨(), trivial, Frames.AreOrdered.declare kept machine.scope name value⟩
  close _ kept := ⟨(), trivial, trivial, kept⟩
  enter {_ _ _ _} _ _ kept :=
    ⟨(), trivial, Frames.AreOrdered.push kept ((Frame.isOrdered_empty _).declareAll _)⟩

/-- All frames that a host can bring about are in order. -/
theorem Reachable.areOrdered {interpreters : List Interpreter} {store : Store}
    (reachable : Reachable interpreters store) : store.frames.AreOrdered := by
  induction reachable with
  | start room =>
      refine ⟨fun there => ?_⟩
      rw [Array.getElem?_empty] at there
      cases there
  | new _ ih => exact ih.push ((Frame.isOrdered_empty none).declareAll _)
  | clone _ _ ih => exact ih
  | @run _ store interpreter program _ _ ih =>
      have kept : Custody.ordered.machines () (interpreter.machine store) := ih
      have kind : ∀ tree ∈ program.statements, Custody.ordered.statements tree :=
        fun _ _ => trivial
      rcases Custody.run_behind Custody.ordered_lawful kind kept with ⟨_, _, behind, _⟩
      exact behind
  | @call _ store interpreter callee arguments _ _ _ _ ih =>
      have kept : Custody.ordered.machines () (interpreter.machine store) := ih
      have calleeKnown : Custody.ordered.callables () callee := trivial
      have known : ∀ value ∈ arguments, Custody.ordered.Values () value := fun value _ => by
        cases value <;> trivial
      rcases Custody.callOn_behind Custody.ordered_lawful calleeKnown known kept with
        ⟨_, _, behind, _⟩
      exact behind
  | declare name _ _ _ ih => exact ih.declare _ name _
  | enclose _ _ ih => exact ih.push (Frame.isOrdered_empty _)
  | fetch _ ih => exact ih

/-- The listing of a frame depends on its bindings alone.  All frames that a host can bring
about are in order.  When a series of bindings is made in a frame that is in order, the listing
behind it is in strict order of the names, by their code points; it shows each name of the
series once, with the text of the value that it got last, and of all other names what it showed
before.  Whatever the order in which the bindings are enumerated, the listing is what they show,
sorted.  And another series that leaves the same names with values of the same texts leads to
the same listing and to the same text of the frame. -/
theorem listing_depends_on_bindings :
    (∀ (interpreters : List Interpreter) (store : Store), Reachable interpreters store ->
      ∀ (index : FrameId) (frame : Frame), store.frames[index]? = some frame ->
        frame.IsOrdered) ∧
    ∀ frame : Frame, frame.IsOrdered -> ∀ series : List (String × Value),
      (frame.declareAll series).listing.Pairwise (·.1 < ·.1) ∧
      (∀ name value, lastBound? series name = some value ->
        (frame.declareAll series).listing.filter (·.1 = name) = [(name, value.text)]) ∧
      (∀ name, lastBound? series name = none ->
        (frame.declareAll series).listing.filter (·.1 = name) =
          frame.listing.filter (·.1 = name)) ∧
      (∀ entries, (frame.declareAll series).IsEnumeratedBy entries -> ∀ pairs,
        pairs.Perm (entries.map Frame.shown) ∧ pairs.Pairwise PairsInOrder ↔
          pairs = (frame.declareAll series).listing) ∧
      ∀ other : List (String × Value),
        (∀ name, (lastBound? other name).map Value.text =
          (lastBound? series name).map Value.text) ->
        (frame.declareAll other).listing = (frame.declareAll series).listing ∧
          (frame.declareAll other).description = (frame.declareAll series).description := by
  refine ⟨fun _ _ reachable _ _ there => reachable.areOrdered.each there, ?_⟩
  intro frame ordered series
  have behind := ordered.declareAll series
  refine ⟨behind.listing_pairwise, ?_, ?_, fun _ enumerated _ => behind.sorted_iff enumerated, ?_⟩
  · intro name value last
    have listed : (name, value.text) ∈ (frame.declareAll series).listing := by
      rw [behind.mem_listing_iff, Frame.find?_declareAll, last]
      rfl
    exact filter_eq_singleton behind.listing_pairwise listed
  · intro name untouched
    refine eq_of_pairwise_lt (behind.listing_pairwise.filter _)
      (ordered.listing_pairwise.filter _) fun ⟨bound, text⟩ => ?_
    rw [List.mem_filter, List.mem_filter, behind.mem_listing_iff, ordered.mem_listing_iff,
      and_congr_left_iff]
    intro same
    obtain rfl : bound = name := of_decide_eq_true same
    rw [Frame.find?_declareAll, untouched, Option.none_or]
  · intro other same
    have listed := (ordered.declareAll other).listing_eq behind fun name => by
      rw [Frame.find?_declareAll, Frame.find?_declareAll, Option.map_or, Option.map_or, same]
    exact ⟨listed, Frame.description_eq listed
      ((frame.parent_declareAll other).trans (frame.parent_declareAll series).symm)⟩

/-- Two series that bind `b` again leave one listing in the global frame of an interpreter. -/
theorem listing_depends_on_bindings_of_rebound :
    ∃ globals, (Machine.fresh none).frames[0]? = some globals ∧ globals.IsOrdered ∧
      (globals.declareAll [("b", .integer 1), ("a", .boolean true), ("b", .integer 3)]).listing =
        [("a", "true"), ("b", "3"), ("puts", "builtin function puts")] ∧
      (globals.declareAll [("a", .null), ("b", .integer 3), ("a", .boolean true)]).description =
        (globals.declareAll
          [("b", .integer 1), ("a", .boolean true), ("b", .integer 3)]).description := by
  have reachable : Reachable _ (Machine.fresh none).toStore := .new (.start none)
  have there : (Machine.fresh none).frames[0]? =
      some ⟨[("puts", .closure ⟨0, .builtin .puts⟩)], none⟩ := rfl
  have ordered := listing_depends_on_bindings.1 _ _ reachable 0 _ there
  have shows := listing_depends_on_bindings.2 _ ordered
    [("b", .integer 1), ("a", .boolean true), ("b", .integer 3)]
  refine ⟨_, there, ordered, by decide +kernel, ?_⟩
  refine (shows.2.2.2.2 [("a", .null), ("b", .integer 3), ("a", .boolean true)] fun name => ?_).2
  change ([("a", .boolean true), ("b", .integer 3), ("a", .null)].lookup name).map Value.text =
    ([("b", .integer 3), ("a", .boolean true), ("b", .integer 1)].lookup name).map Value.text
  by_cases first : name = "a"
  · subst first
    rfl
  · by_cases second : name = "b"
    · subst second
      rfl
    · simp only [Bindings.lookup_cons_ne first, Bindings.lookup_cons_ne second]

end MonkeyLang
