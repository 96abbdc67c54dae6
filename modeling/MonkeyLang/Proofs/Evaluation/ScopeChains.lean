import MonkeyLang.Proofs.Evaluation.Custody
import MonkeyLang.Proofs.Evaluation.Existence

namespace MonkeyLang

/-!
# Chains of frames

Frames hold functions and functions refer to frames, among them to frames that hold
them; so what is reached from a frame may well lead back to it.  The links to parents
alone never do.  A frame is made with its parent, which is there already and never
changes, and frames are numbered in the order in which they are made.  From any frame
the parents therefore lead to older and older frames, until they come to one that has
none, which is the global frame of an interpreter.

A link to a frame that is not older would be passed over by `Frames.parent?`, and so by
the look-up that is built on it.  Chains and look-ups are therefore described once more
by rules that follow the links as they stand, whatever they lead to, and to which no
bound is built in.  There is a derivation only where the way comes to an end.
-/

namespace Frames

/-- The value that a frame itself binds a name to, if the frame is there. -/
def own (frames : Frames) (name : String) (frame : FrameId) : Option Value :=
  (frames[frame]?).bind (·.find? name)

/-- The frames that are passed on the way from a frame along the parents, the frame
itself first and one without a parent last. -/
inductive Passes (frames : Frames) : FrameId -> List FrameId -> Prop
  | global {frame found} : frames[frame]? = some found -> found.parent = none ->
      Passes frames frame [frame]
  | inner {frame found parent path} : frames[frame]? = some found ->
      found.parent = some parent -> Passes frames parent path ->
      Passes frames frame (frame :: path)

/-- What a look-up gives.  A frame that does not bind the name leaves the answer to its
parent, and a frame without a parent finds nothing then. -/
inductive Finds (frames : Frames) (name : String) : FrameId -> Option Value -> Prop
  | own {frame found value} : frames[frame]? = some found -> found.find? name = some value ->
      Finds frames name frame (some value)
  | outer {frame found parent answer} : frames[frame]? = some found ->
      found.find? name = none -> found.parent = some parent ->
      Finds frames name parent answer -> Finds frames name frame answer
  | nothing {frame found} : frames[frame]? = some found -> found.find? name = none ->
      found.parent = none -> Finds frames name frame none

/-- Frames with parents that are older, of which certain ones alone have no parent. -/
structure IsRooted (globals : FrameId -> Prop) (frames : Frames) : Prop where
  older : ∀ {frame parent : FrameId} {found : Frame}, frames[frame]? = some found ->
    found.parent = some parent -> parent < frame
  global : ∀ {frame : FrameId} {found : Frame}, frames[frame]? = some found ->
    found.parent = none -> globals frame

section

variable {frames : Frames} {frame parent : FrameId}

/-! ## Frames that are made and names that are bound -/

/-- A frame that is there once another is made is that one or was there before. -/
theorem eq_or_of_getElem?_push {newest found : Frame}
    (there : (frames.push newest)[frame]? = some found) :
    (frame = frames.size ∧ found = newest) ∨ frames[frame]? = some found := by
  rw [Array.getElem?_push] at there
  split at there
  · next here => exact .inl ⟨here, (Option.some.inj there).symm⟩
  · exact .inr there

/-- A frame that is there once a name is bound was there before, where the name may have
been bound in it. -/
theorem exists_of_getElem?_declare {owner : FrameId} {name : String} {value : Value}
    {found : Frame} (there : (frames.declare owner name value)[frame]? = some found) :
    ∃ old, frames[frame]? = some old ∧ (found = old ∨ found = old.declare name value) := by
  rw [declare, Array.getElem?_modify] at there
  split at there
  · rcases Option.map_eq_some_iff.mp there with ⟨old, before, rfl⟩
    exact ⟨old, before, .inr rfl⟩
  · exact ⟨found, there, .inl rfl⟩

/-- What a frame itself binds once a name is bound. -/
theorem own_declare (frames : Frames) (owner : FrameId) (bound : String) (value : Value)
    (name : String) (frame : FrameId) :
    (frames.declare owner bound value).own name frame =
      if owner = frame ∧ owner < frames.size ∧ name = bound then some value
      else frames.own name frame := by
  rw [own, own, declare, Array.getElem?_modify]
  by_cases here : owner = frame
  · subst here
    rw [if_pos rfl]
    by_cases there : owner < frames.size
    · rw [Array.getElem?_eq_getElem there]
      change (frames[owner].declare bound value).find? name = _
      rw [Frame.find?_declare]
      simp only [there, true_and]
      rfl
    · rw [Array.getElem?_eq_none (Nat.le_of_not_lt there), if_neg fun all => there all.2.1]
      rfl
  · rw [if_neg here, if_neg fun all => here all.1]

/-- What a frame itself binds once another is made. -/
theorem own_push (frames : Frames) (newest : Frame) (name : String) (frame : FrameId) :
    own (frames.push newest) name frame =
      if frame = frames.size then newest.find? name else frames.own name frame := by
  rw [own, own, Array.getElem?_push]
  split <;> rfl

/-! ## Chains and look-ups -/

theorem chain_of_global (link : frames.parent? frame = none) : frames.chain frame = [frame] := by
  rw [chain]
  split
  · rfl
  · next found => simp [link] at found

theorem chain_of_parent (link : frames.parent? frame = some parent) :
    frames.chain frame = frame :: frames.chain parent := by
  rw [chain]
  split
  · next found => simp [link] at found
  · next found =>
      rw [link] at found
      cases found
      rfl

/-- A look-up gives the first binding along the chain. -/
theorem find?_eq_findSome?_chain (frames : Frames) (frame : FrameId) (name : String) :
    frames.find? frame name = (frames.chain frame).findSome? (frames.own name) := by
  induction frame using Nat.strongRecOn with
  | ind frame ih =>
      cases bound : frames.own name frame with
      | some value =>
          have first : ∃ later, frames.chain frame = frame :: later := by
            cases link : frames.parent? frame with
            | none => exact ⟨_, chain_of_global link⟩
            | some parent => exact ⟨_, chain_of_parent link⟩
          rcases first with ⟨later, chain⟩
          rw [find?_of_own bound, chain, List.findSome?_cons, bound]
      | none =>
          cases link : frames.parent? frame with
          | none =>
              rw [find?_of_global bound link, chain_of_global link, List.findSome?_cons, bound]
              rfl
          | some parent =>
              rw [find?_of_parent bound link, chain_of_parent link, List.findSome?_cons, bound]
              exact ih parent (parent?_lt link)

theorem own_eq {found : Frame} (there : frames[frame]? = some found) (name : String) :
    frames.own name frame = found.find? name := by
  rw [own, there]
  rfl

/-- What a look-up gives is bound in some frame. -/
theorem exists_own_of_find? {name : String} {value : Value}
    (found : frames.find? frame name = some value) :
    ∃ owner, frames.own name owner = some value := by
  rw [find?_eq_findSome?_chain] at found
  rcases List.exists_of_findSome?_eq_some found with ⟨owner, _, bound⟩
  exact ⟨owner, bound⟩

end

/-! ## Frames with older parents -/

namespace IsRooted

variable {globals : FrameId -> Prop} {frames : Frames} (rooted : frames.IsRooted globals)
  {frame : FrameId} {found : Frame}
include rooted

/-- No link is passed over. -/
theorem parent?_eq (there : frames[frame]? = some found) :
    frames.parent? frame = found.parent := by
  rw [parent?, there]
  change found.parent.filter (· < frame) = found.parent
  cases link : found.parent with
  | none => rfl
  | some parent =>
      rw [Option.filter_some, if_pos (decide_eq_true (rooted.older there link))]

/-- The chain of a frame is the way along the parents. -/
theorem passes_chain (below : frame < frames.size) :
    frames.Passes frame (frames.chain frame) := by
  induction frame using Nat.strongRecOn with
  | ind frame ih =>
      have there : frames[frame]? = some frames[frame] := Array.getElem?_eq_getElem below
      have link := rooted.parent?_eq there
      cases above : frames[frame].parent with
      | none =>
          rw [chain_of_global (link.trans above)]
          exact .global there above
      | some parent =>
          have older := rooted.older there above
          rw [chain_of_parent (link.trans above)]
          exact .inner there above (ih parent older (Nat.lt_trans older below))

/-- A look-up comes to an end, with the answer that it is defined to give. -/
theorem finds_find? (name : String) (below : frame < frames.size) :
    frames.Finds name frame (frames.find? frame name) := by
  induction frame using Nat.strongRecOn with
  | ind frame ih =>
      have there : frames[frame]? = some frames[frame] := Array.getElem?_eq_getElem below
      have own := own_eq there name
      have link := rooted.parent?_eq there
      cases bound : frames[frame].find? name with
      | some value =>
          rw [find?_of_own (own.trans bound)]
          exact .own there bound
      | none =>
          cases above : frames[frame].parent with
          | none =>
              rw [find?_of_global (own.trans bound) (link.trans above)]
              exact .nothing there bound above
          | some parent =>
              have older := rooted.older there above
              rw [find?_of_parent (own.trans bound) (link.trans above)]
              exact .outer there bound above (ih parent older (Nat.lt_trans older below))

/-- A look-up has no other answer. -/
theorem eq_find?_of_finds {name : String} {answer : Option Value}
    (finds : frames.Finds name frame answer) : answer = frames.find? frame name := by
  induction finds with
  | own there bound => exact (find?_of_own ((own_eq there name).trans bound)).symm
  | outer there free above _ ih =>
      rw [ih]
      exact (find?_of_parent ((own_eq there name).trans free)
        ((rooted.parent?_eq there).trans above)).symm
  | nothing there free above =>
      exact (find?_of_global ((own_eq there name).trans free)
        ((rooted.parent?_eq there).trans above)).symm

/-- On the way along the parents each frame is older than the one before it. -/
theorem descends {path : List FrameId} (passes : frames.Passes frame path) :
    path.Pairwise (fun inner outer => outer < inner) ∧ ∀ passed ∈ path, passed ≤ frame := by
  induction passes with
  | @global frame _ _ _ =>
      refine ⟨List.pairwise_singleton _ _, fun passed member => ?_⟩
      exact Nat.le_of_eq (List.mem_singleton.mp member)
  | @inner frame _ parent path there above _ ih =>
      have older := rooted.older there above
      have beyond : ∀ passed ∈ path, passed < frame :=
        fun passed member => Nat.lt_of_le_of_lt (ih.2 passed member) older
      refine ⟨List.pairwise_cons.mpr ⟨beyond, ih.1⟩, List.forall_mem_cons.mpr ⟨Nat.le_refl _, ?_⟩⟩
      exact fun passed member => Nat.le_of_lt (beyond passed member)

/-- No frame is passed twice. -/
theorem nodup {path : List FrameId} (passes : frames.Passes frame path) : path.Nodup :=
  (rooted.descends passes).1.imp fun older => Ne.symm (Nat.ne_of_lt older)

/-- The way along the parents ends in a global frame. -/
theorem exists_last {path : List FrameId} (passes : frames.Passes frame path) :
    ∃ last, path.getLast? = some last ∧ globals last := by
  induction passes with
  | global there above => exact ⟨_, rfl, rooted.global there above⟩
  | inner _ _ passes ih =>
      rcases ih with ⟨last, ended, global⟩
      refine ⟨last, ?_, global⟩
      rw [List.getLast?_cons, ended]
      rfl

/-- Other frames may be global ones as well. -/
theorem mono {wider : FrameId -> Prop} (within : ∀ frame, globals frame -> wider frame) :
    frames.IsRooted wider :=
  ⟨rooted.older, fun there above => within _ (rooted.global there above)⟩

theorem push {newest : Frame}
    (older : ∀ {parent}, newest.parent = some parent -> parent < frames.size)
    (global : newest.parent = none -> globals frames.size) :
    Frames.IsRooted globals (frames.push newest) := by
  constructor
  · intro frame parent found there above
    rcases eq_or_of_getElem?_push there with ⟨rfl, rfl⟩ | there
    · exact older above
    · exact rooted.older there above
  · intro frame found there above
    rcases eq_or_of_getElem?_push there with ⟨rfl, rfl⟩ | there
    · exact global above
    · exact rooted.global there above

/-- Binding a name changes no parent. -/
theorem declare (owner : FrameId) (name : String) (value : Value) :
    (frames.declare owner name value).IsRooted globals := by
  have same : ∀ {frame : FrameId} {found : Frame},
      (frames.declare owner name value)[frame]? = some found ->
        ∃ old, frames[frame]? = some old ∧ found.parent = old.parent := by
    intro frame found there
    rcases exists_of_getElem?_declare there with ⟨old, before, rfl | rfl⟩
    · exact ⟨found, before, rfl⟩
    · exact ⟨old, before, Frame.parent_declare ..⟩
  constructor
  · intro frame parent found there above
    rcases same there with ⟨old, there, link⟩
    exact rooted.older there (link.symm.trans above)
  · intro frame found there above
    rcases same there with ⟨old, there, link⟩
    exact rooted.global there (link.symm.trans above)

end IsRooted

end Frames

/-! ## What runs keep -/

namespace Store.IsWhole

variable {store : Store} (whole : store.IsWhole)
include whole

/-- What a look-up gives exists. -/
theorem find?_existsIn {frame : FrameId} {name : String} {value : Value}
    (found : store.frames.find? frame name = some value) : value.ExistsIn store := by
  rcases Frames.exists_own_of_find? found with ⟨owner, own⟩
  rcases Option.bind_eq_some_iff.mp own with ⟨found, there, bound⟩
  exact whole.bound there bound

theorem enter {function : Function} (there : (Callable.function function).ExistsIn store)
    {arguments : List Value} (argumentsThere : ∀ value ∈ arguments, value.ExistsIn store) :
    Store.IsWhole { store with frames := store.frames.push (function.frame arguments) } := by
  have functions : Renumbering.matching.Functions (.identity store) function function :=
    ⟨⟨rfl, there⟩, .self function.parameters, function.body.resembles_self⟩
  exact (whole.storesAgree.enter functions
    (Renumbering.allValues_identity argumentsThere)).isWhole

theorem give : Store.IsWhole { store with identities := store.identities + 1 } :=
  (whole.storesAgree.give 1).isWhole

end Store.IsWhole

/-- A store with rooted frames, in which all that the frames bind exists. -/
structure Store.IsRooted (globals : FrameId -> Prop) (store : Store) : Prop where
  whole : store.IsWhole
  rooted : store.frames.IsRooted globals

/-- The custody of what exists in stores with rooted frames. -/
def Custody.existing (globals : FrameId -> Prop) : Custody where
  World := Store
  later earlier later := earlier.Extends later fun _ => False
  scopes store frame := frame < store.frames.size
  callables store callable := callable.ExistsIn store
  closures store callee := (Value.closure callee).ExistsIn store
  machines store machine :=
    machine.toStore = store ∧ machine.scope < store.frames.size ∧ store.IsRooted globals
  expressions _ := True
  statements _ := True

theorem Custody.values_existing {globals : FrameId -> Prop} {store : Store} {value : Value} :
    (Custody.existing globals).Values store value ↔ value.ExistsIn store := by
  cases value <;> rfl

/-- No step links a frame to one that is not older, or refers to what is not there. -/
theorem Custody.existing_lawful (globals : FrameId -> Prop) :
    (Custody.existing globals).Lawful where
  unary _ := trivial
  binary _ := ⟨trivial, trivial⟩
  conditional _ := ⟨trivial, fun _ _ => trivial, fun _ _ _ _ => trivial⟩
  call _ := ⟨trivial, fun _ _ => trivial⟩
  binding _ := trivial
  returning _ := trivial
  expression _ := trivial
  refl _ := ⟨Nat.le_refl _, Nat.le_refl _, False.elim⟩
  trans first second :=
    ⟨Nat.le_trans first.frames second.frames, Nat.le_trans first.identities second.identities,
      False.elim⟩
  scopes_mono after there := Nat.lt_of_lt_of_le there after.frames
  callables_mono after there := there.mono after.frames
  closures_mono after there :=
    ⟨Nat.lt_of_lt_of_le there.1 after.identities, there.2.mono after.frames⟩
  callable there := there.2
  body _ _ _ := trivial
  scope := by
    rintro _ machine ⟨rfl, there, _⟩
    exact there
  withScope := by
    rintro _ machine scope there ⟨rfl, _, rooted⟩
    exact ⟨rfl, there, rooted⟩
  withDepth := by
    rintro _ machine depth ⟨rfl, there, rooted⟩
    exact ⟨rfl, there, rooted⟩
  print := by
    rintro _ machine value - ⟨rfl, there, rooted⟩
    exact ⟨{ machine.toStore with sink := (machine.sink.accept value).2 },
      ⟨Nat.le_refl _, Nat.le_refl _, False.elim⟩, rfl, there, ⟨rooted.whole.bound⟩, rooted.rooted⟩
  lookup := by
    rintro _ machine name value ⟨rfl, _, rooted⟩ found
    exact values_existing.2 (rooted.whole.find?_existsIn found)
  declare := by
    rintro _ machine value name known ⟨rfl, there, rooted⟩
    have same : (machine.frames.declare machine.scope name value).size = machine.frames.size :=
      Array.size_modify ..
    have whole := rooted.whole.declare there name (values_existing.1 known)
    exact
      ⟨{ machine.toStore with frames := machine.frames.declare machine.scope name value },
        ⟨Nat.le_of_eq same.symm, Nat.le_refl _, False.elim⟩, rfl,
        Nat.lt_of_lt_of_eq there same.symm, whole, rooted.rooted.declare ..⟩
  close := by
    rintro _ machine token parameters body - ⟨rfl, there, rooted⟩
    exact ⟨{ machine.toStore with identities := machine.identities + 1 },
      ⟨Nat.le_refl _, Nat.le_succ _, False.elim⟩, ⟨Nat.lt_succ_self _, there⟩, rfl, there,
      rooted.whole.give, rooted.rooted⟩
  enter := by
    rintro _ function arguments machine known values ⟨rfl, there, rooted⟩
    have grown : (machine.frames.push (function.frame arguments)).size = machine.frames.size + 1 :=
      Array.size_push ..
    have parent := function.parent_frame arguments
    have whole := rooted.whole.enter known fun value member =>
      values_existing.1 (values value member)
    refine ⟨{ machine.toStore with frames := machine.frames.push (function.frame arguments) },
      ⟨grown ▸ Nat.le_succ _, Nat.le_refl _, False.elim⟩, rfl, grown ▸ Nat.lt_succ_self _,
      whole, rooted.rooted.push (fun above => ?_) fun above => ?_⟩
    · cases parent.symm.trans above
      exact known
    · cases parent.symm.trans above

/-! ## What a host can bring about -/

/-- What a host has: its interpreters, the global frames that were made with them, and
the values that were returned to it. -/
structure Host where
  interpreters : List Interpreter := []
  globals : List FrameId := []
  given : List Value := []

/-- A host and the store that its interpreters share.  The host makes interpreters and
copies them, runs programs on them, calls on them what exists with values that exist,
and binds values that exist in frames.  It may take identities for functions that it puts
together itself, and what is printed may go anywhere.  Only with an interpreter, by running
and by calling does it make frames. -/
inductive Hosted : Host -> Store -> Prop
  | start (room : Option Nat) : Hosted {} { sink := { room := room } }
  | new {host store} : Hosted host store ->
      Hosted
        { host with
          interpreters := (Interpreter.new store).1 :: host.interpreters
          globals := (Interpreter.new store).1.scope :: host.globals }
        (Interpreter.new store).2
  | clone {host store interpreter} : Hosted host store -> interpreter ∈ host.interpreters ->
      Hosted { host with interpreters := interpreter :: host.interpreters } store
  | run {host store interpreter} (program : Program) : Hosted host store ->
      interpreter ∈ host.interpreters ->
      Hosted
        { host with
          interpreters :=
            (program.run (interpreter.machine store)).2.interpreter :: host.interpreters
          given := (program.run (interpreter.machine store)).1.toOption.join.toList ++ host.given }
        (program.run (interpreter.machine store)).2.toStore
  | call {host store interpreter} {callee : Callable} {arguments : List Value} :
      Hosted host store -> interpreter ∈ host.interpreters -> callee.ExistsIn store ->
      (∀ value ∈ arguments, value.ExistsIn store) ->
      Hosted
        { host with
          interpreters :=
            (callee.callOn arguments (interpreter.machine store)).2.interpreter ::
              host.interpreters
          given :=
            (callee.callOn arguments (interpreter.machine store)).1.toOption.toList ++ host.given }
        (callee.callOn arguments (interpreter.machine store)).2.toStore
  | declare {host store} {frame : FrameId} (name : String) {value : Value} :
      Hosted host store -> frame < store.frames.size -> value.ExistsIn store ->
      Hosted host { store with frames := store.frames.declare frame name value }
  | give {host store} : Hosted host store ->
      Hosted host { store with identities := store.identities + 1 }
  | print {host store} (sink : Sink) : Hosted host store -> Hosted host { store with sink := sink }

theorem eq_ok_of_toOption {ε α : Type} {outcome : Except ε α} {value : α}
    (kept : outcome.toOption = some value) : outcome = .ok value := by
  cases outcome with
  | ok answer => exact congrArg Except.ok (Option.some.inj kept)
  | error failure => cases kept

/-- A rooted store in which there is all that a host has. -/
structure Store.Serves (store : Store) (host : Host) : Prop
    extends store.IsRooted (· ∈ host.globals) where
  scopes : ∀ interpreter ∈ host.interpreters, interpreter.scope < store.frames.size
  given : ∀ value ∈ host.given, value.ExistsIn store

namespace Store.Serves

variable {store : Store} {host : Host} (serves : store.Serves host)
include serves

theorem new : (Interpreter.new store).2.Serves
    { host with
      interpreters := (Interpreter.new store).1 :: host.interpreters
      globals := (Interpreter.new store).1.scope :: host.globals } where
  whole := serves.whole.new
  rooted := by
    have wider := serves.rooted.mono fun frame => List.mem_cons_of_mem store.frames.size
    refine wider.push (fun {parent} above => ?_) fun _ => List.mem_cons_self
    cases (parent_globals store.identities).symm.trans above
  scopes := by
    have grown : (Interpreter.new store).2.frames.size = store.frames.size + 1 :=
      Array.size_push ..
    rw [grown]
    refine List.forall_mem_cons.mpr ⟨Nat.lt_succ_self _, fun interpreter member => ?_⟩
    exact Nat.lt_succ_of_lt (serves.scopes interpreter member)
  given value member := by
    have extended := Interpreter.extends_new store
    exact (serves.given value member).mono extended.frames extended.identities

/-- Behind a program or a call the store serves the host, and the value that was given
is one of those that the host has. -/
theorem behind {machine : Machine} {isGiven : Value -> Prop}
    (ended : (Custody.existing (· ∈ host.globals)).Behind store isGiven machine)
    {values : List Value} (answers : ∀ value ∈ values, isGiven value) :
    machine.toStore.Serves
      { host with
        interpreters := machine.interpreter :: host.interpreters
        given := values ++ host.given } := by
  rcases ended with ⟨later, after, ⟨rfl, there, rooted⟩, known⟩
  refine { rooted with scopes := ?_, given := ?_ }
  · refine List.forall_mem_cons.mpr ⟨there, fun interpreter member => ?_⟩
    exact Nat.lt_of_lt_of_le (serves.scopes interpreter member) after.frames
  · refine List.forall_mem_append.mpr ⟨fun value member => ?_, fun value member => ?_⟩
    · exact Custody.values_existing.1 (known value (answers value member))
    · exact (serves.given value member).mono after.frames after.identities

section

variable {interpreter : Interpreter} (listed : interpreter ∈ host.interpreters)
include listed

theorem machines_machine :
    (Custody.existing (· ∈ host.globals)).machines store (interpreter.machine store) :=
  ⟨rfl, serves.scopes interpreter listed, serves.toIsRooted⟩

theorem run (program : Program) :
    (program.run (interpreter.machine store)).2.toStore.Serves
      { host with
        interpreters :=
          (program.run (interpreter.machine store)).2.interpreter :: host.interpreters
        given :=
          (program.run (interpreter.machine store)).1.toOption.join.toList ++ host.given } := by
  refine serves.behind (Custody.run_behind (Custody.existing_lawful _) (fun _ _ => trivial)
    (serves.machines_machine listed)) fun value member => ?_
  rw [Option.mem_toList, Option.join_eq_some_iff] at member
  exact eq_ok_of_toOption member

theorem call {callee : Callable} (calleeThere : callee.ExistsIn store) {arguments : List Value}
    (argumentsThere : ∀ value ∈ arguments, value.ExistsIn store) :
    (callee.callOn arguments (interpreter.machine store)).2.toStore.Serves
      { host with
        interpreters :=
          (callee.callOn arguments (interpreter.machine store)).2.interpreter ::
            host.interpreters
        given :=
          (callee.callOn arguments (interpreter.machine store)).1.toOption.toList ++
            host.given } := by
  refine serves.behind (Custody.callOn_behind (Custody.existing_lawful _) calleeThere
    (fun value member => Custody.values_existing.2 (argumentsThere value member))
    (serves.machines_machine listed)) fun value member => ?_
  exact eq_ok_of_toOption (Option.mem_toList.mp member)

end

theorem declare {frame : FrameId} (frameThere : frame < store.frames.size) (name : String)
    {value : Value} (valueThere : value.ExistsIn store) :
    Store.Serves { store with frames := store.frames.declare frame name value } host := by
  have same : (store.frames.declare frame name value).size = store.frames.size :=
    Array.size_modify ..
  refine ⟨⟨serves.whole.declare frameThere name valueThere, serves.rooted.declare ..⟩, ?_, ?_⟩
  · exact fun interpreter member => Nat.lt_of_lt_of_eq (serves.scopes interpreter member) same.symm
  · exact fun value member =>
      (serves.given value member).mono (Nat.le_of_eq same.symm) (Nat.le_refl _)

theorem give : Store.Serves { store with identities := store.identities + 1 } host where
  whole := serves.whole.give
  rooted := serves.rooted
  scopes := serves.scopes
  given value member := (serves.given value member).mono (Nat.le_refl _) (Nat.le_succ _)

end Store.Serves

/-- What a host has is always there, in a rooted store. -/
theorem Hosted.serves {host : Host} {store : Store} (hosted : Hosted host store) :
    store.Serves host := by
  induction hosted with
  | start room =>
      have empty : ∀ {frame : FrameId} {found : Frame}, (#[] : Frames)[frame]? ≠ some found := by
        intro frame found there
        rw [Array.getElem?_empty] at there
        cases there
      exact ⟨⟨⟨fun there => (empty there).elim⟩,
        ⟨fun there => (empty there).elim, fun there => (empty there).elim⟩⟩,
        List.forall_mem_nil _, List.forall_mem_nil _⟩
  | new _ ih => exact ih.new
  | clone _ listed ih =>
      exact { ih with scopes := List.forall_mem_cons.mpr ⟨ih.scopes _ listed, ih.scopes⟩ }
  | run program _ listed ih => exact ih.run listed program
  | call _ listed calleeThere argumentsThere ih => exact ih.call listed calleeThere argumentsThere
  | declare name _ frameThere valueThere ih => exact ih.declare frameThere name valueThere
  | give _ ih => exact ih.give
  | print sink _ ih => exact ⟨⟨⟨ih.whole.bound⟩, ih.rooted⟩, ih.scopes, ih.given⟩

/-- Frames form chains that lead to global frames.  Whatever a host does with its
interpreters, the parent of a frame was made before the frame, and the functions that are
bound in frames or were returned to the host refer to frames and identities that are there.
The way from any frame along the parents passes no frame twice and ends in the global frame
of an interpreter that was made.  A look-up that follows the links as they stand therefore
ends, with one answer: the binding in the nearest frame on the way that binds the name, and
nothing when none of them does. -/
theorem scope_chains_are_well_founded {host : Host} {store : Store} (hosted : Hosted host store) :
    (∀ {frame parent : FrameId} {found : Frame}, store.frames[frame]? = some found ->
      found.parent = some parent -> parent < frame) ∧
    (∀ {frame : FrameId} {found : Frame} {name : String} {value : Value},
      store.frames[frame]? = some found -> found.find? name = some value ->
      value.ExistsIn store) ∧
    (∀ value ∈ host.given, value.ExistsIn store) ∧
    ∀ frame, frame < store.frames.size ->
      store.frames.Passes frame (store.frames.chain frame) ∧
      (store.frames.chain frame).Nodup ∧
      (∃ last, (store.frames.chain frame).getLast? = some last ∧ last ∈ host.globals) ∧
      ∀ name,
        (∀ answer, store.frames.Finds name frame answer ↔
          answer = store.frames.find? frame name) ∧
        store.frames.find? frame name =
          (store.frames.chain frame).findSome? (store.frames.own name) := by
  have serves := hosted.serves
  have rooted := serves.rooted
  refine ⟨rooted.older, serves.whole.bound, serves.given, fun frame below => ?_⟩
  have passes := rooted.passes_chain below
  refine ⟨passes, rooted.nodup passes, rooted.exists_last passes, fun name => ?_⟩
  refine ⟨fun answer => ⟨rooted.eq_find?_of_finds, ?_⟩, Frames.find?_eq_findSome?_chain ..⟩
  rintro rfl
  exact rooted.finds_find? name below

/-- A program that makes a function in a call: `let outer = fn(x) { fn(y) { x } }; outer(1)`. -/
def nesting : Program :=
  ⟨[.binding .erased ⟨.erased, "outer"⟩ (.function .erased [⟨.erased, "x"⟩] (.mk .erased
      [.expression .erased (.function .erased [⟨.erased, "y"⟩] (.mk .erased
        [.expression .erased (.identifier ⟨.erased, "x"⟩)]))])),
    .expression .erased (.call .erased (.identifier ⟨.erased, "outer"⟩)
      [.integer .erased 1])]⟩

/-- The machine behind that program. -/
def nestingMachine : Machine := (nesting.run (Machine.fresh none)).2

/-- The function that the program makes. -/
def nestedFunction : Callable :=
  .function ⟨1, [⟨.erased, "y"⟩],
    .mk .erased [.expression .erased (.identifier ⟨.erased, "x"⟩)]⟩

/-- The store behind a call of that function. -/
def nestedStore : Store := (nestedFunction.callOn [.integer 2] nestingMachine).2.toStore

/-- In the frame of that call a name is found one frame further out, and the way goes on to
the global frame. -/
theorem scope_chains_are_well_founded_of_nested :
    nestedStore.frames.Passes 2 [2, 1, 0] ∧
      nestedStore.frames.Finds "x" 2 (some (.integer 1)) := by
  have ran : Hosted _ nestingMachine.toStore :=
    (Hosted.start none).new.run nesting List.mem_cons_self
  have there : nestedFunction.ExistsIn nestingMachine.toStore := by
    change 1 < nestingMachine.frames.size
    decide +kernel
  have hosted : Hosted _ nestedStore := ran.call List.mem_cons_self there fun value member => by
    cases List.mem_singleton.mp member
    trivial
  have shown := (scope_chains_are_well_founded hosted).2.2.2 2 (by decide +kernel)
  have chain : nestedStore.frames.chain 2 = [2, 1, 0] := by decide +kernel
  have found : nestedStore.frames.find? 2 "x" = some (.integer 1) := by decide +kernel
  exact ⟨chain ▸ shown.1, ((shown.2.2.2 "x").1 _).mpr found.symm⟩

end MonkeyLang
