import MonkeyLang.Evaluation.Interpreter

namespace MonkeyLang

/-!
# What a run has in its hands

A run takes values from frames, hands them on as answers and arguments, and puts them into
frames again.  What it can get hold of is therefore known as soon as two things are: what
is in the frames at the start, and what a function literal gives.  The bodies of called
functions come from the values themselves, so a kind of trees may go with what is known,
which has the parts of a tree with the tree.

A custody says what is known of functions and machines.  As a run makes frames and
functions, more may become known on the way: a world says what there is so far, and later
worlds keep what earlier ones know.  The laws ask only for the primitive steps.  That
evaluation as a whole keeps a custody follows from them, along the tree and by induction on
the number of calls that may be nested.
-/

/-- What is known of frames, functions and machines, and of the trees that are run. -/
structure Custody where
  World : Type
  later : World -> World -> Prop
  scopes : World -> FrameId -> Prop
  callables : World -> Callable -> Prop
  closures : World -> Closure -> Prop
  machines : World -> Machine -> Prop
  expressions : Expression -> Prop
  statements : Statement -> Prop

namespace Custody

section

variable (custody : Custody) (world : custody.World) {α : Type}
  (answers : custody.World -> α -> Prop)

/-- What is known of a value, which is that of a function. -/
def Values : Value -> Prop
  | .closure callee => custody.closures world callee
  | _ => True

/-- What is known of an exit, which is that of a returned value. -/
def Exits : Exit -> Prop
  | .returned value => custody.Values world value
  | .failed _ => True

/-- What is known of a result, in some later world. -/
inductive Results : EStateM.Result Exit Machine α -> Prop
  | ok {later answer machine} : custody.later world later -> answers later answer ->
      custody.machines later machine -> Results (.ok answer machine)
  | error {later exit machine} : custody.later world later -> custody.Exits later exit ->
      custody.machines later machine -> Results (.error exit machine)

/-- Runs that keep a custody on all machines that have it. -/
def Runs (run : Run α) : Prop :=
  ∀ machine, custody.machines world machine -> custody.Results world answers (run machine)

/-- What is known of a block, which is that of its statements. -/
def Blocks (block : Block) : Prop := ∀ statement ∈ block.statements, custody.statements statement

end

/-- Runs that give a value, or none. -/
abbrev Gives (custody : Custody) (world : custody.World) (run : Run (Option Value)) : Prop :=
  custody.Runs world (fun later answer => ∀ value ∈ answer, custody.Values later value) run

/-- Runs whose answers tell nothing. -/
abbrev Steps (custody : Custody) (world : custody.World) (run : Run Unit) : Prop :=
  custody.Runs world (fun _ _ => True) run

/-- A kind of trees that has the parts of a tree with the tree.  The body of a function is
none of them, as it is run from the function and not from the tree. -/
structure Hereditary (custody : Custody) : Prop where
  unary : ∀ {token operator operand}, custody.expressions (.unary token operator operand) ->
    custody.expressions operand
  binary : ∀ {token left operator right},
    custody.expressions (.binary token left operator right) ->
    custody.expressions left ∧ custody.expressions right
  conditional : ∀ {token condition consequence alternative},
    custody.expressions (.conditional token condition consequence alternative) ->
    custody.expressions condition ∧ custody.Blocks consequence ∧
      ∀ block ∈ alternative, custody.Blocks block
  call : ∀ {token callee arguments}, custody.expressions (.call token callee arguments) ->
    custody.expressions callee ∧ ∀ argument ∈ arguments, custody.expressions argument
  binding : ∀ {token name value}, custody.statements (.binding token name value) ->
    custody.expressions value
  returning : ∀ {token value}, custody.statements (.returning token (some value)) ->
    custody.expressions value
  expression : ∀ {token value}, custody.statements (.expression token value) ->
    custody.expressions value

/-- What the primitive steps need of a custody. -/
structure Lawful (custody : Custody) : Prop extends custody.Hereditary where
  refl : ∀ world, custody.later world world
  trans : ∀ {world inner later}, custody.later world inner -> custody.later inner later ->
    custody.later world later
  scopes_mono : ∀ {world later scope}, custody.later world later ->
    custody.scopes world scope -> custody.scopes later scope
  callables_mono : ∀ {world later callable}, custody.later world later ->
    custody.callables world callable -> custody.callables later callable
  closures_mono : ∀ {world later callee}, custody.later world later ->
    custody.closures world callee -> custody.closures later callee
  callable : ∀ {world callee}, custody.closures world callee ->
    custody.callables world callee.callable
  body : ∀ {world function}, custody.callables world (.function function) ->
    custody.Blocks function.body
  scope : ∀ {world machine}, custody.machines world machine -> custody.scopes world machine.scope
  withScope : ∀ {world machine scope}, custody.scopes world scope ->
    custody.machines world machine -> custody.machines world { machine with scope := scope }
  withDepth : ∀ {world machine} depth, custody.machines world machine ->
    custody.machines world { machine with depth := depth }
  print : ∀ {world machine value}, custody.Values world value -> custody.machines world machine ->
    ∃ later, custody.later world later ∧ custody.machines later
      { machine with sink := (machine.sink.accept value).2 }
  lookup : ∀ {world machine name value}, custody.machines world machine ->
    machine.frames.find? machine.scope name = some value -> custody.Values world value
  declare : ∀ {world machine value} name, custody.Values world value ->
    custody.machines world machine ->
    ∃ later, custody.later world later ∧ custody.machines later
      { machine with frames := machine.frames.declare machine.scope name value }
  close : ∀ {world machine token parameters body},
    custody.expressions (.function token parameters body) -> custody.machines world machine ->
    ∃ later, custody.later world later ∧
      custody.closures later
        ⟨machine.identities, .function ⟨machine.scope, parameters, body⟩⟩ ∧
      custody.machines later { machine with identities := machine.identities + 1 }
  enter : ∀ {world function arguments machine}, custody.callables world (.function function) ->
    (∀ value ∈ arguments, custody.Values world value) -> custody.machines world machine ->
    ∃ inner, custody.later world inner ∧ custody.machines inner
      { machine with
        frames := machine.frames.push (function.frame arguments)
        scope := machine.frames.size }

variable {custody : Custody} {world : custody.World} {α β : Type}
  {answers : custody.World -> α -> Prop}

theorem Values.getD {answer : Option Value} (known : ∀ value ∈ answer, custody.Values world value) :
    custody.Values world (answer.getD .null) := by
  cases answer with
  | none => trivial
  | some value => exact known value rfl

/-! ## Putting runs together -/

section

variable (lawful : custody.Lawful)
include lawful

theorem Lawful.values_mono {later : custody.World} {value : Value}
    (after : custody.later world later) (known : custody.Values world value) :
    custody.Values later value := by
  cases value with
  | closure callee => exact lawful.closures_mono after known
  | _ => trivial

theorem Results.weaken {inner : custody.World} (after : custody.later world inner)
    {result : EStateM.Result Exit Machine α} (known : custody.Results inner answers result) :
    custody.Results world answers result := by
  cases known with
  | ok further answer machine => exact .ok (lawful.trans after further) answer machine
  | error further exit machine => exact .error (lawful.trans after further) exit machine

namespace Runs

theorem pure {answer : α} (known : answers world answer) :
    custody.Runs world answers (Pure.pure answer) := by
  intro machine kept
  exact .ok (lawful.refl world) known kept

theorem exit {exit : Exit} (known : custody.Exits world exit) :
    custody.Runs world answers (throw exit) := by
  intro machine kept
  exact .error (lawful.refl world) known kept

theorem fail (failure : Failure) : custody.Runs world answers (Run.fail failure) :=
  Runs.exit lawful trivial

theorem bind {middle : custody.World -> β -> Prop} {run : Run β} {next : β -> Run α}
    (first : custody.Runs world middle run)
    (second : ∀ {later answer}, custody.later world later -> middle later answer ->
      custody.Runs later answers (next answer)) :
    custody.Runs world answers (run >>= next) := by
  intro machine kept
  have started := first machine kept
  change custody.Results world answers (EStateM.bind run next machine)
  unfold EStateM.bind
  generalize run machine = result at started
  cases started with
  | ok after answer kept => exact .weaken lawful after (second after answer _ kept)
  | error after exit kept => exact .error after exit kept

theorem oneDeeper {run : Run α} (inside : custody.Runs world answers run) :
    custody.Runs world answers run.oneDeeper := by
  intro machine kept
  unfold Run.oneDeeper
  by_cases allowed : machine.depth < maximumCallDepth
  · rw [if_pos allowed]
    have started := inside _ (lawful.withDepth (machine.depth + 1) kept)
    generalize run _ = result at started ⊢
    cases started with
    | ok after answer kept => exact .ok after answer (lawful.withDepth _ kept)
    | error after exit kept => exact .error after exit (lawful.withDepth _ kept)
  · rw [if_neg allowed]
    exact .error (lawful.refl world) trivial kept

omit lawful in
theorem catchReturn {body : Run (Option Value)} (inside : custody.Gives world body) :
    custody.Runs world custody.Values (Run.catchReturn body) := by
  intro machine kept
  have started := inside machine kept
  unfold Run.catchReturn
  generalize body machine = result at started ⊢
  cases started with
  | ok after known kept =>
      exact .ok after (Values.getD known) kept
  | @error _ exit _ after known kept =>
      cases exit with
      | returned value => exact .ok after known kept
      | failed failure => exact .error after trivial kept

/-- What is known in a call goes on to be known behind it, where the old frame is present
again. -/
theorem inNewFrame {function : Function} (callee : custody.callables world (.function function))
    {arguments : List Value} (values : ∀ value ∈ arguments, custody.Values world value)
    {run : Run α}
    (inside : ∀ {later}, custody.later world later -> custody.Runs later answers run) :
    custody.Runs world answers (Run.inNewFrame (function.frame arguments) run) := by
  intro machine kept
  have outer := lawful.scope kept
  rcases lawful.enter callee values kept with ⟨inner, entered, kept⟩
  have started := inside entered _ kept
  dsimp only [Run.inNewFrame]
  generalize run _ = result at started ⊢
  cases started with
  | ok after answer kept =>
      have beyond := lawful.trans entered after
      exact .ok beyond answer (lawful.withScope (lawful.scopes_mono beyond outer) kept)
  | error after exit kept =>
      have beyond := lawful.trans entered after
      exact .error beyond exit (lawful.withScope (lawful.scopes_mono beyond outer) kept)

/-! ## Steps -/

theorem exactly (result : Int) (failure : Failure) :
    custody.Runs world custody.Values (Run.ofResult (MonkeyLang.exactly result failure)) := by
  unfold MonkeyLang.exactly
  split
  · exact .pure lawful trivial
  · exact .fail lawful failure

theorem unary (operator : UnaryOperator) (operand : Value) :
    custody.Runs world custody.Values (Run.ofResult (operator.apply operand)) := by
  cases operator with
  | not => exact .pure lawful trivial
  | negate =>
      cases operand with
      | integer value => exact .exactly lawful _ _
      | _ => exact .fail lawful _

theorem integers (operator : BinaryOperator) (left right : Int64) :
    custody.Runs world custody.Values (Run.ofResult (operator.applyIntegers left right)) := by
  cases operator with
  | plus | minus | times => exact .exactly lawful _ _
  | divide =>
      by_cases zero : right = 0
      · rw [BinaryOperator.applyIntegers, if_pos zero]
        exact .fail lawful _
      · rw [BinaryOperator.applyIntegers, if_neg zero]
        exact .exactly lawful _ _
  | _ => exact .pure lawful trivial

theorem others (operator : BinaryOperator) (left right : Value) :
    custody.Runs world custody.Values (Run.ofResult (operator.applyOthers left right)) := by
  unfold BinaryOperator.applyOthers
  split
  · cases operator with
    | equal | notEqual => exact .pure lawful trivial
    | _ => exact .fail lawful _
  · exact .fail lawful _

/-- An operator never gives a function. -/
theorem binary (operator : BinaryOperator) (left right : Value) :
    custody.Runs world custody.Values (Run.ofResult (operator.apply left right)) := by
  unfold BinaryOperator.apply
  split
  · exact .integers lawful operator _ _
  · exact .others lawful operator left right

theorem callable {value : Value} (known : custody.Values world value) :
    custody.Runs world custody.callables (Run.callable value) := by
  cases value with
  | closure callee => exact .pure lawful (lawful.callable known)
  | _ => exact .fail lawful _

theorem checkArity (callee : Callable) (given : Nat) :
    custody.Steps world (Run.checkArity callee given) := by
  unfold Run.checkArity
  split
  · exact .pure lawful trivial
  · split
    · exact .pure lawful trivial
    · exact .fail lawful _

theorem print {value : Value} (known : custody.Values world value) :
    custody.Steps world (Run.print value) := by
  intro machine kept
  rcases lawful.print known kept with ⟨later, after, kept⟩
  unfold Run.print
  dsimp only
  split
  · exact .ok after trivial kept
  · exact .error after trivial kept

theorem printAll {values : List Value} (known : ∀ value ∈ values, custody.Values world value) :
    custody.Runs world custody.Values (Run.printAll values) := by
  induction values generalizing world with
  | nil => exact .pure lawful trivial
  | cons value later ih =>
      have parts := List.forall_mem_cons.mp known
      refine .bind lawful (.print lawful parts.1) fun after _ => ih fun value member => ?_
      exact lawful.values_mono after (parts.2 value member)

theorem lookup (name : String) : custody.Runs world custody.Values (Run.lookup name) := by
  intro machine kept
  unfold Run.lookup
  split
  · next found => exact .ok (lawful.refl world) (lawful.lookup kept found) kept
  · exact .error (lawful.refl world) trivial kept

theorem declare (name : String) {value : Value} (known : custody.Values world value) :
    custody.Steps world (Run.declare name value) := by
  intro machine kept
  rcases lawful.declare name known kept with ⟨later, after, kept⟩
  exact .ok after trivial kept

theorem close {token : Token} {parameters : List Identifier} {body : Block}
    (known : custody.expressions (.function token parameters body)) :
    custody.Runs world custody.Values (Run.close parameters body) := by
  intro machine kept
  rcases lawful.close known kept with ⟨later, after, closure, kept⟩
  exact .ok after closure kept

end Runs

end

/-- Calls that keep a custody in every world. -/
def Calls (custody : Custody) (call : Callable -> List Value -> Run Value) : Prop :=
  ∀ {world callee arguments}, custody.callables world callee ->
    (∀ value ∈ arguments, custody.Values world value) ->
    custody.Runs world custody.Values (call callee arguments)

/-! ## Trees -/

section Walk

variable {call : Callable -> List Value -> Run Value}

mutual

/-- The evaluation of a tree of the kind keeps the custody. -/
theorem evaluate_keeps (lawful : custody.Lawful) (calls : custody.Calls call)
    {world : custody.World} : ∀ {tree : Expression},
    custody.expressions tree -> custody.Runs world custody.Values (evaluate call tree)
  | .identifier name, _ => .lookup lawful name.name
  | .integer _ _, _ | .boolean _ _, _ => .pure lawful trivial
  | .unary _ operator _, kind => by
      refine .bind lawful (evaluate_keeps lawful calls (lawful.unary kind)) fun _ _ => ?_
      exact .unary lawful operator _
  | .binary _ _ operator _, kind => by
      have sides := lawful.binary kind
      refine .bind lawful (evaluate_keeps lawful calls sides.1) fun _ _ => ?_
      refine .bind lawful (evaluate_keeps lawful calls sides.2) fun _ _ => ?_
      exact .binary lawful operator _ _
  | .conditional _ _ _ none, kind => by
      have parts := lawful.conditional kind
      refine .bind lawful (evaluate_keeps lawful calls parts.1) fun _ _ => ?_
      split
      · exact evaluateBlock_keeps lawful calls parts.2.1
      · exact .pure lawful trivial
  | .conditional _ _ _ (some _), kind => by
      have parts := lawful.conditional kind
      refine .bind lawful (evaluate_keeps lawful calls parts.1) fun _ _ => ?_
      split
      · exact evaluateBlock_keeps lawful calls parts.2.1
      · exact evaluateBlock_keeps lawful calls (parts.2.2 _ rfl)
  | .function _ _ _, kind => .close lawful kind
  | .call _ _ _, kind => by
      have parts := lawful.call kind
      refine .bind lawful (evaluate_keeps lawful calls parts.1) fun _ value => ?_
      refine .bind lawful (.callable lawful value) fun _ callable => ?_
      refine .bind lawful (.checkArity lawful _ _) fun after _ => ?_
      refine .bind lawful (evaluateAll_keeps lawful calls parts.2) fun after' values => ?_
      have callable := lawful.callables_mono (lawful.trans after after') callable
      exact .oneDeeper lawful (calls callable values)

theorem evaluateAll_keeps (lawful : custody.Lawful) (calls : custody.Calls call)
    {world : custody.World} : ∀ {trees : List Expression},
    (∀ tree ∈ trees, custody.expressions tree) ->
      custody.Runs world (fun later values => ∀ value ∈ values, custody.Values later value)
        (evaluateAll call trees)
  | [], _ => .pure lawful fun _ member => nomatch member
  | tree :: later, kind => by
      have parts := List.forall_mem_cons.mp kind
      refine .bind lawful (evaluate_keeps lawful calls parts.1) fun _ value => ?_
      refine .bind lawful (evaluateAll_keeps lawful calls parts.2) fun after values => ?_
      exact .pure lawful (List.forall_mem_cons.mpr ⟨lawful.values_mono after value, values⟩)

theorem execute_keeps (lawful : custody.Lawful) (calls : custody.Calls call)
    {world : custody.World} : ∀ {tree : Statement},
    custody.statements tree -> custody.Gives world (execute call tree)
  | .binding _ name _, kind => by
      refine .bind lawful (evaluate_keeps lawful calls (lawful.binding kind)) fun _ bound => ?_
      refine .bind lawful (.declare lawful name.name bound) fun _ _ => ?_
      exact .pure lawful fun _ member => nomatch member
  | .returning _ none, _ => .exit lawful trivial
  | .returning _ (some _), kind => by
      refine .bind lawful (evaluate_keeps lawful calls (lawful.returning kind)) fun _ result => ?_
      exact .exit lawful result
  | .expression _ _, kind => by
      refine .bind lawful (evaluate_keeps lawful calls (lawful.expression kind)) fun _ result => ?_
      exact .pure lawful fun _ member => Option.mem_some.mp member ▸ result

theorem evaluateBlock_keeps (lawful : custody.Lawful) (calls : custody.Calls call)
    {world : custody.World} : ∀ {tree : Block},
    custody.Blocks tree -> custody.Runs world custody.Values (evaluateBlock call tree)
  | .mk _ _, kind => by
      refine .bind lawful (executeAll_keeps lawful calls kind (fun _ member => nomatch member))
        fun _ last => ?_
      exact .pure lawful (Values.getD last)

theorem executeAll_keeps (lawful : custody.Lawful) (calls : custody.Calls call)
    {world : custody.World} : ∀ {trees : List Statement}
    {last : Option Value}, (∀ tree ∈ trees, custody.statements tree) ->
      (∀ value ∈ last, custody.Values world value) ->
      custody.Gives world (executeAll call last trees)
  | [], _, _, answer => .pure lawful answer
  | _ :: _, _, kind, _ => by
      have parts := List.forall_mem_cons.mp kind
      refine .bind lawful (execute_keeps lawful calls parts.1) fun _ answer => ?_
      exact executeAll_keeps lawful calls parts.2 answer

end

end Walk

/-- Calls keep the custody, however many of them may be nested. -/
theorem callWithin_keeps (lawful : custody.Lawful) (levels : Nat) :
    custody.Calls (callWithin levels) := by
  induction levels with
  | zero =>
      intro world callee arguments _ _
      exact .fail lawful _
  | succ levels ih =>
      intro world callee arguments known values
      cases callee with
      | function literal =>
          apply Runs.inNewFrame lawful known values
          intro later _
          apply Runs.catchReturn
          exact executeAll_keeps lawful ih (lawful.body known) (fun _ member => nomatch member)
      | builtin named =>
          cases named
          exact .printAll lawful values

/-! ## Programs and calls from outside -/

/-- What is known behind a program or a call from outside: some later world has its machine
and the values that it gave. -/
inductive Behind (custody : Custody) (world : custody.World) (given : Value -> Prop)
    (machine : Machine) : Prop
  | mk (later : custody.World) : custody.later world later -> custody.machines later machine ->
      (∀ value, given value -> custody.Values later value) -> custody.Behind world given machine

theorem runStatements_behind (lawful : custody.Lawful) {trees : List Statement}
    (kind : ∀ tree ∈ trees, custody.statements tree) {last : Option Value}
    (answer : ∀ value ∈ last, custody.Values world value) {machine : Machine}
    (kept : custody.machines world machine) :
    custody.Behind world (fun value => (runStatements last trees machine).1 = .ok (some value))
      (runStatements last trees machine).2 := by
  induction trees generalizing world last machine with
  | nil =>
      refine ⟨world, lawful.refl world, kept, fun value given => answer value ?_⟩
      exact Except.ok.inj given
  | cons tree later ih =>
      have parts := List.forall_mem_cons.mp kind
      have started : custody.Results world _ (tree.execute machine) :=
        execute_keeps lawful (callWithin_keeps lawful maximumCallDepth) parts.1 _ kept
      rw [runStatements]
      generalize tree.execute machine = result at started ⊢
      cases started with
      | ok after answer kept =>
          rcases ih parts.2 answer kept with ⟨final, further, kept, values⟩
          exact ⟨final, lawful.trans after further, kept, values⟩
      | @error inner exit _ after known kept =>
          cases exit with
          | returned value =>
              refine ⟨inner, after, kept, fun other given => ?_⟩
              cases given
              exact known
          | failed failure =>
              refine ⟨inner, after, kept, fun other given => ?_⟩
              cases given

/-- Programs of the kind keep the custody to their end. -/
theorem run_behind (lawful : custody.Lawful) {program : Program}
    (kind : ∀ tree ∈ program.statements, custody.statements tree) {machine : Machine}
    (kept : custody.machines world machine) :
    custody.Behind world (fun value => (program.run machine).1 = .ok (some value))
      (program.run machine).2 := by
  have nothing : ∀ value ∈ (none : Option Value), custody.Values world value :=
    fun _ member => nomatch member
  exact runStatements_behind lawful kind nothing kept

/-- Calls from outside keep the custody to their end. -/
theorem callOn_behind (lawful : custody.Lawful) {callee : Callable}
    (known : custody.callables world callee) {arguments : List Value}
    (values : ∀ value ∈ arguments, custody.Values world value) {machine : Machine}
    (kept : custody.machines world machine) :
    custody.Behind world (fun value => (callee.callOn arguments machine).1 = .ok value)
      (callee.callOn arguments machine).2 := by
  have started : custody.Results world _ (callee.call arguments machine) :=
    callWithin_keeps lawful (maximumCallDepth + 1) known values _ kept
  rw [Callable.callOn]
  generalize callee.call arguments machine = result at started ⊢
  cases started with
  | @ok inner _ _ after answer kept =>
      refine ⟨inner, after, kept, fun other given => ?_⟩
      cases given
      exact answer
  | @error inner exit _ after known kept =>
      cases exit with
      | returned value =>
          refine ⟨inner, after, kept, fun other given => ?_⟩
          cases given
          exact known
      | failed failure =>
          refine ⟨inner, after, kept, fun other given => ?_⟩
          cases given

end Custody
end MonkeyLang
