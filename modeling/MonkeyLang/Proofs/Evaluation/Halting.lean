import MonkeyLang.Proofs.Evaluation.Keeping
import MonkeyLang.Proofs.Evaluation.Rules
import MonkeyLang.Proofs.Syntax.Erasure

namespace MonkeyLang

/-!
# Every run comes to an end

The rules of evaluation bound nothing, and still every run has a derivation.  A
call is nested at most as deep as the limit allows, so the number of calls that
may still be nested falls from each call to those that its body makes, and within
one body the tree falls.  Both uses rest on the depth of the machine: it is put
back on every way out of a call, by a value, a return or a failure, so that the
parts of a tree are all run at one depth.

The derivation is unique, and it ends as the evaluation with limited calls does,
whose limit is therefore never felt.
-/

/-! ## Runs and their endings -/

theorem Run.bind_eq_ended {α β : Type} (run : Run α) (next : α -> Run β) (machine : Machine) :
    (run >>= next) machine = (Run.ended (run machine) >>= next) machine := rfl

theorem Run.oneDeeper_of_lt {α : Type} (run : Run α) {machine : Machine}
    (allowed : machine.depth < maximumCallDepth) :
    run.oneDeeper machine =
      (Run.ended (run { machine with depth := machine.depth + 1 })).oneDeeper machine := by
  unfold Run.oneDeeper
  rw [if_pos allowed, if_pos allowed]
  rfl

theorem Run.oneDeeper_of_not_lt {α : Type} (run : Run α) {machine : Machine}
    (refused : ¬ machine.depth < maximumCallDepth) :
    run.oneDeeper machine = .error (.failed .callDepthExceeded) machine := by
  unfold Run.oneDeeper
  rw [if_neg refused]

/-- The two checks that a call makes before it evaluates its arguments. -/
theorem Value.callable_checkArity {α : Type} (value : Value) (given : Nat)
    (next : Callable -> Run α) :
    (do
      let callable ← Run.callable value
      Run.checkArity callable given
      next callable) =
      match value.accepts given with
      | .ok callable => next callable
      | .error failure => Run.fail failure := by
  cases value with
  | closure callee =>
      change (Run.checkArity callee.callable given >>= fun _ => next callee.callable) = _
      unfold Value.accepts Run.checkArity
      dsimp only
      cases callee.callable.arity with
      | none => rfl
      | some expected =>
          by_cases same : given = expected
          · simp only [if_pos same]
            rfl
          · simp only [if_neg same]
            rfl
  | _ => rfl

/-! ## Conditionals and calls whose first part has ended -/

section

variable {call : Callable -> List Value -> Run Value} {machine after : Machine}

section

variable {token : Token} {condition : Expression} {consequence : Block} {test : Value}

theorem evaluate_conditional_of_error {alternative : Option Block} {exit : Exit}
    (ended : evaluate call condition machine = .error exit after) :
    evaluate call (.conditional token condition consequence alternative) machine =
      .error exit after := by
  cases alternative with
  | none => rw [evaluate, Run.bind_of_error ended]
  | some block => rw [evaluate, Run.bind_of_error ended]

theorem evaluate_conditional_of_truthy {alternative : Option Block}
    (ended : evaluate call condition machine = .ok test after) (truthy : test.isTruthy = true) :
    evaluate call (.conditional token condition consequence alternative) machine =
      evaluateBlock call consequence after := by
  cases alternative with
  | none => rw [evaluate, Run.bind_of_ok ended, if_pos truthy]
  | some block => rw [evaluate, Run.bind_of_ok ended, if_pos truthy]

theorem evaluate_conditional_of_falsy {alternative : Block}
    (ended : evaluate call condition machine = .ok test after) (falsy : test.isTruthy = false) :
    evaluate call (.conditional token condition consequence (some alternative)) machine =
      evaluateBlock call alternative after := by
  rw [evaluate, Run.bind_of_ok ended, falsy]
  rfl

theorem evaluate_conditional_of_no_alternative
    (ended : evaluate call condition machine = .ok test after) (falsy : test.isTruthy = false) :
    evaluate call (.conditional token condition consequence none) machine = .ok .null after := by
  rw [evaluate, Run.bind_of_ok ended, falsy]
  rfl

end

section

variable {token : Token} {callee : Expression} {arguments : List Expression} {value : Value}

theorem evaluate_call_of_error {exit : Exit}
    (ended : evaluate call callee machine = .error exit after) :
    evaluate call (.call token callee arguments) machine = .error exit after := by
  rw [evaluate, Run.bind_of_error ended]

theorem evaluate_call_of_rejected {failure : Failure}
    (ended : evaluate call callee machine = .ok value after)
    (refused : value.accepts arguments.length = .error failure) :
    evaluate call (.call token callee arguments) machine = .error (.failed failure) after := by
  rw [evaluate, Run.bind_of_ok ended, Value.callable_checkArity, refused]
  rfl

theorem evaluate_call_of_accepted {callable : Callable}
    (ended : evaluate call callee machine = .ok value after)
    (accepted : value.accepts arguments.length = .ok callable) :
    evaluate call (.call token callee arguments) machine =
      (evaluateAll call arguments >>= fun values => (call callable values).oneDeeper) after := by
  rw [evaluate, Run.bind_of_ok ended, Value.callable_checkArity, accepted]

end

end

/-! ## The machines on which the parts of a tree run -/

section

variable {levels : Nat}

theorem oneDeeper_callWithin_advances (callee : Callable) (arguments : List Value) :
    (callWithin levels callee arguments).oneDeeper.Keeps Advances :=
  oneDeeper_callWithin_inherits advances_preserved.inherited levels callee arguments

theorem advances_of_evaluate {tree : Expression} {machine : Machine} {ending : Ending Value}
    (made : evaluate (callWithin levels) tree machine = ending) :
    Advances machine (machineOf ending) := by
  rw [← made]
  exact evaluate_inherits advances_preserved.inherited oneDeeper_callWithin_advances tree machine

theorem advances_of_evaluateAll {trees : List Expression} {machine : Machine}
    {ending : Ending (List Value)}
    (made : evaluateAll (callWithin levels) trees machine = ending) :
    Advances machine (machineOf ending) := by
  rw [← made]
  exact evaluateAll_inherits advances_preserved.inherited oneDeeper_callWithin_advances trees machine

theorem advances_of_execute {tree : Statement} {machine : Machine}
    {ending : Ending (Option Value)}
    (made : execute (callWithin levels) tree machine = ending) :
    Advances machine (machineOf ending) := by
  rw [← made]
  exact execute_inherits advances_preserved.inherited oneDeeper_callWithin_advances tree machine

theorem depth_of_evaluate {tree : Expression} {machine : Machine} {ending : Ending Value}
    (made : evaluate (callWithin levels) tree machine = ending) :
    (machineOf ending).depth = machine.depth :=
  (advances_of_evaluate made).depth

theorem depth_of_evaluateAll {trees : List Expression} {machine : Machine}
    {ending : Ending (List Value)}
    (made : evaluateAll (callWithin levels) trees machine = ending) :
    (machineOf ending).depth = machine.depth :=
  (advances_of_evaluateAll made).depth

theorem depth_of_execute {tree : Statement} {machine : Machine} {ending : Ending (Option Value)}
    (made : execute (callWithin levels) tree machine = ending) :
    (machineOf ending).depth = machine.depth :=
  (advances_of_execute made).depth

end

/-! ## What a derivation says -/

section

variable {along : Nat -> Machine -> Prop}

mutual

/-- A derivation ends as the evaluation does that has enough calls left. -/
theorem Evaluates.eq {nested : Nat} {tree : Expression} {machine : Machine}
    {ending : Ending Value} : Evaluates along nested tree machine ending ->
      ∀ levels, maximumCallDepth ≤ machine.depth + levels ->
        evaluate (callWithin levels) tree machine = ending
  | .identifier _ | .integer _ | .boolean _ | .function _ => fun _ _ => rfl
  | .unary _ operand => by
      intro levels enough
      rw [evaluate, Run.bind_eq_ended, operand.eq levels enough]
  | .leftExit _ left => by
      intro levels enough
      rw [evaluate, Run.bind_of_error (left.eq levels enough)]
  | .binary _ left right => by
      intro levels enough
      have first := left.eq levels enough
      have second := right.eq levels (depth_of_evaluate first ▸ enough)
      rw [evaluate, Run.bind_of_ok first, Run.bind_eq_ended, second]
      rfl
  | .conditionExit _ condition => by
      intro levels enough
      exact evaluate_conditional_of_error (condition.eq levels enough)
  | .consequence _ condition truthy branch => by
      intro levels enough
      have test := condition.eq levels enough
      have rest := branch.eq levels (depth_of_evaluate test ▸ enough)
      rw [evaluate_conditional_of_truthy test truthy, rest]
  | .alternative _ condition falsy branch => by
      intro levels enough
      have test := condition.eq levels enough
      have rest := branch.eq levels (depth_of_evaluate test ▸ enough)
      rw [evaluate_conditional_of_falsy test falsy, rest]
  | .noAlternative _ condition falsy => by
      intro levels enough
      exact evaluate_conditional_of_no_alternative (condition.eq levels enough) falsy
  | .calleeExit _ callee => by
      intro levels enough
      exact evaluate_call_of_error (callee.eq levels enough)
  | .rejected _ callee refused => by
      intro levels enough
      exact evaluate_call_of_rejected (callee.eq levels enough) refused
  | .argumentsExit _ callee accepted arguments => by
      intro levels enough
      have value := callee.eq levels enough
      have exit := arguments.eq levels (depth_of_evaluate value ▸ enough)
      rw [evaluate_call_of_accepted value accepted, Run.bind_of_error exit]
  | .exceeded _ callee accepted arguments refused => by
      intro levels enough
      have value := callee.eq levels enough
      have values := arguments.eq levels (depth_of_evaluate value ▸ enough)
      rw [evaluate_call_of_accepted value accepted, Run.bind_of_ok values,
        Run.oneDeeper_of_not_lt _ refused]
  | .called _ callee accepted arguments allowed body => by
      intro levels enough
      have value := callee.eq levels enough
      have depth := depth_of_evaluate value
      have values := arguments.eq levels (depth ▸ enough)
      have depth' := depth_of_evaluateAll values
      dsimp only [machineOf] at depth depth'
      have inside := body.eq levels (by omega) (by
        dsimp only
        omega)
      rw [evaluate_call_of_accepted value accepted, Run.bind_of_ok values,
        Run.oneDeeper_of_lt _ allowed, inside]

theorem EvaluatesAll.eq {nested : Nat} {trees : List Expression} {machine : Machine}
    {ending : Ending (List Value)} : EvaluatesAll along nested trees machine ending ->
      ∀ levels, maximumCallDepth ≤ machine.depth + levels ->
        evaluateAll (callWithin levels) trees machine = ending
  | .nil _ => fun _ _ => rfl
  | .headExit _ head => by
      intro levels enough
      rw [evaluateAll, Run.bind_of_error (head.eq levels enough)]
  | .cons _ head later => by
      intro levels enough
      have first := head.eq levels enough
      have others := later.eq levels (depth_of_evaluate first ▸ enough)
      rw [evaluateAll, Run.bind_of_ok first, Run.bind_eq_ended, others]
      rfl

theorem Executes.eq {nested : Nat} {tree : Statement} {machine : Machine}
    {ending : Ending (Option Value)} : Executes along nested tree machine ending ->
      ∀ levels, maximumCallDepth ≤ machine.depth + levels ->
        execute (callWithin levels) tree machine = ending
  | .bareReturn _ => fun _ _ => rfl
  | .binding _ value | .returning _ value | .expression _ value => by
      intro levels enough
      rw [execute, Run.bind_eq_ended, value.eq levels enough]

theorem EvaluatesBlock.eq {nested : Nat} {tree : Block} {machine : Machine}
    {ending : Ending Value} : EvaluatesBlock along nested tree machine ending ->
      ∀ levels, maximumCallDepth ≤ machine.depth + levels ->
        evaluateBlock (callWithin levels) tree machine = ending
  | .mk _ statements => by
      intro levels enough
      rw [evaluateBlock, Run.bind_eq_ended, statements.eq levels enough]

theorem ExecutesAll.eq {nested : Nat} {last : Option Value} {trees : List Statement}
    {machine : Machine} {ending : Ending (Option Value)} :
    ExecutesAll along nested last trees machine ending ->
      ∀ levels, maximumCallDepth ≤ machine.depth + levels ->
        executeAll (callWithin levels) last trees machine = ending
  | .nil _ => fun _ _ => rfl
  | .headExit _ head => by
      intro levels enough
      rw [executeAll, Run.bind_of_error (head.eq levels enough)]
  | .cons _ head later => by
      intro levels enough
      have first := head.eq levels enough
      have others := later.eq levels (depth_of_execute first ▸ enough)
      rw [executeAll, Run.bind_of_ok first, others]

/-- A call needs one call more than the run of its body does. -/
theorem CallEnds.eq {nested : Nat} {callee : Callable} {arguments : List Value}
    {machine : Machine} {ending : Ending Value} :
    CallEnds along nested callee arguments machine ending ->
      ∀ levels, 0 < levels -> maximumCallDepth + 1 ≤ machine.depth + levels ->
        callWithin levels callee arguments machine = ending
  | .puts _ => by
      intro levels positive _
      cases levels with
      | zero => omega
      | succ levels => rfl
  | .function _ body => by
      intro levels positive enough
      cases levels with
      | zero => omega
      | succ levels =>
          have inside := body.eq levels (by
            dsimp only
            omega)
          dsimp only [callWithin, Run.inNewFrame, Run.catchReturn, Run.ended]
          rw [inside]

end

theorem StatementsEnd.eq {last : Option Value} {trees : List Statement} {machine : Machine}
    {report : Except RuntimeError (Option Value) × Machine}
    (ends : StatementsEnd along last trees machine report) :
    runStatements last trees machine = report := by
  induction ends with
  | nil _ => rfl
  | cons _ head _ ih =>
      have first := head.eq maximumCallDepth (Nat.le_add_left _ _)
      rw [runStatements_of_ok first]
      exact ih
  | returned _ head =>
      have first := head.eq maximumCallDepth (Nat.le_add_left _ _)
      exact runStatements_of_returned first
  | failed _ head =>
      have first := head.eq maximumCallDepth (Nat.le_add_left _ _)
      exact runStatements_of_failed first

end

/-! ## A derivation for every run -/

/-- A property of the number of calls around a run and of the machine that lasts as
the run goes on, and that each call of the program hands on. -/
structure HandedOn (along : Nat -> Machine -> Prop) : Prop where
  later : ∀ {nested machine after}, along nested machine -> Advances machine after ->
    along nested after
  within : ∀ {nested machine frame}, along nested machine ->
    along nested { machine with
      frames := machine.frames.push frame
      scope := machine.frames.size }
  deeper : ∀ {nested machine}, along nested machine -> machine.depth < maximumCallDepth ->
    along (nested + 1) { machine with depth := machine.depth + 1 }

/-- Calls have derivations where as many may be nested as the limit allows. -/
def CallsEnd (along : Nat -> Machine -> Prop) (levels : Nat) : Prop :=
  ∀ nested callee arguments machine, along nested machine -> 0 < levels ->
    maximumCallDepth + 1 ≤ machine.depth + levels ->
    CallEnds along nested callee arguments machine (callWithin levels callee arguments machine)

section

variable {along : Nat -> Machine -> Prop} {levels : Nat}

mutual

/-- The evaluation of an expression with enough calls left has a derivation. -/
theorem evaluates_evaluate (handed : HandedOn along) (calls : CallsEnd along levels) :
    ∀ (tree : Expression) (nested : Nat) (machine : Machine),
    along nested machine -> maximumCallDepth ≤ machine.depth + levels ->
      Evaluates along nested tree machine (evaluate (callWithin levels) tree machine)
  | .identifier _, _, _, here, _ => .identifier here
  | .integer _ _, _, _, here, _ => .integer here
  | .boolean _ _, _, _, here, _ => .boolean here
  | .unary _ _ operand, nested, machine, here, enough => by
      rw [evaluate, Run.bind_eq_ended]
      exact .unary here (evaluates_evaluate handed calls operand nested machine here enough)
  | .binary _ left operator right, nested, machine, here, enough => by
      have first := evaluates_evaluate handed calls left nested machine here enough
      cases made : evaluate (callWithin levels) left machine with
      | error exit after =>
          rw [evaluate, Run.bind_of_error made]
          exact .leftExit here (made ▸ first)
      | ok value after =>
          have second := evaluates_evaluate handed calls right nested after
            (handed.later here (advances_of_evaluate made)) (depth_of_evaluate made ▸ enough)
          rw [evaluate, Run.bind_of_ok made]
          exact .binary here (made ▸ first) second
  | .conditional _ condition consequence alternative, nested, machine, here, enough => by
      have test := evaluates_evaluate handed calls condition nested machine here enough
      cases made : evaluate (callWithin levels) condition machine with
      | error exit after =>
          rw [evaluate_conditional_of_error made]
          exact .conditionExit here (made ▸ test)
      | ok value after =>
          have there := handed.later here (advances_of_evaluate made)
          have enough := depth_of_evaluate made ▸ enough
          rw [made] at test
          cases truth : value.isTruthy with
          | true =>
              have branch :=
                evaluatesBlock_evaluateBlock handed calls consequence nested after there enough
              rw [evaluate_conditional_of_truthy made truth]
              exact .consequence here test truth branch
          | false =>
              cases alternative with
              | none =>
                  rw [evaluate_conditional_of_no_alternative made truth]
                  exact .noAlternative here test truth
              | some block =>
                  have branch :=
                    evaluatesBlock_evaluateBlock handed calls block nested after there enough
                  rw [evaluate_conditional_of_falsy made truth]
                  exact .alternative here test truth branch
  | .function _ _ _, _, _, here, _ => .function here
  | .call _ callee arguments, nested, machine, here, enough => by
      have value := evaluates_evaluate handed calls callee nested machine here enough
      cases made : evaluate (callWithin levels) callee machine with
      | error exit after =>
          rw [evaluate_call_of_error made]
          exact .calleeExit here (made ▸ value)
      | ok called after =>
          have depth := depth_of_evaluate made
          have there := handed.later here (advances_of_evaluate made)
          have values :=
            evaluatesAll_evaluateAll handed calls arguments nested after there (depth ▸ enough)
          rw [made] at value
          cases accepted : called.accepts arguments.length with
          | error failure =>
              rw [evaluate_call_of_rejected made accepted]
              exact .rejected here value accepted
          | ok callable =>
              rw [evaluate_call_of_accepted made accepted]
              cases made' : evaluateAll (callWithin levels) arguments after with
              | error exit behind =>
                  rw [Run.bind_of_error made']
                  exact .argumentsExit here value accepted (made' ▸ values)
              | ok list behind =>
                  have depth' := depth_of_evaluateAll made'
                  rw [Run.bind_of_ok made']
                  rw [made'] at values
                  by_cases allowed : behind.depth < maximumCallDepth
                  · rw [Run.oneDeeper_of_lt _ allowed]
                    dsimp only [machineOf] at depth depth'
                    have beyond : along nested behind :=
                      handed.later there (advances_of_evaluateAll made')
                    have inside := calls (nested + 1) callable list _
                      (handed.deeper beyond allowed) (by omega) (by
                        dsimp only
                        omega)
                    exact .called here value accepted values allowed inside
                  · rw [Run.oneDeeper_of_not_lt _ allowed]
                    exact .exceeded here value accepted values allowed

theorem evaluatesAll_evaluateAll (handed : HandedOn along) (calls : CallsEnd along levels) :
    ∀ (trees : List Expression) (nested : Nat)
    (machine : Machine), along nested machine -> maximumCallDepth ≤ machine.depth + levels ->
      EvaluatesAll along nested trees machine (evaluateAll (callWithin levels) trees machine)
  | [], _, _, here, _ => .nil here
  | tree :: later, nested, machine, here, enough => by
      have first := evaluates_evaluate handed calls tree nested machine here enough
      cases made : evaluate (callWithin levels) tree machine with
      | error exit after =>
          rw [evaluateAll, Run.bind_of_error made]
          exact .headExit here (made ▸ first)
      | ok value after =>
          have others := evaluatesAll_evaluateAll handed calls later nested after
            (handed.later here (advances_of_evaluate made)) (depth_of_evaluate made ▸ enough)
          rw [evaluateAll, Run.bind_of_ok made]
          exact .cons here (made ▸ first) others

theorem executes_execute (handed : HandedOn along) (calls : CallsEnd along levels) :
    ∀ (tree : Statement) (nested : Nat) (machine : Machine),
    along nested machine -> maximumCallDepth ≤ machine.depth + levels ->
      Executes along nested tree machine (execute (callWithin levels) tree machine)
  | .binding _ _ value, nested, machine, here, enough =>
      .binding here (evaluates_evaluate handed calls value nested machine here enough)
  | .returning _ none, _, _, here, _ => .bareReturn here
  | .returning _ (some value), nested, machine, here, enough =>
      .returning here (evaluates_evaluate handed calls value nested machine here enough)
  | .expression _ value, nested, machine, here, enough =>
      .expression here (evaluates_evaluate handed calls value nested machine here enough)

theorem evaluatesBlock_evaluateBlock (handed : HandedOn along) (calls : CallsEnd along levels) :
    ∀ (tree : Block) (nested : Nat) (machine : Machine),
    along nested machine -> maximumCallDepth ≤ machine.depth + levels ->
      EvaluatesBlock along nested tree machine (evaluateBlock (callWithin levels) tree machine)
  | .mk _ statements, nested, machine, here, enough =>
      .mk here (executesAll_executeAll handed calls statements none nested machine here enough)

theorem executesAll_executeAll (handed : HandedOn along) (calls : CallsEnd along levels) :
    ∀ (trees : List Statement) (last : Option Value) (nested : Nat)
    (machine : Machine), along nested machine -> maximumCallDepth ≤ machine.depth + levels ->
      ExecutesAll along nested last trees machine
        (executeAll (callWithin levels) last trees machine)
  | [], _, _, _, here, _ => .nil here
  | tree :: later, last, nested, machine, here, enough => by
      have first := executes_execute handed calls tree nested machine here enough
      cases made : execute (callWithin levels) tree machine with
      | error exit after =>
          rw [executeAll, Run.bind_of_error made]
          exact .headExit here (made ▸ first)
      | ok value after =>
          have others := executesAll_executeAll handed calls later value nested after
            (handed.later here (advances_of_execute made)) (depth_of_execute made ▸ enough)
          rw [executeAll, Run.bind_of_ok made]
          exact .cons here (made ▸ first) others

end

end

section

variable {along : Nat -> Machine -> Prop} (handed : HandedOn along)
include handed

/-- A call with enough calls left has a derivation. -/
theorem callEnds_callWithin (levels nested : Nat) (callee : Callable) (arguments : List Value)
    (machine : Machine) (here : along nested machine) (positive : 0 < levels)
    (enough : maximumCallDepth + 1 ≤ machine.depth + levels) :
    CallEnds along nested callee arguments machine
      (callWithin levels callee arguments machine) := by
  induction levels generalizing nested callee arguments machine with
  | zero => omega
  | succ levels ih =>
      cases callee with
      | builtin named =>
          cases named
          exact .puts here
      | function literal =>
          have body := executesAll_executeAll handed ih literal.body.statements none nested
            { machine with
              frames := machine.frames.push (literal.frame arguments)
              scope := machine.frames.size } (handed.within here) (by
                dsimp only
                omega)
          exact .function here body

theorem executes_statement (tree : Statement) (nested : Nat) (machine : Machine)
    (here : along nested machine) : Executes along nested tree machine (tree.execute machine) :=
  executes_execute handed (callEnds_callWithin handed maximumCallDepth) tree nested machine here
    (Nat.le_add_left _ _)

theorem statementsEnd_runStatements (trees : List Statement) (last : Option Value)
    (machine : Machine) (here : along 0 machine) :
    StatementsEnd along last trees machine (runStatements last trees machine) := by
  induction trees generalizing last machine with
  | nil => exact .nil here
  | cons tree later ih =>
      have first := executes_statement handed tree 0 machine here
      cases made : tree.execute machine with
      | ok value after =>
          have there := handed.later here (advances_of_execute made)
          rw [runStatements_of_ok made]
          exact .cons here (made ▸ first) (ih value after there)
      | error exit after =>
          cases exit with
          | returned value =>
              rw [runStatements_of_returned made]
              exact .returned here (made ▸ first)
          | failed failure =>
              rw [runStatements_of_failed made]
              exact .failed here (made ▸ first)

end

/-! ## The two properties that are of interest -/

/-- The property that always holds. -/
def Anywhere : Nat -> Machine -> Prop := fun _ _ => True

theorem anywhere_handedOn : HandedOn Anywhere where
  later _ _ := trivial
  within _ := trivial
  deeper _ _ := trivial

/-- The machine counts the calls of the program that are around it, and they are
at most as many as may be nested. -/
def WithinLimit (nested : Nat) (machine : Machine) : Prop :=
  machine.depth = nested ∧ nested ≤ maximumCallDepth

theorem withinLimit_handedOn : HandedOn WithinLimit where
  later here advances := ⟨advances.depth.trans here.1, here.2⟩
  within here := here
  deeper here allowed := ⟨congrArg (· + 1) here.1, here.1 ▸ allowed⟩

theorem depth_of_runStatements (trees : List Statement) (last : Option Value)
    (machine : Machine) : (runStatements last trees machine).2.depth = machine.depth :=
  (runStatements_keeps advances_preserved last trees machine).depth

/-! ## Programs and calls -/

/-- The rules give every program on every machine one report, which is that of
its run. -/
theorem programEnds_iff (program : Program) (machine : Machine)
    (report : Except RuntimeError (Option Value) × Machine) :
    ProgramEnds Anywhere program machine report ↔ report = program.run machine := by
  constructor
  · intro ends
    exact (StatementsEnd.eq ends).symm
  · rintro rfl
    exact statementsEnd_runStatements anywhere_handedOn _ none machine trivial

theorem executes_iff (tree : Statement) (machine : Machine) (ending : Ending (Option Value)) :
    Executes Anywhere 0 tree machine ending ↔ ending = tree.execute machine := by
  constructor
  · intro executes
    exact (executes.eq maximumCallDepth (Nat.le_add_left _ _)).symm
  · rintro rfl
    exact executes_statement anywhere_handedOn tree 0 machine trivial

theorem evaluatesBlock_iff (tree : Block) (machine : Machine) (ending : Ending Value) :
    EvaluatesBlock Anywhere 0 tree machine ending ↔
      ending = evaluateBlock Callable.nestedCall tree machine := by
  constructor
  · intro evaluates
    exact (evaluates.eq maximumCallDepth (Nat.le_add_left _ _)).symm
  · rintro rfl
    exact evaluatesBlock_evaluateBlock anywhere_handedOn
      (callEnds_callWithin anywhere_handedOn maximumCallDepth) tree 0 machine trivial
      (Nat.le_add_left _ _)

theorem evaluates_iff (tree : Expression) (machine : Machine) (ending : Ending Value) :
    Evaluates Anywhere 0 tree machine ending ↔ ending = tree.evaluate machine := by
  constructor
  · intro evaluates
    exact (evaluates.eq maximumCallDepth (Nat.le_add_left _ _)).symm
  · rintro rfl
    exact evaluates_evaluate anywhere_handedOn
      (callEnds_callWithin anywhere_handedOn maximumCallDepth) tree 0 machine trivial
      (Nat.le_add_left _ _)

theorem callEnds_iff (callable : Callable) (arguments : List Value) (machine : Machine)
    (ending : Ending Value) :
    CallEnds Anywhere 0 callable arguments machine ending ↔
      ending = callable.call arguments machine := by
  constructor
  · intro ends
    exact (ends.eq (maximumCallDepth + 1) (Nat.succ_pos _) (Nat.le_add_left _ _)).symm
  · rintro rfl
    exact callEnds_callWithin anywhere_handedOn _ 0 callable arguments machine trivial
      (Nat.succ_pos _) (Nat.le_add_left _ _)

/-- A program that starts outside of all calls stays within the limit. -/
theorem programEnds_withinLimit (program : Program) {machine : Machine}
    (outside : machine.depth = 0) :
    ProgramEnds WithinLimit program machine (program.run machine) :=
  statementsEnd_runStatements withinLimit_handedOn _ none machine ⟨outside, Nat.zero_le _⟩

/-! ## The limit on nested calls -/

theorem Evaluates.here {along : Nat -> Machine -> Prop} {nested : Nat} {tree : Expression}
    {machine : Machine} {ending : Ending Value}
    (evaluates : Evaluates along nested tree machine ending) : along nested machine := by
  cases evaluates <;> assumption

section

variable {nested : Nat} {token : Token} {callee : Expression} {arguments : List Expression}
  {machine after behind : Machine} {value : Value} {callable : Callable} {values : List Value}
  {ending : Ending Value}

/-- The machine behind the arguments of a call counts the calls around it. -/
theorem withinLimit_behind (called : Evaluates WithinLimit nested callee machine (.ok value after))
    (given : EvaluatesAll WithinLimit nested arguments after (.ok values behind)) :
    WithinLimit nested behind := by
  have first := advances_of_evaluate (called.eq maximumCallDepth (Nat.le_add_left _ _))
  have second := advances_of_evaluateAll (given.eq maximumCallDepth (Nat.le_add_left _ _))
  exact withinLimit_handedOn.later called.here (advances_preserved.trans first second)

/-- A call with the greatest number of calls around it fails on the machine behind
its arguments. -/
theorem Evaluates.call_at_limit
    (ends : Evaluates WithinLimit maximumCallDepth (.call token callee arguments) machine ending)
    (called : Evaluates WithinLimit maximumCallDepth callee machine (.ok value after))
    (accepted : value.accepts arguments.length = .ok callable)
    (given : EvaluatesAll WithinLimit maximumCallDepth arguments after (.ok values behind)) :
    ending = .error (.failed .callDepthExceeded) behind := by
  have counted := withinLimit_behind called given
  have refused : ¬ behind.depth < maximumCallDepth := by
    rw [counted.1]
    exact Nat.lt_irrefl _
  have exceeded : Evaluates WithinLimit maximumCallDepth (.call token callee arguments) machine _ :=
    .exceeded ends.here called accepted given refused
  rw [← ends.eq maximumCallDepth (Nat.le_add_left _ _)]
  exact exceeded.eq maximumCallDepth (Nat.le_add_left _ _)

/-- A call with fewer calls around it runs what it calls, one call deeper. -/
theorem Evaluates.call_below_limit (allowed : nested < maximumCallDepth)
    (ends : Evaluates WithinLimit nested (.call token callee arguments) machine ending)
    (called : Evaluates WithinLimit nested callee machine (.ok value after))
    (accepted : value.accepts arguments.length = .ok callable)
    (given : EvaluatesAll WithinLimit nested arguments after (.ok values behind)) :
    ∃ inner, CallEnds WithinLimit (nested + 1) callable values
        { behind with depth := behind.depth + 1 } inner ∧
      ending = (Run.ended inner).oneDeeper behind := by
  have counted := withinLimit_behind called given
  have room : behind.depth < maximumCallDepth := counted.1 ▸ allowed
  have body := callEnds_callWithin withinLimit_handedOn maximumCallDepth (nested + 1) callable
    values { behind with depth := behind.depth + 1 } (withinLimit_handedOn.deeper counted room)
    (Nat.zero_lt_of_lt allowed) (by
      dsimp only
      omega)
  refine ⟨_, body, ?_⟩
  have whole : Evaluates WithinLimit nested (.call token callee arguments) machine _ :=
    .called ends.here called accepted given room body
  rw [← ends.eq maximumCallDepth (Nat.le_add_left _ _)]
  exact whole.eq maximumCallDepth (Nat.le_add_left _ _)

end

/-- Every run comes to an end, on every machine and in one way only: that of a
program, of a statement, of a block, of an expression and of a call from outside.
The run of a program that starts outside of all calls comes through no machine
whose depth is not the number of calls around it, or is more than the limit; a
call runs what it calls as long as this number is below the limit, and fails
behind its arguments when the limit is reached. -/
theorem every_run_ends :
    (∀ program machine report,
      ProgramEnds Anywhere program machine report ↔ report = program.run machine) ∧
    (∀ tree machine ending,
      Executes Anywhere 0 tree machine ending ↔ ending = tree.execute machine) ∧
    (∀ tree machine ending,
      EvaluatesBlock Anywhere 0 tree machine ending ↔
        ending = evaluateBlock Callable.nestedCall tree machine) ∧
    (∀ tree machine ending,
      Evaluates Anywhere 0 tree machine ending ↔ ending = tree.evaluate machine) ∧
    (∀ callable arguments machine ending,
      CallEnds Anywhere 0 callable arguments machine ending ↔
        ending = callable.call arguments machine) ∧
    (∀ program machine, machine.depth = 0 ->
      ProgramEnds WithinLimit program machine (program.run machine) ∧
        (program.run machine).2.depth = 0) ∧
    (∀ nested token callee arguments machine value after callable values behind ending,
      Evaluates WithinLimit nested (.call token callee arguments) machine ending ->
      Evaluates WithinLimit nested callee machine (.ok value after) ->
      value.accepts arguments.length = .ok callable ->
      EvaluatesAll WithinLimit nested arguments after (.ok values behind) ->
      (nested = maximumCallDepth ->
        ending = .error (.failed .callDepthExceeded) behind) ∧
      (nested < maximumCallDepth ->
        ∃ inner, CallEnds WithinLimit (nested + 1) callable values
            { behind with depth := behind.depth + 1 } inner ∧
          ending = (Run.ended inner).oneDeeper behind)) := by
  refine ⟨programEnds_iff, executes_iff, evaluatesBlock_iff, evaluates_iff, callEnds_iff, ?_, ?_⟩
  · intro program machine outside
    have depth := depth_of_runStatements program.statements none machine
    exact ⟨programEnds_withinLimit program outside, depth.trans outside⟩
  · intro nested token callee arguments machine value after callable values behind ending
      ends called accepted given
    constructor
    · rintro rfl
      exact ends.call_at_limit called accepted given
    · intro allowed
      exact ends.call_below_limit allowed called accepted given

/-- A function that calls itself without end, called once. -/
def runaway : Program :=
  ⟨[.binding .erased ⟨.erased, "f"⟩
      (.function .erased []
        (.mk .erased [.expression .erased (.call .erased (.identifier ⟨.erased, "f"⟩) [])])),
    .expression .erased (.call .erased (.identifier ⟨.erased, "f"⟩) [])]⟩

/-- A fresh machine as it is inside of as many calls as may be nested. -/
def Machine.freshAtLimit : Machine := { Machine.fresh none with depth := maximumCallDepth }

theorem lookup_puts_freshAtLimit :
    Run.lookup "puts" Machine.freshAtLimit =
      .ok (.closure ⟨0, .builtin .puts⟩) Machine.freshAtLimit := by
  have own : (Machine.freshAtLimit.frames[Machine.freshAtLimit.scope]?).bind (·.find? "puts") =
      some (.closure ⟨0, .builtin .puts⟩) := by decide
  unfold Run.lookup
  rw [Frames.find?_of_own own]

/-- The runaway program ends within the limit, and a call of `puts` at the limit
prints nothing. -/
theorem every_run_ends_of_runaway :
    (ProgramEnds WithinLimit runaway (Machine.fresh none) (runaway.run (Machine.fresh none)) ∧
      (runaway.run (Machine.fresh none)).2.depth = 0) ∧
    ∃ ending, Evaluates WithinLimit maximumCallDepth
        (.call .erased (.identifier ⟨.erased, "puts"⟩) []) Machine.freshAtLimit ending ∧
      ending = .error (.failed .callDepthExceeded) Machine.freshAtLimit := by
  rcases every_run_ends with ⟨_, _, _, _, _, programs, calls⟩
  refine ⟨programs runaway (Machine.fresh none) rfl, ?_⟩
  have here : WithinLimit maximumCallDepth Machine.freshAtLimit := ⟨rfl, Nat.le_refl _⟩
  have called : Evaluates WithinLimit maximumCallDepth (.identifier ⟨.erased, "puts"⟩)
      Machine.freshAtLimit (.ok (.closure ⟨0, .builtin .puts⟩) Machine.freshAtLimit) :=
    lookup_puts_freshAtLimit ▸ .identifier here
  have given : EvaluatesAll WithinLimit maximumCallDepth [] Machine.freshAtLimit
      (.ok [] Machine.freshAtLimit) := .nil here
  have refused : ¬ Machine.freshAtLimit.depth < maximumCallDepth := Nat.lt_irrefl _
  have ends : Evaluates WithinLimit maximumCallDepth
      (.call .erased (.identifier ⟨.erased, "puts"⟩) []) Machine.freshAtLimit _ :=
    .exceeded here called rfl given refused
  refine ⟨_, ends, ?_⟩
  exact (calls _ _ _ _ _ _ _ _ _ _ _ ends called rfl given).1 rfl

end MonkeyLang
