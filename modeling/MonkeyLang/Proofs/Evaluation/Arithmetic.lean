import MonkeyLang.Evaluation.Interpreter
import MonkeyLang.Proofs.Evaluation.Rules
import MonkeyLang.Proofs.Syntax.Erasure

namespace MonkeyLang

/-!
# Exact arithmetic

An expression of integers, truth values and operators has an exact value, which is computed
without a range and without an order: the integers are those of mathematics.  It has none
where an operator is not defined for its operands.

Evaluation gives this value as long as every operator application in the expression has one
that lies in the range.  Otherwise there is a first application, from left to right and
operands before their operator, that has none or one out of range, and evaluation fails
with what is wrong with that application.  For what can be wrong there is one rule for each
kind of failure, and never do two of them apply.  In no case does the machine change.
-/

/-! ## Exact values -/

/-- An integer without a range, or a truth value. -/
inductive Exact where
  | integer (value : Int)
  | boolean (value : Bool)
  deriving DecidableEq

namespace Exact

/-- The kind of an exact value. -/
def type : Exact -> ValueType
  | .integer _ => .integer
  | .boolean _ => .boolean

/-- Whether an exact value is one of the language. -/
def InRange : Exact -> Prop
  | .integer value => -9223372036854775808 ≤ value ∧ value ≤ 9223372036854775807
  | .boolean _ => True

end Exact

/-- The exact value that a value of the language stands for. -/
def Value.exactValue? : Value -> Option Exact
  | .integer value => some (.integer value.toInt)
  | .boolean value => some (.boolean value)
  | _ => none

/-- The exact value of an operator in front of an operand. -/
def UnaryOperator.exactValue? : UnaryOperator -> Exact -> Option Exact
  | .not, .integer _ => some (.boolean false)
  | .not, .boolean value => some (.boolean !value)
  | .negate, .integer value => some (.integer (-value))
  | .negate, .boolean _ => none

/-- The exact value of an operator between two operands.  The quotient is taken toward
zero, and there is none by zero. -/
def BinaryOperator.exactValue? : BinaryOperator -> Exact -> Exact -> Option Exact
  | .plus, .integer left, .integer right => some (.integer (left + right))
  | .minus, .integer left, .integer right => some (.integer (left - right))
  | .times, .integer left, .integer right => some (.integer (left * right))
  | .divide, .integer left, .integer right =>
      if right = 0 then none else some (.integer (left.tdiv right))
  | .less, .integer left, .integer right => some (.boolean (left < right))
  | .greater, .integer left, .integer right => some (.boolean (right < left))
  | .equal, .integer left, .integer right => some (.boolean (left = right))
  | .notEqual, .integer left, .integer right => some (.boolean (left ≠ right))
  | .equal, .boolean left, .boolean right => some (.boolean (left = right))
  | .notEqual, .boolean left, .boolean right => some (.boolean (left ≠ right))
  | _, _, _ => none

namespace Expression

/-- Expressions of integers, truth values and operators. -/
inductive IsArithmetic : Expression -> Prop
  | integer {token value} : IsArithmetic (.integer token value)
  | boolean {token value} : IsArithmetic (.boolean token value)
  | unary {token operator operand} : IsArithmetic operand ->
      IsArithmetic (.unary token operator operand)
  | binary {token left operator right} : IsArithmetic left -> IsArithmetic right ->
      IsArithmetic (.binary token left operator right)

/-- The exact value of an expression. -/
def exactValue? : Expression -> Option Exact
  | .integer _ value => some (.integer value.toInt)
  | .boolean _ value => some (.boolean value)
  | .unary _ operator operand => operand.exactValue?.bind operator.exactValue?
  | .binary _ left operator right =>
      left.exactValue?.bind fun first => right.exactValue?.bind (operator.exactValue? first)
  | _ => none
termination_by structural tree => tree

/-- The operator applications in an expression, from left to right and each behind those
in its operands. -/
def applications : Expression -> List Expression
  | .unary token operator operand =>
      operand.applications ++ [.unary token operator operand]
  | .binary token left operator right =>
      left.applications ++ right.applications ++ [.binary token left operator right]
  | _ => []
termination_by structural tree => tree

/-- Whether an expression has an exact value that is one of the language. -/
def IsSettled (tree : Expression) : Prop := ∃ exact, tree.exactValue? = some exact ∧ exact.InRange

/-- Whether all operator applications in an expression have exact values that are values
of the language. -/
def IsRegular (tree : Expression) : Prop := ∀ application ∈ tree.applications, application.IsSettled

end Expression

/-! ## What can be wrong with an application -/

/-- Why an operator is refused in front of an operand. -/
inductive UnaryOperator.Refuses : UnaryOperator -> Exact -> Failure -> Prop
  | overflow {operand : Int64} {value : Int} : operand.toInt = value ->
      ¬ (Exact.integer (-value)).InRange ->
      Refuses .negate (.integer value) (.negationOverflow operand)
  | unknown {value : Bool} :
      Refuses .negate (.boolean value) (.unknownUnary .negate .boolean)

/-- Why an operator is refused between two operands: they are of different kinds, or the
divisor is zero, or the exact result is out of range, or the operator is not one for truth
values. -/
inductive BinaryOperator.Refuses : BinaryOperator -> Exact -> Exact -> Failure -> Prop
  | mismatch {operator first second} : first.type ≠ second.type ->
      Refuses operator first second (.typeMismatch first.type operator second.type)
  | division {dividend : Int64} {value : Int} : dividend.toInt = value ->
      Refuses .divide (.integer value) (.integer 0) (.divisionByZero dividend)
  | overflow {operator} {left right : Int64} {first second : Int} {result} :
      left.toInt = first -> right.toInt = second ->
      operator.exactValue? (.integer first) (.integer second) = some result -> ¬ result.InRange ->
      Refuses operator (.integer first) (.integer second) (.overflow left operator right)
  | unknown {operator} {first second : Bool} : operator ≠ .equal -> operator ≠ .notEqual ->
      Refuses operator (.boolean first) (.boolean second)
        (.unknownBinary .boolean operator .boolean)

/-- What is wrong with an operator application whose operands have exact values. -/
inductive Expression.Offends : Expression -> Failure -> Prop
  | unary {token operator operand value failure} : operand.exactValue? = some value ->
      operator.Refuses value failure -> Offends (.unary token operator operand) failure
  | binary {token left operator right first second failure} : left.exactValue? = some first ->
      right.exactValue? = some second -> operator.Refuses first second failure ->
      Offends (.binary token left operator right) failure

theorem UnaryOperator.Refuses.unique {operator : UnaryOperator} {value : Exact}
    {failure other : Failure} (refuses : operator.Refuses value failure)
    (refuses' : operator.Refuses value other) : failure = other := by
  cases refuses with
  | overflow same _ =>
      cases refuses' with
      | overflow same' _ => rw [Int64.toInt_inj.mp (same.trans same'.symm)]
  | unknown => cases refuses'; rfl

/-- The rules for refusals exclude each other. -/
theorem BinaryOperator.Refuses.unique {operator : BinaryOperator} {first second : Exact}
    {failure other : Failure} (refuses : operator.Refuses first second failure)
    (refuses' : operator.Refuses first second other) : failure = other := by
  cases refuses with
  | mismatch different =>
      cases refuses' with
      | mismatch _ => rfl
      | _ => exact absurd rfl different
  | division same =>
      cases refuses' with
      | mismatch different => exact absurd rfl different
      | division same' => rw [Int64.toInt_inj.mp (same.trans same'.symm)]
      | overflow _ _ result _ => cases result
  | overflow same same' result _ =>
      cases refuses' with
      | mismatch different => exact absurd rfl different
      | division _ => cases result
      | overflow other other' _ _ =>
          rw [Int64.toInt_inj.mp (same.trans other.symm),
            Int64.toInt_inj.mp (same'.trans other'.symm)]
  | unknown _ _ =>
      cases refuses' with
      | mismatch different => exact absurd rfl different
      | unknown _ _ => rfl

theorem Expression.Offends.unique {tree : Expression} {failure other : Failure}
    (offends : tree.Offends failure) (offends' : tree.Offends other) : failure = other := by
  cases offends with
  | unary operand refuses =>
      cases offends' with
      | unary operand' refuses' =>
          cases operand.symm.trans operand'
          exact refuses.unique refuses'
  | binary left right refuses =>
      cases offends' with
      | binary left' right' refuses' =>
          cases left.symm.trans left'
          cases right.symm.trans right'
          exact refuses.unique refuses'

theorem UnaryOperator.Refuses.not_inRange {operator : UnaryOperator} {value result : Exact}
    {failure : Failure} (refuses : operator.Refuses value failure)
    (exact : operator.exactValue? value = some result) : ¬ result.InRange := by
  cases refuses with
  | overflow _ outside =>
      cases exact
      exact outside
  | unknown => cases exact

theorem BinaryOperator.exactValue?_of_type_ne {operator : BinaryOperator} {first second : Exact}
    (different : first.type ≠ second.type) : operator.exactValue? first second = none := by
  cases first <;> cases second
  · exact absurd rfl different
  · cases operator <;> rfl
  · cases operator <;> rfl
  · exact absurd rfl different

theorem BinaryOperator.Refuses.not_inRange {operator : BinaryOperator} {first second result : Exact}
    {failure : Failure} (refuses : operator.Refuses first second failure)
    (exact : operator.exactValue? first second = some result) : ¬ result.InRange := by
  cases refuses with
  | mismatch different =>
      rw [exactValue?_of_type_ne different] at exact
      cases exact
  | division _ => cases exact
  | overflow _ _ found outside =>
      cases exact.symm.trans found
      exact outside
  | unknown notEqual notUnequal =>
      cases operator with
      | equal => exact absurd rfl notEqual
      | notEqual => exact absurd rfl notUnequal
      | _ => cases exact

/-- Nothing is wrong with an application that has a value of the language. -/
theorem Expression.IsSettled.not_offends {tree : Expression} (settled : tree.IsSettled)
    (failure : Failure) : ¬ tree.Offends failure := by
  rcases settled with ⟨result, exact, inside⟩
  intro offends
  cases offends with
  | unary operand refuses =>
      rw [exactValue?, operand, Option.bind_some] at exact
      exact refuses.not_inRange exact inside
  | binary left right refuses =>
      rw [exactValue?, left, right, Option.bind_some, Option.bind_some] at exact
      exact refuses.not_inRange exact inside

/-! ## Single operators -/

/-- An operator gives its exact value, in range, or it is refused. -/
inductive Decides (exact : Option Exact) (refuses : Failure -> Prop) :
    Except Failure Value -> Prop
  | ok {result value} : exact = some result -> result.InRange -> value.exactValue? = some result ->
      Decides exact refuses (.ok value)
  | error {failure} : refuses failure -> Decides exact refuses (.error failure)

theorem exactly_decides {result : Int} {failure : Failure} {refuses : Failure -> Prop}
    (refused : ¬ (Exact.integer result).InRange -> refuses failure) :
    Decides (some (.integer result)) refuses (exactly result failure) := by
  unfold exactly
  by_cases inside : (Exact.integer result).InRange
  · have found : represent? result = some (Int64.ofInt result) := if_pos inside
    rw [found]
    refine .ok rfl inside ?_
    rw [Value.exactValue?, toInt_of_represent? found]
  · have missing : represent? result = none := if_neg inside
    rw [missing]
    exact .error (refused inside)

theorem UnaryOperator.decides (operator : UnaryOperator) {value : Value} {operand : Exact}
    (shown : value.exactValue? = some operand) :
    Decides (operator.exactValue? operand) (operator.Refuses operand) (operator.apply value) := by
  cases value with
  | integer value =>
      cases shown
      cases operator with
      | not => exact .ok rfl trivial rfl
      | negate => exact exactly_decides (.overflow rfl)
  | boolean value =>
      cases shown
      cases operator with
      | not => exact .ok rfl trivial rfl
      | negate => exact .error .unknown
  | closure _ | null => cases shown

namespace BinaryOperator

theorem applyIntegers_decides (operator : BinaryOperator) (left right : Int64) :
    Decides (operator.exactValue? (.integer left.toInt) (.integer right.toInt))
      (operator.Refuses (.integer left.toInt) (.integer right.toInt))
      (operator.applyIntegers left right) := by
  cases operator with
  | plus | minus | times => exact exactly_decides (.overflow rfl rfl rfl)
  | divide =>
      by_cases zero : right = 0
      · subst zero
        exact .error (.division rfl)
      · have different : right.toInt ≠ 0 := fun same => zero (Int64.toInt_inj.mp same)
        have exact :
            BinaryOperator.divide.exactValue? (.integer left.toInt) (.integer right.toInt) =
              some (.integer (left.toInt.tdiv right.toInt)) := if_neg different
        rw [exact, applyIntegers, if_neg zero]
        exact exactly_decides (.overflow rfl rfl exact)
  | less | greater => exact .ok rfl trivial (by simp [Value.exactValue?, Int64.lt_iff_toInt_lt])
  | equal | notEqual => exact .ok rfl trivial (by simp [Value.exactValue?, Int64.toInt_inj])

theorem decides (operator : BinaryOperator) {left right : Value} {first second : Exact}
    (shown : left.exactValue? = some first) (shown' : right.exactValue? = some second) :
    Decides (operator.exactValue? first second) (operator.Refuses first second)
      (operator.apply left right) := by
  cases left with
  | integer left =>
      cases shown
      cases right with
      | integer right =>
          cases shown'
          exact operator.applyIntegers_decides left right
      | boolean right =>
          cases shown'
          exact .error (.mismatch ValueType.noConfusion)
      | closure _ | null => cases shown'
  | boolean left =>
      cases shown
      cases right with
      | integer right =>
          cases shown'
          exact .error (.mismatch ValueType.noConfusion)
      | boolean right =>
          cases shown'
          cases operator with
          | equal => exact .ok rfl trivial rfl
          | notEqual =>
              have unequal : (!decide (left = right)) = decide (left ≠ right) := (decide_not ..).symm
              exact .ok rfl trivial (congrArg (some ∘ Exact.boolean) unequal)
          | _ => exact .error (.unknown BinaryOperator.noConfusion BinaryOperator.noConfusion)
      | closure _ | null => cases shown'
  | closure _ | null => cases shown

end BinaryOperator

/-! ## Whole expressions -/

namespace Expression

/-- How an expression ends that is evaluated exactly: with its exact value, or with what is
wrong with the first application with which anything is wrong. -/
inductive EndsExactly (tree : Expression) (machine : Machine) : Ending Value -> Prop
  | ok {exact value} : tree.IsRegular -> tree.exactValue? = some exact ->
      value.exactValue? = some exact -> EndsExactly tree machine (.ok value machine)
  | error {front application behind failure} :
      tree.applications = front ++ application :: behind ->
      (∀ earlier ∈ front, earlier.IsSettled) -> application.Offends failure ->
      EndsExactly tree machine (.error (.failed failure) machine)

variable {call : Callable -> List Value -> Run Value}

/-- The last application of an expression is settled or it is refused. -/
theorem EndsExactly.last {tree : Expression} {machine : Machine} {front : List Expression}
    (applications : tree.applications = front ++ [tree])
    (settled : ∀ earlier ∈ front, earlier.IsSettled) {refuses : Failure -> Prop}
    (offends : ∀ failure, refuses failure -> tree.Offends failure)
    {outcome : Except Failure Value} (decides : Decides tree.exactValue? refuses outcome) :
    tree.EndsExactly machine (Run.ofResult outcome machine) := by
  cases decides with
  | ok exact inside shown =>
      refine .ok ?_ exact shown
      rw [IsRegular, applications]
      exact List.forall_mem_append.mpr ⟨settled, List.forall_mem_singleton.mpr ⟨_, exact, inside⟩⟩
  | error refused => exact .error applications settled (offends _ refused)

/-- Evaluation is exact, from the operands up. -/
theorem IsArithmetic.endsExactly {tree : Expression} (arithmetic : tree.IsArithmetic)
    (machine : Machine) : tree.EndsExactly machine (MonkeyLang.evaluate call tree machine) := by
  induction arithmetic with
  | integer | boolean => exact .ok (List.forall_mem_nil _) rfl rfl
  | @unary token operator operand _ ih =>
      rw [MonkeyLang.evaluate]
      generalize ended : MonkeyLang.evaluate call operand machine = ending at ih
      cases ih with
      | ok regular exact shown =>
          rw [Run.bind_of_ok ended]
          refine .last rfl regular (fun _ => .unary exact) ?_
          rw [exactValue?, exact]
          exact operator.decides shown
      | @error front application behind _ split settled offends =>
          rw [Run.bind_of_error ended]
          have whole : (Expression.unary token operator operand).applications =
              front ++ application :: (behind ++ [.unary token operator operand]) := by
            rw [applications, split, List.append_assoc, List.cons_append]
          exact .error whole settled offends
  | @binary token left operator right _ _ first second =>
      rw [MonkeyLang.evaluate]
      generalize ended : MonkeyLang.evaluate call left machine = ending at first
      generalize ended' : MonkeyLang.evaluate call right machine = ending' at second
      cases first with
      | ok regular exact shown =>
          rw [Run.bind_of_ok ended]
          cases second with
          | ok regular' exact' shown' =>
              rw [Run.bind_of_ok ended']
              refine .last rfl (List.forall_mem_append.mpr ⟨regular, regular'⟩)
                (fun _ => .binary exact exact') ?_
              rw [exactValue?, exact, exact']
              exact operator.decides shown shown'
          | @error front application behind _ split settled offends =>
              rw [Run.bind_of_error ended']
              have whole : (Expression.binary token left operator right).applications =
                  (left.applications ++ front) ++
                    application :: (behind ++ [.binary token left operator right]) := by
                simp only [applications, split, List.append_assoc, List.cons_append]
              exact .error whole (List.forall_mem_append.mpr ⟨regular, settled⟩) offends
      | @error front application behind _ split settled offends =>
          rw [Run.bind_of_error ended]
          have whole : (Expression.binary token left operator right).applications =
              front ++ application ::
                (behind ++ (right.applications ++ [.binary token left operator right])) := by
            simp only [applications, split, List.append_assoc, List.cons_append]
          exact .error whole settled offends

end Expression

/-- An expression of integers, truth values and operators changes nothing.  It has its
exact value if all applications in it are defined and in range.  If not, it fails with the
one thing that is wrong with the first application with which anything is wrong. -/
theorem arithmetic_is_exact_or_refused {tree : Expression} (arithmetic : tree.IsArithmetic)
    (machine : Machine) :
    (tree.IsRegular -> ∃ exact value, tree.exactValue? = some exact ∧
      value.exactValue? = some exact ∧ tree.evaluate machine = .ok value machine) ∧
    (¬ tree.IsRegular -> ∃ front application behind failure,
      tree.applications = front ++ application :: behind ∧
      (∀ earlier ∈ front, ∀ other, ¬ earlier.Offends other) ∧
      (∀ other, application.Offends other ↔ other = failure) ∧
      tree.evaluate machine = .error (.failed failure) machine) := by
  have ends : tree.EndsExactly machine (MonkeyLang.evaluate Callable.nestedCall tree machine) :=
    arithmetic.endsExactly machine
  rw [Expression.evaluate]
  generalize MonkeyLang.evaluate Callable.nestedCall tree machine = ending at ends
  cases ends with
  | ok regular exact shown =>
      exact ⟨fun _ => ⟨_, _, exact, shown, rfl⟩, fun irregular => absurd regular irregular⟩
  | @error front application behind failure split settled offends =>
      constructor
      · intro regular
        have last : application.IsSettled :=
          regular application (split ▸ List.mem_append_right _ List.mem_cons_self)
        exact absurd offends (last.not_offends failure)
      · intro _
        refine ⟨front, application, behind, failure, split, ?_, fun other => ⟨?_, ?_⟩, rfl⟩
        · exact fun earlier member other => (settled earlier member).not_offends other
        · exact fun offends' => offends'.unique offends
        · rintro rfl
          exact offends

/-- The only quotient of two integers that is out of range. -/
def largestQuotient : Expression :=
  .binary .erased (.integer .erased Int64.minValue) .divide
    (.unary .erased .negate (.integer .erased 1))

/-- A sum with an operand that is out of range and one that has operands of two kinds. -/
def faultySum : Expression :=
  .binary .erased largestQuotient .plus
    (.binary .erased (.boolean .erased true) .times (.integer .erased 2))

theorem arithmetic_is_exact_or_refused_of_two_faults :
    faultySum.IsArithmetic ∧ ¬ faultySum.IsRegular ∧
      ∃ front application behind failure,
        faultySum.applications = front ++ application :: behind ∧
        (∀ earlier ∈ front, ∀ other, ¬ earlier.Offends other) ∧
        (∀ other, application.Offends other ↔ other = failure) ∧
        faultySum.evaluate (Machine.fresh none) =
          .error (.failed failure) (Machine.fresh none) := by
  have arithmetic : faultySum.IsArithmetic :=
    .binary (.binary .integer (.unary .integer)) (.binary .boolean .integer)
  have quotient : largestQuotient.exactValue? = some (.integer 9223372036854775808) := by decide
  have irregular : ¬ faultySum.IsRegular := by
    intro regular
    rcases regular largestQuotient (.tail _ (.head _)) with ⟨exact, found, inside⟩
    cases quotient.symm.trans found
    exact absurd inside.2 (by decide)
  exact ⟨arithmetic, irregular,
    (arithmetic_is_exact_or_refused arithmetic (Machine.fresh none)).2 irregular⟩

end MonkeyLang
