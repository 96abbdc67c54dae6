import MonkeyLang.Syntax.Tree

namespace MonkeyLang

/-!
# Equality of trees

Two trees are equal when they have the same shape and agree in every name,
number, operator and token, places included.  The comparison below decides it.
-/

mutual

/-- Whether two expressions are equal. -/
def Expression.same : Expression -> Expression -> Bool
  | .identifier first, .identifier second => first = second
  | .integer token value, .integer token' value' => token = token' && value = value'
  | .boolean token value, .boolean token' value' => token = token' && value = value'
  | .unary token operator operand, .unary token' operator' operand' =>
      token = token' && operator = operator' && operand.same operand'
  | .binary token left operator right, .binary token' left' operator' right' =>
      token = token' && operator = operator' && left.same left' && right.same right'
  | .conditional token condition consequence none,
      .conditional token' condition' consequence' none =>
      token = token' && condition.same condition' && consequence.same consequence'
  | .conditional token condition consequence (some alternative),
      .conditional token' condition' consequence' (some alternative') =>
      token = token' && condition.same condition' && consequence.same consequence' &&
        alternative.same alternative'
  | .function token parameters body, .function token' parameters' body' =>
      token = token' && parameters = parameters' && body.same body'
  | .call token callee arguments, .call token' callee' arguments' =>
      token = token' && callee.same callee' && sameExpressions arguments arguments'
  | _, _ => false
termination_by structural tree => tree

/-- Whether two lists of expressions are equal. -/
def sameExpressions : List Expression -> List Expression -> Bool
  | [], [] => true
  | first :: later, first' :: later' => first.same first' && sameExpressions later later'
  | _, _ => false
termination_by structural trees => trees

/-- Whether two statements are equal. -/
def Statement.same : Statement -> Statement -> Bool
  | .binding token name value, .binding token' name' value' =>
      token = token' && name = name' && value.same value'
  | .returning token none, .returning token' none => token = token'
  | .returning token (some value), .returning token' (some value') =>
      token = token' && value.same value'
  | .expression token value, .expression token' value' => token = token' && value.same value'
  | _, _ => false
termination_by structural tree => tree

/-- Whether two blocks are equal. -/
def Block.same : Block -> Block -> Bool
  | .mk token statements, .mk token' statements' =>
      token = token' && sameStatements statements statements'
termination_by structural tree => tree

/-- Whether two lists of statements are equal. -/
def sameStatements : List Statement -> List Statement -> Bool
  | [], [] => true
  | first :: later, first' :: later' => first.same first' && sameStatements later later'
  | _, _ => false
termination_by structural trees => trees

end

mutual

theorem Expression.same_iff : ∀ first second : Expression, first.same second = true ↔ first = second
  | .identifier _, second => by cases second <;> simp [Expression.same]
  | .integer _ _, second => by cases second <;> simp [Expression.same]
  | .boolean _ _, second => by cases second <;> simp [Expression.same]
  | .unary _ _ operand, second => by
      cases second <;> simp [Expression.same, operand.same_iff, and_assoc]
  | .binary _ left _ right, second => by
      cases second <;> simp [Expression.same, left.same_iff, right.same_iff]
      grind
  | .conditional _ condition consequence none, second => by
      cases second with
      | conditional _ _ _ alternative =>
          cases alternative <;>
            simp [Expression.same, condition.same_iff, consequence.same_iff, and_assoc]
      | _ => simp [Expression.same]
  | .conditional _ condition consequence (some alternative), second => by
      cases second with
      | conditional _ _ _ alternative' =>
          cases alternative' <;> simp [Expression.same, condition.same_iff,
            consequence.same_iff, alternative.same_iff, and_assoc]
      | _ => simp [Expression.same]
  | .function _ _ body, second => by
      cases second <;> simp [Expression.same, body.same_iff, and_assoc]
  | .call _ callee arguments, second => by
      cases second <;> simp [Expression.same, callee.same_iff, sameExpressions_iff arguments,
        and_assoc]

theorem sameExpressions_iff :
    ∀ first second : List Expression, sameExpressions first second = true ↔ first = second
  | [], second => by cases second <;> simp [sameExpressions]
  | head :: tail, second => by
      cases second <;> simp [sameExpressions, head.same_iff, sameExpressions_iff tail]

theorem Statement.same_iff : ∀ first second : Statement, first.same second = true ↔ first = second
  | .binding _ _ value, second => by
      cases second <;> simp [Statement.same, value.same_iff, and_assoc]
  | .returning _ none, second => by
      cases second with
      | returning _ value => cases value <;> simp [Statement.same]
      | _ => simp [Statement.same]
  | .returning _ (some value), second => by
      cases second with
      | returning _ value' => cases value' <;> simp [Statement.same, value.same_iff]
      | _ => simp [Statement.same]
  | .expression _ value, second => by
      cases second <;> simp [Statement.same, value.same_iff]

theorem Block.same_iff : ∀ first second : Block, first.same second = true ↔ first = second
  | .mk _ statements, .mk _ _ => by simp [Block.same, sameStatements_iff statements]

theorem sameStatements_iff :
    ∀ first second : List Statement, sameStatements first second = true ↔ first = second
  | [], second => by cases second <;> simp [sameStatements]
  | head :: tail, second => by
      cases second <;> simp [sameStatements, head.same_iff, sameStatements_iff tail]

end

instance : DecidableEq Expression := fun first second =>
  decidable_of_iff _ (first.same_iff second)

instance : DecidableEq Statement := fun first second =>
  decidable_of_iff _ (first.same_iff second)

instance : DecidableEq Block := fun first second =>
  decidable_of_iff _ (first.same_iff second)

instance : DecidableEq Program := fun first second =>
  decidable_of_iff (sameStatements first.statements second.statements = true) (by
    rw [sameStatements_iff]
    cases first
    cases second
    simp)

end MonkeyLang
