import MonkeyLang.Grammar.Rule
import MonkeyLang.Syntax.Operator

namespace MonkeyLang

/-!
# The tables of expressions

One table says how an expression is read that starts with a token of some kind, and another
one how an expression goes on with such a token.  Neither of them knows of the operators that
kinds of token stand for, nor of the precedences.  These are tables of their own, and nothing
but the entries makes the four of them agree.
-/

/-- The ways in which an expression can start. -/
inductive StartRule where
  | identifier | integer | boolean | unary | grouped | conditional | function
  deriving DecidableEq

/-- The ways in which an expression can go on. -/
inductive ExtensionRule where
  | binary | call
  deriving DecidableEq

/-- The rules by which expressions start, by the kind of the first token. -/
def startRules : List (TokenType × StartRule) :=
  [(.identifier, .identifier), (.integer, .integer), (.trueWord, .boolean), (.falseWord, .boolean),
    (.bang, .unary), (.minus, .unary), (.leftParenthesis, .grouped), (.ifWord, .conditional),
    (.functionWord, .function)]

/-- The kinds of token that are registered as operators between operands. -/
def binaryTypes : List TokenType :=
  [.plus, .minus, .star, .slash, .equalEqual, .bangEqual, .less, .greater]

/-- The rules by which expressions go on, by the kind of the token behind them. -/
def extensionRules : List (TokenType × ExtensionRule) :=
  binaryTypes.map (·, .binary) ++ [(.leftParenthesis, .call)]

/-- The rule for an expression that starts with a kind of token, if there is one. -/
def StartRule.ofTokenType? (type : TokenType) : Option StartRule := startRules.lookup type

/-- The rule by which an expression goes on with a kind of token, if there is one. -/
def ExtensionRule.ofTokenType? (type : TokenType) : Option ExtensionRule :=
  extensionRules.lookup type

theorem StartRule.mem_startRules {type : TokenType} {rule : StartRule}
    (entry : ofTokenType? type = some rule) : (type, rule) ∈ startRules := by
  rcases List.lookup_eq_some_iff.mp entry with ⟨front, behind, shape, _⟩
  exact shape ▸ List.mem_append_right front List.mem_cons_self

/-! ## The tables agree -/

/-- The tokens that start an expression as operators are those that stand for one. -/
theorem StartRule.ofTokenType?_eq_unary_iff {type : TokenType} :
    ofTokenType? type = some .unary ↔
      ∃ operator, UnaryOperator.ofTokenType? type = some operator := by
  rw [← Option.isSome_iff_exists]
  cases type <;> decide

/-- The tokens with which an expression goes on as an operation are those that stand for an
operator. -/
theorem ExtensionRule.ofTokenType?_eq_binary_iff {type : TokenType} :
    ofTokenType? type = some .binary ↔
      ∃ operator, BinaryOperator.ofTokenType? type = some operator := by
  rw [← Option.isSome_iff_exists]
  cases type <;> decide

theorem ExtensionRule.ofTokenType?_eq_call_iff {type : TokenType} :
    ofTokenType? type = some .call ↔ type = .leftParenthesis := by
  cases type <;> decide

/-- The tokens that have a precedence behind an expression are those that have a rule there. -/
theorem ExtensionRule.isSome_ofTokenType? (type : TokenType) :
    (ofTokenType? type).isSome = Precedence.lowest.admits type := by
  cases type <;> rfl

/-- Whatever goes on with an expression has a rule for it. -/
theorem ExtensionRule.exists_of_admits {minimum : Precedence} {type : TokenType}
    (admitted : minimum.admits type = true) : ∃ rule, ofTokenType? type = some rule := by
  rw [← Option.isSome_iff_exists, isSome_ofTokenType?]
  exact decide_eq_true (Nat.zero_lt_of_lt (of_decide_eq_true admitted))

/-- A semicolon has the lowest precedence, so it would go on with no expression even if this
were not checked. -/
theorem Precedence.type_ne_semicolon {minimum : Precedence} {type : TokenType}
    (admitted : minimum.admits type = true) : type ≠ .semicolon := by
  rintro rfl
  cases minimum <;> cases admitted

end MonkeyLang
