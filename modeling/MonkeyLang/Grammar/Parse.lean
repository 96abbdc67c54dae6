import MonkeyLang.Grammar.Outcome
import MonkeyLang.Grammar.Table
import MonkeyLang.Integer

namespace MonkeyLang

open Text

/-!
# Reading programs

Every rule looks at the token it starts with and at those behind it, and there
is no going back.  An expression is read as a first part and then extended as
long as the token behind it holds tighter than the expression is asked to; so
operators of one precedence group to the left.  A statement that fails leaves
its faults in the trace, and reading goes on behind the tokens it used up.

A token starts an expression, or goes on with one, by the rule that it has in a table.
The rule then looks the operator up in another table.  Where this has none the rule
gives nothing and says nothing; that it never comes to this has to be shown.

The argument `ending` is the end token, which stands behind the last token of
the list for ever.  Each rule below another one either uses fewer tokens or
stands lower in a fixed order of the rules, and this is why reading ends.
-/

/-- Read the semicolon that may end a statement. -/
def closeStatement (statement : Statement) (tokens : List Token) : Outcome Statement :=
  (skipOptional .semicolon tokens).map fun _ => statement

/-- The name that an identifier token stands for. -/
def Token.toIdentifier (token : Token) : Identifier := ⟨token, token.lexeme⟩

/-- The number that an integer token stands for, if it is in the range. -/
def integerLiteral (token : Token) : Outcome Expression :=
  match represent? (ofDigits token.lexeme.toList) with
  | some value => .done (.integer token value)
  | none => .fail (.invalidInteger token.lexeme) token

section Rules

variable (ending : Token)

mutual

/-- The names of parameters up to the closing parenthesis, at least one. -/
def parameterList (tokens : List Token) : Outcome (List Identifier) :=
  let name := expect ending .identifier tokens
  name.andThen fun token =>
    (moreParameters (tokens.drop name.used)).map (token.toIdentifier :: ·)
termination_by 2 * tokens.length + 1

/-- The parameters behind one parameter. -/
def moreParameters (tokens : List Token) : Outcome (List Identifier) :=
  match tokens with
  | [] => (expect ending .rightParenthesis []).map fun _ => []
  | token :: rest =>
      if token.type = .comma then (parameterList rest).afterToken
      else (expect ending .rightParenthesis (token :: rest)).map fun _ => []
termination_by 2 * tokens.length

end

/-- The parameters of a function and the parenthesis that closes them. -/
def parameters (tokens : List Token) : Outcome (List Identifier) :=
  match tokens with
  | [] => parameterList ending []
  | token :: rest =>
      if token.type = .rightParenthesis then (Outcome.done []).afterToken
      else parameterList ending (token :: rest)

mutual

/-- An expression that starts with a token and goes on as long as the tokens
behind it hold tighter than `minimum`. -/
def expression (minimum : Precedence) (token : Token) (rest : List Token) :
    Outcome Expression :=
  let start := primary token rest
  (start.andThen fun left =>
    continuation minimum left (rest.drop start.used)).within .expression
termination_by 8 * rest.length + 5

/-- The first part of an expression, by the rule that its token has. -/
def primary (token : Token) (rest : List Token) : Outcome Expression :=
  match StartRule.ofTokenType? token.type with
  | none => .fail (.noExpression token.type) token
  | some .identifier => .done (.identifier token.toIdentifier)
  | some .integer => integerLiteral token
  | some .boolean => .done (.boolean token (token.type = .trueWord))
  | some .unary => unaryExpression token rest
  | some .grouped => groupedExpression rest
  | some .conditional => ifExpression token rest
  | some .function => functionLiteral token rest
termination_by 8 * rest.length + 4

/-- An expression that has to follow. -/
def operand (minimum : Precedence) (tokens : List Token) : Outcome Expression :=
  match tokens with
  | [] => (Outcome.fail (.noExpression ending.type) ending).within .expression
  | token :: rest => (expression minimum token rest).afterToken
termination_by 8 * tokens.length

/-- An operator and the operand behind it. -/
def unaryExpression (token : Token) (rest : List Token) : Outcome Expression :=
  Outcome.within .unaryExpression (match UnaryOperator.ofTokenType? token.type with
  | none => .nothing
  | some operator => (operand .unary rest).map (.unary token operator))
termination_by 8 * rest.length + 3

/-- An expression between parentheses, of which the first is read already. -/
def groupedExpression (rest : List Token) : Outcome Expression :=
  let inner := operand .lowest rest
  (inner.andThen fun value =>
    (expect ending .rightParenthesis (rest.drop inner.used)).map fun _ => value).within
      .groupedExpression
termination_by 8 * rest.length + 3

/-- A condition between parentheses and the branches behind it. -/
def ifExpression (token : Token) (rest : List Token) : Outcome Expression :=
  let opening := expect ending .leftParenthesis rest
  (opening.andThen fun _ =>
    let inside := rest.drop opening.used
    let condition := operand .lowest inside
    condition.andThen fun test =>
      let behind := inside.drop condition.used
      let closing := expect ending .rightParenthesis behind
      closing.andThen fun _ =>
        let branches := behind.drop closing.used
        let consequence := bracedBlock branches
        consequence.andThen fun block =>
          (otherwise (branches.drop consequence.used)).map
            (.conditional token test block)).within .ifExpression
termination_by 8 * rest.length + 3

/-- The branch behind `else`, where that word follows. -/
def otherwise (tokens : List Token) : Outcome (Option Block) :=
  match tokens with
  | [] => .done none
  | token :: rest =>
      if token.type = .elseWord then ((bracedBlock rest).map some).afterToken
      else .done none
termination_by 8 * tokens.length

/-- The parameters and the body of a function. -/
def functionLiteral (token : Token) (rest : List Token) : Outcome Expression :=
  let opening := expect ending .leftParenthesis rest
  (opening.andThen fun _ =>
    let inside := rest.drop opening.used
    let names := parameters ending inside
    names.andThen fun identifiers =>
      (bracedBlock (inside.drop names.used)).map
        (.function token identifiers)).within .functionLiteral
termination_by 8 * rest.length + 3

/-- A block that has to follow, with its opening brace. -/
def bracedBlock (tokens : List Token) : Outcome Block :=
  let opening := expect ending .leftBrace tokens
  opening.andThen fun token => block token (tokens.drop opening.used)
termination_by 8 * tokens.length + 2

/-- The statements of a block whose opening brace is read already. -/
def block (token : Token) (rest : List Token) : Outcome Block :=
  ((blockStatements rest).outcome (Block.mk token)).within .block
termination_by 8 * rest.length + 1

/-- Statements up to the closing brace, which the end of the source replaces. -/
def blockStatements (tokens : List Token) : Series :=
  match tokens with
  | [] => .empty
  | token :: rest =>
      if token.type = .rightBrace then { Series.empty with used := 1 }
      else
        let first := statement token rest
        .prepend first (blockStatements (rest.drop first.used))
termination_by 8 * tokens.length

/-- Extend an expression by the tokens that hold tighter than `minimum`. -/
def continuation (minimum : Precedence) (left : Expression) (tokens : List Token) :
    Outcome Expression :=
  match tokens with
  | [] => .done left
  | token :: rest =>
      if token.type ≠ .semicolon ∧ minimum.admits token.type then
        match ExtensionRule.ofTokenType? token.type with
        | none => .done left
        | some rule =>
            let longer := extension rule left token rest
            (longer.andThen fun whole =>
              continuation minimum whole (rest.drop longer.used)).afterToken
      else .done left
termination_by 8 * tokens.length

/-- An expression together with what a rule makes of the tokens behind it. -/
def extension (rule : ExtensionRule) (left : Expression) (token : Token) (rest : List Token) :
    Outcome Expression :=
  match rule with
  | .binary => binaryExpression left token rest
  | .call => callExpression left token rest
termination_by 8 * rest.length + 4

/-- An operand, the operator behind it and the second operand. -/
def binaryExpression (left : Expression) (token : Token) (rest : List Token) :
    Outcome Expression :=
  Outcome.within .binaryExpression (match BinaryOperator.ofTokenType? token.type with
  | none => .nothing
  | some operator =>
      (operand (.ofTokenType token.type) rest).map (.binary token left operator))
termination_by 8 * rest.length + 3

/-- What is called and the arguments behind it. -/
def callExpression (callee : Expression) (token : Token) (rest : List Token) :
    Outcome Expression :=
  ((arguments rest).map (.call token callee)).within .callExpression
termination_by 8 * rest.length + 3

/-- The arguments of a call and the parenthesis that closes them. -/
def arguments (tokens : List Token) : Outcome (List Expression) :=
  match tokens with
  | [] => argumentList []
  | token :: rest =>
      if token.type = .rightParenthesis then (Outcome.done []).afterToken
      else argumentList (token :: rest)
termination_by 8 * tokens.length + 2

/-- The arguments up to the closing parenthesis, at least one. -/
def argumentList (tokens : List Token) : Outcome (List Expression) :=
  let first := operand .lowest tokens
  first.andThen fun value => (moreArguments (tokens.drop first.used)).map (value :: ·)
termination_by 8 * tokens.length + 1

/-- The arguments behind one argument. -/
def moreArguments (tokens : List Token) : Outcome (List Expression) :=
  match tokens with
  | [] => (expect ending .rightParenthesis []).map fun _ => []
  | token :: rest =>
      if token.type = .comma then (argumentList rest).afterToken
      else (expect ending .rightParenthesis (token :: rest)).map fun _ => []
termination_by 8 * tokens.length

/-- A statement that starts with a token. -/
def statement (token : Token) (rest : List Token) : Outcome Statement :=
  Outcome.within .statement (match token.type with
  | .letWord => letStatement token rest
  | .returnWord => returnStatement token rest
  | _ => expressionStatement token rest)
termination_by 8 * rest.length + 7

/-- The name and the value of a binding. -/
def letStatement (token : Token) (rest : List Token) : Outcome Statement :=
  let name := expect ending .identifier rest
  (name.andThen fun identifier =>
    let behind := rest.drop name.used
    let sign := expect ending .assign behind
    sign.andThen fun _ =>
      let inside := behind.drop sign.used
      let value := operand .lowest inside
      value.andThen fun expression =>
        closeStatement (.binding token identifier.toIdentifier expression)
          (inside.drop value.used)).within .letStatement
termination_by 8 * rest.length + 6

/-- The value of a return, which a semicolon, a closing brace and the end of the
source show to be left out. -/
def returnStatement (token : Token) (rest : List Token) : Outcome Statement :=
  Outcome.within .returnStatement (match rest with
  | [] => .done (.returning token none)
  | next :: behind =>
      if next.type = .semicolon then (Outcome.done (.returning token none)).afterToken
      else if next.type = .rightBrace then .done (.returning token none)
      else
        let value := operand .lowest (next :: behind)
        value.andThen fun expression =>
          closeStatement (.returning token (some expression))
            ((next :: behind).drop value.used))
termination_by 8 * rest.length + 6

/-- An expression that stands as a statement. -/
def expressionStatement (token : Token) (rest : List Token) : Outcome Statement :=
  let value := expression .lowest token rest
  (value.andThen fun expression =>
    closeStatement (.expression token expression) (rest.drop value.used)).within
      .expressionStatement
termination_by 8 * rest.length + 6

end

/-- The statements up to the end of the source. -/
def programStatements (tokens : List Token) : Series :=
  match tokens with
  | [] => .empty
  | token :: rest =>
      let first := statement ending token rest
      .prepend first (programStatements (rest.drop first.used))
termination_by tokens.length

end Rules

end MonkeyLang
