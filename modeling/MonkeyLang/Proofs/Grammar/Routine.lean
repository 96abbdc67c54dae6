import MonkeyLang.Grammar.Reading

namespace MonkeyLang

/-!
# Reading token by token

A rule of the grammar has an outcome on a list of tokens, which says what the rule gives and how
many of the tokens it uses up.  Here the rules are told once more, as routines of a parser that
has no list.  It draws tokens from a scanner, of which there is always one more, and sees two of
them: the one it stands at and the next one.  It keeps a stack of the rules that it is inside
of, and writes down a line whenever it enters or leaves one.  A routine that gives nothing is
left at once, through all the rules up to the nearest statement.

Nothing keeps a routine from calling itself for ever.  It is performed only where it comes to an
end, and whether it does has to be shown.
-/

/-! ## Parsers -/

/-- What a parser writes down: a line of the log, or a diagnostic. -/
inductive Record where
  | line (text : String)
  | diagnostic (found : Diagnostic)

namespace Record

/-- The line of the log that a record is. -/
def line? : Record -> Option String
  | .line text => some text
  | .diagnostic _ => none

/-- The diagnostic that a record is. -/
def diagnostic? : Record -> Option Diagnostic
  | .line _ => none
  | .diagnostic found => some found

/-- The lines of the log among some records. -/
def lines (records : List Record) : List String := records.filterMap line?

/-- The diagnostics among some records. -/
def diagnostics (records : List Record) : List Diagnostic := records.filterMap diagnostic?

/-- What is written down inside of a rule, with the lines where it begins and ends. -/
def bracketed (context : List Rule) (rule : Rule) (inner : List Record) : List Record :=
  .line (Trace.logLine context.length "BEGIN" rule) ::
    (inner ++ [.line (Trace.logLine context.length "END" rule)])

theorem lines_bracketed (context : List Rule) (rule : Rule) (inner : List Record) :
    lines (bracketed context rule inner) =
      Trace.logLine context.length "BEGIN" rule ::
        (lines inner ++ [Trace.logLine context.length "END" rule]) :=
  congrArg (List.cons _) List.filterMap_append

theorem diagnostics_bracketed (context : List Rule) (rule : Rule) (inner : List Record) :
    diagnostics (bracketed context rule inner) = diagnostics inner :=
  List.filterMap_append.trans (List.append_nil _)

end Record

/-- A parser: the token it stands at, the next one, what is not drawn yet, the tokens it has
passed, the rules it is inside of, outermost first, and what it has written down. -/
structure Parser where
  current : Token
  next : Token
  scanner : Scanner
  passed : List Token := []
  rules : List Rule := []
  records : List Record := []

namespace Parser

/-- A parser that has drawn its first two tokens. -/
def ofScanner (scanner : Scanner) : Parser where
  current := scanner.draw.1
  next := scanner.draw.2.draw.1
  scanner := scanner.draw.2.draw.2

/-- Go on to the next token. -/
def advance (parser : Parser) : Parser :=
  { parser with
    current := parser.next
    next := parser.scanner.draw.1
    scanner := parser.scanner.draw.2
    passed := parser.passed ++ [parser.current] }

/-- Write something down. -/
def write (parser : Parser) (record : Record) : Parser :=
  { parser with records := parser.records ++ [record] }

/-- Write down a fault, with the rules around it. -/
def report (parser : Parser) (fault : Fault) (token : Token) : Parser :=
  parser.write (.diagnostic ⟨fault, token, parser.rules⟩)

/-- Enter a rule. -/
def enter (parser : Parser) (rule : Rule) : Parser :=
  { parser.write (.line (Trace.logLine parser.rules.length "BEGIN" rule)) with
    rules := parser.rules ++ [rule] }

/-- Leave the innermost rule, whichever it is. -/
def leave (parser : Parser) : Parser :=
  match parser.rules.getLast? with
  | none => parser
  | some rule =>
      { parser.write (.line (Trace.logLine (parser.rules.length - 1) "END" rule)) with
        rules := parser.rules.dropLast }

/-- The diagnostics that a parser has written down. -/
def diagnostics (parser : Parser) : List Diagnostic := Record.diagnostics parser.records

theorem diagnostics_line (parser : Parser) (text : String) :
    (parser.write (.line text)).diagnostics = parser.diagnostics := by
  rw [diagnostics, write, Record.diagnostics, List.filterMap_append]
  exact List.append_nil _

theorem diagnostics_report (parser : Parser) (fault : Fault) (token : Token) :
    (parser.report fault token).diagnostics =
      parser.diagnostics ++ [⟨fault, token, parser.rules⟩] :=
  List.filterMap_append

theorem diagnostics_enter (parser : Parser) (rule : Rule) :
    (parser.enter rule).diagnostics = parser.diagnostics :=
  parser.diagnostics_line _

theorem diagnostics_leave (parser : Parser) : parser.leave.diagnostics = parser.diagnostics := by
  unfold leave
  split
  · rfl
  · exact parser.diagnostics_line _

/-- What leaving does when the innermost rule is known. -/
theorem leave_eq {parser : Parser} {context : List Rule} {rule : Rule}
    (inside : parser.rules = context ++ [rule]) :
    parser.leave =
      { parser.write (.line (Trace.logLine context.length "END" rule)) with rules := context } := by
  rw [leave, inside, List.getLast?_concat, List.length_append, List.length_singleton,
    Nat.add_sub_cancel, List.dropLast_concat]

theorem records_leave {parser after : Parser} {rule : Rule} {inner : List Record}
    (inside : after.rules = parser.rules ++ [rule])
    (written : after.records = (parser.enter rule).records ++ inner) :
    after.leave.records = parser.records ++ Record.bracketed parser.rules rule inner := by
  rw [leave_eq inside, write, written, Record.bracketed]
  simp [enter, write]

end Parser

/-! ## Routines -/

/-- The routines that are called by others, or by themselves. -/
inductive Procedure : Type -> Type
  | programStatements : Procedure (List Statement)
  | statement : Procedure Statement
  | block : Procedure Block
  | blockStatements : Procedure (List Statement)
  | expression (minimum : Precedence) : Procedure Expression
  | continuation (minimum : Precedence) (left : Expression) : Procedure Expression
  | parameterList : Procedure (List Identifier)
  | argumentList : Procedure (List Expression)

/-- What a parser can be told to do.  It can look at its two tokens, go forward by one, give up
with a fault or without a word, do something inside of a rule, and go on whether something gave
a value or not. -/
inductive Routine : Type -> Type 1
  | give {α : Type} (value : α) : Routine α
  | andThen {α β : Type} (first : Routine α) (next : α -> Routine β) : Routine β
  | look {α : Type} (view : Token -> Token -> α) : Routine α
  | forward {α : Type} (value : α) : Routine α
  | report {α : Type} (fault : Fault) (token : Token) : Routine α
  | quit {α : Type} : Routine α
  | within {α : Type} (rule : Rule) (inner : Routine α) : Routine α
  | survive {α β : Type} (inner : Routine β) (settle : Option β -> α) : Routine α
  | call {α : Type} (procedure : Procedure α) : Routine α

instance : Monad Routine where
  pure := .give
  bind := .andThen

namespace Routine

/-- The token that the parser stands at. -/
def current : Routine Token := look fun current _ => current

/-- The token behind that. -/
def next : Routine Token := look fun _ next => next

/-- Go on to the next token. -/
def advance : Routine Unit := forward ()

/-- Try something that may give nothing. -/
def attempt {α : Type} (inner : Routine α) : Routine (Option α) := survive inner id

/-- Read a token of a kind that has to stand in front. -/
def expect (wanted : TokenType) : Routine Token := do
  let token ← next
  if token.type = wanted then
    advance
    current
  else report (.expected wanted token.type) token

/-- Read the semicolon that may end a statement. -/
def closeStatement (statement : Statement) : Routine Statement := do
  let token ← next
  if token.type = .semicolon then
    advance
    return statement
  else return statement

/-- The parameters behind one parameter. -/
def moreParameters : Routine (List Identifier) := do
  let token ← next
  if token.type = .comma then
    advance
    call .parameterList
  else
    let _ ← expect .rightParenthesis
    return []

/-- The names of parameters up to the closing parenthesis, at least one. -/
def parameterList : Routine (List Identifier) := do
  let token ← expect .identifier
  let later ← moreParameters
  return token.toIdentifier :: later

/-- The parameters of a function and the parenthesis that closes them. -/
def parameters : Routine (List Identifier) := do
  let token ← next
  if token.type = .rightParenthesis then
    advance
    return []
  else call .parameterList

/-- An expression that has to follow. -/
def operand (minimum : Precedence) : Routine Expression := do
  advance
  call (.expression minimum)

/-- A block that has to follow, with its opening brace. -/
def bracedBlock : Routine Block := do
  let _ ← expect .leftBrace
  call .block

/-- The branch behind `else`, where that word follows. -/
def otherwise : Routine (Option Block) := do
  let token ← next
  if token.type = .elseWord then
    advance
    let block ← bracedBlock
    return some block
  else return none

/-- An operator and the operand behind it. -/
def unaryExpression : Routine Expression :=
  within .unaryExpression do
    let token ← current
    match UnaryOperator.ofTokenType? token.type with
    | none => quit
    | some operator =>
        let value ← operand .unary
        return .unary token operator value

/-- An expression between parentheses, of which the first is read already. -/
def groupedExpression : Routine Expression :=
  within .groupedExpression do
    let value ← operand .lowest
    let _ ← expect .rightParenthesis
    return value

/-- A condition between parentheses and the branches behind it. -/
def ifExpression : Routine Expression :=
  within .ifExpression do
    let token ← current
    let _ ← expect .leftParenthesis
    let test ← operand .lowest
    let _ ← expect .rightParenthesis
    let consequence ← bracedBlock
    let alternative ← otherwise
    return .conditional token test consequence alternative

/-- The parameters and the body of a function. -/
def functionLiteral : Routine Expression :=
  within .functionLiteral do
    let token ← current
    let _ ← expect .leftParenthesis
    let names ← parameters
    let body ← bracedBlock
    return .function token names body

/-- The number that an integer token stands for, if it is in the range. -/
def integerLiteral : Routine Expression := do
  let token ← current
  match represent? (Text.ofDigits token.lexeme.toList) with
  | some value => return .integer token value
  | none => report (.invalidInteger token.lexeme) token

/-- The first part of an expression, by the rule that its token has. -/
def primary : Routine Expression := do
  let token ← current
  match StartRule.ofTokenType? token.type with
  | none => report (.noExpression token.type) token
  | some .identifier => return .identifier token.toIdentifier
  | some .integer => integerLiteral
  | some .boolean => return .boolean token (token.type = .trueWord)
  | some .unary => unaryExpression
  | some .grouped => groupedExpression
  | some .conditional => ifExpression
  | some .function => functionLiteral

/-- The arguments behind one argument. -/
def moreArguments : Routine (List Expression) := do
  let token ← next
  if token.type = .comma then
    advance
    call .argumentList
  else
    let _ ← expect .rightParenthesis
    return []

/-- The arguments up to the closing parenthesis, at least one. -/
def argumentList : Routine (List Expression) := do
  let value ← operand .lowest
  let later ← moreArguments
  return value :: later

/-- The arguments of a call and the parenthesis that closes them. -/
def arguments : Routine (List Expression) := do
  let token ← next
  if token.type = .rightParenthesis then
    advance
    return []
  else call .argumentList

/-- An operand, the operator behind it and the second operand. -/
def binaryExpression (left : Expression) : Routine Expression :=
  within .binaryExpression do
    let token ← current
    match BinaryOperator.ofTokenType? token.type with
    | none => quit
    | some operator =>
        let right ← operand (.ofTokenType token.type)
        return .binary token left operator right

/-- What is called and the arguments behind it. -/
def callExpression (callee : Expression) : Routine Expression :=
  within .callExpression do
    let token ← current
    let values ← arguments
    return .call token callee values

/-- An expression together with what a rule makes of the tokens behind it. -/
def extension (rule : ExtensionRule) (left : Expression) : Routine Expression :=
  match rule with
  | .binary => binaryExpression left
  | .call => callExpression left

/-- Extend an expression by the tokens that hold tighter than `minimum`. -/
def continuation (minimum : Precedence) (left : Expression) : Routine Expression := do
  let token ← next
  if token.type ≠ .semicolon ∧ minimum.admits token.type then
    match ExtensionRule.ofTokenType? token.type with
    | none => return left
    | some rule =>
        advance
        let whole ← extension rule left
        call (.continuation minimum whole)
  else return left

/-- An expression that starts with the token that the parser stands at. -/
def expression (minimum : Precedence) : Routine Expression :=
  within .expression do
    let left ← primary
    call (.continuation minimum left)

/-- The name and the value of a binding. -/
def letStatement : Routine Statement :=
  within .letStatement do
    let token ← current
    let name ← expect .identifier
    let _ ← expect .assign
    let value ← operand .lowest
    closeStatement (.binding token name.toIdentifier value)

/-- The value of a return, which a semicolon, a closing brace and the end of the source show to
be left out. -/
def returnStatement : Routine Statement :=
  within .returnStatement do
    let token ← current
    let following ← next
    if following.type = .semicolon then
      advance
      return .returning token none
    else if following.type = .rightBrace ∨ following.type = .ending then
      return .returning token none
    else
      let value ← operand .lowest
      closeStatement (.returning token (some value))

/-- An expression that stands as a statement. -/
def expressionStatement : Routine Statement :=
  within .expressionStatement do
    let token ← current
    let value ← call (.expression .lowest)
    closeStatement (.expression token value)

/-- A statement that starts with the token that the parser stands at. -/
def statement : Routine Statement :=
  within .statement do
    let token ← current
    match token.type with
    | .letWord => letStatement
    | .returnWord => returnStatement
    | _ => expressionStatement

/-- Statements up to a token of one of some kinds.  One that fails is left out. -/
def statementsUpTo (kinds : List TokenType) (others : Procedure (List Statement)) :
    Routine (List Statement) := do
  let token ← current
  if token.type ∈ kinds then return []
  else
    let first ← attempt (call .statement)
    advance
    let later ← call others
    return first.toList ++ later

/-- The statements of a block whose opening brace the parser stands at. -/
def block : Routine Block :=
  within .block do
    let token ← current
    advance
    let statements ← call .blockStatements
    return .mk token statements

/-- The statements up to the end of the source. -/
def program : Routine Program :=
  within .program do
    let statements ← call .programStatements
    return ⟨statements⟩

end Routine

/-- What is done when a procedure is called. -/
def Procedure.body {α : Type} : Procedure α -> Routine α
  | .programStatements => .statementsUpTo [.ending] .programStatements
  | .statement => .statement
  | .block => .block
  | .blockStatements => .statementsUpTo [.rightBrace, .ending] .blockStatements
  | .expression minimum => .expression minimum
  | .continuation minimum left => .continuation minimum left
  | .parameterList => .parameterList
  | .argumentList => .argumentList

/-! ## Performing a routine -/

/-- A parser performs a routine, comes to its end and is then another parser.  The routine may
have given nothing. -/
inductive Performs : ∀ {α : Type}, Routine α -> Parser -> Option α -> Parser -> Prop
  | give {α : Type} {parser : Parser} (value : α) :
      Performs (.give value) parser (some value) parser
  | andThen {α β : Type} {first : Routine α} {next : α -> Routine β} {parser between after : Parser}
      {value : α} {result : Option β} :
      Performs first parser (some value) between -> Performs (next value) between result after ->
      Performs (.andThen first next) parser result after
  | stopped {α β : Type} {first : Routine α} {next : α -> Routine β} {parser after : Parser} :
      Performs first parser none after -> Performs (.andThen first next) parser none after
  | look {α : Type} {parser : Parser} (view : Token -> Token -> α) :
      Performs (.look view) parser (some (view parser.current parser.next)) parser
  | forward {α : Type} {parser : Parser} (value : α) :
      Performs (.forward value) parser (some value) parser.advance
  | report {α : Type} {parser : Parser} (fault : Fault) (token : Token) :
      Performs (.report fault token : Routine α) parser none (parser.report fault token)
  | quit {α : Type} {parser : Parser} : Performs (.quit : Routine α) parser none parser
  | within {α : Type} {rule : Rule} {inner : Routine α} {parser after : Parser}
      {result : Option α} :
      Performs inner (parser.enter rule) result after ->
      Performs (.within rule inner) parser result after.leave
  | survive {α β : Type} {inner : Routine β} {settle : Option β -> α} {parser after : Parser}
      {result : Option β} :
      Performs inner parser result after ->
      Performs (.survive inner settle) parser (some (settle result)) after
  | call {α : Type} {procedure : Procedure α} {parser after : Parser} {result : Option α} :
      Performs procedure.body parser result after ->
      Performs (.call procedure) parser result after

/-- A parser performs a routine, and can come to no other end. -/
def PerformsOnly {α : Type} (routine : Routine α) (parser : Parser) (result : Option α)
    (after : Parser) : Prop :=
  ∀ result' after', Performs routine parser result' after' ↔ result' = result ∧ after' = after

namespace Performs

variable {α : Type} {routine : Routine α} {parser after : Parser} {result : Option α}

/-- A parser can perform a routine in one way only. -/
theorem unique (performs : Performs routine parser result after) {result' : Option α}
    {after' : Parser} (other : Performs routine parser result' after') :
    result = result' ∧ after = after' := by
  induction performs generalizing after' with
  | give _ | look _ | forward _ | report _ _ | quit =>
      cases other
      exact ⟨rfl, rfl⟩
  | andThen _ _ ih later =>
      cases other with
      | andThen first behind =>
          rcases ih first with ⟨same, rfl⟩
          cases same
          exact later behind
      | stopped first => cases (ih first).1
  | stopped _ ih =>
      cases other with
      | andThen first _ => cases (ih first).1
      | stopped first => exact ⟨rfl, (ih first).2⟩
  | within _ ih =>
      cases other with
      | within inner =>
          rcases ih inner with ⟨same, rfl⟩
          exact ⟨same, rfl⟩
  | survive _ ih =>
      cases other with
      | survive inner =>
          rcases ih inner with ⟨rfl, same⟩
          exact ⟨rfl, same⟩
  | call _ ih =>
      cases other with
      | call body => exact ih body

theorem only (performs : Performs routine parser result after) :
    PerformsOnly routine parser result after := by
  intro result' after'
  constructor
  · intro other
    rcases performs.unique other with ⟨rfl, rfl⟩
    exact ⟨rfl, rfl⟩
  · rintro ⟨rfl, rfl⟩
    exact performs

/-- Whatever it does, a parser leaves all rules that it enters, and no others. -/
theorem rules_eq (performs : Performs routine parser result after) :
    after.rules = parser.rules := by
  induction performs with
  | give _ | look _ | forward _ | report _ _ | quit => rfl
  | andThen _ _ ih later => exact later.trans ih
  | stopped _ ih | survive _ ih | call _ ih => exact ih
  | within _ ih => rw [Parser.leave_eq ih]

end Performs

end MonkeyLang
