import MonkeyLang.Grammar.Diagnostic
import MonkeyLang.Syntax.Tree

namespace MonkeyLang

/-!
# Outcomes of reading

A rule of the grammar reads a list of tokens from its front.  Its outcome says
what it gave, if anything, how many tokens it used up, and what its trace is.
The rule behind it goes on with the tokens that are left; so an outcome counts
tokens instead of returning a list, and the tokens left are always the given
list with some dropped, whatever the outcome says.
-/

/-- What a rule gave, the number of tokens it used up, and its trace. -/
structure Outcome (α : Type) where
  result : Option α
  used : Nat
  trace : List Trace

namespace Outcome

variable {α β : Type}

/-- A value that needs no token. -/
def done (value : α) : Outcome α := ⟨some value, 0, []⟩

/-- A fault that is shown by a token and uses up none. -/
def fail (fault : Fault) (token : Token) : Outcome α := ⟨none, 0, [.fault fault token]⟩

/-- No value, no token used up, and nothing that says why. -/
def nothing : Outcome α := ⟨none, 0, []⟩

/-- Go on with the value of an outcome.  Without a value nothing more is read. -/
def andThen (first : Outcome α) (next : α -> Outcome β) : Outcome β :=
  match first.result with
  | none => ⟨none, first.used, first.trace⟩
  | some value =>
      let second := next value
      ⟨second.result, first.used + second.used, first.trace ++ second.trace⟩

/-- Change the value of an outcome. -/
def map (change : α -> β) (outcome : Outcome α) : Outcome β :=
  ⟨outcome.result.map change, outcome.used, outcome.trace⟩

/-- Count one token in front of those that an outcome used up. -/
def afterToken (outcome : Outcome α) : Outcome α :=
  { outcome with used := outcome.used + 1 }

/-- An outcome as that of a named rule. -/
def within (rule : Rule) (outcome : Outcome α) : Outcome α :=
  { outcome with trace := [.rule rule outcome.result.isSome outcome.trace] }

end Outcome

/-- Read a token of a kind that has to stand in front.  Another token stays
where it is. -/
def expect (ending : Token) (wanted : TokenType) (tokens : List Token) : Outcome Token :=
  match tokens with
  | [] => .fail (.expected wanted ending.type) ending
  | token :: _ =>
      if token.type = wanted then (Outcome.done token).afterToken
      else .fail (.expected wanted token.type) token

/-- Read a token of a kind that may be left out. -/
def skipOptional (type : TokenType) (tokens : List Token) : Outcome Unit :=
  match tokens with
  | [] => .done ()
  | token :: _ => if token.type = type then (Outcome.done ()).afterToken else .done ()

/-- The outcome of reading statements one after another.  A statement that
failed is left out of the list, and its faults stay in the trace. -/
structure Series where
  statements : List Statement
  used : Nat
  trace : List Trace

namespace Series

/-- No statements, and no token used up. -/
def empty : Series := ⟨[], 0, []⟩

/-- The outcome of a statement, the token it starts with counted too, and the
statements behind it. -/
def prepend (first : Outcome Statement) (later : Series) : Series :=
  ⟨first.result.toList ++ later.statements, 1 + first.used + later.used,
    first.trace ++ later.trace⟩

/-- The outcome of a rule that is made of statements and cannot fail. -/
def outcome {α : Type} (build : List Statement -> α) (series : Series) : Outcome α :=
  ⟨some (build series.statements), series.used, series.trace⟩

end Series

end MonkeyLang
