import MonkeyLang.Proofs.Evaluation.Simulation

namespace MonkeyLang

/-!
# What is seen of a run

Of a value its kind and its text are seen, and of a failure its kind and its text;
the error that a program ends with shows a whole message besides.  Nothing of this
shows the number of a frame or the identity of a function.  Values and failures
that correspond are therefore seen to be the same, as long as their names are.
-/

/-- The kinds of failure. -/
inductive FailureKind where
  | sinkFull | unknownIdentifier | typeMismatch | unknownUnary | unknownBinary | overflow
  | negationOverflow | divisionByZero | notCallable | wrongArity | callDepthExceeded
  deriving DecidableEq

/-- The kind of a failure. -/
def Failure.kind : Failure -> FailureKind
  | .sinkFull => .sinkFull
  | .unknownIdentifier _ => .unknownIdentifier
  | .typeMismatch _ _ _ => .typeMismatch
  | .unknownUnary _ _ => .unknownUnary
  | .unknownBinary _ _ _ => .unknownBinary
  | .overflow _ _ _ => .overflow
  | .negationOverflow _ => .negationOverflow
  | .divisionByZero _ => .divisionByZero
  | .notCallable _ => .notCallable
  | .wrongArity _ _ _ => .wrongArity
  | .callDepthExceeded => .callDepthExceeded

/-- What is seen of the report of a run: no value, the kind and the text of a
value, or the kind, the text and the whole message of an error. -/
inductive Observation where
  | nothing
  | value (type : ValueType) (text : String)
  | error (kind : FailureKind) (text message : String)
  deriving DecidableEq

/-- What is seen of the report of a run. -/
def observe : Except RuntimeError (Option Value) -> Observation
  | .ok none => .nothing
  | .ok (some value) => .value value.type value.text
  | .error error => .error error.failure.kind error.failure.text error.text

/-- What is seen of the outcome of a call: the kind and the text of a value or of a
failure. -/
def observeCall : Except Failure Value -> Except (FailureKind × String) (ValueType × String)
  | .ok value => .ok (value.type, value.text)
  | .error failure => .error (failure.kind, failure.text)

section

variable {between : Correspondence} {world : between.World} (names : between.names = Eq)
include names

namespace Matching

theorem Callables.text_eq {first second : Callable}
    (related : between.Callables world first second) : first.text = second.text := by
  cases related with
  | function literal =>
      have parameters := literal.parameters
      have body := literal.body
      rw [names] at parameters body
      rw [Callable.text_function, Callable.text_function, parameters.render_eq, body.render_eq]
  | builtin named => rfl

theorem Values.text_eq {first second : Value} (related : between.Values world first second) :
    first.text = second.text := by
  cases related with
  | closure _ callable => exact callable.text_eq names
  | _ => rfl

theorem Failures.kind_eq_and_text_eq {first second : Failure}
    (related : between.Failures world first second) :
    first.kind = second.kind ∧ first.text = second.text := by
  cases related with
  | unknownIdentifier name =>
      rw [names] at name
      cases name
      exact ⟨rfl, rfl⟩
  | wrongArity given expected callable =>
      rw [Failure.text_wrongArity, Failure.text_wrongArity, callable.text_eq names]
      exact ⟨rfl, rfl⟩
  | plain _ => exact ⟨rfl, rfl⟩

/-- What is seen of corresponding outcomes of a call is the same. -/
theorem Outcomes.observeCall_eq {outcome outcome' : Except Failure Value}
    (related : between.Outcomes world outcome outcome') :
    observeCall outcome = observeCall outcome' := by
  cases related with
  | ok value => rw [observeCall, observeCall, value.type_eq, value.text_eq names]
  | error failure =>
      rcases failure.kind_eq_and_text_eq names with ⟨kind, text⟩
      rw [observeCall, observeCall, kind, text]

end Matching

/-- What is seen of corresponding reports is the same. -/
theorem Correspondence.Reports.observe_eq {report report' : Except RuntimeError (Option Value)}
    (related : between.Reports world report report') : observe report = observe report' := by
  cases related with
  | ok answer =>
      cases answer with
      | none => rfl
      | some value => rw [observe, observe, value.type_eq, value.text_eq names]
  | error failure statement =>
      rcases failure.kind_eq_and_text_eq names with ⟨kind, text⟩
      rw [names] at statement
      have written := statement.render_eq
      simp only [observe, RuntimeError.text, kind, text, written]

end

end MonkeyLang
