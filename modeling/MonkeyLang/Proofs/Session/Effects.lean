import MonkeyLang.Session.Course

namespace MonkeyLang

/-!
# What the steps of a session do

Of the many kinds of steps that a session can be asked to take, only some change
anything: they run a program, make or copy an interpreter, bind a name, or call a
function.  All others answer with what is there.  This is read off the definition once,
and whatever is kept by each of these few changes is kept by a session.
-/

namespace Answer

variable {printed : String} {value : Value}

theorem ok_of_evaluated {outcome : Except RuntimeError (Option Value)}
    (kept : (evaluated outcome printed).value? = some value) : outcome = .ok (some value) := by
  cases outcome with
  | ok result => exact congrArg Except.ok kept
  | error _ => cases kept

theorem ok_of_called {outcome : Except Failure Value}
    (kept : (called outcome printed).value? = some value) : outcome = .ok value := by
  cases outcome with
  | ok result => exact congrArg Except.ok (Option.some.inj kept)
  | error _ => cases kept

end Answer

/-- What a sequence of two steps that ends well has done. -/
theorem exists_of_bind_eq_ok {ε α β : Type} {first : Except ε α} {next : α -> Except ε β}
    {result : β} (ended : (first >>= next) = .ok result) :
    ∃ value, first = .ok value ∧ next value = .ok result := by
  cases first with
  | error failure => cases ended
  | ok value => exact ⟨value, rfl, ended⟩

namespace Session

/-! ## What a step does -/

/-- What a step that makes sense does to a session, before its value is kept. -/
inductive Does (session : Session) : Answer -> Session -> Prop
  | stays {answered} :
      (∀ value, answered.value? = some value -> ∃ of, session.resolve of = .ok value) ->
      session.Does answered session
  | runs {source program index interpreter} : parse source = .ok program ->
      session.interpreter index = .ok interpreter ->
      session.Does (session.evaluate index interpreter program).1
        (session.evaluate index interpreter program).2
  | makes :
      session.Does (.interpreter session.interpreters.length)
        { session with
          store := (Interpreter.new session.store).2
          interpreters := session.interpreters ++ [(Interpreter.new session.store).1] }
  | copies {index interpreter} : session.interpreter index = .ok interpreter ->
      session.Does (.interpreter session.interpreters.length)
        { session with interpreters := session.interpreters ++ [interpreter] }
  | binds {of target value bound callee frame} (name : String) :
      session.resolve of = .ok target -> session.resolve value = .ok bound ->
      callable target = .ok callee -> scope callee = .ok frame ->
      session.Does (.declared name)
        { session with
          store := { session.store with
            frames := session.store.frames.declare frame name bound } }
  | calls {index interpreter of target values callee} {arguments : List Reference} :
      session.interpreter index = .ok interpreter -> session.resolve of = .ok target ->
      arguments.mapM session.resolve = .ok values -> callable target = .ok callee ->
      session.Does
        (.called (callee.callOn values (interpreter.machine session.store)).1
          (callee.callOn values (interpreter.machine session.store)).2.sink.text)
        (session.resume index (callee.callOn values (interpreter.machine session.store)).2).1

variable {session later : Session} {answered : Answer}

theorem does_of_answer {step : Step} (ended : session.answer step = .ok (answered, later)) :
    session.Does answered later := by
  cases step with
  | evaluate index source =>
      rw [Session.answer] at ended
      split at ended
      · cases ended
        exact .stays fun _ absurd => nomatch absurd
      · next accepted =>
          rcases exists_of_bind_eq_ok ended with ⟨interpreter, found, ended⟩
          cases ended
          exact .runs accepted found
  | new =>
      cases ended
      exact .makes
  | clone index =>
      rcases exists_of_bind_eq_ok ended with ⟨interpreter, found, ended⟩
      cases ended
      exact .copies found
  | value of =>
      rcases exists_of_bind_eq_ok ended with ⟨value, resolved, ended⟩
      cases ended
      refine .stays fun other kept => ⟨of, ?_⟩
      cases kept
      exact resolved
  | equal left right =>
      rcases exists_of_bind_eq_ok ended with ⟨_, _, ended⟩
      rcases exists_of_bind_eq_ok ended with ⟨_, _, ended⟩
      cases ended
      exact .stays fun _ absurd => nomatch absurd
  | inspect of =>
      rcases exists_of_bind_eq_ok ended with ⟨_, _, ended⟩
      rcases exists_of_bind_eq_ok ended with ⟨_, _, ended⟩
      cases ended
      exact .stays fun _ absurd => nomatch absurd
  | lookup of names =>
      rcases exists_of_bind_eq_ok ended with ⟨_, _, ended⟩
      rcases exists_of_bind_eq_ok ended with ⟨_, _, ended⟩
      rcases exists_of_bind_eq_ok ended with ⟨_, _, ended⟩
      cases ended
      exact .stays fun _ absurd => nomatch absurd
  | declare of name value =>
      rcases exists_of_bind_eq_ok ended with ⟨target, resolved, ended⟩
      rcases exists_of_bind_eq_ok ended with ⟨bound, resolved', ended⟩
      rcases exists_of_bind_eq_ok ended with ⟨callee, called, ended⟩
      rcases exists_of_bind_eq_ok ended with ⟨frame, enclosed, ended⟩
      cases ended
      exact .binds name resolved resolved' called enclosed
  | call index of arguments =>
      rcases exists_of_bind_eq_ok ended with ⟨interpreter, found, ended⟩
      rcases exists_of_bind_eq_ok ended with ⟨target, resolved, ended⟩
      rcases exists_of_bind_eq_ok ended with ⟨values, resolvedAll, ended⟩
      rcases exists_of_bind_eq_ok ended with ⟨callee, called, ended⟩
      cases ended
      exact .calls found resolved resolvedAll called
  | describe index =>
      rcases exists_of_bind_eq_ok ended with ⟨_, _, ended⟩
      cases ended
      exact .stays fun _ absurd => nomatch absurd
  | describeValue of =>
      rcases exists_of_bind_eq_ok ended with ⟨_, _, ended⟩
      cases ended
      exact .stays fun _ absurd => nomatch absurd

/-- Behind a step the session is as what was done has left it, and the value of the step
is kept. -/
theorem exists_does (session : Session) (step : Step) : ∃ answered later,
    (session.take step).2 = { later with values := later.values ++ [answered.value?] } ∧
      session.Does answered later := by
  cases ended : session.answer step with
  | ok pair =>
      rcases pair with ⟨answered, later⟩
      exact ⟨answered, later, by rw [Session.take, ended], does_of_answer ended⟩
  | error complaint =>
      exact ⟨.refused complaint, session, by rw [Session.take, ended],
        .stays fun _ absurd => nomatch absurd⟩

/-- What a step does leaves the values of earlier steps alone. -/
theorem Does.values_eq (does : session.Does answered later) : later.values = session.values := by
  cases does <;> rfl

/-! ## What a step refers to -/

/-- A function that a step refers to is the value of an earlier step. -/
theorem mem_values_of_resolve {of : Reference} {callee : Closure}
    (resolved : session.resolve of = .ok (.closure callee)) :
    some (.closure callee) ∈ session.values := by
  cases of with
  | step index =>
      rw [Session.resolve] at resolved
      split at resolved
      · next found =>
          cases resolved
          exact List.mem_of_getElem? found
      · cases resolved
  | integer text =>
      rw [Session.resolve] at resolved
      split at resolved <;> cases resolved
  | boolean _ | null => cases resolved

/-- Each of the values that a step refers to is referred to by itself. -/
theorem exists_of_resolveAll {arguments : List Reference} {values : List Value}
    (resolved : arguments.mapM session.resolve = .ok values) :
    ∀ value ∈ values, ∃ of, session.resolve of = .ok value := by
  induction arguments generalizing values with
  | nil =>
      cases resolved
      exact List.forall_mem_nil _
  | cons reference others ih =>
      rw [List.mapM_cons] at resolved
      rcases exists_of_bind_eq_ok resolved with ⟨value, first, resolved⟩
      rcases exists_of_bind_eq_ok resolved with ⟨rest, second, resolved⟩
      cases resolved
      exact List.forall_mem_cons.mpr ⟨⟨reference, first⟩, ih second⟩

theorem eq_closure_of_callable {value : Value} {callee : Callable}
    (called : callable value = .ok callee) :
    ∃ identity, value = .closure ⟨identity, callee⟩ := by
  cases value with
  | closure closed =>
      cases called
      exact ⟨closed.identity, rfl⟩
  | _ => cases called

/-! ## Series of steps -/

/-- The session behind a series of steps. -/
def behind (session : Session) (steps : List Step) : Session :=
  steps.foldl (fun session step => (session.take step).2) session

/-- What holds of a session and is kept by every step holds behind any number of them. -/
theorem behind_induction {holds : Session -> Prop}
    (each : ∀ session, holds session -> ∀ step, holds (session.take step).2)
    (first : holds session) (steps : List Step) : holds (session.behind steps) := by
  induction steps generalizing session with
  | nil => exact first
  | cons step later ih => exact ih (each session first step)

end Session

end MonkeyLang
