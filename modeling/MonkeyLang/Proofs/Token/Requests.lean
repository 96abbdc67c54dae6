import MonkeyLang.Proofs.Token.Places
import MonkeyLang.Token.Stream

namespace MonkeyLang

/-!
# Tokens on request

A stream is asked for tokens in two ways, and both take from one scanner.  So the tokens that
it answers do not depend on who asked for which of them: they are those of the source, and
then the end token for ever.  What the two ways do not share is the end.  Only the sequence
remembers that it gave an end token, and only then it answers nothing.  Such an answer leaves
the stream as it is, and so the request for it might as well not have been made.
-/

namespace TokenStream

variable {stream : TokenStream} {request : Request} {requests : List Request}

/-! ## One request -/

/-- What a request does to a stream: it is answered by nothing and leaves the stream alone, if
it asks a sequence that has ended, and otherwise it draws a token, which may end a sequence. -/
theorem answer_cases (stream : TokenStream) (request : Request) :
    (request = .next ∧ stream.finished = true ∧ stream.answer request = (none, stream)) ∨
    (request = .next ∧ stream.finished = false ∧
      stream.answer request = (some stream.scanner.draw.1,
        ⟨stream.scanner.draw.2, decide (stream.scanner.draw.1.type = .ending)⟩)) ∨
    (request = .draw ∧
      stream.answer request = (some stream.scanner.draw.1,
        ⟨stream.scanner.draw.2, stream.finished⟩)) := by
  cases request with
  | draw => exact .inr (.inr ⟨rfl, rfl⟩)
  | next =>
      cases finished : stream.finished with
      | true => exact .inl ⟨rfl, rfl, by simp [answer, next, finished]⟩
      | false => exact .inr (.inl ⟨rfl, rfl, by simp [answer, next, draw, finished]⟩)

/-- A request that is answered by nothing asks a sequence that has ended. -/
theorem answer_eq_none_iff :
    (stream.answer request).1 = none ↔ request = .next ∧ stream.finished = true := by
  rcases answer_cases stream request with
    ⟨asked, finished, same⟩ | ⟨_, finished, same⟩ | ⟨asked, same⟩
  · rw [same]
    exact iff_of_true rfl ⟨asked, finished⟩
  · simp [same, finished]
  · rw [same, asked]
    simp

/-- A sequence has ended behind a request if it had before, or if it was given an end token. -/
theorem finished_answer_iff :
    (stream.answer request).2.finished = true ↔ stream.finished = true ∨
      request = .next ∧ ∃ token, (stream.answer request).1 = some token ∧ token.type = .ending := by
  rcases answer_cases stream request with
    ⟨_, finished, same⟩ | ⟨asked, finished, same⟩ | ⟨asked, same⟩
  · rw [same]
    exact iff_of_true finished (.inl finished)
  · rw [same, asked]
    simp [finished]
  · rw [same, asked]
    simp

/-! ## Series of requests -/

/-- The stream behind a series of requests. -/
def behind (stream : TokenStream) (requests : List Request) : TokenStream :=
  requests.foldl (fun stream request => (stream.answer request).2) stream

theorem answers_cons (stream : TokenStream) (request : Request) (later : List Request) :
    stream.answers (request :: later) =
      (stream.answer request).1 :: (stream.answer request).2.answers later := rfl

theorem length_answers (stream : TokenStream) (requests : List Request) :
    (stream.answers requests).length = requests.length := by
  induction requests generalizing stream with
  | nil => rfl
  | cons request later ih => rw [answers_cons, List.length_cons, List.length_cons, ih]

theorem answers_append (stream : TokenStream) (first second : List Request) :
    stream.answers (first ++ second) =
      stream.answers first ++ (stream.behind first).answers second := by
  induction first generalizing stream with
  | nil => rfl
  | cons request later ih =>
      rw [List.cons_append, answers_cons, answers_cons, ih, List.cons_append, behind, behind,
        List.foldl_cons]

/-- The tokens that are answered are those that the scanner has not passed, in order, and then
the end token as often as it is asked for. -/
theorem reduceOption_answers_isPrefix (stream : TokenStream) (requests : List Request) :
    (stream.answers requests).reduceOption <+:
      stream.scanner.tokens ++ List.replicate requests.length stream.scanner.ending := by
  induction requests generalizing stream with
  | nil => exact List.nil_prefix
  | cons request later ih =>
      have drawn : ∀ finished, (stream.scanner.draw.1 ::
          (TokenStream.answers ⟨stream.scanner.draw.2, finished⟩ later).reduceOption) <+:
            stream.scanner.tokens ++
              List.replicate (later.length + 1) stream.scanner.ending := by
        intro finished
        have rest := ih ⟨stream.scanner.draw.2, finished⟩
        dsimp only at rest
        rw [Scanner.tokens_draw, Scanner.ending_draw] at rest
        rw [Scanner.draw_fst]
        cases shape : stream.scanner.tokens with
        | nil =>
            rw [shape] at rest
            rw [List.replicate_succ]
            exact List.cons_prefix_cons.mpr ⟨rfl, rest⟩
        | cons token others =>
            rw [shape] at rest
            have longer : List.replicate later.length stream.scanner.ending <+:
                List.replicate (later.length + 1) stream.scanner.ending :=
              ⟨[stream.scanner.ending], List.replicate_succ'.symm⟩
            exact List.cons_prefix_cons.mpr ⟨rfl, rest.trans
              ((List.prefix_append_right_inj _).mpr longer)⟩
      rw [answers_cons]
      rcases answer_cases stream request with ⟨_, _, same⟩ | ⟨_, _, same⟩ | ⟨_, same⟩
      · rw [same]
        refine (ih stream).trans ((List.prefix_append_right_inj _).mpr ?_)
        exact ⟨[stream.scanner.ending], List.replicate_succ'.symm⟩
      · rw [same]
        exact drawn _
      · rw [same]
        exact drawn _

/-- A request is answered by nothing if it asks a sequence that has ended, be it from the start
or since an earlier request. -/
theorem getElem?_answers_eq_none_iff (stream : TokenStream) (requests : List Request)
    (place : Nat) :
    (stream.answers requests)[place]? = some none ↔
      requests[place]? = some .next ∧ (stream.finished = true ∨
        ∃ earlier < place, requests[earlier]? = some .next ∧
          ∃ token, (stream.answers requests)[earlier]? = some (some token) ∧
            token.type = .ending) := by
  induction requests generalizing stream place with
  | nil => simp [answers]
  | cons request later ih =>
      cases place with
      | zero => simp [answers_cons, answer_eq_none_iff]
      | succ place =>
          have here := ih (stream.answer request).2 place
          rw [finished_answer_iff] at here
          simp only [answers_cons, List.getElem?_cons_succ, here, and_congr_right_iff]
          intro _
          constructor
          · rintro ((finished | ⟨asked, token, given, last⟩) | ⟨earlier, before, asked, rest⟩)
            · exact .inl finished
            · refine .inr ⟨0, Nat.succ_pos place, ?_, token, ?_, last⟩
              · rw [List.getElem?_cons_zero, asked]
              · rw [List.getElem?_cons_zero, given]
            · exact .inr ⟨earlier + 1, Nat.succ_lt_succ before, asked, rest⟩
          · rintro (finished | ⟨earlier, before, asked, token, given, last⟩)
            · exact .inl (.inl finished)
            · cases earlier with
              | zero =>
                  rw [List.getElem?_cons_zero, Option.some.injEq] at asked given
                  exact .inl (.inr ⟨asked, token, given, last⟩)
              | succ earlier =>
                  exact .inr ⟨earlier, Nat.lt_of_succ_lt_succ before, asked, token, given, last⟩

/-- A request that is answered by nothing changes nothing: neither the stream behind it, nor
what is answered to the others. -/
theorem answers_append_of_none {before later : List Request}
    (nothing : (stream.answers (before ++ .next :: later))[before.length]? = some none) :
    stream.behind (before ++ [.next]) = stream.behind before ∧
      stream.answers (before ++ later) =
        (stream.answers (before ++ .next :: later)).eraseIdx before.length := by
  have passed : (stream.answers before).length = before.length := length_answers stream before
  rw [answers_append, answers_cons, List.getElem?_append_right (Nat.le_of_eq passed), passed,
    Nat.sub_self, List.getElem?_cons_zero, Option.some.injEq] at nothing
  have same : (stream.behind before).answer .next = (none, stream.behind before) := by
    rcases answer_cases (stream.behind before) .next with
      ⟨_, _, same⟩ | ⟨_, _, drawn⟩ | ⟨drawn, _⟩
    · exact same
    · rw [drawn] at nothing
      cases nothing
    · cases drawn
  constructor
  · rw [behind, List.foldl_append]
    exact congrArg Prod.snd same
  · rw [answers_append, answers_append, answers_cons, same,
      List.eraseIdx_append_of_length_le (Nat.le_of_eq passed), passed, Nat.sub_self,
      List.eraseIdx_cons_zero]

end TokenStream

/-! ## Sources -/

open TokenStream (Request)

/-- Every request to a stream of a source is answered.  What is answered by tokens is answered
by those of the source, one after another, and then by the end token for ever, which stays at
its place.  Nothing is answered to the requests to the sequence behind one that was answered
by the end token, and to no others; the stream behind such a request is the one in front of it,
and without it the answers to the other requests are the same. -/
theorem requests_share_one_stream (source : String) (requests : List Request) :
    let stream := TokenStream.ofString source
    let answers := stream.answers requests
    answers.length = requests.length ∧
      answers.reduceOption <+: tokensOf source ++
        List.replicate requests.length (Scanner.ofString source).ending ∧
      (∀ place : Nat, answers[place]? = some none ↔
        requests[place]? = some Request.next ∧
          ∃ earlier < place, requests[earlier]? = some Request.next ∧
            ∃ token : Token, answers[earlier]? = some (some token) ∧ token.type = .ending) ∧
      ∀ before later, requests = before ++ .next :: later ->
        answers[before.length]? = some none ->
        stream.behind (before ++ [.next]) = stream.behind before ∧
          stream.answers (before ++ later) = answers.eraseIdx before.length := by
  intro stream answers
  refine ⟨stream.length_answers requests, ?_, fun place => ?_, ?_⟩
  · have once : (Scanner.ofString source).tokens ++
        List.replicate requests.length (Scanner.ofString source).ending <+:
          tokensOf source ++ List.replicate requests.length (Scanner.ofString source).ending := by
      rw [tokensOf, List.append_assoc, List.singleton_append, List.prefix_append_right_inj,
        ← List.replicate_succ]
      exact ⟨[(Scanner.ofString source).ending], List.replicate_succ'.symm⟩
    exact (stream.reduceOption_answers_isPrefix requests).trans once
  · have start : stream.finished = true ↔ False := iff_of_false Bool.false_ne_true id
    rw [stream.getElem?_answers_eq_none_iff requests place, start, false_or]
  · rintro before later rfl nothing
    exact TokenStream.answers_append_of_none nothing

/-- The end token is drawn in front of a sequence that has not seen it yet.  The sequence gives
it once more and has ended, and drawing goes on. -/
theorem requests_share_one_stream_of_late_sequence :
    let stream := TokenStream.ofString "x"
    ((stream.answers [.draw, .draw, .next, .next, .draw]).map (Option.map Token.type) =
      [some .identifier, some .ending, some .ending, none, some .ending]) ∧
    stream.behind [.draw, .draw, .next, .next] = stream.behind [.draw, .draw, .next] ∧
      stream.answers [.draw, .draw, .next, .draw] =
        (stream.answers [.draw, .draw, .next, .next, .draw]).eraseIdx 3 := by
  intro stream
  have types : (stream.answers [.draw, .draw, .next, .next, .draw]).map (Option.map Token.type) =
      [some .identifier, some .ending, some .ending, none, some .ending] := by decide +kernel
  have nothing : (stream.answers [.draw, .draw, .next, .next, .draw])[3]? = some none := by
    decide +kernel
  rcases requests_share_one_stream "x" [.draw, .draw, .next, .next, .draw] with ⟨_, _, _, without⟩
  exact ⟨types, without [.draw, .draw, .next] [.draw] rfl nothing⟩

end MonkeyLang
