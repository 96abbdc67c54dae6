import Mathlib.Logic.Relation
import MonkeyLang.Proofs.Grammar.Performance

namespace MonkeyLang

/-!
# Reading to the end

A parser goes forward over the tokens that its scanner draws, one at a time, and never back.  So
the tokens that it has passed are the first ones of its scanner, each of them once.  When it has
read a program it stands at the end token; then it has passed all others, and perhaps the end
token, which may have been drawn more than once.  Nothing is left for another program.
-/

/-- A parser has passed the first so many tokens of a scanner, and stands in front of the
others. -/
structure Parser.HasPassed (scanner : Scanner) (count : Nat) (parser : Parser) : Prop where
  passed : parser.passed = (List.range count).map fun place => (scanner.skip place).draw.1
  current : parser.current = (scanner.skip count).draw.1
  next : parser.next = (scanner.skip (count + 1)).draw.1
  scanner : parser.scanner = scanner.skip (count + 2)

theorem Scanner.skip_succ (scanner : Scanner) (count : Nat) :
    scanner.skip (count + 1) = (scanner.skip count).draw.2 := by
  induction count generalizing scanner with
  | zero => rfl
  | succ count ih => exact ih scanner.draw.2

namespace Parser.HasPassed

variable {scanner : Scanner} {count : Nat} {parser : Parser}

theorem start (scanner : Scanner) : (Parser.ofScanner scanner).HasPassed scanner 0 :=
  ⟨rfl, rfl, rfl, rfl⟩

/-- Going forward passes one token more. -/
theorem advance (stands : parser.HasPassed scanner count) :
    parser.advance.HasPassed scanner (count + 1) where
  passed := by
    rw [List.range_succ, List.map_append, ← stands.passed, List.map_singleton, ← stands.current]
    rfl
  current := stands.next
  next := by
    rw [← stands.scanner]
    rfl
  scanner := by
    rw [Scanner.skip_succ, ← stands.scanner]
    rfl

theorem leave (stands : parser.HasPassed scanner count) : parser.leave.HasPassed scanner count := by
  unfold Parser.leave
  split
  · exact stands
  · exact ⟨stands.passed, stands.current, stands.next, stands.scanner⟩

/-- A parser that stands at the end token has passed all other tokens, in order, and perhaps the
end token several times. -/
theorem passed_eq (stands : parser.HasPassed scanner count)
    (last : parser.current.type = .ending) :
    parser.passed =
      scanner.tokens ++ List.replicate (count - scanner.tokens.length) scanner.ending := by
  -- A token in front of the end is no end token, so the parser stands behind them all.
  have beyond : scanner.tokens.length ≤ count := by
    by_contra short
    have within : count < scanner.tokens.length := Nat.lt_of_not_le short
    rw [stands.current, Scanner.draw_skip, List.getElem?_eq_getElem within, Option.getD_some] at last
    exact Scanner.type_ne_ending_of_mem_tokens _ (List.getElem_mem within) last
  simp only [stands.passed, Scanner.draw_skip]
  apply List.ext_getElem?
  intro place
  rw [List.getElem?_map, List.getElem?_append, List.getElem?_replicate]
  rcases Nat.lt_or_ge place scanner.tokens.length with early | late
  · simp [early, Nat.lt_of_lt_of_le early beyond]
  · have within : place - scanner.tokens.length < count - scanner.tokens.length ↔ place < count := by
      omega
    rcases Nat.lt_or_ge place count with before | behind
    · simp [within, before, Nat.not_lt_of_ge late]
    · simp [within, Nat.not_lt_of_ge late, Nat.not_lt_of_ge behind]

end Parser.HasPassed

/-- Whatever a parser does, it goes forward from token to token. -/
theorem Performs.hasPassed {α : Type} {routine : Routine α} {parser after : Parser}
    {result : Option α} (performs : Performs routine parser result after) {scanner : Scanner}
    {count : Nat} (stands : parser.HasPassed scanner count) :
    ∃ more, after.HasPassed scanner (count + more) := by
  induction performs generalizing count with
  | give _ | look _ | quit => exact ⟨0, stands⟩
  | report _ _ => exact ⟨0, stands.passed, stands.current, stands.next, stands.scanner⟩
  | forward _ => exact ⟨1, stands.advance⟩
  | andThen _ _ ih later =>
      rcases ih stands with ⟨more, between⟩
      rcases later between with ⟨further, after⟩
      exact ⟨more + further, Nat.add_assoc count more further ▸ after⟩
  | stopped _ ih | survive _ ih | call _ ih => exact ih stands
  | within _ ih =>
      rcases ih ⟨stands.passed, stands.current, stands.next, stands.scanner⟩ with ⟨more, after⟩
      exact ⟨more, after.leave⟩

/-! ## Reading again -/

/-- What becomes of a parser that reads any number of programs, one after another. -/
def Parser.ReadsOn : Parser -> Parser -> Prop :=
  Relation.ReflTransGen fun parser after => ∃ result, Performs .program parser result after

theorem Reading.ofTokens_nil (ending : Token) :
    ofTokens ending [] = ⟨⟨[]⟩, 0, .rule .program true []⟩ := by
  rw [ofTokens, programStatements]
  rfl

/-- A parser that stands at the end reads an empty program, and is still there. -/
theorem Parser.Stands.program_performs {ending : Token} {parser : Parser}
    (stands : parser.Stands ending []) :
    ∃ after, Performs .program parser (some ⟨[]⟩) after ∧ after.Stands ending [] ∧
      after.diagnostics = parser.diagnostics := by
  rcases MonkeyLang.program_performs stands with ⟨after, performs, there, written⟩
  rw [Reading.ofTokens_nil] at performs written
  refine ⟨after, performs, there, ?_⟩
  rw [Parser.diagnostics, written, Record.diagnostics, List.filterMap_append]
  exact List.append_nil _

/-- However many programs it reads there, it stays at the end and finds nothing. -/
theorem Parser.Stands.readsOn {ending : Token} {parser later : Parser}
    (stands : parser.Stands ending []) (reads : parser.ReadsOn later) :
    later.Stands ending [] ∧ later.diagnostics = parser.diagnostics := by
  induction reads with
  | refl => exact ⟨stands, rfl⟩
  | tail _ again ih =>
      rcases again with ⟨result, performs⟩
      rcases ih.1.program_performs with ⟨after, performs', there, same⟩
      rcases performs.unique performs' with ⟨_, rfl⟩
      exact ⟨there, same.trans ih.2⟩

/-- A program uses up all tokens. -/
theorem length_le_used_programStatements (ending : Token) (tokens : List Token) :
    tokens.length ≤ (programStatements ending tokens).used := by
  cases tokens with
  | nil => exact Nat.zero_le _
  | cons token rest =>
      rw [programStatements, Series.prepend, List.length_cons]
      have later := length_le_used_programStatements ending
        (rest.drop (statement ending token rest).used)
      rw [List.length_drop] at later
      dsimp only
      omega
termination_by tokens.length

/-- Reading comes to an end on every source, however many of its tokens were skipped, and does
so with the end token.  The tokens that were not skipped are then passed, each of them once and
in order; only the end token may have been passed as well, and more than once.  Any further
programs that are read are empty and leave the diagnostics alone, and nothing is left to a
reader. -/
theorem reading_ends_with_the_source (source : String) (skipped : Nat) :
    let scanner : Scanner := (Scanner.ofString source).skip skipped
    let reading := Reading.ofScanner scanner
    let reader := Reader.ofScanner scanner
    (∃ after, PerformsOnly .program (.ofScanner scanner) (some reading.program) after ∧
      after.diagnostics = reading.diagnostics ∧
      after.current = (Scanner.ofString source).ending ∧
      (∃ times, after.passed = (Scanner.ofString source).tokens.drop skipped ++
        List.replicate times (Scanner.ofString source).ending) ∧
      ∀ later, after.ReadsOn later ->
        ∃ last, PerformsOnly .program later (some ⟨[]⟩) last ∧
          last.diagnostics = reading.diagnostics) ∧
    reader.read.1 = reading ∧ reader.read.2.upcoming = [] ∧
      reader.read.2.read.1.program = ⟨[]⟩ ∧ reader.read.2.read.1.diagnostics = [] ∧
      reader.read.2.read.2 = reader.read.2 := by
  intro scanner reading reader
  rcases Reading.ofScanner_performs scanner with ⟨after, performs, there, found, _⟩
  have here : after.current = scanner.ending := there.here
  have passed : ∃ times, after.passed = scanner.tokens ++ List.replicate times scanner.ending := by
    rcases performs.hasPassed (Parser.HasPassed.start scanner) with ⟨more, stands⟩
    exact ⟨_, stands.passed_eq (here ▸ there.faces.type_ending)⟩
  have nothing : reader.read.2 = ⟨scanner.ending, []⟩ := by
    have all := length_le_used_programStatements scanner.ending scanner.tokens
    exact congrArg (Reader.mk scanner.ending) (List.drop_eq_nil_of_le all)
  refine ⟨⟨after, performs.only, found, ?_, ?_, ?_⟩, rfl, ?_⟩
  · rwa [Scanner.ending_skip] at here
  · rwa [Scanner.tokens_skip, Scanner.ending_skip] at passed
  · intro later reads
    rcases there.readsOn reads with ⟨still, same⟩
    rcases still.program_performs with ⟨last, again, _, same'⟩
    exact ⟨last, again.only, (same'.trans same).trans found⟩
  · rw [nothing, Reader.read, Reading.ofTokens_nil]
    exact ⟨rfl, rfl, rfl, rfl⟩

end MonkeyLang
