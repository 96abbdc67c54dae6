import MonkeyLang.Proofs.Grammar.Soundness

namespace MonkeyLang

/-!
# What the reader accepts

A source has a program exactly where its tokens are a phrase of the grammar, and
then the program is the one that the phrase stands for.  The grammar is therefore
unambiguous, and no fault goes unreported: a source without diagnostics has lost
none of its statements.
-/

theorem Reading.result_eq_ok_iff (reading : Reading) (program : Program) :
    reading.result = .ok program ↔ reading.trace.isClean = true ∧ reading.program = program := by
  rw [← Trace.diagnostics_eq_nil_iff []]
  change (if (reading.trace.diagnostics []).isEmpty then _ else _) = _ ↔ _
  cases found : reading.trace.diagnostics [] with
  | nil => simp
  | cons first later => simp

/-- A list of tokens is read without a fault exactly as the program that it is a
phrase of, whatever the token at the end of the source. -/
theorem Reading.ofTokens_eq_ok_iff (ending : Token) (tokens : List Token) (program : Program) :
    (Reading.ofTokens ending tokens).result = .ok program ↔ ProgramPhrase tokens program := by
  rw [Reading.result_eq_ok_iff]
  change Trace.areClean (programStatements ending tokens).trace = true ∧
    Program.mk (programStatements ending tokens).statements = program ↔ _
  constructor
  · rintro ⟨clean, rfl⟩
    rcases programStatements_sound tokens.length (Nat.le_refl _) clean with ⟨statements, phrase⟩
    rw [(phrase.read_program ending rfl).statements]
    exact phrase
  · intro phrase
    have reads := phrase.read_program ending rfl
    exact ⟨reads.clean, by rw [reads.statements]⟩

theorem exists_parse_eq_ok {source : String} (accepted : (parse source).toOption.isSome = true) :
    ∃ program, parse source = .ok program := by
  cases shape : parse source with
  | error diagnostics => simp [shape, Except.toOption] at accepted
  | ok program => exact ⟨program, rfl⟩

/-- The reader accepts exactly the sources whose tokens are a program of the
grammar, and gives exactly that program. -/
theorem parse_eq_ok_iff_programPhrase (source : String) (program : Program) :
    parse source = .ok program ↔
      ProgramPhrase (Scanner.ofString source).tokens program :=
  Reading.ofTokens_eq_ok_iff _ _ program

end MonkeyLang
