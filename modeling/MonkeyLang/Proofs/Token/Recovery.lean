import MonkeyLang.Proofs.Text.Bytes
import MonkeyLang.Proofs.Token.Spans

namespace MonkeyLang

open Text

/-!
# Listings read back

A line of a listing has a number or a bar, a kind of token and a lexeme, with spaces between
them.  None of the three holds a space or a line feed, so they are found again, however wide
the number is.  The lexeme alone may be empty, at the end of the source.

A token without a number stands in the source line of the token before it.  As the lines of
tokens never go down, a number is shown where a source line has its first token, and nowhere
else; and all numbers follow from the listing.
-/

/-! ## The columns of a line -/

/-- The texts of a line that are separated by spaces. -/
def columnsOf (line : List Char) : List (List Char) := (piecesAt ' ' line).filter (· ≠ [])

section

variable {text : List Char}

theorem columnsOf_spaces (count : Nat) (later : List Char) :
    columnsOf (List.replicate count ' ' ++ later) = columnsOf later := by
  induction count with
  | zero => rfl
  | succ count ih =>
      rw [List.replicate_succ, List.cons_append, columnsOf, piecesAt, if_pos rfl,
        List.filter_cons_of_neg (by decide)]
      exact ih

/-- A text in front of a space is the first column. -/
theorem columnsOf_append (solid : ' ' ∉ text) (inhabited : text ≠ []) (later : List Char) :
    columnsOf (text ++ ' ' :: later) = text :: columnsOf later := by
  rw [columnsOf, piecesAt_append solid, List.filter_cons, if_pos (decide_eq_true inhabited)]
  rfl

/-- A text without spaces is one column, unless there is nothing. -/
theorem columnsOf_of_notMem (solid : ' ' ∉ text) :
    columnsOf text = if text = [] then [] else [text] := by
  split
  · next nothing => rw [nothing]; rfl
  · next inhabited =>
      rw [columnsOf, piecesAt_of_notMem solid inhabited, List.filter_cons,
        if_pos (decide_eq_true inhabited), List.filter_nil]

end

/-! ## The rows of a listing -/

/-- What a line of a listing shows: a number, if there is one, and a token without its place. -/
structure Row where
  number : Option Nat
  word : Word
  deriving DecidableEq

/-- The row that a line shows, if it is a line of a listing. -/
def readRow (line : String) : Option Row :=
  match columnsOf line.toList with
  | margin :: kind :: lexeme =>
      (TokenType.all.find? (·.text.toList = kind)).map fun type =>
        ⟨if margin = ['|'] then none else some (ofDigits margin),
          ⟨type, String.ofList lexeme.flatten⟩⟩
  | _ => none

/-- The rows of tokens, given the line of the token before them. -/
def rowsOf (previous : Nat) : List Token -> List Row
  | [] => []
  | token :: later =>
      ⟨if token.span.line = previous then none else some token.span.line, token.word⟩ ::
        rowsOf token.span.line later

/-- The tokens of rows and the lines in which they start, given the line of the token before
them. -/
def restore (previous : Nat) : List Row -> List (Word × Nat)
  | [] => []
  | row :: later =>
      (row.word, row.number.getD previous) :: restore (row.number.getD previous) later

/-- The tokens that a listing shows and the lines in which they start. -/
def recover (output : String) : List (Word × Nat) :=
  restore 0 ((linesOf output).filterMap readRow)

/-- All that is needed of a token is shown by the rows. -/
theorem restore_rowsOf (previous : Nat) (tokens : List Token) :
    restore previous (rowsOf previous tokens) =
      tokens.map fun token => (token.word, token.span.line) := by
  induction tokens generalizing previous with
  | nil => rfl
  | cons token later ih =>
      have line : (if token.span.line = previous then none
          else some token.span.line).getD previous = token.span.line := by
        split
        · next same => exact same.symm
        · rfl
      rw [rowsOf, restore]
      dsimp only
      rw [line, ih, List.map_cons]

theorem length_rowsOf (previous : Nat) (tokens : List Token) :
    (rowsOf previous tokens).length = tokens.length := by
  induction tokens generalizing previous with
  | nil => rfl
  | cons token later ih => rw [rowsOf, List.length_cons, List.length_cons, ih]

/-! ## Lines and their rows -/

/-- A kind of token is found by its text. -/
theorem TokenType.find?_text (type : TokenType) :
    TokenType.all.find? (·.text.toList = type.text.toList) = some type := by
  cases type <;> decide +kernel

/-- The name of a kind of token is one column. -/
theorem TokenType.text_solid (type : TokenType) :
    type.text.toList ≠ [] ∧ ' ' ∉ type.text.toList ∧ '\n' ∉ type.text.toList := by
  cases type <;> decide +kernel

/-- A number is one column. -/
theorem digits_solid (number : Nat) :
    digits number ≠ [] ∧ ' ' ∉ digits number ∧ '\n' ∉ digits number ∧ '|' ∉ digits number := by
  have each : ∀ character ∈ digits number, character.isDigit = true := fun _ member =>
    Nat.isDigit_of_mem_toDigits (by decide) (by decide) member
  have none {character : Char} (other : character.isDigit = false) :
      character ∉ digits number := fun member =>
    Bool.false_ne_true (other.symm.trans (each character member))
  exact ⟨Nat.toDigits_ne_nil, none rfl, none rfl, none rfl⟩

/-- The margin of a line is its first column: a bar or a number. -/
theorem columnsOf_margin (previous line : Nat) (later : List Char) :
    columnsOf ((listingMargin previous line).toList ++ later) =
      (if line = previous then ['|'] else digits line) :: columnsOf later := by
  unfold listingMargin
  split
  · have solid : ' ' ∉ ['|'] := by decide
    exact (columnsOf_spaces 3 ('|' :: ' ' :: later)).trans
      (columnsOf_append solid (List.cons_ne_nil _ _) later)
  · rcases digits_solid line with ⟨inhabited, solid, _⟩
    rw [alignRight, spaces, String.toList_append, String.toList_append, String.toList_ofList,
      natural, String.toList_ofList, List.append_assoc, List.append_assoc, columnsOf_spaces]
    exact columnsOf_append solid inhabited later

/-- The kind of token is a column, however many spaces stand behind it. -/
theorem columnsOf_type (type : TokenType) (later : List Char) :
    columnsOf ((alignLeft 10 type.text).toList ++ ' ' :: later) =
      type.text.toList :: columnsOf later := by
  rcases type.text_solid with ⟨inhabited, solid, _⟩
  have shifted (count : Nat) : List.replicate count ' ' ++ ' ' :: later =
      ' ' :: (List.replicate count ' ' ++ later) := by
    rw [← List.cons_append, ← List.replicate_succ, List.replicate_succ', List.append_assoc,
      List.singleton_append]
  rw [alignLeft, spaces, String.toList_append, String.toList_ofList, List.append_assoc, shifted,
    columnsOf_append solid inhabited, columnsOf_spaces]

/-- A token whose lexeme has no spaces is read back from its line. -/
theorem readRow_listingLine {token : Token} (solid : ' ' ∉ token.lexeme.toList) (previous : Nat) :
    readRow (token.listingLine previous) =
      some ⟨if token.span.line = previous then none else some token.span.line, token.word⟩ := by
  have columns : columnsOf (token.listingLine previous).toList =
      (if token.span.line = previous then ['|'] else digits token.span.line) ::
        token.type.text.toList ::
          if token.lexeme.toList = [] then [] else [token.lexeme.toList] := by
    rw [Token.listingLine, String.toList_append, String.toList_append, String.toList_append,
      List.append_assoc, List.append_assoc, columnsOf_margin]
    exact congrArg _ ((columnsOf_type _ _).trans (congrArg _ (columnsOf_of_notMem solid)))
  have lexeme : String.ofList
      (if token.lexeme.toList = [] then [] else [token.lexeme.toList]).flatten = token.lexeme := by
    split
    · next nothing => exact (String.toList_eq_nil_iff.mp nothing).symm
    · rw [List.flatten_singleton, String.ofList_toList]
  rw [readRow, columns]
  dsimp only
  rw [TokenType.find?_text, Option.map_some, lexeme]
  split
  · rfl
  · have number : digits token.span.line ≠ ['|'] := fun bar =>
      (digits_solid token.span.line).2.2.2 (bar ▸ List.mem_singleton_self '|')
    rw [if_neg number, ofDigits_digits]
    rfl

/-- A listing shows the rows of its tokens. -/
theorem map_readRow {tokens : List Token}
    (solid : ∀ token ∈ tokens, ' ' ∉ token.lexeme.toList) (previous : Nat) :
    (listingLines previous tokens).map readRow = (rowsOf previous tokens).map some := by
  induction tokens generalizing previous with
  | nil => rfl
  | cons token later ih =>
      have parts := List.forall_mem_cons.mp solid
      rw [listingLines, rowsOf, List.map_cons, List.map_cons, readRow_listingLine parts.1,
        ih parts.2]

/-- A token is shown in one line. -/
theorem notMem_listingLine {token : Token} (solid : '\n' ∉ token.lexeme.toList) (previous : Nat) :
    '\n' ∉ (token.listingLine previous).toList := by
  have blank (count : Nat) : '\n' ∉ List.replicate count ' ' := fun member =>
    absurd (List.eq_of_mem_replicate member) (by decide)
  have margin : '\n' ∉ (listingMargin previous token.span.line).toList := by
    unfold listingMargin
    split
    · decide
    · simp [alignRight, spaces, natural, blank, (digits_solid token.span.line).2.2.1]
  simp [Token.listingLine, margin, alignLeft, spaces, blank, token.type.text_solid.2.2, solid]

theorem notMem_listingLines {tokens : List Token}
    (solid : ∀ token ∈ tokens, '\n' ∉ token.lexeme.toList) (previous : Nat) :
    ∀ line ∈ listingLines previous tokens, '\n' ∉ line.toList := by
  induction tokens generalizing previous with
  | nil => exact List.forall_mem_nil _
  | cons token later ih =>
      have parts := List.forall_mem_cons.mp solid
      exact List.forall_mem_cons.mpr ⟨notMem_listingLine parts.1 previous, ih parts.2 _⟩

/-! ## The numbers that are shown -/

section

variable {previous : Nat} {tokens : List Token}

/-- The numbers that are shown go up, and are all beyond the line in front. -/
theorem pairwise_numbers
    (rising : (previous :: tokens.map (·.span.line)).Pairwise (· ≤ ·)) :
    (previous :: (rowsOf previous tokens).filterMap (·.number)).Pairwise (· < ·) := by
  induction tokens generalizing previous with
  | nil => exact List.pairwise_singleton _ _
  | cons token later ih =>
      rw [List.map_cons, List.pairwise_cons] at rising
      have inside := ih rising.2
      have above := rising.1 token.span.line List.mem_cons_self
      rw [rowsOf, List.filterMap_cons]
      split
      · next hidden =>
          by_cases same : token.span.line = previous
          · exact same ▸ inside
          · simp [same] at hidden
      · next number shown =>
          by_cases same : token.span.line = previous
          · simp [same] at shown
          · obtain rfl : token.span.line = number := by simpa [same] using shown
            have below := Nat.lt_of_le_of_ne above (Ne.symm same)
            refine List.pairwise_cons.mpr ⟨List.forall_mem_cons.mpr ⟨below, ?_⟩, inside⟩
            exact fun other member =>
              Nat.lt_trans below ((List.pairwise_cons.mp inside).1 other member)

/-- A token shows its line unless it is the line in front or that of a token before it. -/
theorem getElem?_rowsOf {before later : List Token} {token : Token}
    (rising : (previous :: (before ++ token :: later).map (·.span.line)).Pairwise (· ≤ ·)) :
    ∃ row, (rowsOf previous (before ++ token :: later))[before.length]? = some row ∧
      row.word = token.word ∧ ∀ number, row.number = some number ↔
        number = token.span.line ∧ previous ≠ token.span.line ∧
          ∀ earlier ∈ before, earlier.span.line ≠ token.span.line := by
  induction before generalizing previous with
  | nil =>
      refine ⟨_, rfl, rfl, fun number => ?_⟩
      by_cases same : token.span.line = previous
      · simp [same]
      · simp [same, Ne.symm same, eq_comm]
  | cons head others ih =>
      rw [List.cons_append, List.map_cons, List.pairwise_cons] at rising
      rcases ih rising.2 with ⟨row, there, word, shown⟩
      refine ⟨row, there, word, fun number => ?_⟩
      have above := rising.1 head.span.line List.mem_cons_self
      have below := (List.pairwise_cons.mp rising.2).1 token.span.line
        (List.mem_map_of_mem (List.mem_append_right others List.mem_cons_self))
      rw [shown, List.forall_mem_cons]
      constructor
      · rintro ⟨line, here, earlier⟩
        exact ⟨line, by omega, here, earlier⟩
      · rintro ⟨line, _, here, earlier⟩
        exact ⟨line, here, earlier⟩

end

/-! ## Sources -/

/-- No token of a source has a blank in it. -/
theorem Scanner.isBlank_of_mem_tokens (scanner : Scanner) :
    ∀ token ∈ scanner.tokens ++ [scanner.ending], ∀ character ∈ token.lexeme.toList,
      isBlank character = false := by
  rw [List.forall_mem_append, List.forall_mem_singleton]
  exact ⟨fun token member => (lexeme_of_mem_tokens token member).isBlank_of_mem,
    List.forall_mem_nil _⟩

/-- The lines in which the tokens of a source start never go down from the first line. -/
theorem pairwise_lines (source : String) :
    (0 :: (tokensOf source).map (·.span.line)).Pairwise (· ≤ ·) ∧
      ∀ token ∈ tokensOf source, token.span.line ≠ 0 := by
  have ordered := Scanner.pairwise_tokens (Scanner.ofString source)
  refine ⟨List.pairwise_cons.mpr ⟨fun _ _ => Nat.zero_le _, List.pairwise_map.mpr ?_⟩, ?_⟩
  · refine ordered.imp fun {first second} before => ?_
    rcases before with lower | same
    · exact Nat.le_of_lt lower
    · exact Nat.le_of_eq same.1
  · intro token member zero
    have start := Scanner.not_precedes_of_mem_tokens token member
    exact start (.inl (Nat.lt_of_le_of_lt (Nat.le_of_eq zero) Nat.zero_lt_one))

/-- The lines of a listing are those of the tokens, and show their rows. -/
theorem linesOf_listing (source : String) :
    linesOf (asLines (listing source)) = listing source ∧
      (listing source).map readRow = (rowsOf 0 (tokensOf source)).map some := by
  have solid := (Scanner.ofString source).isBlank_of_mem_tokens
  constructor
  · refine linesOf_asLines (notMem_listingLines (fun token member feed => ?_) 0)
    exact Bool.noConfusion (solid token member '\n' feed)
  · refine map_readRow (fun token member space => ?_) 0
    exact Bool.noConfusion (solid token member ' ' space)

theorem filterMap_listing (source : String) :
    (linesOf (asLines (listing source))).filterMap readRow = rowsOf 0 (tokensOf source) := by
  rcases linesOf_listing source with ⟨lines, rows⟩
  have each : (listing source).filterMap readRow = ((listing source).map readRow).filterMap id := by
    rw [List.filterMap_map]
    rfl
  rw [lines, each, rows, List.filterMap_map]
  exact List.filterMap_some

/-- The listing of tokens loses nothing.  For every input that is a text the command for it
succeeds and writes lines, as many as the source has tokens up to the first end token.  The
line at the number of a token can be read: it shows the kind and the lexeme of that token, and
it shows a number, which is the source line in which the token starts, if and only if no token
before it starts in that line.  The numbers that are shown go strictly up.  The kinds and
lexemes of all tokens with the lines in which they start are read back from what is written,
and so inputs with the same listing have the same of them. -/
theorem listing_is_lossless {input : ByteArray} {source : String}
    (text : Command.textOf input = some source) (traced : Bool) :
    let report := Command.tokens.report traced (.ok input)
    let lines := linesOf report.output
    report = .success (asLines lines) ∧
      (∃ front ending, tokensOf source = front ++ [ending] ∧ ending.type = .ending ∧
        ∀ token ∈ front, token.type ≠ .ending) ∧
      lines.length = (tokensOf source).length ∧
      (∀ before token later, tokensOf source = before ++ token :: later ->
        ∃ line row, lines[before.length]? = some line ∧ readRow line = some row ∧
          row.word = token.word ∧ ∀ number, row.number = some number ↔
            number = token.span.line ∧
              ∀ earlier ∈ before, earlier.span.line ≠ token.span.line) ∧
      ((lines.filterMap readRow).filterMap (·.number)).Pairwise (· < ·) ∧
      recover report.output =
        (tokensOf source).map (fun token => (token.word, token.span.line)) ∧
      ∀ (other : ByteArray) (otherSource : String), Command.textOf other = some otherSource ->
        (Command.tokens.report traced (.ok other)).output = report.output ->
        (tokensOf otherSource).map (fun token => (token.word, token.span.line)) =
          (tokensOf source).map (fun token => (token.word, token.span.line)) := by
  have written {input : ByteArray} {source : String} (text : Command.textOf input = some source) :
      Command.tokens.report traced (.ok input) = .success (asLines (listing source)) := by
    rw [Command.report, Command.reportAndLog, Command.onText, text]
    cases traced <;> rfl
  have recovered (source : String) : recover (asLines (listing source)) =
      (tokensOf source).map fun token => (token.word, token.span.line) := by
    rw [recover, filterMap_listing, restore_rowsOf]
  rcases linesOf_listing source with ⟨found, rows⟩
  rcases pairwise_lines source with ⟨rising, counted⟩
  intro report lines
  have shown : report = .success (asLines (listing source)) := written text
  have output : report.output = asLines (listing source) := congrArg Report.output shown
  have listed : lines = listing source := (congrArg linesOf output).trans found
  refine ⟨listed ▸ shown, ⟨_, _, rfl, rfl, Scanner.type_ne_ending_of_mem_tokens⟩,
    ?_, ?_, ?_, ?_, ?_⟩
  · have lengths := congrArg List.length rows
    rwa [List.length_map, List.length_map, length_rowsOf, ← listed] at lengths
  · intro before token later shape
    have there := counted token (shape ▸ List.mem_append_right before List.mem_cons_self)
    rw [shape] at rising rows
    rcases getElem?_rowsOf rising with ⟨row, place, word, number⟩
    have read := congrArg (·[before.length]?) rows
    simp only [List.getElem?_map, place, Option.map_some, ← listed] at read
    rcases Option.map_eq_some_iff.mp read with ⟨line, here, read⟩
    refine ⟨line, row, here, read, word, fun other => (number other).trans ?_⟩
    rw [and_iff_right there.symm]
  · rw [listed, ← found, filterMap_listing]
    exact (List.pairwise_cons.mp (pairwise_numbers rising)).2
  · rw [output, recovered]
  · intro other otherSource text' same
    rw [written text', output] at same
    rw [← recovered, ← recovered]
    exact congrArg recover same

/-- A source with an empty line and a line of two tokens. -/
theorem listing_is_lossless_of_empty_line :
    Command.textOf ⟨(bytes "a\n\n== 1").toArray⟩ = some "a\n\n== 1" ∧
      listing "a\n\n== 1" =
        ["   1 IDENT      a", "   3 ==         ==", "   | INT        1", "   | EOF        "] ∧
      recover (Command.tokens.report false (.ok ⟨(bytes "a\n\n== 1").toArray⟩)).output =
        [(⟨.identifier, "a"⟩, 1), (⟨.equalEqual, "=="⟩, 3), (⟨.integer, "1"⟩, 3),
          (⟨.ending, ""⟩, 3)] := by
  have text := textOf_bytes "a\n\n== 1"
  have recovered := (listing_is_lossless text false).2.2.2.2.2.1
  have tokens : (tokensOf "a\n\n== 1").map (fun token => (token.word, token.span.line)) =
      [(⟨.identifier, "a"⟩, 1), (⟨.equalEqual, "=="⟩, 3), (⟨.integer, "1"⟩, 3),
        (⟨.ending, ""⟩, 3)] := by decide +kernel
  exact ⟨text, by decide +kernel, recovered.trans tokens⟩

end MonkeyLang
