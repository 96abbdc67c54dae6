import MonkeyLang.Proofs.Syntax.Rereading

namespace MonkeyLang

open Text

/-!
# Reading the canonical text

The canonical text of a writable tree is read as the words of the tree.  There is
one lemma for each form of tree, which leaves open how the parts are written.
Each follows its text from left to right: a fixed symbol or keyword, a part of the
tree, the next fixed symbol.  A run of letters or digits can only stand at the end
of a part, and each part is followed by a blank or a symbol.

The one symbol that could take in something of the next part is the exclamation
mark, so it has to be known that no expression starts with an equals sign.  This
follows from what its words are read as.
-/

/-! ## What lets a run stop -/

namespace Apart

theorem blank (rest : List Char) : Apart (' ' :: rest) := of_isBlank rfl rest

theorem comma (rest : List Char) : Apart (',' :: rest) := of_ofSymbol? rfl rest

theorem semicolon (rest : List Char) : Apart (';' :: rest) := of_ofSymbol? rfl rest

theorem opening (rest : List Char) : Apart ('(' :: rest) := of_ofSymbol? rfl rest

theorem closing (rest : List Char) : Apart (')' :: rest) := of_ofSymbol? rfl rest

end Apart

/-! ## Texts that are read as certain words -/

/-- Whether a text is read as certain words in front of everything that lets the
run at its end stop. -/
def Spells (text : String) (words : List Word) : Prop :=
  ∀ behind, Apart behind -> wordsOf (text.toList ++ behind) = words ++ wordsOf behind

/-- Whether a text is read as certain words whatever stands behind it. -/
def SpellsAnywhere (text : String) (words : List Word) : Prop :=
  ∀ behind, wordsOf (text.toList ++ behind) = words ++ wordsOf behind

namespace Spells

theorem of_anywhere {text : String} {words : List Word} (anywhere : SpellsAnywhere text words) :
    Spells text words := fun behind _ => anywhere behind

theorem letters {run : String} (shape : IsRun isLetter run) : Spells run [.letters run] := by
  intro behind apart
  exact wordsOf_letters shape apart

theorem digits {run : String} (shape : IsRun Char.isDigit run) : Spells run [.digits run] := by
  intro behind apart
  exact wordsOf_digits shape apart

/-- Texts with commas between them are read one by one. -/
theorem separated {texts : List String} {parts : List (List Word)}
    (each : List.Forall₂ Spells texts parts) :
    Spells (Text.separated ", " texts) (separatedWords parts) := by
  induction each with
  | nil => exact fun _ _ => rfl
  | @cons text words texts parts first others ih =>
      cases others with
      | nil => exact first
      | cons next more =>
          intro behind apart
          simp only [Text.separated, separatedWords, String.toList_append,
            String.reduceToList, List.append_assoc, List.cons_append, List.nil_append]
          rw [first _ (.comma _), wordsOf_symbol ',' rfl, wordsOf_blank rfl]
          exact congrArg (words ++ .symbol ',' :: ·) (ih behind apart)

end Spells

/-! ## Operators and keywords -/

/-- A keyword is read as itself in front of a blank or a symbol. -/
theorem wordsOf_keyword (keyword : String) {type : TokenType}
    (known : TokenType.ofKeyword? keyword = some type) {behind : List Char}
    (apart : Apart behind) :
    wordsOf (keyword.toList ++ behind) = Word.letters keyword :: wordsOf behind :=
  wordsOf_letters (.of_ofKeyword? known) apart

theorem BinaryOperator.wordsOf_text (operator : BinaryOperator) (rest : List Char) :
    wordsOf (operator.text.toList ++ ' ' :: rest) = operator.word :: wordsOf rest := by
  rw [← @wordsOf_blank ' ' rfl rest]
  cases operator with
  | equal => exact wordsOf_equalEqual _
  | notEqual => exact wordsOf_bangEqual _
  | _ => exact wordsOf_symbol _ rfl _

theorem UnaryOperator.wordsOf_text (operator : UnaryOperator) {rest : List Char}
    (alone : rest.head? ≠ some '=') :
    wordsOf (operator.text.toList ++ rest) = operator.word :: wordsOf rest := by
  cases operator with
  | not => exact wordsOf_bang alone
  | negate => exact wordsOf_symbol '-' rfl rest

/-! ## How an expression starts -/

/-- A text that starts with an equals sign does not start as an expression does. -/
theorem wordsOf_equals (rest : List Char) :
    ∃ word later, wordsOf ('=' :: rest) = word :: later ∧ word.type.startsExpression = false := by
  by_cases completed : rest.head? = some '='
  · rcases List.head?_eq_some_iff.1 completed with ⟨later, rfl⟩
    exact ⟨_, _, wordsOf_equalEqual later, rfl⟩
  · exact ⟨_, _, wordsOf_assign completed, rfl⟩

/-- No text of an expression starts with an equals sign, which an exclamation mark in
front of it would take in. -/
theorem Expression.IsReadWhere.head?_ne {tree : Expression} {precedence : Precedence}
    {words : List Word} (reads : tree.IsReadWhere precedence.Bounds words) {text : String}
    (spells : Spells text words) {behind : List Char} (apart : Apart behind) :
    (text.toList ++ behind).head? ≠ some '=' := by
  intro equals
  rcases List.head?_eq_some_iff.1 equals with ⟨rest, shape⟩
  rcases reads.starts with ⟨word, later, rfl, begins⟩
  rcases wordsOf_equals rest with ⟨other, more, first, differs⟩
  have whole := spells behind apart
  rw [shape, first, List.cons_append] at whole
  cases whole
  rw [begins] at differs
  cases differs

/-! ## Forms of expressions and statements -/

theorem spells_renderParameters {parameters : List Identifier}
    (named : ∀ parameter ∈ parameters, IsName parameter.name) :
    Spells (renderParameters parameters) (parameterWords parameters) := by
  apply Spells.separated
  rw [List.forall₂_map_left_iff, List.forall₂_map_right_iff, List.forall₂_same]
  intro parameter member
  exact Spells.letters (named parameter member).toIsRun

section

variable {text text' : String} {words words' : List Word}

theorem Spells.unary (operator : UnaryOperator) (inner : Spells text words)
    (alone : ∀ behind, Apart behind -> (text.toList ++ behind).head? ≠ some '=') :
    Spells (operator.text ++ text) (operator.word :: words) := by
  intro behind apart
  rw [String.toList_append, List.append_assoc, operator.wordsOf_text (alone behind apart),
    inner behind apart, List.cons_append]

theorem Spells.binary (operator : BinaryOperator) (first : Spells text words)
    (second : Spells text' words') :
    Spells (text ++ " " ++ operator.text ++ " " ++ text') (words ++ operator.word :: words') := by
  intro behind apart
  simp only [String.toList_append, String.reduceToList, List.append_assoc, List.cons_append,
    List.nil_append]
  rw [first _ (.blank _), wordsOf_blank rfl, operator.wordsOf_text, second behind apart]

namespace SpellsAnywhere

theorem append (first : SpellsAnywhere text words) (second : SpellsAnywhere text' words') :
    SpellsAnywhere (text ++ text') (words ++ words') := by
  intro behind
  rw [String.toList_append, List.append_assoc, first, second, List.append_assoc]

theorem grouped (inner : Spells text words) :
    SpellsAnywhere ("(" ++ text ++ ")") (.symbol '(' :: (words ++ [.symbol ')'])) := by
  intro behind
  simp only [String.toList_append, String.reduceToList, List.append_assoc, List.cons_append,
    List.nil_append]
  rw [wordsOf_symbol '(' rfl, inner _ (.closing _), wordsOf_symbol ')' rfl]

theorem conditional (test : Spells text words) (branch : SpellsAnywhere text' words') :
    SpellsAnywhere ("if (" ++ text ++ ") " ++ text')
      (.letters "if" :: .symbol '(' :: (words ++ .symbol ')' :: words')) := by
  intro behind
  simp only [String.toList_append, List.append_assoc]
  change wordsOf ("if".toList ++ ' ' :: '(' :: (text.toList ++
    ')' :: ' ' :: (text'.toList ++ behind))) = _
  rw [wordsOf_keyword "if" rfl (.blank _), wordsOf_blank rfl, wordsOf_symbol '(' rfl,
    test _ (.closing _), wordsOf_symbol ')' rfl, wordsOf_blank rfl, branch]
  simp

/-- The branch behind `else` goes on where a conditional without it ends. -/
theorem otherwise (first : SpellsAnywhere text words) (other : SpellsAnywhere text' words') :
    SpellsAnywhere (text ++ " else " ++ text') (words ++ .letters "else" :: words') := by
  intro behind
  simp only [String.toList_append, List.append_assoc]
  change wordsOf (text.toList ++ ' ' :: ("else".toList ++ ' ' :: (text'.toList ++ behind))) = _
  rw [first, wordsOf_blank rfl, wordsOf_keyword "else" rfl (.blank _), wordsOf_blank rfl, other]
  rfl

theorem function {parameters : List Identifier}
    (named : ∀ parameter ∈ parameters, IsName parameter.name) (body : SpellsAnywhere text words) :
    SpellsAnywhere ("fn(" ++ renderParameters parameters ++ ") " ++ text)
      (.letters "fn" :: .symbol '(' :: (parameterWords parameters ++ .symbol ')' :: words)) := by
  intro behind
  have names := spells_renderParameters named
  simp only [String.toList_append, List.append_assoc]
  change wordsOf ("fn".toList ++ '(' :: ((renderParameters parameters).toList ++
    ')' :: ' ' :: (text.toList ++ behind))) = _
  rw [wordsOf_keyword "fn" rfl (.opening _), wordsOf_symbol '(' rfl, names _ (.closing _),
    wordsOf_symbol ')' rfl, wordsOf_blank rfl, body]
  simp

theorem call {texts : List String} {parts : List (List Word)} (called : Spells text words)
    (each : List.Forall₂ Spells texts parts) :
    SpellsAnywhere (text ++ "(" ++ separated ", " texts ++ ")")
      (words ++ .symbol '(' :: (separatedWords parts ++ [.symbol ')'])) := by
  intro behind
  have listed := Spells.separated each
  simp only [String.toList_append, String.reduceToList, List.append_assoc, List.cons_append,
    List.nil_append]
  rw [called _ (.opening _), wordsOf_symbol '(' rfl, listed _ (.closing _),
    wordsOf_symbol ')' rfl]

theorem binding {name : String} (shape : IsName name) (bound : Spells text words) :
    SpellsAnywhere ("let " ++ name ++ " = " ++ text ++ ";")
      (.letters "let" :: .letters name :: ⟨.assign, "="⟩ :: (words ++ [.symbol ';'])) := by
  intro behind
  simp only [String.toList_append, List.append_assoc]
  change wordsOf ("let".toList ++ ' ' :: (name.toList ++ ' ' :: '=' :: ' ' ::
    (text.toList ++ ';' :: behind))) = _
  rw [wordsOf_keyword "let" rfl (.blank _), wordsOf_blank rfl,
    wordsOf_letters shape.toIsRun (.blank _), wordsOf_blank rfl, wordsOf_assign (by simp),
    wordsOf_blank rfl, bound _ (.semicolon _), wordsOf_symbol ';' rfl]
  simp

theorem bareReturn : SpellsAnywhere "return;" [.letters "return", .symbol ';'] := by
  intro behind
  change wordsOf ("return".toList ++ ';' :: behind) = _
  rw [wordsOf_keyword "return" rfl (.semicolon _), wordsOf_symbol ';' rfl]
  rfl

theorem returning (returned : Spells text words) :
    SpellsAnywhere ("return " ++ text ++ ";") (.letters "return" :: (words ++ [.symbol ';'])) := by
  intro behind
  simp only [String.toList_append, List.append_assoc]
  change wordsOf ("return".toList ++ ' ' :: (text.toList ++ ';' :: behind)) = _
  rw [wordsOf_keyword "return" rfl (.blank _), wordsOf_blank rfl, returned _ (.semicolon _),
    wordsOf_symbol ';' rfl]
  simp

/-- A semicolon lets every run in front of it stop. -/
theorem terminated (stated : Spells text words) :
    SpellsAnywhere (text ++ "; ") (words ++ [.symbol ';']) := by
  intro behind
  simp only [String.toList_append, String.reduceToList, List.append_assoc, List.cons_append,
    List.nil_append]
  rw [stated _ (.semicolon _), wordsOf_symbol ';' rfl, wordsOf_blank rfl]

theorem spaced (stated : SpellsAnywhere text words) : SpellsAnywhere (text ++ " ") words := by
  intro behind
  simp only [String.toList_append, String.reduceToList, List.append_assoc, List.cons_append,
    List.nil_append]
  rw [stated, wordsOf_blank rfl]

theorem block (inside : SpellsAnywhere text words) :
    SpellsAnywhere ("\x7b " ++ text ++ "\x7d")
      (.symbol '\x7b' :: (words ++ [.symbol '\x7d'])) := by
  intro behind
  simp only [String.toList_append, String.reduceToList, List.append_assoc, List.cons_append,
    List.nil_append]
  rw [wordsOf_symbol '\x7b' rfl, wordsOf_blank rfl, inside, wordsOf_symbol '\x7d' rfl]

end SpellsAnywhere

end

/-! ## Trees -/

mutual

/-- The text of a writable expression is read as its words. -/
theorem Expression.spells : ∀ tree : Expression, tree.Writable -> Spells tree.render tree.words
  | .identifier name, writable => by
      rw [Expression.Writable] at writable
      exact .letters writable.toIsRun
  | .integer _ value, writable => by
      rw [Expression.Writable] at writable
      rw [Expression.render, Expression.words, decimal_of_nonneg writable]
      exact .digits (.natural _)
  | .boolean _ true, _ => .letters (@IsRun.of_ofKeyword? "true" _ rfl)
  | .boolean _ false, _ => .letters (@IsRun.of_ofKeyword? "false" _ rfl)
  | .unary _ operator operand, writable => by
      rw [Expression.Writable] at writable
      rw [Expression.render, Expression.words, @String.append_assoc "("]
      have spells := operand.spells writable
      have reads := operand.isReadWhere_words writable Precedence.unary.Bounds
      exact .of_anywhere (.grouped (spells.unary operator fun _ => reads.head?_ne spells))
  | .binary _ left operator right, writable => by
      rw [Expression.Writable] at writable
      have inner := (left.spells writable.1).binary operator (right.spells writable.2)
      have grouped := SpellsAnywhere.grouped inner
      rw [List.append_assoc] at grouped
      simp only [Expression.render, Expression.words, String.append_assoc] at grouped ⊢
      exact .of_anywhere grouped
  | .conditional _ condition consequence none, writable => by
      rw [Expression.Writable] at writable
      rw [Expression.render, Expression.words]
      exact .of_anywhere (.conditional (condition.spells writable.1)
        (consequence.spells writable.2))
  | .conditional _ condition consequence (some alternative), writable => by
      rw [Expression.Writable] at writable
      have first := SpellsAnywhere.conditional (condition.spells writable.1)
        (consequence.spells writable.2.1)
      have whole := first.otherwise (alternative.spells writable.2.2)
      rw [List.cons_append, List.cons_append, List.append_assoc] at whole
      rw [Expression.render, Expression.words]
      exact .of_anywhere whole
  | .function _ parameters body, writable => by
      rw [Expression.Writable] at writable
      rw [Expression.render, Expression.words]
      exact .of_anywhere (.function writable.1 (body.spells writable.2))
  | .call _ callee arguments, writable => by
      rw [Expression.Writable] at writable
      rw [Expression.render, Expression.words]
      exact .of_anywhere (.call (callee.spells writable.1)
        (spells_of_allWritable arguments writable.2))

theorem spells_of_allWritable : ∀ trees : List Expression, AllWritable trees ->
    List.Forall₂ Spells (renderAll trees) (wordsOfAll trees)
  | [], _ => .nil
  | tree :: later, writable => by
      rw [AllWritable] at writable
      exact .cons (tree.spells writable.1) (spells_of_allWritable later writable.2)

/-- Only behind an expression does anything have to let a run stop, as every other
statement ends in a semicolon. -/
theorem Statement.wordsOf_render : ∀ tree : Statement, tree.Writable -> ∀ behind,
    (tree.isExpression = true -> Apart behind) ->
    wordsOf (tree.render.toList ++ behind) = tree.words ++ wordsOf behind
  | .binding _ name value, writable => by
      intro behind _
      rw [Statement.Writable] at writable
      rw [Statement.render, Statement.words]
      exact SpellsAnywhere.binding writable.1 (value.spells writable.2) behind
  | .returning _ none, _ => by
      intro behind _
      rw [Statement.render, Statement.words]
      exact SpellsAnywhere.bareReturn behind
  | .returning _ (some value), writable => by
      intro behind _
      rw [Statement.Writable] at writable
      rw [Statement.render, Statement.words]
      exact SpellsAnywhere.returning (value.spells writable) behind
  | .expression _ value, writable => by
      intro behind apart
      rw [Statement.Writable] at writable
      exact value.spells writable behind (apart rfl)

theorem Block.spells : ∀ tree : Block, tree.Writable -> SpellsAnywhere tree.render tree.words
  | .mk _ statements, writable => by
      rw [Block.Writable] at writable
      rw [Block.render, Block.words]
      exact .block (spells_renderInBlock statements writable)

theorem spells_renderInBlock : ∀ trees : List Statement, StatementsWritable trees ->
    SpellsAnywhere (renderInBlock trees) (wordsInBlock trees)
  | [], _ => fun _ => rfl
  | tree :: later, writable => by
      rw [StatementsWritable] at writable
      have stated := tree.wordsOf_render writable.1
      have others := spells_renderInBlock later writable.2
      rw [renderInBlock, wordsInBlock, ← List.append_assoc]
      cases kind : tree.isExpression with
      | true =>
          have first := SpellsAnywhere.terminated fun behind apart => stated behind fun _ => apart
          exact first.append others
      | false =>
          have first := SpellsAnywhere.spaced fun behind => stated behind (by simp [kind])
          rw [if_neg Bool.false_ne_true, if_neg Bool.false_ne_true, List.append_nil]
          exact first.append others

end

/-- The text of a writable program is read as its words. -/
theorem wordsOf_renderStatements {trees : List Statement} (writable : StatementsWritable trees) :
    wordsOf (renderStatements trees).toList = wordsOfStatements trees := by
  induction trees with
  | nil => exact wordsOf_nil
  | cons tree later ih =>
      rw [StatementsWritable] at writable
      have first := tree.wordsOf_render writable.1
      have others := ih writable.2
      cases later with
      | nil =>
          have whole := first [] fun _ => .nil
          rw [List.append_nil, wordsOf_nil, List.append_nil] at whole
          exact whole
      | cons next following =>
          cases kind : tree.isExpression with
          | true =>
              simp only [renderStatements, wordsOfStatements, kind, if_true,
                String.toList_append, String.reduceToList, List.append_assoc, List.cons_append,
                List.nil_append]
              rw [first _ fun _ => .semicolon _, wordsOf_symbol ';' rfl, others]
          | false =>
              simp only [renderStatements, wordsOfStatements, kind, if_false,
                Bool.false_eq_true, String.toList_append, String.reduceToList,
                List.append_assoc, List.nil_append]
              rw [first _ (by simp [kind]), others]

theorem Program.wordsOf_render {program : Program} (writable : program.Writable) :
    wordsOf program.render.toList = program.words :=
  wordsOf_renderStatements writable

end MonkeyLang
