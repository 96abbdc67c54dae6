namespace MonkeyLang
namespace Text

/-!
# Columns of fixed width

A text shorter than its column is filled up with spaces on one side, and a
longer one is left as it is.
-/

/-- A number of spaces. -/
def spaces (count : Nat) : String := String.ofList (List.replicate count ' ')

/-- A text at the right end of a column. -/
def alignRight (width : Nat) (text : String) : String :=
  spaces (width - text.length) ++ text

/-- A text at the left end of a column. -/
def alignLeft (width : Nat) (text : String) : String :=
  text ++ spaces (width - text.length)

end Text
end MonkeyLang
