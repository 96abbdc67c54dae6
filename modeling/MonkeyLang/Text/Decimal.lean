namespace MonkeyLang
namespace Text

/-!
# Decimal numbers

Numbers are written with the fewest decimal digits and a minus sign in front of
negative ones.  They are read back from any number of digits, so leading zeros
are allowed there.
-/

/-- The decimal digits of a number, without leading zeros. -/
def digits (number : Nat) : List Char := Nat.toDigits 10 number

/-- The number that decimal digits stand for. -/
def ofDigits (characters : List Char) : Nat := Nat.ofDigitChars 10 characters 0

theorem ofDigits_digits (number : Nat) : ofDigits (digits number) = number :=
  Nat.ofDigitChars_toDigits (by decide) (by decide)

/-- The decimal text of a natural number. -/
def natural (number : Nat) : String := String.ofList (digits number)

/-- The decimal text of an integer. -/
def decimal : Int -> String
  | .ofNat number => natural number
  | .negSucc number => "-" ++ natural (number + 1)

/-- The integer that a text of digits stands for, which may have a sign in
front.  There is none where a digit is missing or anything else is written. -/
def ofDecimal? : List Char -> Option Int
  | '-' :: characters => (magnitude? characters).map fun number => -(number : Int)
  | '+' :: characters => (magnitude? characters).map fun number => (number : Int)
  | characters => (magnitude? characters).map fun number => (number : Int)
where
  magnitude? (characters : List Char) : Option Nat :=
    if characters ≠ [] ∧ characters.all Char.isDigit then some (ofDigits characters) else none

end Text
end MonkeyLang
