namespace MonkeyLang

/-!
# Integers of the language

The language computes with signed integers of 64 bits.  A result that leaves
their range is never cut down to fit: whether an integer is in the range is
asked of its exact value.
-/

/-- The integer of 64 bits with a given value, where there is one. -/
def represent? (value : Int) : Option Int64 :=
  if -9223372036854775808 ≤ value ∧ value ≤ 9223372036854775807 then some (Int64.ofInt value)
  else none

theorem toInt_of_represent? {value : Int} {integer : Int64}
    (found : represent? value = some integer) : integer.toInt = value := by
  unfold represent? at found
  split at found
  · next bounds =>
      cases found
      exact Int64.toInt_ofInt_of_le (by omega) (by omega)
  · cases found

theorem represent?_toInt (integer : Int64) : represent? integer.toInt = some integer := by
  unfold represent?
  have low := integer.le_toInt
  have high := integer.toInt_lt
  rw [if_pos ⟨by omega, by omega⟩, Int64.ofInt_toInt]

theorem represent?_eq_none_iff (value : Int) :
    represent? value = none ↔ value < -9223372036854775808 ∨ 9223372036854775807 < value := by
  unfold represent?
  split <;> simp <;> omega

end MonkeyLang
