namespace MonkeyLang
namespace Text

/-!
# Classes of characters

A class of characters is listed as closed ranges of code points, disjoint and
in increasing order.  The tables of the library are such lists, and the one
search below reads them all.
-/

/-- Closed ranges of code points, disjoint and in increasing order. -/
abbrev Ranges := List (Nat × Nat)

namespace Ranges

/-- Whether a code point lies in one of the ranges.  The ranges increase, so the
search ends at the first range that starts above the code point. -/
def contains : Ranges -> Nat -> Bool
  | [], _ => false
  | (low, high) :: later, point =>
      decide (low ≤ point) && (decide (point ≤ high) || contains later point)

/-- A code point that the search finds lies in a listed range. -/
theorem exists_range_of_contains (ranges : Ranges) (point : Nat)
    (found : ranges.contains point = true) :
    ∃ range ∈ ranges, range.1 ≤ point ∧ point ≤ range.2 := by
  induction ranges with
  | nil => simp [contains] at found
  | cons range later ih =>
      simp only [contains, Bool.and_eq_true, Bool.or_eq_true, decide_eq_true_eq] at found
      rcases found.2 with inside | further
      · exact ⟨range, List.mem_cons_self, found.1, inside⟩
      · obtain ⟨other, member, bounds⟩ := ih further
        exact ⟨other, List.mem_cons_of_mem _ member, bounds⟩

end Ranges

end Text
end MonkeyLang
