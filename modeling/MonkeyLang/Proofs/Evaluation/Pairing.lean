import Mathlib.Logic.Relator

namespace MonkeyLang

/-!
# Numbers that are paired

Frames and functions are numbered in the order in which they are made.  Of two
runs that are compared, a frame of the one may stand for a frame with another
number of the other, and each side may have frames that stand for none.  A pairing
says which numbers belong together.  It also knows how many numbers were given out
on each side, so that the numbers that are given out next are paired with no
others, and can be paired with each other.
-/

/-- A one-to-one relation between some of the numbers below one bound and some of
those below another. -/
@[ext] structure Pairing where
  pairs : Nat -> Nat -> Prop
  bound : Nat
  bound' : Nat
  below : ∀ {number number'}, pairs number number' -> number < bound ∧ number' < bound'
  unique : Relator.BiUnique pairs

namespace Pairing

/-- The pairing of no numbers. -/
def empty (bound bound' : Nat) : Pairing where
  pairs _ _ := False
  bound := bound
  bound' := bound'
  below := False.elim
  unique := ⟨fun _ _ _ absurd _ => absurd.elim, fun _ _ _ absurd _ => absurd.elim⟩

/-- Every number below a bound paired with itself. -/
def identity (bound : Nat) : Pairing where
  pairs number number' := number = number' ∧ number < bound
  bound := bound
  bound' := bound
  below same := ⟨same.2, same.1 ▸ same.2⟩
  unique := ⟨fun _ _ _ first second => first.1.trans second.1.symm,
    fun _ _ _ first second => first.1.symm.trans second.1⟩

variable (pairing : Pairing)

/-- The pairs of which the first number has a property. -/
def restrict (kept : Nat -> Prop) : Pairing where
  pairs number number' := pairing.pairs number number' ∧ kept number
  bound := pairing.bound
  bound' := pairing.bound'
  below pair := pairing.below pair.1
  unique := ⟨fun _ _ _ first second => pairing.unique.1 first.1 second.1,
    fun _ _ _ first second => pairing.unique.2 first.1 second.1⟩

/-- The same pairs, after numbers were given out that are not paired. -/
def widen {bound bound' : Nat} (wider : pairing.bound ≤ bound) (wider' : pairing.bound' ≤ bound') :
    Pairing where
  pairs := pairing.pairs
  bound := bound
  bound' := bound'
  below pair :=
    ⟨Nat.lt_of_lt_of_le (pairing.below pair).1 wider,
      Nat.lt_of_lt_of_le (pairing.below pair).2 wider'⟩
  unique := pairing.unique

/-- The numbers that are given out next on the two sides are paired in order. -/
def grow (count : Nat) : Pairing where
  pairs number number' := pairing.pairs number number' ∨
    ∃ step, step < count ∧ number = pairing.bound + step ∧ number' = pairing.bound' + step
  bound := pairing.bound + count
  bound' := pairing.bound' + count
  below := by
    rintro number number' (old | ⟨step, within, rfl, rfl⟩)
    · have := pairing.below old
      omega
    · omega
  unique := by
    constructor
    · rintro number other number' (old | ⟨step, _, rfl, rfl⟩) (old' | ⟨step', _, rfl, same⟩)
      · exact pairing.unique.1 old old'
      · have := pairing.below old
        omega
      · have := pairing.below old'
        omega
      · omega
    · rintro number number' other' (old | ⟨step, _, rfl, rfl⟩) (old' | ⟨step', _, same, rfl⟩)
      · exact pairing.unique.2 old old'
      · have := pairing.below old
        omega
      · have := pairing.below old'
        omega
      · omega

variable {pairing}

theorem pairs_grow (count : Nat) {number number' : Nat} (old : pairing.pairs number number') :
    (pairing.grow count).pairs number number' := .inl old

theorem pairs_grow_next {step count : Nat} (within : step < count) :
    (pairing.grow count).pairs (pairing.bound + step) (pairing.bound' + step) :=
  .inr ⟨step, within, rfl, rfl⟩

/-- A pair of a grown pairing is an old one, or is beyond both bounds. -/
theorem pairs_or_le_of_grow {count number number' : Nat}
    (pair : (pairing.grow count).pairs number number') :
    pairing.pairs number number' ∨ (pairing.bound ≤ number ∧ pairing.bound' ≤ number') := by
  rcases pair with old | ⟨step, _, rfl, rfl⟩
  · exact .inl old
  · exact .inr ⟨Nat.le_add_right _ _, Nat.le_add_right _ _⟩

/-- One more number on both sides is paired with the other. -/
theorem pairs_grow_one {number number' : Nat} (pair : (pairing.grow 1).pairs number number') :
    (pairing.pairs number number' ∧ number ≠ pairing.bound ∧ number' ≠ pairing.bound') ∨
      (number = pairing.bound ∧ number' = pairing.bound') := by
  rcases pair with old | ⟨step, within, rfl, rfl⟩
  · have below := pairing.below old
    exact .inl ⟨old, Nat.ne_of_lt below.1, Nat.ne_of_lt below.2⟩
  · obtain rfl : step = 0 := Nat.lt_one_iff.mp within
    exact .inr ⟨rfl, rfl⟩

@[simp] theorem grow_zero : pairing.grow 0 = pairing := by
  ext number number'
  · exact ⟨fun pair => pair.resolve_right (by simp), .inl⟩
  · rfl
  · rfl

@[simp] theorem grow_grow (first second : Nat) :
    (pairing.grow first).grow second = pairing.grow (first + second) := by
  ext number number'
  · constructor
    · rintro ((old | ⟨step, within, rfl, rfl⟩) | ⟨step, within, rfl, rfl⟩)
      · exact .inl old
      · exact .inr ⟨step, Nat.lt_add_right _ within, rfl, rfl⟩
      · exact .inr ⟨first + step, Nat.add_lt_add_left within _, Nat.add_assoc .., Nat.add_assoc ..⟩
    · rintro (old | ⟨step, within, rfl, rfl⟩)
      · exact .inl (.inl old)
      · by_cases early : step < first
        · exact .inl (.inr ⟨step, early, rfl, rfl⟩)
        · refine .inr ⟨step - first, by omega, ?_, ?_⟩ <;> dsimp only [grow] <;> omega
  · exact Nat.add_assoc ..
  · exact Nat.add_assoc ..

theorem grow_identity (bound count : Nat) : (identity bound).grow count = identity (bound + count) := by
  ext number number'
  · constructor
    · rintro (⟨rfl, below⟩ | ⟨step, within, rfl, rfl⟩)
      · exact ⟨rfl, Nat.lt_add_right _ below⟩
      · exact ⟨rfl, Nat.add_lt_add_left within _⟩
    · rintro ⟨rfl, below⟩
      by_cases old : number < bound
      · exact .inl ⟨rfl, old⟩
      · exact .inr ⟨number - bound, by omega, by dsimp only [identity]; omega,
          by dsimp only [identity]; omega⟩
  · rfl
  · rfl

end Pairing

end MonkeyLang
