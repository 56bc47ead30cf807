import Lookalike.Number.Binary64
import Mathlib.Algebra.Order.Ring.Rat
import Mathlib.Order.WithBot

/-!
# The order of floating-point numbers

Numbers other than NaN are ordered as extended rationals: the infinities at the two ends
and both zeros at one place.  What is known of that order carries over to comparisons.
-/

namespace Lookalike

namespace Binary64

/-- A rational among the extended ones. -/
def placeOf (value : ℚ) : WithBot (WithTop ℚ) :=
  ((value : WithTop ℚ) : WithBot (WithTop ℚ))

@[simp]
theorem bot_lt_placeOf (value : ℚ) : ⊥ < placeOf value :=
  WithBot.bot_lt_coe (value : WithTop ℚ)

@[simp]
theorem placeOf_lt_top (value : ℚ) : placeOf value < ⊤ :=
  WithBot.coe_lt_coe.mpr (WithTop.coe_lt_top value)

@[simp]
theorem placeOf_lt_placeOf {low high : ℚ} : placeOf low < placeOf high ↔ low < high := by
  rw [placeOf, placeOf, WithBot.coe_lt_coe, WithTop.coe_lt_coe]

@[simp]
theorem placeOf_inj {left right : ℚ} : placeOf left = placeOf right ↔ left = right := by
  rw [placeOf, placeOf, WithBot.coe_inj, WithTop.coe_inj]

/-- The place of a number among the extended rationals; NaN has none. -/
def extended : Binary64 → Option (WithBot (WithTop ℚ))
  | nan => none
  | infinity true => some ⊥
  | infinity false => some ⊤
  | negativeZero => some (placeOf 0)
  | finite value => some (placeOf value)

@[simp]
theorem lt_finite (left right : Rat) : (finite left).lt (finite right) = decide (left < right) :=
  rfl

theorem lt_iff {left right : Binary64} :
    left.lt right = true ↔
      ∃ low ∈ left.extended, ∃ high ∈ right.extended, low < high := by
  rcases left with _ | (_ | _) | _ | left <;> rcases right with _ | (_ | _) | _ | right <;>
    simp [lt, extended, toRat?, (placeOf_lt_top _).not_gt] <;>
    exact decide_eq_true_iff

theorem numEq_iff {left right : Binary64} :
    left.numEq right = true ↔ ∃ place ∈ left.extended, place ∈ right.extended := by
  rcases left with _ | (_ | _) | _ | left <;> rcases right with _ | (_ | _) | _ | right <;>
    simp [numEq, extended, toRat?, (bot_lt_placeOf _).ne, (bot_lt_placeOf _).ne',
      (placeOf_lt_top _).ne, (placeOf_lt_top _).ne'] <;>
    grind

theorem le_iff {left right : Binary64} :
    left.le right = true ↔
      ∃ low ∈ left.extended, ∃ high ∈ right.extended, low ≤ high := by
  simp only [le, Bool.or_eq_true, lt_iff, numEq_iff]
  constructor
  · rintro (⟨low, lowMem, high, highMem, lowLt⟩ | ⟨place, placeMem, placeMem'⟩)
    · exact ⟨low, lowMem, high, highMem, lowLt.le⟩
    · exact ⟨place, placeMem, place, placeMem', le_rfl⟩
  · rintro ⟨low, lowMem, high, highMem, lowLe⟩
    rcases lowLe.lt_or_eq with lowLt | rfl
    · exact Or.inl ⟨low, lowMem, high, highMem, lowLt⟩
    · exact Or.inr ⟨low, lowMem, highMem⟩

@[simp]
theorem le_finite {left right : Rat} :
    (finite left).le (finite right) = true ↔ left ≤ right := by
  rw [le_iff]
  simp [extended, le_iff_lt_or_eq]

theorem le_of_lt_of_le {left middle right : Binary64} (lt : left.lt middle = true)
    (le : middle.le right = true) : left.le right = true := by
  rw [lt_iff] at lt
  rw [le_iff] at le ⊢
  obtain ⟨low, lowMem, place, placeMem, lowLt⟩ := lt
  obtain ⟨place', placeMem', high, highMem, leHigh⟩ := le
  obtain rfl := Option.mem_unique placeMem placeMem'
  exact ⟨low, lowMem, high, highMem, (lowLt.trans_le leHigh).le⟩

theorem le_trans {left middle right : Binary64} (le : left.le middle = true)
    (le' : middle.le right = true) : left.le right = true := by
  rw [le_iff] at le le' ⊢
  obtain ⟨low, lowMem, place, placeMem, lowLe⟩ := le
  obtain ⟨place', placeMem', high, highMem, leHigh⟩ := le'
  obtain rfl := Option.mem_unique placeMem placeMem'
  exact ⟨low, lowMem, high, highMem, lowLe.trans leHigh⟩

theorem exists_mem_extended {number : Binary64} (ne : number ≠ nan) :
    ∃ place, place ∈ number.extended := by
  rcases number with _ | (_ | _) | _ | value
  · exact absurd rfl ne
  all_goals exact ⟨_, rfl⟩

/-- The order is total, NaN apart. -/
theorem lt_iff_not_le {left right : Binary64} (leftNe : left ≠ nan) (rightNe : right ≠ nan) :
    left.lt right = true ↔ ¬right.le left = true := by
  obtain ⟨low, lowMem⟩ := exists_mem_extended leftNe
  obtain ⟨high, highMem⟩ := exists_mem_extended rightNe
  rw [lt_iff, le_iff]
  constructor
  · rintro ⟨low, lowMem, high, highMem, lt⟩ ⟨high', highMem', low', lowMem', le⟩
    obtain rfl := Option.mem_unique lowMem lowMem'
    obtain rfl := Option.mem_unique highMem highMem'
    exact absurd lt le.not_gt
  · intro notLe
    refine ⟨low, lowMem, high, highMem, lt_of_not_ge fun le => notLe ?_⟩
    exact ⟨high, highMem, low, lowMem, le⟩

end Binary64

end Lookalike
