-- SUMMARY: Rounding in an ordered field, down and up to a multiple of a step.
import Mathlib.Algebra.Group.Subgroup.ZPowers.Basic
import Mathlib.Algebra.Order.Floor.Ring
import Mathlib.Algebra.Order.Field.Basic
import Mathlib.Tactic.Ring
import Mathlib.Tactic.Linarith

/-!
# Grids

The multiples of a step are the points of a grid. A number is rounded down to
the greatest point that is not above it, or up to the least that is not below.
-/

variable {α : Type*} [Field α] [LinearOrder α] [IsStrictOrderedRing α] [FloorRing α]

namespace Grid

/-- The multiples of the step. -/
def points (step : α) : AddSubgroup α := AddSubgroup.zmultiples step

def down (step x : α) : α := ⌊x / step⌋ * step

def up (step x : α) : α := ⌈x / step⌉ * step

variable {step x y : α}

omit [LinearOrder α] [IsStrictOrderedRing α] [FloorRing α] in
theorem mem_points : x ∈ points step ↔ ∃ k : ℤ, k * step = x := by
  simp only [points, AddSubgroup.mem_zmultiples_iff, zsmul_eq_mul]

omit [IsStrictOrderedRing α] in
theorem down_mem (step x : α) : down step x ∈ points step := mem_points.mpr ⟨_, rfl⟩

omit [IsStrictOrderedRing α] in
theorem up_mem (step x : α) : up step x ∈ points step := mem_points.mpr ⟨_, rfl⟩

/-- Rounding up is rounding down of the negated number, negated. -/
theorem up_eq_neg_down (step x : α) : up step x = -down step (-x) := by
  rw [up, down, neg_div, Int.floor_neg, Int.cast_neg, neg_mul, neg_neg]

section
variable (hstep : 0 < step)
include hstep

theorem down_le (x : α) : down step x ≤ x := (le_div_iff₀ hstep).mp (Int.floor_le _)

theorem le_up (x : α) : x ≤ up step x := (div_le_iff₀ hstep).mp (Int.le_ceil _)

theorem lt_down_add (x : α) : x < down step x + step := by
  have h := (div_lt_iff₀ hstep).mp (Int.lt_floor_add_one (x / step))
  rwa [add_mul, one_mul] at h

theorem isGreatest_down (x : α) : IsGreatest {y | y ∈ points step ∧ y ≤ x} (down step x) := by
  refine ⟨⟨down_mem step x, down_le hstep x⟩, ?_⟩
  rintro _ ⟨hmem, hle⟩
  obtain ⟨k, rfl⟩ := mem_points.mp hmem
  have hk : k ≤ ⌊x / step⌋ := Int.le_floor.mpr ((le_div_iff₀ hstep).mpr hle)
  exact mul_le_mul_of_nonneg_right (Int.cast_le.mpr hk) hstep.le

theorem isLeast_up (x : α) : IsLeast {y | y ∈ points step ∧ x ≤ y} (up step x) := by
  refine ⟨⟨up_mem step x, le_up hstep x⟩, ?_⟩
  rintro _ ⟨hmem, hle⟩
  obtain ⟨k, rfl⟩ := mem_points.mp hmem
  have hk : ⌈x / step⌉ ≤ k := Int.ceil_le.mpr ((div_le_iff₀ hstep).mpr hle)
  exact mul_le_mul_of_nonneg_right (Int.cast_le.mpr hk) hstep.le

theorem le_down_iff (hy : y ∈ points step) : y ≤ down step x ↔ y ≤ x :=
  ⟨fun h => h.trans (down_le hstep x), fun h => (isGreatest_down hstep x).2 ⟨hy, h⟩⟩

theorem up_le_iff (hy : y ∈ points step) : up step x ≤ y ↔ x ≤ y :=
  ⟨fun h => (le_up hstep x).trans h, fun h => (isLeast_up hstep x).2 ⟨hy, h⟩⟩

/-- The next point of the grid is one step away. -/
theorem add_le_iff_lt (hx : x ∈ points step) (hy : y ∈ points step) : x + step ≤ y ↔ x < y := by
  obtain ⟨k, rfl⟩ := mem_points.mp hx
  obtain ⟨m, rfl⟩ := mem_points.mp hy
  rw [← add_one_mul, mul_le_mul_iff_left₀ hstep, mul_lt_mul_iff_left₀ hstep, Int.cast_lt,
    ← Int.add_one_le_iff]
  exact_mod_cast Iff.rfl

theorem lt_up_iff (hy : y ∈ points step) : y < up step x ↔ y < x := by
  rw [← not_le, up_le_iff hstep hy, not_le]

theorem down_lt_iff (hy : y ∈ points step) : down step x < y ↔ x < y := by
  rw [← not_le, le_down_iff hstep hy, not_le]

theorem down_mono : Monotone (down step) := by
  intro x y hxy
  exact (le_down_iff hstep (down_mem step x)).mpr ((down_le hstep x).trans hxy)

theorem up_mono : Monotone (up step) := by
  intro x y hxy
  exact (up_le_iff hstep (up_mem step y)).mpr (hxy.trans (le_up hstep y))

/-- The two roundings are at most one step apart. -/
theorem up_le_down_add (x : α) : up step x ≤ down step x + step := by
  refine (up_le_iff hstep (add_mem (down_mem step x) ?_)).mpr (lt_down_add hstep x).le
  exact AddSubgroup.mem_zmultiples step

theorem down_eq_self_iff : down step x = x ↔ x ∈ points step := by
  constructor
  · intro h
    rw [← h]
    exact down_mem step x
  · intro h
    exact le_antisymm (down_le hstep x) ((le_down_iff hstep h).mpr le_rfl)

theorem up_eq_self_iff : up step x = x ↔ x ∈ points step := by
  rw [up_eq_neg_down, neg_eq_iff_eq_neg, down_eq_self_iff hstep, neg_mem_iff]

/-- The two roundings agree exactly on the points of the grid. -/
theorem down_eq_up_iff : down step x = up step x ↔ x ∈ points step := by
  constructor
  · intro h
    have hself : down step x = x :=
      le_antisymm (down_le hstep x) (h ▸ le_up hstep x)
    exact (down_eq_self_iff hstep).mp hself
  · intro h
    rw [(down_eq_self_iff hstep).mpr h, (up_eq_self_iff hstep).mpr h]

end

end Grid
