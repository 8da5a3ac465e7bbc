-- SUMMARY: Windows of time that are aligned to slots of a fixed length.
import Mathlib.Order.CompletePartialOrder
import Mathlib.Order.Interval.Set.Disjoint
import Mathlib.Data.Nat.Init

/-!
# Windows

Time is cut into slots of `P` units, so `t / P` is the number of the slot that
`t` lies in. The window of `t` starts `back` slots before that of `t` and is
`len` slots long.
-/

namespace Window

/-- The times in the window of `t`. Its end is not one of them. -/
def times (P back len t : ℕ) : Set ℕ := Set.Ico ((t / P - back) * P) ((t / P - back + len) * P)

variable {P back len : ℕ}

theorem times_nonempty (hP : 0 < P) (hlen : 0 < len) (t : ℕ) : (times P back len t).Nonempty := by
  apply Set.nonempty_Ico.mpr
  exact Nat.mul_lt_mul_of_pos_right (Nat.lt_add_of_pos_right hlen) hP

/-- An earlier time is in the window of `t` exactly if it is not before its start,
as long as the window reaches over the slot of `t`. -/
theorem mem_times_iff (hP : 0 < P) (hlen : back < len) {t u : ℕ} (hut : u ≤ t) :
    u ∈ times P back len t ↔ (t / P - back) * P ≤ u := by
  refine and_iff_left ?_
  calc u ≤ t := hut
    _ < (t / P + 1) * P := Nat.lt_mul_of_div_lt (Nat.lt_succ_self _) hP
    _ ≤ (t / P - back + len) * P := Nat.mul_le_mul_right P (by omega)

/-- Two windows that do not start before time zero are the same or have no time in
common exactly if their slots are the same or at least their length apart. -/
theorem eq_or_disjoint_iff (hP : 0 < P) (hlen : 0 < len) {s t : ℕ} (hst : s ≤ t)
    (hs : back ≤ s / P) :
    (times P back len s = times P back len t ∨
      Disjoint (times P back len s) (times P back len t)) ↔ s / P = t / P ∨ s / P + len ≤ t / P := by
  have hle : s / P ≤ t / P := Nat.div_le_div_right hst
  have hdisjoint : Disjoint (times P back len s) (times P back len t) ↔ s / P + len ≤ t / P := by
    have hends : (s / P - back + len) * P ≤ (t / P - back + len) * P :=
      Nat.mul_le_mul_right P (by omega)
    have hstarts : (s / P - back) * P ≤ (t / P - back) * P := Nat.mul_le_mul_right P (by omega)
    rw [times, times, Set.Ico_disjoint_Ico, min_eq_left hends, max_eq_right hstarts,
      Nat.mul_le_mul_right_iff hP]
    omega
  rw [hdisjoint]
  refine or_congr_left' fun hapart => ⟨fun heq => ?_, fun heq => by rw [times, times, heq]⟩
  have hstart : (s / P - back) * P ∈ times P back len t := by
    rw [← heq]
    exact Set.left_mem_Ico.mpr (Set.nonempty_Ico.mp (times_nonempty hP hlen s))
  have hback : t / P - back ≤ s / P - back := (Nat.mul_le_mul_right_iff hP).mp hstart.1
  omega

end Window
