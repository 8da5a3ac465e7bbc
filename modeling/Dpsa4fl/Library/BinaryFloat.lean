-- SUMMARY: Binary floating-point formats, rounding to nearest even, and the operations that scale and truncate a number exactly.
import Mathlib.Data.Int.Log
import Mathlib.Data.Rat.Floor
import Mathlib.Tactic.Positivity
import Dpsa4fl.Library.Grid

/-!
# Binary floating point

A format has a precision, the number of bits of a significand, and a range of
exponents. A number of the format is a multiple of a power of two, the unit in
its last place, that depends on how large the number is. Zeros have no sign
here, and there is one NaN.
-/

structure BinaryFormat where
  precision : ℕ
  minExp : ℤ
  maxExp : ℤ
  precision_pos : 0 < precision
  minExp_nonpos : minExp ≤ 0
  maxExp_nonneg : 0 ≤ maxExp

def binary32 : BinaryFormat := ⟨24, -149, 104, by decide, by decide, by decide⟩

def binary64 : BinaryFormat := ⟨53, -1074, 971, by decide, by decide, by decide⟩

/-- The nearest integer, and the even one of two that are equally near. -/
def nearestEven (x : ℚ) : ℤ :=
  if Int.fract x < 1 / 2 ∨ (Int.fract x = 1 / 2 ∧ Even ⌊x⌋) then ⌊x⌋ else ⌈x⌉

theorem floor_le_nearestEven (x : ℚ) : ⌊x⌋ ≤ nearestEven x := by
  unfold nearestEven
  split
  · exact le_rfl
  · exact Int.floor_le_ceil x

theorem nearestEven_le_ceil (x : ℚ) : nearestEven x ≤ ⌈x⌉ := by
  unfold nearestEven
  split
  · exact Int.floor_le_ceil x
  · exact le_rfl

@[simp] theorem nearestEven_intCast (m : ℤ) : nearestEven m = m := by
  refine le_antisymm ?_ ?_
  · simpa using nearestEven_le_ceil (m : ℚ)
  · simpa using floor_le_nearestEven (m : ℚ)

/-- An integer that a number is rounded to, in whatever direction. -/
theorem abs_rounded_le {x : ℚ} {m r : ℤ} (h : |x| ≤ m) (hfloor : ⌊x⌋ ≤ r) (hceil : r ≤ ⌈x⌉) :
    |r| ≤ m := by
  obtain ⟨hlow, hhigh⟩ := abs_le.mp h
  refine abs_le.mpr ⟨?_, hceil.trans (Int.ceil_le.mpr hhigh)⟩
  have hneg : -m ≤ ⌊x⌋ := Int.le_floor.mpr (by push_cast; exact hlow)
  exact hneg.trans hfloor

namespace BinaryFormat

variable (F : BinaryFormat)

/-- The exponent of the unit in the last place of a number. -/
def exponent (x : ℚ) : ℤ := max F.minExp (Int.log 2 |x| + 1 - F.precision)

def ulp (x : ℚ) : ℚ := 2 ^ F.exponent x

/-- The first power of two that is too large for the format. -/
def bound : ℚ := 2 ^ (F.precision + F.maxExp)

def Representable (x : ℚ) : Prop := x ∈ Grid.points (F.ulp x) ∧ |x| < F.bound

variable {F}

theorem ulp_pos (x : ℚ) : 0 < F.ulp x := zpow_pos (by norm_num) _

/-- A number has at most as many places as the format has bits. -/
theorem abs_lt_mul_ulp (x : ℚ) : |x| < 2 ^ F.precision * F.ulp x := by
  have hlog : |x| < (2 : ℚ) ^ (Int.log 2 |x| + 1) := by
    exact_mod_cast Int.lt_zpow_succ_log_self (b := 2) (by decide) |x|
  have hle : Int.log 2 |x| + 1 - F.precision ≤ F.exponent x := le_max_right _ _
  calc |x| < (2 : ℚ) ^ (Int.log 2 |x| + 1) := hlog
    _ ≤ 2 ^ ((F.precision : ℤ) + F.exponent x) := by
        apply zpow_le_zpow_right₀ (by norm_num)
        omega
    _ = 2 ^ F.precision * F.ulp x := by
        rw [zpow_add₀ (by norm_num), zpow_natCast, ulp]

theorem zpow_mem_points {a b : ℤ} (h : a ≤ b) : (2 : ℚ) ^ b ∈ Grid.points ((2 : ℚ) ^ a) := by
  refine Grid.mem_points.mpr ⟨2 ^ (b - a).toNat, ?_⟩
  have hb : b = (b - a).toNat + a := by omega
  conv_rhs => rw [hb, zpow_add₀ (by norm_num), zpow_natCast]
  push_cast
  rfl

theorem abs_mul_zpow (m e : ℤ) : |(m * 2 ^ e : ℚ)| = |m| * 2 ^ e := by
  rw [abs_mul, abs_of_pos (zpow_pos (by norm_num) e : (0 : ℚ) < 2 ^ e), Int.cast_abs]

/-- Where the unit in the last place is larger than the exponent, all the bits
of the significand are used, and it is a power of two. -/
theorem abs_eq_of_exponent_lt {m e : ℤ} (he : F.minExp ≤ e) (hm : |m| ≤ 2 ^ F.precision)
    (hne : m ≠ 0) (hexp : e < F.exponent (m * 2 ^ e)) :
    |m| = 2 ^ F.precision ∧ F.exponent (m * 2 ^ e) = e + 1 := by
  have hlog : F.precision + e ≤ Int.log 2 |(m * 2 ^ e : ℚ)| := by
    unfold exponent at hexp
    omega
  have hpos : 0 < |(m * 2 ^ e : ℚ)| :=
    abs_pos.mpr (mul_ne_zero (Int.cast_ne_zero.mpr hne) (zpow_ne_zero e (by norm_num)))
  have hle : (2 : ℚ) ^ (F.precision + e) ≤ |(m * 2 ^ e : ℚ)| := by
    exact_mod_cast (Int.zpow_le_iff_le_log (b := 2) (by decide) hpos).mpr hlog
  rw [abs_mul_zpow, zpow_add₀ (by norm_num), zpow_natCast] at hle
  have hge : (2 : ℚ) ^ F.precision ≤ |m| :=
    le_of_mul_le_mul_right hle (zpow_pos (by norm_num) e)
  have heq : |m| = 2 ^ F.precision := le_antisymm hm (by exact_mod_cast hge)
  refine ⟨heq, ?_⟩
  have habs : |(m * 2 ^ e : ℚ)| = ((2 : ℕ) : ℚ) ^ (F.precision + e) := by
    rw [abs_mul_zpow, heq, zpow_add₀ (by norm_num), zpow_natCast]
    push_cast
    rfl
  rw [exponent, habs, Int.log_zpow (by decide)]
  omega

/-- A number that is written with no more bits than the format has is a
multiple of the unit in its last place. -/
theorem mem_points_ulp {m e : ℤ} (he : F.minExp ≤ e) (hm : |m| ≤ 2 ^ F.precision) :
    (m * 2 ^ e : ℚ) ∈ Grid.points (F.ulp (m * 2 ^ e)) := by
  rcases le_or_gt (F.exponent (m * 2 ^ e)) e with hexp | hexp
  · have := zsmul_mem (zpow_mem_points hexp) m
    rwa [zsmul_eq_mul] at this
  by_cases hzero : m = 0
  · simp only [hzero, Int.cast_zero, zero_mul, zero_mem]
  obtain ⟨habs, hulp⟩ := abs_eq_of_exponent_lt he hm hzero hexp
  have hprec := F.precision_pos
  have hmem : (2 : ℚ) ^ (F.precision + e) ∈ Grid.points ((2 : ℚ) ^ (e + 1)) :=
    zpow_mem_points (by omega)
  have hpow : (2 : ℚ) ^ (F.precision + e) = 2 ^ F.precision * 2 ^ e := by
    rw [zpow_add₀ (by norm_num), zpow_natCast]
  rw [hpow] at hmem
  rw [ulp, hulp]
  rcases eq_or_eq_neg_of_abs_eq habs with rfl | rfl
  · push_cast
    exact hmem
  · push_cast
    rw [neg_mul]
    exact neg_mem hmem

theorem representable_of_le {m e : ℤ} (he : F.minExp ≤ e) (hm : |m| ≤ 2 ^ F.precision)
    (hbound : |(m * 2 ^ e : ℚ)| < F.bound) : F.Representable (m * 2 ^ e) :=
  ⟨mem_points_ulp he hm, hbound⟩

/-- A multiple of the unit in its last place has a significand that fits. -/
theorem exists_significand {x : ℚ} (h : x ∈ Grid.points (F.ulp x)) :
    ∃ m : ℤ, |m| ≤ 2 ^ F.precision ∧ m * 2 ^ F.exponent x = x := by
  obtain ⟨m, hm⟩ := Grid.mem_points.mp h
  refine ⟨m, ?_, hm⟩
  have habs : |x| = |m| * F.ulp x := by
    conv_lhs => rw [← hm, ulp, abs_mul_zpow]
    rfl
  have hlt : |m| * F.ulp x < 2 ^ F.precision * F.ulp x := habs ▸ abs_lt_mul_ulp x
  have := lt_of_mul_lt_mul_right hlt (ulp_pos x).le
  exact le_of_lt (by exact_mod_cast this)

/-! ## Rounding -/

variable (F) in
def round (x : ℚ) : ℚ := nearestEven (x / F.ulp x) * F.ulp x

theorem round_of_mem {x : ℚ} (h : x ∈ Grid.points (F.ulp x)) : F.round x = x := by
  obtain ⟨m, hm⟩ := Grid.mem_points.mp h
  have hdiv : x / F.ulp x = m := (div_eq_iff (ulp_pos x).ne').mpr hm.symm
  rw [round, hdiv, nearestEven_intCast, hm]

theorem representable_round {x : ℚ} (h : |F.round x| < F.bound) : F.Representable (F.round x) := by
  refine representable_of_le (le_max_left _ _) ?_ h
  refine abs_rounded_le ?_ (floor_le_nearestEven _) (nearestEven_le_ceil _)
  rw [abs_div, abs_of_pos (ulp_pos x)]
  push_cast
  exact ((div_lt_iff₀ (ulp_pos x)).mpr (abs_lt_mul_ulp x)).le

/-! ## Exact operations -/

/-- Scaling up by a power of two keeps the bits of a number. -/
theorem scale_mem {x : ℚ} (h : x ∈ Grid.points (F.ulp x)) (k : ℕ) :
    x * 2 ^ k ∈ Grid.points (F.ulp (x * 2 ^ k)) := by
  obtain ⟨m, hm, hx⟩ := exists_significand h
  have hscale : x * 2 ^ k = m * 2 ^ (F.exponent x + k) := by
    rw [zpow_add₀ (by norm_num), zpow_natCast, ← mul_assoc, hx]
  rw [hscale]
  have hmin : F.minExp ≤ F.exponent x := le_max_left _ _
  exact mem_points_ulp (by omega) hm

/-- A number with places after the point is less than half of what the
significand can count to, so the integers next to it are in the format. -/
theorem abs_lt_of_exponent_neg {x : ℚ} (h : F.exponent x < 0) : |x| < 2 ^ (F.precision - 1) := by
  have hprec := F.precision_pos
  have hle : Int.log 2 |x| + 1 - F.precision ≤ F.exponent x := le_max_right _ _
  calc |x| < (2 : ℚ) ^ (Int.log 2 |x| + 1) := by
        exact_mod_cast Int.lt_zpow_succ_log_self (b := 2) (by decide) |x|
    _ ≤ 2 ^ ((F.precision - 1 : ℕ) : ℤ) := by
        apply zpow_le_zpow_right₀ (by norm_num)
        omega
    _ = 2 ^ (F.precision - 1) := zpow_natCast _ _

theorem representable_rounded {x : ℚ} (h : F.Representable x) {r : ℤ} (hfloor : ⌊x⌋ ≤ r)
    (hceil : r ≤ ⌈x⌉) : F.Representable r := by
  rcases lt_or_ge (F.exponent x) 0 with hneg | hnonneg
  · have hprec := F.precision_pos
    have hmax := F.maxExp_nonneg
    have hle : |r| ≤ 2 ^ (F.precision - 1) := by
      refine abs_rounded_le ?_ hfloor hceil
      exact_mod_cast (abs_lt_of_exponent_neg hneg).le
    have hlt : (2 : ℚ) ^ (F.precision - 1) < F.bound := by
      rw [bound, ← zpow_natCast]
      apply zpow_lt_zpow_right₀ (by norm_num)
      omega
    have hrep : F.Representable (r * 2 ^ (0 : ℤ)) := by
      refine representable_of_le F.minExp_nonpos (hle.trans ?_) ?_
      · exact pow_le_pow_right₀ (by norm_num) (by omega)
      · rw [zpow_zero, mul_one, ← Int.cast_abs]
        exact lt_of_le_of_lt (by exact_mod_cast hle) hlt
    rwa [zpow_zero, mul_one] at hrep
  · -- A number without places after the point is next to no other integer.
    obtain ⟨m, hm⟩ := Grid.mem_points.mp h.1
    have hmem := zsmul_mem (zpow_mem_points hnonneg) m
    rw [zsmul_eq_mul, ← ulp, hm] at hmem
    obtain ⟨k, hk⟩ := Grid.mem_points.mp hmem
    rw [zpow_zero, mul_one] at hk
    rw [← hk, Int.floor_intCast] at hfloor
    rw [← hk, Int.ceil_intCast] at hceil
    rw [le_antisymm hceil hfloor, hk]
    exact h

/-- A power of two, if it is not too large, is in the format. -/
theorem representable_two_pow {k : ℕ} (h : (k : ℤ) < F.precision + F.maxExp) :
    F.Representable (2 ^ k) := by
  have hone : |(1 : ℤ)| ≤ 2 ^ F.precision := by
    rw [abs_one]
    exact one_le_pow₀ (by norm_num)
  have hmin := F.minExp_nonpos
  have hrep := representable_of_le (m := 1) (e := k) (by omega) hone ?_
  · rwa [Int.cast_one, one_mul, zpow_natCast] at hrep
  · rw [abs_mul_zpow, abs_one, Int.cast_one, one_mul, bound]
    exact zpow_lt_zpow_right₀ (by norm_num) h

end BinaryFormat

/-! ## The numbers of a format -/

inductive Binary (F : BinaryFormat) where
  | nan
  | infinity (negative : Bool)
  | finite (x : ℚ) (representable : F.Representable x)

namespace Binary

open BinaryFormat

variable {F : BinaryFormat}

/-- A number, rounded to one of the format; an infinity if it is too large. -/
def ofRat (x : ℚ) : Binary F :=
  if h : |F.round x| < F.bound then .finite (F.round x) (representable_round h)
  else .infinity (decide (x < 0))

def mul : Binary F → Binary F → Binary F
  | .nan, _ | _, .nan => .nan
  | .infinity s, .infinity t => .infinity (s != t)
  | .infinity s, .finite y _ => if y = 0 then .nan else .infinity (s != decide (y < 0))
  | .finite x _, .infinity t => if x = 0 then .nan else .infinity (decide (x < 0) != t)
  | .finite x _, .finite y _ => ofRat (x * y)

def floor : Binary F → Binary F
  | .finite x h => .finite ⌊x⌋ (representable_rounded h le_rfl (Int.floor_le_ceil x))
  | x => x

def ceil : Binary F → Binary F
  | .finite x h => .finite ⌈x⌉ (representable_rounded h (Int.floor_le_ceil x) le_rfl)
  | x => x

theorem ofRat_of_representable {x : ℚ} (h : F.Representable x) : ofRat x = .finite x h := by
  have hround := round_of_mem h.1
  simp only [ofRat, hround, h.2, dite_true]

theorem ofRat_of_too_large {x : ℚ} (hmem : x ∈ Grid.points (F.ulp x)) (h : F.bound ≤ |x|) :
    (ofRat x : Binary F) = .infinity (decide (x < 0)) := by
  rw [ofRat, dif_neg]
  rw [round_of_mem hmem]
  exact not_lt.mpr h

/-- Scaling up is exact, or overflows. -/
theorem mul_two_pow {x : ℚ} (h : F.Representable x) {k : ℕ} (hk : F.Representable (2 ^ k)) :
    (∃ hx, mul (.finite x h) (.finite (2 ^ k) hk) = .finite (x * 2 ^ k) hx) ∨
      (mul (.finite x h) (.finite (2 ^ k) hk) = .infinity (decide (x * 2 ^ k < 0)) ∧
        F.bound ≤ |x * 2 ^ k|) := by
  have hmem := scale_mem h.1 k
  rcases lt_or_ge |x * 2 ^ k| F.bound with hlt | hge
  · exact .inl ⟨⟨hmem, hlt⟩, ofRat_of_representable ⟨hmem, hlt⟩⟩
  · exact .inr ⟨ofRat_of_too_large hmem hge, hge⟩

end Binary
