-- SUMMARY: The conversion to fixed point rounds exactly, and accepts the numbers whose rounding is in the range of the fixed-point type.
import Dpsa4fl.Core.Floats

/-!
# Rounding to fixed point

The fixed-point numbers of `n` bits are the multiples of their step from -1 to
one step below 1. The conversion rounds down or up to a multiple of the step,
and fails where that is not a fixed-point number, or there is nothing to round.
-/

namespace Fixed

variable {n : Nat} {v w : Fixed n} {y : ℚ}

def grid (n : Nat) : AddSubgroup ℚ := Grid.points (step n)

theorem step_pos (n : Nat) : 0 < step n := by
  unfold step
  positivity

theorem div_step (q : ℚ) : q / step n = q * 2 ^ (n - 1) := by
  rw [step, div_inv_eq_mul]

theorem value_mem (v : Fixed n) : v.value ∈ grid n := Grid.mem_points.mpr ⟨_, rfl⟩

theorem step_le_one (n : Nat) : step n ≤ 1 := inv_le_one_of_one_le₀ (one_le_pow₀ (by norm_num))

theorem step_mem (n : Nat) : step n ∈ grid n := AddSubgroup.mem_zmultiples _

theorem two_pow_mul_step (n : Nat) : 2 ^ (n - 1) * step n = 1 := mul_inv_cancel₀ (by positivity)

theorem one_mem (n : Nat) : 1 ∈ grid n :=
  Grid.mem_points.mpr ⟨2 ^ (n - 1), by push_cast; exact two_pow_mul_step n⟩

theorem value_eq_iff {m : ℤ} : v.value = m * step n ↔ v.bits.toInt = m := by
  rw [value, mul_left_inj' (step_pos n).ne', Int.cast_inj]

theorem value_injective : Function.Injective (value (n := n)) := by
  intro v w h
  have hint : v.bits.toInt = w.bits.toInt := value_eq_iff.mp h
  exact congrArg fromBits (BitVec.toInt_inj.mp hint)

/-- The fixed-point numbers are the points of the grid from -1 to one step below 1. -/
theorem exists_value_eq_iff (hn : 0 < n) (hy : y ∈ grid n) :
    (∃ v : Fixed n, v.value = y) ↔ y ∈ Set.Icc (-1) (1 - step n) := by
  obtain ⟨m, rfl⟩ := Grid.mem_points.mp hy
  have hone := two_pow_mul_step n
  have hlow : -1 ≤ m * step n ↔ -2 ^ (n - 1) ≤ m := by
    rw [← hone, ← neg_mul, mul_le_mul_iff_left₀ (step_pos n)]
    exact_mod_cast Iff.rfl
  have hhigh : m * step n ≤ 1 - step n ↔ m < 2 ^ (n - 1) := by
    rw [le_sub_iff_add_le, ← hone, ← add_one_mul, mul_le_mul_iff_left₀ (step_pos n)]
    exact_mod_cast Int.add_one_le_iff
  rw [Set.mem_Icc, hlow, hhigh]
  constructor
  · rintro ⟨v, hv⟩
    rw [← value_eq_iff.mp hv]
    exact ⟨BitVec.le_toInt v.bits, BitVec.toInt_lt⟩
  · intro h
    exact ⟨⟨.ofInt n m⟩, value_eq_iff.mpr (BitVec.toInt_ofInt_eq_self hn h.1 h.2)⟩

end Fixed

section
variable {Fl : Type} [NumTraits.Float Fl] [Debug Fl] {value : Fl → FloatValue} {n : Nat}
  (hFl : NumTraits.Faithful value) (hn : 0 < n) (hn' : n ≤ 64)
include hFl hn hn'

variable {x : Fl} {v : Fixed n}

theorem floatToFixedFloor_eq_ok :
    floatToFixedFloor x = .ok v ↔
      ∃ q, value x = .finite q ∧ v.value = Grid.down (Fixed.step n) q := by
  simp only [floatToFixedFloor, floatToFixedWith_eq_ok hFl hn hn' hFl.value_floor
    (fun _ => le_rfl) Int.floor_le_ceil, Grid.down, Fixed.value_eq_iff, Fixed.div_step]

theorem floatToFixedCeil_eq_ok :
    floatToFixedCeil x = .ok v ↔
      ∃ q, value x = .finite q ∧ v.value = Grid.up (Fixed.step n) q := by
  simp only [floatToFixedCeil, floatToFixedWith_eq_ok hFl hn hn' hFl.value_ceil
    Int.floor_le_ceil (fun _ => le_rfl), Grid.up, Fixed.value_eq_iff, Fixed.div_step]

end

/-! ## Exact rounding -/

/-- A conversion that rounds exactly, to the number that a relation gives: it
succeeds with that number if it is a fixed-point number and fails otherwise, and
in particular for what is no number at all. -/
structure RoundsExactly {Fl : Type} (value : Fl → FloatValue) {n : Nat}
    (convert : Fl → Except Error (Fixed n)) (rounding : ℚ → ℚ → Prop) : Prop where
  eq_ok_iff : ∀ x v, convert x = .ok v ↔ ∃ q, value x = .finite q ∧ rounding q v.value
  eq_error_iff : ∀ x, (∃ e, convert x = .error e) ↔
    (∀ q, value x ≠ .finite q) ∨
      ∃ q y, value x = .finite q ∧ rounding q y ∧ y ∉ Set.Icc (-1) (1 - Fixed.step n)
  monotone : ∀ x x' q q' v v', value x = .finite q → value x' = .finite q' → q ≤ q' →
    convert x = .ok v → convert x' = .ok v' → v.value ≤ v'.value
  of_fixed : ∀ x v, value x = .finite v.value → convert x = .ok v

theorem exists_error_iff {α : Type} {result : Except Error α} :
    (∃ e, result = .error e) ↔ ¬∃ a, result = .ok a := by
  cases result <;> simp

theorem RoundsExactly.of_eq_ok {Fl : Type} {value : Fl → FloatValue} {n : Nat} (hn : 0 < n)
    {convert : Fl → Except Error (Fixed n)} {rounding : ℚ → ℚ → Prop} {round : ℚ → ℚ}
    (hok : ∀ x v, convert x = .ok v ↔ ∃ q, value x = .finite q ∧ v.value = round q)
    (hrounding : ∀ q y, rounding q y ↔ y = round q) (hmem : ∀ q, round q ∈ Fixed.grid n)
    (hmono : Monotone round) (hself : ∀ q ∈ Fixed.grid n, round q = q) :
    RoundsExactly value convert rounding where
  eq_ok_iff x v := by simp only [hok, hrounding]
  eq_error_iff x := by
    rw [exists_error_iff]
    cases hx : value x with
    | nan => simp [hok, hx]
    | infinity _ => simp [hok, hx]
    | finite q =>
      have hrange := Fixed.exists_value_eq_iff hn (hmem q)
      simp only [hok, hx, FloatValue.finite.injEq, exists_eq_left', hrange, hrounding, ne_eq]
      constructor
      · intro h
        exact .inr ⟨q, _, rfl, rfl, h⟩
      · rintro (h | ⟨_, _, rfl, rfl, h⟩)
        · exact absurd rfl (h q)
        · exact h
  monotone x x' q q' v v' hx hx' hle hv hv' := by
    obtain ⟨p, hp, hvalue⟩ := (hok x v).mp hv
    obtain ⟨p', hp', hvalue'⟩ := (hok x' v').mp hv'
    cases hx.symm.trans hp
    cases hx'.symm.trans hp'
    rw [hvalue, hvalue']
    exact hmono hle
  of_fixed x v hx := (hok x v).mpr ⟨_, hx, (hself _ v.value_mem).symm⟩

section
variable {Fl : Type} [NumTraits.Float Fl] [Debug Fl] {value : Fl → FloatValue} {n : Nat}
  (hFl : NumTraits.Faithful value) (hn : 0 < n) (hn' : n ≤ 64)
include hFl hn hn'

theorem roundsExactly_floor :
    RoundsExactly value (floatToFixedFloor (n := n)) fun q =>
      IsGreatest {y | y ∈ Fixed.grid n ∧ y ≤ q} := by
  have hstep := Fixed.step_pos n
  refine .of_eq_ok hn (fun x v => floatToFixedFloor_eq_ok hFl hn hn') ?_ (Grid.down_mem _)
    (Grid.down_mono hstep) fun q hq => (Grid.down_eq_self_iff hstep).mpr hq
  intro q y
  have hgreatest := Grid.isGreatest_down hstep q
  exact ⟨fun h => h.unique hgreatest, fun h => h ▸ hgreatest⟩

theorem roundsExactly_ceil :
    RoundsExactly value (floatToFixedCeil (n := n)) fun q =>
      IsLeast {y | y ∈ Fixed.grid n ∧ q ≤ y} := by
  have hstep := Fixed.step_pos n
  refine .of_eq_ok hn (fun x v => floatToFixedCeil_eq_ok hFl hn hn') ?_ (Grid.up_mem _)
    (Grid.up_mono hstep) fun q hq => (Grid.up_eq_self_iff hstep).mpr hq
  intro q y
  have hleast := Grid.isLeast_up hstep q
  exact ⟨fun h => h.unique hleast, fun h => h ▸ hleast⟩

/-- `float_to_fixed_floor` and `float_to_fixed_ceil` round exactly, to the
nearest multiples of the step below and above. -/
theorem floatToFixed_rounds_exactly :
    RoundsExactly value (floatToFixedFloor (n := n))
      (fun q => IsGreatest {y | y ∈ Fixed.grid n ∧ y ≤ q}) ∧
    RoundsExactly value (floatToFixedCeil (n := n))
      (fun q => IsLeast {y | y ∈ Fixed.grid n ∧ q ≤ y}) ∧
    (∀ x q (v w : Fixed n), value x = .finite q → floatToFixedFloor x = .ok v →
      floatToFixedCeil x = .ok w →
        v.value ≤ w.value ∧ w.value ≤ v.value + Fixed.step n ∧ (v = w ↔ q ∈ Fixed.grid n)) ∧
    (∀ x x' q (v w : Fixed n), value x = .finite q → value x' = .finite (-q) →
      floatToFixedCeil x = .ok w → floatToFixedFloor x' = .ok v → w.value = -v.value) := by
  refine ⟨roundsExactly_floor hFl hn hn', roundsExactly_ceil hFl hn hn', ?_, ?_⟩
  · intro x q v w hx hv hw
    obtain ⟨p, hp, hv⟩ := (floatToFixedFloor_eq_ok hFl hn hn').mp hv
    obtain ⟨p', hp', hw⟩ := (floatToFixedCeil_eq_ok hFl hn hn').mp hw
    cases hx.symm.trans hp
    cases hx.symm.trans hp'
    have hstep := Fixed.step_pos n
    have heq : v = w ↔ q ∈ Fixed.grid n := by
      rw [← Fixed.value_injective.eq_iff, hv, hw, Grid.down_eq_up_iff hstep, Fixed.grid]
    refine ⟨?_, ?_, heq⟩
    · rw [hv, hw]
      exact (Grid.down_le hstep q).trans (Grid.le_up hstep q)
    · rw [hv, hw]
      exact Grid.up_le_down_add hstep q
  · intro x x' q v w hx hx' hw hv
    obtain ⟨p, hp, hw⟩ := (floatToFixedCeil_eq_ok hFl hn hn').mp hw
    obtain ⟨p', hp', hv⟩ := (floatToFixedFloor_eq_ok hFl hn hn').mp hv
    cases hx.symm.trans hp
    cases hx'.symm.trans hp'
    rw [hv, hw, Grid.up_eq_neg_down]

end

namespace Sample

/-- What `Debug` prints for NaN, the infinities and integers of moderate size. -/
@[reducible] def debug : Debug F32 where
  debug
    | .nan => "NaN"
    | .infinity negative => if negative then "-inf" else "inf"
    | .finite x _ => toString ⌊x⌋ ++ ".0"

theorem representable_half : binary32.Representable (1 / 2) := by
  have h := BinaryFormat.representable_of_le (F := binary32) (m := 1) (e := -1)
    (by decide) (by decide) (by norm_num [BinaryFormat.bound, binary32])
  norm_num at h
  exact h

def half : F32 := .finite (1 / 2) representable_half

def one : F32 := .finite (2 ^ 0) (BinaryFormat.representable_two_pow (by decide))

theorem representable_halfStep : binary32.Representable (1 / 65536) := by
  have h := BinaryFormat.representable_of_le (F := binary32) (m := 1) (e := -16)
    (by decide) (by decide) (by norm_num [BinaryFormat.bound, binary32])
  norm_num at h
  exact h

/-- Half the step of 16 bits, which lies between two fixed-point numbers. -/
def halfStep : F32 := .finite (1 / 65536) representable_halfStep

theorem down_halfStep : Grid.down (Fixed.step 16) (1 / 65536) = Fixed.value ⟨0#16⟩ := by
  norm_num [Grid.down, Fixed.value, Fixed.step]

theorem up_halfStep : Grid.up (Fixed.step 16) (1 / 65536) = Fixed.value ⟨1#16⟩ := by
  have hint : (1#16).toInt = 1 := rfl
  norm_num [Grid.up, Fixed.value, Fixed.step, hint]

theorem floatToFixed_rounds_exactly_halfStep :
    @floatToFixedFloor F32 _ debug 16 halfStep = .ok ⟨0#16⟩ ∧
      @floatToFixedCeil F32 _ debug 16 halfStep = .ok ⟨1#16⟩ := by
  obtain ⟨hfloor, hceil, -⟩ :=
    @floatToFixed_rounds_exactly F32 _ debug _ 16 F32.faithful (by decide) (by decide)
  refine ⟨(hfloor.eq_ok_iff halfStep _).mpr ⟨_, rfl, ?_⟩,
    (hceil.eq_ok_iff halfStep _).mpr ⟨_, rfl, ?_⟩⟩
  · rw [← down_halfStep]
    exact Grid.isGreatest_down (Fixed.step_pos 16) _
  · rw [← up_halfStep]
    exact Grid.isLeast_up (Fixed.step_pos 16) _

end Sample

section
variable {Fl : Type} [NumTraits.Float Fl] [Debug Fl] {value : Fl → FloatValue} {n : Nat}
  (hFl : NumTraits.Faithful value) (hn : 0 < n) (hn' : n ≤ 64)
include hFl hn hn'

/-! ## The documented range -/

variable {x : Fl} {q : ℚ} {v : Fixed n}

/-- The smallest multiple of the step is a fixed-point number and the largest is
not, so rounding down accepts -1 and not 1. -/
theorem exists_floor_eq_ok_iff (hx : value x = .finite q) :
    (∃ v : Fixed n, floatToFixedFloor x = .ok v) ↔ -1 ≤ q ∧ q < 1 := by
  have hstep := Fixed.step_pos n
  have hone := Fixed.one_mem n
  have hok : (∃ v : Fixed n, floatToFixedFloor x = .ok v) ↔
      ∃ v : Fixed n, v.value = Grid.down (Fixed.step n) q := by
    simp only [floatToFixedFloor_eq_ok hFl hn hn', hx, FloatValue.finite.injEq, exists_eq_left']
  rw [hok, Fixed.exists_value_eq_iff hn (Grid.down_mem _ q), Set.mem_Icc,
    Grid.le_down_iff hstep (neg_mem hone), le_sub_iff_add_le,
    Grid.add_le_iff_lt hstep (Grid.down_mem _ q) hone, Grid.down_lt_iff hstep hone]

/-- Rounding up accepts what is less than one step below -1, and nothing that is
more than one step below 1. -/
theorem exists_ceil_eq_ok_iff (hx : value x = .finite q) :
    (∃ v : Fixed n, floatToFixedCeil x = .ok v) ↔
      -1 - Fixed.step n < q ∧ q ≤ 1 - Fixed.step n := by
  have hstep := Fixed.step_pos n
  have hone := Fixed.one_mem n
  have hmem := Fixed.step_mem n
  have hok : (∃ v : Fixed n, floatToFixedCeil x = .ok v) ↔
      ∃ v : Fixed n, v.value = Grid.up (Fixed.step n) q := by
    simp only [floatToFixedCeil_eq_ok hFl hn hn', hx, FloatValue.finite.injEq, exists_eq_left']
  have hlow : -1 ≤ Grid.up (Fixed.step n) q ↔ -1 - Fixed.step n < Grid.up (Fixed.step n) q := by
    rw [← Grid.add_le_iff_lt hstep (sub_mem (neg_mem hone) hmem) (Grid.up_mem _ q),
      sub_add_cancel]
  rw [hok, Fixed.exists_value_eq_iff hn (Grid.up_mem _ q), Set.mem_Icc, hlow,
    Grid.lt_up_iff hstep (sub_mem (neg_mem hone) hmem), Grid.up_le_iff hstep (sub_mem hone hmem)]

theorem abs_floor_sub_le (hx : value x = .finite q) (h : floatToFixedFloor x = .ok v) :
    |v.value - q| ≤ Fixed.step n := by
  obtain ⟨p, hp, hv⟩ := (floatToFixedFloor_eq_ok hFl hn hn').mp h
  cases hx.symm.trans hp
  have hle := Grid.down_le (Fixed.step_pos n) q
  have hlt := Grid.lt_down_add (Fixed.step_pos n) q
  rw [hv, abs_le]
  constructor <;> linarith

theorem abs_ceil_sub_le (hx : value x = .finite q) (h : floatToFixedCeil x = .ok v) :
    |v.value - q| ≤ Fixed.step n := by
  obtain ⟨p, hp, hv⟩ := (floatToFixedCeil_eq_ok hFl hn hn').mp h
  cases hx.symm.trans hp
  have hle := Grid.le_up (Fixed.step_pos n) q
  have hlt := Grid.lt_down_add (Fixed.step_pos n) (-q)
  rw [hv, abs_le, Grid.up_eq_neg_down] at *
  constructor <;> linarith

omit hFl hn hn' in
/-- The range that the comments of `float_to_fixed_with` name for its argument,
[-1..1], is the range of what is converted: a number in it is converted both ways
to a number that is no more than a step away, and no other number is converted. -/
def RespectsDocumentedRange (n : Nat) (x : Fl) (q : ℚ) : Prop :=
  (-1 ≤ q ∧ q ≤ 1 →
    (∃ v : Fixed n, floatToFixedFloor x = .ok v ∧ |v.value - q| ≤ Fixed.step n) ∧
    ∃ w : Fixed n, floatToFixedCeil x = .ok w ∧ |w.value - q| ≤ Fixed.step n) ∧
  (q < -1 ∨ 1 < q →
    (∃ e, (floatToFixedFloor x : Except Error (Fixed n)) = .error e) ∧
    ∃ e, (floatToFixedCeil x : Except Error (Fixed n)) = .error e)

/-- The documented range is the range of what is converted except in two places.
Just below 1, and at 1, a rounded number is no fixed-point number; and just below
-1 a number is rounded up to one. -/
theorem respectsDocumentedRange_iff (hx : value x = .finite q) :
    RespectsDocumentedRange n x q ↔
      q ≤ -1 - Fixed.step n ∨ (-1 ≤ q ∧ q ≤ 1 - Fixed.step n) ∨ 1 < q := by
  have hstep := Fixed.step_pos n
  have hfloor : (∃ v : Fixed n, floatToFixedFloor x = .ok v ∧ |v.value - q| ≤ Fixed.step n) ↔
      -1 ≤ q ∧ q < 1 := by
    rw [← exists_floor_eq_ok_iff hFl hn hn' hx]
    exact exists_congr fun v => and_iff_left_of_imp (abs_floor_sub_le hFl hn hn' hx)
  have hceil : (∃ w : Fixed n, floatToFixedCeil x = .ok w ∧ |w.value - q| ≤ Fixed.step n) ↔
      -1 - Fixed.step n < q ∧ q ≤ 1 - Fixed.step n := by
    rw [← exists_ceil_eq_ok_iff hFl hn hn' hx]
    exact exists_congr fun w => and_iff_left_of_imp (abs_ceil_sub_le hFl hn hn' hx)
  rw [RespectsDocumentedRange, hfloor, hceil, exists_error_iff, exists_error_iff,
    exists_floor_eq_ok_iff hFl hn hn' hx, exists_ceil_eq_ok_iff hFl hn hn' hx]
  have hone := Fixed.step_le_one n
  constructor
  · rintro ⟨hin, hout⟩
    rcases lt_or_ge q (-1) with hlt | hge
    · have hceil := (hout (.inl hlt)).2
      exact .inl (le_of_not_gt fun h => hceil ⟨h, by linarith⟩)
    rcases lt_or_ge 1 q with hgt | hle
    · exact .inr (.inr hgt)
    · exact .inr (.inl ⟨hge, (hin ⟨hge, hle⟩).2.2⟩)
  · rintro (hlow | ⟨hge, hle⟩ | hgt)
    · refine ⟨fun h => ?_, fun _ => ⟨fun h => ?_, fun h => ?_⟩⟩
      all_goals linarith [h.1]
    · refine ⟨fun _ => ⟨⟨hge, ?_⟩, ?_, hle⟩, ?_⟩
      · linarith
      · linarith
      · rintro (h | h)
        all_goals linarith
    · refine ⟨fun h => ?_, fun _ => ⟨fun h => ?_, fun h => ?_⟩⟩
      all_goals linarith [h.2]

end

namespace Sample

theorem respectsDocumentedRange_half : @RespectsDocumentedRange F32 _ debug 16 half (1 / 2) :=
  (@respectsDocumentedRange_iff F32 _ debug _ 16 F32.faithful (by decide) (by decide) half (1 / 2)
    rfl).mpr (.inr (.inl (by norm_num [Fixed.step])))

/-- 1 is in the documented range, and is not converted. -/
theorem not_respectsDocumentedRange_one : ¬@RespectsDocumentedRange F32 _ debug 16 one 1 := by
  intro h
  obtain ⟨⟨v, hv, -⟩, -⟩ := h.1 (by norm_num)
  have hok := (@exists_floor_eq_ok_iff F32 _ debug _ 16 F32.faithful (by decide) (by decide)
    one 1 (congrArg FloatValue.finite (pow_zero 2))).mp ⟨v, hv⟩
  exact lt_irrefl _ hok.2

end Sample
