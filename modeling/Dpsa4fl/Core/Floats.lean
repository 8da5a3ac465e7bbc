-- SUMMARY: The floats of the source, `f32` and `f64`, which have the operations that the conversion relies on.
import Dpsa4fl.Core.Conversion
import Dpsa4fl.Library.BinaryFloat

/-!
# The built-in floats

`f32` and `f64` are the binary formats of those names, with the conversions that
`num_traits` gives them.
-/

abbrev F32 : Type := Binary binary32
abbrev F64 : Type := Binary binary64

namespace Binary

open BinaryFormat

variable {F : BinaryFormat}

def fromU64 (word : UInt64) : Option (Binary F) := some (ofRat word.toNat)

def toBits (n : Nat) : Binary F → Option (BitVec n)
  | .finite x _ =>
    if -2 ^ (n - 1) ≤ truncate x ∧ truncate x < 2 ^ (n - 1) then some (.ofInt n (truncate x))
    else none
  | _ => none

instance : NumTraits.Float (Binary F) where
  mul := mul
  floor := floor
  ceil := ceil
  fromU64 := fromU64
  toBits := toBits

def value : Binary F → FloatValue
  | .nan => .nan
  | .infinity negative => .infinity negative
  | .finite x _ => .finite x

theorem value_eq_finite {x : Binary F} {q : ℚ} (h : x.value = .finite q) :
    ∃ hq, x = .finite q hq := by
  cases x with
  | nan => cases h
  | infinity _ => cases h
  | finite x hx =>
    cases h
    exact ⟨hx, rfl⟩

theorem toBits_eq_some {n : Nat} (hn : 0 < n) {x : Binary F} {b : BitVec n} :
    x.toBits n = some b ↔ ∃ q, x.value = .finite q ∧ b.toInt = truncate q := by
  cases x with
  | nan => simp [toBits, value]
  | infinity _ => simp [toBits, value]
  | finite x hx =>
    simp only [value, FloatValue.finite.injEq, exists_eq_left', toBits]
    constructor
    · intro h
      split at h
      · rename_i hrange
        cases h
        exact BitVec.toInt_ofInt_eq_self hn hrange.1 hrange.2
      · cases h
    · intro h
      have hlow : -2 ^ (n - 1) ≤ b.toInt := BitVec.le_toInt b
      have hhigh : b.toInt < 2 ^ (n - 1) := BitVec.toInt_lt
      rw [← h, if_pos ⟨hlow, hhigh⟩, BitVec.ofInt_toInt]

theorem toNat_two_pow {k : Nat} (hk : k < 64) : (UInt64.pow 2 k).toNat = 2 ^ k := by
  induction k with
  | zero => rfl
  | succ k ih =>
    have hlt : 2 ^ (k + 1) < 2 ^ 64 := Nat.pow_lt_pow_right (by decide) hk
    have hpow : (UInt64.pow 2 (k + 1)).toNat = (UInt64.pow 2 k).toNat * 2 % 2 ^ 64 :=
      UInt64.toNat_mul _ _
    rw [hpow, ih (by omega), ← Nat.pow_succ, Nat.mod_eq_of_lt hlt]

/-- A format for which all the powers of two below 2^64 are small enough has the
operations that the conversion relies on. -/
theorem faithful (hF : 64 ≤ F.precision + F.maxExp) :
    NumTraits.Faithful (value : Binary F → FloatValue) where
  fromU64_two_pow k hk := by
    have hrep : F.Representable (2 ^ k) := representable_two_pow (by omega)
    refine ⟨.finite (2 ^ k) hrep, ?_, rfl⟩
    have hword : ((UInt64.pow 2 k).toNat : ℚ) = 2 ^ k := by
      rw [toNat_two_pow hk]
      push_cast
      rfl
    have hof : ofRat ((UInt64.pow 2 k).toNat : ℚ) = .finite (2 ^ k) hrep := by
      rw [hword, ofRat_of_representable hrep]
    exact congrArg some hof
  mul_two_pow x c k hk hc := by
    obtain ⟨hrep, rfl⟩ := value_eq_finite hc
    cases x with
    | nan => exact .inl rfl
    | infinity negative =>
      left
      have hpos : (0 : ℚ) < 2 ^ k := by positivity
      simp only [NumTraits.Float.mul, mul, hpos.ne', hpos.not_gt, if_false, decide_false,
        Bool.bne_false, value, FloatValue.map]
    | finite q hq =>
      rcases mul_two_pow hq hrep with ⟨hx, hmul⟩ | ⟨hmul, hbound⟩
      · exact .inl (congrArg value hmul)
      · have hle : (2 : ℚ) ^ 64 ≤ F.bound := by
          rw [bound, ← zpow_natCast]
          exact zpow_le_zpow_right₀ (by norm_num) hF
        exact .inr ⟨q, _, rfl, hle.trans hbound, congrArg value hmul⟩
  value_floor x := by cases x <;> rfl
  value_ceil x := by cases x <;> rfl
  toBits_eq_some n x b hn _ := toBits_eq_some hn

end Binary

theorem F32.faithful : NumTraits.Faithful (Binary.value : F32 → FloatValue) :=
  Binary.faithful (by decide)

theorem F64.faithful : NumTraits.Faithful (Binary.value : F64 → FloatValue) :=
  Binary.faithful (by decide)
