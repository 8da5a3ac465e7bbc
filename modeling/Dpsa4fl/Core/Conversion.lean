-- SUMMARY: The conversion of floating-point numbers to fixed-point numbers, over any type of floats, and when it succeeds.
import Mathlib.Data.Rat.Floor
import Mathlib.Tactic.Linarith
import Dpsa4fl.Core.Types

/-!
# Conversion to fixed point

The second half of `src/core/fixed.rs`. The source converts any type of floats
with the operations of `num_traits::Float`; they are a class here, whose laws
speak about the values of the floats.
-/

/-! ## Floats -/

/-- `std::fmt::Debug`. -/
class Debug (Fl : Type) where
  debug : Fl → String

/-- What is used of `num_traits::Float`. -/
class NumTraits.Float (Fl : Type) where
  mul : Fl → Fl → Fl
  floor : Fl → Fl
  ceil : Fl → Fl
  /-- `Float::from` of an unsigned word. -/
  fromU64 : UInt64 → Option Fl
  /-- `NumCast::from`, to the signed integers of so many bits. -/
  toBits : (n : Nat) → Fl → Option (BitVec n)

/-- What a float stands for. -/
inductive FloatValue where
  | nan
  | infinity (negative : Bool)
  | finite (x : ℚ)
deriving DecidableEq

/-- Apply a function to a finite value. -/
def FloatValue.map (f : ℚ → ℚ) : FloatValue → FloatValue
  | .finite x => .finite (f x)
  | x => x

/-- The integer part of a number, rounded toward zero. -/
def truncate (x : ℚ) : ℤ := if 0 ≤ x then ⌊x⌋ else ⌈x⌉

@[simp] theorem truncate_intCast (m : ℤ) : truncate m = m := by
  unfold truncate
  split
  · exact Int.floor_intCast m
  · exact Int.ceil_intCast m

/-- What the conversion relies on: the powers of two below 2^64 are floats;
scaling by one of them is exact, or overflows to an infinity; rounding to an
integer is exact; a cast truncates, and fails exactly when there is no number to
truncate or the result is out of range. -/
structure NumTraits.Faithful {Fl : Type} [NumTraits.Float Fl] (value : Fl → FloatValue) : Prop where
  fromU64_two_pow : ∀ k < 64, ∃ c, NumTraits.Float.fromU64 (UInt64.pow 2 k) = some c ∧
    value c = .finite (2 ^ k)
  mul_two_pow : ∀ x c, ∀ k < 64, value c = .finite (2 ^ k) →
    value (NumTraits.Float.mul x c) = (value x).map (· * 2 ^ k) ∨
      ∃ q negative, value x = .finite q ∧ 2 ^ 64 ≤ |q * 2 ^ k| ∧
        value (NumTraits.Float.mul x c) = .infinity negative
  value_floor : ∀ x, value (NumTraits.Float.floor x) = (value x).map (⌊·⌋)
  value_ceil : ∀ x, value (NumTraits.Float.ceil x) = (value x).map (⌈·⌉)
  toBits_eq_some : ∀ n x (b : BitVec n), 0 < n → n ≤ 64 →
    (NumTraits.Float.toBits n x = some b ↔ ∃ q, value x = .finite q ∧ b.toInt = truncate q)

/-! ## Fixed-point numbers -/

namespace Fixed

variable {n : Nat}

/-- `FRAC_NBITS` and `INT_NBITS`: the sign is the only integer bit. -/
def fracNbits (n : Nat) : Nat := n - 1
def intNbits (n : Nat) : Nat := n - fracNbits n

@[simp] theorem fracNbits_add_intNbits (n : Nat) : fracNbits n + intNbits n = n := by
  unfold intNbits fracNbits
  omega

def fromBits (bits : BitVec n) : Fixed n := ⟨bits⟩

/-- The difference of two adjacent fixed-point numbers. -/
def step (n : Nat) : ℚ := (2 ^ (n - 1))⁻¹

def value (self : Fixed n) : ℚ := self.bits.toInt * step n

end Fixed

/-! ## Conversion -/

section
variable {Fl : Type} [NumTraits.Float Fl] [Debug Fl] {n : Nat}

def floatToFixedWith (x : Fl) (f : Fl → Fl) : Except Error (Fixed n) := do
  -- The number of bits of the fixed type.
  let nbits := Fixed.fracNbits n + Fixed.intNbits n
  -- The range [-1..1] is expanded to [-2^(n-1)..2^(n-1)].
  let factor ← match NumTraits.Float.fromU64 (UInt64.pow 2 (nbits - 1)) with
    | some factor => .ok factor
    | none => .error (.anyhow ("Floating point cannot represent 2^(n-1). " ++
        "(This should not happen when using f32 or f64)"))
  let x := NumTraits.Float.mul x factor
  let x := f x
  let bits ← match NumTraits.Float.toBits n x with
    | some bits => .ok bits
    | none => .error (.anyhow ("Could not convert " ++ Debug.debug x ++ " to integer."))
  return Fixed.fromBits bits

def floatToFixedFloor (x : Fl) : Except Error (Fixed n) := floatToFixedWith x NumTraits.Float.floor

def floatToFixedCeil (x : Fl) : Except Error (Fixed n) := floatToFixedWith x NumTraits.Float.ceil

variable {value : Fl → FloatValue} {f : Fl → Fl} {r : ℚ → ℤ} {x : Fl} {v : Fixed n}

/-- A number that is too large for a float cannot be cast, however it is rounded. -/
theorem toInt_ne_of_le_abs (hn : n ≤ 64) (b : BitVec n) {q : ℚ} {m : ℤ} (hq : 2 ^ 64 ≤ |q|)
    (hfloor : ⌊q⌋ ≤ m) (hceil : m ≤ ⌈q⌉) : b.toInt ≠ m := by
  have hpow : (2 : ℤ) ^ n ≤ 2 ^ 64 := pow_le_pow_right₀ (by norm_num) hn
  have hlow : -2 ^ n ≤ 2 * b.toInt := BitVec.le_two_mul_toInt
  have hhigh : 2 * b.toInt < 2 ^ n := BitVec.two_mul_toInt_lt
  rcases le_abs.mp hq with h | h
  · have : (2 ^ 64 : ℤ) ≤ ⌊q⌋ := Int.le_floor.mpr (by exact_mod_cast h)
    omega
  · have : ⌈q⌉ ≤ -(2 ^ 64 : ℤ) := Int.ceil_le.mpr (by push_cast; linarith)
    omega

/-- The conversion succeeds with the bits of the scaled and rounded number, where
there is such a number and it fits. -/
theorem floatToFixedWith_eq_ok (hFl : NumTraits.Faithful value) (hn : 0 < n) (hn' : n ≤ 64)
    (hf : ∀ x, value (f x) = (value x).map fun q => r q)
    (hfloor : ∀ q, ⌊q⌋ ≤ r q) (hceil : ∀ q, r q ≤ ⌈q⌉) :
    floatToFixedWith x f = .ok v ↔
      ∃ q, value x = .finite q ∧ v.bits.toInt = r (q * 2 ^ (n - 1)) := by
  obtain ⟨c, hc, hvalue⟩ := hFl.fromU64_two_pow (n - 1) (by omega)
  have hok : floatToFixedWith x f = .ok v ↔
      NumTraits.Float.toBits n (f (NumTraits.Float.mul x c)) = some v.bits := by
    obtain ⟨w⟩ := v
    cases hbits : NumTraits.Float.toBits n (f (NumTraits.Float.mul x c)) with
    | none => simp [floatToFixedWith, hc, hbits, bind, Except.bind]
    | some bits =>
      simp [floatToFixedWith, hc, hbits, bind, Except.bind, pure, Except.pure, Fixed.fromBits]
  rw [hok, hFl.toBits_eq_some n _ _ hn hn', hf]
  rcases hFl.mul_two_pow x c (n - 1) (by omega) hvalue with hmul | ⟨q, negative, hx, hq, hmul⟩
  · rw [hmul]
    cases value x with
    | nan => simp [FloatValue.map]
    | infinity negative => simp [FloatValue.map]
    | finite q => simp [FloatValue.map]
  · -- The scaled number is an infinity, and would not have fit either.
    have hne := toInt_ne_of_le_abs hn' v.bits hq (hfloor _) (hceil _)
    rw [hmul, hx]
    simp only [FloatValue.map, reduceCtorEq, false_and, exists_false, false_iff]
    rintro ⟨q', hq', heq⟩
    cases hq'
    exact hne heq

end
