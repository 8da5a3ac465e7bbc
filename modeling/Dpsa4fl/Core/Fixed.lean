-- SUMMARY: The fixed-point number types of gradients, their type tags, and vectors of either type.
import Mathlib.Data.List.Basic

/-!
# Fixed-point numbers

`src/core/fixed.rs`: a fixed-point number of `n` bits is its two's complement
representation, all bits but the first being fraction bits.
-/

structure Fixed (n : Nat) where
  bits : BitVec n
deriving DecidableEq, Repr

abbrev Fixed16 : Type := Fixed 16
abbrev Fixed32 : Type := Fixed 32
abbrev Fixed64 : Type := Fixed 64

inductive FixedTypeTag where
  | fixedType16Bit
  | fixedType32Bit
deriving DecidableEq, Repr

class IsTagInstance (Fx : Type) where
  getTag : FixedTypeTag

instance : IsTagInstance Fixed16 := ⟨.fixedType16Bit⟩
instance : IsTagInstance Fixed32 := ⟨.fixedType32Bit⟩

inductive VecFixedAny where
  | vecFixed16 (v : List Fixed16)
  | vecFixed32 (v : List Fixed32)
deriving DecidableEq, Repr

namespace VecFixedAny

def length : VecFixedAny → Nat
  | vecFixed16 v => v.length
  | vecFixed32 v => v.length

def tag : VecFixedAny → FixedTypeTag
  | vecFixed16 _ => .fixedType16Bit
  | vecFixed32 _ => .fixedType32Bit

end VecFixedAny
