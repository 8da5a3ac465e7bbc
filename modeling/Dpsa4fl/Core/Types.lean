-- SUMMARY: Errors, locations and the VDAF parameters of a training session, with the VDAF instance they stand for.
import Dpsa4fl.Library.Base64Url
import Dpsa4fl.Janus
import Dpsa4fl.Core.Fixed

/-!
# Core data

`src/core/types.rs`, and the errors of the whole crate.
-/

/-! ## Locations -/

structure ManagerLocations where
  externalLeader : Url
  externalHelper : Url
deriving DecidableEq, Repr

structure MainLocations where
  externalLeader : Url
  externalHelper : Url
deriving DecidableEq, Repr

structure Locations where
  main : MainLocations
  manager : ManagerLocations
deriving DecidableEq, Repr

/-! ## VDAF parametrization -/

structure VdafParameter where
  gradientLen : Nat
  privacyParameter : ZCdpBudget
  submissionType : FixedTypeTag
deriving DecidableEq

/-- The parameters for a training session, known to controller and clients. -/
structure CommonStateParametrization where
  location : Locations
  vdafParameter : VdafParameter
deriving DecidableEq

def FixedTypeTag.bitsize : FixedTypeTag → Prio3FixedPointBoundedL2VecSumBitSize
  | .fixedType16Bit => .bitSize16
  | .fixedType32Bit => .bitSize32

theorem FixedTypeTag.bitsize_injective : Function.Injective FixedTypeTag.bitsize := by
  intro a b h
  cases a <;> cases b <;> first | rfl | cases h

def VdafParameter.toVdafInstance (J : Janus) (self : VdafParameter) : VdafInstance :=
  .prio3FixedPointBoundedL2VecSum self.gradientLen self.submissionType.bitsize
    (.zCdpDiscreteGaussian (J.zCdpDiscreteGaussianFromBudget self.privacyParameter))

/-- Different parameters give different instances, so the instance that a task
is stored with determines the parameters it was started with. -/
theorem VdafParameter.toVdafInstance_injective {J : Janus} (hJ : J.Faithful) :
    Function.Injective (VdafParameter.toVdafInstance J) := by
  rintro ⟨len, budget, tag⟩ ⟨len', budget', tag'⟩ h
  simp only [toVdafInstance, VdafInstance.prio3FixedPointBoundedL2VecSum.injEq,
    DpStrategy.zCdpDiscreteGaussian.injEq] at h
  obtain ⟨rfl, htag, hbudget⟩ := h
  rw [FixedTypeTag.bitsize_injective htag, hJ.fromBudget_injective hbudget]

/-! ## Errors -/

/-- An `anyhow` error, by where it comes from. -/
inductive Error where
  | anyhow (message : String)
  | context (message : String) (cause : Error)
  | base64 (cause : Base64Url.DecodeError)
  | codec (message : String)
  | janus (message : String)
  | prio (message : String)
  | systemTime
  /-- A request that was not answered, or whose answer was lost. -/
  | transport
  /-- The body of an answer does not have the expected form. -/
  | json
  /-- "The aggregators returned different main locations", with both of them. -/
  | differentMainLocations (leader helper : MainLocations)
  /-- "Getting main locations not successful", with what both bodies were read as. -/
  | mainLocations (leader helper : Option MainLocations)
  /-- "The leader and helper have different vdaf params", with both of them. -/
  | differentVdafParams (leader helper : VdafParameter)
deriving DecidableEq

/-- How a function can end without a value: with `Err`, or with a panic. -/
inductive Failure where
  | err (error : Error)
  | panic (message : String)
deriving DecidableEq
