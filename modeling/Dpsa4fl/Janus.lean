-- SUMMARY: The janus and prio data that the crate handles, and the functions of these libraries that it calls, as parameters.
import Dpsa4fl.Core.Fixed
import Mathlib.Data.NNRat.Defs

/-!
# Janus and prio

The crate builds on two libraries whose sources are not part of the repository.
Their plain data types are given here with the fields the crate reads or
compares. Their functions are the fields of `Janus`, a parameter of the whole
development; `Janus.Faithful` names what the crate relies on.
-/

/-- A URL as the `url` crate parses it. `port` is `none` also for the scheme's
default port. -/
structure Url where
  scheme : String
  host : Option String
  port : Option UInt16
  path : String
deriving DecidableEq, Repr

/-! ## Messages -/

inductive Role where
  | collector
  | client
  | leader
  | helper
deriving DecidableEq, Repr

/-- A task id is coded as its 32 bytes. -/
structure TaskId where
  bytes : List UInt8
  length_eq : bytes.length = 32
deriving DecidableEq

abbrev SecretBytes : Type := List UInt8

structure HpkeConfig where
  id : UInt8
  kemId : UInt16
  kdfId : UInt16
  aeadId : UInt16
  publicKey : List UInt8
deriving DecidableEq, Repr

structure HpkeKeypair where
  config : HpkeConfig
  privateKey : List UInt8
deriving DecidableEq, Repr

/-- The registered numbers of the HPKE algorithms that the crate asks for. -/
def HpkeKemId.x25519HkdfSha256 : UInt16 := 0x0020
def HpkeKdfId.hkdfSha256 : UInt16 := 0x0001
def HpkeAeadId.aes128Gcm : UInt16 := 0x0001
def HpkeAeadId.aes256Gcm : UInt16 := 0x0002

inductive AuthenticationToken where
  | bearer (bytes : List UInt8)
  | dapAuth (bytes : List UInt8)
deriving DecidableEq, Repr

/-- The bytes of a token, `AsRef<[u8]>` in the source. -/
def AuthenticationToken.asRef : AuthenticationToken → List UInt8
  | .bearer bytes => bytes
  | .dapAuth bytes => bytes

structure AuthenticationTokenHash where
  digest : List UInt8
deriving DecidableEq, Repr

/-! ## VDAF instances -/

/-- A privacy budget. The library compares the fraction by its value. -/
structure ZCdpBudget where
  epsilon : ℚ≥0
deriving DecidableEq

structure ZCdpDiscreteGaussian where
  budget : ZCdpBudget
deriving DecidableEq

inductive Prio3FixedPointBoundedL2VecSumBitSize where
  | bitSize16
  | bitSize32
deriving DecidableEq, Repr

inductive DpStrategy where
  | noDifferentialPrivacy
  | zCdpDiscreteGaussian (gaussian : ZCdpDiscreteGaussian)
deriving DecidableEq

/-- The instances of the library. The crate builds only the bounded vector sum;
every other one is `unrelated`. -/
inductive VdafInstance where
  | prio3FixedPointBoundedL2VecSum (length : Nat)
      (bitsize : Prio3FixedPointBoundedL2VecSumBitSize) (dpStrategy : DpStrategy)
  | unrelated (description : String)
deriving DecidableEq

/-- The VDAF of a client. The type of its numbers is a type parameter in the source. -/
structure Prio3FixedPointBoundedL2VecSum where
  fixedType : FixedTypeTag
  numAggregators : Nat
  length : Nat
deriving DecidableEq, Repr

/-! ## Tasks -/

inductive QueryType where
  | timeInterval
  | fixedSize (maxBatchSize : Nat)
deriving DecidableEq, Repr

inductive AggregatorTaskParameters where
  | leader (aggregatorAuthToken : AuthenticationToken)
      (collectorAuthTokenHash : AuthenticationTokenHash) (collectorHpkeConfig : HpkeConfig)
  | helper (aggregatorAuthTokenHash : AuthenticationTokenHash) (collectorHpkeConfig : HpkeConfig)
deriving DecidableEq

/-- A task, with the thirteen arguments of `AggregatorTask::new` as its fields.
Times and durations are in seconds. -/
structure AggregatorTask where
  id : TaskId
  peerAggregatorEndpoint : Url
  queryType : QueryType
  vdaf : VdafInstance
  opaqueVdafVerifyKey : SecretBytes
  maxBatchQueryCount : Nat
  taskExpiration : Option Nat
  reportExpiryAge : Option Nat
  minBatchSize : Nat
  timePrecision : Nat
  tolerableClockSkew : Nat
  hpkeKeys : List HpkeKeypair
  aggregatorParameters : AggregatorTaskParameters
deriving DecidableEq

namespace AggregatorTask

def role (task : AggregatorTask) : Role :=
  match task.aggregatorParameters with
  | .leader .. => .leader
  | .helper .. => .helper

def collectorHpkeConfig (task : AggregatorTask) : HpkeConfig :=
  match task.aggregatorParameters with
  | .leader _ _ config => config
  | .helper _ config => config

end AggregatorTask

/-! ## The functions of the libraries -/

structure Janus where
  newBearerTokenFromBytes : List UInt8 → Except String AuthenticationToken
  authenticationTokenHash : AuthenticationToken → AuthenticationTokenHash
  /-- `AggregatorTask::new`, applied to a task that holds its arguments. -/
  newAggregatorTask : AggregatorTask → Except String AggregatorTask
  zCdpDiscreteGaussianFromBudget : ZCdpBudget → ZCdpDiscreteGaussian
  verifyKeyLength : VdafInstance → Nat
  /-- Whether `new_fixedpoint_boundedl2_vec_sum` accepts its arguments. -/
  newFixedpointBoundedl2VecSum : Prio3FixedPointBoundedL2VecSum → Except String Unit
  /-- The last argument is the randomness of the key generation. -/
  generateHpkeConfigAndPrivateKey :
    (id : UInt8) → (kemId kdfId aeadId : UInt16) → (seed : List UInt8) → Except String HpkeKeypair

/-- What the crate relies on: a task has the fields it was created with, where
the library may only bring the endpoint into a normal form, and different
budgets give different noise distributions. -/
structure Janus.Faithful (J : Janus) : Prop where
  newAggregatorTask_eq : ∀ {arguments task}, J.newAggregatorTask arguments = .ok task →
    task = { arguments with peerAggregatorEndpoint := task.peerAggregatorEndpoint }
  fromBudget_injective : Function.Injective J.zCdpDiscreteGaussianFromBudget

/-- A plain instance, for evaluating the model: tokens are accepted when they
are nonempty and made of the characters a bearer token may have. -/
def Janus.plain : Janus where
  newBearerTokenFromBytes bytes :=
    if bytes ≠ [] ∧ bytes.all (fun b => Char.ofNat b.toNat ∈
        "ABCDEFGHIJKLMNOPQRSTUVWXYZabcdefghijklmnopqrstuvwxyz0123456789-._~+/=".toList) then
      .ok (.bearer bytes)
    else .error "bearer token has invalid format"
  authenticationTokenHash token := ⟨token.asRef⟩
  newAggregatorTask := .ok
  zCdpDiscreteGaussianFromBudget budget := ⟨budget⟩
  verifyKeyLength _ := 16
  newFixedpointBoundedl2VecSum _ := .ok ()
  generateHpkeConfigAndPrivateKey id kemId kdfId aeadId seed :=
    .ok ⟨⟨id, kemId, kdfId, aeadId, seed⟩, seed⟩

theorem Janus.plain_faithful : Janus.plain.Faithful where
  newAggregatorTask_eq := by rintro _ _ ⟨⟩; rfl
  fromBudget_injective := by rintro _ _ ⟨⟩; rfl
