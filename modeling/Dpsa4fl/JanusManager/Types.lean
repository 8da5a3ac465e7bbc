-- SUMMARY: Session ids, the registry of HPKE key pairs, and the requests and responses of the manager's API.
import Dpsa4fl.Core.Helpers
import Mathlib.Data.List.AList

/-!
# The manager's interface types

`src/janus_manager/interface/types.rs`. Requests and responses are typed values:
the JSON coding is left to the library on both sides.
-/

def TIME_PRECISION : Nat := 3600

/-- An identifier for a training session. -/
structure TrainingSessionId where
  value : UInt16
deriving DecidableEq, Repr

instance : ToString TrainingSessionId := ⟨fun id => toString id.value⟩

/-- This registry lazily generates up to 256 HPKE key pairs, one with each
possible id. -/
abbrev HpkeConfigRegistry : Type := AList fun _ : UInt8 => HpkeKeypair

/-- Get the key pair associated with a given id. A new pair is generated from
`seed`; a failing generation is unwrapped, so it panics. -/
def HpkeConfigRegistry.fetchKeypair (J : Janus) (seed : List UInt8) (self : HpkeConfigRegistry)
    (id : UInt8) : Except Failure (HpkeKeypair × HpkeConfigRegistry) :=
  match self.lookup id with
  | some keypair => .ok (keypair, self)
  | none =>
    match J.generateHpkeConfigAndPrivateKey id HpkeKemId.x25519HkdfSha256 HpkeKdfId.hkdfSha256
        HpkeAeadId.aes128Gcm seed with
    | .ok keypair => .ok (keypair, self.insert id keypair)
    | .error _ => .error (.panic "called `Result::unwrap()` on an `Err` value")

/-! ## API -/

structure CreateTrainingSessionRequest where
  /-- The id, if it is known. -/
  trainingSessionId : Option TrainingSessionId
  role : Role
  verifyKeyEncoded : String
  collectorHpkeConfig : HpkeConfig
  collectorAuthTokenEncoded : String
  leaderAuthTokenEncoded : String
  vdafParameter : VdafParameter
deriving DecidableEq

structure StartRoundRequest where
  trainingSessionId : TrainingSessionId
  taskIdEncoded : String
deriving DecidableEq, Repr

structure GetVdafParameterRequest where
  taskIdEncoded : String
deriving DecidableEq, Repr

/-- The five endpoints with the values that are posted to them. -/
inductive Request where
  | createSession (request : CreateTrainingSessionRequest)
  | endSession (session : TrainingSessionId)
  | startRound (request : StartRoundRequest)
  | getVdafParameter (request : GetVdafParameterRequest)
  | getMainLocations
deriving DecidableEq

/-- The body of an answer with status OK. -/
inductive Response where
  | createSession (trainingSessionId : TrainingSessionId)
  | endSession
  | startRound
  | getVdafParameter (vdafParameter : VdafParameter)
  | getMainLocations (mainLocations : MainLocations)
deriving DecidableEq

/-! ## Sample values

Inputs on which the model is evaluated. -/

namespace Sample

def url : Url := ⟨"https", some "localhost", some 9981, "/"⟩

def taskId (byte : UInt8) : TaskId := ⟨List.replicate 32 byte, by simp⟩

def vdafParameter : VdafParameter := ⟨2, ⟨⟨1, by decide⟩⟩, .fixedType16Bit⟩

def hpkeConfig : HpkeConfig :=
  ⟨0, HpkeKemId.x25519HkdfSha256, HpkeKdfId.hkdfSha256, HpkeAeadId.aes128Gcm, []⟩

end Sample
