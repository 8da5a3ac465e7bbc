-- SUMMARY: The callers' side of the manager's API: the manager client of a controller, and the two queries of a client.
import Dpsa4fl.Network

/-!
# Calls to the managers

`src/janus_manager/interface/network/consumer.rs`. A call that changes something
sends a request to the leader's manager and then one to the helper's. A lost
request or answer ends the call at once; a bad request may not.
-/

open Net

/-- Access to the API of the managers, for a controller. -/
structure JanusManagerClient where
  location : Locations
  hpkeKeypair : HpkeKeypair
  leaderAuthToken : AuthenticationToken
  collectorAuthToken : AuthenticationToken
  vdafParameter : VdafParameter
deriving DecidableEq

/-- The random values that a new manager client draws. -/
structure ClientAmbient where
  leaderAuthToken : AuthenticationToken
  collectorAuthToken : AuthenticationToken
  hpkeId : UInt8
  hpkeSeed : List UInt8

namespace JanusManagerClient

/-- Create a janus manager client with the given configuration. A failing key
generation is unwrapped. -/
def new (J : Janus) (ω : ClientAmbient) (location : Locations) (vdafParameter : VdafParameter) :
    Except Failure JanusManagerClient :=
  match J.generateHpkeConfigAndPrivateKey ω.hpkeId HpkeKemId.x25519HkdfSha256
      HpkeKdfId.hkdfSha256 HpkeAeadId.aes256Gcm ω.hpkeSeed with
  | .error _ => .error (.panic "called `Result::unwrap()` on an `Err` value")
  | .ok hpkeKeypair => .ok {
      location := location
      hpkeKeypair := hpkeKeypair
      leaderAuthToken := ω.leaderAuthToken
      collectorAuthToken := ω.collectorAuthToken
      vdafParameter := vdafParameter }

/-- A generated verify key, as long as the VDAF wants it. -/
def verifyKey (J : Janus) (self : JanusManagerClient) (random : Nat → UInt8) : SecretBytes :=
  (List.range (J.verifyKeyLength (self.vdafParameter.toVdafInstance J))).map random

def makeRequest (self : JanusManagerClient) (verifyKey : SecretBytes) (role : Role)
    (id : Option TrainingSessionId) : CreateTrainingSessionRequest where
  trainingSessionId := id
  role := role
  verifyKeyEncoded := Base64Url.encode verifyKey
  collectorHpkeConfig := self.hpkeKeypair.config
  collectorAuthTokenEncoded := Base64Url.encode self.collectorAuthToken.asRef
  leaderAuthTokenEncoded := Base64Url.encode self.leaderAuthToken.asRef
  vdafParameter := self.vdafParameter

/-- The session id in the answer to a creation; `aggregator` is named in the error. -/
def createdSession (aggregator : String) : HttpResponse → Net TrainingSessionId
  | .ok (.createSession id) => return id
  | .ok _ => throw (.err .json)
  | .badRequest _ => throw (.err (.anyhow
      ("Got error from " ++ aggregator ++ ": " ++ toString StatusCode.badRequest)))

@[simp] theorem createdSession_ok (aggregator : String) (id : TrainingSessionId) :
    createdSession aggregator (.ok (.createSession id)) = .ret id := rfl

/-- Sends a request to both aggregators to create a new training session. The
helper is asked for the id that the leader answered with. -/
def createSession (J : Janus) (self : JanusManagerClient) (random : Nat → UInt8) :
    Net TrainingSessionId := do
  let verifyKey := self.verifyKey J random
  let leaderResponse ← post .leader (.createSession (self.makeRequest verifyKey .leader none))
  let leaderId ← createdSession "leader" leaderResponse
  let helperResponse ←
    post .helper (.createSession (self.makeRequest verifyKey .helper (some leaderId)))
  let helperId ← createdSession "helper" helperResponse
  if helperId = leaderId then return leaderId
  else throw (.panic "leader and helper have different training session id!")

/-- Both answers must have status OK, else `message` goes before the two of them. -/
def bothOk {α : Type} (message : String) (result : α) (leaderResponse helperResponse : HttpResponse) :
    Net α :=
  match leaderResponse.status, helperResponse.status with
  | .ok, .ok => return result
  | res1, res2 => throw (.err (.anyhow
      (message ++ " not successful, results are: \n" ++ toString res1 ++ "\n\n" ++ toString res2)))

/-- Send requests to the aggregators to end a session and delete the associated data. -/
def endSession (_self : JanusManagerClient) (id : TrainingSessionId) : Net Unit := do
  let leaderResponse ← post .leader (.endSession id)
  let helperResponse ← post .helper (.endSession id)
  bothOk "Ending session" () leaderResponse helperResponse

/-- Send requests to the aggregators to start a new round. The task id is drawn
at random by the caller. -/
def startRound (_self : JanusManagerClient) (taskId : TaskId) (id : TrainingSessionId) :
    Net TaskId := do
  let request : StartRoundRequest := ⟨id, Base64Url.encode taskId.bytes⟩
  let leaderResponse ← post .leader (.startRound request)
  let helperResponse ← post .helper (.startRound request)
  bothOk "Starting round" taskId leaderResponse helperResponse

end JanusManagerClient

/-! ## Functionality for clients -/

/-- Get the vdaf parameters used for a given task from a single manager. The
status of the answer is not looked at. -/
def getVdafParameterFromTask (managerServer : ManagerServer) (taskId : TaskId) :
    Net VdafParameter := do
  let request : GetVdafParameterRequest := ⟨Base64Url.encode taskId.bytes⟩
  match ← post managerServer (.getVdafParameter request) with
  | .ok (.getVdafParameter vdafParameter) => return vdafParameter
  | _ => throw (.err (.context "got err" .json))

/-- The main locations in an answer, if its body has them. -/
def HttpResponse.mainLocations : HttpResponse → Option MainLocations
  | ok (.getMainLocations mainLocations) => some mainLocations
  | _ => none

/-- Get the janus aggregator locations associated to the given manager servers. -/
def getMainLocations : Net MainLocations := do
  let responseLeader ← post .leader .getMainLocations
  let responseHelper ← post .helper .getMainLocations
  match responseLeader.mainLocations, responseHelper.mainLocations with
  | some a, some b =>
    if a = b then return a
    else throw (.err (.differentMainLocations a b))
  | res1, res2 => throw (.err (.mainLocations res1 res2))

namespace Sample

def client : JanusManagerClient where
  location := ⟨⟨url, url⟩, ⟨url, url⟩⟩
  hpkeKeypair := ⟨hpkeConfig, []⟩
  leaderAuthToken := .bearer [97]
  collectorAuthToken := .bearer [97, 98, 99]
  vdafParameter := vdafParameter

end Sample
