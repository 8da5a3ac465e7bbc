-- SUMMARY: The task provisioner of a janus manager: its sessions, its datastore and its request handlers.
import Dpsa4fl.JanusManager.Types

/-!
# Task provisioner

`src/janus_manager/implementation/mod.rs`. A handler is a program over the state
of the provisioner that can fail at every `?`. It is cut into the pieces between
two points where it awaits something, because other handlers may run there; the
handler itself is the sequence of its pieces.
-/

structure TrainingSession where
  role : Role
  collectorHpkeConfig : HpkeConfig
  verifyKey : SecretBytes
  collectorAuthToken : AuthenticationToken
  leaderAuthToken : AuthenticationToken
  hpkeConfigAndKey : HpkeKeypair
  vdafParameter : VdafParameter
  /-- The tasks of the session, the most recent one at the end. -/
  tasks : List TaskId
deriving DecidableEq

structure TaskProvisionerConfig where
  leaderEndpoint : Url
  helperEndpoint : Url
  mainLocations : MainLocations
deriving DecidableEq, Repr

/-- The tasks of an aggregator in its database. -/
abbrev Datastore : Type := AList fun _ : TaskId => AggregatorTask

abbrev TrainingSessions : Type := AList fun _ : TrainingSessionId => TrainingSession

/-- The state of a manager. `stdout` holds the lines it has printed so far. -/
structure TaskProvisioner where
  datastore : Datastore
  trainingSessions : TrainingSessions
  config : TaskProvisionerConfig
  keyring : HpkeConfigRegistry
  stdout : List String

def TaskProvisioner.new (datastore : Datastore) (config : TaskProvisionerConfig) :
    TaskProvisioner where
  datastore := datastore
  trainingSessions := ∅
  config := config
  keyring := ∅
  stdout := []

/-- What a piece of a handler takes from outside the program: its random
choices, the clock, and whether a database transaction goes through. -/
structure Ambient where
  sessionId : UInt16
  keypairId : UInt8
  keypairSeed : List UInt8
  elapsed : Except Error Nat
  transaction : Except Error Unit

abbrev Handler (α : Type) : Type := EStateM Failure TaskProvisioner α

namespace Handler

def lift {α : Type} : Except Failure α → Handler α
  | .ok a => pure a
  | .error failure => throw failure

/-- The `?` operator. -/
def orReturn {α : Type} (result : Except Error α) : Handler α :=
  lift (result.mapError .err)

def println (line : String) : Handler Unit :=
  modify fun self => { self with stdout := self.stdout ++ [line] }

end Handler

open Handler

/-! ## The database transaction -/

/-- The fields that are compared when a task of the same id is in the
database. Those that are randomly generated are ignored. -/
def AggregatorTask.corresponds (existingTask task : AggregatorTask) : Bool :=
  existingTask.peerAggregatorEndpoint == task.peerAggregatorEndpoint
    && existingTask.queryType == task.queryType
    && existingTask.vdaf == task.vdaf
    && existingTask.opaqueVdafVerifyKey == task.opaqueVdafVerifyKey
    && existingTask.role == task.role
    && existingTask.maxBatchQueryCount == task.maxBatchQueryCount
    && existingTask.taskExpiration == task.taskExpiration
    && existingTask.minBatchSize == task.minBatchSize
    && existingTask.timePrecision == task.timePrecision
    && existingTask.collectorHpkeConfig == task.collectorHpkeConfig

/-- The body of the transaction `post_task`. -/
def postTask (task : AggregatorTask) (tx : Datastore) : Except Error Datastore :=
  match tx.lookup task.id with
  | some existingTask =>
    if existingTask.corresponds task then .ok tx
    else .error (.anyhow
      "task with same VDAF verify key and task ID already exists with different parameters")
  | none => .ok (tx.insert task.id task)

/-- Run a transaction. One that fails leaves the database as it was. -/
def Datastore.runTx (ω : Ambient) (self : Datastore) (f : Datastore → Except Error Datastore) :
    Except Error Datastore := do
  ω.transaction
  f self

def provisionTask (ω : Ambient) (task : AggregatorTask) : Handler Unit := do
  let self ← get
  let datastore ← orReturn <|
    (self.datastore.runTx ω (postTask task)).mapError (Error.context "couldn't write tasks")
  set { self with datastore := datastore }

/-! ## Start a round -/

/-- The role-dependent parameters of a task. A session of any other role makes
the handler panic. -/
def TrainingSession.taskParams (J : Janus) (self : TrainingSession) :
    Except Failure AggregatorTaskParameters :=
  match self.role with
  | .leader => .ok (.leader
      self.leaderAuthToken
      (J.authenticationTokenHash self.collectorAuthToken)
      self.collectorHpkeConfig)
  | .helper => .ok (.helper
      (J.authenticationTokenHash self.leaderAuthToken)
      self.collectorHpkeConfig)
  | _ => .error (.panic "not yet implemented")

/-- The arguments of `AggregatorTask::new` for a new task of a session. -/
def TrainingSession.taskArguments (J : Janus) (self : TrainingSession)
    (config : TaskProvisionerConfig) (taskId : TaskId) (taskParams : AggregatorTaskParameters) :
    AggregatorTask where
  id := taskId
  peerAggregatorEndpoint := config.helperEndpoint
  queryType := .timeInterval
  vdaf := self.vdafParameter.toVdafInstance J
  opaqueVdafVerifyKey := self.verifyKey
  maxBatchQueryCount := 10
  taskExpiration := none
  reportExpiryAge := none
  minBatchSize := 2
  timePrecision := TIME_PRECISION
  tolerableClockSkew := 1000
  hpkeKeys := [self.hpkeConfigAndKey]
  aggregatorParameters := taskParams

/-- The start of `handle_start_round` up to its transaction: look up the
session, decode the task id and create the task. The guard of the sessions is
held from here to the end of the handler. -/
def startRoundTask (J : Janus) (ω : Ambient) (request : StartRoundRequest) :
    Handler (TaskId × AggregatorTask) := do
  let self ← get
  match self.trainingSessions.lookup request.trainingSessionId with
  | none => throw (.err (.anyhow ("There is no training session with id " ++
      toString request.trainingSessionId)))
  | some trainingSession =>
    let taskId ← orReturn (taskIdFromString request.taskIdEncoded)
    let elapsed ← orReturn ω.elapsed
    let _deadline := elapsed + 10000 * 60
    let taskParams ← lift (trainingSession.taskParams J)
    println ("Got training session request with auth token for aggregator: " ++
      toString trainingSession.leaderAuthToken.asRef ++ ", collector: " ++
      toString trainingSession.collectorAuthToken.asRef)
    let task ← orReturn <| Except.mapError Error.janus <|
      J.newAggregatorTask (trainingSession.taskArguments J self.config taskId taskParams)
    println ("provisioning task now with id " ++ taskIdToString taskId)
    return (taskId, task)

/-- Append a task id to the list of a session. -/
def TaskProvisioner.recordTask (self : TaskProvisioner) (id : TrainingSessionId) (taskId : TaskId) :
    TaskProvisioner :=
  match self.trainingSessions.lookup id with
  | some session => { self with
      trainingSessions := self.trainingSessions.insert id
        { session with tasks := session.tasks ++ [taskId] } }
  | none => self

/-- The end of `handle_start_round`: write the task id into the session. -/
def startRoundRecord (id : TrainingSessionId) (taskId : TaskId) : Handler Unit :=
  modify fun self => self.recordTask id taskId

def handleStartRound (J : Janus) (ω : Ambient) (request : StartRoundRequest) : Handler Unit := do
  let (taskId, task) ← startRoundTask J ω request
  provisionTask ω task
  startRoundRecord request.trainingSessionId taskId

/-! ## Create a session -/

/-- Take the requested id if it exists, else generate a new one. -/
def createSessionId (ω : Ambient) (request : CreateTrainingSessionRequest) :
    Handler TrainingSessionId := do
  match request.trainingSessionId with
  | some id =>
    let self ← get
    if (self.trainingSessions.lookup id).isSome then
      throw (.err (.anyhow ("There already exists a training session with id " ++
        toString id ++ ".")))
    else
      return id
  | none => return ⟨ω.sessionId⟩

/-- The secrets of a session as they are decoded from a request. -/
structure SessionSecrets where
  collectorAuthToken : AuthenticationToken
  leaderAuthToken : AuthenticationToken
  verifyKey : SecretBytes
deriving DecidableEq

/-- Decode the secrets. The leader token is made of the bytes of the encoded
string itself, which is not decoded. -/
def createSessionSecrets (J : Janus) (request : CreateTrainingSessionRequest) :
    Except Error SessionSecrets := do
  let collectorAuthTokenDecoded ←
    (Base64Url.decode request.collectorAuthTokenEncoded).mapError fun e =>
      .context "invalid base64url content in \"verifyKey\"" (.base64 e)
  let collectorAuthToken ←
    (J.newBearerTokenFromBytes collectorAuthTokenDecoded).mapError .janus
  let leaderAuthToken ←
    (J.newBearerTokenFromBytes request.leaderAuthTokenEncoded.toUTF8.data.toList).mapError .janus
  let verifyKey ←
    (Base64Url.decode request.verifyKeyEncoded).mapError fun e =>
      .context "invalid base64url content in \"verifyKey\"" (.base64 e)
  return ⟨collectorAuthToken, leaderAuthToken, verifyKey⟩

/-- The start of `handle_create_session`, up to the wait for the keyring. -/
def createSessionStart (J : Janus) (ω : Ambient) (request : CreateTrainingSessionRequest) :
    Handler (TrainingSessionId × SessionSecrets) := do
  let id ← createSessionId ω request
  let secrets ← orReturn (createSessionSecrets J request)
  return (id, secrets)

def CreateTrainingSessionRequest.session (request : CreateTrainingSessionRequest)
    (secrets : SessionSecrets) (hpkeConfigAndKey : HpkeKeypair) : TrainingSession where
  role := request.role
  verifyKey := secrets.verifyKey
  collectorHpkeConfig := request.collectorHpkeConfig
  collectorAuthToken := secrets.collectorAuthToken
  leaderAuthToken := secrets.leaderAuthToken
  hpkeConfigAndKey := hpkeConfigAndKey
  vdafParameter := request.vdafParameter
  tasks := []

/-- The piece of `handle_create_session` that holds the guard of the keyring:
choose a key pair and put the session together. -/
def createSessionKeypair (J : Janus) (ω : Ambient) (request : CreateTrainingSessionRequest)
    (id : TrainingSessionId) (secrets : SessionSecrets) : Handler TrainingSession := do
  let self ← get
  let (hpkeConfigAndKey, keyring) ←
    lift (self.keyring.fetchKeypair J ω.keypairSeed ω.keypairId)
  set { self with keyring := keyring }
  println ("creating training session with id " ++ toString id)
  return request.session secrets hpkeConfigAndKey

/-- The end of `handle_create_session`: insert into the list. -/
def createSessionInsert (id : TrainingSessionId) (session : TrainingSession) :
    Handler TrainingSessionId := do
  modify fun self => { self with trainingSessions := self.trainingSessions.insert id session }
  return id

def handleCreateSession (J : Janus) (ω : Ambient) (request : CreateTrainingSessionRequest) :
    Handler TrainingSessionId := do
  let (id, secrets) ← createSessionStart J ω request
  let session ← createSessionKeypair J ω request id secrets
  createSessionInsert id session

/-! ## End a session, look up parameters -/

def handleEndSession (session : TrainingSessionId) : Handler Unit := do
  let self ← get
  if (self.trainingSessions.lookup session).isSome then
    set { self with trainingSessions := self.trainingSessions.erase session }
    println ("Removed session with id " ++ toString session)
  else
    let message := "Attempted to remove session with id " ++ toString session ++
      ", but there was no such session."
    println message
    throw (.err (.anyhow message))

/-- The piece of `handle_get_vdaf_parameter` that holds the guard: find the
training session with this task id. -/
def lookupVdafParameter (taskId : TaskId) : Handler VdafParameter := do
  let sessions := (← get).trainingSessions
  let sessionsWithId := (sessions.entries.map (·.2)).filter (·.tasks.contains taskId)
  match sessionsWithId with
  | [] => throw (.err (.anyhow ("Could not find session containing task with id " ++
      taskIdToString taskId ++ ".")))
  | [session] => return session.vdafParameter
  | _ => throw (.err (.anyhow ("Multiple sessions containing taskd id " ++
      taskIdToString taskId ++ " exist.")))

def handleGetVdafParameter (request : GetVdafParameterRequest) : Handler VdafParameter := do
  let taskId ← orReturn (taskIdFromString request.taskIdEncoded)
  lookupVdafParameter taskId

/-! ## Requests -/

/-- Answer a request, with no other handler running. -/
def serve (J : Janus) (ω : Ambient) : Request → Handler Response
  | .createSession request => return .createSession (← handleCreateSession J ω request)
  | .endSession session => do
    handleEndSession session
    return .endSession
  | .startRound request => do
    handleStartRound J ω request
    return .startRound
  | .getVdafParameter request => return .getVdafParameter (← handleGetVdafParameter request)
  | .getMainLocations => return .getMainLocations (← get).config.mainLocations

/-- What a request is answered and the state that is left, with no other
handler running. -/
def TaskProvisioner.answer (J : Janus) (ω : Ambient) (request : Request) (p : TaskProvisioner) :
    Except Failure Response × TaskProvisioner :=
  match (serve J ω request).run p with
  | .ok response p' => (.ok response, p')
  | .error failure p' => (.error failure, p')

namespace Sample

def config : TaskProvisionerConfig := ⟨url, url, ⟨url, url⟩⟩

/-- Every random choice is this one, and every transaction goes through. -/
def ambient (sessionId : UInt16) : Ambient := ⟨sessionId, 0, [], .ok 0, .ok ()⟩

def createRequest (id : Option TrainingSessionId) (verifyKey : SecretBytes) :
    CreateTrainingSessionRequest where
  trainingSessionId := id
  role := .leader
  verifyKeyEncoded := Base64Url.encode verifyKey
  collectorHpkeConfig := hpkeConfig
  collectorAuthTokenEncoded := Base64Url.encode [97, 98, 99]
  leaderAuthTokenEncoded := Base64Url.encode [100, 101, 102]
  vdafParameter := vdafParameter

def startRequest (id : TrainingSessionId) (taskId : TaskId) : StartRoundRequest where
  trainingSessionId := id
  taskIdEncoded := taskIdToString taskId

/-- A manager that was asked for the session 5. -/
def provisionerWithSession : TaskProvisioner :=
  (TaskProvisioner.answer .plain (ambient 0) (.createSession (createRequest (some ⟨5⟩) [1]))
    (.new ∅ config)).2

end Sample
