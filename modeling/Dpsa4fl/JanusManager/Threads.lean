-- SUMMARY: A manager that serves many requests at once: one thread per request, interleaved at the await points of the handlers.
import Dpsa4fl.Library.Run
import Dpsa4fl.JanusManager.HandlerSpecs

/-!
# Concurrent requests

A manager runs one handler for each request it has received. A handler gives
way to the others only where it awaits something, so a `Thread` is either at an
await point or has been answered. What a thread does up to its next await point
is one piece of its handler.

The mutex of the training sessions is the only one whose guard is held across
an await point: `handle_start_round` keeps it during its transaction and until
its task id is recorded. The guard of the keyring is dropped within one piece.
-/

/-- A request with the await point that its handler has reached. -/
inductive Thread where
  /-- The request was sent; nothing of its handler has run. -/
  | arrived (request : Request)
  /-- `handle_create_session` waits for the keyring. -/
  | keyring (request : CreateTrainingSessionRequest) (id : TrainingSessionId)
      (secrets : SessionSecrets)
  /-- `handle_create_session` waits for the sessions, to insert the new one. -/
  | insert (request : CreateTrainingSessionRequest) (id : TrainingSessionId)
      (session : TrainingSession)
  /-- `handle_start_round` waits for its transaction and holds the sessions. -/
  | transaction (request : StartRoundRequest) (taskId : TaskId) (task : AggregatorTask)
  /-- The transaction of `handle_start_round` went through; it still holds the sessions. -/
  | record (request : StartRoundRequest) (taskId : TaskId)
  /-- `handle_get_vdaf_parameter` waits for the sessions. -/
  | lookup (request : GetVdafParameterRequest) (taskId : TaskId)
  | answered (request : Request) (answer : Except Failure Response)
  /-- The request was lost, or its handler was cancelled at an await point. -/
  | dropped (request : Request)
deriving DecidableEq

namespace Thread

def request : Thread → Request
  | arrived request => request
  | keyring request _ _ => .createSession request
  | insert request _ _ => .createSession request
  | transaction request _ _ => .startRound request
  | record request _ => .startRound request
  | lookup request _ => .getVdafParameter request
  | answered request _ => request
  | dropped request => request

def finished : Thread → Bool
  | answered _ _ => true
  | dropped _ => true
  | _ => false

/-- The thread holds the guard of the training sessions. -/
def holdsGuard : Thread → Bool
  | transaction _ _ _ => true
  | record _ _ => true
  | _ => false

/-- The next piece of the thread starts by locking the training sessions. -/
def awaitsGuard : Thread → Bool
  | arrived (.createSession request) => request.trainingSessionId.isSome
  | arrived (.startRound _) => true
  | arrived (.endSession _) => true
  | insert _ _ _ => true
  | lookup _ _ => true
  | _ => false

open Handler in
/-- The handler from the await point of a thread to its next one. -/
def piece (J : Janus) (ω : Ambient) : Thread → Handler Thread
  | arrived (.createSession request) => do
    let (id, secrets) ← createSessionStart J ω request
    return keyring request id secrets
  | arrived (.startRound request) => do
    let (taskId, task) ← startRoundTask J ω request
    return transaction request taskId task
  | arrived (.endSession session) => do
    handleEndSession session
    return answered (.endSession session) (.ok .endSession)
  | arrived (.getVdafParameter request) => do
    let taskId ← orReturn (taskIdFromString request.taskIdEncoded)
    return lookup request taskId
  | arrived .getMainLocations => do
    let self ← get
    return answered .getMainLocations (.ok (.getMainLocations self.config.mainLocations))
  | keyring request id secrets => do
    let session ← createSessionKeypair J ω request id secrets
    return insert request id session
  | insert request id session => do
    let id ← createSessionInsert id session
    return answered (.createSession request) (.ok (.createSession id))
  | transaction request taskId task => do
    provisionTask ω task
    return record request taskId
  | record request taskId => do
    startRoundRecord request.trainingSessionId taskId
    return answered (.startRound request) (.ok .startRound)
  | lookup request taskId => do
    let vdafParameter ← lookupVdafParameter taskId
    return answered (.getVdafParameter request) (.ok (.getVdafParameter vdafParameter))
  | answered request answer => return answered request answer
  | dropped request => return dropped request

/-- Resume a thread. A handler that fails in a piece has given its answer. -/
def resume (J : Janus) (ω : Ambient) (thread : Thread) (p : TaskProvisioner) :
    Thread × TaskProvisioner :=
  match (thread.piece J ω).run p with
  | .ok thread' p' => (thread', p')
  | .error failure p' => (answered thread.request (.error failure), p')

end Thread

/-! ## The manager -/

/-- A manager process: the state of its provisioner and a thread for every
request it was sent, the oldest first. -/
structure Manager where
  provisioner : TaskProvisioner
  threads : List Thread

namespace Manager

/-- A manager that has just been started. -/
def new (datastore : Datastore) (config : TaskProvisionerConfig) : Manager where
  provisioner := .new datastore config
  threads := []

inductive Action where
  /-- A request is sent to the manager. -/
  | send (request : Request)
  /-- The thread with this number runs to its next await point. -/
  | resume (i : Nat) (ω : Ambient)
  /-- The thread with this number is dropped at its await point. -/
  | drop (i : Nat)
  /-- The process is restarted and forgets all but the datastore. -/
  | restart

/-- No thread holds the guard of the training sessions. -/
def guardFree (m : Manager) : Bool := m.threads.all fun thread => !thread.holdsGuard

def dropThread (thread : Thread) : Thread :=
  if thread.finished then thread else .dropped thread.request

def step (J : Janus) (m : Manager) : Action → Option Manager
  | .send request => some { m with threads := m.threads ++ [.arrived request] }
  | .resume i ω =>
    match m.threads[i]? with
    | none => none
    | some thread =>
      if thread.finished || (thread.awaitsGuard && !m.guardFree) then none
      else
        let (thread', p) := thread.resume J ω m.provisioner
        some { provisioner := p, threads := m.threads.set i thread' }
  | .drop i =>
    match m.threads[i]? with
    | none => none
    | some thread => some { m with threads := m.threads.set i (dropThread thread) }
  | .restart => some {
      provisioner := { m.provisioner with trainingSessions := ∅, keyring := ∅ }
      threads := m.threads.map dropThread }

end Manager
