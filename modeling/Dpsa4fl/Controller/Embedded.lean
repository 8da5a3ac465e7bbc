-- SUMMARY: The controller: its state and the calls with which it sets up sessions and rounds.
import Dpsa4fl.JanusManager.Consumer

/-!
# Controller

`src/controller/interface/types.rs` and `embedded.rs`. A call gets the mutable
state by reference: what it wrote before it fails stays, so a call ends in a
result and a state.
-/

structure ControllerStatePermanent where
  janusTasksClient : JanusManagerClient
deriving DecidableEq

/-- State that does not change once the controller is initialized. -/
structure ControllerStateImmut where
  parametrization : CommonStateParametrization
  permanent : ControllerStatePermanent
deriving DecidableEq

/-- State that is required only for a single round. -/
structure ControllerStateRound where
  taskId : Option TaskId
  trainingSessionId : Option TrainingSessionId
deriving DecidableEq

/-- State that changes during the controller lifetime. -/
structure ControllerStateMut where
  round : ControllerStateRound
deriving DecidableEq

def ControllerStateImmut.new (J : Janus) (ω : ClientAmbient) (p : CommonStateParametrization) :
    Except Failure ControllerStateImmut := do
  let janusTasksClient ← JanusManagerClient.new J ω p.location p.vdafParameter
  return { parametrization := p, permanent := { janusTasksClient := janusTasksClient } }

/-- Create a new immutable controller state from a given set of parameters. -/
def apiNewControllerState (J : Janus) (ω : ClientAmbient) (p : CommonStateParametrization) :
    Except Failure ControllerStateImmut :=
  ControllerStateImmut.new J ω p

/-- Create a new training session and record its id. -/
def apiCreateSession (J : Janus) (istate : ControllerStateImmut) (mstate : ControllerStateMut)
    (random : Nat → UInt8) : Api (Except Failure UInt16 × ControllerStateMut) := do
  match ← (istate.permanent.janusTasksClient.createSession J random).attempt with
  | .error failure => return (.error failure, mstate)
  | .ok trainingSessionId =>
    return (.ok trainingSessionId.value,
      { mstate with round := { mstate.round with trainingSessionId := some trainingSessionId } })

/-- End the current training session on both aggregators. If no session is active, fail. -/
def apiEndSession (istate : ControllerStateImmut) (mstate : ControllerStateMut) :
    Api (Except Failure Unit × ControllerStateMut) :=
  match mstate.round.trainingSessionId with
  | some trainingSessionId => do
    match ← (istate.permanent.janusTasksClient.endSession trainingSessionId).attempt with
    | .error failure => return (.error failure, mstate)
    | .ok _ =>
      return (.ok (), { mstate with round := { mstate.round with trainingSessionId := none } })
  | none =>
    return (.error (.err (.anyhow "Tried to end a session, but none was started.")), mstate)

/-- Start a new training round and record its task id, drawn by the caller. -/
def apiStartRound (istate : ControllerStateImmut) (mstate : ControllerStateMut) (taskId : TaskId) :
    Api (Except Failure String × ControllerStateMut) :=
  match mstate.round.trainingSessionId with
  | none =>
    return (.error (.err (.anyhow "Cannot start round because no session was created.")), mstate)
  | some trainingSessionId => do
    match ← (istate.permanent.janusTasksClient.startRound taskId trainingSessionId).attempt with
    | .error failure => return (.error failure, mstate)
    | .ok taskId =>
      return (.ok (taskIdToString taskId),
        { mstate with round := { mstate.round with taskId := some taskId } })
