-- SUMMARY: The client's API: round settings and submissions on a state that may not be initialized yet.
import Dpsa4fl.Client.Implementation

/-!
# Client API

`src/client/interface/embedded.rs`. As for the controller, a call gets the state
by reference, so it ends in a result and a state.
-/

/-- Client state which is possibly uninitialized until now. -/
inductive ClientStatePU where
  | validState (s : ClientState)
  | initState (p : ManagerLocations)
deriving DecidableEq

/-- Return the initialized client state if available. -/
def ClientStatePU.getValidState : ClientStatePU → Option ClientState
  | validState s => some s
  | initState _ => none

/-- Create a new client state. -/
def apiNewClientState (p : ManagerLocations) : ClientStatePU := .initState p

/-- Configure the client state for a given round. -/
def apiUpdateClientRoundSettings (s : ClientStatePU) (roundSettings : RoundSettings) :
    Api (Except Failure Unit × ClientStatePU) :=
  match s with
  | .initState parametrization => do
    match ← (ClientState.new parametrization roundSettings).attempt with
    | .error failure => return (.error failure, s)
    | .ok clientState => return (.ok (), .validState clientState)
  | .validState clientState =>
    return (.ok (), .validState (clientState.updateToNextRoundConfig roundSettings))

/-- Submit gradients to the aggregators; `getData` provides the gradient for the
current parameters. -/
def apiSubmitWith (J : Janus) (s : ClientStatePU) (roundSettings : RoundSettings)
    (getData : CommonStateParametrization → VecFixedAny) :
    Api (Except Failure Unit × ClientStatePU) := do
  match ← apiUpdateClientRoundSettings s roundSettings with
  | (.error failure, s) => return (.error failure, s)
  | (.ok (), .initState p) => return (.error (.err (.anyhow "")), .initState p)
  | (.ok (), .validState clientState) =>
    let data := getData clientState.parametrization
    let result ← (clientState.getSubmissionResult J data).attempt
    return (result, .validState clientState)

/-! ## Calls in a row -/

inductive ClientCall where
  | updateRoundSettings (roundSettings : RoundSettings)
  | submitWith (roundSettings : RoundSettings) (getData : CommonStateParametrization → VecFixedAny)

namespace ClientCall

def roundSettings : ClientCall → RoundSettings
  | updateRoundSettings roundSettings => roundSettings
  | submitWith roundSettings _ => roundSettings

def run (J : Janus) (s : ClientStatePU) : ClientCall → Api (Except Failure Unit × ClientStatePU)
  | updateRoundSettings roundSettings => apiUpdateClientRoundSettings s roundSettings
  | submitWith roundSettings getData => apiSubmitWith J s roundSettings getData

end ClientCall

/-- The calls on one client state, each made whatever the one before returned. -/
def clientCalls (J : Janus) : ClientStatePU → List ClientCall → Api ClientStatePU
  | s, [] => return s
  | s, call :: calls => do
    let (_, s') ← call.run J s
    clientCalls J s' calls
