-- SUMMARY: The client: its state, its initialization from the two managers, and the submission of gradients.
import Dpsa4fl.JanusManager.Consumer

/-!
# Client

`src/client/implementation/mod.rs` and `interface/types.rs`. The client gets its
parametrization from the managers once and keeps it; a new round only replaces
the round settings.
-/

/-! ## State -/

/-- Settings for a single round. -/
structure RoundSettings where
  taskId : TaskId
  timePrecision : Nat
  shouldRequestHpkeConfig : Bool
deriving DecidableEq

/-- Create a default round settings from a task id. -/
def RoundSettings.new (taskIdBase64 : String) : Except Error RoundSettings := do
  return {
    taskId := ← taskIdFromString taskIdBase64
    timePrecision := TIME_PRECISION
    shouldRequestHpkeConfig := false }

structure RoundConfig where
  settings : RoundSettings
deriving DecidableEq

/-- State relevant for a single round. -/
structure ClientStateRound where
  config : RoundConfig
deriving DecidableEq

/-- All client state. -/
structure ClientState where
  parametrization : CommonStateParametrization
  round : ClientStateRound
deriving DecidableEq

/-! ## Initialization -/

def getParametrization (taskId : TaskId) (l : Locations) : Net CommonStateParametrization := do
  let leaderParam ← getVdafParameterFromTask .leader taskId
  let helperParam ← getVdafParameterFromTask .helper taskId
  -- make sure that the information matches
  if leaderParam = helperParam then
    return { location := l, vdafParameter := leaderParam }
  else throw (.err (.differentVdafParams leaderParam helperParam))

namespace ClientState

def new (managerLocations : ManagerLocations) (roundSettings : RoundSettings) : Net ClientState := do
  Net.orReturn (← Script.perform .defaultHttpClient)
  let mainLocations ← getMainLocations
  let locations : Locations := { main := mainLocations, manager := managerLocations }
  let parametrization ← getParametrization roundSettings.taskId locations
  return { parametrization := parametrization, round := { config := { settings := roundSettings } } }

/-- The parameters are assumed not to change between tasks of the same session. -/
def updateToNextRoundConfig (self : ClientState) (roundSettings : RoundSettings) : ClientState :=
  { self with round := { config := { settings := roundSettings } } }

end ClientState

/-! ## Submission -/

/-- The number types that the library can encode, with its view of a vector. -/
class CompatibleFloat (Fx : Type) where
  fixedType : FixedTypeTag
  vector : List Fx → VecFixedAny

instance : CompatibleFloat Fixed16 := ⟨.fixedType16Bit, .vecFixed16⟩
instance : CompatibleFloat Fixed32 := ⟨.fixedType32Bit, .vecFixed32⟩

instance : ToString FixedTypeTag where
  toString
    | .fixedType16Bit => "FixedType16Bit"
    | .fixedType32Bit => "FixedType32Bit"

section
variable (J : Janus) (Fx : Type) [CompatibleFloat Fx]

def getJanusClient (roundSettings : RoundSettings) (l : Locations) (vdafParameter : VdafParameter) :
    Net JanusClient := do
  let vdafClient : Prio3FixedPointBoundedL2VecSum := {
    fixedType := CompatibleFloat.fixedType Fx
    numAggregators := 2
    length := vdafParameter.gradientLen }
  Net.orReturn ((J.newFixedpointBoundedl2VecSum vdafClient).mapError .prio)
  let c : JanusClient := {
    taskId := roundSettings.taskId
    leaderAggregatorEndpoint := l.main.externalLeader
    helperAggregatorEndpoint := l.main.externalHelper
    timePrecision := 1
    vdaf := vdafClient }
  Net.orReturn (← Script.perform (.buildClient c))
  return c

variable [IsTagInstance Fx]

def ClientState.getSubmissionResultImpl (self : ClientState) (measurement : List Fx) : Net Unit :=
  let actualLen := measurement.length
  let expectedLen := self.parametrization.vdafParameter.gradientLen
  let aggregatorTag := self.parametrization.vdafParameter.submissionType
  -- check length
  if actualLen ≠ expectedLen then
    throw (.err (.anyhow ("Expected data to be have length " ++ toString expectedLen ++
      " but it was " ++ toString actualLen)))
  -- check type
  else if IsTagInstance.getTag Fx ≠ aggregatorTag then
    throw (.err (.anyhow ("Tried to submit gradient with fixed type " ++
      toString (IsTagInstance.getTag Fx) ++ ", but the task has been registered for fixed type " ++
      toString aggregatorTag)))
  else do
    let client ← getJanusClient J Fx self.round.config.settings self.parametrization.location
      self.parametrization.vdafParameter
    Net.orReturn (← Script.perform (.upload client (CompatibleFloat.vector measurement)))

end

def ClientState.getSubmissionResult (J : Janus) (self : ClientState) : VecFixedAny → Net Unit
  | .vecFixed16 v => self.getSubmissionResultImpl J Fixed16 v
  | .vecFixed32 v => self.getSubmissionResultImpl J Fixed32 v
