-- SUMMARY: The collection of a round: the query that the controller sends to the leader, and the batch interval it asks for.
import Dpsa4fl.Library.Window
import Dpsa4fl.Controller.Embedded
import Dpsa4fl.Client.Implementation

/-!
# Collection

`collect` and `collect_generic` in `src/janus_manager/interface/network/consumer.rs`,
and `api_collect`. Collecting exchanges nothing with the managers: it reads the
clock, creates a collector and lets it query the leader. What the collector
returns is passed on as it is, so its type `κ` is a parameter.
-/

/-! ## Batch intervals -/

/-- A batch interval (`janus_messages::Interval`), in seconds. -/
structure BatchInterval where
  start : UInt64
  duration : UInt64
deriving DecidableEq, Repr

/-- The times in an interval. Its end is not one of them. -/
def BatchInterval.times (self : BatchInterval) : Set ℕ :=
  Set.Ico self.start.toNat (self.start.toNat + self.duration.toNat)

/-- The functions of the janus libraries that have to do with time. -/
structure JanusTime where
  /-- `Interval::new`, applied to a start and a duration. -/
  newInterval : UInt64 → UInt64 → Except String BatchInterval
  /-- The timestamp of a report that a client uploads at this time. -/
  reportTime : JanusClient → UInt64 → UInt64

/-- What the crate relies on: an interval has the start and the duration it was
created with, its end is the only thing that is checked, and a report is stamped
with the time rounded down to the time precision of its client. -/
structure JanusTime.Faithful (T : JanusTime) : Prop where
  newInterval_ok : ∀ start duration, start.toNat + duration.toNat < 2 ^ 64 →
    T.newInterval start duration = .ok ⟨start, duration⟩
  newInterval_error : ∀ start duration, 2 ^ 64 ≤ start.toNat + duration.toNat →
    ∃ e, T.newInterval start duration = .error e
  reportTime_eq : ∀ client now, (T.reportTime client now).toNat =
    now.toNat / client.timePrecision * client.timePrecision

namespace JanusTime.Faithful

variable {T : JanusTime} {start duration : UInt64} {interval : BatchInterval}

theorem newInterval_eq_ok (hT : T.Faithful) : T.newInterval start duration = .ok interval ↔
    start.toNat + duration.toNat < 2 ^ 64 ∧ interval = ⟨start, duration⟩ := by
  rcases Nat.lt_or_ge (start.toNat + duration.toNat) (2 ^ 64) with hend | hend
  · rw [hT.newInterval_ok _ _ hend, Except.ok.injEq, eq_comm]
    exact ⟨fun h => ⟨hend, h⟩, And.right⟩
  · obtain ⟨e, he⟩ := hT.newInterval_error start duration hend
    rw [he]
    refine ⟨fun h => ?_, fun h => ?_⟩
    · cases h
    · exact (Nat.not_lt.mpr hend h.1).elim

theorem newInterval_isError_iff (hT : T.Faithful) :
    (∃ e, T.newInterval start duration = .error e) ↔
      2 ^ 64 ≤ start.toNat + duration.toNat := by
  refine ⟨fun ⟨e, he⟩ => ?_, hT.newInterval_error start duration⟩
  by_contra hend
  rw [hT.newInterval_ok _ _ (Nat.not_le.mp hend)] at he
  cases he

end JanusTime.Faithful

def JanusTime.plain : JanusTime where
  newInterval start duration :=
    if start.toNat + duration.toNat < 2 ^ 64 then .ok ⟨start, duration⟩
    else .error "interval end out of range"
  reportTime client now := .ofNat (now.toNat / client.timePrecision * client.timePrecision)

theorem JanusTime.plain_faithful : JanusTime.plain.Faithful where
  newInterval_ok _ _ h := if_pos h
  newInterval_error _ _ h := ⟨_, if_neg (Nat.not_lt.mpr h)⟩
  reportTime_eq _ now :=
    UInt64.toNat_ofNat_of_lt' (Nat.lt_of_le_of_lt (Nat.div_mul_le_self _ _) now.toNat_lt)

/-! ## Collecting -/

/-- Whether the program was built with overflow checks. -/
inductive Build where
  | debug
  | release
deriving DecidableEq, Repr

/-- Subtraction of machine words. An underflow panics or wraps around. -/
def Build.sub : Build → UInt64 → UInt64 → Except Failure UInt64
  | debug, a, b => if b ≤ a then .ok (a - b) else .error (.panic "attempt to subtract with overflow")
  | release, a, b => .ok (a - b)

/-- The arguments of `Collector::new`. -/
structure Collector where
  taskId : TaskId
  leaderEndpoint : Url
  authenticationToken : AuthenticationToken
  hpkeKeypair : HpkeKeypair
  vdafCollector : Prio3FixedPointBoundedL2VecSum
deriving DecidableEq

inductive CollectOp where
  | newCollector (collector : Collector)
  /-- The seconds since the epoch. -/
  | elapsed
  /-- Query the leader for a batch interval. -/
  | collect (collector : Collector) (interval : BatchInterval)
deriving DecidableEq

abbrev CollectAns (κ : Type) : CollectOp → Type
  | .newCollector _ => Except Error Unit
  | .elapsed => Except Error UInt64
  | .collect _ _ => Except Error κ

abbrev Collecting (κ : Type) (α : Type) : Type := Script CollectOp (CollectAns κ) Failure α

namespace Collecting

variable {κ α : Type}

def lift : Except Failure α → Collecting κ α
  | .ok a => .ret a
  | .error failure => .fail failure

/-- The `?` operator. -/
def orReturn (result : Except Error α) : Collecting κ α := lift (result.mapError .err)

def okOr (value : Option α) (error : Error) : Except Error α :=
  match value with
  | some a => .ok a
  | none => .error error

end Collecting

open Collecting

/-- The start of the batch, five slots before that of the collection. -/
def batchStart (build : Build) (start : UInt64) : Except Failure UInt64 :=
  let roundedStart := start / .ofNat TIME_PRECISION * .ofNat TIME_PRECISION
  build.sub roundedStart (.ofNat TIME_PRECISION * 5)

def batchDuration : UInt64 := .ofNat TIME_PRECISION * 15

namespace JanusManagerClient

variable {κ : Type} (J : Janus) (T : JanusTime) (build : Build)

/-- Collect results. -/
def collectGeneric (Fx : Type) [CompatibleFloat Fx] (self : JanusManagerClient) (taskId : TaskId) :
    Collecting κ κ := do
  let vdafCollector : Prio3FixedPointBoundedL2VecSum := {
    fixedType := CompatibleFloat.fixedType Fx
    numAggregators := 2
    length := self.vdafParameter.gradientLen }
  orReturn ((J.newFixedpointBoundedl2VecSum vdafCollector).mapError .prio)
  let collectorClient : Collector := {
    taskId := taskId
    leaderEndpoint := self.location.main.externalLeader
    authenticationToken := self.collectorAuthToken
    hpkeKeypair := self.hpkeKeypair
    vdafCollector := vdafCollector }
  orReturn (← Script.perform (.newCollector collectorClient))
  let start ← orReturn (← Script.perform .elapsed)
  let realStart ← lift (batchStart build start)
  let _host ← orReturn
    (okOr self.location.main.externalLeader.host (.anyhow "Couldnt get hostname"))
  let _port ← orReturn (okOr self.location.main.externalLeader.port (.anyhow "Couldnt get port"))
  let interval ← orReturn ((T.newInterval realStart batchDuration).mapError .janus)
  orReturn (← Script.perform (.collect collectorClient interval))

def collect (self : JanusManagerClient) (taskId : TaskId) : Collecting κ κ :=
  match self.vdafParameter.submissionType with
  | .fixedType16Bit => self.collectGeneric J T build Fixed16 taskId
  | .fixedType32Bit => self.collectGeneric J T build Fixed32 taskId

end JanusManagerClient

/-- Collect the aggregated gradients of the current training round. -/
def apiCollect {κ : Type} (J : Janus) (T : JanusTime) (build : Build) (istate : ControllerStateImmut)
    (mstate : ControllerStateMut) :
    Script CollectOp (CollectAns κ) Empty (Except Failure κ × ControllerStateMut) :=
  match mstate.round.taskId with
  | none => return (.error (.err (.anyhow "Cannot collect because no task_id available.")), mstate)
  | some taskId => do
    let result ← (istate.permanent.janusTasksClient.collect J T build taskId).attempt
    return (result, mstate)
