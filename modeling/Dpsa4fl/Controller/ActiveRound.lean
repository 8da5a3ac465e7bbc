-- SUMMARY: Runs of a controller's calls, and when it only collects tasks of its active session.
import Dpsa4fl.Library.Run
import Dpsa4fl.Controller.BatchIntervals

/-!
# The active round

The controller records the id of its training session and that of its task
separately. The four calls of its API are made in any order, and the outside
answers as it likes. A log says which sessions were created and ended, and which
tasks were started in them; no call reads it.
-/

/-! ## Runs of the calls -/

inductive RoundCall where
  | createSession (random : Nat → UInt8)
  | endSession
  | startRound (taskId : TaskId)
  | collect

/-- What the outside answers to the operations of a call. -/
structure RoundAnswers (κ : Type) where
  managers : Answers
  collector : Nat → (op : CollectOp) → CollectAns κ op

inductive RoundEvent where
  | created (id : TrainingSessionId)
  | ended (id : TrainingSessionId)
  | started (id : TrainingSessionId) (taskId : TaskId)
deriving DecidableEq

namespace RoundCall

/-- Whether the call returns `Ok`, and the state it leaves. -/
def play {κ : Type} (J : Janus) (T : JanusTime) (build : Build) (istate : ControllerStateImmut)
    (mstate : ControllerStateMut) (answers : RoundAnswers κ) :
    RoundCall → Bool × ControllerStateMut
  | createSession random =>
    let (result, mstate') := ((apiCreateSession J istate mstate random).play answers.managers 0).1
    (result.isOk, mstate')
  | endSession =>
    let (result, mstate') := ((apiEndSession istate mstate).play answers.managers 0).1
    (result.isOk, mstate')
  | startRound taskId =>
    let (result, mstate') := ((apiStartRound istate mstate taskId).play answers.managers 0).1
    (result.isOk, mstate')
  | collect =>
    let (result, mstate') := ((apiCollect J T build istate mstate).play answers.collector 0).1
    (result.isOk, mstate')

/-- What is logged of a successful call. -/
def events (mstate mstate' : ControllerStateMut) : RoundCall → List RoundEvent
  | createSession _ => (mstate'.round.trainingSessionId.map .created).toList
  | endSession => (mstate.round.trainingSessionId.map .ended).toList
  | startRound taskId => (mstate.round.trainingSessionId.map (.started · taskId)).toList
  | collect => []

end RoundCall

def roundStep {κ : Type} (J : Janus) (T : JanusTime) (build : Build) (istate : ControllerStateImmut)
    (s : ControllerStateMut × List RoundEvent) (a : RoundCall × RoundAnswers κ) :
    Option (ControllerStateMut × List RoundEvent) :=
  let (ok, mstate') := a.1.play J T build istate s.1 a.2
  some (mstate', if ok then s.2 ++ a.1.events s.1 mstate' else s.2)

/-- The state of a new controller. -/
def newControllerState : ControllerStateMut := ⟨⟨none, none⟩⟩

/-! ## The calls -/

/-- The ways in which a call can end. -/
inductive RoundCall.Plays (mstate : ControllerStateMut) :
    RoundCall → Bool → ControllerStateMut → Prop where
  | failed {call} : Plays mstate call false mstate
  | created {random id} : Plays mstate (.createSession random) true
      { mstate with round := { mstate.round with trainingSessionId := some id } }
  | ended {id} (hactive : mstate.round.trainingSessionId = some id) :
      Plays mstate .endSession true
        { mstate with round := { mstate.round with trainingSessionId := none } }
  | started {id taskId} (hactive : mstate.round.trainingSessionId = some id) :
      Plays mstate (.startRound taskId) true
        { mstate with round := { mstate.round with taskId := some taskId } }
  | collected : Plays mstate .collect true mstate

section
variable {κ : Type} {J : Janus} {T : JanusTime} {build : Build} {istate : ControllerStateImmut}
  {mstate mstate' : ControllerStateMut}

theorem plays_createSession {random : Nat → UInt8} {es : List Exchange}
    {result : Except Failure UInt16}
    (h : Script.Follows (apiCreateSession J istate mstate random) es (.ret (result, mstate'))) :
    RoundCall.Plays mstate (.createSession random) result.isOk mstate' := by
  obtain ⟨es₁, es₂, created, rfl, -, h⟩ := h.bind_ret
  cases created with
  | error failure =>
      cases (Script.Follows.ret_iff.mp h).2
      exact .failed
  | ok id =>
      cases (Script.Follows.ret_iff.mp h).2
      exact .created

theorem plays_endSession {es : List Exchange} {result : Except Failure Unit}
    (h : Script.Follows (apiEndSession istate mstate) es (.ret (result, mstate'))) :
    RoundCall.Plays mstate .endSession result.isOk mstate' := by
  unfold apiEndSession at h
  cases hactive : mstate.round.trainingSessionId with
  | none =>
      rw [hactive] at h
      cases (Script.Follows.ret_iff.mp h).2
      exact .failed
  | some id =>
      rw [hactive] at h
      obtain ⟨es₁, es₂, ended, rfl, -, h⟩ := h.bind_ret
      cases ended with
      | error failure =>
          cases (Script.Follows.ret_iff.mp h).2
          exact .failed
      | ok _ =>
          cases (Script.Follows.ret_iff.mp h).2
          exact .ended hactive

/-- A started round has the task id that was drawn for it. -/
theorem follows_startRound {client : JanusManagerClient} {taskId taskId' : TaskId}
    {id : TrainingSessionId} {es : List Exchange}
    (h : Script.Follows (client.startRound taskId id) es (.ret taskId')) : taskId' = taskId := by
  obtain ⟨es₁, es₂, leaderResponse, rfl, -, h⟩ := h.bind_ret
  obtain ⟨es₂, es₃, helperResponse, rfl, -, h⟩ := h.bind_ret
  unfold JanusManagerClient.bothOk at h
  split at h
  · cases (Script.Follows.ret_iff.mp h).2
    rfl
  · cases (Script.Follows.fail_iff.mp h).2

/-- Starting a round fails and changes nothing, or returns the task id as a
string and records it. -/
theorem apiStartRound_cases {taskId : TaskId} {es : List Exchange}
    {result : Except Failure String}
    (h : Script.Follows (apiStartRound istate mstate taskId) es (.ret (result, mstate'))) :
    (∃ failure, result = .error failure ∧ mstate' = mstate) ∨
      ∃ id, mstate.round.trainingSessionId = some id ∧ result = .ok (taskIdToString taskId) ∧
        mstate' = { mstate with round := { mstate.round with taskId := some taskId } } := by
  unfold apiStartRound at h
  cases hactive : mstate.round.trainingSessionId with
  | none =>
      rw [hactive] at h
      cases (Script.Follows.ret_iff.mp h).2
      exact .inl ⟨_, rfl, rfl⟩
  | some id =>
      rw [hactive] at h
      obtain ⟨es₁, es₂, started, rfl, hstart, hrest⟩ := h.bind_ret
      cases started with
      | error failure =>
          cases (Script.Follows.ret_iff.mp hrest).2
          exact .inl ⟨failure, rfl, rfl⟩
      | ok taskId' =>
          obtain rfl := follows_startRound hstart.attempt_ok
          cases (Script.Follows.ret_iff.mp hrest).2
          exact .inr ⟨id, rfl, rfl, rfl⟩

theorem plays_startRound {taskId : TaskId} {es : List Exchange} {result : Except Failure String}
    (h : Script.Follows (apiStartRound istate mstate taskId) es (.ret (result, mstate'))) :
    RoundCall.Plays mstate (.startRound taskId) result.isOk mstate' := by
  rcases apiStartRound_cases h with ⟨failure, rfl, rfl⟩ | ⟨id, hactive, rfl, rfl⟩
  · exact .failed
  · exact .started hactive

theorem plays_collect {es : List (Script.Exchange CollectOp (CollectAns κ))}
    {result : Except Failure κ}
    (h : Script.Follows (apiCollect J T build istate mstate) es (.ret (result, mstate'))) :
    RoundCall.Plays mstate .collect result.isOk mstate' := by
  have hmstate : mstate' = mstate := by
    unfold apiCollect at h
    split at h
    · cases (Script.Follows.ret_iff.mp h).2
      rfl
    · obtain ⟨es₁, es₂, collected, rfl, -, h⟩ := h.bind_ret
      cases (Script.Follows.ret_iff.mp h).2
      rfl
  rw [hmstate]
  cases result with
  | error failure => exact .failed
  | ok collection => exact .collected

theorem RoundCall.plays_play (call : RoundCall) (answers : RoundAnswers κ) :
    call.Plays mstate (call.play J T build istate mstate answers).1
      (call.play J T build istate mstate answers).2 := by
  cases call with
  | createSession random => exact plays_createSession (Script.follows_play _ _ _)
  | endSession => exact plays_endSession (Script.follows_play _ _ _)
  | startRound taskId => exact plays_startRound (Script.follows_play _ _ _)
  | collect => exact plays_collect (Script.follows_play _ _ _)

end

/-! ## The active session -/

/-- The session `id` is the last one that was created and has not been ended, and
the tasks started in it are `tasks`. -/
def ActiveSession (log : List RoundEvent) (id : TrainingSessionId) (tasks : List TaskId) : Prop :=
  ∃ before, log = before ++ .created id :: tasks.map (.started id)

/-- The task was started in the active session, which is `id`. -/
def StartedIn (log : List RoundEvent) (id : TrainingSessionId) (taskId : TaskId) : Prop :=
  ∃ tasks, ActiveSession log id tasks ∧ taskId ∈ tasks

/-- The recorded session is the active one. -/
def RecordsSession (s : ControllerStateMut × List RoundEvent) : Prop :=
  ∀ id, s.1.round.trainingSessionId = some id → ∃ tasks, ActiveSession s.2 id tasks

/-- The recorded task was started in the recorded session. -/
def RecordsTask (s : ControllerStateMut × List RoundEvent) : Prop :=
  ∀ taskId, s.1.round.taskId = some taskId →
    ∃ id, s.1.round.trainingSessionId = some id ∧ StartedIn s.2 id taskId

/-- Only tasks of the active session are collected: the recorded task is one, so every
query is for one, and without one the collection fails before it exchanges anything. -/
structure CollectsActiveRound (κ : Type) (J : Janus) (T : JanusTime) (build : Build)
    (istate : ControllerStateImmut) (s : ControllerStateMut × List RoundEvent) : Prop where
  task : RecordsTask s
  query : ∀ (es : List (Script.Exchange CollectOp (CollectAns κ))) m' collector interval r,
    Script.Follows (apiCollect J T build istate s.1) es m' →
    ⟨.collect collector interval, r⟩ ∈ es →
      ∃ id, s.1.round.trainingSessionId = some id ∧ StartedIn s.2 id collector.taskId
  fails : (∀ id taskId, s.1.round.trainingSessionId = some id → ¬ StartedIn s.2 id taskId) →
    ∃ error, apiCollect (κ := κ) J T build istate s.1 = .ret (.error (.err error), s.1)

/-- Both managers accept the call, and it creates a session or ends the recorded one. -/
def RoundCall.setsSession (J : Janus) (istate : ControllerStateImmut) (mstate : ControllerStateMut)
    (answers : Answers) : RoundCall → Bool
  | createSession random =>
    let client := istate.permanent.janusTasksClient
    let request := client.makeRequest (client.verifyKey J random)
    match answers 0 (.manager .leader (.createSession (request .leader none))) with
    | .ok (.ok (.createSession id)) =>
      match answers 1 (.manager .helper (.createSession (request .helper (some id)))) with
      | .ok (.ok (.createSession id')) => id' = id
      | _ => false
    | _ => false
  | endSession =>
    match mstate.round.trainingSessionId with
    | some id =>
      match answers 0 (.manager .leader (.endSession id)),
        answers 1 (.manager .helper (.endSession id)) with
      | .ok response, .ok response' => response.status = .ok && response'.status = .ok
      | _, _ => false
    | none => false
  | startRound _ => false
  | collect => false

/-- The call is there to create or to end a session. -/
def RoundCall.isSession : RoundCall → Bool
  | createSession _ => true
  | endSession => true
  | startRound _ => false
  | collect => false

/-- No session is created or ended in this step while a task is recorded. -/
def KeepsRound {κ : Type} (J : Janus) (istate : ControllerStateImmut)
    (s : ControllerStateMut × List RoundEvent) (a : RoundCall × RoundAnswers κ) : Prop :=
  a.1.setsSession J istate s.1 a.2.managers = true → s.1.round.taskId = none

instance {κ : Type} (J : Janus) (istate : ControllerStateImmut)
    (s : ControllerStateMut × List RoundEvent) (a : RoundCall × RoundAnswers κ) :
    Decidable (KeepsRound J istate s a) :=
  inferInstanceAs (Decidable (_ = _ → _ = _))

section
variable {κ : Type} {J : Janus} {T : JanusTime} {build : Build} {istate : ControllerStateImmut}
  {mstate : ControllerStateMut}

theorem setsSession_createSession (answers : RoundAnswers κ) (random : Nat → UInt8) :
    RoundCall.setsSession J istate mstate answers.managers (.createSession random) =
      (RoundCall.play J T build istate mstate answers (.createSession random)).1 := by
  simp only [RoundCall.setsSession, RoundCall.play, apiCreateSession,
    JanusManagerClient.createSession, Net.post, Script.call_bind, Script.attempt, Script.play]
  cases answers.managers 0 _ with
  | error e => rfl
  | ok response =>
      cases response with
      | badRequest e => rfl
      | ok response =>
          cases response with
          | createSession id =>
              simp only [Net.orReturn, Script.ret_bind, JanusManagerClient.createdSession_ok,
                Script.call_bind, Script.attempt, Script.play]
              cases answers.managers 1 _ with
              | error e => rfl
              | ok response =>
                  cases response with
                  | badRequest e => rfl
                  | ok response =>
                      cases response with
                      | createSession id' =>
                          simp only [Script.ret_bind, JanusManagerClient.createdSession_ok]
                          by_cases hid : id' = id
                          · simp only [if_pos hid, decide_eq_true hid]
                            rfl
                          · simp only [if_neg hid, decide_eq_false hid]
                            rfl
                      | _ => rfl
          | _ => rfl

theorem setsSession_endSession (answers : RoundAnswers κ) :
    RoundCall.setsSession J istate mstate answers.managers .endSession =
      (RoundCall.play J T build istate mstate answers .endSession).1 := by
  simp only [RoundCall.setsSession, RoundCall.play, apiEndSession]
  cases mstate.round.trainingSessionId with
  | none => rfl
  | some id =>
      simp only [JanusManagerClient.endSession, Net.post, Script.call_bind, Script.attempt,
        Script.play]
      cases answers.managers 0 _ with
      | error e => rfl
      | ok response =>
          simp only [Net.orReturn, Script.ret_bind, Script.call_bind, Script.attempt, Script.play]
          cases answers.managers 1 _ with
          | error e => rfl
          | ok response' => cases response <;> cases response' <;> rfl

/-- The managers accept a creation or an end of a session exactly if it succeeds. -/
theorem RoundCall.setsSession_eq (T : JanusTime) (build : Build) (call : RoundCall)
    (answers : RoundAnswers κ) : call.setsSession J istate mstate answers.managers =
      (call.isSession && (call.play J T build istate mstate answers).1) := by
  cases call with
  | createSession random => exact setsSession_createSession answers random
  | endSession => exact setsSession_endSession answers
  | startRound taskId => rfl
  | collect => rfl

end

section
variable {κ : Type} {J : Janus} {T : JanusTime} {build : Build} {istate : ControllerStateImmut}
  {s s' : ControllerStateMut × List RoundEvent}

theorem collectsActiveRound_iff : CollectsActiveRound κ J T build istate s ↔ RecordsTask s := by
  refine ⟨fun h => h.task, fun h => ⟨h, ?_, ?_⟩⟩
  · intro es m' collector interval r hfollows hmem
    obtain ⟨c, -, htask, -⟩ := follows_apiCollect hfollows hmem
    exact h _ htask
  · intro hnone
    cases htask : s.1.round.taskId with
    | none => exact ⟨_, by rw [apiCollect, htask]; rfl⟩
    | some taskId =>
        obtain ⟨id, hactive, hstarted⟩ := h taskId htask
        exact (hnone id taskId hactive hstarted).elim

/-- Right after a creation no task has been started. -/
theorem not_startedIn_created {log : List RoundEvent} {id k : TrainingSessionId}
    {taskId : TaskId} : ¬ StartedIn (log ++ [.created k]) id taskId := by
  rintro ⟨tasks, ⟨before, heq⟩, hmem⟩
  obtain ⟨tasks', last, rfl⟩ : ∃ tasks' last, tasks = tasks' ++ [last] := by
    rcases List.eq_nil_or_concat tasks with rfl | ⟨tasks', last, rfl⟩
    · cases hmem
    · exact ⟨tasks', last, List.concat_eq_append⟩
  rw [List.map_append, List.map_singleton, ← List.cons_append, ← List.append_assoc] at heq
  cases (List.append_inj_right' heq rfl)

theorem activeSession_started {log : List RoundEvent} {id : TrainingSessionId}
    {tasks : List TaskId} (h : ActiveSession log id tasks) (taskId : TaskId) :
    ActiveSession (log ++ [.started id taskId]) id (tasks ++ [taskId]) := by
  obtain ⟨before, rfl⟩ := h
  exact ⟨before, by simp⟩

/-- What a step does to the state and to the log. -/
theorem roundStep_plays {a : RoundCall × RoundAnswers κ}
    (h : roundStep J T build istate s a = some s') :
    a.1.Plays s.1 (a.1.play J T build istate s.1 a.2).1 s'.1 ∧
      s'.2 = if (a.1.play J T build istate s.1 a.2).1 then s.2 ++ a.1.events s.1 s'.1 else s.2 := by
  cases h
  exact ⟨a.1.plays_play a.2, rfl⟩

theorem recordsSession_step {a : RoundCall × RoundAnswers κ} (hs : RecordsSession s)
    (h : roundStep J T build istate s a = some s') : RecordsSession s' := by
  obtain ⟨hplays, hlog⟩ := roundStep_plays h
  obtain ⟨mstate', log'⟩ := s'
  obtain ⟨call, answers⟩ := a
  dsimp only at *
  generalize (call.play J T build istate s.1 answers).1 = ok at hplays hlog
  subst hlog
  intro id hactive
  cases hplays with
  | failed => exact hs id hactive
  | created =>
      cases hactive
      exact ⟨[], s.2, rfl⟩
  | ended => cases hactive
  | @started k taskId hk =>
      obtain ⟨tasks, htasks⟩ := hs id hactive
      obtain rfl := Option.some.inj (hk.symm.trans hactive)
      refine ⟨tasks ++ [taskId], ?_⟩
      simp only [if_true, RoundCall.events, hk, Option.map_some, Option.toList_some]
      exact activeSession_started htasks taskId
  | collected =>
      obtain ⟨tasks, htasks⟩ := hs id hactive
      exact ⟨tasks, by simpa [RoundCall.events] using htasks⟩

/-- A step keeps the recorded task one of the active session if and only if it does
not create or end a session while a task is recorded. -/
theorem recordsTask_step {a : RoundCall × RoundAnswers κ} (hs : RecordsSession s)
    (hs' : RecordsTask s) (h : roundStep J T build istate s a = some s') :
    RecordsTask s' ↔ KeepsRound J istate s a := by
  obtain ⟨hplays, hlog⟩ := roundStep_plays h
  obtain ⟨mstate', log'⟩ := s'
  obtain ⟨call, answers⟩ := a
  unfold KeepsRound
  rw [RoundCall.setsSession_eq T build]
  dsimp only at *
  generalize (call.play J T build istate s.1 answers).1 = ok at hplays hlog
  subst hlog
  cases hplays with
  | failed => exact iff_of_true hs' fun hsets => by rw [Bool.and_false] at hsets; cases hsets
  | @created random id =>
      constructor
      · intro htask _
        rw [Option.eq_none_iff_forall_ne_some]
        intro taskId hsome
        obtain ⟨k, -, hstarted⟩ := htask taskId hsome
        exact not_startedIn_created hstarted
      · intro hkeeps taskId hsome
        rw [hkeeps rfl] at hsome
        cases hsome
  | ended =>
      constructor
      · intro htask _
        rw [Option.eq_none_iff_forall_ne_some]
        intro taskId hsome
        obtain ⟨k, hnone, -⟩ := htask taskId hsome
        cases hnone
      · intro hkeeps taskId hsome
        rw [hkeeps rfl] at hsome
        cases hsome
  | @started id taskId hk =>
      refine iff_of_true ?_ fun hsets => by cases hsets
      rintro t ⟨⟩
      obtain ⟨tasks, htasks⟩ := hs id hk
      refine ⟨id, hk, tasks ++ [taskId], ?_, List.mem_append_right _ List.mem_cons_self⟩
      simp only [if_true, RoundCall.events, hk, Option.map_some, Option.toList_some]
      exact activeSession_started htasks taskId
  | collected =>
      refine iff_of_true ?_ fun hsets => by cases hsets
      simpa [RecordsTask, RoundCall.events] using hs'

/-- In every state of a run only tasks of the active session are collected, if and
only if no session is created or ended while a task is recorded. -/
theorem collects_active_round_iff {as : List (RoundCall × RoundAnswers κ)}
    (hrun : Run.after (roundStep J T build istate) (newControllerState, []) as = some s) :
    Run.Throughout (roundStep J T build istate) (CollectsActiveRound κ J T build istate)
        (newControllerState, []) as ↔
      Run.Along (roundStep J T build istate) (KeepsRound J istate) (newControllerState, []) as := by
  refine Run.throughout_iff (I := RecordsSession) (fun _ _ _ => recordsSession_step) ?_ ?_ ?_ hrun
  · intro s a s' hs hs' h
    rw [collectsActiveRound_iff] at hs' ⊢
    exact recordsTask_step hs hs' h
  · intro id hactive
    cases hactive
  · rw [collectsActiveRound_iff]
    intro taskId htask
    cases htask

end

namespace Sample

/-- Both managers accept what they are asked for, with this session id. -/
def roundAnswers (id : UInt16) : RoundAnswers Unit where
  managers
    | _, .manager _ (.createSession _) => .ok (.ok (.createSession ⟨id⟩))
    | _, .manager _ (.endSession _) => .ok (.ok .endSession)
    | _, .manager _ _ => .ok (.ok .startRound)
    | _, .defaultHttpClient => .ok ()
    | _, .buildClient _ => .ok ()
    | _, .upload _ _ => .ok ()
  collector
    | _, .newCollector _ => .ok ()
    | _, .elapsed => .ok 100000
    | _, .collect _ _ => .ok ()

def oneSession : List (RoundCall × RoundAnswers Unit) :=
  [(.createSession fun _ => 1, roundAnswers 5), (.startRound (taskId 1), roundAnswers 5),
   (.collect, roundAnswers 5)]

/-- A session with a round, and then another one without. -/
def twoSessions : List (RoundCall × RoundAnswers Unit) :=
  [(.createSession fun _ => 1, roundAnswers 6), (.startRound (taskId 1), roundAnswers 6),
   (.endSession, roundAnswers 6), (.createSession fun _ => 1, roundAnswers 5)]

end Sample

theorem collects_active_round_sample :
    ∃ s, Run.after (roundStep .plain .plain .debug Sample.collecting) (newControllerState, [])
        Sample.oneSession = some s ∧
      s.1 = Sample.startedRound ∧
      Run.Throughout (roundStep .plain .plain .debug Sample.collecting)
        (CollectsActiveRound Unit .plain .plain .debug Sample.collecting)
        (newControllerState, []) Sample.oneSession := by
  have hruns : (Run.after (roundStep .plain .plain .debug Sample.collecting)
      (newControllerState, []) Sample.oneSession).map (·.1) = some Sample.startedRound := by
    decide +kernel
  obtain ⟨s, hrun, hs⟩ := Option.map_eq_some_iff.mp hruns
  exact ⟨s, hrun, hs, (collects_active_round_iff hrun).mpr (by decide +kernel)⟩

/-- In a new session, the task of the session before is collected. -/
theorem collects_other_round :
    ∃ s, Run.after (roundStep .plain .plain .debug Sample.collecting) (newControllerState, [])
        Sample.twoSessions = some s ∧
      s = (Sample.startedRound,
        [.created ⟨6⟩, .started ⟨6⟩ (Sample.taskId 1), .ended ⟨6⟩, .created ⟨5⟩]) ∧
      Script.Follows (apiCollect .plain .plain .debug Sample.collecting s.1)
        (Sample.collected 100000) (.ret (.ok (), s.1)) ∧
      ¬ CollectsActiveRound Unit .plain .plain .debug Sample.collecting s := by
  have hruns : Run.after (roundStep .plain .plain .debug Sample.collecting)
      (newControllerState, []) Sample.twoSessions = some (Sample.startedRound,
        [.created ⟨6⟩, .started ⟨6⟩ (Sample.taskId 1), .ended ⟨6⟩, .created ⟨5⟩]) := by
    decide +kernel
  refine ⟨_, hruns, rfl, Sample.follows_collected (by decide), fun h => ?_⟩
  obtain ⟨id, -, hstarted⟩ := h.task (Sample.taskId 1) rfl
  change StartedIn ([_, _, _] ++ [.created ⟨5⟩]) id _ at hstarted
  exact not_startedIn_created hstarted
