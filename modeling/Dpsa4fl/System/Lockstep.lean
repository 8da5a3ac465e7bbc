-- SUMMARY: A controller and the two managers stay in step as long as no message is lost and no transaction fails.
import Dpsa4fl.JanusManager.Coherence
import Dpsa4fl.Controller.Embedded
import Dpsa4fl.System.FailedSetup

/-!
# Lockstep

One controller creates sessions, starts rounds and ends sessions, in any order
and any number of times. Between two of its calls both managers have exactly the
session that the controller has recorded, with the same parameters and with the
rounds started in it as tasks.
-/

/-- A controller and the two managers it talks to. -/
structure System where
  managers : Managers
  mstate : ControllerStateMut

inductive ControllerCall where
  | createSession (random : Nat → UInt8)
  | endSession
  | startRound (taskId : TaskId)

/-- Run a call of the controller's API. -/
def System.call {α : Type} (J : Janus) (o : Outside) (sys : System)
    (api : ControllerStateMut → Api (Except Failure α × ControllerStateMut)) :
    Except Failure α × System :=
  match sys.managers.run J o (api sys.mstate) with
  | (.ok (result, mstate), managers) => (result, ⟨managers, mstate⟩)
  | (.error e, _) => e.elim

def ControllerCall.run (J : Janus) (istate : ControllerStateImmut) (o : Outside) (sys : System) :
    ControllerCall → Except Failure Unit × System
  | createSession random =>
    let (result, sys') := sys.call J o fun mstate => apiCreateSession J istate mstate random
    (result.map fun _ => (), sys')
  | endSession => sys.call J o fun mstate => apiEndSession istate mstate
  | startRound taskId =>
    let (result, sys') := sys.call J o fun mstate => apiStartRound istate mstate taskId
    (result.map fun _ => (), sys')

def System.step (J : Janus) (istate : ControllerStateImmut) (sys : System)
    (a : ControllerCall × Outside) : Option System :=
  some (a.1.run J istate a.2 sys).2

/-- The rounds started since the last session was created. No call reads them. -/
def System.logRounds (J : Janus) (istate : ControllerStateImmut) (sys : System)
    (a : ControllerCall × Outside) (started : List TaskId) : List TaskId :=
  match a.1, (a.1.run J istate a.2 sys).1 with
  | .createSession _, .ok () => []
  | .startRound taskId, .ok () => started ++ [taskId]
  | _, _ => started

/-- Runs of the controller and its managers with the rounds of the session. -/
abbrev System.loggedStep (J : Janus) (istate : ControllerStateImmut) :
    System × List TaskId → ControllerCall × Outside → Option (System × List TaskId) :=
  Run.withLog (System.step J istate) (System.logRounds J istate)

/-! ## The assumptions -/

/-- The libraries accept what this client makes: its tokens, and tasks for its
VDAF with a verify key of the right length. -/
structure Janus.Accepts (J : Janus) (client : JanusManagerClient) : Prop where
  keys : J.GeneratesKeys
  collectorToken : ∃ token, J.newBearerTokenFromBytes client.collectorAuthToken.asRef = .ok token
  leaderToken : ∃ token, J.newBearerTokenFromBytes
    (Base64Url.encode client.leaderAuthToken.asRef).toUTF8.data.toList = .ok token
  tasks : ∀ arguments, arguments.vdaf = client.vdafParameter.toVdafInstance J →
    arguments.opaqueVdafVerifyKey.length = J.verifyKeyLength arguments.vdaf →
    ∃ task, J.newAggregatorTask arguments = .ok task

/-- The clock works, and every transaction goes through. -/
def Outside.Healthy (o : Outside) : Prop :=
  ∀ n, (o.ambient n).elapsed.isOk ∧ (o.ambient n).transaction = .ok ()

/-- A session is created only when none is recorded, and task ids are fresh. -/
def System.Proper (sys : System) : ControllerCall → Prop
  | .createSession _ => sys.mstate.round.trainingSessionId = none
  | .endSession => True
  | .startRound taskId => sys.managers.leader.datastore.lookup taskId = none ∧
      sys.managers.helper.datastore.lookup taskId = none

instance (sys : System) (call : ControllerCall) : Decidable (sys.Proper call) := by
  cases call <;> unfold System.Proper <;> infer_instance

/-- The call may expect to succeed in this state. -/
def System.Ready (sys : System) : ControllerCall → Prop
  | .createSession _ => sys.mstate.round.trainingSessionId = none
  | .endSession => sys.mstate.round.trainingSessionId.isSome
  | .startRound _ => sys.mstate.round.trainingSessionId.isSome

instance (sys : System) (call : ControllerCall) : Decidable (sys.Ready call) := by
  cases call <;> unfold System.Ready <;> infer_instance

/-! ## The relation -/

/-- The sessions of the two managers have the same parameters and tasks. -/
structure TrainingSession.Matches (s s' : TrainingSession) : Prop where
  leader : s.role = .leader
  helper : s'.role = .helper
  verifyKey : s.verifyKey = s'.verifyKey
  collectorAuthToken : s.collectorAuthToken = s'.collectorAuthToken
  leaderAuthToken : s.leaderAuthToken = s'.leaderAuthToken
  collectorHpkeConfig : s.collectorHpkeConfig = s'.collectorHpkeConfig
  vdafParameter : s.vdafParameter = s'.vdafParameter
  tasks : s.tasks = s'.tasks

/-- The manager has this session and no other. -/
def TaskProvisioner.OnlySession (p : TaskProvisioner) (id : TrainingSessionId)
    (s : TrainingSession) : Prop :=
  ∀ k, p.trainingSessions.lookup k = if k = id then some s else none

/-- Both managers have exactly the recorded session, or none if none is
recorded. Its tasks are the rounds started in it; the last one is recorded too. -/
inductive System.Lockstep (sys : System) (started : List TaskId) : Prop where
  | idle (hrecorded : sys.mstate.round.trainingSessionId = none)
      (hleader : ∀ k, sys.managers.leader.trainingSessions.lookup k = none)
      (hhelper : ∀ k, sys.managers.helper.trainingSessions.lookup k = none)
  | active {id s s'} (hrecorded : sys.mstate.round.trainingSessionId = some id)
      (hleader : sys.managers.leader.OnlySession id s)
      (hhelper : sys.managers.helper.OnlySession id s') (hmatches : s.Matches s')
      (htasks : s.tasks = started)
      (hlast : started ≠ [] → started.getLast? = sys.mstate.round.taskId)

/-! ## The calls, in terms of the client's calls -/

namespace System

variable {J : Janus} {istate : ControllerStateImmut} {o : Outside} {sys : System}

theorem call_of_attempt {α β : Type} {m : Net β}
    {f : Except Failure β → Api (Except Failure α × ControllerStateMut)}
    {api : ControllerStateMut → Api (Except Failure α × ControllerStateMut)}
    {r : Except Failure β} {managers : Managers} {result : Except Failure α}
    {mstate : ControllerStateMut} (hapi : api sys.mstate = m.attempt >>= f)
    (hrun : sys.managers.run J o m = (r, managers)) (hf : f r = .ret (result, mstate)) :
    sys.call J o api = (result, ⟨managers, mstate⟩) := by
  unfold call Managers.run
  rw [hapi, Script.exec_attempt_bind _ hrun hf]

theorem call_createSession (random : Nat → UInt8) :
    sys.call J o (fun mstate => apiCreateSession J istate mstate random) =
      match sys.managers.run J o (istate.permanent.janusTasksClient.createSession J random) with
      | (.ok id, m) => (.ok id.value,
          ⟨m, { sys.mstate with round := { sys.mstate.round with trainingSessionId := some id } }⟩)
      | (.error e, m) => (.error e, ⟨m, sys.mstate⟩) := by
  generalize hrun : sys.managers.run J o _ = r
  obtain ⟨_ | _, m⟩ := r
  · exact call_of_attempt rfl hrun rfl
  · exact call_of_attempt rfl hrun rfl

theorem call_endSession {id : TrainingSessionId}
    (hrecorded : sys.mstate.round.trainingSessionId = some id) :
    sys.call J o (fun mstate => apiEndSession istate mstate) =
      match sys.managers.run J o (istate.permanent.janusTasksClient.endSession id) with
      | (.ok _, m) => (.ok (),
          ⟨m, { sys.mstate with round := { sys.mstate.round with trainingSessionId := none } }⟩)
      | (.error e, m) => (.error e, ⟨m, sys.mstate⟩) := by
  obtain ⟨managers, ⟨⟨current, _⟩⟩⟩ := sys
  cases hrecorded
  generalize hrun : managers.run J o _ = r
  obtain ⟨_ | _, m⟩ := r
  · exact call_of_attempt rfl hrun rfl
  · exact call_of_attempt rfl hrun rfl

theorem call_startRound {id : TrainingSessionId} (taskId : TaskId)
    (hrecorded : sys.mstate.round.trainingSessionId = some id) :
    sys.call J o (fun mstate => apiStartRound istate mstate taskId) =
      match sys.managers.run J o (istate.permanent.janusTasksClient.startRound taskId id) with
      | (.ok t, m) => (.ok (taskIdToString t),
          ⟨m, { sys.mstate with round := { sys.mstate.round with taskId := some t } }⟩)
      | (.error e, m) => (.error e, ⟨m, sys.mstate⟩) := by
  obtain ⟨managers, ⟨⟨current, _⟩⟩⟩ := sys
  cases hrecorded
  generalize hrun : managers.run J o _ = r
  obtain ⟨_ | _, m⟩ := r
  · exact call_of_attempt rfl hrun rfl
  · exact call_of_attempt rfl hrun rfl

end System

/-! ## The invariant -/

/-- The session was created by this client. -/
structure TrainingSession.MadeFor (J : Janus) (client : JanusManagerClient) (s : TrainingSession) :
    Prop where
  vdafParameter : s.vdafParameter = client.vdafParameter
  verifyKey : s.verifyKey.length = J.verifyKeyLength (client.vdafParameter.toVdafInstance J)

/-- The controller and its managers are in step, and every session is its own. -/
inductive System.Steady (J : Janus) (client : JanusManagerClient) (sys : System)
    (started : List TaskId) : Prop where
  | idle (hrecorded : sys.mstate.round.trainingSessionId = none)
      (hleader : ∀ k, sys.managers.leader.trainingSessions.lookup k = none)
      (hhelper : ∀ k, sys.managers.helper.trainingSessions.lookup k = none)
  | active {id s s'} (hrecorded : sys.mstate.round.trainingSessionId = some id)
      (hleader : sys.managers.leader.OnlySession id s)
      (hhelper : sys.managers.helper.OnlySession id s') (hmatches : s.Matches s')
      (htasks : s.tasks = started)
      (hlast : started ≠ [] → started.getLast? = sys.mstate.round.taskId)
      (hmade : s.MadeFor J client)

theorem System.Steady.in_lockstep {J : Janus} {client : JanusManagerClient} {sys : System}
    {started : List TaskId} (h : sys.Steady J client started) : sys.Lockstep started := by
  cases h with
  | idle hrecorded hleader hhelper => exact .idle hrecorded hleader hhelper
  | active hrecorded hleader hhelper hmatches htasks hlast =>
      exact .active hrecorded hleader hhelper hmatches htasks hlast

namespace TaskProvisioner.OnlySession

variable {p p' : TaskProvisioner} {id : TrainingSessionId} {s s' : TrainingSession}

theorem lookup_self (h : p.OnlySession id s) : p.trainingSessions.lookup id = some s := by
  rw [h id, if_pos rfl]

theorem of_insert (hfree : ∀ k, k ≠ id → p.trainingSessions.lookup k = none)
    (hinsert : p'.trainingSessions = p.trainingSessions.insert id s) : p'.OnlySession id s := by
  intro k
  rw [hinsert]
  split
  · rename_i hk
    rw [hk, AList.lookup_insert]
  · rename_i hk
    rw [AList.lookup_insert_ne hk, hfree k hk]

theorem free_of_ne (h : p.OnlySession id s) {k : TrainingSessionId} (hk : k ≠ id) :
    p.trainingSessions.lookup k = none := by
  rw [h k, if_neg hk]

end TaskProvisioner.OnlySession

/-- The secrets of a client survive the trip in any of its requests. -/
theorem Janus.Accepts.secrets {J : Janus} {client : JanusManagerClient} (h : J.Accepts client) :
    ∃ collector leader, ∀ verifyKey role id,
      createSessionSecrets J (client.makeRequest verifyKey role id) =
        .ok ⟨collector, leader, verifyKey⟩ := by
  obtain ⟨collector, hcollector⟩ := h.collectorToken
  obtain ⟨leader, hleader⟩ := h.leaderToken
  refine ⟨collector, leader, fun verifyKey role id => ?_⟩
  simp only [createSessionSecrets, JanusManagerClient.makeRequest, Base64Url.decode_encode, hleader,
    Except.mapError]
  simp only [bind, Except.bind, hcollector]
  rfl

namespace System

variable {J : Janus} {istate : ControllerStateImmut} {o : Outside} {sys : System}
  {started : List TaskId}

theorem createSession_steady (hJ : J.Accepts istate.permanent.janusTasksClient) (ho : o.Reliable)
    (h : sys.Steady J istate.permanent.janusTasksClient started) (random : Nat → UInt8)
    (hnone : sys.mstate.round.trainingSessionId = none) :
    (ControllerCall.run J istate o sys (.createSession random)).1 = .ok () ∧
      Steady J istate.permanent.janusTasksClient
        (ControllerCall.run J istate o sys (.createSession random)).2 [] := by
  obtain ⟨managers, mstate⟩ := sys
  simp only at hnone
  obtain ⟨collector, leader, hsecrets⟩ := hJ.secrets
  obtain ⟨hleaderFree, hhelperFree⟩ :
      (∀ k, managers.leader.trainingSessions.lookup k = none) ∧
        ∀ k, managers.helper.trainingSessions.lookup k = none := by
    cases h with
    | idle _ hleader hhelper => exact ⟨hleader, hhelper⟩
    | active hrecorded => rw [hnone] at hrecorded; cases hrecorded
  simp only [ControllerCall.run, call_createSession]
  have hcreates : Managers.Creates J o managers _
      (managers.run J o (istate.permanent.janusTasksClient.createSession J random)) :=
    Managers.run_createSession ho random
  generalize managers.run J o _ = r at hcreates
  cases hcreates with
  | leaderFailed hleader =>
      obtain ⟨id, p', haccepted⟩ :=
        answer_createSession_accepted hJ.keys (hsecrets _ _ _) fun k _ => hleaderFree k
      rw [hleader] at haccepted; cases haccepted
  | helperFailed _ hhelper =>
      obtain ⟨id, p', haccepted⟩ :=
        answer_createSession_accepted hJ.keys (hsecrets _ _ _) fun k _ => hhelperFree k
      rw [hhelper] at haccepted; cases haccepted
  | @created id p p' hleader hhelper =>
      refine ⟨rfl, ?_⟩
      cases answer_spec hleader with
      | @created _ _ secrets keypair _ hsec _ _ _ hsessions =>
      cases answer_spec hhelper with
      | @created _ _ secrets' keypair' _ hsec' _ _ _ hsessions' =>
          obtain rfl := Except.ok.inj ((hsecrets _ _ _).symm.trans hsec)
          obtain rfl := Except.ok.inj ((hsecrets _ _ _).symm.trans hsec')
          exact .active rfl (.of_insert (fun k _ => hleaderFree k) hsessions)
            (.of_insert (fun k _ => hhelperFree k) hsessions')
            ⟨rfl, rfl, rfl, rfl, rfl, rfl, rfl, rfl⟩ rfl (fun h => (h rfl).elim)
            ⟨rfl, by simp [JanusManagerClient.verifyKey, CreateTrainingSessionRequest.session]⟩

theorem endSession_steady (ho : o.Reliable) {client : JanusManagerClient}
    (h : sys.Steady J client started) (hsome : sys.mstate.round.trainingSessionId.isSome) :
    (ControllerCall.run J istate o sys .endSession).1 = .ok () ∧
      Steady J client (ControllerCall.run J istate o sys .endSession).2 started := by
  cases h with
  | idle hrecorded => rw [hrecorded] at hsome; cases hsome
  | @active id s s' hrecorded hleaderOnly hhelperOnly =>
      simp only [ControllerCall.run, call_endSession hrecorded]
      have hends : Managers.Ends J o sys.managers id
          (sys.managers.run J o (istate.permanent.janusTasksClient.endSession id)) :=
        Managers.run_endSession id
      generalize sys.managers.run J o _ = r at hends
      cases hends with
      | leaderRequestLost hfault => rw [ho 0] at hfault; cases hfault
      | leaderReplyLost hfault => rw [ho 0] at hfault; cases hfault
      | helperRequestLost _ hfault => rw [ho 1] at hfault; cases hfault
      | helperReplyLost _ hfault => rw [ho 1] at hfault; cases hfault
      | @answered result answer answer' p p' _ _ hleader hhelper hresult =>
          obtain ⟨hgone, hothers, -, hiff⟩ := (answer_spec hleader).endSession_effect
          obtain ⟨hgone', hothers', -, hiff'⟩ := (answer_spec hhelper).endSession_effect
          have hok := hiff.mpr (by rw [hleaderOnly.lookup_self]; rfl)
          have hok' := hiff'.mpr (by rw [hhelperOnly.lookup_self]; rfl)
          rcases hresult with ⟨rfl, -⟩ | ⟨-, hnot⟩
          · refine ⟨rfl, .idle rfl (fun k => ?_) fun k => ?_⟩
            · by_cases hk : k = id
              · rw [hk]; exact hgone
              · exact (hothers k hk).trans (hleaderOnly.free_of_ne hk)
            · by_cases hk : k = id
              · rw [hk]; exact hgone'
              · exact (hothers' k hk).trans (hhelperOnly.free_of_ne hk)
          · exact (hnot ⟨hok, hok'⟩).elim

/-- A manager that has the session accepts a fresh task for it. -/
theorem startRound_accepted (hJ : J.Faithful) {client : JanusManagerClient} (hacc : J.Accepts client)
    {ω : Ambient} (hω : ω.elapsed.isOk ∧ ω.transaction = .ok ()) {p : TaskProvisioner}
    {id : TrainingSessionId} {s : TrainingSession} (hlive : p.trainingSessions.lookup id = some s)
    (hmade : s.MadeFor J client) (hrole : s.role = .leader ∨ s.role = .helper) {taskId : TaskId}
    (hnew : p.datastore.lookup taskId = none) :
    ∃ p', p.answer J ω (.startRound ⟨id, taskIdToString taskId⟩) = (.ok .startRound, p') := by
  obtain ⟨params, hparams⟩ : ∃ params, s.taskParams J = .ok params := by
    unfold TrainingSession.taskParams
    rcases hrole with hrole | hrole <;> rw [hrole] <;> exact ⟨_, rfl⟩
  obtain ⟨task, htask⟩ := hacc.tasks (s.taskArguments J p.config taskId params)
    (by simp only [TrainingSession.taskArguments, hmade.vdafParameter])
    (by simp only [TrainingSession.taskArguments, hmade.verifyKey, hmade.vdafParameter])
  have hbuilds : s.Builds J p.config taskId task := ⟨params, hparams, htask⟩
  exact answer_startRound_accepted hlive (taskIdFromString_toString taskId) hω.1 hparams htask
    (by rw [hbuilds.id_eq hJ]; exact hnew) hω.2

theorem startRound_steady (hJ : J.Faithful) (hacc : J.Accepts istate.permanent.janusTasksClient)
    (ho : o.Reliable) (hhealthy : o.Healthy)
    (h : sys.Steady J istate.permanent.janusTasksClient started) {taskId : TaskId}
    (hproper : sys.Proper (.startRound taskId)) (hsome : sys.mstate.round.trainingSessionId.isSome) :
    (ControllerCall.run J istate o sys (.startRound taskId)).1 = .ok () ∧
      Steady J istate.permanent.janusTasksClient
        (ControllerCall.run J istate o sys (.startRound taskId)).2 (started ++ [taskId]) := by
  cases h with
  | idle hrecorded => rw [hrecorded] at hsome; cases hsome
  | @active id s s' hrecorded hleaderOnly hhelperOnly hmatches htasks hlast hmade =>
      have hmade' : s'.MadeFor J istate.permanent.janusTasksClient :=
        ⟨hmatches.vdafParameter ▸ hmade.vdafParameter, hmatches.verifyKey ▸ hmade.verifyKey⟩
      obtain ⟨q, hq⟩ := startRound_accepted hJ hacc (hhealthy 0) hleaderOnly.lookup_self hmade
        (.inl hmatches.leader) hproper.1
      obtain ⟨q', hq'⟩ := startRound_accepted hJ hacc (hhealthy 1) hhelperOnly.lookup_self hmade'
        (.inr hmatches.helper) hproper.2
      simp only [ControllerCall.run, call_startRound taskId hrecorded]
      have hstarts : Managers.Starts J o sys.managers ⟨id, taskIdToString taskId⟩ taskId
          (sys.managers.run J o (istate.permanent.janusTasksClient.startRound taskId id)) :=
        Managers.run_startRound ho taskId id
      generalize sys.managers.run J o _ = r at hstarts
      cases hstarts with
      | unanswered hleader => rw [hleader] at hq; cases hq
      | failed hleader hhelper hfailed =>
          rw [hleader] at hq; rw [hhelper] at hq'
          cases hq; cases hq'
          rcases hfailed with h | h <;> exact (h rfl).elim
      | @started p p' hleader hhelper =>
          refine ⟨rfl, ?_⟩
          cases answer_spec hleader with
          | @started _ s₁ t _ _ hlive hdecode _ _ _ hsessions =>
          cases answer_spec hhelper with
          | @started _ s₁' t' _ _ hlive' hdecode' _ _ _ hsessions' =>
              obtain rfl := Option.some.inj (hleaderOnly.lookup_self.symm.trans hlive)
              obtain rfl := Option.some.inj (hhelperOnly.lookup_self.symm.trans hlive')
              obtain rfl := eq_of_taskIdFromString hdecode
              obtain rfl := eq_of_taskIdFromString hdecode'
              refine .active hrecorded (.of_insert (fun k hk => hleaderOnly.free_of_ne hk) hsessions)
                (.of_insert (fun k hk => hhelperOnly.free_of_ne hk) hsessions') ?_ ?_ ?_
                ⟨hmade.vdafParameter, hmade.verifyKey⟩
              · exact ⟨hmatches.1, hmatches.2, hmatches.3, hmatches.4, hmatches.5, hmatches.6,
                  hmatches.7, by rw [hmatches.tasks]⟩
              · simp only [htasks]
              · intro _
                rw [List.getLast?_append]
                rfl

/-- Without a recorded session, nothing is sent, nothing changes and the call fails. -/
theorem run_of_none (hnone : sys.mstate.round.trainingSessionId = none) (call : ControllerCall)
    (hcall : ∀ random, call ≠ .createSession random) :
    ∃ e, call.run J istate o sys = (.error e, sys) := by
  obtain ⟨managers, ⟨⟨current, _⟩⟩⟩ := sys
  cases hnone
  cases call with
  | createSession random => exact (hcall random rfl).elim
  | endSession => exact ⟨_, rfl⟩
  | startRound taskId => exact ⟨_, rfl⟩

theorem steady_step (hJ : J.Faithful) (hacc : J.Accepts istate.permanent.janusTasksClient)
    (ho : o.Reliable) (hhealthy : o.Healthy)
    (h : sys.Steady J istate.permanent.janusTasksClient started)
    {call : ControllerCall} (hproper : sys.Proper call) :
    (sys.Ready call → (call.run J istate o sys).1 = .ok ()) ∧
      Steady J istate.permanent.janusTasksClient (call.run J istate o sys).2
        (logRounds J istate sys (call, o) started) := by
  cases call with
  | createSession random =>
      obtain ⟨hok, hsteady⟩ := createSession_steady hacc ho h random hproper
      refine ⟨fun _ => hok, ?_⟩
      simp only [logRounds, hok]
      exact hsteady
  | endSession =>
      cases hrecorded : sys.mstate.round.trainingSessionId with
      | some id =>
          obtain ⟨hok, hsteady⟩ := endSession_steady ho h (by rw [hrecorded]; rfl)
          exact ⟨fun _ => hok, hsteady⟩
      | none =>
          obtain ⟨e, hrun⟩ : ∃ e, ControllerCall.run J istate o sys .endSession = (.error e, sys) :=
            run_of_none hrecorded _ (by simp)
          rw [hrun]
          exact ⟨fun hready => by simp [Ready, hrecorded] at hready, h⟩
  | startRound taskId =>
      cases hrecorded : sys.mstate.round.trainingSessionId with
      | some id =>
          obtain ⟨hok, hsteady⟩ :=
            startRound_steady hJ hacc ho hhealthy h hproper (by rw [hrecorded]; rfl)
          refine ⟨fun _ => hok, ?_⟩
          simp only [logRounds, hok]
          exact hsteady
      | none =>
          obtain ⟨e, hrun⟩ :
              ∃ e, ControllerCall.run J istate o sys (.startRound taskId) = (.error e, sys) :=
            run_of_none hrecorded _ (by simp)
          simp only [logRounds, hrun]
          exact ⟨fun hready => by simp [Ready, hrecorded] at hready, h⟩

/-- Started with no sessions, controller and managers are in step after any
number of proper calls, and every further proper call that is ready returns `Ok`. -/
theorem lockstep (hJ : J.Faithful) (hacc : J.Accepts istate.permanent.janusTasksClient)
    {sys sys' : System} {started : List TaskId} {as : List (ControllerCall × Outside)}
    (hrecorded : sys.mstate.round.trainingSessionId = none)
    (hleader : sys.managers.leader.trainingSessions = ∅)
    (hhelper : sys.managers.helper.trainingSessions = ∅)
    (hrun : Run.after (System.loggedStep J istate) (sys, []) as = some (sys', started))
    (hproper : Run.Along (System.loggedStep J istate)
      (fun s a => a.2.Reliable ∧ a.2.Healthy ∧ s.1.Proper a.1) (sys, []) as) :
    sys'.Lockstep started ∧ ∀ call (o : Outside), o.Reliable → o.Healthy → sys'.Proper call →
      sys'.Ready call → (call.run J istate o sys').1 = .ok () := by
  have hstart : sys.Steady J istate.permanent.janusTasksClient [] :=
    .idle hrecorded (fun k => by rw [hleader, AList.lookup_empty])
      fun k => by rw [hhelper, AList.lookup_empty]
  have hsteady : sys'.Steady J istate.permanent.janusTasksClient started := by
    refine Run.invariant_of
      (P := fun s : System × List TaskId => s.1.Steady J istate.permanent.janusTasksClient s.2)
      (fun s a s' hs hC hstep => ?_) hstart hrun hproper
    obtain ⟨hcall, hlog⟩ := Run.withLog_eq_some.mp hstep
    rw [hlog, ← Option.some.inj hcall]
    exact (steady_step hJ hacc hC.1 hC.2.1 hs hC.2.2).2
  exact ⟨hsteady.in_lockstep, fun call o ho hhealthy hproper hready =>
    (steady_step hJ hacc ho hhealthy hsteady hproper).1 hready⟩

end System

namespace Sample

def controller : ControllerStateImmut := ⟨⟨⟨⟨url, url⟩, ⟨url, url⟩⟩, vdafParameter⟩, ⟨client⟩⟩

/-- A controller with no session and two managers with none. -/
def system : System := ⟨⟨.new ∅ config, .new ∅ config⟩, ⟨⟨none, none⟩⟩⟩

/-- Two sessions that get the same id, with a round in the first and two in the second. -/
def calls : List (ControllerCall × Outside) :=
  [.createSession fun _ => 1, .startRound (taskId 1), .endSession, .createSession fun _ => 2,
   .startRound (taskId 2), .startRound (taskId 3)].map fun call => (call, reliable 5)

theorem plain_accepts : Janus.plain.Accepts client where
  keys := Janus.plain_generatesKeys
  collectorToken := ⟨.bearer [97, 98, 99], by decide +kernel⟩
  leaderToken := ⟨.bearer [89, 81], by decide +kernel⟩
  tasks := fun arguments _ _ => ⟨arguments, rfl⟩

end Sample

theorem System.lockstep_sample :
    ∃ sys', Run.after (System.loggedStep .plain Sample.controller) (Sample.system, [])
        Sample.calls = some (sys', [Sample.taskId 2, Sample.taskId 3]) ∧
      sys'.Lockstep [Sample.taskId 2, Sample.taskId 3] ∧
      (ControllerCall.endSession.run .plain Sample.controller (Sample.reliable 5)
        sys').1 = .ok () := by
  have ho : (Sample.reliable 5).Reliable := fun _ => rfl
  have hhealthy : (Sample.reliable 5).Healthy := fun _ => ⟨rfl, rfl⟩
  have hproper : Run.Along (System.loggedStep .plain Sample.controller)
      (fun s a => a.2.Reliable ∧ a.2.Healthy ∧ s.1.Proper a.1) (Sample.system, [])
      Sample.calls := by
    refine ⟨⟨ho, hhealthy, rfl⟩, ⟨ho, hhealthy, by decide +kernel⟩, ⟨ho, hhealthy, trivial⟩,
      ⟨ho, hhealthy, by decide +kernel⟩, ⟨ho, hhealthy, by decide +kernel⟩,
      ⟨ho, hhealthy, by decide +kernel⟩, trivial⟩
  obtain ⟨⟨sys', started⟩, hrun, hlog⟩ := Option.map_eq_some_iff.mp
    (show (Run.after (System.loggedStep .plain Sample.controller) (Sample.system, [])
        Sample.calls).map (fun s => (s.2, s.1.mstate.round.trainingSessionId)) =
      some ([Sample.taskId 2, Sample.taskId 3], some ⟨5⟩) by decide +kernel)
  obtain ⟨rfl, hrecorded⟩ := Prod.ext_iff.mp hlog
  have hready : sys'.Ready .endSession := by
    simp only at hrecorded
    simp only [System.Ready, hrecorded, Option.isSome_some]
  obtain ⟨hlockstep, hnext⟩ := System.lockstep Janus.plain_faithful Sample.plain_accepts rfl rfl rfl
    hrun hproper
  exact ⟨sys', hrun, hlockstep, hnext .endSession _ ho hhealthy trivial hready⟩
