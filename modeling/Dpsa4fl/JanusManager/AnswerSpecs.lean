-- SUMMARY: What a whole request does to the provisioner when it runs alone, and when it is accepted.
import Dpsa4fl.JanusManager.HandlerSpecs

/-!
# Answer specifications

`TaskProvisioner.Answers` lists what a request that runs alone can be answered
and what it leaves behind. The lemmas after it say which requests are accepted.
-/

open Handler

/-- Key generation succeeds for the algorithms of the keyring. -/
def Janus.GeneratesKeys (J : Janus) : Prop :=
  ∀ id seed, ∃ keypair, J.generateHpkeConfigAndPrivateKey id HpkeKemId.x25519HkdfSha256
    HpkeKdfId.hkdfSha256 HpkeAeadId.aes128Gcm seed = .ok keypair

theorem Janus.plain_generatesKeys : Janus.plain.GeneratesKeys := fun _ _ => ⟨_, rfl⟩

/-! ## Answers as runs of the handlers -/

theorem answer_createSession (J : Janus) (ω : Ambient) (request : CreateTrainingSessionRequest)
    (p : TaskProvisioner) :
    p.answer J ω (.createSession request) = match (handleCreateSession J ω request).run p with
      | .ok id p' => (.ok (.createSession id), p')
      | .error failure p' => (.error failure, p') := by
  simp only [TaskProvisioner.answer, serve, EStateM.run_bind]
  cases (handleCreateSession J ω request).run p <;> rfl

theorem answer_endSession (J : Janus) (ω : Ambient) (id : TrainingSessionId)
    (p : TaskProvisioner) :
    p.answer J ω (.endSession id) = match (handleEndSession id).run p with
      | .ok _ p' => (.ok .endSession, p')
      | .error failure p' => (.error failure, p') := by
  simp only [TaskProvisioner.answer, serve, EStateM.run_bind]
  cases (handleEndSession id).run p <;> rfl

theorem answer_startRound (J : Janus) (ω : Ambient) (request : StartRoundRequest)
    (p : TaskProvisioner) :
    p.answer J ω (.startRound request) = match (handleStartRound J ω request).run p with
      | .ok _ p' => (.ok .startRound, p')
      | .error failure p' => (.error failure, p') := by
  simp only [TaskProvisioner.answer, serve, EStateM.run_bind]
  cases (handleStartRound J ω request).run p <;> rfl

theorem answer_getVdafParameter (J : Janus) (ω : Ambient) (request : GetVdafParameterRequest)
    (p : TaskProvisioner) :
    p.answer J ω (.getVdafParameter request) = match (handleGetVdafParameter request).run p with
      | .ok vdafParameter p' => (.ok (.getVdafParameter vdafParameter), p')
      | .error failure p' => (.error failure, p') := by
  simp only [TaskProvisioner.answer, serve, EStateM.run_bind]
  cases (handleGetVdafParameter request).run p <;> rfl

/-! ## What an answer says -/

/-- `p.Answers J request answer p'`: in the state `p` the request can be given
this answer, and leaves the state `p'`. -/
inductive TaskProvisioner.Answers (J : Janus) (p : TaskProvisioner) :
    Request → Except Failure Response → TaskProvisioner → Prop where
  | created {request id secrets keypair p'}
      (hsecrets : createSessionSecrets J request = .ok secrets)
      (hid : ∀ k, request.trainingSessionId = some k → k = id ∧ p.trainingSessions.lookup k = none)
      (hdatastore : p'.datastore = p.datastore) (hconfig : p'.config = p.config)
      (hsessions : p'.trainingSessions =
        p.trainingSessions.insert id (request.session secrets keypair)) :
      Answers J p (.createSession request) (.ok (.createSession id)) p'
  | ended {id p'} (hlive : (p.trainingSessions.lookup id).isSome)
      (hdatastore : p'.datastore = p.datastore) (hconfig : p'.config = p.config)
      (hsessions : p'.trainingSessions = p.trainingSessions.erase id) :
      Answers J p (.endSession id) (.ok .endSession) p'
  | started {request s taskId task p'}
      (hlive : p.trainingSessions.lookup request.trainingSessionId = some s)
      (hdecode : taskIdFromString request.taskIdEncoded = .ok taskId)
      (hbuilds : s.Builds J p.config taskId task)
      (hpost : postTask task p.datastore = .ok p'.datastore) (hconfig : p'.config = p.config)
      (hsessions : p'.trainingSessions = p.trainingSessions.insert request.trainingSessionId
        { s with tasks := s.tasks ++ [taskId] }) :
      Answers J p (.startRound request) (.ok .startRound) p'
  | found {request taskId id s}
      (hdecode : taskIdFromString request.taskIdEncoded = .ok taskId)
      (hlive : p.trainingSessions.lookup id = some s) (hmem : taskId ∈ s.tasks) :
      Answers J p (.getVdafParameter request) (.ok (.getVdafParameter s.vdafParameter)) p
  | located : Answers J p .getMainLocations (.ok (.getMainLocations p.config.mainLocations)) p
  /-- A rejection. An end is rejected only if there is no such session. -/
  | failed {request failure p'} (hsame : p.SameTables p')
      (hend : ∀ id, request = .endSession id →
        p.trainingSessions.lookup id = none ∧ ∃ error, failure = .err error) :
      Answers J p request (.error failure) p'

section
variable {J : Janus} {ω : Ambient} {p p' : TaskProvisioner} {answer : Except Failure Response}

theorem answers_createSession {request : CreateTrainingSessionRequest}
    (h : p.answer J ω (.createSession request) = (answer, p')) :
    p.Answers J (.createSession request) answer p' := by
  rw [answer_createSession] at h
  split at h
  · rename_i id p₁ hrun
    cases h
    obtain ⟨⟨k, secrets⟩, p₂, hstart, hrest⟩ := run_bind_ok.mp hrun
    obtain ⟨session, p₃, hkey, hinsert⟩ := run_bind_ok.mp hrest
    obtain ⟨rfl, hsecrets, hid⟩ := createSessionStart_ok hstart
    obtain ⟨hsame, keypair, rfl⟩ := createSessionKeypair_ok hkey
    cases hinsert
    refine .created hsecrets (fun k' hk' => ?_) hsame.datastore hsame.config
      (by rw [← hsame.trainingSessions])
    rcases hid with ⟨hsome, hfree⟩ | ⟨hnone, -⟩
    · obtain rfl := Option.some.inj (hk'.symm.trans hsome)
      exact ⟨rfl, hfree⟩
    · rw [hk'] at hnone; cases hnone
  · rename_i failure p₁ hrun
    cases h
    rcases run_bind_error.mp hrun with hstart | ⟨⟨k, secrets⟩, p₂, hstart, hrest⟩
    · exact .failed ((createSessionStart_quiet J ω request p).2 _ _ hstart) (by simp)
    · have hsame := (createSessionStart_quiet J ω request p).1 _ _ hstart
      rcases run_bind_error.mp hrest with hkey | ⟨session, p₃, -, hinsert⟩
      · exact .failed (hsame.trans ((createSessionKeypair_quiet J ω request k secrets p₂).2 _ _
          hkey)) (by simp)
      · cases hinsert

theorem answers_endSession {id : TrainingSessionId}
    (h : p.answer J ω (.endSession id) = (answer, p')) :
    p.Answers J (.endSession id) answer p' := by
  rw [answer_endSession] at h
  split at h
  · rename_i _ p₁ hrun
    cases h
    obtain ⟨hlive, hdatastore, hconfig, hsessions⟩ := handleEndSession_ok hrun
    exact .ended hlive hdatastore hconfig hsessions
  · rename_i failure p₁ hrun
    cases h
    obtain ⟨hnone, hsame, herr⟩ := handleEndSession_error hrun
    exact .failed hsame (by rintro _ ⟨⟩; exact ⟨hnone, herr⟩)

theorem answers_startRound {request : StartRoundRequest}
    (h : p.answer J ω (.startRound request) = (answer, p')) :
    p.Answers J (.startRound request) answer p' := by
  rw [answer_startRound] at h
  split at h
  · rename_i _ p₁ hrun
    cases h
    obtain ⟨⟨taskId, task⟩, p₂, hstart, hrest⟩ := run_bind_ok.mp hrun
    obtain ⟨_, p₃, hprovision, hrecord⟩ := run_bind_ok.mp hrest
    obtain ⟨s, hlive, hdecode, hbuilds, hsame⟩ := startRoundTask_ok hstart
    obtain ⟨ds, hpost, rfl⟩ := provisionTask_ok hprovision
    cases hrecord
    have hlive' : p₂.trainingSessions.lookup request.trainingSessionId = some s := by
      rw [hsame.trainingSessions]; exact hlive
    rw [hsame.datastore] at hpost
    simp only [TaskProvisioner.recordTask, hlive']
    exact .started hlive hdecode hbuilds hpost hsame.config (by rw [← hsame.trainingSessions])
  · rename_i failure p₁ hrun
    cases h
    rcases run_bind_error.mp hrun with hstart | ⟨⟨taskId, task⟩, p₂, hstart, hrest⟩
    · exact .failed ((startRoundTask_quiet J ω request p).2 _ _ hstart) (by simp)
    · have hsame := (startRoundTask_quiet J ω request p).1 _ _ hstart
      rcases run_bind_error.mp hrest with hprovision | ⟨_, p₃, -, hrecord⟩
      · rw [provisionTask_error hprovision]
        exact .failed hsame (by simp)
      · cases hrecord

theorem answers_getVdafParameter {request : GetVdafParameterRequest}
    (h : p.answer J ω (.getVdafParameter request) = (answer, p')) :
    p.Answers J (.getVdafParameter request) answer p' := by
  rw [answer_getVdafParameter] at h
  split at h
  · rename_i vdafParameter p₁ hrun
    cases h
    obtain ⟨taskId, p₂, hreturn, hlookup⟩ := run_bind_ok.mp hrun
    obtain ⟨hdecode, rfl⟩ := run_orReturn_ok.mp hreturn
    obtain ⟨rfl, id, s, hlive, hmem, rfl⟩ := lookupVdafParameter_ok hlookup
    exact .found hdecode hlive hmem
  · rename_i failure p₁ hrun
    cases h
    have hquiet : Quiet (handleGetVdafParameter request) :=
      .of_printed (within_handleGetVdafParameter request)
    exact .failed ((hquiet p).2 _ _ hrun) (by simp)

theorem answer_spec {request : Request} (h : p.answer J ω request = (answer, p')) :
    p.Answers J request answer p' := by
  cases request with
  | createSession request => exact answers_createSession h
  | endSession id => exact answers_endSession h
  | startRound request => exact answers_startRound h
  | getVdafParameter request => exact answers_getVdafParameter h
  | getMainLocations => cases h; exact .located

namespace TaskProvisioner.Answers

theorem createSession_cases {request : CreateTrainingSessionRequest}
    (h : p.Answers J (.createSession request) answer p') :
    (∃ failure, answer = .error failure) ∨ ∃ id, answer = .ok (.createSession id) := by
  cases h with
  | created => exact .inr ⟨_, rfl⟩
  | failed => exact .inl ⟨_, rfl⟩

theorem endSession_cases {id : TrainingSessionId} (h : p.Answers J (.endSession id) answer p') :
    (∃ error, answer = .error (.err error)) ∨ answer = .ok .endSession := by
  cases h with
  | ended => exact .inr rfl
  | failed _ hend =>
      obtain ⟨-, error, rfl⟩ := hend id rfl
      exact .inl ⟨error, rfl⟩

/-- However an end is answered, the session is gone afterwards and the others
are as before. It is answered `Ok` exactly if the session was there. -/
theorem endSession_effect {id : TrainingSessionId} (h : p.Answers J (.endSession id) answer p') :
    p'.trainingSessions.lookup id = none ∧
      (∀ k, k ≠ id → p'.trainingSessions.lookup k = p.trainingSessions.lookup k) ∧
      p'.datastore = p.datastore ∧
      (answer = .ok .endSession ↔ (p.trainingSessions.lookup id).isSome) := by
  cases h with
  | ended hlive hdatastore _ hsessions =>
      rw [hsessions]
      exact ⟨AList.lookup_erase _ _, fun k hk => AList.lookup_erase_ne hk, hdatastore,
        fun _ => hlive, fun _ => rfl⟩
  | failed hsame hend =>
      obtain ⟨hnone, -⟩ := hend id rfl
      rw [hsame.trainingSessions]
      exact ⟨hnone, fun _ _ => rfl, hsame.datastore, by simp, by simp [hnone]⟩

theorem startRound_cases {request : StartRoundRequest}
    (h : p.Answers J (.startRound request) answer p') :
    (∃ failure, answer = .error failure) ∨ answer = .ok .startRound := by
  cases h with
  | started => exact .inr rfl
  | failed => exact .inl ⟨_, rfl⟩

end TaskProvisioner.Answers

end

/-! ## Which requests are accepted -/

section
variable {J : Janus} {ω : Ambient} {request : CreateTrainingSessionRequest}
  {p p' : TaskProvisioner}

theorem fetchKeypair_ok (hJ : J.GeneratesKeys) (seed : List UInt8) (keyring : HpkeConfigRegistry)
    (id : UInt8) : ∃ r, keyring.fetchKeypair J seed id = .ok r := by
  unfold HpkeConfigRegistry.fetchKeypair
  split
  · exact ⟨_, rfl⟩
  · obtain ⟨keypair, hkey⟩ := hJ id seed
    exact ⟨_, by rw [hkey]⟩

theorem createSessionKeypair_run
    (hkeypair : ∃ pair, p.keyring.fetchKeypair J ω.keypairSeed ω.keypairId = .ok pair)
    (id : TrainingSessionId) (secrets : SessionSecrets) :
    ∃ session p', (createSessionKeypair J ω request id secrets).run p = .ok session p' := by
  obtain ⟨⟨keypair, keyring⟩, hkey⟩ := hkeypair
  simp only [createSessionKeypair, EStateM.run_bind, EStateM.run_get, run_lift, hkey]
  exact ⟨_, _, rfl⟩

/-- After a successful start, the rest of the handler inserts the session. -/
theorem handleCreateSession_of_start
    (hkeypair : ∃ pair, p.keyring.fetchKeypair J ω.keypairSeed ω.keypairId = .ok pair)
    {id : TrainingSessionId} {secrets : SessionSecrets}
    (h : (createSessionStart J ω request).run p = .ok (id, secrets) p) :
    ∃ keypair p', (handleCreateSession J ω request).run p = .ok id p' ∧
      p'.datastore = p.datastore ∧ p'.config = p.config ∧
      p'.trainingSessions = p.trainingSessions.insert id (request.session secrets keypair) := by
  obtain ⟨session, p₁, hkey⟩ :
      ∃ session p₁, (createSessionKeypair J ω request id secrets).run p = .ok session p₁ :=
    createSessionKeypair_run hkeypair id secrets
  obtain ⟨hsame, keypair, rfl⟩ := createSessionKeypair_ok hkey
  refine ⟨keypair, { p₁ with
    trainingSessions := p₁.trainingSessions.insert id (request.session secrets keypair) },
    ?_, hsame.datastore, hsame.config, ?_⟩
  · simp only [handleCreateSession, EStateM.run_bind, h, hkey]
    rfl
  · simp only [hsame.trainingSessions]

/-- The id is refused only if the request names it and it is live. -/
theorem createSessionId_cases (ω : Ambient) (request : CreateTrainingSessionRequest)
    (p : TaskProvisioner) :
    (∃ id, (createSessionId ω request).run p = .ok id p) ∨
    ∃ k e, request.trainingSessionId = some k ∧ p.trainingSessions.lookup k ≠ none ∧
      (createSessionId ω request).run p = .error (.err e) p := by
  unfold createSessionId
  split
  · rename_i k hk
    simp only [EStateM.run_bind, EStateM.run_get]
    split
    · rename_i hlive
      exact .inr ⟨k, _, hk, Option.isSome_iff_ne_none.mp hlive, rfl⟩
    · exact .inl ⟨k, rfl⟩
  · exact .inl ⟨_, rfl⟩

/-- The start of the handler either chooses an id and decodes the secrets, or
answers with an error. It changes nothing. -/
theorem createSessionStart_cases (J : Janus) (ω : Ambient) (request : CreateTrainingSessionRequest)
    (p : TaskProvisioner) :
    (∃ id secrets, (createSessionStart J ω request).run p = .ok (id, secrets) p ∧
      createSessionSecrets J request = .ok secrets ∧
      ((request.trainingSessionId = some id ∧ p.trainingSessions.lookup id = none) ∨
        (request.trainingSessionId = none ∧ id = ⟨ω.sessionId⟩))) ∨
    ∃ e, (createSessionStart J ω request).run p = .error (.err e) p ∧
      (request.trainingSessionId = none → ∃ e', createSessionSecrets J request = .error e') := by
  rcases createSessionId_cases ω request p with ⟨id, hid⟩ | ⟨k, e, hsome, -, he⟩
  · cases hs : createSessionSecrets J request with
    | ok secrets =>
        have hstart : (createSessionStart J ω request).run p = .ok (id, secrets) p := by
          simp only [createSessionStart, EStateM.run_bind, hid, hs]
          rfl
        exact .inl ⟨id, secrets, hstart, rfl, (createSessionStart_ok hstart).2.2⟩
    | error e =>
        refine .inr ⟨e, ?_, fun _ => ⟨e, rfl⟩⟩
        simp only [createSessionStart, EStateM.run_bind, hid, hs]
        rfl
  · refine .inr ⟨e, ?_, fun hnone => by rw [hsome] at hnone; cases hnone⟩
    simp only [createSessionStart, EStateM.run_bind, he]

/-- The start succeeds if the secrets are accepted and a requested id is free. -/
theorem createSessionStart_of_free {secrets : SessionSecrets}
    (hsecrets : createSessionSecrets J request = .ok secrets)
    (hfree : ∀ k, request.trainingSessionId = some k → p.trainingSessions.lookup k = none) :
    ∃ id, (createSessionStart J ω request).run p = .ok (id, secrets) p := by
  rcases createSessionId_cases ω request p with ⟨id, hid⟩ | ⟨k, e, hsome, hlive, -⟩
  · refine ⟨id, ?_⟩
    simp only [createSessionStart, EStateM.run_bind, hid, hsecrets]
    rfl
  · exact (hlive (hfree k hsome)).elim

/-- A creation is accepted if its secrets are and a requested id is free. -/
theorem answer_createSession_accepted (hJ : J.GeneratesKeys) {secrets : SessionSecrets}
    (hsecrets : createSessionSecrets J request = .ok secrets)
    (hid : ∀ k, request.trainingSessionId = some k → p.trainingSessions.lookup k = none) :
    ∃ id p', p.answer J ω (.createSession request) = (.ok (.createSession id), p') := by
  rw [answer_createSession]
  obtain ⟨id, hstart⟩ := createSessionStart_of_free (ω := ω) hsecrets hid
  obtain ⟨keypair, p', hrun, -⟩ := handleCreateSession_of_start (fetchKeypair_ok hJ _ _ _) hstart
  exact ⟨id, p', by rw [hrun]⟩

/-- The start of a round succeeds if its session is live, its clock works and
its task can be created. -/
theorem startRoundTask_accepted {request : StartRoundRequest} {s : TrainingSession}
    {taskId : TaskId} {task : AggregatorTask}
    (hlive : p.trainingSessions.lookup request.trainingSessionId = some s)
    (hdecode : taskIdFromString request.taskIdEncoded = .ok taskId)
    (hclock : ω.elapsed.isOk) (hbuilds : s.Builds J p.config taskId task) :
    ∃ p', (startRoundTask J ω request).run p = .ok (taskId, task) p' := by
  obtain ⟨params, hparams, htask⟩ := hbuilds
  obtain ⟨secs, hclock⟩ : ∃ secs, ω.elapsed = .ok secs := by
    cases h : ω.elapsed with
    | ok secs => exact ⟨secs, rfl⟩
    | error e => rw [h] at hclock; cases hclock
  simp only [startRoundTask, EStateM.run_bind, EStateM.run_get, hlive, hdecode, hclock, hparams,
    Handler.orReturn, run_lift, Except.mapError, run_println, htask, EStateM.run_pure]
  exact ⟨_, rfl⟩

theorem provisionTask_accepted {task : AggregatorTask} {datastore : Datastore}
    (htransaction : ω.transaction = .ok ()) (hpost : postTask task p.datastore = .ok datastore) :
    (provisionTask ω task).run p = .ok () { p with datastore := datastore } := by
  have htx : p.datastore.runTx ω (postTask task) = .ok datastore := by
    rw [Datastore.runTx, htransaction]
    exact hpost
  simp only [provisionTask, EStateM.run_bind, EStateM.run_get, htx]
  rfl

/-- A round is accepted if its session is live and its task can be created and is new. -/
theorem answer_startRound_accepted {request : StartRoundRequest} {s : TrainingSession}
    {taskId : TaskId} {params : AggregatorTaskParameters} {task : AggregatorTask}
    (hlive : p.trainingSessions.lookup request.trainingSessionId = some s)
    (hdecode : taskIdFromString request.taskIdEncoded = .ok taskId)
    (hclock : ω.elapsed.isOk) (hparams : s.taskParams J = .ok params)
    (htask : J.newAggregatorTask (s.taskArguments J p.config taskId params) = .ok task)
    (hnew : p.datastore.lookup task.id = none) (htransaction : ω.transaction = .ok ()) :
    ∃ p', p.answer J ω (.startRound request) = (.ok .startRound, p') := by
  obtain ⟨p', hstart⟩ := startRoundTask_accepted hlive hdecode hclock ⟨params, hparams, htask⟩
  obtain ⟨-, -, -, -, hsame⟩ := startRoundTask_ok hstart
  have hpost : postTask task p'.datastore = .ok (p'.datastore.insert task.id task) := by
    rw [postTask, hsame.datastore, hnew]
  rw [answer_startRound]
  simp only [handleStartRound, EStateM.run_bind, hstart,
    provisionTask_accepted htransaction hpost]
  exact ⟨_, rfl⟩

end
