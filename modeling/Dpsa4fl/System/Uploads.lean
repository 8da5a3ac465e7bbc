-- SUMMARY: What a client uploads suits the tasks of the session that it was initialized in.
import Dpsa4fl.System.Initialized

/-!
# Uploads

A client never looks at the parameters of a task again once it is initialized.
So it may be used for the tasks of one session only, whose parameters are all
the same.
-/

/-- The process has performed the upload, or performs it now. -/
def Process.Uploads (process : Process) (client : JanusClient) (measurement : VecFixedAny) : Prop :=
  (∃ r, (⟨.upload client measurement, r⟩ : Exchange) ∈ process.trace) ∨
    ∃ f, process.rest = .call (.upload client measurement) f

namespace World

variable {J : Janus} {w : World} {managerLocations : ManagerLocations} {calls : List ClientCall}
  {trace : List Exchange} {pending : Option Nat}

/-- At this manager, the tasks are registered for vectors of one length and type. -/
def SameSubmissions (J : Janus) (w : World) (server : ManagerServer) (ids : List TaskId) : Prop :=
  ∀ t ∈ ids, ∀ t' ∈ ids, ∀ p p', w.Registered J server t p → w.Registered J server t' p' →
    p.gradientLen = p'.gradientLen ∧ p.submissionType = p'.submissionType

/-- The tasks of a session are registered with the parameters of the session. -/
theorem Sound.sameSubmissions (hJ : J.Faithful) (hw : w.Sound J) {server : ManagerServer}
    {id : TrainingSessionId} {s : TrainingSession}
    (hlive : (w.manager server).provisioner.trainingSessions.lookup id = some s) :
    w.SameSubmissions J server s.tasks := by
  have hparameter : ∀ t ∈ s.tasks, ∀ p, w.Registered J server t p → p = s.vdafParameter := by
    rintro t ht p ⟨task, hstored, hvdaf⟩
    obtain ⟨task', hstored', hfits⟩ := (hw.coherent server).sessions id s hlive t ht
    obtain rfl := Option.some.inj (hstored.symm.trans hstored')
    exact VdafParameter.toVdafInstance_injective hJ (hvdaf.symm.trans hfits.vdaf)
  intro t ht t' ht' p p' hp hp'
  rw [hparameter t ht p hp, hparameter t' ht' p' hp']
  exact ⟨rfl, rfl⟩

/-- The task of the call that initialized a client is registered at both managers,
with the parameters that the client got. -/
theorem Sound.registered_of_initializes (hw : w.Sound J) {i : Nat} {rest : Api ClientStatePU}
    (hget : w.processes[i]? = some ⟨.clientState managerLocations calls, trace, rest, pending⟩)
    {call : ClientCall} {c : ClientState}
    (h : Initializes J (apiNewClientState managerLocations) calls trace call c)
    (server : ManagerServer) :
    w.Registered J server call.roundSettings.taskId c.parametrization.vdafParameter :=
  hw.registered hget (h.exchange server)

/-- Whatever a client uploads suits the parameters with which it was initialized. -/
theorem Sound.initializes_of_uploads (hw : w.Sound J) {i : Nat} {rest : Api ClientStatePU}
    (hget : w.processes[i]? = some ⟨.clientState managerLocations calls, trace, rest, pending⟩)
    {client : JanusClient} {measurement : VecFixedAny}
    (huploads : Process.Uploads ⟨.clientState managerLocations calls, trace, rest, pending⟩ client
      measurement) :
    client.taskId ∈ calls.map (·.roundSettings.taskId) ∧
      ∃ call c, Initializes J (apiNewClientState managerLocations) calls trace call c ∧
        c.parametrization.vdafParameter.Suits client measurement := by
  have hfollows := (hw.traced i _ hget).follows
  obtain ⟨es₁, es₂, k, rfl, hupload⟩ : ∃ es₁ es₂ k, trace = es₁ ++ es₂ ∧
      Script.Follows (clientCalls J (apiNewClientState managerLocations) calls) es₁
        (.call (.upload client measurement) k) := by
    rcases huploads with ⟨r, hmem⟩ | ⟨f, hrest⟩
    · exact hfollows.of_mem hmem
    · simp only at hrest
      exact ⟨trace, [], f, (List.append_nil trace).symm, hrest ▸ hfollows⟩
  obtain ⟨htask, p, hp, hsuits⟩ := clientCalls_uploads hupload
  obtain ⟨call, c, hinit, rfl⟩ := hp.exists_initializes
  exact ⟨htask, call, c, hinit.append es₂, hsuits⟩

/-- Every upload of a client suits the parameters of the task that the client was
initialized with, so it suits its own task exactly if that one is registered for
the same length and type. All tasks of a session are. A vector that does not
suit the initial task is rejected before anything is exchanged. -/
theorem uploads_suit (hJ : J.Faithful) {leaderDatastore helperDatastore : Datastore}
    {leaderConfig helperConfig : TaskProvisionerConfig} {as : List Action}
    (hrun : Run.after (step J) (start leaderDatastore helperDatastore leaderConfig helperConfig) as =
      some w)
    {i : Nat} {rest : Api ClientStatePU}
    (hget : w.processes[i]? =
      some ⟨.clientState managerLocations calls, trace, rest, pending⟩) :
    (∀ client measurement,
      Process.Uploads ⟨.clientState managerLocations calls, trace, rest, pending⟩ client measurement →
      client.taskId ∈ calls.map (·.roundSettings.taskId) ∧
        ∃ call c, Initializes J (apiNewClientState managerLocations) calls trace call c ∧
          (∀ server, w.Registered J server call.roundSettings.taskId
            c.parametrization.vdafParameter) ∧
          c.parametrization.vdafParameter.Suits client measurement ∧
          ∀ server q, w.Registered J server client.taskId q →
            (q.Suits client measurement ↔
              q.gradientLen = c.parametrization.vdafParameter.gradientLen ∧
              q.submissionType = c.parametrization.vdafParameter.submissionType)) ∧
    (∀ server id s, (w.manager server).provisioner.trainingSessions.lookup id = some s →
      w.SameSubmissions J server s.tasks) ∧
    ∀ calls₁ roundSettings getData calls₂ es₁ es₂ es₃ s state,
      calls = calls₁ ++ .submitWith roundSettings getData :: calls₂ → trace = es₁ ++ es₂ ++ es₃ →
      Script.Follows (clientCalls J (apiNewClientState managerLocations) calls₁) es₁ (.ret s) →
      Script.Follows (apiUpdateClientRoundSettings s roundSettings) es₂
        (.ret (.ok (), .validState state)) →
      ∃ call c, Initializes J (apiNewClientState managerLocations) calls trace call c ∧
        (∀ server, w.Registered J server call.roundSettings.taskId
          c.parametrization.vdafParameter) ∧
        ∀ measurement : VecFixedAny,
          (measurement.length ≠ c.parametrization.vdafParameter.gradientLen ∨
            measurement.tag ≠ c.parametrization.vdafParameter.submissionType) →
          ∃ error, state.getSubmissionResult J measurement = .fail (.err error) := by
  have hsound : w.Sound J := (sound_start J _ _ _ _).run hJ hrun
  refine ⟨?_, fun server id s => hsound.sameSubmissions hJ, ?_⟩
  · intro client measurement huploads
    obtain ⟨htask, call, c, hinit, hsuits⟩ := hsound.initializes_of_uploads hget huploads
    exact ⟨htask, call, c, hinit, hsound.registered_of_initializes hget hinit, hsuits,
      fun _ q _ => hsuits.iff q⟩
  · intro calls₁ roundSettings getData calls₂ es₁ es₂ es₃ s state hcalls htrace h₁ h₂
    have hparameters : Parameters J (apiNewClientState managerLocations) calls trace
        state.parametrization.vdafParameter := by
      rw [hcalls, htrace, List.append_assoc]
      exact clientCalls_parameters h₁ (updates_of_follows h₂)
    obtain ⟨call, c, hinit, hc⟩ := hparameters.exists_initializes
    refine ⟨call, c, hinit, hsound.registered_of_initializes hget hinit, fun measurement h => ?_⟩
    rw [hc] at h
    exact state.getSubmissionResult_rejects measurement h

end World

namespace Sample

/-- A second controller, whose sessions are for longer gradients. -/
def otherClient : JanusManagerClient :=
  { client with vdafParameter := { vdafParameter with gradientLen := 3 } }

/-- Its session 6 with the task 2. -/
def otherRound : List World.Action :=
  .call (.createSession otherClient fun _ => 0) :: exchange 6 .leader 2 2 3 ++
    exchange 6 .helper 2 2 3 ++
    .call (.startRound otherClient (taskId 2) ⟨6⟩) :: exchange 6 .leader 3 3 3 ++
    exchange 6 .helper 3 3 3

/-- A client that is initialized for the task 1 and uploads to the task 2. -/
def longLivedClient : List World.Action :=
  .call (.clientState client.location.manager [.updateRoundSettings (roundSettings 1),
      .submitWith (roundSettings 2) fun _ => .vecFixed16 [⟨0⟩, ⟨0⟩]]) ::
    .reply 4 (.ok ()) :: exchange 5 .leader 4 4 1 ++ exchange 5 .helper 4 4 1 ++
    exchange 5 .leader 4 5 2 ++ exchange 5 .helper 4 5 2 ++ [.reply 4 (.ok ()), .reply 4 (.ok ())]

/-- The process of a client has uploaded a vector of length 2 to the task 2. -/
def hasUploaded : Process → Bool
  | ⟨.clientState _ _, trace, _, _⟩ => trace.any fun
    | ⟨.upload client measurement, _⟩ => client.taskId = taskId 2 ∧ measurement.length = 2
    | _ => false
  | _ => false

theorem exists_upload {process : Process} (h : hasUploaded process = true) :
    ∃ managerLocations calls trace rest pending client measurement,
      process = ⟨.clientState managerLocations calls, trace, rest, pending⟩ ∧
      process.Uploads client measurement ∧ client.taskId = taskId 2 ∧ measurement.length = 2 := by
  unfold hasUploaded at h
  split at h
  · obtain ⟨⟨op, r⟩, hmem, he⟩ := List.any_eq_true.mp h
    cases op with
    | upload client measurement =>
        obtain ⟨htask, hlength⟩ := of_decide_eq_true he
        exact ⟨_, _, _, _, _, client, measurement, rfl, .inl ⟨r, hmem⟩, htask, hlength⟩
    | _ => cases he
  · cases h

/-- The manager has registered the task 2 for longer gradients. -/
def registersLonger (m : Manager) : Bool :=
  (m.provisioner.datastore.lookup (taskId 2)).any fun task =>
    task.vdaf = otherClient.vdafParameter.toVdafInstance .plain

theorem longLivedClient_run :
    ∃ w process, Run.after (World.step .plain) world (oneRound ++ otherRound ++ longLivedClient) =
        some w ∧ w.processes[4]? = some process ∧ hasUploaded process = true ∧
      ∀ server, w.Registered .plain server (taskId 2) otherClient.vdafParameter := by
  obtain ⟨w, hrun, hcheck⟩ := Option.any_eq_true _ _ |>.mp
    (by decide +kernel : (Run.after (World.step .plain) world
        (oneRound ++ otherRound ++ longLivedClient)).any
      (fun w => w.processes[4]?.any hasUploaded && registersLonger w.leader &&
        registersLonger w.helper) = true)
  simp only [Bool.and_eq_true] at hcheck
  obtain ⟨⟨huploaded, hleader⟩, hhelper⟩ := hcheck
  obtain ⟨process, hget, huploaded⟩ := Option.any_eq_true _ _ |>.mp huploaded
  refine ⟨w, process, hrun, hget, huploaded, fun server => ?_⟩
  have hregistered : ∀ m : Manager, registersLonger m = true →
      ∃ task, m.provisioner.datastore.lookup (taskId 2) = some task ∧
        task.vdaf = otherClient.vdafParameter.toVdafInstance .plain := by
    intro m hm
    obtain ⟨task, hstored, hvdaf⟩ := Option.any_eq_true _ _ |>.mp hm
    exact ⟨task, hstored, of_decide_eq_true hvdaf⟩
  cases server with
  | leader => exact hregistered w.leader hleader
  | helper => exact hregistered w.helper hhelper

end Sample

theorem World.uploads_suit_sample :
    ∃ w process client measurement, Run.after (World.step .plain) Sample.world
        (Sample.oneRound ++ Sample.otherRound ++ Sample.longLivedClient) = some w ∧
      w.processes[4]? = some process ∧ process.Uploads client measurement ∧
      ∃ managerLocations calls call c,
        Initializes .plain (apiNewClientState managerLocations) calls process.trace call c ∧
        (∀ server, w.Registered .plain server call.roundSettings.taskId
          c.parametrization.vdafParameter) ∧
        c.parametrization.vdafParameter.Suits client measurement := by
  obtain ⟨w, process, hrun, hget, huploaded, -⟩ := Sample.longLivedClient_run
  obtain ⟨_, _, _, _, _, client, measurement, rfl, huploads, -⟩ := Sample.exists_upload huploaded
  obtain ⟨-, call, c, hinit, hregistered, hsuits, -⟩ :=
    (World.uploads_suit Janus.plain_faithful hrun hget).1 client measurement huploads
  exact ⟨w, _, client, measurement, hrun, hget, huploads, _, _, call, c, hinit, hregistered, hsuits⟩

/-- The client was initialized for a task of another session, and uploads a
vector that is too short for the task it is uploaded to. -/
theorem World.upload_unsuited :
    ∃ w process client measurement p, Run.after (World.step .plain) Sample.world
        (Sample.oneRound ++ Sample.otherRound ++ Sample.longLivedClient) = some w ∧
      w.processes[4]? = some process ∧ process.Uploads client measurement ∧
      (∀ server, w.Registered .plain server client.taskId p) ∧
      measurement.length ≠ p.gradientLen := by
  obtain ⟨w, process, hrun, hget, huploaded, hregistered⟩ := Sample.longLivedClient_run
  obtain ⟨_, _, _, _, _, client, measurement, -, huploads, htask, hlength⟩ :=
    Sample.exists_upload huploaded
  refine ⟨w, process, client, measurement, Sample.otherClient.vdafParameter, hrun, hget, huploads,
    ?_, ?_⟩
  · rw [htask]
    exact hregistered
  · rw [hlength]
    decide
