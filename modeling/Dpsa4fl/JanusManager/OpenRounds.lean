-- SUMMARY: While a session is kept, a manager accepts every round that is asked of it with a fresh task id, if its clock and its datastore work.
import Dpsa4fl.JanusManager.AnswerSpecs
import Dpsa4fl.JanusManager.Kept
import Dpsa4fl.JanusManager.Rounds

/-!
# Open rounds

A round is refused for lack of its session, for a task that cannot be built or that
is stored already, or because the clock or the transaction fails. In a session that
is kept, with fresh task ids, only the last two are left.
-/

/-- The library accepts the tasks that the crate makes, given a verify key as long
as the VDAF wants it. -/
def Janus.AcceptsTasks (J : Janus) : Prop :=
  ∀ (s : TrainingSession) config taskId params,
    s.verifyKey.length = J.verifyKeyLength (s.vdafParameter.toVdafInstance J) →
    s.taskParams J = .ok params →
    ∃ task, J.newAggregatorTask (s.taskArguments J config taskId params) = .ok task

/-- Every task can be built for the session. -/
def TrainingSession.BuildsAll (J : Janus) (s : TrainingSession) (config : TaskProvisionerConfig) :
    Prop := ∀ taskId, ∃ task, s.Builds J config taskId task

theorem TrainingSession.builds_all {J : Janus} (hJ : J.AcceptsTasks) {s : TrainingSession}
    (hkey : s.verifyKey.length = J.verifyKeyLength (s.vdafParameter.toVdafInstance J))
    (hrole : s.role = .leader ∨ s.role = .helper) (config : TaskProvisionerConfig) :
    s.BuildsAll J config := by
  obtain ⟨params, hparams⟩ : ∃ params, s.taskParams J = .ok params := by
    unfold taskParams
    rcases hrole with hrole | hrole
    · rw [hrole]
      exact ⟨_, rfl⟩
    · rw [hrole]
      exact ⟨_, rfl⟩
  intro taskId
  obtain ⟨task, htask⟩ := hJ s config taskId params hkey hparams
  exact ⟨task, params, hparams, htask⟩

/-- The clock works, and the transaction goes through. -/
def Ambient.Healthy (ω : Ambient) : Prop := ω.elapsed.isOk = true ∧ ω.transaction = .ok ()

instance (ω : Ambient) : Decidable ω.Healthy := inferInstanceAs (Decidable (_ ∧ _))

/-! ## A round, piece by piece -/

namespace Thread

variable {J : Janus} {ω : Ambient} {p : TaskProvisioner} {thread : Thread}
  {request : StartRoundRequest} {taskId : TaskId} {s : TrainingSession}

/-- The handler of a round comes to its answer only by recording the task. -/
theorem starts_resume (hJ : J.Faithful)
    (hlive : p.trainingSessions.lookup request.trainingSessionId = some s)
    (hdecode : taskIdFromString request.taskIdEncoded = .ok taskId)
    (hbuilds : s.BuildsAll J p.config)
    (hnew : thread.beforeTransaction = true → p.datastore.lookup taskId = none)
    (hvalid : thread.Valid J p) (hω : ω.Healthy) (hrequest : thread.request = .startRound request)
    (hrunning : thread.finished = false) {answer : Except Failure Response}
    (h : (thread.resume J ω p).1 = .answered (.startRound request) answer) :
    thread = .record request taskId ∧ answer = .ok .startRound := by
  cases thread with
  | arrived request =>
      cases hrequest
      obtain ⟨task, htask⟩ := hbuilds taskId
      obtain ⟨p', hrun⟩ := startRoundTask_accepted hlive hdecode hω.1 htask
      rw [resume_of_piece (x := startRoundTask J ω request)
        (f := fun a => Thread.transaction request a.1 a.2) rfl, hrun] at h
      cases h
  | transaction request t task =>
      cases hrequest
      obtain ⟨hdecode', s', -, hbuilds'⟩ := hvalid
      obtain rfl := Except.ok.inj (hdecode.symm.trans hdecode')
      have hpost : postTask task p.datastore = .ok (p.datastore.insert task.id task) := by
        rw [postTask, hbuilds'.id_eq hJ, hnew rfl]
      rw [resume_of_piece (x := provisionTask ω task)
        (f := fun _ => Thread.record request taskId) rfl, provisionTask_accepted hω.2 hpost] at h
      cases h
  | record request t =>
      cases hrequest
      obtain rfl := Except.ok.inj (hdecode.symm.trans hvalid.1)
      cases h
      exact ⟨rfl, rfl⟩
  | answered request' answer => cases hrunning
  | dropped request' => cases hrunning
  | _ => cases hrequest

/-- If a round of this session was asked for and answered, then it was accepted, and
the session lists its task. -/
def Starts (m : Manager) (id : TrainingSessionId) : Thread → Prop
  | answered (.startRound request) answer => request.trainingSessionId = id →
    ∀ taskId, taskIdFromString request.taskIdEncoded = .ok taskId →
      answer = .ok .startRound ∧ m.Lists id taskId
  | _ => True

theorem Starts.mono {m m' : Manager} {id : TrainingSessionId} (h : thread.Starts m id)
    (hlists : ∀ taskId, m.Lists id taskId → m'.Lists id taskId) : thread.Starts m' id := by
  unfold Starts at h ⊢
  split at h
  · intro hid taskId hdecode
    exact (h hid taskId hdecode).imp_right (hlists taskId)
  · trivial

end Thread

/-! ## The manager -/

namespace Manager

variable {J : Janus} {m m' : Manager} {id : TrainingSessionId} {s : TrainingSession}

/-- The clock and the datastore work in this step. -/
def Action.Healthy : Action → Prop
  | .resume _ ω => ω.Healthy
  | _ => True

instance : (a : Action) → Decidable a.Healthy
  | .resume _ ω => inferInstanceAs (Decidable ω.Healthy)
  | .send _ => inferInstanceAs (Decidable True)
  | .drop _ => inferInstanceAs (Decidable True)
  | .restart => inferInstanceAs (Decidable True)

/-- The session is kept, and the handlers of all requests from number `n` on accept
its rounds. -/
structure Starts (m : Manager) (id : TrainingSessionId) (s : TrainingSession) (n : Nat) : Prop where
  kept : ∃ s', m.provisioner.trainingSessions.lookup id = some s' ∧ s.Grows s'
  starts : ∀ (k : Nat) (thread : Thread), n ≤ k → m.threads[k]? = some thread →
    thread.Starts m id

theorem starts_start (hs : m.provisioner.trainingSessions.lookup id = some s) :
    m.Starts id s m.threads.length where
  kept := ⟨s, hs, .refl s⟩
  starts k thread hn hk := by
    have hlt := (List.getElem?_eq_some_iff.mp hk).1
    omega

theorem Starts.step (hJ : J.Faithful) {n : Nat} (hm : m.Starts id s n) (hcoherent : m.Coherent J)
    (hfresh : m.FreshTasks) (hbuilds : s.BuildsAll J m.provisioner.config) {a : Action}
    (h : m.step J a = some m') (hkeeps : m.Keeps id a) (hhealthy : a.Healthy) :
    m'.Starts id s n where
  kept := by
    obtain ⟨s₁, hs₁, hgrows⟩ := hm.kept
    obtain ⟨s₂, hs₂, hgrows'⟩ := grows_step hs₁ h hkeeps
    exact ⟨s₂, hs₂, hgrows.trans hgrows'⟩
  starts := by
    intro k thread' hn hk'
    cases step_origin h hk' with
    | same hk => exact (hm.starts k thread' hn hk).mono fun _ ht => lists_step ht h hkeeps
    | arrived => trivial
    | dropped => trivial
    | @resumed ω thread _ hr =>
        obtain ⟨s₁, hs₁, hgrows⟩ := hm.kept
        obtain ⟨thread₀, hget, -, -, hm'⟩ := step_resume_eq h
        obtain rfl := Option.some.inj (hget.symm.trans hr.get)
        rw [hm', List.getElem?_set_self (List.getElem?_eq_some_iff.mp hget).1] at hk'
        have hthread' := Option.some.inj hk'
        unfold Thread.Starts
        split
        · rename_i request answer
          rintro rfl taskId hdecode
          have hrequest : thread₀.request = .startRound request :=
            hr.resumes.request_eq.symm
          have hnew : thread₀.beforeTransaction = true →
              m.provisioner.datastore.lookup taskId = none := by
            apply hfresh.unstored k thread₀ taskId hget
            rw [hrequest]
            exact Request.taskId_startRound.mpr hdecode
          have hbuilds₁ : s₁.BuildsAll J m.provisioner.config := fun t =>
            (hbuilds t).imp fun _ => hgrows.builds_iff.mpr
          obtain ⟨rfl, rfl⟩ := Thread.starts_resume hJ hs₁ hdecode hbuilds₁ hnew
            (hcoherent.threads k _ hget) hhealthy hrequest hr.running hthread'
          -- the task has just been recorded
          have hlookup := TaskProvisioner.lookup_recordTask m.provisioner
            request.trainingSessionId request.trainingSessionId taskId
          rw [if_pos rfl, hs₁] at hlookup
          rw [hm']
          exact ⟨rfl, _, hlookup, List.mem_append_right _ List.mem_cons_self⟩
        · trivial

end Manager

/-! ## Keys of the right length -/

/-- The verify key in the request, if there is one, is as long as the VDAF wants it. -/
def CreateTrainingSessionRequest.WellKeyed (J : Janus) (request : CreateTrainingSessionRequest) :
    Prop :=
  ∀ secrets, createSessionSecrets J request = .ok secrets →
    secrets.verifyKey.length = J.verifyKeyLength (request.vdafParameter.toVdafInstance J)

/-- All keys that a manager was sent have the right length. -/
structure Manager.WellKeyed (J : Janus) (m : Manager) : Prop where
  requests : ∀ (k : Nat) (thread : Thread) request, m.threads[k]? = some thread →
    thread.request = .createSession request → request.WellKeyed J
  sessions : ∀ id s, m.provisioner.trainingSessions.lookup id = some s →
    s.verifyKey.length = J.verifyKeyLength (s.vdafParameter.toVdafInstance J)

namespace Manager

variable {J : Janus} {m m' : Manager}

theorem wellKeyed_new (J : Janus) (datastore : Datastore) (config : TaskProvisionerConfig) :
    (Manager.new datastore config).WellKeyed J where
  requests := by intro k thread request hk; simp [Manager.new] at hk
  sessions := by intro id s hs; simp [Manager.new, TaskProvisioner.new] at hs

theorem WellKeyed.step (hcoherent : m.Coherent J) (hm : m.WellKeyed J) {a : Action}
    (h : m.step J a = some m')
    (ha : ∀ request, a = .send (.createSession request) → request.WellKeyed J) :
    m'.WellKeyed J where
  requests := by
    intro k thread request hk hrequest
    rcases step_request h hk with ⟨thread₀, h₀, heq, -⟩ | ⟨-, request, rfl, rfl⟩
    · exact hm.requests k thread₀ request h₀ (heq.trans hrequest)
    · cases hrequest
      exact ha _ rfl
  sessions := by
    intro id s hs
    rcases live_origin hcoherent h hs with ⟨s₀, hs₀, heq⟩ |
      ⟨k, request, secrets, keypair, hk, hsecrets, rfl⟩
    · rw [heq]
      exact hm.sessions id s₀ hs₀
    · exact hm.requests k _ request hk rfl secrets hsecrets

end Manager
