-- SUMMARY: A manager accepts every creation whose id is free, and keeps its session until it is ended or lost.
import Dpsa4fl.JanusManager.AnswerSpecs
import Dpsa4fl.JanusManager.Kept
import Dpsa4fl.JanusManager.Rounds

/-!
# Accepted creations

The handler of a creation gives way twice: before it generates a key pair, and
before it inserts the session. It looks at the requested id only at its start, so
this is the only place at which the other handlers can make it fail.
-/

/-! ## The handler of a creation -/

namespace Thread

variable {J : Janus} {ω : Ambient} {p : TaskProvisioner} {thread : Thread}

/-- If a creation with well formed secrets was answered, then it was accepted, with
the id that it asked for. -/
def Creates (J : Janus) : Thread → Prop
  | answered (.createSession request) answer => (∃ p, request.terms J = .ok p) →
    ∃ id, answer = .ok (.createSession id) ∧ ∀ k, request.trainingSessionId = some k → k = id
  | _ => True

theorem Creates.of_request (h : ∀ request, thread.request ≠ .createSession request) :
    thread.Creates J := by
  unfold Creates
  split
  · exact (h _ rfl).elim
  · trivial

/-- A creation whose requested id is free is not refused. -/
theorem creates_resume (hJ : J.GeneratesKeys) (hvalid : thread.Valid J p)
    (hrunning : thread.finished = false)
    (hfree : ∀ request id, thread = .arrived (.createSession request) →
      request.trainingSessionId = some id → p.trainingSessions.lookup id = none) :
    (thread.resume J ω p).1.Creates J := by
  have hother : (∀ request, thread.request ≠ .createSession request) →
      (thread.resume J ω p).1.Creates J := by
    intro h
    have hr : thread.Resumes J ω p (thread.resume J ω p).1 (thread.resume J ω p).2 :=
      resume_spec hrunning rfl
    apply Creates.of_request
    intro request
    rw [hr.request_eq]
    exact h request
  cases thread with
  | arrived request =>
      cases request with
      | createSession request =>
          rw [resume_of_piece (x := createSessionStart J ω request)
            (f := fun a => Thread.keyring request a.1 a.2) rfl]
          cases hsecrets : createSessionSecrets J request with
          | ok secrets =>
              obtain ⟨id, hrun⟩ := createSessionStart_of_free (ω := ω) hsecrets
                fun k => hfree request k rfl
              rw [hrun]
              trivial
          | error e =>
              split
              · trivial
              · rintro ⟨terms, hterms⟩
                rw [CreateTrainingSessionRequest.terms, hsecrets] at hterms
                cases hterms
      | _ => exact hother fun _ h => by cases h
  | keyring request id secrets =>
      have hkeypair := fetchKeypair_ok hJ ω.keypairSeed p.keyring ω.keypairId
      obtain ⟨session, p', hrun⟩ : ∃ session p',
          (createSessionKeypair J ω request id secrets).run p = .ok session p' :=
        createSessionKeypair_run hkeypair id secrets
      rw [resume_of_piece (x := createSessionKeypair J ω request id secrets)
        (f := fun session => Thread.insert request id session) rfl, hrun]
      trivial
  | insert request id session => exact fun _ => ⟨id, rfl, hvalid.2⟩
  | answered => cases hrunning
  | dropped => cases hrunning
  | _ => exact hother fun _ h => by cases h

end Thread

namespace Manager

variable {J : Janus} {m m' : Manager} {id : TrainingSessionId}

/-- No creation with well formed secrets was refused. -/
def Creates (J : Janus) (m : Manager) : Prop :=
  ∀ (k : Nat) (thread : Thread), m.threads[k]? = some thread → thread.Creates J

theorem creates_new (J : Janus) (datastore : Datastore) (config : TaskProvisionerConfig) :
    (Manager.new datastore config).Creates J := by
  intro k thread hk
  simp [Manager.new] at hk

theorem Creates.step (hJ : J.GeneratesKeys) (hm : m.Creates J) (hcoherent : m.Coherent J)
    (hfree : ∀ (k : Nat) request id, m.threads[k]? = some (.arrived (.createSession request)) →
      request.trainingSessionId = some id → m.provisioner.trainingSessions.lookup id = none)
    {a : Action} (h : m.step J a = some m') : m'.Creates J := by
  intro k thread' hk'
  cases step_origin h hk' with
  | same hk => exact hm k thread' hk
  | arrived => trivial
  | dropped => trivial
  | resumed hr =>
      obtain ⟨thread, hget, hrunning, -, hm'⟩ := step_resume_eq h
      rw [hm', List.getElem?_set_self (List.getElem?_eq_some_iff.mp hget).1] at hk'
      obtain rfl := Option.some.inj hk'
      refine Thread.creates_resume hJ (hcoherent.threads k thread hget) hrunning ?_
      rintro request id rfl
      exact hfree k request id hget

/-! ## The session of an accepted creation -/

def spares (id : TrainingSessionId) (m : Manager) : Action → Bool
  | .resume i _ =>
    match m.threads[i]? with
    | some (.arrived (.endSession k)) => k != id
    | _ => true
  | .restart => false
  | _ => true

/-- The step does not end the session of this id. -/
def Spares (id : TrainingSessionId) (m : Manager) (a : Action) : Prop := m.spares id a = true

instance (id : TrainingSessionId) (m : Manager) (a : Action) : Decidable (m.Spares id a) :=
  inferInstanceAs (Decidable (_ = true))

/-- While the session of this id is live, no other one is created with it. -/
def SoleUse (m : Manager) (id : TrainingSessionId) : Prop :=
  (m.provisioner.trainingSessions.lookup id).isSome → ∀ (k : Nat) (thread : Thread),
    m.threads[k]? = some thread → thread.uses id = false

theorem keeps_of_spares {s : TrainingSession} (hsole : m.SoleUse id)
    (hs : m.provisioner.trainingSessions.lookup id = some s) {a : Action}
    (hspares : m.Spares id a) : m.Keeps id a := by
  cases a with
  | resume i ω =>
      simp only [Spares, spares] at hspares
      simp only [Keeps, keeps]
      split
      · rename_i k hget
        rw [hget] at hspares
        exact hspares
      · rename_i request k session hget
        have huses := hsole (Option.isSome_iff_exists.mpr ⟨s, hs⟩) i _ hget
        exact bne_iff_ne.mpr (of_decide_eq_false huses)
      · rfl
  | restart => cases hspares
  | send => rfl
  | drop => rfl

end Manager

/-- The round was accepted for this task, or its transaction has gone through. -/
def Thread.Started (id : TrainingSessionId) (taskId : TaskId) : Thread → Prop
  | record request t => request.trainingSessionId = id ∧ t = taskId
  | answered (.startRound request) (.ok _) =>
    request.trainingSessionId = id ∧ taskIdFromString request.taskIdEncoded = .ok taskId
  | _ => False

namespace Manager

variable {J : Janus} {m m' : Manager} {id : TrainingSessionId}

/-- What was created and started under this id is there: the session of a creation
with the values of its request, and the task of a round as the session builds it. -/
structure Holds (J : Janus) (m : Manager) (id : TrainingSessionId) : Prop where
  sessions : ∀ (k : Nat) (request : CreateTrainingSessionRequest),
    m.threads[k]? = some (.answered (.createSession request) (.ok (.createSession id))) →
    ∃ s secrets keypair, m.provisioner.trainingSessions.lookup id = some s ∧
      createSessionSecrets J request = .ok secrets ∧ (request.session secrets keypair).Grows s
  rounds : ∀ (k : Nat) (thread : Thread) (taskId : TaskId), m.threads[k]? = some thread →
    thread.Started id taskId →
    ∃ s task, m.provisioner.trainingSessions.lookup id = some s ∧
      m.provisioner.datastore.lookup taskId = some task ∧
      s.Builds J m.provisioner.config taskId task

theorem holds_new (J : Janus) (datastore : Datastore) (config : TaskProvisionerConfig)
    (id : TrainingSessionId) : (Manager.new datastore config).Holds J id where
  sessions := by intro k request hk; simp [Manager.new] at hk
  rounds := by intro k thread taskId hk; simp [Manager.new] at hk

theorem Holds.step (hJ : J.Faithful) (hm : m.Holds J id) (hcoherent : m.Coherent J)
    (hfresh : m.FreshTasks) {role : Role} (hrole : m.InRole J role) (hsole : m.SoleUse id)
    {a : Action} (h : m.step J a = some m') (hspares : m.Spares id a) : m'.Holds J id where
  sessions := by
    intro k request hk'
    cases step_origin h hk' with
    | same hk =>
        obtain ⟨s, secrets, keypair, hs, hsecrets, hgrows⟩ := hm.sessions k request hk
        obtain ⟨s', hs', hgrows'⟩ := grows_step hs h (keeps_of_spares hsole hs hspares)
        exact ⟨s', secrets, keypair, hs', hsecrets, hgrows.trans hgrows'⟩
    | @resumed ω thread _ hr =>
        have hvalid := hcoherent.threads k thread hr.get
        obtain ⟨request', session, rfl⟩ := hr.resumes.of_createSession
        have hres := hr.resumes
        generalize m'.provisioner = p' at hres
        cases hres with
        | inserted =>
            obtain ⟨⟨secrets, keypair, hsecrets, rfl⟩, -⟩ := hvalid
            exact ⟨_, secrets, keypair, AList.lookup_insert _, hsecrets, .refl _⟩
  rounds := by
    intro k thread' taskId hk' hstarted
    -- what is known of the task before the step stays true
    have hkept : ∀ thread, m.threads[k]? = some thread → thread.Started id taskId →
        ∃ s task, m'.provisioner.trainingSessions.lookup id = some s ∧
          m'.provisioner.datastore.lookup taskId = some task ∧
          s.Builds J m'.provisioner.config taskId task := by
      intro thread hk hstarted
      obtain ⟨s, task, hs, hstored, hbuilds⟩ := hm.rounds k thread taskId hk hstarted
      obtain ⟨s', hs', hgrows⟩ := grows_step hs h (keeps_of_spares hsole hs hspares)
      refine ⟨s', task, hs', step_extends h _ _ hstored, ?_⟩
      rw [step_config h]
      exact hgrows.builds_iff.mpr hbuilds
    cases step_origin h hk' with
    | same hk => exact hkept thread' hk hstarted
    | arrived => exact hstarted.elim
    | dropped => exact hstarted.elim
    | @resumed ω thread _ hr =>
        have hvalid := hcoherent.threads k thread hr.get
        have hget := hr.get
        have hres := hr.resumes
        generalize hp : m'.provisioner = p' at hres
        cases hres with
        | provisioned =>
            obtain ⟨rfl, rfl⟩ := hstarted
            obtain ⟨s, hs, hbuilds, hstored, -⟩ := provisioned_carries hJ hcoherent hfresh hrole hr
            rw [hp] at hs hstored
            exact ⟨s, _, hs, hstored, hbuilds⟩
        | recorded =>
            obtain ⟨hid, hdecode⟩ := hstarted
            rw [← hp]
            exact hkept _ hget ⟨hid, Except.ok.inj (hvalid.1.symm.trans hdecode)⟩
        | @failed _ failure =>
            unfold Thread.Started at hstarted
            split at hstarted
            · rename_i heq
              cases heq
            · rename_i heq
              injection heq with _ hanswer
              cases hanswer
            · exact hstarted.elim
        | _ => exact hstarted.elim

end Manager
