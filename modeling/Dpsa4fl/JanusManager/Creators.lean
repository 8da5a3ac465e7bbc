-- SUMMARY: When several create_session requests name the same id at once, and at most one of them may win.
import Dpsa4fl.JanusManager.Coherence

/-!
# Concurrent creators of one id

A request that names its id checks that the id is free, gives the guard of the
sessions back, waits for the keyring and inserts its session. Two requests for
one id can both pass the check. If no check passes between the check and the
insertion of another request for the same id, one of them wins for good.
-/

open Manager

namespace Thread

/-- The handler has passed the check of `id` and will insert a session under it. -/
def creating (id : TrainingSessionId) : Thread → Bool
  | keyring _ k _ => k = id
  | insert _ k _ => k = id
  | _ => false

/-- The request named `id` and was answered `Ok`. -/
def created (id : TrainingSessionId) : Thread → Bool
  | answered (.createSession request) (.ok _) => request.trainingSessionId = some id
  | _ => false

end Thread

/-- Creations name their id, no session is ended, and the process is not restarted. -/
def Manager.Action.keepsSessions : Manager.Action → Bool
  | .send (.createSession request) => request.trainingSessionId.isSome
  | .send (.endSession _) => false
  | .restart => false
  | _ => true

/-- The thread is about to find that the id it names is free. -/
def Thread.passesCheck (J : Janus) (id : TrainingSessionId) (p : TaskProvisioner) : Thread → Bool
  | arrived (.createSession request) =>
    request.trainingSessionId = some id && (p.trainingSessions.lookup id).isNone &&
      (createSessionSecrets J request).isOk
  | _ => false

/-- No check of `id` passes while another creation of `id` is under way. -/
def Manager.OneAtATime (J : Janus) (id : TrainingSessionId) (m : Manager) : Manager.Action → Prop
  | .resume i _ => ∀ thread ∈ m.threads[i]?, thread.passesCheck J id m.provisioner →
      ∀ other ∈ m.threads, other.creating id = false
  | _ => True

instance (J : Janus) (id : TrainingSessionId) (m : Manager) (a : Manager.Action) :
    Decidable (m.OneAtATime J id a) := by
  cases a <;> unfold Manager.OneAtATime <;> infer_instance

/-- At most one request for `id` was answered `Ok`, and the live session still
has what that request gave it and every task accepted for it. -/
structure Manager.OneCreator (J : Janus) (id : TrainingSessionId) (m : Manager) : Prop where
  unique : ∀ (i j : Nat) (ti tj : Thread), m.threads[i]? = some ti → m.threads[j]? = some tj →
    ti.created id = true → tj.created id = true → i = j
  kept : ∀ (i : Nat) request response,
    m.threads[i]? = some (.answered (.createSession request) (.ok response)) →
    request.trainingSessionId = some id →
    ∃ s secrets, m.provisioner.trainingSessions.lookup id = some s ∧
      createSessionSecrets J request = .ok secrets ∧ s.verifyKey = secrets.verifyKey ∧
      s.collectorAuthToken = secrets.collectorAuthToken ∧
      s.leaderAuthToken = secrets.leaderAuthToken ∧ s.vdafParameter = request.vdafParameter ∧
      ∀ (j : Nat) round response' taskId,
        m.threads[j]? = some (.answered (.startRound round) (.ok response')) →
        round.trainingSessionId = id → taskIdFromString round.taskIdEncoded = .ok taskId →
        taskId ∈ s.tasks

/-! ## The invariant -/

/-- The session has the parameters of the request. -/
def TrainingSession.MadeBy (J : Janus) (s : TrainingSession)
    (request : CreateTrainingSessionRequest) : Prop :=
  ∃ secrets, createSessionSecrets J request = .ok secrets ∧ s.verifyKey = secrets.verifyKey ∧
    s.collectorAuthToken = secrets.collectorAuthToken ∧
    s.leaderAuthToken = secrets.leaderAuthToken ∧ s.vdafParameter = request.vdafParameter

/-- What a thread knows when sessions are kept and `id` has one creator. -/
def Thread.Serves (J : Janus) (id : TrainingSessionId) (p : TaskProvisioner) : Thread → Prop
  | .arrived (.createSession request) => request.trainingSessionId.isSome
  | .arrived (.endSession _) => False
  | .keyring request k secrets =>
    request.trainingSessionId = some k ∧ createSessionSecrets J request = .ok secrets ∧
      (k = id → p.trainingSessions.lookup id = none)
  | .insert request k s =>
    request.trainingSessionId = some k ∧ s.MadeBy J request ∧
      (k = id → p.trainingSessions.lookup id = none)
  | .transaction round taskId _ =>
    taskIdFromString round.taskIdEncoded = .ok taskId ∧
      (p.trainingSessions.lookup round.trainingSessionId).isSome
  | .record round taskId =>
    taskIdFromString round.taskIdEncoded = .ok taskId ∧
      (p.trainingSessions.lookup round.trainingSessionId).isSome
  | .answered (.createSession request) (.ok _) =>
    request.trainingSessionId = some id →
      ∃ s, p.trainingSessions.lookup id = some s ∧ s.MadeBy J request
  | .answered (.startRound round) (.ok _) =>
    ∀ taskId, taskIdFromString round.taskIdEncoded = .ok taskId → round.trainingSessionId = id →
      ∃ s, p.trainingSessions.lookup id = some s ∧ taskId ∈ s.tasks
  | _ => True

/-- No session is lost, and that of `id` only gets more tasks. -/
structure TaskProvisioner.Keeps (id : TrainingSessionId) (p p' : TaskProvisioner) : Prop where
  live : ∀ k, (p.trainingSessions.lookup k).isSome → (p'.trainingSessions.lookup k).isSome
  same : ∀ s, p.trainingSessions.lookup id = some s →
    ∃ tasks, p'.trainingSessions.lookup id = some { s with tasks := tasks } ∧ s.tasks ⊆ tasks

namespace TaskProvisioner.Keeps

variable {id : TrainingSessionId} {p p' : TaskProvisioner}

theorem of_eq (h : p'.trainingSessions = p.trainingSessions) : Keeps id p p' where
  live := fun k hk => by rw [h]; exact hk
  same := fun s hs => ⟨s.tasks, by rw [h]; exact hs, List.Subset.refl _⟩

theorem recordTask (id k : TrainingSessionId) (p : TaskProvisioner) (taskId : TaskId) :
    Keeps id p (p.recordTask k taskId) where
  live := fun k' hk' => by
    rw [lookup_recordTask]
    split
    · rename_i h
      rw [← h, Option.isSome_map]
      exact hk'
    · exact hk'
  same := fun s hs => by
    rw [lookup_recordTask]
    split
    · rename_i h
      exact ⟨s.tasks ++ [taskId], by rw [← h, hs, Option.map_some],
        List.subset_append_left _ _⟩
    · exact ⟨s.tasks, hs, List.Subset.refl _⟩

theorem insert {k : TrainingSessionId} {s : TrainingSession}
    (h : k = id → p.trainingSessions.lookup id = none) :
    Keeps id p { p with trainingSessions := p.trainingSessions.insert k s } where
  live := fun k' hk' => by
    by_cases hk : k' = k
    · rw [hk, AList.lookup_insert]; rfl
    · rw [AList.lookup_insert_ne hk]; exact hk'
  same := fun s hs => by
    have hne : id ≠ k := by
      intro heq
      rw [h heq.symm] at hs; cases hs
    exact ⟨s.tasks, by rw [AList.lookup_insert_ne hne]; exact hs, List.Subset.refl _⟩

end TaskProvisioner.Keeps

namespace Thread.Serves

variable {J : Janus} {id : TrainingSessionId} {p p' : TaskProvisioner} {thread : Thread}

/-- Other threads keep what a thread knows, if they do not create `id` next to it. -/
theorem mono (h : thread.Serves J id p) (hkeeps : p.Keeps id p')
    (hfree : thread.creating id = true → p.trainingSessions.lookup id = none →
      p'.trainingSessions.lookup id = none) :
    thread.Serves J id p' := by
  cases thread with
  | keyring request k secrets =>
      exact ⟨h.1, h.2.1, fun hk => hfree (by simpa [creating] using hk) (h.2.2 hk)⟩
  | insert request k s =>
      exact ⟨h.1, h.2.1, fun hk => hfree (by simpa [creating] using hk) (h.2.2 hk)⟩
  | transaction round taskId task => exact ⟨h.1, hkeeps.live _ h.2⟩
  | record round taskId => exact ⟨h.1, hkeeps.live _ h.2⟩
  | answered request answer =>
      cases answer with
      | error failure => cases request <;> trivial
      | ok response =>
          cases request with
          | createSession request =>
              intro hid
              obtain ⟨s, hs, hmade⟩ := h hid
              obtain ⟨tasks, hs', -⟩ := hkeeps.same s hs
              exact ⟨_, hs', hmade⟩
          | startRound round =>
              intro taskId hdecode hid
              obtain ⟨s, hs, hmem⟩ := h taskId hdecode hid
              obtain ⟨tasks, hs', hsub⟩ := hkeeps.same s hs
              exact ⟨_, hs', hsub hmem⟩
          | _ => trivial
  | arrived request => cases request <;> exact h
  | _ => trivial

end Thread.Serves

/-- The thread creates `id` or has created it. -/
def Thread.claims (id : TrainingSessionId) (t : Thread) : Bool := t.creating id || t.created id

structure Manager.SingleCreator (J : Janus) (id : TrainingSessionId) (m : Manager) : Prop where
  one : ∀ (i j : Nat) (ti tj : Thread), m.threads[i]? = some ti → m.threads[j]? = some tj →
    ti.claims id = true → tj.claims id = true → i = j
  serves : ∀ (i : Nat) (t : Thread), m.threads[i]? = some t → t.Serves J id m.provisioner

theorem Thread.lookup_of_passesCheck {J : Janus} {id : TrainingSessionId} {p : TaskProvisioner}
    {thread : Thread} (h : thread.passesCheck J id p = true) :
    p.trainingSessions.lookup id = none := by
  unfold passesCheck at h
  split at h
  · simp only [Bool.and_eq_true, Option.isNone_iff_eq_none] at h
    exact h.1.2
  · cases h

namespace Thread.Resumes

variable {J : Janus} {ω : Ambient} {id : TrainingSessionId} {p p' : TaskProvisioner}
  {thread thread' : Thread}

theorem keeps (h : thread.Resumes J ω p thread' p') (hserves : thread.Serves J id p) :
    p.Keeps id p' := by
  cases h with
  | keypair hsame => exact .of_eq hsame.trainingSessions
  | inserted => exact .insert hserves.2.2
  | built _ _ _ hsame => exact .of_eq hsame.trainingSessions
  | recorded => exact .recordTask _ _ _ _
  | ended => exact hserves.elim
  | failed hsame => exact .of_eq hsame.trainingSessions
  | _ => exact .of_eq rfl

/-- Only the creator of `id` makes it live. -/
theorem stays_free (h : thread.Resumes J ω p thread' p') (hserves : thread.Serves J id p)
    (hcreating : thread.creating id = false) (hfree : p.trainingSessions.lookup id = none) :
    p'.trainingSessions.lookup id = none := by
  cases h with
  | keypair hsame => rw [hsame.trainingSessions]; exact hfree
  | @inserted request k s =>
      have hne : id ≠ k := by
        rintro rfl
        simp [creating] at hcreating
      rw [AList.lookup_insert_ne hne]
      exact hfree
  | built _ _ _ hsame => rw [hsame.trainingSessions]; exact hfree
  | @recorded round taskId =>
      rw [TaskProvisioner.lookup_recordTask]
      split
      · rename_i h
        rw [← h, hfree, Option.map_none]
      · exact hfree
  | ended => exact hserves.elim
  | failed hsame => rw [hsame.trainingSessions]; exact hfree
  | _ => exact hfree

/-- What the resumed thread itself knows afterwards. -/
theorem serves (h : thread.Resumes J ω p thread' p') (hserves : thread.Serves J id p) :
    thread'.Serves J id p' := by
  cases h with
  | chosen hsecrets hid =>
      rcases hid with ⟨hsome, hfree⟩ | ⟨hnone, -⟩
      · exact ⟨hsome, hsecrets, fun hk => by rw [← hk]; exact hfree⟩
      · have : Option.isSome _ = true := hserves
        rw [hnone] at this; cases this
  | keypair hsame =>
      obtain ⟨hid, hsecrets, hfree⟩ := hserves
      refine ⟨hid, ⟨_, hsecrets, rfl, rfl, rfl, rfl⟩, fun hk => ?_⟩
      rw [hsame.trainingSessions]
      exact hfree hk
  | inserted =>
      obtain ⟨hid, hmade, -⟩ := hserves
      intro hid'
      rw [hid] at hid'; cases hid'
      exact ⟨_, AList.lookup_insert _, hmade⟩
  | built hlive hdecode _ hsame =>
      exact ⟨hdecode, by rw [hsame.trainingSessions, hlive]; rfl⟩
  | provisioned => exact hserves
  | @recorded round taskId =>
      obtain ⟨hdecode, hlive⟩ := hserves
      intro taskId' hdecode' hid
      obtain rfl : taskId = taskId' := Except.ok.inj (hdecode.symm.trans hdecode')
      obtain ⟨s, hs⟩ := Option.isSome_iff_exists.mp hlive
      refine ⟨{ s with tasks := s.tasks ++ [taskId] }, ?_, by simp⟩
      rw [TaskProvisioner.lookup_recordTask, if_pos hid.symm, hs, Option.map_some]
  | failed => cases thread.request <;> exact trivial
  | _ => trivial

/-- A thread that starts to claim `id` has just passed its check. -/
theorem claims_of (h : thread.Resumes J ω p thread' p') (hserves : thread.Serves J id p)
    (hclaims : thread'.claims id = true) :
    thread.claims id = true ∨ thread.passesCheck J id p = true := by
  cases h with
  | @chosen request k secrets hsecrets hid =>
      have hk : k = id := by simpa [claims, creating, created] using hclaims
      rcases hid with ⟨hsome, hfree⟩ | ⟨hnone, -⟩
      · rw [hk] at hsome hfree
        simp [passesCheck, hsome, hfree, hsecrets, Except.isOk, Except.toBool]
      · have : Option.isSome _ = true := hserves
        rw [hnone] at this; cases this
  | keypair => exact .inl hclaims
  | @inserted request k s =>
      have hid : request.trainingSessionId = some id := by
        simpa [claims, creating, created] using hclaims
      rw [hserves.1] at hid
      exact .inl (by simp [claims, creating, Option.some.inj hid])
  | failed => cases hreq : thread.request <;> simp [claims, creating, created, hreq] at hclaims
  | _ => simp [claims, creating, created] at hclaims

end Thread.Resumes

namespace Manager

variable {J : Janus} {id : TrainingSessionId} {m m' : Manager}

namespace SingleCreator

theorem send (hm : m.SingleCreator J id) {request : Request}
    (hkeeps : (Action.send request).keepsSessions = true) :
    SingleCreator J id { m with threads := m.threads ++ [.arrived request] } where
  one := by
    intro i j ti tj hi hj hti htj
    rcases getElem?_send hi with hi | ⟨rfl, rfl⟩
    · rcases getElem?_send hj with hj | ⟨rfl, rfl⟩
      · exact hm.one i j ti tj hi hj hti htj
      · cases htj
    · cases hti
  serves := by
    intro i t hi
    rcases getElem?_send hi with hi | ⟨rfl, rfl⟩
    · exact hm.serves i t hi
    · cases request with
      | createSession request => exact hkeeps
      | endSession id => cases hkeeps
      | _ => exact trivial

/-- No other thread claims `id` once the resumed thread does. -/
theorem other (hm : m.SingleCreator J id) {k : Nat} {ω : Ambient} {thread thread' tj : Thread}
    (hone : m.OneAtATime J id (.resume k ω)) (hr : m.Resumed J k ω thread thread' m') {j : Nat}
    (hjk : j ≠ k) (hj : m.threads[j]? = some tj) (htj : tj.claims id = true) :
    thread'.claims id = false := by
  rw [Bool.eq_false_iff]
  intro ht'
  rcases hr.resumes.claims_of (hm.serves k thread hr.get) ht' with hclaims | hpasses
  · exact hjk (hm.one j k tj thread hj hr.get htj hclaims)
  · have hnot := hone thread hr.get hpasses tj (List.mem_of_getElem? hj)
    have hfree := Thread.lookup_of_passesCheck hpasses
    have hcreated : tj.created id = true := by simpa [Thread.claims, hnot] using htj
    have hsj := hm.serves j tj hj
    unfold Thread.created at hcreated
    split at hcreated
    · obtain ⟨s, hs, -⟩ := hsj (by simpa using hcreated)
      rw [hfree] at hs
      cases hs
    · cases hcreated

theorem resume (hm : m.SingleCreator J id) {k : Nat} {ω : Ambient} {thread thread' : Thread}
    (hone : m.OneAtATime J id (.resume k ω)) (hr : m.Resumed J k ω thread thread' m') :
    m'.SingleCreator J id where
  one := by
    intro i j ti tj hi hj hti htj
    rw [hr.threads] at hi hj
    rcases getElem?_set hi with ⟨rfl, rfl⟩ | ⟨hik, hi'⟩
    · rcases getElem?_set hj with ⟨rfl, rfl⟩ | ⟨hjk, hj'⟩
      · rfl
      · rw [hm.other hone hr hjk hj' htj] at hti
        cases hti
    · rcases getElem?_set hj with ⟨rfl, rfl⟩ | ⟨hjk, hj'⟩
      · rw [hm.other hone hr hik hi' hti] at htj
        cases htj
      · exact hm.one i j ti tj hi' hj' hti htj
  serves := by
    have hserves := hm.serves k thread hr.get
    intro i t hi
    rw [hr.threads] at hi
    rcases getElem?_set hi with ⟨rfl, rfl⟩ | ⟨hik, hi'⟩
    · exact hr.resumes.serves hserves
    · refine (hm.serves i t hi').mono (hr.resumes.keeps hserves) fun hcreating => ?_
      refine hr.resumes.stays_free hserves (Bool.eq_false_iff.mpr fun hk => hik ?_)
      exact hm.one i k t thread hi' hr.get (by simp [Thread.claims, hcreating])
        (by simp [Thread.claims, hk])

theorem drop (hm : m.SingleCreator J id) {k : Nat} {thread : Thread}
    (hget : m.threads[k]? = some thread) :
    SingleCreator J id { m with threads := m.threads.set k (dropThread thread) } := by
  have hdrop : ∀ {i : Nat} {t : Thread}, (m.threads.set k (dropThread thread))[i]? = some t →
      m.threads[i]? = some t ∨ ∃ request, t = .dropped request := by
    intro i t hi
    rcases getElem?_set hi with ⟨rfl, rfl⟩ | ⟨-, hi⟩
    · rcases dropThread_cases thread with heq | heq
      · rw [heq]; exact .inl hget
      · exact .inr ⟨_, heq⟩
    · exact .inl hi
  constructor
  · intro i j ti tj hi hj hti htj
    rcases hdrop hi with hi | ⟨_, rfl⟩
    · rcases hdrop hj with hj | ⟨_, rfl⟩
      · exact hm.one i j ti tj hi hj hti htj
      · cases htj
    · cases hti
  · intro i t hi
    rcases hdrop hi with hi | ⟨_, rfl⟩
    · exact hm.serves i t hi
    · trivial

theorem step (hm : m.SingleCreator J id) {a : Action} (hkeeps : a.keepsSessions = true)
    (hone : m.OneAtATime J id a) (h : m.step J a = some m') : m'.SingleCreator J id := by
  cases a with
  | send request => cases h; exact hm.send hkeeps
  | resume k ω =>
      obtain ⟨thread, thread', hr⟩ := step_resume h
      exact hm.resume hone hr
  | drop k =>
      obtain ⟨thread, hget, rfl⟩ := step_drop h
      exact hm.drop hget
  | restart => cases hkeeps

end SingleCreator

theorem SingleCreator.oneCreator (hm : m.SingleCreator J id) : m.OneCreator J id where
  unique := fun i j ti tj hi hj hti htj =>
    hm.one i j ti tj hi hj (by simp [Thread.claims, hti]) (by simp [Thread.claims, htj])
  kept := fun i request response hi hid => by
    obtain ⟨s, hs, secrets, hsecrets, hkey, hcollector, hleader, hvdaf⟩ := hm.serves i _ hi hid
    refine ⟨s, secrets, hs, hsecrets, hkey, hcollector, hleader, hvdaf, ?_⟩
    intro j round response' taskId hj hround hdecode
    obtain ⟨s', hs', hmem⟩ := hm.serves j _ hj taskId hdecode hround
    rw [hs] at hs'; cases hs'
    exact hmem

/-- If no check of `id` passes while another creation of `id` is under way, then
in every state of the run `id` has one creator, and its session is kept. -/
theorem oneCreator_of_oneAtATime {as : List Action} (hthreads : m.threads = [])
    (hrun : Run.after (Manager.step J) m as = some m')
    (hkeeps : as.all Action.keepsSessions = true)
    (hone : Run.Along (Manager.step J) (OneAtATime J id) m as) :
    m'.OneCreator J id := by
  have hinit : m.SingleCreator J id := by
    constructor
    · intro i j ti tj hi; simp [hthreads] at hi
    · intro i t hi; simp [hthreads] at hi
  refine SingleCreator.oneCreator (Run.invariant_of
    (C := fun m a => a.keepsSessions = true ∧ m.OneAtATime J id a)
    (fun m a m' hm hC h => hm.step hC.1 hC.2 h) hinit hrun ?_)
  exact Run.Along.and_all hone hkeeps

end Manager

namespace Sample

/-- Two requests for the id 5, the second after the first was answered, and a round. -/
def creationsInTurn : List Manager.Action :=
  [.send (.createSession (createRequest (some ⟨5⟩) [1])), .resume 0 (ambient 0),
   .resume 0 (ambient 0), .resume 0 (ambient 0),
   .send (.createSession (createRequest (some ⟨5⟩) [2])), .resume 1 (ambient 0),
   .send (.startRound (startRequest ⟨5⟩ (taskId 1))), .resume 2 (ambient 0),
   .resume 2 (ambient 0), .resume 2 (ambient 0)]

/-- Two requests for the id 5, both of which pass the check before one inserts. -/
def creationsAtOnce : List Manager.Action :=
  [.send (.createSession (createRequest (some ⟨5⟩) [1])),
   .send (.createSession (createRequest (some ⟨5⟩) [2])),
   .resume 0 (ambient 0), .resume 1 (ambient 0), .resume 0 (ambient 0), .resume 1 (ambient 0),
   .resume 0 (ambient 0), .resume 1 (ambient 0)]

end Sample

theorem Manager.oneCreator_sample :
    ∃ m', Run.after (Manager.step .plain) (.new ∅ Sample.config) Sample.creationsInTurn = some m' ∧
      m'.OneCreator .plain ⟨5⟩ := by
  have hrun : (Run.after (Manager.step .plain) (.new ∅ Sample.config)
      Sample.creationsInTurn).isSome = true := by
    decide +kernel
  obtain ⟨m', hrun⟩ := Option.isSome_iff_exists.mp hrun
  exact ⟨m', hrun, oneCreator_of_oneAtATime rfl hrun (by decide +kernel) (by decide +kernel)⟩

/-- Both requests are answered `Ok`, and the first caller's verify key is gone. -/
theorem Manager.twoCreators :
    Sample.creationsAtOnce.all Action.keepsSessions = true ∧
    ∃ m', Run.after (Manager.step .plain) (.new ∅ Sample.config) Sample.creationsAtOnce = some m' ∧
      (m'.provisioner.trainingSessions.lookup ⟨5⟩).map (·.verifyKey) = some [2] ∧
      ¬ m'.OneCreator .plain ⟨5⟩ := by
  have hthreads : (Run.after (Manager.step .plain) (.new ∅ Sample.config)
      Sample.creationsAtOnce).map (fun m' => (m'.threads.map (Thread.created ⟨5⟩),
        (m'.provisioner.trainingSessions.lookup ⟨5⟩).map (·.verifyKey))) =
      some ([true, true], some [2]) := by
    decide +kernel
  obtain ⟨m', hrun, hm'⟩ := Option.map_eq_some_iff.mp hthreads
  obtain ⟨hcreated, hkey⟩ := Prod.mk.inj hm'
  refine ⟨by decide, m', hrun, hkey, fun h => ?_⟩
  obtain ⟨t₀, t₁, hts, h₀, h₁⟩ : ∃ t₀ t₁, m'.threads = [t₀, t₁] ∧
      t₀.created ⟨5⟩ = true ∧ t₁.created ⟨5⟩ = true := by
    simpa [List.map_eq_cons_iff] using hcreated
  have := h.unique 0 1 t₀ t₁ (by rw [hts]; rfl) (by rw [hts]; rfl) h₀ h₁
  cases this
