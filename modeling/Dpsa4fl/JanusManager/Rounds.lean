-- SUMMARY: With fresh task ids, a manager that accepts a round has stored a task for the terms of its session.
import Dpsa4fl.JanusManager.Terms

/-!
# Rounds with fresh task ids

`provision_task` keeps an existing task if it corresponds to the new one, and
the tokens are not compared. So what is stored for a round is known only if its
task id is fresh: no other request is for it, and it is not stored before the
transaction of the round.
-/

/-- The task that a request starts. -/
def Request.taskId : Request → Option TaskId
  | .startRound request => (taskIdFromString request.taskIdEncoded).toOption
  | _ => none

@[simp] theorem Request.taskId_startRound {request : StartRoundRequest} {taskId : TaskId} :
    (Request.startRound request).taskId = some taskId ↔
      taskIdFromString request.taskIdEncoded = .ok taskId := by
  change (taskIdFromString request.taskIdEncoded).toOption = some taskId ↔ _
  cases taskIdFromString request.taskIdEncoded with
  | ok t =>
      constructor
      · intro h; cases h; rfl
      · intro h; cases h; rfl
  | error e =>
      constructor
      · intro h; cases h
      · intro h; cases h

/-- The thread has not run the transaction that stores its task. -/
def Thread.beforeTransaction : Thread → Bool
  | arrived _ => true
  | transaction _ _ _ => true
  | _ => false

namespace Manager

variable {J : Janus} {m m' : Manager} {taskId : TaskId}

/-- Every thread of a later state has its request from a thread before, or it is
the one of a request that was sent. -/
theorem step_request {a : Action} (h : m.step J a = some m') {k : Nat} {thread : Thread}
    (hk : m'.threads[k]? = some thread) :
    (∃ thread₀, m.threads[k]? = some thread₀ ∧ thread₀.request = thread.request ∧
      (thread.beforeTransaction = true → thread₀.beforeTransaction = true)) ∨
      k = m.threads.length ∧ ∃ request, a = .send request ∧ thread = .arrived request := by
  cases step_origin h hk with
  | same hget => exact .inl ⟨thread, hget, rfl, id⟩
  | @arrived request hlen => exact .inr ⟨hlen, request, rfl, rfl⟩
  | @dropped _ thread₀ hget => exact .inl ⟨thread₀, hget, rfl, fun h => by cases h⟩
  | @resumed ω thread₀ _ hr =>
      refine .inl ⟨thread₀, hr.get, hr.resumes.request_eq.symm, ?_⟩
      have hres := hr.resumes
      generalize m'.provisioner = p' at hres
      intro hbefore
      cases hres with
      | built => rfl
      | _ => cases hbefore

/-- A task that is stored after a step was stored before, or by a transaction. -/
theorem step_stored (hJ : J.Faithful) (hm : m.Coherent J) {a : Action} (h : m.step J a = some m')
    {task : AggregatorTask} (hstored : m'.provisioner.datastore.lookup taskId = some task) :
    m.provisioner.datastore.lookup taskId = some task ∨
      ∃ (k : Nat) (request : StartRoundRequest),
        m.threads[k]? = some (.transaction request taskId task) ∧
          m'.threads[k]? = some (.record request taskId) := by
  cases a with
  | send request => cases h; exact .inl hstored
  | drop i =>
      obtain ⟨t, -, rfl⟩ := step_drop h
      exact .inl hstored
  | restart => cases h; exact .inl hstored
  | resume i ω =>
      obtain ⟨thread, thread', hr⟩ := step_resume h
      have hvalid := hm.threads i thread hr.get
      have hget := hr.get
      have hget' : m'.threads[i]? = some thread' := by
        rw [hr.threads, List.getElem?_set_self (List.getElem?_eq_some_iff.mp hget).1]
      have hres := hr.resumes
      generalize m'.provisioner = p' at hres hstored
      cases hres with
      | keypair hsame => rw [hsame.datastore] at hstored; exact .inl hstored
      | built _ _ _ hsame => rw [hsame.datastore] at hstored; exact .inl hstored
      | @provisioned request t task' datastore hpost =>
          obtain ⟨-, s, -, hbuilds⟩ := hvalid
          rcases postTask_ok hpost with ⟨rfl, -⟩ | ⟨rfl, -⟩
          · exact .inl hstored
          · rw [hbuilds.id_eq hJ] at hstored
            by_cases ht : taskId = t
            · subst ht
              rw [AList.lookup_insert] at hstored
              cases hstored
              exact .inr ⟨i, request, hget, hget'⟩
            · rw [AList.lookup_insert_ne ht] at hstored
              exact .inl hstored
      | recorded => rw [TaskProvisioner.recordTask_datastore] at hstored; exact .inl hstored
      | ended _ hdatastore => rw [hdatastore] at hstored; exact .inl hstored
      | failed hsame => rw [hsame.datastore] at hstored; exact .inl hstored
      | _ => exact .inl hstored

/-! ## Fresh task ids -/

/-- Each task id was sent in one request at most, and it is stored only after
the transaction of this request. -/
structure FreshTasks (m : Manager) : Prop where
  single : ∀ (k k' : Nat) (thread thread' : Thread) (taskId : TaskId),
    m.threads[k]? = some thread → m.threads[k']? = some thread' →
    thread.request.taskId = some taskId → thread'.request.taskId = some taskId → k = k'
  stored : ∀ (taskId : TaskId) (task : AggregatorTask),
    m.provisioner.datastore.lookup taskId = some task →
    ∃ (k : Nat) (thread : Thread), m.threads[k]? = some thread ∧ thread.request.taskId = some taskId
  unstored : ∀ (k : Nat) (thread : Thread) (taskId : TaskId), m.threads[k]? = some thread →
    thread.request.taskId = some taskId → thread.beforeTransaction = true →
    m.provisioner.datastore.lookup taskId = none

/-- The task id of a request that is sent is not the one of an earlier request. -/
def Action.FreshTask (m : Manager) (a : Action) : Prop :=
  ∀ (request : Request) (taskId : TaskId), a = .send request → request.taskId = some taskId →
    ∀ (k : Nat) (thread : Thread), m.threads[k]? = some thread → thread.request.taskId ≠ some taskId

theorem freshTasks_new (config : TaskProvisionerConfig) : (Manager.new ∅ config).FreshTasks where
  single := by intro k k' thread thread' t hk; simp [Manager.new] at hk
  stored := by intro t task ht; simp [Manager.new, TaskProvisioner.new] at ht
  unstored := by intro k thread t hk; simp [Manager.new] at hk

theorem FreshTasks.step (hJ : J.Faithful) (hcoherent : m.Coherent J) (hm : m.FreshTasks)
    {a : Action} (h : m.step J a = some m') (ha : a.FreshTask m) : m'.FreshTasks where
  single := by
    intro k k' thread thread' t hk hk' ht ht'
    rcases step_request h hk with ⟨thread₀, h₀, heq, -⟩ | ⟨hlen, request, rfl, rfl⟩
    · rcases step_request h hk' with ⟨thread₁, h₁, heq₁, -⟩ | ⟨-, request, rfl, rfl⟩
      · exact hm.single k k' thread₀ thread₁ t h₀ h₁ (heq ▸ ht) (heq₁ ▸ ht')
      · exact (ha request t rfl ht' k thread₀ h₀ (heq ▸ ht)).elim
    · rcases step_request h hk' with ⟨thread₁, h₁, heq₁, -⟩ | ⟨hlen', -⟩
      · exact (ha request t rfl ht k' thread₁ h₁ (heq₁ ▸ ht')).elim
      · exact hlen.trans hlen'.symm
  stored := by
    intro t task ht
    rcases step_stored hJ hcoherent h ht with ht | ⟨k, request, hk, hk'⟩
    · obtain ⟨k, thread, hk, htask⟩ := hm.stored t task ht
      obtain ⟨thread', hk', heq, -⟩ := step_keeps h hk
      exact ⟨k, thread', hk', heq ▸ htask⟩
    · exact ⟨k, _, hk', Request.taskId_startRound.mpr (hcoherent.threads k _ hk).1⟩
  unstored := by
    intro k thread t hk ht hbefore
    cases hstored : m'.provisioner.datastore.lookup t with
    | none => rfl
    | some task =>
        exfalso
        rcases step_request h hk with ⟨thread₀, h₀, heq, hbefore₀⟩ | ⟨-, request, rfl, rfl⟩
        · have hnone := hm.unstored k thread₀ t h₀ (heq ▸ ht) (hbefore₀ hbefore)
          rcases step_stored hJ hcoherent h hstored with hold | ⟨k', request, hk', hrecord⟩
          · rw [hnone] at hold; cases hold
          · -- the transaction was the one of this thread, which then is past it
            have htask := Request.taskId_startRound.mpr (hcoherent.threads k' _ hk').1
            obtain rfl := hm.single k k' thread₀ _ t h₀ hk' (heq ▸ ht) htask
            rw [hrecord] at hk
            cases hk
            cases hbefore
        · rcases step_stored hJ hcoherent h hstored with hold | ⟨k', request', hk', -⟩
          · obtain ⟨k', thread', hk', htask⟩ := hm.stored t task hold
            exact ha request t rfl ht k' thread' hk' htask
          · exact ha request t rfl ht k' _ hk'
              (Request.taskId_startRound.mpr (hcoherent.threads k' _ hk').1)

/-! ## Accepted rounds -/

/-- While a thread with the guard stays at its await point, no table changes. -/
theorem step_sameTables (hm : m.Exclusive) {a : Action} (h : m.step J a = some m') {k : Nat}
    {thread : Thread} (hk : m.threads[k]? = some thread) (hk' : m'.threads[k]? = some thread)
    (hholds : thread.holdsGuard = true) : m.provisioner.SameTables m'.provisioner := by
  cases a with
  | send request => cases h; exact .refl _
  | drop i =>
      obtain ⟨t, -, rfl⟩ := step_drop h
      exact .refl _
  | restart =>
      cases h
      rw [List.getElem?_map, hk, Option.map_some] at hk'
      rw [← Option.some.inj hk', dropThread_holdsGuard] at hholds
      cases hholds
  | resume i ω =>
      obtain ⟨t, t', hr⟩ := step_resume h
      refine hr.sameTables hm ?_ hk hholds
      rintro rfl
      obtain rfl := Option.some.inj (hr.get.symm.trans hk)
      rw [hr.threads, List.getElem?_set_self (List.getElem?_eq_some_iff.mp hk).1] at hk'
      obtain rfl := Option.some.inj hk'
      have hres := hr.resumes
      generalize m'.provisioner = p' at hres
      cases t' with
      | transaction request taskId task => cases hres
      | record request taskId => cases hres
      | _ => cases hholds

/-- The manager of an aggregator with this role: its sessions are in the role,
and for every accepted round it has stored a task for the terms of its session. -/
structure InRole (J : Janus) (m : Manager) (role : Role) : Prop where
  requests : ∀ (k : Nat) (thread : Thread) (request : CreateTrainingSessionRequest),
    m.threads[k]? = some thread → thread.request = .createSession request → request.role = role
  sessions : ∀ (id : TrainingSessionId) (s : TrainingSession),
    m.provisioner.trainingSessions.lookup id = some s → s.role = role
  recorded : ∀ (k : Nat) (request : StartRoundRequest) (taskId : TaskId),
    m.threads[k]? = some (.record request taskId) →
    ∃ s task, m.provisioner.trainingSessions.lookup request.trainingSessionId = some s ∧
      m.provisioner.datastore.lookup taskId = some task ∧ task.Carries J (s.terms J) role
  accepted : ∀ (k : Nat) (request : StartRoundRequest) (response : Response),
    m.threads[k]? = some (.answered (.startRound request) (.ok response)) →
    ∃ taskId task p, taskIdFromString request.taskIdEncoded = .ok taskId ∧
      m.provisioner.datastore.lookup taskId = some task ∧ task.Carries J p role

theorem inRole_new (J : Janus) (datastore : Datastore) (config : TaskProvisionerConfig)
    (role : Role) : (Manager.new datastore config).InRole J role where
  requests := by intro k thread request hk; simp [Manager.new] at hk
  sessions := by intro id s hs; simp [Manager.new, TaskProvisioner.new] at hs
  recorded := by intro k request taskId hk; simp [Manager.new] at hk
  accepted := by intro k request response hk; simp [Manager.new] at hk

/-- A round whose transaction has gone through has stored its own task. -/
theorem provisioned_carries (hJ : J.Faithful) (hcoherent : m.Coherent J) (hfresh : m.FreshTasks)
    {role : Role} (hm : m.InRole J role) {k : Nat} {ω : Ambient} {request : StartRoundRequest}
    {task : AggregatorTask}
    (hr : m.Resumed J k ω (.transaction request taskId task) (.record request taskId) m') :
    ∃ s, m'.provisioner.trainingSessions.lookup request.trainingSessionId = some s ∧
      s.Builds J m.provisioner.config taskId task ∧
      m'.provisioner.datastore.lookup taskId = some task ∧ task.Carries J (s.terms J) role := by
  obtain ⟨hdecode, s, hlive, hbuilds⟩ := hcoherent.threads k _ hr.get
  have hnone := hfresh.unstored k _ taskId hr.get (Request.taskId_startRound.mpr hdecode) rfl
  have hcarries := hbuilds.carries hJ
  rw [hm.sessions _ s hlive] at hcarries
  have hres := hr.resumes
  generalize m'.provisioner = p' at hres
  cases hres with
  | provisioned hpost =>
      refine ⟨s, hlive, hbuilds, ?_, hcarries⟩
      rcases postTask_ok hpost with ⟨rfl, task', hlookup, -⟩ | ⟨rfl, -⟩
      · rw [hbuilds.id_eq hJ, hnone] at hlookup
        cases hlookup
      · rw [hbuilds.id_eq hJ]
        exact AList.lookup_insert _

theorem InRole.step (hJ : J.Faithful) (hcoherent : m.Coherent J) (hfresh : m.FreshTasks)
    {role : Role} (hm : m.InRole J role) {a : Action} (h : m.step J a = some m')
    (ha : ∀ request, a = .send (.createSession request) → request.role = role) :
    m'.InRole J role where
  requests := by
    intro k thread request hk hrequest
    rcases step_request h hk with ⟨thread₀, h₀, heq, -⟩ | ⟨-, request, rfl, rfl⟩
    · exact hm.requests k thread₀ request h₀ (heq.trans hrequest)
    · cases hrequest
      exact ha _ rfl
  sessions := by
    intro id s hs
    rcases live_origin hcoherent h hs with ⟨s₀, hs₀, heq⟩ | ⟨k, request, secrets, keypair, hk, -, rfl⟩
    · rw [heq]
      exact hm.sessions id s₀ hs₀
    · exact hm.requests k _ request hk rfl
  recorded := by
    intro k request taskId hk
    cases step_origin h hk with
    | same hget =>
        obtain ⟨s, task, hlive, hstored, hcarries⟩ := hm.recorded k request taskId hget
        have hsame := step_sameTables hcoherent.exclusive h hget hk rfl
        exact ⟨s, task, by rw [hsame.trainingSessions]; exact hlive,
          by rw [hsame.datastore]; exact hstored, hcarries⟩
    | @resumed ω thread _ hr =>
        obtain ⟨task, rfl⟩ : ∃ task, thread = .transaction request taskId task := by
          have hres := hr.resumes
          generalize m'.provisioner = p' at hres
          cases hres with
          | provisioned => exact ⟨_, rfl⟩
        obtain ⟨s, hlive, -, hstored, hcarries⟩ :=
          provisioned_carries hJ hcoherent hfresh hm hr
        exact ⟨s, task, hlive, hstored, hcarries⟩
  accepted := by
    intro k request response hk
    cases step_origin h hk with
    | same hget =>
        obtain ⟨taskId, task, p, hdecode, hstored, hcarries⟩ := hm.accepted k request response hget
        exact ⟨taskId, task, p, hdecode, step_extends h _ _ hstored, hcarries⟩
    | @resumed ω thread _ hr =>
        obtain ⟨taskId, rfl⟩ := hr.resumes.of_startRound hr.resumes.request_eq.symm
        obtain ⟨s, task, -, hstored, hcarries⟩ := hm.recorded k request taskId hr.get
        exact ⟨taskId, task, _, (hcoherent.threads k _ hr.get).1, step_extends h _ _ hstored,
          hcarries⟩

end Manager
