-- SUMMARY: The invariant of one manager that ties its sessions, its threads and its datastore together.
import Dpsa4fl.JanusManager.ThreadSpecs

/-!
# Coherence of one manager

The sessions of a manager are in its memory and the tasks are in its datastore,
and the two are updated separately. `Manager.Coherent` relates them: every task
that a live session lists is stored with the session's parameters. It also says
what is known at every await point, which is what carries it through the steps.

The datastore may be shared, so nothing here excludes that it grows while the
manager is idle, see `Coherent.withDatastore`.
-/

/-! ## Datastores that only grow -/

/-- Every task that is stored in `ds` is stored unchanged in `ds'`. -/
def Datastore.Extends (ds ds' : Datastore) : Prop :=
  ∀ taskId task, ds.lookup taskId = some task → ds'.lookup taskId = some task

namespace Datastore.Extends

variable {ds ds' ds'' : Datastore}

@[refl] theorem refl (ds : Datastore) : Datastore.Extends ds ds := fun _ _ h => h

theorem trans (h : Datastore.Extends ds ds') (h' : Datastore.Extends ds' ds'') :
    Datastore.Extends ds ds'' :=
  fun t task ht => h' t task (h t task ht)

theorem of_postTask {task : AggregatorTask} (h : postTask task ds = .ok ds') :
    Datastore.Extends ds ds' := by
  rcases postTask_ok h with ⟨rfl, -⟩ | ⟨rfl, hnone⟩
  · exact refl ds'
  · intro t task' ht
    have hne : t ≠ task.id := by
      rintro rfl
      rw [hnone] at ht; cases ht
    rwa [AList.lookup_insert_ne hne]

end Datastore.Extends

/-! ## Tasks that fit a session -/

/-- The task carries the parameters of the session that all parties must agree on. -/
structure TrainingSession.Fits (J : Janus) (s : TrainingSession) (task : AggregatorTask) : Prop where
  vdaf : task.vdaf = s.vdafParameter.toVdafInstance J
  role : task.role = s.role
  verifyKey : task.opaqueVdafVerifyKey = s.verifyKey
  collectorHpkeConfig : task.collectorHpkeConfig = s.collectorHpkeConfig

namespace TrainingSession

variable {J : Janus} {s : TrainingSession} {config : TaskProvisionerConfig} {taskId : TaskId}
  {task existingTask : AggregatorTask}

theorem taskParams_role {params : AggregatorTaskParameters} (h : s.taskParams J = .ok params) :
    (s.role = .leader ∧ params = .leader s.leaderAuthToken
        (J.authenticationTokenHash s.collectorAuthToken) s.collectorHpkeConfig) ∨
      (s.role = .helper ∧ params = .helper (J.authenticationTokenHash s.leaderAuthToken)
        s.collectorHpkeConfig) := by
  unfold taskParams at h
  split at h
  · rename_i hrole
    cases h; exact .inl ⟨hrole, rfl⟩
  · rename_i hrole
    cases h; exact .inr ⟨hrole, rfl⟩
  · cases h

/-- The fields of a created task, up to its endpoint. -/
theorem Builds.eq (hJ : J.Faithful) (h : s.Builds J config taskId task) :
    ∃ params, s.taskParams J = .ok params ∧ task =
      { s.taskArguments J config taskId params with
        peerAggregatorEndpoint := task.peerAggregatorEndpoint } := by
  obtain ⟨params, hparams, htask⟩ := h
  exact ⟨params, hparams, hJ.newAggregatorTask_eq htask⟩

theorem Builds.id_eq (hJ : J.Faithful) (h : s.Builds J config taskId task) : task.id = taskId := by
  obtain ⟨params, -, heq⟩ := h.eq hJ
  rw [heq]
  rfl

theorem Builds.fits (hJ : J.Faithful) (h : s.Builds J config taskId task) : s.Fits J task := by
  obtain ⟨params, hparams, heq⟩ := h.eq hJ
  rw [heq]
  rcases taskParams_role hparams with ⟨hrole, rfl⟩ | ⟨hrole, rfl⟩
  · exact ⟨rfl, hrole.symm, rfl, rfl⟩
  · exact ⟨rfl, hrole.symm, rfl, rfl⟩

/-- The comparison of `provision_task` is fine enough to keep a fitting task. -/
theorem Fits.of_corresponds (h : s.Fits J task) (hc : existingTask.corresponds task = true) :
    s.Fits J existingTask := by
  simp only [AggregatorTask.corresponds, Bool.and_eq_true, beq_iff_eq] at hc
  obtain ⟨⟨⟨⟨⟨⟨⟨⟨⟨-, -⟩, hvdaf⟩, hkey⟩, hrole⟩, -⟩, -⟩, -⟩, -⟩, hconfig⟩ := hc
  exact ⟨hvdaf.trans h.vdaf, hrole.trans h.role, hkey.trans h.verifyKey,
    hconfig.trans h.collectorHpkeConfig⟩

/-- After its transaction, a task that fits the session is stored. -/
theorem Builds.stored (hJ : J.Faithful) (h : s.Builds J config taskId task) {ds ds' : Datastore}
    (hpost : postTask task ds = .ok ds') :
    ∃ task', ds'.lookup taskId = some task' ∧ s.Fits J task' := by
  rw [← h.id_eq hJ]
  rcases postTask_ok hpost with ⟨rfl, existingTask, hlookup, hc⟩ | ⟨rfl, -⟩
  · exact ⟨existingTask, hlookup, (h.fits hJ).of_corresponds hc⟩
  · exact ⟨task, AList.lookup_insert ds, h.fits hJ⟩

end TrainingSession

/-! ## What is known at an await point -/

def Thread.Valid (J : Janus) (p : TaskProvisioner) : Thread → Prop
  | .keyring request id secrets =>
    createSessionSecrets J request = .ok secrets ∧
      ∀ k, request.trainingSessionId = some k → k = id
  | .insert request id session =>
    (∃ secrets keypair, createSessionSecrets J request = .ok secrets ∧
      session = request.session secrets keypair) ∧
      ∀ k, request.trainingSessionId = some k → k = id
  | .transaction request taskId task =>
    taskIdFromString request.taskIdEncoded = .ok taskId ∧
      ∃ s, p.trainingSessions.lookup request.trainingSessionId = some s ∧
        s.Builds J p.config taskId task
  | .record request taskId =>
    taskIdFromString request.taskIdEncoded = .ok taskId ∧
      ∃ s task, p.trainingSessions.lookup request.trainingSessionId = some s ∧
        p.datastore.lookup taskId = some task ∧ s.Fits J task
  | .lookup request taskId => taskIdFromString request.taskIdEncoded = .ok taskId
  | .answered (.getVdafParameter request) (.ok (.getVdafParameter vdafParameter)) =>
    ∃ taskId task, taskIdFromString request.taskIdEncoded = .ok taskId ∧
      p.datastore.lookup taskId = some task ∧ task.vdaf = vdafParameter.toVdafInstance J
  | _ => True

namespace Thread.Valid

variable {J : Janus} {p p' : TaskProvisioner} {thread : Thread}

/-- What a thread knows stays true while the datastore grows, and while the
sessions do not change if the thread holds their guard. -/
theorem mono (h : thread.Valid J p) (hds : Datastore.Extends p.datastore p'.datastore)
    (hsame : thread.holdsGuard = true →
      p'.trainingSessions = p.trainingSessions ∧ p'.config = p.config) :
    thread.Valid J p' := by
  cases thread with
  | transaction request taskId task =>
      obtain ⟨hsessions, hconfig⟩ := hsame rfl
      simpa only [Valid, hsessions, hconfig] using h
  | record request taskId =>
      obtain ⟨hsessions, -⟩ := hsame rfl
      obtain ⟨hid, s, task, hlive, hstored, hfits⟩ := h
      exact ⟨hid, s, task, by rw [hsessions]; exact hlive, hds _ _ hstored, hfits⟩
  | answered request answer =>
      cases request with
      | getVdafParameter request =>
          cases answer with
          | error failure => trivial
          | ok response =>
              cases response with
              | getVdafParameter vdafParameter =>
                  obtain ⟨taskId, task, hid, hstored, hvdaf⟩ := h
                  exact ⟨taskId, task, hid, hds _ _ hstored, hvdaf⟩
              | _ => trivial
      | _ => trivial
  | _ => exact h

theorem dropThread (h : thread.Valid J p) : (Manager.dropThread thread).Valid J p := by
  rcases Manager.dropThread_cases thread with heq | heq
  · rwa [heq]
  · rw [heq]; trivial

end Thread.Valid

namespace Thread.Resumes

variable {J : Janus} {ω : Ambient} {p p' : TaskProvisioner} {thread thread' : Thread}

theorem extends_datastore (h : thread.Resumes J ω p thread' p') :
    Datastore.Extends p.datastore p'.datastore := by
  cases h with
  | keypair hsame => rw [hsame.datastore]
  | built _ _ _ hsame => rw [hsame.datastore]
  | provisioned hpost => exact .of_postTask hpost
  | recorded =>
      unfold TaskProvisioner.recordTask
      split <;> rfl
  | ended _ hdatastore => rw [hdatastore]
  | failed hsame => rw [hsame.datastore]
  | _ => rfl

end Thread.Resumes

/-! ## The invariant -/

structure Manager.Coherent (J : Janus) (m : Manager) : Prop where
  exclusive : m.Exclusive
  threads : ∀ (i : Nat) (thread : Thread), m.threads[i]? = some thread →
    thread.Valid J m.provisioner
  sessions : ∀ id s, m.provisioner.trainingSessions.lookup id = some s →
    ∀ taskId ∈ s.tasks, ∃ task, m.provisioner.datastore.lookup taskId = some task ∧ s.Fits J task

namespace TaskProvisioner

theorem lookup_recordTask (p : TaskProvisioner) (id k : TrainingSessionId) (taskId : TaskId) :
    (p.recordTask id taskId).trainingSessions.lookup k =
      if k = id then (p.trainingSessions.lookup id).map fun s =>
        { s with tasks := s.tasks ++ [taskId] }
      else p.trainingSessions.lookup k := by
  unfold recordTask
  split
  · rename_i s hs
    split
    · rename_i hk
      rw [hk, AList.lookup_insert, hs, Option.map_some]
    · rename_i hk
      rw [AList.lookup_insert_ne hk]
  · rename_i hnone
    split
    · rename_i hk
      rw [hk, hnone, Option.map_none]
    · rfl

@[simp] theorem recordTask_datastore (p : TaskProvisioner) (id : TrainingSessionId)
    (taskId : TaskId) : (p.recordTask id taskId).datastore = p.datastore := by
  unfold recordTask
  split <;> rfl

end TaskProvisioner

namespace Manager

variable {J : Janus} {m m' : Manager}

theorem coherent_new (J : Janus) (datastore : Datastore) (config : TaskProvisionerConfig) :
    (Manager.new datastore config).Coherent J where
  exclusive := by intro i j ti tj hi; simp [Manager.new] at hi
  threads := by intro i thread hi; simp [Manager.new] at hi
  sessions := by intro id s hs; simp [Manager.new, TaskProvisioner.new] at hs

/-- The manager over another state of its datastore. -/
def withDatastore (m : Manager) (ds : Datastore) : Manager :=
  { m with provisioner := { m.provisioner with datastore := ds } }

/-- Another process may add tasks to the shared datastore at any time. -/
theorem Coherent.withDatastore (h : m.Coherent J) {ds : Datastore}
    (hds : Datastore.Extends m.provisioner.datastore ds) : (m.withDatastore ds).Coherent J where
  exclusive := h.exclusive
  threads := fun i thread hi => (h.threads i thread hi).mono hds fun _ => ⟨rfl, rfl⟩
  sessions := fun id s hs taskId ht => by
    obtain ⟨task, hstored, hfits⟩ := h.sessions id s hs taskId ht
    exact ⟨task, hds _ _ hstored, hfits⟩

theorem step_extends {a : Action} (h : m.step J a = some m') :
    Datastore.Extends m.provisioner.datastore m'.provisioner.datastore := by
  cases a with
  | send request => cases h; rfl
  | resume i ω =>
      obtain ⟨thread, thread', hr⟩ := step_resume h
      exact hr.resumes.extends_datastore
  | drop i =>
      obtain ⟨thread, -, rfl⟩ := step_drop h
      rfl
  | restart => cases h; rfl

/-- The resumed thread knows what its next await point says. -/
theorem Coherent.resumed_valid (hJ : J.Faithful) (hm : m.Coherent J) {i : Nat} {ω : Ambient}
    {thread thread' : Thread} (hr : m.Resumed J i ω thread thread' m') :
    thread'.Valid J m'.provisioner := by
  have hvalid := hm.threads i thread hr.get
  have hres := hr.resumes
  generalize m'.provisioner = p' at hres
  cases hres with
  | chosen hsecrets hid =>
      refine ⟨hsecrets, fun k hk => ?_⟩
      rcases hid with ⟨hsome, -⟩ | ⟨hnone, -⟩
      · rw [hk] at hsome; exact Option.some.inj hsome
      · rw [hk] at hnone; cases hnone
  | keypair hsame => exact ⟨⟨_, _, hvalid.1, rfl⟩, hvalid.2⟩
  | inserted => trivial
  | built hlive htask hbuilds hsame =>
      exact ⟨htask, _, by rw [hsame.trainingSessions]; exact hlive,
        by rw [hsame.config]; exact hbuilds⟩
  | provisioned hpost =>
      obtain ⟨htask, s, hlive, hbuilds⟩ := hvalid
      obtain ⟨task', hstored, hfits⟩ := hbuilds.stored hJ hpost
      exact ⟨htask, s, task', hlive, hstored, hfits⟩
  | recorded => trivial
  | ended => trivial
  | decoded htask => exact htask
  | found hlive hmem =>
      obtain ⟨task, hstored, hfits⟩ := hm.sessions _ _ hlive _ hmem
      exact ⟨_, task, hvalid, hstored, hfits.vdaf⟩
  | located => trivial
  | failed hsame => cases thread.request <;> trivial

/-- Every listed task is stored, after one more piece of a handler. -/
theorem Coherent.resumed_sessions (hm : m.Coherent J) {i : Nat} {ω : Ambient}
    {thread thread' : Thread} (hr : m.Resumed J i ω thread thread' m') (id : TrainingSessionId)
    (s : TrainingSession) (hs : m'.provisioner.trainingSessions.lookup id = some s)
    (taskId : TaskId) (ht : taskId ∈ s.tasks) :
    ∃ task, m'.provisioner.datastore.lookup taskId = some task ∧ s.Fits J task := by
  have hvalid := hm.threads i thread hr.get
  have hres := hr.resumes
  generalize m'.provisioner = p' at hres hs
  -- while the sessions do not change, growth of the datastore is harmless
  have hkeep : ∀ {p' : TaskProvisioner}, thread.Resumes J ω m.provisioner thread' p' →
      m.provisioner.trainingSessions.lookup id = some s →
      ∃ task, p'.datastore.lookup taskId = some task ∧ s.Fits J task := by
    intro p' hres hs
    obtain ⟨task, hstored, hfits⟩ := hm.sessions id s hs taskId ht
    exact ⟨task, hres.extends_datastore _ _ hstored, hfits⟩
  cases hres with
  | keypair hsame =>
      exact hkeep (.keypair hsame) (by rw [← hsame.trainingSessions]; exact hs)
  | built hlive htask hbuilds hsame =>
      exact hkeep (.built hlive htask hbuilds hsame) (by rw [← hsame.trainingSessions]; exact hs)
  | failed hsame => exact hkeep (.failed hsame) (by rw [← hsame.trainingSessions]; exact hs)
  | @inserted request k session =>
      by_cases hk : id = k
      · -- the new session lists no task yet
        rw [hk, AList.lookup_insert] at hs
        obtain ⟨⟨secrets, keypair, -, rfl⟩, -⟩ := hvalid
        cases hs; cases ht
      · rw [AList.lookup_insert_ne hk] at hs
        exact hm.sessions id s hs taskId ht
  | @recorded request t =>
      rw [TaskProvisioner.lookup_recordTask] at hs
      rw [TaskProvisioner.recordTask_datastore]
      split at hs
      · obtain ⟨-, s₀, task, hlive, hstored, hfits⟩ := hvalid
        rw [hlive] at hs; cases hs
        rcases List.mem_append.mp ht with ht | ht
        · obtain ⟨task', hstored', hfits'⟩ := hm.sessions _ s₀ hlive taskId ht
          exact ⟨task', hstored', ⟨hfits'.1, hfits'.2, hfits'.3, hfits'.4⟩⟩
        · rw [List.mem_singleton.mp ht]
          exact ⟨task, hstored, ⟨hfits.1, hfits.2, hfits.3, hfits.4⟩⟩
      · exact hm.sessions id s hs taskId ht
  | @ended k p' hlive hdatastore hconfig hsessions =>
      rw [hsessions] at hs
      by_cases hk : id = k
      · rw [hk, AList.lookup_erase] at hs; cases hs
      · rw [AList.lookup_erase_ne hk] at hs
        rw [hdatastore]
        exact hm.sessions id s hs taskId ht
  | provisioned hpost => exact hkeep (.provisioned hpost) hs
  | _ => exact hm.sessions id s hs taskId ht

theorem Coherent.step (hJ : J.Faithful) (hm : m.Coherent J) {a : Action}
    (h : m.step J a = some m') : m'.Coherent J := by
  have hexclusive := hm.exclusive.step h
  cases a with
  | send request =>
      cases h
      refine ⟨hexclusive, fun i thread hi => ?_, hm.sessions⟩
      rcases getElem?_send hi with hi | ⟨-, rfl⟩
      · exact hm.threads i thread hi
      · trivial
  | resume i ω =>
      obtain ⟨thread, thread', hr⟩ := step_resume h
      refine ⟨hexclusive, fun k tk hk => ?_, hm.resumed_sessions hr⟩
      rw [hr.threads] at hk
      rcases getElem?_set hk with ⟨rfl, rfl⟩ | ⟨hki, hk⟩
      · exact hm.resumed_valid hJ hr
      · refine (hm.threads k tk hk).mono hr.resumes.extends_datastore fun hholds => ?_
        have hsame := hr.sameTables hm.exclusive hki hk hholds
        exact ⟨hsame.trainingSessions, hsame.config⟩
  | drop i =>
      obtain ⟨thread, hget, rfl⟩ := step_drop h
      refine ⟨hexclusive, fun k tk hk => ?_, hm.sessions⟩
      rcases getElem?_set hk with ⟨rfl, rfl⟩ | ⟨-, hk⟩
      · exact (hm.threads k thread hget).dropThread
      · exact hm.threads k tk hk
  | restart =>
      cases h
      refine ⟨hexclusive, fun k tk hk => ?_, fun id s hs => ?_⟩
      · rw [List.getElem?_map, Option.map_eq_some_iff] at hk
        obtain ⟨thread, hget, rfl⟩ := hk
        refine (hm.threads k thread hget).dropThread.mono (.refl _) fun hholds => ?_
        rw [dropThread_holdsGuard] at hholds; cases hholds
      · simp at hs

/-- The invariant holds in every state a manager can reach. -/
theorem Coherent.run (hJ : J.Faithful) {as : List Action} (hm : m.Coherent J)
    (hrun : Run.after (Manager.step J) m as = some m') : m'.Coherent J :=
  Run.invariant (fun _ _ _ h hstep => h.step hJ hstep) hm hrun

/-! ## Where listed tasks and given answers come from -/

/-- The live session `id` lists the task. -/
def Lists (m : Manager) (id : TrainingSessionId) (taskId : TaskId) : Prop :=
  ∃ s, m.provisioner.trainingSessions.lookup id = some s ∧ taskId ∈ s.tasks

/-- Thread number `i` has accepted a round of the session for the task. -/
def Accepted (m : Manager) (i : Nat) (id : TrainingSessionId) (taskId : TaskId) : Prop :=
  ∃ request, m.threads[i]? = some (.answered (.startRound request) (.ok .startRound)) ∧
    request.trainingSessionId = id ∧ taskIdFromString request.taskIdEncoded = .ok taskId

theorem Resumed.get' {i : Nat} {ω : Ambient} {thread thread' : Thread}
    (h : m.Resumed J i ω thread thread' m') : m'.threads[i]? = some thread' := by
  obtain ⟨hlt, -⟩ := List.getElem?_eq_some_iff.mp h.get
  rw [h.threads, List.getElem?_set_self hlt]

/-- A session that starts to list a task does so because a round was accepted. -/
theorem Coherent.accepted_of_lists (hm : m.Coherent J) {a : Action} {id : TrainingSessionId}
    {taskId : TaskId} (h : m.step J a = some m') (hbefore : ¬ m.Lists id taskId)
    (hafter : m'.Lists id taskId) : ∃ i ω, a = .resume i ω ∧ m'.Accepted i id taskId := by
  obtain ⟨s, hs, ht⟩ := hafter
  cases a with
  | send request => cases h; exact (hbefore ⟨s, hs, ht⟩).elim
  | drop i =>
      obtain ⟨thread, -, rfl⟩ := step_drop h
      exact (hbefore ⟨s, hs, ht⟩).elim
  | restart => cases h; simp at hs
  | resume i ω =>
      obtain ⟨thread, thread', hr⟩ := step_resume h
      refine ⟨i, ω, rfl, ?_⟩
      have hvalid := hm.threads i thread hr.get
      have hget := hr.get'
      have hres := hr.resumes
      generalize m'.provisioner = p' at hres hs
      cases hres with
      | keypair hsame => rw [hsame.trainingSessions] at hs; exact (hbefore ⟨s, hs, ht⟩).elim
      | built _ _ _ hsame => rw [hsame.trainingSessions] at hs; exact (hbefore ⟨s, hs, ht⟩).elim
      | failed hsame => rw [hsame.trainingSessions] at hs; exact (hbefore ⟨s, hs, ht⟩).elim
      | @inserted request k session =>
          by_cases hk : id = k
          · rw [hk, AList.lookup_insert] at hs
            obtain ⟨⟨secrets, keypair, -, rfl⟩, -⟩ := hvalid
            cases hs; cases ht
          · rw [AList.lookup_insert_ne hk] at hs
            exact (hbefore ⟨s, hs, ht⟩).elim
      | @recorded request t =>
          rw [TaskProvisioner.lookup_recordTask] at hs
          split at hs
          · rename_i hid
            obtain ⟨s₀, hs₀, rfl⟩ := Option.map_eq_some_iff.mp hs
            rcases List.mem_append.mp ht with ht | ht
            · exact (hbefore ⟨s₀, by rw [hid]; exact hs₀, ht⟩).elim
            · rw [List.mem_singleton.mp ht]
              exact ⟨request, hget, hid.symm, hvalid.1⟩
          · exact (hbefore ⟨s, hs, ht⟩).elim
      | @ended k p' _ _ _ hsessions =>
          rw [hsessions] at hs
          by_cases hk : id = k
          · rw [hk, AList.lookup_erase] at hs; cases hs
          · rw [AList.lookup_erase_ne hk] at hs
            exact (hbefore ⟨s, hs, ht⟩).elim
      | _ => exact (hbefore ⟨s, hs, ht⟩).elim

/-- When `handle_get_vdaf_parameter` answers, a live session lists the task and
has these parameters, and the task is stored with them. -/
theorem Coherent.lists_of_answer (hm : m.Coherent J) {i : Nat} {ω : Ambient}
    {request : GetVdafParameterRequest} {vdafParameter : VdafParameter}
    (h : m.step J (.resume i ω) = some m')
    (hanswer : m'.threads[i]? =
      some (.answered (.getVdafParameter request) (.ok (.getVdafParameter vdafParameter)))) :
    ∃ taskId task id, taskIdFromString request.taskIdEncoded = .ok taskId ∧
      m'.provisioner.datastore.lookup taskId = some task ∧
      task.vdaf = vdafParameter.toVdafInstance J ∧ m.Lists id taskId := by
  obtain ⟨thread, thread', hr⟩ := step_resume h
  rw [hr.get'] at hanswer
  have hvalid := hm.threads i thread hr.get
  have hrunning := hr.running
  have hres := hr.resumes
  generalize m'.provisioner = p' at hres
  cases hanswer
  generalize hthread : Thread.answered _ _ = thread' at hres
  cases hres with
  | found hlive hmem =>
      cases hthread
      obtain ⟨task, hstored, hfits⟩ := hm.sessions _ _ hlive _ hmem
      exact ⟨_, task, _, hvalid, hstored, hfits.vdaf, _, hlive, hmem⟩
  | failed =>
      injection hthread with _ hanswer
      cases hanswer
  | _ => cases hthread

end Manager
