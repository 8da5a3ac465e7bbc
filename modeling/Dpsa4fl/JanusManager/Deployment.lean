-- SUMMARY: Any number of managers over one datastore, and what their sessions, tasks and answers have to do with each other.
import Dpsa4fl.JanusManager.Coherence

/-!
# Managers over one datastore

The tasks are kept in a database, so they outlive the sessions of the manager
that stored them, and other managers can use the same database. A `Deployment`
is a family of managers with one datastore; each of them has its own sessions
and threads, and is restarted on its own.
-/

/-- Managers that share a datastore. The datastore that each manager has as a
field of its own is not read. -/
structure Deployment (ι : Type) where
  datastore : Datastore
  instances : ι → Manager

namespace Deployment

variable {ι : Type} {J : Janus}

/-- A manager of the deployment, with the shared datastore. -/
def view (d : Deployment ι) (i : ι) : Manager := (d.instances i).withDatastore d.datastore

/-- Managers that have just been started on a datastore. -/
def new (datastore : Datastore) (config : ι → TaskProvisionerConfig) : Deployment ι where
  datastore := datastore
  instances i := .new datastore (config i)

def step [DecidableEq ι] (J : Janus) (d : Deployment ι) (a : ι × Manager.Action) : Option (Deployment ι) :=
  ((d.view a.1).step J a.2).map fun m =>
    ⟨m.provisioner.datastore, Function.update d.instances a.1 m⟩

theorem view_new (datastore : Datastore) (config : ι → TaskProvisionerConfig) (i : ι) :
    (new datastore config).view i = .new datastore (config i) := rfl

variable [DecidableEq ι] {d d' : Deployment ι}

/-- A step is one of a single manager. The others see a new datastore. -/
theorem step_view {a : ι × Manager.Action} (h : d.step J a = some d') :
    (d.view a.1).step J a.2 = some (d'.view a.1) ∧
      ∀ k, k ≠ a.1 → d'.view k = (d.view k).withDatastore d'.datastore := by
  obtain ⟨m, hm, rfl⟩ := Option.map_eq_some_iff.mp h
  refine ⟨?_, fun k hk => ?_⟩
  · rw [hm]
    simp only [view, Function.update_self]
    rfl
  · simp only [view, Function.update_of_ne hk]
    rfl

theorem step_extends {a : ι × Manager.Action} (h : d.step J a = some d') :
    Datastore.Extends d.datastore d'.datastore :=
  Manager.step_extends (step_view h).1

/-! ## The invariant -/

/-- Every manager is coherent with the shared datastore. -/
def Coherent (J : Janus) (d : Deployment ι) : Prop := ∀ i, (d.view i).Coherent J

theorem Coherent.step (hJ : J.Faithful) (hd : d.Coherent J) {a : ι × Manager.Action}
    (h : d.step J a = some d') : d'.Coherent J := by
  obtain ⟨hstep, hother⟩ := step_view h
  intro i
  by_cases hi : i = a.1
  · rw [hi]
    exact (hd a.1).step hJ hstep
  · rw [hother i hi]
    exact (hd i).withDatastore (step_extends h)

omit [DecidableEq ι] in
theorem coherent_new (J : Janus) (datastore : Datastore) (config : ι → TaskProvisionerConfig) :
    (new datastore config).Coherent J :=
  fun i => Manager.coherent_new J datastore (config i)

theorem Coherent.run (hJ : J.Faithful) {as : List (ι × Manager.Action)} (hd : d.Coherent J)
    (hrun : Run.after (Deployment.step J) d as = some d') : d'.Coherent J :=
  Run.invariant (fun _ _ _ h hstep => h.step hJ hstep) hd hrun

theorem extends_of_run {as : List (ι × Manager.Action)}
    (hrun : Run.after (Deployment.step J) d as = some d') :
    Datastore.Extends d.datastore d'.datastore := by
  refine Run.stable (P := fun _ => True)
    (R := fun d d' : Deployment ι => Datastore.Extends d.datastore d'.datastore)
    (fun d => .refl d.datastore) ?_ (fun _ _ _ _ _ => trivial) (fun _ _ _ _ h => step_extends h)
    trivial hrun
  intro d₁ d₂ d₃ h h'
  exact h.trans h'

/-! ## What the sessions and the tasks have to do with each other -/

/-- What holds of the sessions of all managers and of the datastore. -/
structure Agrees (J : Janus) (d : Deployment ι) : Prop where
  stored : ∀ i id s, (d.view i).provisioner.trainingSessions.lookup id = some s →
    ∀ taskId ∈ s.tasks, ∃ task, d.datastore.lookup taskId = some task ∧ s.Fits J task
  sameParameter : ∀ i j id id' s s' taskId,
    (d.view i).provisioner.trainingSessions.lookup id = some s →
    (d.view j).provisioner.trainingSessions.lookup id' = some s' →
    taskId ∈ s.tasks → taskId ∈ s'.tasks → s.vdafParameter = s'.vdafParameter

omit [DecidableEq ι] in
theorem Coherent.agrees (hJ : J.Faithful) (hd : d.Coherent J) : d.Agrees J where
  stored := fun i id s hs taskId ht => (hd i).sessions id s hs taskId ht
  sameParameter := by
    intro i j id id' s s' taskId hs hs' ht ht'
    obtain ⟨task, hstored, hfits⟩ := (hd i).sessions id s hs taskId ht
    obtain ⟨task', hstored', hfits'⟩ := (hd j).sessions id' s' hs' taskId ht'
    obtain rfl : task = task' := Option.some.inj (hstored.symm.trans hstored')
    exact VdafParameter.toVdafInstance_injective hJ (hfits.vdaf.symm.trans hfits'.vdaf)

/-- In the run `as` from `d`, manager `i` accepted a round of the session `id`
for the task, and since then that session has been live and has listed it. -/
def AcceptedSince (J : Janus) (d : Deployment ι) (as : List (ι × Manager.Action)) (i : ι)
    (id : TrainingSessionId) (taskId : TaskId) : Prop :=
  ∃ pre j ω post d₁ d₂, as = pre ++ (i, .resume j ω) :: post ∧
    Run.after (Deployment.step J) d pre = some d₁ ∧ d₁.step J (i, .resume j ω) = some d₂ ∧
    (d₂.view i).Accepted j id taskId ∧
    Run.Throughout (Deployment.step J) (fun d => (d.view i).Lists id taskId) d₂ post

/-- A listed task was accepted, and its session has been live ever since. -/
theorem Coherent.acceptedSince (hJ : J.Faithful) (hd : d.Coherent J)
    {as : List (ι × Manager.Action)} (hrun : Run.after (Deployment.step J) d as = some d')
    {i : ι} {id : TrainingSessionId} {taskId : TaskId} (hbefore : ¬ (d.view i).Lists id taskId)
    (hafter : (d'.view i).Lists id taskId) : d.AcceptedSince J as i id taskId := by
  obtain ⟨pre, ⟨k, a⟩, post, d₁, d₂, rfl, hpre, hstep, hnot, hlists, hsince⟩ :=
    Run.began (P := fun d : Deployment ι => (d.view i).Lists id taskId) hrun hbefore hafter
  obtain ⟨hview, hother⟩ := step_view hstep
  -- a step of another manager cannot have changed the sessions of this one
  by_cases hk : i = k
  · obtain rfl := hk
    have hcoherent := hd.run hJ hpre i
    obtain ⟨j, ω, rfl, haccepted⟩ := hcoherent.accepted_of_lists hview hnot hlists
    exact ⟨pre, j, ω, post, d₁, d₂, rfl, hpre, hstep, haccepted, hsince⟩
  · rw [hother i hk] at hlists
    exact (hnot hlists).elim

/-- Coherence of the sessions with the datastore: in every reachable state the
two agree, tasks stay as they were stored, and an answer with VDAF parameters
goes back to a round that a session still live has accepted. -/
theorem coherence (hJ : J.Faithful) {datastore : Datastore} {config : ι → TaskProvisionerConfig}
    {as : List (ι × Manager.Action)}
    (hrun : Run.after (Deployment.step J) (new datastore config) as = some d) :
    d.Agrees J ∧
    (∀ bs d', Run.after (Deployment.step J) d bs = some d' →
      Datastore.Extends d.datastore d'.datastore) ∧
    ∀ i k ω d' request vdafParameter, d.step J (i, .resume k ω) = some d' →
      (d'.view i).threads[k]? =
        some (.answered (.getVdafParameter request) (.ok (.getVdafParameter vdafParameter))) →
      ∃ taskId task id, taskIdFromString request.taskIdEncoded = .ok taskId ∧
        d'.datastore.lookup taskId = some task ∧
        task.vdaf = vdafParameter.toVdafInstance J ∧
        (new datastore config).AcceptedSince J as i id taskId := by
  have hnew := coherent_new J datastore config
  have hd := hnew.run hJ hrun
  refine ⟨hd.agrees hJ, fun bs d' h => extends_of_run h, ?_⟩
  intro i k ω d' request vdafParameter hstep hanswer
  obtain ⟨taskId, task, id, hdecode, hstored, hvdaf, hlists⟩ :=
    (hd i).lists_of_answer (step_view hstep).1 hanswer
  refine ⟨taskId, task, id, hdecode, hstored, hvdaf, hnew.acceptedSince hJ hrun ?_ hlists⟩
  rintro ⟨s, hs, -⟩
  simp [view_new, Manager.new, TaskProvisioner.new] at hs

end Deployment

namespace Sample

/-- Two managers; the first creates a session, starts a round and looks its task
up, and the second one restarts in between. -/
def sharedRun : List (Bool × Manager.Action) :=
  [(true, .send (.createSession (createRequest (some ⟨5⟩) [1]))), (true, .resume 0 (ambient 0)),
   (true, .resume 0 (ambient 0)), (true, .resume 0 (ambient 0)),
   (true, .send (.startRound (startRequest ⟨5⟩ (taskId 1)))), (true, .resume 1 (ambient 0)),
   (false, .restart), (true, .resume 1 (ambient 0)), (true, .resume 1 (ambient 0)),
   (true, .send (.getVdafParameter ⟨taskIdToString (taskId 1)⟩)), (true, .resume 2 (ambient 0))]

end Sample

/-- The run above is one of the model, and the answer it ends in goes back to
the round it started. -/
theorem Deployment.coherence_sample :
    ∃ d d' : Deployment Bool, d.Agrees .plain ∧ d.step .plain (true, .resume 2 (Sample.ambient 0)) = some d' ∧
      ∃ id, (Deployment.new ∅ fun _ => Sample.config).AcceptedSince .plain Sample.sharedRun true id
        (Sample.taskId 1) := by
  have hlast : ((Run.after (Deployment.step .plain) (.new ∅ fun _ : Bool => Sample.config)
      Sample.sharedRun).bind fun d => (d.step .plain (true, .resume 2 (Sample.ambient 0))).map
        fun d' => (d'.view true).threads[2]?) =
      some (some (.answered (.getVdafParameter ⟨taskIdToString (Sample.taskId 1)⟩)
        (.ok (.getVdafParameter Sample.vdafParameter)))) := by
    decide +kernel
  obtain ⟨d, hrun, hrest⟩ := Option.bind_eq_some_iff.mp hlast
  obtain ⟨d', hstep, hanswer⟩ := Option.map_eq_some_iff.mp hrest
  obtain ⟨hagrees, -, horigin⟩ := Deployment.coherence Janus.plain_faithful hrun
  obtain ⟨taskId, task, id, hdecode, -, -, hsince⟩ := horigin true 2 _ d' _ _ hstep hanswer
  rw [taskIdFromString_toString] at hdecode
  obtain rfl := Except.ok.inj hdecode
  exact ⟨d, d', hagrees, hstep, id, hsince⟩
