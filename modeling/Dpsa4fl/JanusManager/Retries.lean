-- SUMMARY: Asking for a round that was carried out already, or half of it, is safe, however often it is done.
import Dpsa4fl.JanusManager.AnswerSpecs
import Dpsa4fl.JanusManager.Kept
import Dpsa4fl.JanusManager.Rejected

/-!
# Retries of a round

When the transaction of a round has gone through, its task is stored; then it is
appended to the session. Asking for the round again finds a corresponding task in
the datastore and appends the task id once more, which no request can observe.
This also completes a round whose handler was dropped between the two.
-/

open Handler

/-! ## Committed rounds -/

/-- The session of the round is live, and a task that corresponds to the one of
the round is stored. -/
def TaskProvisioner.Committed (J : Janus) (request : StartRoundRequest) (taskId : TaskId)
    (p : TaskProvisioner) : Prop :=
  taskIdFromString request.taskIdEncoded = .ok taskId ∧
    ∃ s task existingTask, p.trainingSessions.lookup request.trainingSessionId = some s ∧
      s.Builds J p.config taskId task ∧ p.datastore.lookup task.id = some existingTask ∧
      existingTask.corresponds task = true

theorem AggregatorTask.corresponds_refl (task : AggregatorTask) : task.corresponds task = true := by
  simp [corresponds]

/-- A session builds one task for a task id. -/
theorem TrainingSession.Builds.unique {J : Janus} {s : TrainingSession}
    {config : TaskProvisionerConfig} {taskId : TaskId} {task task' : AggregatorTask}
    (h : s.Builds J config taskId task) (h' : s.Builds J config taskId task') : task' = task := by
  obtain ⟨params, hparams, htask⟩ := h
  obtain ⟨params', hparams', htask'⟩ := h'
  obtain rfl := Except.ok.inj (hparams.symm.trans hparams')
  exact Except.ok.inj (htask'.symm.trans htask)

/-- Once the transaction has gone through, a corresponding task is stored. -/
theorem exists_of_postTask {task : AggregatorTask} {ds ds' : Datastore}
    (h : postTask task ds = .ok ds') :
    ∃ existingTask, ds'.lookup task.id = some existingTask ∧
      existingTask.corresponds task = true := by
  rcases postTask_ok h with ⟨rfl, existingTask, hlookup, hc⟩ | ⟨rfl, -⟩
  · exact ⟨existingTask, hlookup, hc⟩
  · exact ⟨task, AList.lookup_insert ds, task.corresponds_refl⟩

/-- The transaction of a task that has a corresponding one changes nothing. -/
theorem postTask_of_corresponds {task existingTask : AggregatorTask} {ds : Datastore}
    (hlookup : ds.lookup task.id = some existingTask)
    (hc : existingTask.corresponds task = true) : postTask task ds = .ok ds := by
  simp only [postTask, hlookup, hc, if_true]

/-- A round stays committed while its session only grows. -/
theorem TaskProvisioner.Committed.mono {J : Janus} {request : StartRoundRequest} {taskId : TaskId}
    {p p' : TaskProvisioner} (h : p.Committed J request taskId)
    (hds : Datastore.Extends p.datastore p'.datastore) (hconfig : p'.config = p.config)
    (hgrows : ∀ s, p.trainingSessions.lookup request.trainingSessionId = some s →
      ∃ s', p'.trainingSessions.lookup request.trainingSessionId = some s' ∧ s.Grows s') :
    p'.Committed J request taskId := by
  obtain ⟨hdecode, s, task, existingTask, hlive, hbuilds, hlookup, hc⟩ := h
  obtain ⟨s', hlive', hs'⟩ := hgrows s hlive
  refine ⟨hdecode, s', task, existingTask, hlive', ?_, hds _ _ hlookup, hc⟩
  rw [hconfig]
  exact hs'.builds_iff.mpr hbuilds

/-! ## A retry, piece by piece -/

namespace Thread

variable {J : Janus} {ω : Ambient} {p : TaskProvisioner} {thread : Thread}
  {request : StartRoundRequest} {taskId : TaskId}

/-- A retry of a committed round prints, and appends its task at the end. -/
theorem retry_effect (hcommitted : p.Committed J request taskId) (hvalid : thread.Valid J p)
    (hrequest : thread.request = .startRound request) :
    p.Printed (thread.resume J ω p).2 ∨ thread = .record request taskId ∧
      (thread.resume J ω p).2 = p.recordTask request.trainingSessionId taskId := by
  obtain ⟨hdecode, s, task, existingTask, hlive, hbuilds, hlookup, hc⟩ := hcommitted
  cases thread with
  | arrived request =>
      cases hrequest
      rw [resume_of_piece (x := startRoundTask J ω request)
        (f := fun a => Thread.transaction request a.1 a.2) rfl]
      have hwithin := within_startRoundTask J ω request p
      cases hrun : (startRoundTask J ω request).run p with
      | ok a p' => rw [hrun] at hwithin; exact .inl hwithin
      | error e p' => rw [hrun] at hwithin; exact .inl hwithin
  | transaction request t task' =>
      cases hrequest
      obtain ⟨hdecode', s', hlive', hbuilds'⟩ := hvalid
      obtain rfl := Except.ok.inj (hdecode.symm.trans hdecode')
      obtain rfl := Option.some.inj (hlive.symm.trans hlive')
      obtain rfl := hbuilds.unique hbuilds'
      rw [resume_of_piece (x := provisionTask ω task')
        (f := fun _ => Thread.record request taskId) rfl]
      cases hrun : (provisionTask ω task').run p with
      | ok a p' =>
          -- the stored task is left as it is
          obtain ⟨ds, hpost, rfl⟩ := provisionTask_ok hrun
          rw [postTask_of_corresponds hlookup hc] at hpost
          cases hpost
          exact .inl rfl
      | error e p' =>
          rw [provisionTask_error hrun]
          exact .inl rfl
  | record request t =>
      cases hrequest
      obtain rfl := Except.ok.inj (hdecode.symm.trans hvalid.1)
      exact .inr ⟨rfl, rfl⟩
  | answered request' answer => exact .inl rfl
  | dropped request' => exact .inl rfl
  | _ => cases hrequest

/-- With a working clock and transaction, a retry of a committed round does not fail. -/
theorem retry_accepted (hcommitted : p.Committed J request taskId) (hvalid : thread.Valid J p)
    (hrequest : thread.request = .startRound request) (hrunning : thread.finished = false)
    (hclock : ω.elapsed.isOk) (htransaction : ω.transaction = .ok ()) (failure : Failure) :
    (thread.resume J ω p).1 ≠ .answered (.startRound request) (.error failure) := by
  obtain ⟨hdecode, s, task, existingTask, hlive, hbuilds, hlookup, hc⟩ := hcommitted
  cases thread with
  | arrived request =>
      cases hrequest
      obtain ⟨p', hrun⟩ := startRoundTask_accepted hlive hdecode hclock hbuilds
      rw [resume_of_piece (x := startRoundTask J ω request)
        (f := fun a => Thread.transaction request a.1 a.2) rfl, hrun]
      simp
  | transaction request t task' =>
      cases hrequest
      obtain ⟨hdecode', s', hlive', hbuilds'⟩ := hvalid
      obtain rfl := Option.some.inj (hlive.symm.trans hlive')
      obtain rfl := Except.ok.inj (hdecode.symm.trans hdecode')
      obtain rfl := hbuilds.unique hbuilds'
      rw [resume_of_piece (x := provisionTask ω task')
        (f := fun _ => Thread.record request taskId) rfl,
        provisionTask_accepted htransaction (postTask_of_corresponds hlookup hc)]
      simp
  | record request t =>
      cases hrequest
      intro h
      cases h
  | answered request' answer => cases hrunning
  | dropped request' => cases hrunning
  | _ => cases hrequest

end Thread

/-- A retry that runs alone is accepted, changes no stored task, and appends the
task to the session. -/
theorem TaskProvisioner.Committed.answer {J : Janus} {ω : Ambient} {request : StartRoundRequest}
    {taskId : TaskId} {p : TaskProvisioner} (h : p.Committed J request taskId)
    (hclock : ω.elapsed.isOk) (htransaction : ω.transaction = .ok ()) :
    ∃ p', p.answer J ω (.startRound request) = (.ok .startRound, p') ∧
      p'.datastore = p.datastore ∧
      (p.recordTask request.trainingSessionId taskId).Alike Eq p' := by
  obtain ⟨hdecode, s, task, existingTask, hlive, hbuilds, hlookup, hc⟩ := h
  obtain ⟨p₁, hstart⟩ := startRoundTask_accepted hlive hdecode hclock hbuilds
  have hprinted : p.Printed p₁ := (within_startRoundTask J ω request).ok hstart
  have hpost : postTask task p₁.datastore = .ok p₁.datastore := by
    rw [hprinted.sameTables.datastore]
    exact postTask_of_corresponds hlookup hc
  refine ⟨p₁.recordTask request.trainingSessionId taskId, ?_, ?_, ?_⟩
  · rw [answer_startRound]
    simp only [handleStartRound, EStateM.run_bind, hstart,
      provisionTask_accepted htransaction hpost]
    rfl
  · rw [recordTask_datastore, hprinted.sameTables.datastore]
  · exact (hprinted.alike indistinct_eq).recordTask indistinct_eq _ _

/-! ## Managers -/

namespace Manager

variable {J : Janus} {m m' : Manager} {request : StartRoundRequest} {taskId : TaskId}

/-- Every handler that is about to append its task has committed its round. -/
def RecordsCommitted (J : Janus) (m : Manager) : Prop :=
  ∀ (i : Nat) request taskId, m.threads[i]? = some (.record request taskId) →
    m.provisioner.Committed J request taskId

theorem recordsCommitted_step (hm : m.Coherent J) (hrecords : m.RecordsCommitted J) {a : Action}
    (h : m.step J a = some m') : m'.RecordsCommitted J := by
  intro k request taskId hk
  have hsame : m.threads[k]? = some (.record request taskId) →
      m'.provisioner.trainingSessions = m.provisioner.trainingSessions ∧
        m'.provisioner.config = m.provisioner.config →
      m'.provisioner.Committed J request taskId := fun hget heq =>
    (hrecords k request taskId hget).mono (step_extends h) heq.2 fun s hs =>
      ⟨s, by rw [heq.1]; exact hs, .refl s⟩
  cases a with
  | send request' =>
      cases h
      rcases getElem?_send hk with hget | ⟨-, heq⟩
      · exact hsame hget ⟨rfl, rfl⟩
      · cases heq
  | drop i =>
      obtain ⟨thread, -, rfl⟩ := step_drop h
      rcases getElem?_set hk with ⟨-, heq⟩ | ⟨-, hget⟩
      · have := dropThread_holdsGuard thread
        rw [← heq] at this
        cases this
      · exact hsame hget ⟨rfl, rfl⟩
  | restart =>
      cases h
      rw [List.getElem?_map, Option.map_eq_some_iff] at hk
      obtain ⟨thread, -, heq⟩ := hk
      have := dropThread_holdsGuard thread
      rw [heq] at this
      cases this
  | resume i ω =>
      obtain ⟨thread, thread', hr⟩ := step_resume h
      rw [hr.threads] at hk
      rcases getElem?_set hk with ⟨rfl, heq⟩ | ⟨hki, hget⟩
      · -- the transaction has just gone through
        have hvalid := hm.threads k thread hr.get
        have hres := hr.resumes
        rw [← heq] at hres
        generalize m'.provisioner = p' at hres
        cases hres with
        | @provisioned _ _ task ds hpost =>
            obtain ⟨hdecode, s, hlive, hbuilds⟩ := hvalid
            obtain ⟨existingTask, hlookup, hc⟩ := exists_of_postTask hpost
            exact ⟨hdecode, s, task, existingTask, hlive, hbuilds, hlookup, hc⟩
      · have htables := hr.sameTables hm.exclusive hki hget rfl
        exact hsame hget ⟨htables.trainingSessions, htables.config⟩

/-- While its session is kept, a round stays committed. -/
theorem committed_step (hcommitted : m.provisioner.Committed J request taskId) {a : Action}
    (h : m.step J a = some m') (hkeeps : m.Keeps request.trainingSessionId a) :
    m'.provisioner.Committed J request taskId :=
  hcommitted.mono (step_extends h) (step_config h) fun _ hs => grows_step hs h hkeeps

/-- Appending a task that is listed already is not observable. -/
theorem alike_recordTask {id : TrainingSessionId} (hlists : m.Lists id taskId) :
    m.provisioner.Alike SameTasks (m.provisioner.recordTask id taskId) := by
  obtain ⟨s, hs, ht⟩ := hlists
  have hinsert : m.provisioner.recordTask id taskId = { m.provisioner with
      trainingSessions := m.provisioner.trainingSessions.insert id
        { s with tasks := s.tasks ++ [taskId] } } := by
    simp only [TaskProvisioner.recordTask, hs]
  rw [hinsert]
  refine ⟨rfl, rfl, rfl, fun k => ?_⟩
  rcases eq_or_ne k id with rfl | hk
  · rw [AList.lookup_insert, hs]
    refine .some ⟨fun t => ?_, rfl⟩
    simp only [List.mem_append, List.mem_singleton]
    exact ⟨.inl, fun h => h.elim (fun h => h) fun h => by rw [h]; exact ht⟩
  · rw [AList.lookup_insert_ne hk]
    generalize m.provisioner.trainingSessions.lookup k = o
    cases o with
    | none => exact .none
    | some s' => exact .some ((TrainingSession.Alike.equivalence indistinct_sameTasks).refl s')

/-- The step, if it is one of a retry, changes no stored task; all it can change
is that the task is appended. If its clock and transaction work, it does not fail. -/
def RetrySafe (J : Janus) (retries : Nat → Bool) (request : StartRoundRequest) (taskId : TaskId)
    (m : Manager) (a : Action) : Prop :=
  ∀ i ω m', a = .resume i ω → retries i = true → m.step J a = some m' →
    m'.provisioner.datastore = m.provisioner.datastore ∧
    (m.provisioner.Printed m'.provisioner ∨
      m'.provisioner = m.provisioner.recordTask request.trainingSessionId taskId) ∧
    (ω.elapsed.isOk → ω.transaction = .ok () → ∀ failure,
      m'.threads[i]? ≠ some (.answered (.startRound request) (.error failure)))

/-- When a retry appends the task, the session lists it already: the request
itself or another retry has been carried out. -/
def Repeats (retries : Nat → Bool) (request : StartRoundRequest) (taskId : TaskId)
    (m : Manager) (a : Action) : Prop :=
  ∀ i ω, a = .resume i ω → retries i = true →
    m.threads[i]? = some (.record request taskId) → m.Lists request.trainingSessionId taskId

/-- The requests with these numbers, as far as they were sent, ask for this round. -/
def AreRetries (retries : Nat → Bool) (request : StartRoundRequest) (m : Manager) : Prop :=
  ∀ (i : Nat) thread, retries i = true → m.threads[i]? = some thread →
    thread.request = .startRound request

section
variable {retries : Nat → Bool}

theorem areRetries_back {a : Action} (h : m.step J a = some m')
    (hm' : m'.AreRetries retries request) : m.AreRetries retries request := by
  intro i thread hi hget
  obtain ⟨thread', hget', hrequest, -⟩ := step_keeps h hget
  rw [← hrequest]
  exact hm' i thread' hi hget'

theorem retrySafe_step (hm : m.Coherent J) (hcommitted : m.provisioner.Committed J request taskId)
    (hretries : m.AreRetries retries request) (a : Action) :
    RetrySafe J retries request taskId m a := by
  rintro i ω m' rfl hi hstep
  obtain ⟨thread, hget, hrunning, -, rfl⟩ := step_resume_eq hstep
  have hrequest := hretries i thread hi hget
  have hvalid := hm.threads i thread hget
  have heffect := thread.retry_effect (ω := ω) hcommitted hvalid hrequest
  refine ⟨?_, heffect.imp id And.right, fun hclock htransaction failure => ?_⟩
  · rcases heffect with hprinted | ⟨-, heq⟩
    · exact hprinted.sameTables.datastore
    · simp only [heq, TaskProvisioner.recordTask_datastore]
  · obtain ⟨hlt, -⟩ := List.getElem?_eq_some_iff.mp hget
    rw [List.getElem?_set_self hlt]
    intro h
    exact thread.retry_accepted hcommitted hvalid hrequest hrunning hclock htransaction failure
      (Option.some.inj h)

theorem traceless_step (hm : m.Coherent J) (hcommitted : m.provisioner.Committed J request taskId)
    (hretries : m.AreRetries retries request) {a : Action}
    (hrepeats : Repeats retries request taskId m a) : Traceless J SameTasks retries m a := by
  rintro i ω m' rfl hi hstep
  obtain ⟨thread, hget, -, -, rfl⟩ := step_resume_eq hstep
  rcases thread.retry_effect (ω := ω) hcommitted (hm.threads i thread hget)
    (hretries i thread hi hget) with hprinted | ⟨rfl, heq⟩
  · exact hprinted.alike indistinct_sameTasks
  · simp only [heq]
    exact alike_recordTask (hrepeats i ω rfl hi hget)

/-! ## Runs that keep the session -/

theorem committed_of_record (hJ : J.Faithful) {datastore : Datastore}
    {config : TaskProvisionerConfig} {as : List Action} {i : Nat}
    (hreach : Run.after (Manager.step J) (.new datastore config) as = some m)
    (hrecord : m.threads[i]? = some (.record request taskId)) :
    m.Coherent J ∧ m.provisioner.Committed J request taskId := by
  have hinvariant := Run.invariant
    (P := fun m : Manager => m.Coherent J ∧ m.RecordsCommitted J)
    (fun _ _ _ h hstep => ⟨h.1.step hJ hstep, recordsCommitted_step h.1 h.2 hstep⟩)
    ⟨coherent_new J datastore config, fun i r t hi => by simp [Manager.new] at hi⟩ hreach
  exact ⟨hinvariant.1, hinvariant.2 i request taskId hrecord⟩

/-- While its session is kept, a round stays committed. -/
theorem committed_kept (hJ : J.Faithful) (m : Manager) (a : Action) (m' : Manager)
    (hm : m.Coherent J ∧ m.provisioner.Committed J request taskId)
    (hkeeps : m.Keeps request.trainingSessionId a) (h : m.step J a = some m') :
    m'.Coherent J ∧ m'.provisioner.Committed J request taskId :=
  ⟨hm.1.step hJ h, committed_step hm.2 h hkeeps⟩

section
variable {as : List Action} (hrun : Run.after (Manager.step J) m as = some m')
include hrun

theorem retrySafe_run (hJ : J.Faithful)
    (hm : m.Coherent J ∧ m.provisioner.Committed J request taskId)
    (hkept : Run.Along (Manager.step J) (Keeps request.trainingSessionId) m as)
    (hm' : m'.AreRetries retries request) :
    Run.Along (Manager.step J) (RetrySafe J retries request taskId) m as :=
  (Run.along_of (committed_kept hJ) (fun _ _ _ h hs' => areRetries_back h hs')
    (fun _ a _ hs _ h hs' => retrySafe_step hs.1 hs.2 (areRetries_back h hs') a)
    hm hrun hkept hm').2

theorem traceless_run (hJ : J.Faithful)
    (hm : m.Coherent J ∧ m.provisioner.Committed J request taskId)
    (hkept : Run.Along (Manager.step J) (Keeps request.trainingSessionId) m as)
    (hrepeats : Run.Along (Manager.step J) (Repeats retries request taskId) m as)
    (hm' : m'.AreRetries retries request) :
    Run.Along (Manager.step J) (Traceless J SameTasks retries) m as :=
  (Run.along_of (fun s a s' hs ha h => committed_kept hJ s a s' hs ha.1 h)
    (fun _ _ _ h hs' => areRetries_back h hs')
    (fun _ _ _ hs ha h hs' => traceless_step hs.1 hs.2 (areRetries_back h hs') ha.2)
    hm hrun (hkept.and hrepeats) hm').2

/-- Once the session lists the task, every retry repeats what was carried out. -/
theorem repeats_of_lists (hlists : m.Lists request.trainingSessionId taskId)
    (hkept : Run.Along (Manager.step J) (Keeps request.trainingSessionId) m as) :
    Run.Along (Manager.step J) (Repeats retries request taskId) m as :=
  Run.along_of_invariant (P := fun s : Manager => s.Lists request.trainingSessionId taskId)
    (fun _ _ _ hs hkeeps h => lists_step hs h hkeeps)
    (fun _ _ _ hs _ _ _ _ _ _ _ => hs) hlists hrun hkept

/-- Retries that have finished take no more steps. -/
theorem traceless_of_finished
    (hfinished : ∀ i, retries i = true →
      ∃ thread, m.threads[i]? = some thread ∧ thread.finished = true) :
    Run.Along (Manager.step J) (Traceless J SameTasks retries) m as := by
  refine Run.along_of_invariant (D := fun _ _ => True)
    (P := fun s : Manager => ∀ i, retries i = true →
      ∃ thread, s.threads[i]? = some thread ∧ thread.finished = true)
    ?_ ?_ hfinished hrun (Run.along_trivial (fun _ _ => trivial) _ _)
  · intro s a s' hs _ h i hi
    obtain ⟨thread, hget, hthread⟩ := hs i hi
    obtain ⟨thread', hget', -, hsame⟩ := step_keeps h hget
    rw [hsame hthread] at hget'
    exact ⟨thread, hget', hthread⟩
  · rintro s _ s' hs - h i ω s'' rfl hi -
    obtain ⟨thread, hget, hthread⟩ := hs i hi
    obtain ⟨thread', hget', hrunning, -⟩ := step_resume_eq h
    rw [hget] at hget'
    cases hget'
    rw [hthread] at hrunning
    cases hrunning

end

/-- Take a round whose transaction went through, whether it was then accepted or
cut off, and a state `m` in which its session was neither ended nor replaced since.

Asked for alone, the round is accepted, no stored task changes and the task is
appended. In any run that keeps the session, any retries are as safe as that. If
they repeat what was carried out once, then for whatever comes later the run
without them has the same answers and the same datastore. -/
theorem retry_safe (hJ : J.Faithful) {datastore : Datastore} {config : TaskProvisionerConfig}
    {pre as : List Action} {m₀ : Manager} {j : Nat}
    (hreach : Run.after (Manager.step J) (.new datastore config) pre = some m₀)
    (hrecord : m₀.threads[j]? = some (.record request taskId))
    (hrun : Run.after (Manager.step J) m₀ as = some m)
    (hkept : Run.Along (Manager.step J) (Keeps request.trainingSessionId) m₀ as) :
    (∀ ω, ω.elapsed.isOk → ω.transaction = .ok () →
      ∃ p', m.provisioner.answer J ω (.startRound request) = (.ok .startRound, p') ∧
        p'.datastore = m.provisioner.datastore ∧
        (m.provisioner.recordTask request.trainingSessionId taskId).Alike Eq p') ∧
    ∀ (retries : Nat → Bool) (bs : List Action) (m' : Manager),
      Run.after (Manager.step J) m bs = some m' →
      Run.Along (Manager.step J) (Keeps request.trainingSessionId) m bs →
      (∀ i, retries i = true → m.threads.length ≤ i ∧
        ∃ thread, m'.threads[i]? = some thread ∧ thread.request = .startRound request) →
      Run.Along (Manager.step J) (RetrySafe J retries request taskId) m bs ∧
      (m.Lists request.trainingSessionId taskId →
        Run.Along (Manager.step J) (Repeats retries request taskId) m bs) ∧
      (Run.Along (Manager.step J) (Repeats retries request taskId) m bs →
        (∀ (i : Nat) thread, retries i = true → m'.threads[i]? = some thread →
          thread.finished = true) →
        ∀ cs m'', Run.after (Manager.step J) m' cs = some m'' →
          ∃ m₁, Run.after (Manager.step J) m
              (Action.without retries m.threads.length (bs ++ cs)) = some m₁ ∧
            m₁.threads = Erasure.without retries m''.threads ∧
            m₁.provisioner.datastore = m''.provisioner.datastore) := by
  have hm := Run.invariant_of (committed_kept hJ) (committed_of_record hJ hreach hrecord) hrun hkept
  refine ⟨fun ω hclock htransaction => hm.2.answer hclock htransaction, ?_⟩
  intro retries bs m' hbs hkept' hretries
  have hare : m'.AreRetries retries request := by
    intro i thread hi hget
    obtain ⟨-, thread', hget', hrequest⟩ := hretries i hi
    rw [hget] at hget'
    cases hget'
    exact hrequest
  refine ⟨retrySafe_run hbs hJ hm hkept' hare, fun hlists => repeats_of_lists hbs hlists hkept',
    fun hrepeats hfinished cs m'' hcs => ?_⟩
  have hdone : ∀ i, retries i = true →
      ∃ thread, m'.threads[i]? = some thread ∧ thread.finished = true := by
    intro i hi
    obtain ⟨-, thread, hget, -⟩ := hretries i hi
    exact ⟨thread, hget, hfinished i thread hi hget⟩
  have htraceless : Run.Along (Manager.step J) (Traceless J SameTasks retries) m (bs ++ cs) :=
    (Run.along_append hbs).mpr
      ⟨traceless_run hbs hJ hm hkept' hrepeats hare, traceless_of_finished hcs hdone⟩
  have hstart : Erases SameTasks retries m m := by
    refine .refl indistinct_sameTasks fun i hi => Bool.eq_false_iff.mpr fun hr => ?_
    have := (hretries i hr).1
    omega
  obtain ⟨m₁, hrun₁, herases⟩ :=
    hstart.run indistinct_sameTasks ((Run.after_append hbs).trans hcs) htraceless
  exact ⟨m₁, hrun₁, herases.threads, herases.provisioner.datastore⟩

end

end Manager

namespace Sample

/-- A session, and a round in it up to the end of its transaction. -/
def runCommitted : List Manager.Action :=
  [.send (.createSession (createRequest (some ⟨5⟩) [1])), .resume 0 (ambient 0),
   .resume 0 (ambient 0), .resume 0 (ambient 0),
   .send (.startRound (startRequest ⟨5⟩ (taskId 1))), .resume 1 (ambient 0), .resume 1 (ambient 0)]

/-- The handler is dropped, and the round is asked for again and carried out. -/
def runCutOff : List Manager.Action :=
  [.drop 1, .send (.startRound (startRequest ⟨5⟩ (taskId 1))), .resume 2 (ambient 0),
   .resume 2 (ambient 0), .resume 2 (ambient 0)]

/-- The round is asked for once more. -/
def runRepeated : List Manager.Action :=
  [.send (.startRound (startRequest ⟨5⟩ (taskId 1))), .resume 3 (ambient 0),
   .resume 3 (ambient 0), .resume 3 (ambient 0)]

/-- A client asks for the parameters of the task. -/
def runLookup : List Manager.Action :=
  [.send (.getVdafParameter ⟨taskIdToString (taskId 1)⟩), .resume 4 (ambient 0),
   .resume 4 (ambient 0)]

def lastRetry (i : Nat) : Bool := i == 3

/-- What is seen after the first transaction, after the handler was dropped and the
round was carried out, and after it was repeated. -/
structure Retrying where
  dropped : Option Thread
  kept : Bool
  handlers : Nat
  tasks : Option (List TaskId)
  /-- Whether the repetition keeps the session. -/
  kept' : Bool
  repeated : Option Thread
deriving DecidableEq

def retrying : Option Retrying := do
  let m₀ ← Run.after (Manager.step .plain) (.new ∅ config) runCommitted
  let m ← Run.after (Manager.step .plain) m₀ runCutOff
  let m' ← Run.after (Manager.step .plain) m runRepeated
  let _ ← Run.after (Manager.step .plain) m' runLookup
  return {
    dropped := m₀.threads[1]?
    kept := Run.Along (Manager.step .plain) (Manager.Keeps ⟨5⟩) m₀ runCutOff
    handlers := m.threads.length
    tasks := (m.provisioner.trainingSessions.lookup ⟨5⟩).map (·.tasks)
    kept' := Run.Along (Manager.step .plain) (Manager.Keeps ⟨5⟩) m runRepeated
    repeated := m'.threads[3]?
  }

theorem retrying_spec :
    ∃ m₀ m m' m'', Run.after (Manager.step .plain) (.new ∅ config) runCommitted = some m₀ ∧
      Run.after (Manager.step .plain) m₀ runCutOff = some m ∧
      Run.after (Manager.step .plain) m runRepeated = some m' ∧
      Run.after (Manager.step .plain) m' runLookup = some m'' ∧
      m₀.threads[1]? = some (.record (startRequest ⟨5⟩ (taskId 1)) (taskId 1)) ∧
      Run.Along (Manager.step .plain) (Manager.Keeps ⟨5⟩) m₀ runCutOff ∧
      m.threads.length = 3 ∧ m.Lists ⟨5⟩ (taskId 1) ∧
      Run.Along (Manager.step .plain) (Manager.Keeps ⟨5⟩) m runRepeated ∧
      m'.threads[3]? =
        some (.answered (.startRound (startRequest ⟨5⟩ (taskId 1))) (.ok .startRound)) := by
  have hretrying : retrying = some ⟨some (.record (startRequest ⟨5⟩ (taskId 1)) (taskId 1)), true,
      3, some [taskId 1], true,
      some (.answered (.startRound (startRequest ⟨5⟩ (taskId 1))) (.ok .startRound))⟩ := by
    decide +kernel
  unfold retrying at hretrying
  obtain ⟨m₀, hreach, h⟩ := Option.bind_eq_some_iff.mp hretrying
  obtain ⟨m, hcutoff, h⟩ := Option.bind_eq_some_iff.mp h
  obtain ⟨m', hrun', h⟩ := Option.bind_eq_some_iff.mp h
  obtain ⟨m'', hrun'', h⟩ := Option.bind_eq_some_iff.mp h
  obtain ⟨hrecord, hkept, hlength, htasks, hkept', hthread⟩ := Retrying.mk.inj (Option.some.inj h)
  obtain ⟨s, hs, ht⟩ := Option.map_eq_some_iff.mp htasks
  exact ⟨m₀, m, m', m'', hreach, hcutoff, hrun', hrun'', hrecord, of_decide_eq_true hkept, hlength,
    ⟨s, hs, by rw [ht]; exact List.mem_singleton_self _⟩, of_decide_eq_true hkept', hthread⟩

end Sample

theorem Manager.retry_safe_sample :
    ∃ m m' m'', Run.after (Manager.step .plain) (.new ∅ Sample.config)
        (Sample.runCommitted ++ Sample.runCutOff) = some m ∧
      Run.after (Manager.step .plain) m Sample.runRepeated = some m' ∧
      Run.after (Manager.step .plain) m' Sample.runLookup = some m'' ∧
      ∃ m₁, Run.after (Manager.step .plain) m (Action.without Sample.lastRetry m.threads.length
          (Sample.runRepeated ++ Sample.runLookup)) = some m₁ ∧
        m₁.threads = Erasure.without Sample.lastRetry m''.threads ∧
        m₁.provisioner.datastore = m''.provisioner.datastore := by
  obtain ⟨m₀, m, m', m'', hreach, hcutoff, hrun', hrun'', hrecord, hkept, hlength, hlists, hkept',
    hthread⟩ := Sample.retrying_spec
  obtain ⟨-, hretry⟩ := Manager.retry_safe Janus.plain_faithful hreach hrecord hcutoff hkept
  obtain ⟨-, hrepeats, herase⟩ := hretry Sample.lastRetry Sample.runRepeated m' hrun' hkept' (by
    intro i hi
    cases beq_iff_eq.mp hi
    exact ⟨hlength.le, _, hthread, rfl⟩)
  have hfinished : ∀ (i : Nat) thread, Sample.lastRetry i = true → m'.threads[i]? = some thread →
      thread.finished = true := by
    intro i thread hi hget
    cases beq_iff_eq.mp hi
    rw [hthread] at hget
    cases hget
    rfl
  obtain ⟨m₁, hrun₁, hthreads, hdatastore⟩ :=
    herase (hrepeats hlists) hfinished Sample.runLookup m'' hrun''
  have hrun : Run.after (Manager.step .plain) (.new ∅ Sample.config)
      (Sample.runCommitted ++ Sample.runCutOff) = some m := by
    rw [Run.after_append hreach]
    exact hcutoff
  exact ⟨m, m', m'', hrun, hrun', hrun'', m₁, hrun₁, hthreads, hdatastore⟩
