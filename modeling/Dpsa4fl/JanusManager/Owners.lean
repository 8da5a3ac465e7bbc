-- SUMMARY: Which sessions can list the same task, and when the parameters of an accepted task are available.
import Dpsa4fl.JanusManager.Alike
import Dpsa4fl.JanusManager.AnswerSpecs
import Dpsa4fl.JanusManager.Kept

/-!
# Sessions that list the same task

`provision_task` accepts a task that is stored already if the ten compared fields
agree, whichever session it was stored for. So two live sessions can list one
task, but only if they agree in what these fields are made of, and this is the
only way in which `handle_get_vdaf_parameter` can find several sessions.
-/

open Handler

/-- The sessions agree in what a stored task is compared by. -/
structure TrainingSession.Agrees (s s' : TrainingSession) : Prop where
  role : s'.role = s.role
  verifyKey : s'.verifyKey = s.verifyKey
  collectorHpkeConfig : s'.collectorHpkeConfig = s.collectorHpkeConfig
  vdafParameter : s'.vdafParameter = s.vdafParameter

namespace TrainingSession

variable {J : Janus} {s s' s'' : TrainingSession} {task : AggregatorTask}

theorem Agrees.trans (h : s.Agrees s') (h' : s'.Agrees s'') : s.Agrees s'' where
  role := h'.role.trans h.role
  verifyKey := h'.verifyKey.trans h.verifyKey
  collectorHpkeConfig := h'.collectorHpkeConfig.trans h.collectorHpkeConfig
  vdafParameter := h'.vdafParameter.trans h.vdafParameter

/-- One task fits only sessions that agree. -/
theorem Fits.agrees (hJ : J.Faithful) (h : s.Fits J task) (h' : s'.Fits J task) : s.Agrees s' where
  role := h'.role.symm.trans h.role
  verifyKey := h'.verifyKey.symm.trans h.verifyKey
  collectorHpkeConfig := h'.collectorHpkeConfig.symm.trans h.collectorHpkeConfig
  vdafParameter := VdafParameter.toVdafInstance_injective hJ (h'.vdaf.symm.trans h.vdaf)

theorem Grows.agrees (h : s.Grows s') : s.Agrees s' := by
  rw [h.eq]
  exact ⟨rfl, rfl, rfl, rfl⟩

end TrainingSession

theorem answer_getVdafParameter_eq {J : Janus} {ω : Ambient} {p : TaskProvisioner}
    {request : GetVdafParameterRequest} {taskId : TaskId}
    (hdecode : taskIdFromString request.taskIdEncoded = .ok taskId) :
    p.answer J ω (.getVdafParameter request) = match (lookupVdafParameter taskId).run p with
      | .ok vdafParameter p' => (.ok (.getVdafParameter vdafParameter), p')
      | .error failure p' => (.error failure, p') := by
  have hreturn : (orReturn (taskIdFromString request.taskIdEncoded)).run p = .ok taskId p :=
    run_orReturn_ok.mpr ⟨hdecode, rfl⟩
  have hrun : (handleGetVdafParameter request).run p = (lookupVdafParameter taskId).run p := by
    rw [handleGetVdafParameter, EStateM.run_bind, hreturn]
  have hanswer := answer_getVdafParameter J ω request p
  rw [hrun] at hanswer
  exact hanswer.trans (by cases (lookupVdafParameter taskId).run p <;> rfl)

namespace Manager

variable {J : Janus} {m m' : Manager}

/-- Live sessions that list the same task agree. -/
theorem Coherent.agrees (hJ : J.Faithful) (hm : m.Coherent J) {id k : TrainingSessionId}
    {s s' : TrainingSession} {taskId : TaskId}
    (hs : m.provisioner.trainingSessions.lookup id = some s)
    (hs' : m.provisioner.trainingSessions.lookup k = some s') (ht : taskId ∈ s.tasks)
    (ht' : taskId ∈ s'.tasks) : s.Agrees s' := by
  obtain ⟨task, hstored, hfits⟩ := hm.sessions id s hs taskId ht
  obtain ⟨task', hstored', hfits'⟩ := hm.sessions k s' hs' taskId ht'
  obtain rfl := Option.some.inj (hstored.symm.trans hstored')
  exact hfits.agrees hJ hfits'

/-- The parameters of a listed task are found, unless another session lists it, too. -/
theorem Coherent.answer_of_lists (hJ : J.Faithful) (hm : m.Coherent J) {id : TrainingSessionId}
    {s : TrainingSession} {taskId : TaskId}
    (hs : m.provisioner.trainingSessions.lookup id = some s) (ht : taskId ∈ s.tasks) (ω : Ambient)
    {request : GetVdafParameterRequest}
    (hdecode : taskIdFromString request.taskIdEncoded = .ok taskId) :
    m.provisioner.answer J ω (.getVdafParameter request) =
        (.ok (.getVdafParameter s.vdafParameter), m.provisioner) ∨
      ∃ k s', k ≠ id ∧ m.provisioner.trainingSessions.lookup k = some s' ∧ taskId ∈ s'.tasks ∧
        s.Agrees s' := by
  rw [answer_getVdafParameter_eq hdecode]
  have hfinds := lookupVdafParameter_finds m.provisioner taskId
  generalize (lookupVdafParameter taskId).run m.provisioner = r at hfinds
  cases hfinds with
  | missing hnone => exact (hnone id s hs ht).elim
  | @found k s' hlive _ hunique =>
      obtain rfl := hunique id s hs ht
      rw [hs] at hlive
      cases hlive
      exact .inl rfl
  | @multiple k k' s₁ s₂ hne hlive₁ hlive₂ hmem₁ hmem₂ =>
      right
      by_cases hk : k = id
      · exact ⟨k', s₂, fun h => hne (hk.trans h.symm), hlive₂, hmem₂, hm.agrees hJ hs hlive₂ ht hmem₂⟩
      · exact ⟨k, s₁, hk, hlive₁, hmem₁, hm.agrees hJ hs hlive₁ ht hmem₁⟩

/-- In every reachable state, live sessions that list the same task agree in their
role, verify key, collector configuration and parameters, and several sessions
are found for a task only if there are such. While no step ends or replaces a
session that lists a task, the parameters of the task are available, unless
another live session that agrees with it lists the task. -/
theorem task_owners (hJ : J.Faithful) {datastore : Datastore} {config : TaskProvisionerConfig}
    {as : List Action} (hrun : Run.after (Manager.step J) (.new datastore config) as = some m) :
    (∀ id k s s' taskId, m.provisioner.trainingSessions.lookup id = some s →
      m.provisioner.trainingSessions.lookup k = some s' → taskId ∈ s.tasks → taskId ∈ s'.tasks →
      s.Agrees s') ∧
    (∀ taskId p', (lookupVdafParameter taskId).run m.provisioner =
        .error (.err (.anyhow ("Multiple sessions containing taskd id " ++
          taskIdToString taskId ++ " exist."))) p' →
      ∃ id k s s', id ≠ k ∧ m.provisioner.trainingSessions.lookup id = some s ∧
        m.provisioner.trainingSessions.lookup k = some s' ∧ taskId ∈ s.tasks ∧ taskId ∈ s'.tasks ∧
        s.Agrees s') ∧
    ∀ id s taskId, m.provisioner.trainingSessions.lookup id = some s → taskId ∈ s.tasks →
      ∀ bs m', Run.after (Manager.step J) m bs = some m' →
        Run.Along (Manager.step J) (Keeps id) m bs →
        ∀ ω request, taskIdFromString request.taskIdEncoded = .ok taskId →
          m'.provisioner.answer J ω (.getVdafParameter request) =
              (.ok (.getVdafParameter s.vdafParameter), m'.provisioner) ∨
            ∃ k s', k ≠ id ∧ m'.provisioner.trainingSessions.lookup k = some s' ∧
              taskId ∈ s'.tasks ∧ s.Agrees s' := by
  have hm : m.Coherent J := (coherent_new J datastore config).run hJ hrun
  refine ⟨fun id k s s' taskId hs hs' ht ht' => hm.agrees hJ hs hs' ht ht', ?_, ?_⟩
  · intro taskId p' herror
    have hfinds := lookupVdafParameter_finds m.provisioner taskId
    rw [herror] at hfinds
    generalize hfailure : Failure.err _ = failure at hfinds
    cases hfinds with
    | missing =>
        -- the two texts differ in their first letter
        have hfirst := congrArg (fun s : String => s.toList.head?)
          (Error.anyhow.inj (Failure.err.inj hfailure))
        simp at hfirst
    | @multiple id k s s' hne hs hs' ht ht' =>
        exact ⟨id, k, s, s', hne, hs, hs', ht, ht', hm.agrees hJ hs hs' ht ht'⟩
  · intro id s taskId hs ht bs m' hrun' hkept ω request hdecode
    obtain ⟨s₁, hs₁, hgrows⟩ := grows_run hs hrun' hkept
    have hanswer := (hm.run hJ hrun').answer_of_lists hJ hs₁ (hgrows.mem taskId ht) ω hdecode
    rw [hgrows.agrees.vdafParameter] at hanswer
    apply hanswer.imp (fun h => h)
    rintro ⟨k, s', hk, hs', ht', hagrees⟩
    exact ⟨k, s', hk, hs', ht', hgrows.agrees.trans hagrees⟩

end Manager

namespace Sample

def createdTwice : List Manager.Action :=
  [.send (.createSession (createRequest (some ⟨5⟩) [1])), .resume 0 (ambient 0),
   .resume 0 (ambient 0), .resume 0 (ambient 0),
   .send (.createSession (createRequest (some ⟨6⟩) [1])), .resume 1 (ambient 0),
   .resume 1 (ambient 0), .resume 1 (ambient 0),
   .send (.startRound (startRequest ⟨5⟩ (taskId 1))), .resume 2 (ambient 0), .resume 2 (ambient 0),
   .resume 2 (ambient 0)]

/-- The task of the session 5 is also started in the session 6. -/
def startedTwice : List Manager.Action :=
  [.send (.startRound (startRequest ⟨6⟩ (taskId 1))), .resume 3 (ambient 0), .resume 3 (ambient 0),
   .resume 3 (ambient 0)]

def answerFor (m : Manager) (taskId : TaskId) : Except Failure Response :=
  (m.provisioner.answer .plain (ambient 0) (.getVdafParameter ⟨taskIdToString taskId⟩)).1

/-- What is seen of the session 5 and of its task before the second round and after it. -/
structure Sharing where
  session : Option (List TaskId × SecretBytes)
  answer : Except Failure Response
  /-- Whether the round keeps the session. -/
  kept : Bool
  answer' : Except Failure Response
  tasks : Option (List TaskId)
  /-- The tasks of the session 6. -/
  otherTasks : Option (List TaskId)
deriving DecidableEq

def sharing : Option Sharing := do
  let m ← Run.after (Manager.step .plain) (.new ∅ config) createdTwice
  let m' ← Run.after (Manager.step .plain) m startedTwice
  return {
    session := (m.provisioner.trainingSessions.lookup ⟨5⟩).map fun s => (s.tasks, s.verifyKey)
    answer := answerFor m (taskId 1)
    kept := Run.Along (Manager.step .plain) (Manager.Keeps ⟨5⟩) m startedTwice
    answer' := answerFor m' (taskId 1)
    tasks := (m'.provisioner.trainingSessions.lookup ⟨5⟩).map (·.tasks)
    otherTasks := (m'.provisioner.trainingSessions.lookup ⟨6⟩).map (·.tasks)
  }

theorem sharing_spec :
    ∃ m m' s, Run.after (Manager.step .plain) (.new ∅ config) createdTwice = some m ∧
      Run.after (Manager.step .plain) m startedTwice = some m' ∧
      m.provisioner.trainingSessions.lookup ⟨5⟩ = some s ∧
      s.tasks = [taskId 1] ∧ s.verifyKey = [1] ∧
      answerFor m (taskId 1) = .ok (.getVdafParameter vdafParameter) ∧
      Run.Along (Manager.step .plain) (Manager.Keeps ⟨5⟩) m startedTwice ∧
      answerFor m' (taskId 1) = .error (.err (.anyhow ("Multiple sessions containing taskd id " ++
        taskIdToString (taskId 1) ++ " exist."))) ∧
      m'.Lists ⟨5⟩ (taskId 1) ∧ m'.Lists ⟨6⟩ (taskId 1) := by
  have hsharing : sharing = some ⟨some ([taskId 1], [1]), .ok (.getVdafParameter vdafParameter),
      true, .error (.err (.anyhow ("Multiple sessions containing taskd id " ++
        taskIdToString (taskId 1) ++ " exist."))), some [taskId 1], some [taskId 1]⟩ := by
    decide +kernel
  unfold sharing at hsharing
  obtain ⟨m, hrun, h⟩ := Option.bind_eq_some_iff.mp hsharing
  obtain ⟨m', hrun', h⟩ := Option.bind_eq_some_iff.mp h
  obtain ⟨hsession, hanswer, hkept, hanswer', h5, h6⟩ := Sharing.mk.inj (Option.some.inj h)
  obtain ⟨s, hs, hpair⟩ := Option.map_eq_some_iff.mp hsession
  obtain ⟨htasks, hkey⟩ := Prod.mk.inj hpair
  obtain ⟨s5, hs5, ht5⟩ := Option.map_eq_some_iff.mp h5
  obtain ⟨s6, hs6, ht6⟩ := Option.map_eq_some_iff.mp h6
  exact ⟨m, m', s, hrun, hrun', hs, htasks, hkey, hanswer, of_decide_eq_true hkept, hanswer',
    ⟨s5, hs5, by simp [ht5]⟩, ⟨s6, hs6, by simp [ht6]⟩⟩

end Sample

theorem Manager.task_owners_sample :
    ∃ m m', Run.after (Manager.step .plain) (.new ∅ Sample.config) Sample.createdTwice = some m ∧
      Run.after (Manager.step .plain) m Sample.startedTwice = some m' ∧
      ∃ k s', k ≠ ⟨5⟩ ∧ m'.provisioner.trainingSessions.lookup k = some s' ∧
        Sample.taskId 1 ∈ s'.tasks ∧ s'.verifyKey = [1] := by
  obtain ⟨m, m', s, hrun, hrun', hs, htasks, hkey, -, hkept, hanswer, -⟩ := Sample.sharing_spec
  obtain ⟨-, -, hanswers⟩ := Manager.task_owners Janus.plain_faithful hrun
  rcases hanswers ⟨5⟩ s (Sample.taskId 1) hs (by rw [htasks]; exact List.mem_singleton_self _)
    Sample.startedTwice m' hrun' hkept (Sample.ambient 0)
    ⟨taskIdToString (Sample.taskId 1)⟩ (taskIdFromString_toString _) with
    heq | ⟨k, s', hk, hs', ht, hagrees⟩
  · rw [Sample.answerFor, heq] at hanswer
    cases hanswer
  · exact ⟨m, m', hrun, hrun', k, s', hk, hs', ht, hagrees.verifyKey.trans hkey⟩

/-- After the second round the two live sessions list the task, and its parameters,
which were available before, are not found any more. -/
theorem Manager.task_shared :
    ∃ m m', Run.after (Manager.step .plain) (.new ∅ Sample.config) Sample.createdTwice = some m ∧
      Run.after (Manager.step .plain) m Sample.startedTwice = some m' ∧
      Sample.answerFor m (Sample.taskId 1) = .ok (.getVdafParameter Sample.vdafParameter) ∧
      m'.Lists ⟨5⟩ (Sample.taskId 1) ∧ m'.Lists ⟨6⟩ (Sample.taskId 1) ∧
      Sample.answerFor m' (Sample.taskId 1) =
        .error (.err (.anyhow ("Multiple sessions containing taskd id " ++
          taskIdToString (Sample.taskId 1) ++ " exist."))) := by
  obtain ⟨m, m', s, hrun, hrun', -, -, -, hanswer, -, hanswer', h5, h6⟩ := Sample.sharing_spec
  exact ⟨m, m', hrun, hrun', hanswer, h5, h6, hanswer'⟩
