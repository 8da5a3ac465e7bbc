-- SUMMARY: Which session each round was accepted in, and what is left of a session when it is ended.
import Dpsa4fl.JanusManager.AnswerSpecs
import Dpsa4fl.JanusManager.Coherence

/-!
# The history of sessions

A session id can be used again after its session has ended, so a session is told
apart by the request that created it. `History` logs which request that was for
every live session, and in which session each round was accepted. `Logged` ties
it to the sessions of the manager.
-/

structure History where
  /-- The number of the request that created the live session with this id. -/
  creator : TrainingSessionId → Option Nat
  /-- The accepted rounds: the request that created their session, and their task. -/
  started : List (Nat × TaskId)

namespace History

def empty : History := ⟨fun _ => none, []⟩

def create (h : History) (id : TrainingSessionId) (k : Nat) : History :=
  { h with creator := Function.update h.creator id (some k) }

def close (h : History) (id : TrainingSessionId) : History :=
  { h with creator := Function.update h.creator id none }

def closeAll (h : History) : History := { h with creator := fun _ => none }

def start (h : History) (k : Nat) (taskId : TaskId) : History :=
  { h with started := h.started ++ [(k, taskId)] }

section
variable (h : History) (id : TrainingSessionId) (k : Nat) (taskId : TaskId)

@[simp] theorem empty_creator : empty.creator id = none := rfl
@[simp] theorem empty_started : empty.started = [] := rfl
@[simp] theorem create_started : (h.create id k).started = h.started := rfl
@[simp] theorem close_started : (h.close id).started = h.started := rfl
@[simp] theorem closeAll_creator : h.closeAll.creator id = none := rfl
@[simp] theorem closeAll_started : h.closeAll.started = h.started := rfl
@[simp] theorem start_creator : (h.start k taskId).creator = h.creator := rfl

@[simp] theorem mem_start (a : Nat × TaskId) :
    a ∈ (h.start k taskId).started ↔ a ∈ h.started ∨ a = (k, taskId) := by
  simp [start]

@[simp] theorem create_creator_self : (h.create id k).creator id = some k := by simp [create]

@[simp] theorem close_creator_self : (h.close id).creator id = none := by simp [close]

end

theorem create_creator_ne (h : History) {id id' : TrainingSessionId} (hne : id' ≠ id) (k : Nat) :
    (h.create id k).creator id' = h.creator id' := by
  simp [create, hne]

theorem close_creator_ne (h : History) {id id' : TrainingSessionId} (hne : id' ≠ id) :
    (h.close id).creator id' = h.creator id' := by
  simp [close, hne]

/-- The task was started in the session that request `k` created, and in no other. -/
def StartedOnlyIn (h : History) (k : Nat) (taskId : TaskId) : Prop :=
  (k, taskId) ∈ h.started ∧ ∀ k', (k', taskId) ∈ h.started → k' = k

/-! ## The log of a map of sessions -/

/-- The log agrees with the live sessions. `C` says which requests have created one. -/
structure Logged (sessions : TrainingSessions) (C : Nat → Prop) (h : History) : Prop where
  live : ∀ id, h.creator id = none ↔ sessions.lookup id = none
  tasks : ∀ id k s, h.creator id = some k → sessions.lookup id = some s →
    ∀ taskId, taskId ∈ s.tasks ↔ (k, taskId) ∈ h.started
  created : ∀ id k, h.creator id = some k → C k
  started : ∀ k taskId, (k, taskId) ∈ h.started → C k
  unique : ∀ id id' k, h.creator id = some k → h.creator id' = some k → id' = id

namespace Logged

variable {sessions : TrainingSessions} {C C' : Nat → Prop} {h : History} {id : TrainingSessionId}

theorem mono (hl : Logged sessions C h) (hC : ∀ k, C k → C' k) : Logged sessions C' h where
  live := hl.live
  tasks := hl.tasks
  created id k hk := hC k (hl.created id k hk)
  started k taskId hk := hC k (hl.started k taskId hk)
  unique := hl.unique

/-- A live session has a creator. -/
theorem exists_creator (hl : Logged sessions C h) {s : TrainingSession}
    (hs : sessions.lookup id = some s) : ∃ k, h.creator id = some k := by
  apply Option.ne_none_iff_exists'.mp
  intro hnone
  rw [(hl.live id).mp hnone] at hs
  cases hs

theorem forget (hl : Logged sessions C h) : Logged ∅ C h.closeAll where
  live id := by simp
  tasks id k s hk := by simp at hk
  created id k hk := by simp at hk
  started := hl.started
  unique id id' k hk := by simp at hk

/-- A new session, created by a request that had created none. -/
theorem insert (hl : Logged sessions C h) {k : Nat} {s : TrainingSession} (htasks : s.tasks = [])
    (hk : ¬ C k) (hC : ∀ k, C k → C' k) (hk' : C' k) :
    Logged (sessions.insert id s) C' (h.create id k) where
  live id' := by
    rcases eq_or_ne id' id with rfl | hne
    · simp
    · rw [create_creator_ne h hne, AList.lookup_insert_ne hne]
      exact hl.live id'
  tasks id' k' s' hcreator hs' taskId := by
    rcases eq_or_ne id' id with rfl | hne
    · simp only [create_creator_self, Option.some.injEq] at hcreator
      simp only [AList.lookup_insert, Option.some.injEq] at hs'
      subst hcreator hs'
      simp only [htasks, List.not_mem_nil, create_started, false_iff]
      exact fun hmem => hk (hl.started k taskId hmem)
    · rw [create_creator_ne h hne] at hcreator
      rw [AList.lookup_insert_ne hne] at hs'
      exact hl.tasks id' k' s' hcreator hs' taskId
  created id' k' hcreator := by
    rcases eq_or_ne id' id with rfl | hne
    · simp only [create_creator_self, Option.some.injEq] at hcreator
      subst hcreator
      exact hk'
    · rw [create_creator_ne h hne] at hcreator
      exact hC k' (hl.created id' k' hcreator)
  started k' taskId hmem := hC k' (hl.started k' taskId hmem)
  unique id₁ id₂ k' h₁ h₂ := by
    -- no other session has this creator
    have hother : ∀ id', id' ≠ id → (h.create id k).creator id' ≠ some k := by
      intro id' hne hcreator
      rw [create_creator_ne h hne] at hcreator
      exact hk (hl.created id' k hcreator)
    rcases eq_or_ne id₁ id with rfl | hne₁
    · simp only [create_creator_self, Option.some.injEq] at h₁
      subst h₁
      by_contra hne₂
      exact hother id₂ hne₂ h₂
    · rcases eq_or_ne id₂ id with rfl | hne₂
      · simp only [create_creator_self, Option.some.injEq] at h₂
        subst h₂
        exact (hother id₁ hne₁ h₁).elim
      · rw [create_creator_ne h hne₁] at h₁
        rw [create_creator_ne h hne₂] at h₂
        exact hl.unique id₁ id₂ k' h₁ h₂

theorem erase (hl : Logged sessions C h) (id : TrainingSessionId) :
    Logged (sessions.erase id) C (h.close id) where
  live id' := by
    rcases eq_or_ne id' id with rfl | hne
    · simp
    · rw [close_creator_ne h hne, AList.lookup_erase_ne hne]
      exact hl.live id'
  tasks id' k s hcreator hs := by
    rcases eq_or_ne id' id with rfl | hne
    · simp at hcreator
    · rw [close_creator_ne h hne] at hcreator
      rw [AList.lookup_erase_ne hne] at hs
      exact hl.tasks id' k s hcreator hs
  created id' k hcreator := by
    rcases eq_or_ne id' id with rfl | hne
    · simp at hcreator
    · rw [close_creator_ne h hne] at hcreator
      exact hl.created id' k hcreator
  started := hl.started
  unique id₁ id₂ k h₁ h₂ := by
    rcases eq_or_ne id₁ id with rfl | hne₁
    · simp at h₁
    · rcases eq_or_ne id₂ id with rfl | hne₂
      · simp at h₂
      · rw [close_creator_ne h hne₁] at h₁
        rw [close_creator_ne h hne₂] at h₂
        exact hl.unique id₁ id₂ k h₁ h₂

/-- A round that is accepted in a live session. -/
theorem append (hl : Logged sessions C h) {k : Nat} {s : TrainingSession}
    (hs : sessions.lookup id = some s) (hk : h.creator id = some k) (taskId : TaskId) :
    Logged (sessions.insert id { s with tasks := s.tasks ++ [taskId] }) C (h.start k taskId) where
  live id' := by
    rcases eq_or_ne id' id with rfl | hne
    · simp [hk]
    · rw [start_creator, AList.lookup_insert_ne hne]
      exact hl.live id'
  tasks id' k' s' hcreator hs' taskId' := by
    rw [start_creator] at hcreator
    rcases eq_or_ne id' id with rfl | hne
    · obtain rfl := Option.some.inj (hk.symm.trans hcreator)
      simp only [AList.lookup_insert, Option.some.injEq] at hs'
      subst hs'
      simp [hl.tasks id' k s hk hs taskId']
    · rw [AList.lookup_insert_ne hne] at hs'
      rw [hl.tasks id' k' s' hcreator hs' taskId', mem_start, Prod.mk.injEq]
      apply (or_iff_left _).symm
      rintro ⟨rfl, -⟩
      exact hne (hl.unique id id' k' hk hcreator)
  created id' k' hcreator := hl.created id' k' hcreator
  started k' taskId' hmem := by
    rcases (mem_start h k taskId _).mp hmem with hmem | heq
    · exact hl.started k' taskId' hmem
    · cases heq
      exact hl.created id k hk
  unique := hl.unique

end Logged

end History

/-! ## The log of a manager -/

namespace History

/-- What the log says of a thread number `i` that was `thread` and is now `thread'`. -/
def resumed (h : History) (i : Nat) : (thread thread' : Thread) → History
  | .insert _ id _, .answered _ (.ok _) => h.create id i
  | .arrived (.endSession id), .answered _ (.ok _) => h.close id
  | .record request taskId, .answered _ (.ok _) =>
    match h.creator request.trainingSessionId with
    | some k => h.start k taskId
    | none => h
  | _, _ => h

theorem resumed_error (h : History) (i : Nat) (thread : Thread) (request : Request)
    (failure : Failure) : h.resumed i thread (.answered request (.error failure)) = h := by
  cases thread with
  | arrived request => cases request <;> rfl
  | _ => rfl

theorem Logged.resumes {J : Janus} {ω : Ambient} {p p' : TaskProvisioner} {thread thread' : Thread}
    {C C' : Nat → Prop} {h : History} {i : Nat} (hl : h.Logged p.trainingSessions C)
    (hvalid : thread.Valid J p) (hres : thread.Resumes J ω p thread' p') (hfresh : ¬ C i)
    (hC : ∀ k, C k → C' k)
    (hnew : ∀ request id, thread' = .answered (.createSession request) (.ok (.createSession id)) →
      C' i) : (h.resumed i thread thread').Logged p'.trainingSessions C' := by
  cases hres with
  | inserted =>
      obtain ⟨⟨secrets, keypair, -, rfl⟩, -⟩ := hvalid
      exact hl.insert rfl hfresh hC (hnew _ _ rfl)
  | @recorded request taskId =>
      obtain ⟨-, s, -, hlive, -⟩ := hvalid
      obtain ⟨k, hk⟩ := hl.exists_creator hlive
      simp only [resumed, hk, TaskProvisioner.recordTask, hlive]
      exact (hl.append hlive hk taskId).mono hC
  | ended _ _ _ hsessions =>
      rw [hsessions]
      exact (hl.erase _).mono hC
  | keypair hsame => rw [hsame.trainingSessions]; exact hl.mono hC
  | built _ _ _ hsame => rw [hsame.trainingSessions]; exact hl.mono hC
  | failed hsame => rw [resumed_error, hsame.trainingSessions]; exact hl.mono hC
  | _ => exact hl.mono hC

end History

namespace Manager

variable {J : Janus} {m m' : Manager} {h : History}

def log (J : Janus) (m : Manager) (a : Action) (h : History) : History :=
  match a with
  | .resume i ω =>
    match m.threads[i]? with
    | some thread => h.resumed i thread (thread.resume J ω m.provisioner).1
    | none => h
  | .restart => h.closeAll
  | _ => h

/-- The request with this number has created a session. -/
def Created (m : Manager) (k : Nat) : Prop :=
  ∃ request id, m.threads[k]? = some (.answered (.createSession request) (.ok (.createSession id)))

/-- The log agrees with the state of the manager. -/
def Logged (m : Manager) (h : History) : Prop :=
  h.Logged m.provisioner.trainingSessions m.Created

theorem Created.step {k : Nat} (hk : m.Created k) {a : Action} (hstep : m.step J a = some m') :
    m'.Created k := by
  obtain ⟨request, id, hget⟩ := hk
  obtain ⟨thread, hget', -, hsame⟩ := step_keeps hstep hget
  exact ⟨request, id, by rw [hget', hsame rfl]⟩

/-- A request that is still being handled has created no session. -/
theorem not_created {i : Nat} {thread : Thread} (hget : m.threads[i]? = some thread)
    (hrunning : thread.finished = false) : ¬ m.Created i := by
  rintro ⟨request, id, hget'⟩
  rw [hget] at hget'
  cases hget'
  cases hrunning

theorem logged_new (datastore : Datastore) (config : TaskProvisionerConfig) :
    (Manager.new datastore config).Logged .empty where
  live id := by simp [Manager.new, TaskProvisioner.new]
  tasks id k s hk := by simp at hk
  created id k hk := by simp at hk
  started k taskId hk := by simp at hk
  unique id id' k hk := by simp at hk

theorem Logged.step (hl : m.Logged h) (hm : m.Coherent J) {a : Action}
    (hstep : m.step J a = some m') : m'.Logged (m.log J a h) := by
  have hcreated : ∀ k, m.Created k → m'.Created k := fun k hk => hk.step hstep
  cases a with
  | send request => cases hstep; exact hl.mono hcreated
  | drop i =>
      obtain ⟨thread, -, rfl⟩ := step_drop hstep
      exact hl.mono hcreated
  | restart => cases hstep; exact hl.forget.mono hcreated
  | resume i ω =>
      obtain ⟨thread, hget, hrunning, -, rfl⟩ := step_resume_eq hstep
      obtain ⟨hlt, -⟩ := List.getElem?_eq_some_iff.mp hget
      simp only [log, hget]
      apply hl.resumes (hm.threads i thread hget) (Thread.resume_spec hrunning rfl)
        (not_created hget hrunning) hcreated
      intro request id hthread
      exact ⟨request, id, (List.getElem?_set_self hlt).trans (congrArg some hthread)⟩

/-- Runs of a manager with the log of its sessions. -/
abbrev loggedStep (J : Janus) : Manager × History → Action → Option (Manager × History) :=
  Run.withLog (Manager.step J) (log J)

theorem logged_run (hJ : J.Faithful) {datastore : Datastore} {config : TaskProvisionerConfig}
    {as : List Action}
    (hrun : Run.after (loggedStep J) (.new datastore config, .empty) as = some (m, h)) :
    m.Coherent J ∧ m.Logged h := by
  refine Run.invariant (P := fun s : Manager × History => s.1.Coherent J ∧ s.1.Logged s.2) ?_
    ⟨coherent_new J datastore config, logged_new datastore config⟩ hrun
  rintro s a s' ⟨hcoherent, hlogged⟩ hstep
  obtain ⟨hstep, hlog⟩ := Run.withLog_eq_some.mp hstep
  rw [hlog]
  exact ⟨hcoherent.step hJ hstep, hlogged.step hcoherent hstep⟩

end Manager

/-! ## Ending a session -/

/-- From `p` to `p'`, the tasks that were started only in the session that request
`k` created are gone, and the other sessions and tasks are as before. -/
structure History.Deletes (h : History) (id : TrainingSessionId) (k : Nat)
    (p p' : TaskProvisioner) : Prop where
  unlisted : ∀ taskId, h.StartedOnlyIn k taskId →
    ∀ id' s, p'.trainingSessions.lookup id' = some s → taskId ∉ s.tasks
  deleted : ∀ taskId, h.StartedOnlyIn k taskId → p'.datastore.lookup taskId = none
  sessions : ∀ id', id' ≠ id → p'.trainingSessions.lookup id' = p.trainingSessions.lookup id'
  tasks : ∀ taskId, (k, taskId) ∉ h.started →
    p'.datastore.lookup taskId = p.datastore.lookup taskId

namespace Manager

variable {J : Janus} {m : Manager} {h : History}

/-- When a live session is ended, its data is deleted if and only if it has no
task that was started in it alone. -/
theorem end_deletes_iff (hJ : J.Faithful) {datastore : Datastore} {config : TaskProvisionerConfig}
    {as : List Action} {id : TrainingSessionId} {ω : Ambient} {p' : TaskProvisioner}
    (hrun : Run.after (loggedStep J) (.new datastore config, .empty) as = some (m, h))
    (hend : m.provisioner.answer J ω (.endSession id) = (.ok .endSession, p')) :
    ∃ k, h.creator id = some k ∧
      (h.Deletes id k m.provisioner p' ↔ ∀ taskId, ¬ h.StartedOnlyIn k taskId) := by
  obtain ⟨hm, hl⟩ := logged_run hJ hrun
  obtain ⟨hnone, hothers, hdatastore, hiff⟩ := (answer_spec hend).endSession_effect
  obtain ⟨s, hs⟩ := Option.isSome_iff_exists.mp (hiff.mp rfl)
  obtain ⟨k, hk⟩ := hl.exists_creator hs
  refine ⟨k, hk, fun hdeletes taskId honly => ?_, fun hnot => ?_⟩
  · -- a task of a live session is stored, and the datastore has not changed
    obtain ⟨task, hstored, -⟩ := hm.sessions id s hs taskId
      ((hl.tasks id k s hk hs taskId).mpr honly.1)
    have hdeleted := hdeletes.deleted taskId honly
    rw [hdatastore, hstored] at hdeleted
    cases hdeleted
  · exact {
      unlisted := fun taskId honly => (hnot taskId honly).elim
      deleted := fun taskId honly => (hnot taskId honly).elim
      sessions := hothers
      tasks := fun taskId _ => by rw [hdatastore] }

end Manager

namespace Sample

def createFive : List Manager.Action :=
  [.send (.createSession (createRequest (some ⟨5⟩) [1])), .resume 0 (ambient 0),
   .resume 0 (ambient 0), .resume 0 (ambient 0)]

def startInFive : List Manager.Action :=
  [.send (.startRound (startRequest ⟨5⟩ (taskId 1))), .resume 1 (ambient 0), .resume 1 (ambient 0),
   .resume 1 (ambient 0)]

/-- A round of the session 5, whose task is then started in the session 6, too. -/
def sharedTask : List Manager.Action :=
  createFive ++ [.send (.createSession (createRequest (some ⟨6⟩) [1])), .resume 1 (ambient 0),
    .resume 1 (ambient 0), .resume 1 (ambient 0),
    .send (.startRound (startRequest ⟨5⟩ (taskId 1))), .resume 2 (ambient 0), .resume 2 (ambient 0),
    .resume 2 (ambient 0),
    .send (.startRound (startRequest ⟨6⟩ (taskId 1))), .resume 3 (ambient 0), .resume 3 (ambient 0),
    .resume 3 (ambient 0)]

end Sample

theorem Manager.end_deletes_sample :
    ∃ m h p', Run.after (loggedStep .plain) (.new ∅ Sample.config, .empty) Sample.sharedTask =
        some (m, h) ∧
      h.started = [(0, Sample.taskId 1), (1, Sample.taskId 1)] ∧
      m.provisioner.answer .plain (Sample.ambient 0) (.endSession ⟨5⟩) = (.ok .endSession, p') ∧
      h.Deletes ⟨5⟩ 0 m.provisioner p' := by
  have hruns : (Run.after (loggedStep .plain) (.new ∅ Sample.config, .empty)
      Sample.sharedTask).map (fun s => (s.2.creator ⟨5⟩, s.2.started,
        (s.1.provisioner.answer .plain (Sample.ambient 0) (.endSession ⟨5⟩)).1)) =
      some (some 0, [(0, Sample.taskId 1), (1, Sample.taskId 1)], .ok .endSession) := by
    decide +kernel
  obtain ⟨⟨m, h⟩, hrun, htriple⟩ := Option.map_eq_some_iff.mp hruns
  obtain ⟨hcreator, hpair⟩ := Prod.mk.inj htriple
  obtain ⟨hstarted, hanswer⟩ := Prod.mk.inj hpair
  replace hstarted : h.started = [(0, Sample.taskId 1), (1, Sample.taskId 1)] := hstarted
  have hend : m.provisioner.answer .plain (Sample.ambient 0) (.endSession ⟨5⟩) =
      (.ok .endSession, (m.provisioner.answer .plain (Sample.ambient 0) (.endSession ⟨5⟩)).2) :=
    Prod.ext hanswer rfl
  obtain ⟨k, hk, hiff⟩ := Manager.end_deletes_iff Janus.plain_faithful hrun hend
  obtain rfl := Option.some.inj (hcreator.symm.trans hk)
  refine ⟨m, h, _, hrun, hstarted, hend, hiff.mpr fun taskId honly => ?_⟩
  -- the only task was started in the other session, too
  obtain ⟨hmem, hother⟩ := honly
  rw [hstarted] at hmem hother
  have htask : taskId = Sample.taskId 1 := by simpa using hmem
  exact absurd (hother 1 (by simp [htask])) (by decide)

/-- After a round in the session 5 and its end, the datastore still holds the task. -/
theorem Manager.end_keeps_task :
    ∃ m h p', Run.after (loggedStep .plain) (.new ∅ Sample.config, .empty)
        (Sample.createFive ++ Sample.startInFive) = some (m, h) ∧
      h.creator ⟨5⟩ = some 0 ∧ h.StartedOnlyIn 0 (Sample.taskId 1) ∧
      m.provisioner.answer .plain (Sample.ambient 0) (.endSession ⟨5⟩) = (.ok .endSession, p') ∧
      (p'.datastore.lookup (Sample.taskId 1)).isSome ∧ ¬ h.Deletes ⟨5⟩ 0 m.provisioner p' := by
  have hruns : (Run.after (loggedStep .plain) (.new ∅ Sample.config, .empty)
      (Sample.createFive ++ Sample.startInFive)).map (fun s => (s.2.creator ⟨5⟩, s.2.started,
        (s.1.provisioner.answer .plain (Sample.ambient 0) (.endSession ⟨5⟩)).1,
        ((s.1.provisioner.answer .plain (Sample.ambient 0) (.endSession ⟨5⟩)).2.datastore.lookup
          (Sample.taskId 1)).isSome)) =
      some (some 0, [(0, Sample.taskId 1)], .ok .endSession, true) := by
    decide +kernel
  obtain ⟨⟨m, h⟩, hrun, htuple⟩ := Option.map_eq_some_iff.mp hruns
  obtain ⟨hcreator, htriple⟩ := Prod.mk.inj htuple
  obtain ⟨hstarted, hpair⟩ := Prod.mk.inj htriple
  obtain ⟨hanswer, hstored⟩ := Prod.mk.inj hpair
  replace hstarted : h.started = [(0, Sample.taskId 1)] := hstarted
  have honly : h.StartedOnlyIn 0 (Sample.taskId 1) := ⟨by simp [hstarted], by simp [hstarted]⟩
  refine ⟨m, h, _, hrun, hcreator, honly, Prod.ext hanswer rfl, hstored, fun hdeletes => ?_⟩
  rw [hdeletes.deleted _ honly] at hstored
  cases hstored
