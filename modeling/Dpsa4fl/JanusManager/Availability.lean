-- SUMMARY: While a session is kept, a manager with fresh task ids names the parameters of its tasks to everybody who asks.
import Dpsa4fl.JanusManager.Owners
import Dpsa4fl.JanusManager.Rounds

/-!
# Availability

A task that is requested once can be listed by one session only. So while that
session is kept, everybody who asks for the parameters of the task gets them, at
whichever points of the handler other requests get in between.
-/

open Handler

namespace Manager

variable {J : Janus} {m m' : Manager} {id : TrainingSessionId} {s : TrainingSession}
  {taskId : TaskId}

/-! ## Who lists a task -/

/-- A task that is listed after a step was listed before, or it is recorded now. -/
theorem lists_origin (hm : m.Coherent J) {a : Action} (h : m.step J a = some m')
    (hlists : m'.Lists id taskId) :
    m.Lists id taskId ∨ ∃ (k : Nat) (request : StartRoundRequest),
      m.threads[k]? = some (.record request taskId) ∧ request.trainingSessionId = id := by
  obtain ⟨s, hs, ht⟩ := hlists
  cases a with
  | send request => cases h; exact .inl ⟨s, hs, ht⟩
  | drop i =>
      obtain ⟨thread, -, rfl⟩ := step_drop h
      exact .inl ⟨s, hs, ht⟩
  | restart =>
      cases h
      rw [AList.lookup_empty] at hs
      cases hs
  | resume i ω =>
      obtain ⟨thread, thread', hr⟩ := step_resume h
      have hvalid := hm.threads i thread hr.get
      have hget := hr.get
      have hres := hr.resumes
      generalize m'.provisioner = p' at hres hs
      cases hres with
      | keypair hsame => rw [hsame.trainingSessions] at hs; exact .inl ⟨s, hs, ht⟩
      | built _ _ _ hsame => rw [hsame.trainingSessions] at hs; exact .inl ⟨s, hs, ht⟩
      | failed hsame => rw [hsame.trainingSessions] at hs; exact .inl ⟨s, hs, ht⟩
      | @inserted request k session =>
          by_cases hk : id = k
          · subst hk
            obtain ⟨⟨secrets, keypair, -, rfl⟩, -⟩ := hvalid
            rw [AList.lookup_insert] at hs
            cases hs
            cases ht
          · rw [AList.lookup_insert_ne hk] at hs
            exact .inl ⟨s, hs, ht⟩
      | @ended k _ _ _ _ hsessions =>
          rw [hsessions] at hs
          by_cases hk : id = k
          · rw [hk, AList.lookup_erase] at hs
            cases hs
          · rw [AList.lookup_erase_ne hk] at hs
            exact .inl ⟨s, hs, ht⟩
      | @recorded request t =>
          rw [TaskProvisioner.lookup_recordTask] at hs
          split at hs
          · rename_i hid
            obtain ⟨s₀, hs₀, rfl⟩ := Option.map_eq_some_iff.mp hs
            rcases List.mem_append.mp ht with ht | ht
            · exact .inl ⟨s₀, hid ▸ hs₀, ht⟩
            · obtain rfl := List.mem_singleton.mp ht
              exact .inr ⟨i, request, hget, hid.symm⟩
          · exact .inl ⟨s, hs, ht⟩
      | _ => exact .inl ⟨s, hs, ht⟩

/-- Every task that a live session lists was requested for this session. -/
def ListsRequested (m : Manager) : Prop :=
  ∀ id taskId, m.Lists id taskId →
    ∃ (k : Nat) (thread : Thread) (request : StartRoundRequest), m.threads[k]? = some thread ∧
      thread.request = .startRound request ∧ request.trainingSessionId = id ∧
      taskIdFromString request.taskIdEncoded = .ok taskId

theorem listsRequested_new (datastore : Datastore) (config : TaskProvisionerConfig) :
    (Manager.new datastore config).ListsRequested := by
  rintro id taskId ⟨s, hs, -⟩
  rw [Manager.new, TaskProvisioner.new, AList.lookup_empty] at hs
  cases hs

theorem ListsRequested.step (hcoherent : m.Coherent J) (hm : m.ListsRequested) {a : Action}
    (h : m.step J a = some m') : m'.ListsRequested := by
  intro id taskId hlists
  -- the thread that made the request stays
  have hkept : ∀ (k : Nat) (thread : Thread), m.threads[k]? = some thread →
      ∃ thread', m'.threads[k]? = some thread' ∧ thread'.request = thread.request := by
    intro k thread hk
    obtain ⟨thread', hk', heq, -⟩ := step_keeps h hk
    exact ⟨thread', hk', heq⟩
  rcases lists_origin hcoherent h hlists with hold | ⟨k, request, hk, hid⟩
  · obtain ⟨k, thread, request, hk, hrequest, hid, hdecode⟩ := hm id taskId hold
    obtain ⟨thread', hk', heq⟩ := hkept k thread hk
    exact ⟨k, thread', request, hk', heq.trans hrequest, hid, hdecode⟩
  · obtain ⟨thread', hk', heq⟩ := hkept k _ hk
    exact ⟨k, thread', request, hk', heq, hid, (hcoherent.threads k _ hk).1⟩

/-- With fresh task ids, no two sessions list the same task. -/
theorem ListsRequested.unique (hm : m.ListsRequested) (hfresh : m.FreshTasks)
    {id' : TrainingSessionId} (h : m.Lists id taskId) (h' : m.Lists id' taskId) : id' = id := by
  obtain ⟨k, thread, request, hk, hrequest, hid, hdecode⟩ := hm id taskId h
  obtain ⟨k', thread', request', hk', hrequest', hid', hdecode'⟩ := hm id' taskId h'
  obtain rfl := hfresh.single k k' thread thread' taskId hk hk'
    (by rw [hrequest]; exact Request.taskId_startRound.mpr hdecode)
    (by rw [hrequest']; exact Request.taskId_startRound.mpr hdecode')
  obtain rfl := Option.some.inj (hk.symm.trans hk')
  cases hrequest.symm.trans hrequest'
  exact hid'.symm.trans hid

/-- The parameters of a listed task are found. -/
theorem ListsRequested.lookup_eq (hm : m.ListsRequested) (hfresh : m.FreshTasks)
    (hs : m.provisioner.trainingSessions.lookup id = some s) (ht : taskId ∈ s.tasks) :
    (lookupVdafParameter taskId).run m.provisioner = .ok s.vdafParameter m.provisioner := by
  have hfinds := lookupVdafParameter_finds m.provisioner taskId
  generalize (lookupVdafParameter taskId).run m.provisioner = r at hfinds
  cases hfinds with
  | missing hnone => exact (hnone id s hs ht).elim
  | @found k s' hlive _ hunique =>
      obtain rfl := hunique id s hs ht
      rw [hs] at hlive
      cases hlive
      rfl
  | @multiple k k' s₁ s₂ hne hlive₁ hlive₂ hmem₁ hmem₂ =>
      have h₁ := hm.unique hfresh ⟨s, hs, ht⟩ ⟨s₁, hlive₁, hmem₁⟩
      have h₂ := hm.unique hfresh ⟨s, hs, ht⟩ ⟨s₂, hlive₂, hmem₂⟩
      exact (hne (h₁.trans h₂.symm)).elim

end Manager

/-! ## What is answered -/

/-- If a client asked, then it was answered well: with these locations, or with `p`
as the parameters of one of the tasks. -/
def Thread.Names (main : MainLocations) (p : VdafParameter) (tasks : List TaskId) : Thread → Prop
  | answered .getMainLocations answer => answer = .ok (.getMainLocations main)
  | answered (.getVdafParameter request) answer =>
    ∀ t ∈ tasks, request.taskIdEncoded = taskIdToString t → answer = .ok (.getVdafParameter p)
  | _ => True

namespace Thread

variable {J : Janus} {ω : Ambient} {main : MainLocations} {p : VdafParameter}
  {tasks : List TaskId} {thread : Thread} {self : TaskProvisioner}

/-- The requests of controllers are not meant here. -/
theorem names_of_request (hlocations : thread.request ≠ .getMainLocations)
    (hparameter : ∀ request, thread.request ≠ .getVdafParameter request) :
    thread.Names main p tasks := by
  cases thread with
  | answered request answer =>
      cases request with
      | getMainLocations => exact (hlocations rfl).elim
      | getVdafParameter request => exact (hparameter request rfl).elim
      | _ => trivial
  | _ => trivial

/-- A piece that looks up one of the tasks finds its parameters. -/
theorem names_resume (hmain : self.config.mainLocations = main)
    (hfound : ∀ t ∈ tasks, (lookupVdafParameter t).run self = .ok p self)
    (hvalid : thread.Valid J self) (hrunning : thread.finished = false) :
    (thread.resume J ω self).1.Names main p tasks := by
  have hrequest : (thread.resume J ω self).1.request = thread.request :=
    (resume_spec (J := J) (ω := ω) hrunning (Prod.eta _).symm).request_eq
  have hcontroller : thread.request ≠ .getMainLocations →
      (∀ request, thread.request ≠ .getVdafParameter request) →
      (thread.resume J ω self).1.Names main p tasks := by
    rw [← hrequest]
    exact names_of_request
  cases thread with
  | arrived request =>
      cases request with
      | getMainLocations => exact congrArg (Except.ok ∘ Response.getMainLocations) hmain
      | getVdafParameter request =>
          rw [resume_of_piece (f := fun t => lookup request t) rfl]
          cases hdecode : taskIdFromString request.taskIdEncoded with
          | ok t => trivial
          | error e =>
              rintro t - henc
              rw [henc, taskIdFromString_toString] at hdecode
              cases hdecode
      | _ => exact hcontroller (by simp [Thread.request]) (by simp [Thread.request])
  | lookup request t =>
      have hlookup : ∀ t' ∈ tasks, request.taskIdEncoded = taskIdToString t' →
          (lookupVdafParameter t).run self = .ok p self := by
        intro t' ht' henc
        rw [Valid, henc, taskIdFromString_toString] at hvalid
        cases hvalid
        exact hfound t ht'
      rw [resume_of_piece (f := fun vdafParameter =>
        answered (.getVdafParameter request) (.ok (.getVdafParameter vdafParameter))) rfl]
      cases hrun : (lookupVdafParameter t).run self with
      | ok vdafParameter self' =>
          intro t' ht' henc
          cases hrun.symm.trans (hlookup t' ht' henc)
          rfl
      | error e self' =>
          intro t' ht' henc
          cases hrun.symm.trans (hlookup t' ht' henc)
  | answered => cases hrunning
  | dropped => cases hrunning
  | _ => exact hcontroller (by simp [Thread.request]) (by simp [Thread.request])

end Thread

namespace Manager

variable {J : Janus} {m m' : Manager} {id : TrainingSessionId} {s : TrainingSession}

/-- The session is kept, and the handlers of all requests from number `n` on that
clients have sent answer well. -/
structure Serves (m : Manager) (id : TrainingSessionId) (s : TrainingSession) (main : MainLocations)
    (n : Nat) : Prop where
  kept : ∃ s', m.provisioner.trainingSessions.lookup id = some s' ∧ s.Grows s'
  located : m.provisioner.config.mainLocations = main
  names : ∀ (k : Nat) (thread : Thread), n ≤ k → m.threads[k]? = some thread →
    thread.Names main s.vdafParameter s.tasks

/-- A manager that has the session serves the requests it will be sent. -/
theorem serves_start (hs : m.provisioner.trainingSessions.lookup id = some s) :
    m.Serves id s m.provisioner.config.mainLocations m.threads.length where
  kept := ⟨s, hs, .refl s⟩
  located := rfl
  names k thread hn hk := by
    have hlt := (List.getElem?_eq_some_iff.mp hk).1
    omega

theorem Serves.step {main : MainLocations} {n : Nat} (hm : m.Serves id s main n)
    (hcoherent : m.Coherent J) (hlists : m.ListsRequested) (hfresh : m.FreshTasks) {a : Action}
    (h : m.step J a = some m') (hkeeps : m.Keeps id a) : m'.Serves id s main n where
  kept := by
    obtain ⟨s₁, hs₁, hgrows⟩ := hm.kept
    obtain ⟨s₂, hs₂, hgrows'⟩ := grows_step hs₁ h hkeeps
    exact ⟨s₂, hs₂, hgrows.trans hgrows'⟩
  located := (congrArg (·.mainLocations) (step_config h)).trans hm.located
  names := by
    intro k thread' hn hk'
    cases step_origin h hk' with
    | same hk => exact hm.names k thread' hn hk
    | arrived => trivial
    | dropped => trivial
    | @resumed ω thread _ hr =>
        obtain ⟨s₁, hs₁, hgrows⟩ := hm.kept
        have hfound : ∀ t ∈ s.tasks,
            (lookupVdafParameter t).run m.provisioner = .ok s.vdafParameter m.provisioner := by
          intro t ht
          rw [hlists.lookup_eq hfresh hs₁ (hgrows.mem t ht), hgrows.agrees.vdafParameter]
        obtain ⟨thread₀, hget, -, -, hm'⟩ := step_resume_eq h
        obtain rfl := Option.some.inj (hget.symm.trans hr.get)
        rw [hm', List.getElem?_set_self (List.getElem?_eq_some_iff.mp hget).1] at hk'
        cases hk'
        exact Thread.names_resume hm.located hfound (hcoherent.threads k _ hget) hr.running

end Manager
