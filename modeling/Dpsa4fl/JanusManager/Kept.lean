-- SUMMARY: What stays of a session while no step ends or replaces it.
import Dpsa4fl.JanusManager.Coherence

/-!
# Kept sessions

A session can be ended, replaced by a creation that draws its id, or forgotten in
a restart. While no step does that, the only change it can see is that tasks are
appended to its list.
-/

/-- The sessions agree but for their tasks, and no task is lost. -/
structure TrainingSession.Grows (s s' : TrainingSession) : Prop where
  eq : s' = { s with tasks := s'.tasks }
  mem : ∀ taskId ∈ s.tasks, taskId ∈ s'.tasks

namespace TrainingSession.Grows

@[refl] theorem refl (s : TrainingSession) : s.Grows s := ⟨rfl, fun _ h => h⟩

theorem trans {s s' s'' : TrainingSession} (h : s.Grows s') (h' : s'.Grows s'') : s.Grows s'' where
  eq := by rw [h'.eq, h.eq]
  mem taskId ht := h'.mem taskId (h.mem taskId ht)

theorem append (s : TrainingSession) (taskId : TaskId) :
    s.Grows { s with tasks := s.tasks ++ [taskId] } :=
  ⟨rfl, fun _ ht => List.mem_append_left _ ht⟩

theorem builds_iff {s s' : TrainingSession} (h : s.Grows s') {J : Janus}
    {config : TaskProvisionerConfig} {taskId : TaskId} {task : AggregatorTask} :
    s'.Builds J config taskId task ↔ s.Builds J config taskId task := by
  rw [h.eq]
  rfl

end TrainingSession.Grows

namespace Manager

variable {J : Janus} {m m' : Manager} {id : TrainingSessionId} {s : TrainingSession}

def keeps (id : TrainingSessionId) (m : Manager) : Action → Bool
  | .resume i _ =>
    match m.threads[i]? with
    | some (.arrived (.endSession k)) => k != id
    | some (.insert _ k _) => k != id
    | _ => true
  | .restart => false
  | _ => true

/-- The step neither ends the session nor replaces it. -/
def Keeps (id : TrainingSessionId) (m : Manager) (a : Action) : Prop := m.keeps id a = true

instance (id : TrainingSessionId) (m : Manager) (a : Action) : Decidable (m.Keeps id a) :=
  inferInstanceAs (Decidable (_ = true))

theorem grows_step (hs : m.provisioner.trainingSessions.lookup id = some s) {a : Action}
    (h : m.step J a = some m') (hkeeps : m.Keeps id a) :
    ∃ s', m'.provisioner.trainingSessions.lookup id = some s' ∧ s.Grows s' := by
  cases a with
  | send request => cases h; exact ⟨s, hs, .refl s⟩
  | drop i =>
      obtain ⟨thread, -, rfl⟩ := step_drop h
      exact ⟨s, hs, .refl s⟩
  | restart => cases hkeeps
  | resume i ω =>
      obtain ⟨thread, thread', hr⟩ := step_resume h
      simp only [Keeps, keeps, hr.get] at hkeeps
      have hres := hr.resumes
      generalize m'.provisioner = p' at hres
      cases hres with
      | keypair hsame => exact ⟨s, by rw [hsame.trainingSessions]; exact hs, .refl s⟩
      | built _ _ _ hsame => exact ⟨s, by rw [hsame.trainingSessions]; exact hs, .refl s⟩
      | failed hsame => exact ⟨s, by rw [hsame.trainingSessions]; exact hs, .refl s⟩
      | inserted =>
          have hne := (bne_iff_ne.mp hkeeps).symm
          exact ⟨s, by rw [AList.lookup_insert_ne hne]; exact hs, .refl s⟩
      | ended _ _ _ hsessions =>
          have hne := (bne_iff_ne.mp hkeeps).symm
          exact ⟨s, by rw [hsessions, AList.lookup_erase_ne hne]; exact hs, .refl s⟩
      | @recorded request t =>
          rw [TaskProvisioner.lookup_recordTask]
          split
          · rename_i hid
            rw [← hid, hs]
            exact ⟨_, rfl, .append s t⟩
          · exact ⟨s, hs, .refl s⟩
      | _ => exact ⟨s, hs, .refl s⟩

theorem grows_run (hs : m.provisioner.trainingSessions.lookup id = some s) {as : List Action}
    (hrun : Run.after (Manager.step J) m as = some m')
    (hkeeps : Run.Along (Manager.step J) (Keeps id) m as) :
    ∃ s', m'.provisioner.trainingSessions.lookup id = some s' ∧ s.Grows s' := by
  refine Run.invariant_of (P := fun m : Manager =>
    ∃ s', m.provisioner.trainingSessions.lookup id = some s' ∧ s.Grows s') ?_
    ⟨s, hs, .refl s⟩ hrun hkeeps
  rintro m₁ a m₂ ⟨s₁, hs₁, hgrows⟩ hkeeps hstep
  obtain ⟨s₂, hs₂, hgrows'⟩ := grows_step hs₁ hstep hkeeps
  exact ⟨s₂, hs₂, hgrows.trans hgrows'⟩

theorem lists_step {taskId : TaskId} (hlists : m.Lists id taskId) {a : Action}
    (h : m.step J a = some m') (hkeeps : m.Keeps id a) : m'.Lists id taskId := by
  obtain ⟨s, hs, ht⟩ := hlists
  obtain ⟨s', hs', hgrows⟩ := grows_step hs h hkeeps
  exact ⟨s', hs', hgrows.mem taskId ht⟩

/-- The configuration of a manager never changes. -/
theorem step_config {a : Action} (h : m.step J a = some m') :
    m'.provisioner.config = m.provisioner.config := by
  cases a with
  | send request => cases h; rfl
  | drop i =>
      obtain ⟨thread, -, rfl⟩ := step_drop h
      rfl
  | restart => cases h; rfl
  | resume i ω =>
      obtain ⟨thread, thread', hr⟩ := step_resume h
      have hres := hr.resumes
      generalize m'.provisioner = p' at hres
      cases hres with
      | keypair hsame => exact hsame.config
      | built _ _ _ hsame => exact hsame.config
      | failed hsame => exact hsame.config
      | ended _ _ hconfig => exact hconfig
      | recorded =>
          unfold TaskProvisioner.recordTask
          split <;> rfl
      | _ => rfl

end Manager
