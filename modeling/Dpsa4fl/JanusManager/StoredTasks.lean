-- SUMMARY: What a new task is stored with, for a session of either role.
import Dpsa4fl.JanusManager.Kept
import Dpsa4fl.JanusManager.Panics

/-!
# Stored tasks

One code path creates the tasks of both aggregators. The parameters that differ
between them are chosen by the role of the session, and the endpoint of the peer
is the endpoint of the helper for both.
-/

/-- The library brings the endpoint of a new task into this form. -/
def Janus.NormalizesEndpoint (J : Janus) (normal : Url → Url) : Prop :=
  ∀ {arguments task}, J.newAggregatorTask arguments = .ok task →
    task.peerAggregatorEndpoint = normal arguments.peerAggregatorEndpoint

theorem Janus.plain_normalizesEndpoint : Janus.plain.NormalizesEndpoint id := by
  rintro _ _ ⟨⟩
  rfl

/-- The configured endpoint of the other aggregator. -/
def TaskProvisionerConfig.peerEndpoint (config : TaskProvisionerConfig) : Role → Url
  | .helper => config.leaderEndpoint
  | _ => config.helperEndpoint

/-- The task is set up for the role of the session, with this endpoint of the peer. -/
structure TrainingSession.SetsUp (J : Janus) (s : TrainingSession) (peer : Url)
    (task : AggregatorTask) : Prop where
  role : task.role = s.role
  peer : task.peerAggregatorEndpoint = peer
  leaderParameters : s.role = .leader → task.aggregatorParameters =
    .leader s.leaderAuthToken (J.authenticationTokenHash s.collectorAuthToken) s.collectorHpkeConfig
  helperParameters : s.role = .helper → task.aggregatorParameters =
    .helper (J.authenticationTokenHash s.leaderAuthToken) s.collectorHpkeConfig
  verifyKey : task.opaqueVdafVerifyKey = s.verifyKey
  hpkeKeys : task.hpkeKeys = [s.hpkeConfigAndKey]
  collectorHpkeConfig : task.collectorHpkeConfig = s.collectorHpkeConfig
  vdaf : task.vdaf = s.vdafParameter.toVdafInstance J

section
variable {J : Janus} {normal : Url → Url} {s : TrainingSession} {config : TaskProvisionerConfig}
  {taskId : TaskId} {task : AggregatorTask}

namespace TrainingSession

theorem Builds.role_cases (h : s.Builds J config taskId task) :
    s.role = .leader ∨ s.role = .helper := by
  obtain ⟨params, hparams, -⟩ := h
  rcases taskParams_role hparams with ⟨hrole, -⟩ | ⟨hrole, -⟩
  · exact .inl hrole
  · exact .inr hrole

/-- Whatever its role, a session makes tasks whose peer is the helper. -/
theorem Builds.setsUp (hJ : J.Faithful) (hnormal : J.NormalizesEndpoint normal)
    (h : s.Builds J config taskId task) : s.SetsUp J (normal config.helperEndpoint) task := by
  have hfits := h.fits hJ
  have hpeer : task.peerAggregatorEndpoint = normal config.helperEndpoint := by
    obtain ⟨params, -, htask⟩ := h
    exact hnormal htask
  obtain ⟨params, hparams, heq⟩ := h.eq hJ
  have hkeys : task.hpkeKeys = [s.hpkeConfigAndKey] := by rw [heq]; rfl
  have htaskParams : task.aggregatorParameters = params := by rw [heq]; rfl
  refine ⟨hfits.role, hpeer, ?_, ?_, hfits.verifyKey, hkeys, hfits.collectorHpkeConfig, hfits.vdaf⟩
  · intro hleader
    rw [taskParams, hleader] at hparams
    cases hparams
    exact htaskParams
  · intro hhelper
    rw [taskParams, hhelper] at hparams
    cases hparams
    exact htaskParams

theorem SetsUp.peer_iff {peer peer' : Url} (h : s.SetsUp J peer task) :
    s.SetsUp J peer' task ↔ peer = peer' := by
  constructor
  · intro h'
    exact h.peer.symm.trans h'.peer
  · rintro rfl
    exact h

end TrainingSession

/-! ## Storing a task -/

namespace Manager

variable {m m' : Manager}

theorem postTask_new {ds ds' : Datastore} {task' : AggregatorTask} (h : postTask task' ds = .ok ds')
    (hnew : ds.lookup taskId = none) (hstored : ds'.lookup taskId = some task) :
    task = task' ∧ taskId = task'.id := by
  rcases postTask_ok h with ⟨rfl, -⟩ | ⟨rfl, -⟩
  · cases hnew.symm.trans hstored
  · by_cases hid : taskId = task'.id
    · rw [hid, AList.lookup_insert] at hstored
      exact ⟨(Option.some.inj hstored).symm, hid⟩
    · rw [AList.lookup_insert_ne hid] at hstored
      cases hnew.symm.trans hstored

/-- A task that is new in the datastore was stored by the transaction of a round. -/
theorem stored_of_step {a : Action} (h : m.step J a = some m')
    (hnew : m.provisioner.datastore.lookup taskId = none)
    (hstored : m'.provisioner.datastore.lookup taskId = some task) :
    taskId = task.id ∧
      ∃ (i : Nat) (request : StartRoundRequest) (taskId' : TaskId),
        m.threads[i]? = some (.transaction request taskId' task) := by
  have hsame : m'.provisioner.datastore ≠ m.provisioner.datastore := by
    intro heq
    rw [heq, hnew] at hstored
    cases hstored
  cases a with
  | send request => cases h; exact absurd rfl hsame
  | drop i =>
    obtain ⟨thread, -, rfl⟩ := step_drop h
    exact absurd rfl hsame
  | restart => cases h; exact absurd rfl hsame
  | resume i ω =>
    obtain ⟨thread, thread', hr⟩ := step_resume h
    have hget := hr.get
    have hres := hr.resumes
    generalize m'.provisioner = p' at hres hsame hstored
    cases hres with
    | provisioned hpost =>
      obtain ⟨rfl, hid⟩ := postTask_new hpost hnew hstored
      exact ⟨hid, i, _, _, hget⟩
    | keypair htables => exact absurd htables.datastore hsame
    | built _ _ _ htables => exact absurd htables.datastore hsame
    | ended _ hdatastore => exact absurd hdatastore hsame
    | failed htables => exact absurd htables.datastore hsame
    | recorded => exact absurd (TaskProvisioner.recordTask_datastore ..) hsame
    | _ => exact absurd rfl hsame

theorem run_config {as : List Action} (hrun : Run.after (Manager.step J) m as = some m') :
    m'.provisioner.config = m.provisioner.config := by
  refine Run.invariant (P := fun m' => m'.provisioner.config = m.provisioner.config) ?_ rfl hrun
  intro m₁ a m₂ hconfig hstep
  exact (step_config hstep).trans hconfig

/-- In every run of a manager, each new task is stored by a round of a live
session, with everything that the session has for its role; its peer is always
the configured endpoint of the helper. That is the endpoint of the other
aggregator if and only if the session is the leader's, or the two endpoints have
the same form. -/
theorem stored_task_setsUp_iff (hJ : J.Faithful) (hnormal : J.NormalizesEndpoint normal)
    {datastore : Datastore} {as : List Action}
    (hrun : Run.after (Manager.step J) (.new datastore config) as = some m) {a : Action}
    (hstep : m.step J a = some m') (hnew : m.provisioner.datastore.lookup taskId = none)
    (hstored : m'.provisioner.datastore.lookup taskId = some task) :
    ∃ (i : Nat) (request : StartRoundRequest) (s : TrainingSession),
      m.threads[i]? = some (.transaction request taskId task) ∧
      m.provisioner.trainingSessions.lookup request.trainingSessionId = some s ∧
      (s.role = .leader ∨ s.role = .helper) ∧ s.SetsUp J (normal config.helperEndpoint) task ∧
      (s.SetsUp J (normal (config.peerEndpoint s.role)) task ↔
        s.role = .leader ∨ normal config.helperEndpoint = normal config.leaderEndpoint) := by
  obtain ⟨hid, i, request, taskId', hget⟩ := stored_of_step hstep hnew hstored
  obtain ⟨-, s, hlive, hbuilds⟩ := ((coherent_new J datastore config).run hJ hrun).threads i _ hget
  obtain rfl : taskId = taskId' := hid.trans (hbuilds.id_eq hJ)
  rw [run_config hrun] at hbuilds
  have hsetsUp : s.SetsUp J (normal config.helperEndpoint) task := hbuilds.setsUp hJ hnormal
  refine ⟨i, request, s, hget, hlive, hbuilds.role_cases, hsetsUp, ?_⟩
  rw [hsetsUp.peer_iff]
  rcases hbuilds.role_cases with hrole | hrole
  · simp [hrole, TaskProvisionerConfig.peerEndpoint]
  · simp [hrole, TaskProvisionerConfig.peerEndpoint]

end Manager

end

namespace Sample

def leaderUrl : Url := ⟨"http", some "leader", some 9991, "/"⟩

def helperUrl : Url := ⟨"http", some "helper", some 9992, "/"⟩

def splitConfig : TaskProvisionerConfig := ⟨leaderUrl, helperUrl, ⟨url, url⟩⟩

/-- The role of the session 5 before the transaction of its first round, the
stored task 1, and the peer that the task is stored with. -/
def storing (role : Role) : Option (Option Role × Option AggregatorTask × Option Url) := do
  let m ← Run.after (Manager.step .plain) (.new ∅ splitConfig) (createWithRole role)
  let m' ← m.step .plain (.resume 1 (ambient 0))
  return ((m.provisioner.trainingSessions.lookup ⟨5⟩).map (·.role),
    m.provisioner.datastore.lookup (taskId 1),
    (m'.provisioner.datastore.lookup (taskId 1)).map (·.peerAggregatorEndpoint))

theorem storing_spec {role : Role} (h : storing role = some (some role, none, some helperUrl)) :
    ∃ m m' s task, Run.after (Manager.step .plain) (.new ∅ splitConfig) (createWithRole role) =
        some m ∧ m.step .plain (.resume 1 (ambient 0)) = some m' ∧
      m.provisioner.trainingSessions.lookup ⟨5⟩ = some s ∧ s.role = role ∧
      m.provisioner.datastore.lookup (taskId 1) = none ∧
      m'.provisioner.datastore.lookup (taskId 1) = some task ∧
      task.peerAggregatorEndpoint = helperUrl := by
  obtain ⟨m, hrun, h⟩ := Option.bind_eq_some_iff.mp h
  obtain ⟨m', hstep, h⟩ := Option.bind_eq_some_iff.mp h
  obtain ⟨hsession, hrest⟩ := Prod.mk.inj (Option.some.inj h)
  obtain ⟨hnew, hpeer⟩ := Prod.mk.inj hrest
  obtain ⟨s, hs, hrole⟩ := Option.map_eq_some_iff.mp hsession
  obtain ⟨task, htask, hpeer⟩ := Option.map_eq_some_iff.mp hpeer
  exact ⟨m, m', s, task, hrun, hstep, hs, hrole, hnew, htask, hpeer⟩

end Sample

theorem Manager.stored_task_sample :
    ∃ (m m' : Manager) (s : TrainingSession) (task : AggregatorTask),
      Run.after (Manager.step .plain) (.new ∅ Sample.splitConfig)
        (Sample.createWithRole .leader) = some m ∧
      m.step .plain (.resume 1 (Sample.ambient 0)) = some m' ∧
      m'.provisioner.datastore.lookup (Sample.taskId 1) = some task ∧
      s.SetsUp .plain Sample.helperUrl task := by
  obtain ⟨m, m', -, task, hrun, hstep, -, -, hnew, hstored, -⟩ :=
    Sample.storing_spec (show Sample.storing .leader = _ by decide +kernel)
  obtain ⟨_, _, s, -, -, -, hsetsUp, -⟩ := Manager.stored_task_setsUp_iff Janus.plain_faithful
    Janus.plain_normalizesEndpoint hrun hstep hnew hstored
  exact ⟨m, m', s, task, hrun, hstep, hstored, hsetsUp⟩

/-- The task of a helper is stored with the helper as its peer. -/
theorem Manager.helper_peer_is_helper :
    Sample.splitConfig.leaderEndpoint ≠ Sample.splitConfig.helperEndpoint ∧
    ∃ m m' s task, Run.after (Manager.step .plain) (.new ∅ Sample.splitConfig)
        (Sample.createWithRole .helper) = some m ∧
      m.step .plain (.resume 1 (Sample.ambient 0)) = some m' ∧
      m.provisioner.trainingSessions.lookup ⟨5⟩ = some s ∧ s.role = .helper ∧
      m.provisioner.datastore.lookup (Sample.taskId 1) = none ∧
      m'.provisioner.datastore.lookup (Sample.taskId 1) = some task ∧
      ¬s.SetsUp .plain (Sample.splitConfig.peerEndpoint s.role) task := by
  obtain ⟨m, m', s, task, hrun, hstep, hs, hrole, hnew, hstored, hpeer⟩ :=
    Sample.storing_spec (show Sample.storing .helper = _ by decide +kernel)
  refine ⟨by decide, m, m', s, task, hrun, hstep, hs, hrole, hnew, hstored, fun h => ?_⟩
  have hleader := h.peer
  rw [hpeer, hrole] at hleader
  exact absurd hleader (by decide)
