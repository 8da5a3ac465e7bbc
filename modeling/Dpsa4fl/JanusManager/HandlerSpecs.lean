-- SUMMARY: What each piece of a request handler can do to the provisioner, for its successful and its failing exits.
import Dpsa4fl.Library.Relational
import Dpsa4fl.JanusManager.Implementation

/-!
# Handler specifications

One inversion lemma for each piece of a handler. A failing piece changes
nothing but what was printed; a piece that succeeds changes exactly the part of
the state that its lemma names.
-/

open Handler Relational

/-! ## Running a handler -/

namespace Handler

variable {α β : Type} {x : Handler α} {f : α → Handler β} {p p' : TaskProvisioner}

theorem run_bind_ok {b : β} :
    (x >>= f).run p = .ok b p' ↔ ∃ a p₁, x.run p = .ok a p₁ ∧ (f a).run p₁ = .ok b p' := by
  rw [EStateM.run_bind]
  cases x.run p <;> simp

theorem run_bind_error {e : Failure} :
    (x >>= f).run p = .error e p' ↔
      x.run p = .error e p' ∨ ∃ a p₁, x.run p = .ok a p₁ ∧ (f a).run p₁ = .error e p' := by
  rw [EStateM.run_bind]
  cases x.run p <;> simp

@[simp] theorem run_throw (e : Failure) : (throw e : Handler α).run p = .error e p := rfl

@[simp] theorem run_println (line : String) :
    (println line).run p = .ok () { p with stdout := p.stdout ++ [line] } := rfl

theorem run_lift (r : Except Failure α) :
    (lift r).run p = match r with | .ok a => .ok a p | .error e => .error e p := by
  cases r <;> rfl

@[simp] theorem run_lift_ok {r : Except Failure α} {a : α} :
    (lift r).run p = .ok a p' ↔ r = .ok a ∧ p' = p := by
  rw [run_lift]
  cases r <;> simp [eq_comm]

@[simp] theorem run_lift_error {r : Except Failure α} {e : Failure} :
    (lift r).run p = .error e p' ↔ r = .error e ∧ p' = p := by
  rw [run_lift]
  cases r <;> simp [eq_comm]

@[simp] theorem run_orReturn_ok {r : Except Error α} {a : α} :
    (orReturn r).run p = .ok a p' ↔ r = .ok a ∧ p' = p := by
  rw [orReturn, run_lift_ok]
  cases r <;> simp [Except.mapError]

@[simp] theorem run_orReturn_error {r : Except Error α} {e : Failure} :
    (orReturn r).run p = .error e p' ↔ r.mapError .err = .error e ∧ p' = p := by
  rw [orReturn, run_lift_error]

end Handler

@[simp] theorem Except.mapError_eq_ok {ε ε' α : Type} {f : ε → ε'} {r : Except ε α} {a : α} :
    r.mapError f = .ok a ↔ r = .ok a := by
  cases r <;> simp [Except.mapError]

/-- `p'` is `p` up to the lines that were printed and the generated key pairs. -/
structure TaskProvisioner.SameTables (p p' : TaskProvisioner) : Prop where
  datastore : p'.datastore = p.datastore
  trainingSessions : p'.trainingSessions = p.trainingSessions
  config : p'.config = p.config

namespace TaskProvisioner.SameTables

@[refl] theorem refl (p : TaskProvisioner) : SameTables p p := ⟨rfl, rfl, rfl⟩

theorem trans {p p' p'' : TaskProvisioner} (h : SameTables p p') (h' : SameTables p' p'') :
    SameTables p p'' :=
  ⟨h'.1.trans h.1, h'.2.trans h.2, h'.3.trans h.3⟩

end TaskProvisioner.SameTables

/-- The state has changed in what was printed, and in nothing else. -/
def TaskProvisioner.Printed (p p' : TaskProvisioner) : Prop := p' = { p with stdout := p'.stdout }

instance : Std.Refl TaskProvisioner.Printed := ⟨fun _ => rfl⟩

instance : IsTrans TaskProvisioner TaskProvisioner.Printed where
  trans _ _ _ h h' := by
    unfold TaskProvisioner.Printed at h h' ⊢
    rw [h', h]

theorem TaskProvisioner.Printed.sameTables {p p' : TaskProvisioner} (h : p.Printed p') :
    p.SameTables p' := by
  rw [h]
  exact ⟨rfl, rfl, rfl⟩

/-- No exit of `x` changes a table: neither the sessions nor the database. -/
def Handler.Quiet {α : Type} (x : Handler α) : Prop :=
  ∀ p, (∀ a p', x.run p = .ok a p' → p.SameTables p') ∧
    ∀ e p', x.run p = .error e p' → p.SameTables p'

theorem Handler.Quiet.of_printed {α : Type} {x : Handler α}
    (h : Within TaskProvisioner.Printed x) : Quiet x :=
  fun _ => ⟨fun _ _ hrun => (h.ok hrun).sameTables, fun _ _ hrun => (h.error hrun).sameTables⟩

namespace Handler

variable {R : TaskProvisioner → TaskProvisioner → Prop} [Std.Refl R]

theorem within_lift {α : Type} (r : Except Failure α) : Within R (lift r) := by
  cases r with
  | ok a => exact .pure a
  | error e => exact .throw e

theorem within_orReturn {α : Type} (r : Except Error α) : Within R (orReturn r) := within_lift _

theorem within_println (line : String) : Within TaskProvisioner.Printed (println line) :=
  .modify fun _ => rfl

end Handler

/-! ## Start a round -/

/-- `task` is what `handle_start_round` creates for `taskId` in this session. -/
def TrainingSession.Builds (J : Janus) (s : TrainingSession) (config : TaskProvisionerConfig)
    (taskId : TaskId) (task : AggregatorTask) : Prop :=
  ∃ params, s.taskParams J = .ok params ∧
    J.newAggregatorTask (s.taskArguments J config taskId params) = .ok task

section
variable {J : Janus} {ω : Ambient} {p p' : TaskProvisioner} {e : Failure}

theorem startRoundTask_ok {request : StartRoundRequest} {taskId : TaskId} {task : AggregatorTask}
    (h : (startRoundTask J ω request).run p = .ok (taskId, task) p') :
    ∃ s, p.trainingSessions.lookup request.trainingSessionId = some s ∧
      taskIdFromString request.taskIdEncoded = .ok taskId ∧
      s.Builds J p.config taskId task ∧ p.SameTables p' := by
  simp only [startRoundTask, run_bind_ok, EStateM.run_get] at h
  obtain ⟨_, _, hget, h⟩ := h
  cases hget
  split at h
  · cases h
  · rename_i s hs
    simp only [run_bind_ok, run_orReturn_ok, run_lift_ok, run_println, Except.mapError_eq_ok,
      EStateM.run_pure] at h
    obtain ⟨t, _, ⟨ht, rfl⟩, _, _, ⟨-, rfl⟩, params, _, ⟨hparams, rfl⟩, _, _, hprint, task', _,
      ⟨htask, rfl⟩, _, _, hprint', hret⟩ := h
    cases hprint; cases hprint'; cases hret
    exact ⟨s, hs, ht, ⟨params, hparams, htask⟩, ⟨rfl, rfl, rfl⟩⟩

theorem within_startRoundTask (J : Janus) (ω : Ambient) (request : StartRoundRequest) :
    Within TaskProvisioner.Printed (startRoundTask J ω request) := by
  refine .bind .get fun self => ?_
  split
  · exact .throw _
  · refine .bind (within_orReturn _) fun _ => .bind (within_orReturn _) fun _ => ?_
    refine .bind (within_lift _) fun _ => .bind (within_println _) fun _ => ?_
    exact .bind (within_orReturn _) fun _ => .bind (within_println _) fun _ => .pure _

theorem startRoundTask_quiet (J : Janus) (ω : Ambient) (request : StartRoundRequest) :
    Quiet (startRoundTask J ω request) := .of_printed (within_startRoundTask J ω request)

/-- A transaction that goes through leaves the database as it was, if it has a
corresponding task already, or stores the new task. -/
theorem postTask_ok {task : AggregatorTask} {tx tx' : Datastore} (h : postTask task tx = .ok tx') :
    (tx' = tx ∧ ∃ existingTask, tx.lookup task.id = some existingTask ∧
        existingTask.corresponds task = true) ∨
      (tx' = tx.insert task.id task ∧ tx.lookup task.id = none) := by
  unfold postTask at h
  split at h
  · rename_i existingTask hlookup
    split at h
    · rename_i hc
      cases h
      exact .inl ⟨rfl, existingTask, hlookup, hc⟩
    · cases h
  · rename_i hlookup
    cases h
    exact .inr ⟨rfl, hlookup⟩

theorem provisionTask_ok {task : AggregatorTask} (h : (provisionTask ω task).run p = .ok () p') :
    ∃ datastore, postTask task p.datastore = .ok datastore ∧
      p' = { p with datastore := datastore } := by
  simp only [provisionTask, run_bind_ok, EStateM.run_get, run_orReturn_ok, Except.mapError_eq_ok,
    EStateM.run_set] at h
  obtain ⟨_, _, hget, ds, _, ⟨hds, rfl⟩, hset⟩ := h
  cases hget; cases hset
  refine ⟨ds, ?_, rfl⟩
  simp only [Datastore.runTx] at hds
  cases hω : ω.transaction with
  | error e => rw [hω] at hds; cases hds
  | ok u => rw [hω] at hds; exact hds

theorem provisionTask_error {task : AggregatorTask}
    (h : (provisionTask ω task).run p = .error e p') : p' = p := by
  simp only [provisionTask, run_bind_error, EStateM.run_get, run_orReturn_error, run_orReturn_ok,
    EStateM.run_set] at h
  rcases h with h | ⟨_, _, hget, h⟩
  · cases h
  · cases hget
    rcases h with ⟨-, rfl⟩ | ⟨_, _, -, h⟩
    · rfl
    · cases h

/-! ## Create a session -/

/-- The start of the handler changes nothing. -/
theorem within_createSessionStart {R : TaskProvisioner → TaskProvisioner → Prop} [Std.Refl R]
    [IsTrans TaskProvisioner R] (J : Janus) (ω : Ambient)
    (request : CreateTrainingSessionRequest) : Within R (createSessionStart J ω request) := by
  refine .bind ?_ fun _ => .bind (within_orReturn _) fun _ => .pure _
  unfold createSessionId
  split
  · refine .bind .get fun self => ?_
    split
    · exact .throw _
    · exact .pure _
  · exact .pure _

theorem createSessionStart_quiet (J : Janus) (ω : Ambient)
    (request : CreateTrainingSessionRequest) : Quiet (createSessionStart J ω request) :=
  .of_printed (within_createSessionStart J ω request)

/-- The id of a new session: a requested one that was not live, or the drawn
one, of which nothing is known. -/
theorem createSessionId_ok {request : CreateTrainingSessionRequest} {id : TrainingSessionId}
    (h : (createSessionId ω request).run p = .ok id p') :
    p' = p ∧ ((request.trainingSessionId = some id ∧ p.trainingSessions.lookup id = none) ∨
      (request.trainingSessionId = none ∧ id = ⟨ω.sessionId⟩)) := by
  unfold createSessionId at h
  split at h
  · rename_i k hk
    simp only [run_bind_ok, EStateM.run_get] at h
    obtain ⟨_, _, hget, h⟩ := h
    cases hget
    split at h
    · cases h
    · rename_i hlive
      cases h
      exact ⟨rfl, .inl ⟨hk, by simpa using hlive⟩⟩
  · rename_i hnone
    cases h
    exact ⟨rfl, .inr ⟨hnone, rfl⟩⟩

theorem createSessionStart_ok {request : CreateTrainingSessionRequest} {id : TrainingSessionId}
    {secrets : SessionSecrets}
    (h : (createSessionStart J ω request).run p = .ok (id, secrets) p') :
    p' = p ∧ createSessionSecrets J request = .ok secrets ∧
      ((request.trainingSessionId = some id ∧ p.trainingSessions.lookup id = none) ∨
        (request.trainingSessionId = none ∧ id = ⟨ω.sessionId⟩)) := by
  simp only [createSessionStart, run_bind_ok, run_orReturn_ok, EStateM.run_pure] at h
  obtain ⟨k, p₁, hid, s, _, ⟨hs, rfl⟩, hret⟩ := h
  cases hret
  obtain ⟨rfl, hcases⟩ := createSessionId_ok hid
  exact ⟨rfl, hs, hcases⟩

theorem createSessionKeypair_ok {request : CreateTrainingSessionRequest} {id : TrainingSessionId}
    {secrets : SessionSecrets} {session : TrainingSession}
    (h : (createSessionKeypair J ω request id secrets).run p = .ok session p') :
    p.SameTables p' ∧ ∃ keypair, session = request.session secrets keypair := by
  simp only [createSessionKeypair, run_bind_ok, EStateM.run_get, run_lift_ok, EStateM.run_set,
    run_println, EStateM.run_pure] at h
  obtain ⟨_, _, hget, ⟨keypair, keyring⟩, _, ⟨-, rfl⟩, _, _, hset, _, _, hprint, hret⟩ := h
  cases hget; cases hset; cases hprint; cases hret
  exact ⟨⟨rfl, rfl, rfl⟩, keypair, rfl⟩

theorem createSessionKeypair_error {request : CreateTrainingSessionRequest}
    {id : TrainingSessionId} {secrets : SessionSecrets}
    (h : (createSessionKeypair J ω request id secrets).run p = .error e p') : p' = p := by
  simp only [createSessionKeypair, EStateM.run_bind, EStateM.run_get, run_lift] at h
  cases hkey : p.keyring.fetchKeypair J ω.keypairSeed ω.keypairId with
  | ok pair => simp [hkey] at h
  | error e' =>
      rw [hkey] at h
      cases h
      rfl

theorem createSessionKeypair_quiet (J : Janus) (ω : Ambient)
    (request : CreateTrainingSessionRequest) (id : TrainingSessionId) (secrets : SessionSecrets) :
    Quiet (createSessionKeypair J ω request id secrets) := by
  refine fun p => ⟨fun _ _ h => (createSessionKeypair_ok h).1, fun e p' h => ?_⟩
  rw [createSessionKeypair_error h]

/-! ## End a session, look up parameters -/

theorem handleEndSession_ok {id : TrainingSessionId}
    (h : (handleEndSession id).run p = .ok () p') :
    (p.trainingSessions.lookup id).isSome ∧ p'.datastore = p.datastore ∧ p'.config = p.config ∧
      p'.trainingSessions = p.trainingSessions.erase id := by
  simp only [handleEndSession, run_bind_ok, EStateM.run_get] at h
  obtain ⟨_, _, hget, h⟩ := h
  cases hget
  split at h
  · rename_i hlive
    simp only [run_bind_ok, EStateM.run_set, run_println] at h
    obtain ⟨_, _, hset, hprint⟩ := h
    cases hset; cases hprint
    exact ⟨hlive, rfl, rfl, rfl⟩
  · simp only [run_bind_ok, run_println] at h
    obtain ⟨_, _, hprint, h⟩ := h
    cases h

theorem handleEndSession_error {id : TrainingSessionId}
    (h : (handleEndSession id).run p = .error e p') :
    p.trainingSessions.lookup id = none ∧ p.SameTables p' ∧ ∃ error, e = .err error := by
  simp only [handleEndSession, run_bind_error, EStateM.run_get] at h
  rcases h with h | ⟨_, _, hget, h⟩
  · cases h
  · cases hget
    split at h
    · simp at h
    · rename_i hlive
      simp only [run_bind_error, run_println, run_throw] at h
      rcases h with h | ⟨_, _, hprint, h⟩
      · cases h
      · cases hprint; cases h
        exact ⟨by simpa using hlive, ⟨rfl, rfl, rfl⟩, _, rfl⟩

theorem handleEndSession_failed {id : TrainingSessionId}
    (h : (handleEndSession id).run p = .error e p') : p.Printed p' := by
  simp only [handleEndSession, EStateM.run_bind, EStateM.run_get] at h
  split at h
  · simp at h
  · cases h
    rfl

theorem within_lookupVdafParameter {R : TaskProvisioner → TaskProvisioner → Prop} [Std.Refl R]
    [IsTrans TaskProvisioner R] (taskId : TaskId) : Within R (lookupVdafParameter taskId) := by
  refine .bind .get fun self => ?_
  dsimp only
  split
  · exact .throw _
  · exact .pure _
  · exact .throw _

theorem within_handleGetVdafParameter {R : TaskProvisioner → TaskProvisioner → Prop} [Std.Refl R]
    [IsTrans TaskProvisioner R] (request : GetVdafParameterRequest) :
    Within R (handleGetVdafParameter request) :=
  (within_orReturn _).bind fun _ => within_lookupVdafParameter _

theorem lookupVdafParameter_ok {taskId : TaskId} {vdafParameter : VdafParameter}
    (h : (lookupVdafParameter taskId).run p = .ok vdafParameter p') :
    p' = p ∧ ∃ id s, p.trainingSessions.lookup id = some s ∧ taskId ∈ s.tasks ∧
      s.vdafParameter = vdafParameter := by
  simp only [lookupVdafParameter, run_bind_ok, EStateM.run_get] at h
  obtain ⟨_, _, hget, h⟩ := h
  cases hget
  split at h
  · cases h
  · rename_i s hs
    cases h
    have hmem : s ∈ (p.trainingSessions.entries.map (·.2)).filter (·.tasks.contains taskId) := by
      rw [hs]; exact List.mem_singleton_self s
    obtain ⟨hmap, htask⟩ := List.mem_filter.mp hmem
    obtain ⟨⟨id, s'⟩, hentry, rfl⟩ := List.mem_map.mp hmap
    exact ⟨rfl, id, s', AList.mem_lookup_iff.mpr hentry, by simpa using htask, rfl⟩
  · cases h

end
