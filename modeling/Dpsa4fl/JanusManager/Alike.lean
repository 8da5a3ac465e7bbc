-- SUMMARY: States of a provisioner that no request can tell apart, and that the pieces of the handlers keep so.
import Dpsa4fl.Library.Relational
import Dpsa4fl.JanusManager.Coherence

/-!
# States that no request tells apart

What a manager has printed is read by no handler, and of the tasks of a session
it is only asked which they are. `TaskProvisioner.Alike T` relates two states
that agree in everything else, where `T` says how far the lists of tasks may
differ. Every piece of a handler keeps such states alike and ends in the same way.
-/

open Handler Relational

/-! ## Lists of tasks -/

/-- Appending a task and asking for one respect this equivalence of lists of tasks. -/
structure Indistinct (T : List TaskId → List TaskId → Prop) : Prop where
  equivalence : Equivalence T
  mem_iff : ∀ {l l'}, T l l' → ∀ taskId, taskId ∈ l ↔ taskId ∈ l'
  append : ∀ {l l'}, T l l' → ∀ taskId, T (l ++ [taskId]) (l' ++ [taskId])

/-- The lists have the same members. -/
def SameTasks (l l' : List TaskId) : Prop := ∀ taskId, taskId ∈ l ↔ taskId ∈ l'

theorem indistinct_eq : Indistinct Eq where
  equivalence := eq_equivalence
  mem_iff h taskId := by rw [h]
  append h taskId := by rw [h]

theorem indistinct_sameTasks : Indistinct SameTasks where
  equivalence := ⟨fun _ _ => Iff.rfl, fun h t => (h t).symm, fun h h' t => (h t).trans (h' t)⟩
  mem_iff h := h
  append h taskId t := by simp only [List.mem_append, h t]

/-! ## Sessions and provisioners -/

/-- The sessions agree but for their lists of tasks, which `T` relates. -/
def TrainingSession.Alike (T : List TaskId → List TaskId → Prop) (s s' : TrainingSession) : Prop :=
  T s.tasks s'.tasks ∧ s' = { s with tasks := s'.tasks }

structure TaskProvisioner.Alike (T : List TaskId → List TaskId → Prop) (p q : TaskProvisioner) :
    Prop where
  datastore : q.datastore = p.datastore
  config : q.config = p.config
  keyring : q.keyring = p.keyring
  sessions : ∀ id, Option.Rel (TrainingSession.Alike T)
    (p.trainingSessions.lookup id) (q.trainingSessions.lookup id)

section
variable {T : List TaskId → List TaskId → Prop} (hT : Indistinct T)
include hT

theorem TrainingSession.Alike.equivalence : Equivalence (TrainingSession.Alike T) where
  refl s := ⟨hT.equivalence.refl _, rfl⟩
  symm := by
    rintro s s' ⟨htasks, heq⟩
    exact ⟨hT.equivalence.symm htasks, by rw [heq]⟩
  trans := by
    rintro s s' s'' ⟨htasks, heq⟩ ⟨htasks', heq'⟩
    exact ⟨hT.equivalence.trans htasks htasks', by rw [heq', heq]⟩

namespace TaskProvisioner.Alike

/-- States with the same tables and key pairs are alike, whatever was printed. -/
theorem of_eq {p q : TaskProvisioner} (h : p.SameTables q) (hkeyring : q.keyring = p.keyring) :
    Alike T p q where
  datastore := h.datastore
  config := h.config
  keyring := hkeyring
  sessions id := by
    rw [h.trainingSessions]
    cases p.trainingSessions.lookup id with
    | none => exact .none
    | some s => exact .some ((TrainingSession.Alike.equivalence hT).refl s)

theorem refl (p : TaskProvisioner) : Alike T p p := of_eq hT (.refl p) rfl

theorem symm {p q : TaskProvisioner} (h : Alike T p q) : Alike T q p where
  datastore := h.datastore.symm
  config := h.config.symm
  keyring := h.keyring.symm
  sessions id := by
    have hs := h.sessions id
    generalize p.trainingSessions.lookup id = o, q.trainingSessions.lookup id = o' at hs
    cases hs with
    | none => exact .none
    | some hs => exact .some ((TrainingSession.Alike.equivalence hT).symm hs)

theorem trans {p q r : TaskProvisioner} (h : Alike T p q) (h' : Alike T q r) : Alike T p r where
  datastore := h'.datastore.trans h.datastore
  config := h'.config.trans h.config
  keyring := h'.keyring.trans h.keyring
  sessions id := by
    have hs := h.sessions id
    have hs' := h'.sessions id
    generalize p.trainingSessions.lookup id = o, q.trainingSessions.lookup id = o',
      r.trainingSessions.lookup id = o'' at hs hs'
    cases hs with
    | none => exact hs'
    | some hs =>
        cases hs' with
        | some hs' => exact .some ((TrainingSession.Alike.equivalence hT).trans hs hs')

end TaskProvisioner.Alike

end

/-- States that differ in what was printed are alike. -/
theorem TaskProvisioner.Printed.alike {T : List TaskId → List TaskId → Prop} (hT : Indistinct T)
    {p p' : TaskProvisioner} (h : p.Printed p') : p.Alike T p' :=
  .of_eq hT h.sameTables (by rw [h])

/-! ## Looking up a task -/

/-- What `handle_get_vdaf_parameter` answers depends on which live sessions list
the task: none, exactly one, or several. -/
inductive TaskProvisioner.Finds (p : TaskProvisioner) (taskId : TaskId) :
    EStateM.Result Failure TaskProvisioner VdafParameter → Prop where
  | missing (hnone : ∀ id s, p.trainingSessions.lookup id = some s → taskId ∉ s.tasks) :
      Finds p taskId (.error (.err (.anyhow ("Could not find session containing task with id " ++
        taskIdToString taskId ++ "."))) p)
  | found {id s} (hlive : p.trainingSessions.lookup id = some s) (hmem : taskId ∈ s.tasks)
      (hunique : ∀ k s', p.trainingSessions.lookup k = some s' → taskId ∈ s'.tasks → k = id) :
      Finds p taskId (.ok s.vdafParameter p)
  | multiple {id k s s'} (hne : id ≠ k) (hlive : p.trainingSessions.lookup id = some s)
      (hlive' : p.trainingSessions.lookup k = some s') (hmem : taskId ∈ s.tasks)
      (hmem' : taskId ∈ s'.tasks) :
      Finds p taskId (.error (.err (.anyhow ("Multiple sessions containing taskd id " ++
        taskIdToString taskId ++ " exist."))) p)

/-- The entries of the sessions that list a task. -/
def TaskProvisioner.entriesWith (p : TaskProvisioner) (taskId : TaskId) :
    List (Σ _ : TrainingSessionId, TrainingSession) :=
  p.trainingSessions.entries.filter fun entry => entry.2.tasks.contains taskId

namespace TaskProvisioner

theorem mem_entriesWith {p : TaskProvisioner} {taskId : TaskId} {id : TrainingSessionId}
    {s : TrainingSession} : ⟨id, s⟩ ∈ p.entriesWith taskId ↔
      p.trainingSessions.lookup id = some s ∧ taskId ∈ s.tasks := by
  rw [entriesWith, List.mem_filter]
  simp [AList.lookup, List.mem_dlookup_iff p.trainingSessions.nodupKeys, ← Option.mem_def]

theorem nodup_entriesWith (p : TaskProvisioner) (taskId : TaskId) :
    (p.entriesWith taskId).NodupKeys :=
  p.trainingSessions.nodupKeys.sublist List.filter_sublist

end TaskProvisioner

theorem lookupVdafParameter_finds (p : TaskProvisioner) (taskId : TaskId) :
    p.Finds taskId ((lookupVdafParameter taskId).run p) := by
  have hfilter : (p.trainingSessions.entries.map (·.2)).filter (·.tasks.contains taskId) =
      (p.entriesWith taskId).map (·.2) := by
    rw [List.filter_map]
    rfl
  have hkeys := p.nodup_entriesWith taskId
  have hmem : ∀ id s, ⟨id, s⟩ ∈ p.entriesWith taskId ↔
      p.trainingSessions.lookup id = some s ∧ taskId ∈ s.tasks :=
    fun _ _ => TaskProvisioner.mem_entriesWith
  simp only [lookupVdafParameter, EStateM.run_bind, EStateM.run_get, hfilter]
  generalize p.entriesWith taskId = entries at hkeys hmem
  cases entries with
  | nil => exact .missing fun id s hlive ht => by simpa using (hmem id s).mpr ⟨hlive, ht⟩
  | cons entry entries =>
      obtain ⟨id, s⟩ := entry
      obtain ⟨hlive, ht⟩ := (hmem id s).mp List.mem_cons_self
      cases entries with
      | nil =>
          refine .found hlive ht fun k s' hlive' ht' => ?_
          have hentry := (hmem k s').mpr ⟨hlive', ht'⟩
          cases List.mem_singleton.mp hentry
          rfl
      | cons entry' entries =>
          obtain ⟨k, s'⟩ := entry'
          obtain ⟨hlive', ht'⟩ := (hmem k s').mp (List.mem_cons_of_mem _ List.mem_cons_self)
          have hne : id ≠ k := by
            rintro rfl
            simp [List.NodupKeys, List.keys] at hkeys
          exact .multiple hne hlive hlive' ht ht'

/-! ## The pieces of the handlers -/

section
variable {T : List TaskId → List TaskId → Prop} {p q : TaskProvisioner}

namespace TaskProvisioner.Alike

theorem lookup_none (h : Alike T p q) {id : TrainingSessionId}
    (hp : p.trainingSessions.lookup id = none) : q.trainingSessions.lookup id = none := by
  have hs := h.sessions id
  rw [hp] at hs
  generalize q.trainingSessions.lookup id = o at hs
  cases hs
  rfl

/-- If not even the lists of tasks may differ, the sessions are the same. -/
theorem lookup_eq (h : Alike Eq p q) (id : TrainingSessionId) :
    q.trainingSessions.lookup id = p.trainingSessions.lookup id := by
  have hs := h.sessions id
  generalize p.trainingSessions.lookup id = o, q.trainingSessions.lookup id = o' at hs
  cases hs with
  | none => rfl
  | some hs => rw [hs.2, ← hs.1]

theorem lookup_some (h : Alike T p q) {id : TrainingSessionId} {s : TrainingSession}
    (hp : p.trainingSessions.lookup id = some s) :
    ∃ s', q.trainingSessions.lookup id = some s' ∧ s.Alike T s' := by
  have hs := h.sessions id
  rw [hp] at hs
  generalize q.trainingSessions.lookup id = o at hs
  cases hs with
  | some hs => exact ⟨_, rfl, hs⟩

theorem isSome_lookup (h : Alike T p q) (id : TrainingSessionId) :
    (q.trainingSessions.lookup id).isSome = (p.trainingSessions.lookup id).isSome := by
  cases hp : p.trainingSessions.lookup id with
  | none => rw [h.lookup_none hp]
  | some s =>
      obtain ⟨s', hs', -⟩ := h.lookup_some hp
      rw [hs']
      rfl

theorem insert (h : Alike T p q) (id : TrainingSessionId) {s s' : TrainingSession}
    (hs : s.Alike T s') :
    Alike T { p with trainingSessions := p.trainingSessions.insert id s }
      { q with trainingSessions := q.trainingSessions.insert id s' } where
  datastore := h.datastore
  config := h.config
  keyring := h.keyring
  sessions k := by
    rcases eq_or_ne k id with rfl | hk
    · rw [AList.lookup_insert, AList.lookup_insert]
      exact .some hs
    · rw [AList.lookup_insert_ne hk, AList.lookup_insert_ne hk]
      exact h.sessions k

theorem erase (h : Alike T p q) (id : TrainingSessionId) :
    Alike T { p with trainingSessions := p.trainingSessions.erase id }
      { q with trainingSessions := q.trainingSessions.erase id } where
  datastore := h.datastore
  config := h.config
  keyring := h.keyring
  sessions k := by
    rcases eq_or_ne k id with rfl | hk
    · rw [AList.lookup_erase, AList.lookup_erase]
      exact .none
    · rw [AList.lookup_erase_ne hk, AList.lookup_erase_ne hk]
      exact h.sessions k

end TaskProvisioner.Alike

namespace Handler

theorem relates_lift {α : Type} (r : Except Failure α) :
    Relates (TaskProvisioner.Alike T) Eq (lift r) (lift r) := by
  cases r with
  | ok a => exact .pure rfl
  | error e => exact .throw e

theorem relates_orReturn {α : Type} (r : Except Error α) :
    Relates (TaskProvisioner.Alike T) Eq (orReturn r) (orReturn r) := relates_lift _

theorem relates_println (line line' : String) :
    Relates (TaskProvisioner.Alike T) Eq (println line) (println line') :=
  .modify fun _ _ h => ⟨h.datastore, h.config, h.keyring, h.sessions⟩

end Handler

theorem relates_createSessionStart (J : Janus) (ω : Ambient)
    (request : CreateTrainingSessionRequest) :
    Relates (TaskProvisioner.Alike T) Eq (createSessionStart J ω request)
      (createSessionStart J ω request) := by
  refine .bind (V := Eq) ?_ ?_
  · unfold createSessionId
    split
    · refine .get_bind fun p q h => ?_
      rw [h.isSome_lookup]
      split
      · exact .throw _
      · exact .pure rfl
    · exact .pure rfl
  · rintro id _ rfl
    refine .bind (relates_orReturn _) ?_
    rintro secrets _ rfl
    exact .pure rfl

theorem relates_createSessionKeypair (J : Janus) (ω : Ambient)
    (request : CreateTrainingSessionRequest) (id : TrainingSessionId) (secrets : SessionSecrets) :
    Relates (TaskProvisioner.Alike T) Eq (createSessionKeypair J ω request id secrets)
      (createSessionKeypair J ω request id secrets) := by
  refine .get_bind fun p q h => ?_
  rw [h.keyring]
  refine .bind (relates_lift _) ?_
  rintro ⟨keypair, keyring⟩ _ rfl
  refine .bind (.set ⟨h.datastore, h.config, rfl, h.sessions⟩) fun _ _ _ => ?_
  refine .bind (relates_println _ _) fun _ _ _ => ?_
  exact .pure rfl

theorem relates_provisionTask (ω : Ambient) (task : AggregatorTask) :
    Relates (TaskProvisioner.Alike T) Eq (provisionTask ω task) (provisionTask ω task) := by
  refine .get_bind fun p q h => ?_
  rw [h.datastore]
  refine .bind (relates_orReturn _) ?_
  rintro ds _ rfl
  exact .set ⟨rfl, h.config, h.keyring, h.sessions⟩

theorem relates_startRoundTask (J : Janus) (ω : Ambient) (request : StartRoundRequest) :
    Relates (TaskProvisioner.Alike T) Eq (startRoundTask J ω request)
      (startRoundTask J ω request) := by
  refine .get_bind fun p q h => ?_
  cases hp : p.trainingSessions.lookup request.trainingSessionId with
  | none =>
      rw [h.lookup_none hp]
      exact .throw _
  | some s =>
      obtain ⟨s', hq, -, hs'⟩ := h.lookup_some hp
      -- the task is made of what the sessions agree in
      rw [hq, hs', h.config]
      refine .bind (relates_orReturn _) ?_
      rintro taskId _ rfl
      refine .bind (relates_orReturn _) fun _ _ _ => ?_
      refine .bind (relates_lift _) ?_
      rintro params _ rfl
      refine .bind (relates_println _ _) fun _ _ _ => ?_
      refine .bind (relates_orReturn _) ?_
      rintro task _ rfl
      refine .bind (relates_println _ _) fun _ _ _ => ?_
      exact .pure rfl

theorem relates_handleEndSession (id : TrainingSessionId) :
    Relates (TaskProvisioner.Alike T) Eq (handleEndSession id) (handleEndSession id) := by
  refine .get_bind fun p q h => ?_
  rw [h.isSome_lookup]
  split
  · exact .bind (.set (h.erase id)) fun _ _ _ => relates_println _ _
  · exact .bind (relates_println _ _) fun _ _ _ => .throw _

end

section
variable {T : List TaskId → List TaskId → Prop} (hT : Indistinct T)
include hT

theorem TaskProvisioner.Alike.recordTask {p q : TaskProvisioner} (h : Alike T p q)
    (id : TrainingSessionId) (taskId : TaskId) :
    Alike T (p.recordTask id taskId) (q.recordTask id taskId) := by
  unfold TaskProvisioner.recordTask
  cases hp : p.trainingSessions.lookup id with
  | none =>
      rw [h.lookup_none hp]
      exact h
  | some s =>
      obtain ⟨s', hq, htasks, hs'⟩ := h.lookup_some hp
      rw [hq]
      refine h.insert id ⟨hT.append htasks taskId, ?_⟩
      rw [hs']

theorem relates_lookupVdafParameter (taskId : TaskId) :
    Relates (TaskProvisioner.Alike T) Eq (lookupVdafParameter taskId)
      (lookupVdafParameter taskId) := by
  intro p q h
  have hback : ∀ {id s'}, q.trainingSessions.lookup id = some s' → taskId ∈ s'.tasks →
      ∃ s, p.trainingSessions.lookup id = some s ∧ taskId ∈ s.tasks ∧
        s'.vdafParameter = s.vdafParameter := by
    intro id s' hs' hmem
    obtain ⟨s, hs, htasks, heq⟩ := (h.symm hT).lookup_some hs'
    exact ⟨s, hs, (hT.mem_iff htasks taskId).mp hmem, by rw [heq]⟩
  have hforth : ∀ {id s}, p.trainingSessions.lookup id = some s → taskId ∈ s.tasks →
      ∃ s', q.trainingSessions.lookup id = some s' ∧ taskId ∈ s'.tasks := by
    intro id s hs hmem
    obtain ⟨s', hs', htasks, -⟩ := h.lookup_some hs
    exact ⟨s', hs', (hT.mem_iff htasks taskId).mp hmem⟩
  have hp := lookupVdafParameter_finds p taskId
  have hq := lookupVdafParameter_finds q taskId
  generalize (lookupVdafParameter taskId).run p = rp, (lookupVdafParameter taskId).run q = rq
    at hp hq ⊢
  cases hp with
  | missing hnone =>
      cases hq with
      | missing => exact .error h
      | found hlive hmem =>
          obtain ⟨s, hs, ht, -⟩ := hback hlive hmem
          exact (hnone _ s hs ht).elim
      | multiple _ hlive _ hmem =>
          obtain ⟨s, hs, ht, -⟩ := hback hlive hmem
          exact (hnone _ s hs ht).elim
  | found hlive hmem hunique =>
      cases hq with
      | missing hnone =>
          obtain ⟨s', hs', ht⟩ := hforth hlive hmem
          exact (hnone _ s' hs' ht).elim
      | found hlive' hmem' =>
          obtain ⟨s, hs, ht, hvdaf⟩ := hback hlive' hmem'
          obtain rfl := hunique _ s hs ht
          rw [hlive] at hs
          cases hs
          exact .ok hvdaf.symm h
      | multiple hne hlive₁ hlive₂ hmem₁ hmem₂ =>
          obtain ⟨s₁, hs₁, ht₁, -⟩ := hback hlive₁ hmem₁
          obtain ⟨s₂, hs₂, ht₂, -⟩ := hback hlive₂ hmem₂
          exact (hne ((hunique _ s₁ hs₁ ht₁).trans (hunique _ s₂ hs₂ ht₂).symm)).elim
  | multiple hne hlive₁ hlive₂ hmem₁ hmem₂ =>
      obtain ⟨s₁, hs₁, ht₁⟩ := hforth hlive₁ hmem₁
      obtain ⟨s₂, hs₂, ht₂⟩ := hforth hlive₂ hmem₂
      cases hq with
      | missing hnone => exact (hnone _ s₁ hs₁ ht₁).elim
      | found _ _ hunique =>
          exact (hne ((hunique _ s₁ hs₁ ht₁).trans (hunique _ s₂ hs₂ ht₂).symm)).elim
      | multiple => exact .error h

/-! ## Threads -/

theorem Thread.relates_piece (J : Janus) (ω : Ambient) (thread : Thread) :
    Relates (TaskProvisioner.Alike T) Eq (thread.piece J ω) (thread.piece J ω) := by
  cases thread with
  | arrived request =>
      cases request with
      | createSession request =>
          refine .bind (relates_createSessionStart J ω request) ?_
          rintro ⟨id, secrets⟩ _ rfl
          exact .pure rfl
      | endSession id => exact .bind (relates_handleEndSession id) fun _ _ _ => .pure rfl
      | startRound request =>
          refine .bind (relates_startRoundTask J ω request) ?_
          rintro ⟨taskId, task⟩ _ rfl
          exact .pure rfl
      | getVdafParameter request =>
          refine .bind (relates_orReturn _) ?_
          rintro taskId _ rfl
          exact .pure rfl
      | getMainLocations => exact .get_bind fun p q h => .pure (by rw [h.config])
  | keyring request id secrets =>
      refine .bind (relates_createSessionKeypair J ω request id secrets) ?_
      rintro session _ rfl
      exact .pure rfl
  | insert request id session =>
      refine .bind (V := Eq) ?_ ?_
      · refine .bind (.modify fun p q h => h.insert id ?_) fun _ _ _ => .pure rfl
        exact (TrainingSession.Alike.equivalence hT).refl session
      · rintro id _ rfl
        exact .pure rfl
  | transaction request taskId task =>
      exact .bind (relates_provisionTask ω task) fun _ _ _ => .pure rfl
  | record request taskId =>
      exact .bind (.modify fun p q h => h.recordTask hT _ _) fun _ _ _ => .pure rfl
  | lookup request taskId =>
      refine .bind (relates_lookupVdafParameter hT taskId) ?_
      rintro vdafParameter _ rfl
      exact .pure rfl
  | answered request answer => exact .pure rfl
  | dropped request => exact .pure rfl

/-- In alike states a thread runs to the same await point and leaves alike states. -/
theorem Thread.resume_alike (J : Janus) (ω : Ambient) (thread : Thread) {p q : TaskProvisioner}
    (h : p.Alike T q) :
    (thread.resume J ω q).1 = (thread.resume J ω p).1 ∧
      (thread.resume J ω p).2.Alike T (thread.resume J ω q).2 := by
  have hresults := thread.relates_piece hT J ω p q h
  unfold resume
  generalize (thread.piece J ω).run p = rp, (thread.piece J ω).run q = rq at hresults ⊢
  cases hresults with
  | ok heq hR => exact ⟨heq.symm, hR⟩
  | error hR => exact ⟨rfl, hR⟩

end
