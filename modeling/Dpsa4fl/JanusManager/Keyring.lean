-- SUMMARY: The HPKE key pairs of a manager: an entry of the keyring is never replaced, and sessions and tasks use its pairs only.
import Dpsa4fl.JanusManager.Coherence

/-!
# The keyring

`HpkeConfigRegistry` generates a key pair when its id is asked for the first time.
A session takes its pair from the keyring before it is inserted, and its tasks take
the pair of the session. As long as the manager is not restarted, the keyring keeps
every pair that it has handed out, so the id of a pair stands for the pair.
-/

open Handler Relational

/-- What the crate relies on: a key pair is generated for the id that was asked for. -/
def Janus.KeepsKeyIds (J : Janus) : Prop :=
  ∀ {id seed keypair}, J.generateHpkeConfigAndPrivateKey id HpkeKemId.x25519HkdfSha256
    HpkeKdfId.hkdfSha256 HpkeAeadId.aes128Gcm seed = .ok keypair → keypair.config.id = id

theorem Janus.plain_keepsKeyIds : Janus.plain.KeepsKeyIds := by
  rintro id seed _ ⟨⟩
  rfl

namespace HpkeConfigRegistry

variable {J : Janus}

/-- Every pair of the first registry is found in the second one. -/
def Extends (self self' : HpkeConfigRegistry) : Prop :=
  ∀ id keypair, self.lookup id = some keypair → self'.lookup id = some keypair

@[refl] theorem Extends.refl (self : HpkeConfigRegistry) : self.Extends self := fun _ _ h => h

theorem Extends.trans {self self' self'' : HpkeConfigRegistry} (h : self.Extends self')
    (h' : self'.Extends self'') : self.Extends self'' :=
  fun id keypair hid => h' id keypair (h id keypair hid)

/-- Each pair is stored under the id of its configuration. -/
def Indexed (self : HpkeConfigRegistry) : Prop :=
  ∀ id keypair, self.lookup id = some keypair → keypair.config.id = id

/-- The registry has this pair, under its id. -/
def Has (self : HpkeConfigRegistry) (keypair : HpkeKeypair) : Prop :=
  self.lookup keypair.config.id = some keypair

theorem Has.extends {self self' : HpkeConfigRegistry} {keypair : HpkeKeypair} (h : self.Has keypair)
    (hextends : self.Extends self') : self'.Has keypair :=
  hextends _ _ h

/-- Pairs with the same id are the same. -/
theorem Has.eq {self : HpkeConfigRegistry} {keypair keypair' : HpkeKeypair} (h : self.Has keypair)
    (h' : self.Has keypair') (hid : keypair.config.id = keypair'.config.id) :
    keypair = keypair' := by
  unfold Has at h
  rw [hid] at h
  exact Option.some.inj (h.symm.trans h')

/-- There are no more pairs than ids. -/
theorem length_le (self : HpkeConfigRegistry) : self.entries.length ≤ 256 := by
  have hnodup : (self.keys.map UInt8.toNat).Nodup :=
    self.keys_nodup.map fun _ _ => UInt8.toNat.inj
  have hrange : self.keys.map UInt8.toNat ⊆ List.range 256 := by
    intro n hn
    obtain ⟨id, -, rfl⟩ := List.mem_map.mp hn
    exact List.mem_range.mpr id.toNat_lt
  have hlength := (List.subperm_of_subset hnodup hrange).length_le
  rwa [List.length_map, AList.keys, List.keys, List.length_map, List.length_range] at hlength

/-- A registry with one more pair. -/
theorem extends_insert {self : HpkeConfigRegistry} {id : UInt8} (hnone : self.lookup id = none)
    (keypair : HpkeKeypair) : self.Extends (self.insert id keypair) := by
  intro k keypair' hk
  have hne : k ≠ id := by
    rintro rfl
    cases hnone.symm.trans hk
  rwa [AList.lookup_insert_ne hne]

/-- A pair is in the registry, or it is generated and added. -/
theorem fetchKeypair_cases {seed : List UInt8} {self self' : HpkeConfigRegistry} {id : UInt8}
    {keypair : HpkeKeypair} (h : self.fetchKeypair J seed id = .ok (keypair, self')) :
    (self.lookup id = some keypair ∧ self' = self) ∨
      (self.lookup id = none ∧ self' = self.insert id keypair ∧
        J.generateHpkeConfigAndPrivateKey id HpkeKemId.x25519HkdfSha256 HpkeKdfId.hkdfSha256
          HpkeAeadId.aes128Gcm seed = .ok keypair) := by
  unfold fetchKeypair at h
  split at h
  · rename_i hlookup
    cases h
    exact .inl ⟨hlookup, rfl⟩
  · rename_i hnone
    split at h
    · rename_i hgenerate
      cases h
      exact .inr ⟨hnone, rfl, hgenerate⟩
    · cases h

theorem fetchKeypair_extends {seed : List UInt8} {self self' : HpkeConfigRegistry} {id : UInt8}
    {keypair : HpkeKeypair} (h : self.fetchKeypair J seed id = .ok (keypair, self')) :
    self.Extends self' := by
  rcases fetchKeypair_cases h with ⟨-, rfl⟩ | ⟨hnone, rfl, -⟩
  · rfl
  · exact extends_insert hnone keypair

theorem fetchKeypair_spec (hJ : J.KeepsKeyIds) {seed : List UInt8}
    {self self' : HpkeConfigRegistry} {id : UInt8} {keypair : HpkeKeypair}
    (h : self.fetchKeypair J seed id = .ok (keypair, self')) (hself : self.Indexed) :
    self.Extends self' ∧ self'.Indexed ∧ self'.Has keypair := by
  refine ⟨fetchKeypair_extends h, ?_⟩
  rcases fetchKeypair_cases h with ⟨hlookup, rfl⟩ | ⟨hnone, rfl, hgenerate⟩
  · refine ⟨hself, ?_⟩
    rw [Has, hself id keypair hlookup]
    exact hlookup
  · have hid : keypair.config.id = id := hJ hgenerate
    refine ⟨fun k keypair' hk => ?_, ?_⟩
    · by_cases hkid : k = id
      · subst hkid
        rw [AList.lookup_insert] at hk
        cases hk
        exact hid
      · rw [AList.lookup_insert_ne hkid] at hk
        exact hself k keypair' hk
    · rw [Has, hid]
      exact AList.lookup_insert self

end HpkeConfigRegistry

/-! ## Pieces of the handlers -/

/-- The step does not touch the keyring. -/
def TaskProvisioner.SameKeyring (p p' : TaskProvisioner) : Prop := p'.keyring = p.keyring

instance : Std.Refl TaskProvisioner.SameKeyring := ⟨fun _ => rfl⟩

instance : IsTrans TaskProvisioner TaskProvisioner.SameKeyring where
  trans _ _ _ h h' := Eq.trans h' h

namespace Thread

variable {J : Janus} {ω : Ambient} {p p' : TaskProvisioner} {thread thread' : Thread}

theorem sameKeyring_startRoundTask (J : Janus) (ω : Ambient) (request : StartRoundRequest) :
    Within TaskProvisioner.SameKeyring (startRoundTask J ω request) := by
  intro p
  have hprinted : p.Printed (final ((startRoundTask J ω request).run p)) :=
    within_startRoundTask J ω request p
  rw [hprinted]
  rfl

theorem sameKeyring_provisionTask (ω : Ambient) (task : AggregatorTask) :
    Within TaskProvisioner.SameKeyring (provisionTask ω task) := by
  intro p
  cases hrun : (provisionTask ω task).run p with
  | ok _ p' =>
      obtain ⟨datastore, -, rfl⟩ := provisionTask_ok hrun
      rfl
  | error e p' =>
      obtain rfl := provisionTask_error hrun
      rfl

theorem sameKeyring_handleEndSession (id : TrainingSessionId) :
    Within TaskProvisioner.SameKeyring (handleEndSession id) := by
  intro p
  simp only [handleEndSession, EStateM.run_bind, EStateM.run_get]
  split <;> rfl

theorem sameKeyring_startRoundRecord (id : TrainingSessionId) (taskId : TaskId) :
    Within TaskProvisioner.SameKeyring (startRoundRecord id taskId) := by
  refine .modify fun p => ?_
  unfold TaskProvisioner.SameKeyring TaskProvisioner.recordTask
  split <;> rfl

/-- Only the piece that waited for the keyring changes it. -/
theorem sameKeyring_piece (hthread : ∀ request id secrets, thread ≠ .keyring request id secrets) :
    Within TaskProvisioner.SameKeyring (thread.piece J ω) := by
  cases thread with
  | arrived request =>
      cases request with
      | createSession request => exact (within_createSessionStart J ω request).bind fun _ => .pure _
      | endSession id => exact (sameKeyring_handleEndSession id).bind fun _ => .pure _
      | startRound request => exact (sameKeyring_startRoundTask J ω request).bind fun _ => .pure _
      | getVdafParameter request => exact (within_orReturn _).bind fun _ => .pure _
      | getMainLocations => exact .bind .get fun _ => .pure _
  | keyring request id secrets => exact (hthread request id secrets rfl).elim
  | insert request id session => exact fun _ => rfl
  | transaction request taskId task => exact (sameKeyring_provisionTask ω task).bind fun _ => .pure _
  | record request taskId => exact (sameKeyring_startRoundRecord _ taskId).bind fun _ => .pure _
  | lookup request taskId => exact (within_lookupVdafParameter taskId).bind fun _ => .pure _
  | answered request answer => exact .pure _
  | dropped request => exact .pure _

theorem resume_sameKeyring (hthread : ∀ request id secrets, thread ≠ .keyring request id secrets)
    (h : thread.resume J ω p = (thread', p')) : p'.keyring = p.keyring := by
  have hpiece := sameKeyring_piece (J := J) (ω := ω) hthread p
  unfold resume at h
  split at h <;> rename_i hrun <;> cases h <;> rw [hrun] at hpiece <;> exact hpiece

/-- What the piece that waited for the keyring does. -/
theorem resume_keyring {request : CreateTrainingSessionRequest} {id : TrainingSessionId}
    {secrets : SessionSecrets} (h : (keyring request id secrets).resume J ω p = (thread', p')) :
    (∃ keypair, p.keyring.fetchKeypair J ω.keypairSeed ω.keypairId = .ok (keypair, p'.keyring) ∧
      p.SameTables p' ∧ thread' = .insert request id (request.session secrets keypair)) ∨
    p' = p ∧ ∃ failure, thread' = .answered (.createSession request) (.error failure) := by
  unfold resume at h
  split at h
  · rename_i hrun
    cases h
    obtain ⟨session, p₁, hkey, hret⟩ := run_bind_ok.mp hrun
    cases hret
    simp only [createSessionKeypair, run_bind_ok, EStateM.run_get, run_lift_ok, EStateM.run_set,
      run_println, EStateM.run_pure] at hkey
    obtain ⟨_, _, hget, ⟨keypair, registry⟩, _, ⟨hfetch, rfl⟩, _, _, hset, _, _, hprint, hret⟩ := hkey
    cases hget; cases hset; cases hprint; cases hret
    exact .inl ⟨keypair, hfetch, ⟨rfl, rfl, rfl⟩, rfl⟩
  · rename_i failure _ hrun
    cases h
    rcases run_bind_error.mp hrun with hkey | ⟨_, _, -, hret⟩
    · exact .inr ⟨createSessionKeypair_error hkey, failure, rfl⟩
    · cases hret

end Thread

/-! ## Runs without a restart -/

/-- The task has one key pair, which is in the keyring. -/
def AggregatorTask.Keyed (keyring : HpkeConfigRegistry) (task : AggregatorTask) : Prop :=
  ∃ keypair, task.hpkeKeys = [keypair] ∧ keyring.Has keypair

/-- What is known of the key pairs at an await point. -/
def Thread.Keyed (keyring : HpkeConfigRegistry) : Thread → Prop
  | .insert _ _ session => keyring.Has session.hpkeConfigAndKey
  | .transaction _ _ task => task.Keyed keyring
  | _ => True

/-- Since the datastore was `stored`, all key pairs come from the keyring. -/
structure TaskProvisioner.Keyed (stored : Datastore) (p : TaskProvisioner) : Prop where
  indexed : p.keyring.Indexed
  sessions : ∀ id s, p.trainingSessions.lookup id = some s → p.keyring.Has s.hpkeConfigAndKey
  tasks : ∀ taskId task, p.datastore.lookup taskId = some task →
    stored.lookup taskId = some task ∨ task.Keyed p.keyring

theorem TaskProvisioner.new_keyed (stored : Datastore) (config : TaskProvisionerConfig) :
    (TaskProvisioner.new stored config).Keyed stored where
  indexed := by rintro id keypair ⟨⟩
  sessions := by rintro id s ⟨⟩
  tasks _ _ h := .inl h

section
variable {J : Janus} {ω : Ambient} {stored : Datastore} {p p' : TaskProvisioner}
  {thread thread' : Thread} {keyring keyring' : HpkeConfigRegistry}

theorem AggregatorTask.Keyed.extends {task : AggregatorTask} (h : task.Keyed keyring)
    (hextends : keyring.Extends keyring') : task.Keyed keyring' := by
  obtain ⟨keypair, hkeys, hhas⟩ := h
  exact ⟨keypair, hkeys, hhas.extends hextends⟩

theorem Thread.Keyed.extends (h : thread.Keyed keyring) (hextends : keyring.Extends keyring') :
    thread.Keyed keyring' := by
  cases thread with
  | insert request id session => exact HpkeConfigRegistry.Has.extends h hextends
  | transaction request taskId task => exact AggregatorTask.Keyed.extends h hextends
  | _ => trivial

theorem TrainingSession.Builds.keyed (hJ : J.Faithful) {s : TrainingSession}
    {config : TaskProvisionerConfig} {taskId : TaskId} {task : AggregatorTask}
    (h : s.Builds J config taskId task) (hs : keyring.Has s.hpkeConfigAndKey) :
    task.Keyed keyring := by
  obtain ⟨params, -, heq⟩ := h.eq hJ
  exact ⟨s.hpkeConfigAndKey, by rw [heq]; rfl, hs⟩

namespace TaskProvisioner.Keyed

/-- The keyring may grow while the tables stay as they are. -/
theorem of_sameTables (hp : p.Keyed stored) (hsame : p.SameTables p')
    (hextends : p.keyring.Extends p'.keyring) (hindexed : p'.keyring.Indexed) :
    p'.Keyed stored where
  indexed := hindexed
  sessions id s h := by
    rw [hsame.trainingSessions] at h
    exact (hp.sessions id s h).extends hextends
  tasks taskId task h := by
    rw [hsame.datastore] at h
    exact (hp.tasks taskId task h).imp_right fun htask => htask.extends hextends

theorem withSessions (hp : p.Keyed stored) {sessions : TrainingSessions}
    (h : ∀ id s, sessions.lookup id = some s → p.keyring.Has s.hpkeConfigAndKey) :
    ({ p with trainingSessions := sessions } : TaskProvisioner).Keyed stored :=
  ⟨hp.indexed, h, hp.tasks⟩

theorem insert (hp : p.Keyed stored) (id : TrainingSessionId) {s : TrainingSession}
    (hs : p.keyring.Has s.hpkeConfigAndKey) :
    ({ p with trainingSessions := p.trainingSessions.insert id s } : TaskProvisioner).Keyed
      stored := by
  refine hp.withSessions fun k t hk => ?_
  by_cases hkid : k = id
  · subst hkid
    rw [AList.lookup_insert] at hk
    cases hk
    exact hs
  · rw [AList.lookup_insert_ne hkid] at hk
    exact hp.sessions k t hk

theorem record (hp : p.Keyed stored) (id : TrainingSessionId) (taskId : TaskId) :
    (p.recordTask id taskId).Keyed stored := by
  unfold TaskProvisioner.recordTask
  split
  · rename_i s hlive
    exact hp.insert id (hp.sessions id s hlive)
  · exact hp

theorem post (hp : p.Keyed stored) {task : AggregatorTask} {datastore : Datastore}
    (hpost : postTask task p.datastore = .ok datastore) (htask : task.Keyed p.keyring) :
    ({ p with datastore := datastore } : TaskProvisioner).Keyed stored := by
  rcases postTask_ok hpost with ⟨rfl, -⟩ | ⟨rfl, -⟩
  · exact hp
  · refine ⟨hp.indexed, hp.sessions, fun k t hk => ?_⟩
    by_cases hkid : k = task.id
    · subst hkid
      rw [AList.lookup_insert] at hk
      cases hk
      exact .inr htask
    · rw [AList.lookup_insert_ne hkid] at hk
      exact hp.tasks k t hk

end TaskProvisioner.Keyed

/-- A piece of a handler only adds to the keyring, and takes its key pairs from there. -/
theorem resume_keyed (hJ : J.Faithful) (hids : J.KeepsKeyIds) (hp : p.Keyed stored)
    (hthread : thread.Keyed p.keyring) (hrunning : thread.finished = false)
    (h : thread.resume J ω p = (thread', p')) :
    p.keyring.Extends p'.keyring ∧ p'.Keyed stored ∧ thread'.Keyed p'.keyring := by
  by_cases hkeyring : ∃ request id secrets, thread = .keyring request id secrets
  · obtain ⟨request, id, secrets, rfl⟩ := hkeyring
    rcases Thread.resume_keyring h with ⟨keypair, hfetch, hsame, rfl⟩ | ⟨rfl, failure, rfl⟩
    · obtain ⟨hextends, hindexed, hhas⟩ :=
        HpkeConfigRegistry.fetchKeypair_spec hids hfetch hp.indexed
      exact ⟨hextends, hp.of_sameTables hsame hextends hindexed, hhas⟩
    · exact ⟨.refl _, hp, trivial⟩
  · push Not at hkeyring
    have hsame : p'.keyring = p.keyring := Thread.resume_sameKeyring hkeyring h
    have hextends : p.keyring.Extends p'.keyring := by rw [hsame]
    have htables : p.SameTables p' → p'.Keyed stored := fun htables =>
      hp.of_sameTables htables hextends (hsame ▸ hp.indexed)
    refine ⟨hextends, ?_⟩
    cases Thread.resume_spec hrunning h with
    | chosen => exact ⟨hp, trivial⟩
    | keypair => exact (hkeyring _ _ _ rfl).elim
    | inserted => exact ⟨hp.insert _ hthread, trivial⟩
    | built hlive _ hbuilds htable =>
        exact ⟨htables htable, (hbuilds.keyed hJ (hp.sessions _ _ hlive)).extends hextends⟩
    | provisioned hpost => exact ⟨hp.post hpost hthread, trivial⟩
    | recorded => exact ⟨hp.record _ _, trivial⟩
    | @ended id _ _ hdatastore _ hsessions =>
        refine ⟨⟨hsame ▸ hp.indexed, fun k t hk => ?_, fun k t hk => ?_⟩, trivial⟩
        · rw [hsessions] at hk
          by_cases hkid : k = id
          · rw [hkid, AList.lookup_erase] at hk
            cases hk
          · rw [AList.lookup_erase_ne hkid] at hk
            rw [hsame]
            exact hp.sessions k t hk
        · rw [hdatastore] at hk
          exact (hp.tasks k t hk).imp_right fun htask => htask.extends hextends
    | decoded => exact ⟨hp, trivial⟩
    | found => exact ⟨hp, trivial⟩
    | located => exact ⟨hp, trivial⟩
    | failed htable => exact ⟨htables htable, trivial⟩

end

/-! ## Whole runs -/

namespace Manager

structure Keyed (stored : Datastore) (m : Manager) : Prop where
  provisioner : m.provisioner.Keyed stored
  threads : ∀ (i : Nat) (thread : Thread), m.threads[i]? = some thread →
    thread.Keyed m.provisioner.keyring

variable {J : Janus} {stored : Datastore} {m m' : Manager}

/-- A step that is no restart only adds to the keyring and keeps the invariant. -/
theorem Keyed.step (hJ : J.Faithful) (hids : J.KeepsKeyIds) (hm : m.Keyed stored) {a : Action}
    (hrestart : a ≠ .restart) (h : m.step J a = some m') :
    m'.Keyed stored ∧ m.provisioner.keyring.Extends m'.provisioner.keyring := by
  cases a with
  | send request =>
      cases h
      refine ⟨⟨hm.provisioner, fun i thread hi => ?_⟩, .refl _⟩
      rcases getElem?_send hi with hi | ⟨-, rfl⟩
      · exact hm.threads i thread hi
      · trivial
  | resume k ω =>
      obtain ⟨thread, hget, hrunning, -, rfl⟩ := step_resume_eq h
      obtain ⟨hextends, hp, hthread⟩ :=
        resume_keyed hJ hids hm.provisioner (hm.threads k thread hget) hrunning rfl
      refine ⟨⟨hp, fun i t hi => ?_⟩, hextends⟩
      rcases getElem?_set hi with ⟨-, rfl⟩ | ⟨-, hi⟩
      · exact hthread
      · exact (hm.threads i t hi).extends hextends
  | drop k =>
      obtain ⟨thread, hget, rfl⟩ := step_drop h
      refine ⟨⟨hm.provisioner, fun i t hi => ?_⟩, .refl _⟩
      rcases getElem?_set hi with ⟨-, rfl⟩ | ⟨-, hi⟩
      · rcases dropThread_cases thread with heq | heq
        · rw [heq]
          exact hm.threads k thread hget
        · rw [heq]
          trivial
      · exact hm.threads i t hi
  | restart => exact (hrestart rfl).elim

theorem Keyed.run (hJ : J.Faithful) (hids : J.KeepsKeyIds) (hm : m.Keyed stored)
    {as : List Action} (hrestart : .restart ∉ as) (hrun : Run.after (Manager.step J) m as = some m') :
    m'.Keyed stored ∧ m.provisioner.keyring.Extends m'.provisioner.keyring := by
  induction as generalizing m with
  | nil =>
      cases hrun
      exact ⟨hm, .refl _⟩
  | cons a as ih =>
      obtain ⟨m₁, h₁, hrest⟩ := Run.after_cons_eq_some.mp hrun
      rw [List.mem_cons, not_or] at hrestart
      obtain ⟨hm₁, hextends⟩ := hm.step hJ hids (Ne.symm hrestart.1) h₁
      obtain ⟨hm', hextends'⟩ := ih hm₁ hrestart.2 hrest
      exact ⟨hm', hextends.trans hextends'⟩

/-- In every run of a manager between two restarts, with any interleaving: the keyring
has at most one pair for each of the 256 ids and never gives one up or replaces it;
each live session and each task that was stored in the run has its key pair from
there; so two of them that announce the same id can decrypt the same reports. -/
theorem keyring_stable (hJ : J.Faithful) (hids : J.KeepsKeyIds) (stored : Datastore)
    (config : TaskProvisionerConfig) (as bs : List Action) (hrestart : .restart ∉ as ++ bs)
    (hrun : Run.after (step J) (.new stored config) as = some m)
    (hrest : Run.after (step J) m bs = some m') :
    m.provisioner.keyring.entries.length ≤ 256 ∧
    (∀ id keypair, m.provisioner.keyring.lookup id = some keypair →
      keypair.config.id = id ∧ m'.provisioner.keyring.lookup id = some keypair) ∧
    (∀ id s, m.provisioner.trainingSessions.lookup id = some s →
      m.provisioner.keyring.Has s.hpkeConfigAndKey) ∧
    (∀ taskId task, m.provisioner.datastore.lookup taskId = some task →
      stored.lookup taskId = none → task.Keyed m.provisioner.keyring) ∧
    ∀ taskId task id s, m'.provisioner.datastore.lookup taskId = some task →
      stored.lookup taskId = none → m.provisioner.trainingSessions.lookup id = some s →
      ∀ keypair ∈ task.hpkeKeys, keypair.config.id = s.hpkeConfigAndKey.config.id →
        keypair = s.hpkeConfigAndKey := by
  rw [List.mem_append, not_or] at hrestart
  have hnew : (Manager.new stored config).Keyed stored :=
    ⟨TaskProvisioner.new_keyed stored config, by rintro i thread ⟨⟩⟩
  obtain ⟨hm, -⟩ := hnew.run hJ hids hrestart.1 hrun
  obtain ⟨hm', hextends⟩ := hm.run hJ hids hrestart.2 hrest
  refine ⟨HpkeConfigRegistry.length_le _, fun id keypair h => ?_, hm.provisioner.sessions, ?_, ?_⟩
  · exact ⟨hm.provisioner.indexed id keypair h, hextends id keypair h⟩
  · intro taskId task h hnone
    exact (hm.provisioner.tasks taskId task h).resolve_left (by rw [hnone]; exact nofun)
  · intro taskId task id s h hnone hlive keypair hmem hid
    obtain ⟨keypair', hkeys, hhas⟩ :=
      (hm'.provisioner.tasks taskId task h).resolve_left (by rw [hnone]; exact nofun)
    obtain rfl : keypair = keypair' := by simpa [hkeys] using hmem
    exact hhas.eq ((hm.provisioner.sessions id s hlive).extends hextends) hid

end Manager

namespace Sample

/-- The session 5 is created, and a round is started in it. -/
def sessionWithRound : List Manager.Action :=
  [.send (.createSession (createRequest (some ⟨5⟩) [1])), .resume 0 (ambient 0),
   .resume 0 (ambient 0), .resume 0 (ambient 0),
   .send (.startRound (startRequest ⟨5⟩ (taskId 1))), .resume 1 (ambient 0), .resume 1 (ambient 0),
   .resume 1 (ambient 0)]

end Sample

theorem Manager.keyring_stable_sample :
    ∃ m task, Run.after (step .plain) (.new ∅ Sample.config) Sample.sessionWithRound = some m ∧
      m.provisioner.datastore.lookup (Sample.taskId 1) = some task ∧
      task.Keyed m.provisioner.keyring := by
  have hruns : ((Run.after (step .plain) (.new ∅ Sample.config) Sample.sessionWithRound).bind
      fun m => m.provisioner.datastore.lookup (Sample.taskId 1)).isSome = true := by
    decide +kernel
  obtain ⟨task, htask⟩ := Option.isSome_iff_exists.mp hruns
  obtain ⟨m, hrun, htask⟩ := Option.bind_eq_some_iff.mp htask
  exact ⟨m, task, hrun, htask, (keyring_stable Janus.plain_faithful Janus.plain_keepsKeyIds ∅
    Sample.config Sample.sessionWithRound [] (by simp [Sample.sessionWithRound]) hrun rfl).2.2.2.1
    _ _ htask rfl⟩
