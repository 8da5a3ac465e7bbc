-- SUMMARY: The part of a manager that belongs to one tenant, and that the handlers of its requests read nothing else.
import Dpsa4fl.JanusManager.Alike
import Dpsa4fl.JanusManager.Keyring
import Dpsa4fl.JanusManager.Rounds

/-!
# Tenants

Several controllers share the managers, each with session ids and task ids of its
own. What the handlers of one of them do depends on nothing that the others put into
the sessions and the datastore. The keyring is the one table that all of them share,
and it can be told apart only by the randomness of a key pair.
-/

open Handler Relational

/-- The session ids and the task ids of a tenant. -/
structure Tenant where
  ids : TrainingSessionId → Bool
  tasks : TaskId → Bool

/-- An id of the tenant is none of the others. -/
theorem Tenant.ne_of_ids (τ : Tenant) {id id' : TrainingSessionId} (hid : τ.ids id = true)
    (hid' : τ.ids id' = false) : id ≠ id' := by
  rintro rfl
  rw [hid] at hid'
  cases hid'

/-- The request is one of the tenant (`own`), or it is one of the others. Everyone may
ask for the parameters of a task of the others. -/
def Request.belongs (τ : Tenant) (own : Bool) : Request → Bool
  | .createSession request => request.trainingSessionId.all fun id => τ.ids id == own
  | .endSession id => τ.ids id == own
  | .startRound request => τ.ids request.trainingSessionId == own &&
    (taskIdFromString request.taskIdEncoded).toOption.all fun t => τ.tasks t == own
  | .getVdafParameter request => !own ||
    (taskIdFromString request.taskIdEncoded).toOption.all τ.tasks
  | .getMainLocations => true

/-- The ids that a thread has chosen or decoded are those of the tenant, or of the others. -/
def Thread.Within (τ : Tenant) (own : Bool) : Thread → Prop
  | keyring _ id _ => τ.ids id = own
  | insert _ id session => τ.ids id = own ∧ ∀ t ∈ session.tasks, τ.tasks t = own
  | transaction _ taskId task => τ.tasks taskId = own ∧ τ.tasks task.id = own
  | record _ taskId => τ.tasks taskId = own
  | lookup _ taskId => own = true → τ.tasks taskId = true
  | answered _ (.ok (.createSession id)) => τ.ids id = own
  | _ => True

structure Thread.Belongs (τ : Tenant) (own : Bool) (thread : Thread) : Prop where
  request : thread.request.belongs τ own = true
  within : thread.Within τ own

/-- Every pair in the registry was generated. -/
def HpkeConfigRegistry.Generated (J : Janus) (self : HpkeConfigRegistry) : Prop :=
  ∀ id keypair, self.lookup id = some keypair → ∃ seed, J.generateHpkeConfigAndPrivateKey id
    HpkeKemId.x25519HkdfSha256 HpkeKdfId.hkdfSha256 HpkeAeadId.aes128Gcm seed = .ok keypair

/-- `q` has what `p` has of the tenant, and nothing of the others. -/
structure TaskProvisioner.Shares (J : Janus) (τ : Tenant) (p q : TaskProvisioner) : Prop where
  config : q.config = p.config
  sessions : ∀ id, τ.ids id = true → q.trainingSessions.lookup id = p.trainingSessions.lookup id
  alone : ∀ id s, q.trainingSessions.lookup id = some s → τ.ids id = true
  others : ∀ id s, τ.ids id = false → p.trainingSessions.lookup id = some s →
    ∀ t ∈ s.tasks, τ.tasks t = false
  datastore : ∀ t, τ.tasks t = true → q.datastore.lookup t = p.datastore.lookup t
  keyring : q.keyring.Extends p.keyring
  generated : p.keyring.Generated J

section
variable {J : Janus} {τ : Tenant} {p q : TaskProvisioner}

/-! ## The keyring -/

namespace HpkeConfigRegistry

theorem Generated.fetchKeypair {seed : List UInt8} {self self' : HpkeConfigRegistry} {id : UInt8}
    {keypair : HpkeKeypair} (hself : self.Generated J)
    (h : self.fetchKeypair J seed id = .ok (keypair, self')) : self'.Generated J := by
  rcases fetchKeypair_cases h with ⟨-, rfl⟩ | ⟨-, rfl, hgenerate⟩
  · exact hself
  · intro k keypair' hk
    by_cases hkid : k = id
    · subst hkid
      rw [AList.lookup_insert] at hk
      cases hk
      exact ⟨seed, hgenerate⟩
    · rw [AList.lookup_insert_ne hkid] at hk
      exact hself k keypair' hk

/-- With some randomness, the smaller registry gives the same pair as the larger one. -/
theorem Generated.reseed {self self₀ : HpkeConfigRegistry} (hself : self.Generated J)
    (hextends : self₀.Extends self) (seed : List UInt8) (id : UInt8) :
    ∃ seed₀, (∃ keypair self' self₀', self.fetchKeypair J seed id = .ok (keypair, self') ∧
        self₀.fetchKeypair J seed₀ id = .ok (keypair, self₀') ∧ self₀'.Extends self') ∨
      ∃ failure, self.fetchKeypair J seed id = .error failure ∧
        self₀.fetchKeypair J seed₀ id = .error failure := by
  cases hlookup : self.lookup id with
  | some keypair =>
      have hfetch : self.fetchKeypair J seed id = .ok (keypair, self) := by
        rw [HpkeConfigRegistry.fetchKeypair, hlookup]
      obtain ⟨seed₀, hgenerate⟩ := hself id keypair hlookup
      refine ⟨seed₀, .inl ?_⟩
      cases hlookup₀ : self₀.lookup id with
      | some keypair₀ =>
          obtain rfl := Option.some.inj ((hextends id keypair₀ hlookup₀).symm.trans hlookup)
          exact ⟨keypair₀, self, self₀, hfetch, by rw [HpkeConfigRegistry.fetchKeypair, hlookup₀],
            hextends⟩
      | none =>
          refine ⟨keypair, self, self₀.insert id keypair, hfetch, ?_, fun k keypair' hk => ?_⟩
          · rw [HpkeConfigRegistry.fetchKeypair, hlookup₀]
            simp only [hgenerate]
          · by_cases hkid : k = id
            · subst hkid
              rw [AList.lookup_insert] at hk
              cases hk
              exact hlookup
            · rw [AList.lookup_insert_ne hkid] at hk
              exact hextends k keypair' hk
  | none =>
      have hlookup₀ : self₀.lookup id = none := by
        cases h₀ : self₀.lookup id with
        | none => rfl
        | some keypair => cases hlookup.symm.trans (hextends id keypair h₀)
      refine ⟨seed, ?_⟩
      simp only [HpkeConfigRegistry.fetchKeypair, hlookup, hlookup₀]
      cases hgenerate : J.generateHpkeConfigAndPrivateKey id HpkeKemId.x25519HkdfSha256
          HpkeKdfId.hkdfSha256 HpkeAeadId.aes128Gcm seed with
      | error e => exact .inr ⟨_, rfl, rfl⟩
      | ok keypair =>
          refine .inl ⟨keypair, _, _, rfl, rfl, fun k keypair' hk => ?_⟩
          by_cases hkid : k = id
          · subst hkid
            rw [AList.lookup_insert] at hk ⊢
            exact hk
          · rw [AList.lookup_insert_ne hkid] at hk ⊢
            exact hextends k keypair' hk

end HpkeConfigRegistry

/-! ## Sessions and tasks -/

namespace TaskProvisioner.Shares

theorem insert (h : p.Shares J τ q) {id : TrainingSessionId} (hid : τ.ids id = true)
    (s : TrainingSession) :
    Shares J τ { p with trainingSessions := p.trainingSessions.insert id s }
      { q with trainingSessions := q.trainingSessions.insert id s } where
  config := h.config
  sessions k hk := by
    rcases eq_or_ne k id with rfl | hne
    · rw [AList.lookup_insert, AList.lookup_insert]
    · rw [AList.lookup_insert_ne hne, AList.lookup_insert_ne hne]
      exact h.sessions k hk
  alone k t hk := by
    rcases eq_or_ne k id with rfl | hne
    · exact hid
    · rw [AList.lookup_insert_ne hne] at hk
      exact h.alone k t hk
  others k t hk hlive := by
    rw [AList.lookup_insert_ne (τ.ne_of_ids hid hk).symm] at hlive
    exact h.others k t hk hlive
  datastore := h.datastore
  keyring := h.keyring
  generated := h.generated

theorem erase (h : p.Shares J τ q) (id : TrainingSessionId) :
    Shares J τ { p with trainingSessions := p.trainingSessions.erase id }
      { q with trainingSessions := q.trainingSessions.erase id } where
  config := h.config
  sessions k hk := by
    rcases eq_or_ne k id with rfl | hne
    · rw [AList.lookup_erase, AList.lookup_erase]
    · rw [AList.lookup_erase_ne hne, AList.lookup_erase_ne hne]
      exact h.sessions k hk
  alone k t hk := by
    rcases eq_or_ne k id with rfl | hne
    · rw [AList.lookup_erase] at hk
      cases hk
    · rw [AList.lookup_erase_ne hne] at hk
      exact h.alone k t hk
  others k t hk hlive := by
    rcases eq_or_ne k id with rfl | hne
    · rw [AList.lookup_erase] at hlive
      cases hlive
    · rw [AList.lookup_erase_ne hne] at hlive
      exact h.others k t hk hlive
  datastore := h.datastore
  keyring := h.keyring
  generated := h.generated

theorem recordTask (h : p.Shares J τ q) {id : TrainingSessionId} (hid : τ.ids id = true)
    (taskId : TaskId) : Shares J τ (p.recordTask id taskId) (q.recordTask id taskId) := by
  unfold TaskProvisioner.recordTask
  rw [h.sessions id hid]
  split
  · exact h.insert hid _
  · exact h

/-- A session of the others is inserted. -/
theorem insert_others (h : p.Shares J τ q) {id : TrainingSessionId} (hid : τ.ids id = false)
    {s : TrainingSession} (htasks : ∀ t ∈ s.tasks, τ.tasks t = false) :
    Shares J τ { p with trainingSessions := p.trainingSessions.insert id s } q where
  config := h.config
  sessions k hk := by
    rw [AList.lookup_insert_ne (τ.ne_of_ids hk hid)]
    exact h.sessions k hk
  alone := h.alone
  others k t hk hlive := by
    rcases eq_or_ne k id with rfl | hne
    · rw [AList.lookup_insert] at hlive
      cases hlive
      exact htasks
    · rw [AList.lookup_insert_ne hne] at hlive
      exact h.others k t hk hlive
  datastore := h.datastore
  keyring := h.keyring
  generated := h.generated

/-- A session of the others is ended. -/
theorem erase_others (h : p.Shares J τ q) {id : TrainingSessionId} (hid : τ.ids id = false) :
    Shares J τ { p with trainingSessions := p.trainingSessions.erase id } q where
  config := h.config
  sessions k hk := by
    rw [AList.lookup_erase_ne (τ.ne_of_ids hk hid)]
    exact h.sessions k hk
  alone := h.alone
  others k t hk hlive := by
    rcases eq_or_ne k id with rfl | hne
    · rw [AList.lookup_erase] at hlive
      cases hlive
    · rw [AList.lookup_erase_ne hne] at hlive
      exact h.others k t hk hlive
  datastore := h.datastore
  keyring := h.keyring
  generated := h.generated

theorem recordTask_others (h : p.Shares J τ q) {id : TrainingSessionId} (hid : τ.ids id = false)
    {taskId : TaskId} (htask : τ.tasks taskId = false) : (p.recordTask id taskId).Shares J τ q := by
  unfold TaskProvisioner.recordTask
  split
  · rename_i s hs
    refine h.insert_others hid fun t ht => ?_
    rcases List.mem_append.mp ht with ht | ht
    · exact h.others id s hid hs t ht
    · obtain rfl := List.mem_singleton.mp ht
      exact htask
  · exact h

/-- A task of the others is stored. -/
theorem post_others (h : p.Shares J τ q) {task : AggregatorTask} (htask : τ.tasks task.id = false)
    {ds : Datastore} (hpost : postTask task p.datastore = .ok ds) :
    Shares J τ { p with datastore := ds } q where
  config := h.config
  sessions := h.sessions
  alone := h.alone
  others := h.others
  datastore t ht := by
    rcases postTask_ok hpost with ⟨rfl, -⟩ | ⟨rfl, -⟩
    · exact h.datastore t ht
    · rw [AList.lookup_insert_ne]
      · exact h.datastore t ht
      · rintro rfl
        rw [htask] at ht
        cases ht
  keyring := h.keyring
  generated := h.generated

/-- The keyring may get new pairs. -/
theorem of_sameTables {p' : TaskProvisioner} (h : p.Shares J τ q) (hsame : p.SameTables p')
    (hextends : p.keyring.Extends p'.keyring) (hgenerated : p'.keyring.Generated J) :
    p'.Shares J τ q where
  config := h.config.trans hsame.config.symm
  sessions id hid := by
    rw [hsame.trainingSessions]
    exact h.sessions id hid
  alone := h.alone
  others := by
    rw [hsame.trainingSessions]
    exact h.others
  datastore := by
    rw [hsame.datastore]
    exact h.datastore
  keyring := h.keyring.trans hextends
  generated := hgenerated

theorem restart (h : p.Shares J τ q) :
    Shares J τ { p with trainingSessions := ∅, keyring := ∅ }
      { q with trainingSessions := ∅, keyring := ∅ } where
  config := h.config
  sessions _ _ := rfl
  alone := by rintro id s ⟨⟩
  others := by rintro id s - ⟨⟩
  datastore := h.datastore
  keyring := .refl _
  generated := by rintro id keypair ⟨⟩

/-- A transaction for a task of the tenant goes through in both states or in neither. -/
theorem post (h : p.Shares J τ q) {task : AggregatorTask} (htask : τ.tasks task.id = true) :
    (∃ ds ds₀, postTask task p.datastore = .ok ds ∧ postTask task q.datastore = .ok ds₀ ∧
        ∀ t, τ.tasks t = true → ds₀.lookup t = ds.lookup t) ∨
      ∃ e, postTask task p.datastore = .error e ∧ postTask task q.datastore = .error e := by
  unfold postTask
  rw [h.datastore task.id htask]
  split
  · split
    · exact .inl ⟨_, _, rfl, rfl, h.datastore⟩
    · exact .inr ⟨_, rfl, rfl⟩
  · refine .inl ⟨_, _, rfl, rfl, fun t ht => ?_⟩
    rcases eq_or_ne t task.id with rfl | hne
    · rw [AList.lookup_insert, AList.lookup_insert]
    · rw [AList.lookup_insert_ne hne, AList.lookup_insert_ne hne]
      exact h.datastore t ht

/-- Whatever the tenant asks about its tasks, the sessions that list them are its own. -/
theorem lists_iff (h : p.Shares J τ q) {id : TrainingSessionId} {s : TrainingSession} {t : TaskId}
    (ht : τ.tasks t = true) :
    (q.trainingSessions.lookup id = some s ∧ t ∈ s.tasks) ↔
      p.trainingSessions.lookup id = some s ∧ t ∈ s.tasks := by
  constructor
  · rintro ⟨hs, hmem⟩
    rw [h.sessions id (h.alone id s hs)] at hs
    exact ⟨hs, hmem⟩
  · rintro ⟨hs, hmem⟩
    cases hid : τ.ids id with
    | true =>
        rw [← h.sessions id hid] at hs
        exact ⟨hs, hmem⟩
    | false =>
        rw [h.others id s hid hs t hmem] at ht
        cases ht

end TaskProvisioner.Shares

/-! ## The pieces of the tenant's handlers -/

namespace Handler

theorem shares_lift {α : Type} (r : Except Failure α) :
    Relates (TaskProvisioner.Shares J τ) Eq (lift r) (lift r) := by
  cases r with
  | ok a => exact .pure rfl
  | error e => exact .throw e

theorem shares_orReturn {α : Type} (r : Except Error α) :
    Relates (TaskProvisioner.Shares J τ) Eq (orReturn r) (orReturn r) := shares_lift _

theorem shares_println (line : String) :
    Relates (TaskProvisioner.Shares J τ) Eq (println line) (println line) :=
  .modify fun _ _ h =>
    ⟨h.config, h.sessions, h.alone, h.others, h.datastore, h.keyring, h.generated⟩

end Handler

theorem shares_createSessionStart (ω : Ambient) {request : CreateTrainingSessionRequest}
    (hrequest : (Request.createSession request).belongs τ true = true) :
    Relates (TaskProvisioner.Shares J τ) Eq (createSessionStart J ω request)
      (createSessionStart J ω request) := by
  refine .bind (V := Eq) ?_ ?_
  · unfold createSessionId
    split
    · rename_i id hid
      simp only [Request.belongs, hid, Option.all_some, beq_iff_eq] at hrequest
      refine .get_bind fun p q h => ?_
      rw [h.sessions id hrequest]
      split
      · exact .throw _
      · exact .pure rfl
    · exact .pure rfl
  · rintro id _ rfl
    refine .bind (shares_orReturn _) ?_
    rintro secrets _ rfl
    exact .pure rfl

theorem shares_startRoundTask (ω : Ambient) {request : StartRoundRequest}
    (hid : τ.ids request.trainingSessionId = true) :
    Relates (TaskProvisioner.Shares J τ) Eq (startRoundTask J ω request)
      (startRoundTask J ω request) := by
  refine .get_bind fun p q h => ?_
  rw [h.sessions _ hid, h.config]
  split
  · exact .throw _
  · refine .bind (shares_orReturn _) ?_
    rintro taskId _ rfl
    refine .bind (shares_orReturn _) fun _ _ _ => ?_
    refine .bind (shares_lift _) ?_
    rintro params _ rfl
    refine .bind (shares_println _) fun _ _ _ => ?_
    refine .bind (shares_orReturn _) ?_
    rintro task _ rfl
    refine .bind (shares_println _) fun _ _ _ => ?_
    exact .pure rfl

theorem shares_provisionTask (ω : Ambient) {task : AggregatorTask}
    (htask : τ.tasks task.id = true) :
    Relates (TaskProvisioner.Shares J τ) Eq (provisionTask ω task) (provisionTask ω task) := by
  refine .get_bind fun p q h => ?_
  refine .bind (V := fun ds ds₀ => ∀ t, τ.tasks t = true → ds₀.lookup t = ds.lookup t) ?_ ?_
  · unfold Datastore.runTx
    cases ω.transaction with
    | error e => exact .throw _
    | ok _ =>
        rcases h.post htask with ⟨ds, ds₀, hds, hds₀, hsame⟩ | ⟨e, he, he₀⟩
        · change Relates _ _ (orReturn ((postTask task p.datastore).mapError _))
            (orReturn ((postTask task q.datastore).mapError _))
          rw [hds, hds₀]
          exact .pure hsame
        · change Relates _ _ (orReturn ((postTask task p.datastore).mapError _))
            (orReturn ((postTask task q.datastore).mapError _))
          rw [he, he₀]
          exact .throw _
  · intro ds ds₀ hsame
    exact .set ⟨h.config, h.sessions, h.alone, h.others, hsame, h.keyring, h.generated⟩

theorem shares_handleEndSession {id : TrainingSessionId} (hid : τ.ids id = true) :
    Relates (TaskProvisioner.Shares J τ) Eq (handleEndSession id) (handleEndSession id) := by
  refine .get_bind fun p q h => ?_
  rw [h.sessions id hid]
  split
  · exact .bind (.set (h.erase id)) fun _ _ _ => shares_println _
  · exact .bind (shares_println _) fun _ _ _ => .throw _

theorem shares_lookupVdafParameter {taskId : TaskId} (htask : τ.tasks taskId = true) :
    Relates (TaskProvisioner.Shares J τ) Eq (lookupVdafParameter taskId)
      (lookupVdafParameter taskId) := by
  intro p q h
  have hlists : ∀ {id s}, (q.trainingSessions.lookup id = some s ∧ taskId ∈ s.tasks) ↔
      p.trainingSessions.lookup id = some s ∧ taskId ∈ s.tasks := h.lists_iff htask
  have hp := lookupVdafParameter_finds p taskId
  have hq := lookupVdafParameter_finds q taskId
  generalize (lookupVdafParameter taskId).run p = rp, (lookupVdafParameter taskId).run q = rq
    at hp hq ⊢
  cases hp with
  | missing hnone =>
      have hnone₀ : ∀ id s, q.trainingSessions.lookup id = some s → taskId ∉ s.tasks :=
        fun id s hs hmem => hnone id s (hlists.mp ⟨hs, hmem⟩).1 hmem
      cases hq with
      | missing => exact .error h
      | found hlive hmem => exact (hnone₀ _ _ hlive hmem).elim
      | multiple _ hlive _ hmem => exact (hnone₀ _ _ hlive hmem).elim
  | found hlive hmem hunique =>
      cases hq with
      | missing hnone => exact (hnone _ _ (hlists.mpr ⟨hlive, hmem⟩).1 hmem).elim
      | found hlive' hmem' =>
          have hlive'' := (hlists.mp ⟨hlive', hmem'⟩).1
          obtain rfl := hunique _ _ hlive'' hmem'
          obtain rfl := Option.some.inj (hlive.symm.trans hlive'')
          exact .ok rfl h
      | multiple hne hlive₁ hlive₂ hmem₁ hmem₂ =>
          have h₁ := hunique _ _ (hlists.mp ⟨hlive₁, hmem₁⟩).1 hmem₁
          have h₂ := hunique _ _ (hlists.mp ⟨hlive₂, hmem₂⟩).1 hmem₂
          exact (hne (h₁.trans h₂.symm)).elim
  | multiple hne hlive₁ hlive₂ hmem₁ hmem₂ =>
      have hlive₁' := (hlists.mpr ⟨hlive₁, hmem₁⟩).1
      have hlive₂' := (hlists.mpr ⟨hlive₂, hmem₂⟩).1
      cases hq with
      | missing hnone => exact (hnone _ _ hlive₁' hmem₁).elim
      | found _ _ hunique =>
          exact (hne ((hunique _ _ hlive₁' hmem₁).trans (hunique _ _ hlive₂' hmem₂).symm)).elim
      | multiple => exact .error h

/-! ## Threads -/

theorem Request.belongs_startRound {own : Bool} {request : StartRoundRequest} :
    (Request.startRound request).belongs τ own = true ↔ τ.ids request.trainingSessionId = own ∧
      ∀ taskId, taskIdFromString request.taskIdEncoded = .ok taskId → τ.tasks taskId = own := by
  rw [belongs, Bool.and_eq_true, beq_iff_eq]
  refine and_congr_right fun _ => ?_
  cases taskIdFromString request.taskIdEncoded with
  | ok t => simp [Except.toOption]
  | error e => simp [Except.toOption]

namespace Thread

variable {ω : Ambient} {own : Bool} {p' : TaskProvisioner} {thread thread' : Thread}

/-- A thread stays with its tenant, if the id that it draws does. -/
theorem Belongs.resume (hJ : J.Faithful) (h : thread.Belongs τ own)
    (hdraw : ∀ request, thread = .arrived (.createSession request) →
      request.trainingSessionId = none → τ.ids ⟨ω.sessionId⟩ = own)
    (hr : thread.Resumes J ω p thread' p') : thread'.Belongs τ own where
  request := by
    rw [hr.request_eq]
    exact h.request
  within := by
    have hrequest := h.request
    cases hr with
    | @chosen request id secrets _ hid =>
        rcases hid with ⟨hsome, -⟩ | ⟨hnone, rfl⟩
        · change τ.ids id = own
          simpa [Thread.request, Request.belongs, hsome] using hrequest
        · exact hdraw request rfl hnone
    | keypair => exact ⟨h.within, by rintro t ⟨⟩⟩
    | inserted => exact h.within.1
    | built hlive hdecode hbuilds =>
        have htask := (Request.belongs_startRound.mp hrequest).2 _ hdecode
        exact ⟨htask, by rw [hbuilds.id_eq hJ]; exact htask⟩
    | provisioned => exact h.within.1
    | decoded hdecode =>
        rintro rfl
        simpa [Thread.request, Request.belongs, hdecode, Except.toOption] using hrequest
    | _ => trivial

/-- A thread of the tenant at any point but the wait for the keyring. -/
theorem shares_piece (ω : Ambient) (hthread : thread.Belongs τ true)
    (hkeyring : ∀ request id secrets, thread ≠ .keyring request id secrets) :
    Relates (TaskProvisioner.Shares J τ) Eq (thread.piece J ω) (thread.piece J ω) := by
  have hrequest := hthread.request
  cases thread with
  | arrived request =>
      cases request with
      | createSession request =>
          refine .bind (shares_createSessionStart ω hrequest) ?_
          rintro ⟨id, secrets⟩ _ rfl
          exact .pure rfl
      | endSession id =>
          exact .bind (shares_handleEndSession (beq_iff_eq.mp hrequest)) fun _ _ _ => .pure rfl
      | startRound request =>
          refine .bind (shares_startRoundTask ω (Request.belongs_startRound.mp hrequest).1) ?_
          rintro ⟨taskId, task⟩ _ rfl
          exact .pure rfl
      | getVdafParameter request =>
          refine .bind (shares_orReturn _) ?_
          rintro taskId _ rfl
          exact .pure rfl
      | getMainLocations => exact .get_bind fun p q h => .pure (by rw [h.config])
  | keyring request id secrets => exact (hkeyring request id secrets rfl).elim
  | insert request id session =>
      refine .bind (V := Eq) ?_ ?_
      · exact .bind (.modify fun p q h => h.insert hthread.within.1 session) fun _ _ _ => .pure rfl
      · rintro id _ rfl
        exact .pure rfl
  | transaction request taskId task =>
      exact .bind (shares_provisionTask ω hthread.within.2) fun _ _ _ => .pure rfl
  | record request taskId =>
      have hid := (Request.belongs_startRound.mp hrequest).1
      exact .bind (.modify fun p q h => h.recordTask hid taskId) fun _ _ _ => .pure rfl
  | lookup request taskId =>
      refine .bind (shares_lookupVdafParameter (hthread.within rfl)) ?_
      rintro vdafParameter _ rfl
      exact .pure rfl
  | answered request answer => exact .pure rfl
  | dropped request => exact .pure rfl

/-- With some randomness for the key pair, a thread of the tenant runs to the same
await point where the tenant is alone. -/
theorem resume_own (ω : Ambient) (hthread : thread.Belongs τ true) (h : p.Shares J τ q) :
    ∃ seed, (thread.resume J { ω with keypairSeed := seed } q).1 = (thread.resume J ω p).1 ∧
      (thread.resume J ω p).2.Shares J τ (thread.resume J { ω with keypairSeed := seed } q).2 := by
  by_cases hkeyring : ∃ request id secrets, thread = .keyring request id secrets
  · obtain ⟨request, id, secrets, rfl⟩ := hkeyring
    obtain ⟨seed, hseed⟩ := h.generated.reseed h.keyring ω.keypairSeed ω.keypairId
    refine ⟨seed, ?_⟩
    rw [resume_of_piece (ω := ω) (f := fun session => Thread.insert request id session) rfl,
      resume_of_piece (ω := { ω with keypairSeed := seed })
        (f := fun session => Thread.insert request id session) rfl]
    simp only [createSessionKeypair, EStateM.run_bind, EStateM.run_get, run_lift]
    rcases hseed with ⟨keypair, registry, registry₀, hfetch, hfetch₀, hextends⟩ | ⟨e, hfetch, hfetch₀⟩
    · rw [hfetch, hfetch₀]
      exact ⟨rfl, h.config, h.sessions, h.alone, h.others, h.datastore, hextends,
        h.generated.fetchKeypair hfetch⟩
    · rw [hfetch, hfetch₀]
      exact ⟨rfl, h⟩
  · push Not at hkeyring
    refine ⟨ω.keypairSeed, ?_⟩
    have hresults := shares_piece ω hthread hkeyring p q h
    unfold resume
    generalize (thread.piece J ω).run p = rp, (thread.piece J ω).run q = rq at hresults ⊢
    cases hresults with
    | ok heq hR => exact ⟨heq.symm, hR⟩
    | error hR => exact ⟨rfl, hR⟩

/-- A thread of the others leaves what belongs to the tenant as it is. -/
theorem resume_others (hthread : thread.Belongs τ false) (h : p.Shares J τ q)
    (hrunning : thread.finished = false) (hresume : thread.resume J ω p = (thread', p')) :
    p'.Shares J τ q := by
  by_cases hkeyring : ∃ request id secrets, thread = .keyring request id secrets
  · obtain ⟨request, id, secrets, rfl⟩ := hkeyring
    rcases resume_keyring hresume with ⟨keypair, hfetch, hsame, -⟩ | ⟨rfl, -⟩
    · exact h.of_sameTables hsame (HpkeConfigRegistry.fetchKeypair_extends hfetch)
        (h.generated.fetchKeypair hfetch)
    · exact h
  · push Not at hkeyring
    have hsame : p'.keyring = p.keyring := resume_sameKeyring hkeyring hresume
    have hextends : p.keyring.Extends p'.keyring := by rw [hsame]
    have hgenerated : p'.keyring.Generated J := by
      rw [hsame]
      exact h.generated
    have hrequest := hthread.request
    cases resume_spec hrunning hresume with
    | keypair => exact (hkeyring _ _ _ rfl).elim
    | inserted => exact h.insert_others hthread.within.1 hthread.within.2
    | provisioned hpost => exact h.post_others hthread.within.2 hpost
    | recorded =>
        exact h.recordTask_others (Request.belongs_startRound.mp hrequest).1 hthread.within
    | @ended id _ hlive hdatastore hconfig hsessions =>
        have hid : τ.ids id = false := beq_iff_eq.mp hrequest
        exact (h.erase_others hid).of_sameTables ⟨hdatastore, hsessions, hconfig⟩ hextends hgenerated
    | built _ _ _ htables => exact h.of_sameTables htables hextends hgenerated
    | failed htables => exact h.of_sameTables htables hextends hgenerated
    | _ => exact h

end Thread

end
