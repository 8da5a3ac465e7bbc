-- SUMMARY: In every run of a manager, a tenant gets the answers that it would get if it were alone.
import Dpsa4fl.Library.Unwinding
import Dpsa4fl.JanusManager.Tenants
import Dpsa4fl.JanusManager.Erasing
import Dpsa4fl.JanusManager.Progress

/-!
# Isolation of the tenants

Take the requests of the other controllers out of a run. If these have kept to ids of
their own, the tenant's requests run as before: each reaches the same await points
and gets the same answer. Only the key pairs leave a trace: a pair that another
controller was the first to ask for has to be generated by the tenant, so the run
without the others draws other randomness for it.
-/

open Erasure Unwinding

namespace Manager

/-- The thread draws an id in its next piece. -/
def drawsId : Thread → Bool
  | .arrived (.createSession request) => request.trainingSessionId.isNone
  | _ => false

def separate (τ : Tenant) (others : Nat → Bool) (m : Manager) : Action → Bool
  | .send request => request.belongs τ (!others m.threads.length)
  | .resume i ω => m.threads[i]?.all fun thread =>
    !drawsId thread || τ.ids ⟨ω.sessionId⟩ == !others i
  | _ => true

/-- The request that is sent, and the id that is drawn, belong to the side of their
thread. The threads with a number in `others` are those of the other controllers. -/
def Separate (τ : Tenant) (others : Nat → Bool) (m : Manager) (a : Action) : Prop :=
  m.separate τ others a = true

instance (τ : Tenant) (others : Nat → Bool) (m : Manager) (a : Action) :
    Decidable (m.Separate τ others a) :=
  inferInstanceAs (Decidable (_ = true))

/-- The action, with other randomness for a key pair. -/
def Action.reseed (seed : List UInt8) : Action → Action
  | resume i ω => resume i { ω with keypairSeed := seed }
  | a => a

/-- Only a new request gets the next number. -/
theorem Action.renumber_eq {erased : Nat → Bool} {a : Action} (h : ∀ request, a ≠ .send request)
    (n n' : Nat) : a.renumber erased n = a.renumber erased n' := by
  cases a with
  | send request => exact (h request rfl).elim
  | _ => rfl

theorem Action.without_eq_purge (erased : Nat → Bool) (n : Nat) (as : List Action) :
    Action.without erased n as =
      purge (fun n a => Action.renumber erased n a) Action.sent n as := by
  induction as generalizing n with
  | nil => rfl
  | cons a as ih => rw [Action.without, purge, ih]

/-- An action that sends nothing sends nothing without the others. -/
theorem Action.reseed_ne_send {erased : Nat → Bool} {n : Nat} {a b : Action}
    (h : ∀ request, a ≠ .send request) (hb : a.renumber erased n = some b) (seed : List UInt8)
    (request : Request) : b.reseed seed ≠ .send request := by
  cases a with
  | send request => exact (h request rfl).elim
  | resume i ω =>
      obtain ⟨-, hb⟩ := Option.ite_none_left_eq_some.mp hb
      cases hb
      exact nofun
  | drop i =>
      obtain ⟨-, hb⟩ := Option.ite_none_left_eq_some.mp hb
      cases hb
      exact nofun
  | restart =>
      cases hb
      exact nofun

/-- `m₀` is what `m` is for the tenant. -/
structure Isolates (J : Janus) (τ : Tenant) (others : Nat → Bool) (m m₀ : Manager) : Prop where
  threads : m₀.threads = without others m.threads
  belongs : ∀ (i : Nat) (thread : Thread), m.threads[i]? = some thread →
    thread.Belongs τ (!others i)
  provisioner : m.provisioner.Shares J τ m₀.provisioner

namespace Isolates

variable {J : Janus} {τ : Tenant} {others : Nat → Bool} {m m' m₀ : Manager}

theorem new (J : Janus) (τ : Tenant) (others : Nat → Bool) (stored : Datastore)
    (config : TaskProvisionerConfig) :
    Isolates J τ others (.new stored config) (.new stored config) where
  threads := rfl
  belongs := by rintro i thread ⟨⟩
  provisioner := {
    config := rfl
    sessions := fun _ _ => rfl
    alone := by rintro id s ⟨⟩
    others := by rintro id s - ⟨⟩
    datastore := fun _ _ => rfl
    keyring := .refl _
    generated := by rintro id keypair ⟨⟩ }

/-- A thread stays on its side. -/
theorem belongs_step (hJ : J.Faithful) (h : Isolates J τ others m m₀) {a : Action}
    (hseparate : Separate τ others m a) (hstep : m.step J a = some m') (i : Nat) (thread : Thread)
    (hi : m'.threads[i]? = some thread) : thread.Belongs τ (!others i) := by
  cases step_origin hstep hi with
  | same hget => exact h.belongs i thread hget
  | arrived hlen =>
      subst hlen
      exact ⟨hseparate, trivial⟩
  | dropped hget => exact ⟨(h.belongs i _ hget).request, trivial⟩
  | resumed hr =>
      refine (h.belongs i _ hr.get).resume hJ (fun request hthread hnone => ?_) hr.resumes
      subst hthread
      simpa [Separate, separate, hr.get, drawsId, hnone] using hseparate

theorem guardFree (h : Isolates J τ others m m₀) (hfree : m.guardFree = true) :
    m₀.guardFree = true := by
  simp only [Manager.guardFree, List.all_eq_true, h.threads] at hfree ⊢
  exact fun thread hthread => hfree thread (mem_of_mem_without hthread)

/-- A step of one of the others. -/
theorem step_others (hJ : J.Faithful) (h : Isolates J τ others m m₀) {a : Action}
    (hseparate : Separate τ others m a) (hstep : m.step J a = some m')
    (ha : a.renumber others m.threads.length = none) : Isolates J τ others m' m₀ := by
  have hbelongs := h.belongs_step hJ hseparate hstep
  cases a with
  | send request =>
      cases hstep
      simp only [Action.renumber, ite_eq_left_iff, reduceCtorEq, imp_false, Bool.not_eq_true,
        Bool.not_eq_false] at ha
      exact ⟨by rw [without_concat, ha, h.threads]; simp, hbelongs, h.provisioner⟩
  | resume i ω =>
      simp only [Action.renumber, ite_eq_left_iff, reduceCtorEq, imp_false, Bool.not_eq_true,
        Bool.not_eq_false] at ha
      obtain ⟨thread, hget, hrunning, -, rfl⟩ := step_resume_eq hstep
      have hthread : thread.Belongs τ false := by simpa [ha] using h.belongs i thread hget
      refine ⟨?_, hbelongs, Thread.resume_others hthread h.provisioner hrunning rfl⟩
      rw [without_set_erased ha, h.threads]
  | drop i =>
      simp only [Action.renumber, ite_eq_left_iff, reduceCtorEq, imp_false, Bool.not_eq_true,
        Bool.not_eq_false] at ha
      obtain ⟨thread, -, rfl⟩ := step_drop hstep
      exact ⟨by rw [without_set_erased ha, h.threads], hbelongs, h.provisioner⟩
  | restart => cases ha

/-- A step of the tenant is one that it can take alone. -/
theorem step_own (hJ : J.Faithful) (h : Isolates J τ others m m₀) {a b : Action}
    (hseparate : Separate τ others m a) (hstep : m.step J a = some m')
    (ha : a.renumber others m.threads.length = some b) :
    ∃ seed m₀', m₀.step J (b.reseed seed) = some m₀' ∧ Isolates J τ others m' m₀' := by
  have hbelongs := h.belongs_step hJ hseparate hstep
  cases a with
  | send request =>
      cases hstep
      simp only [Action.renumber, Option.ite_none_left_eq_some, Option.some.injEq] at ha
      obtain ⟨hn, rfl⟩ := ha
      refine ⟨[], _, rfl, ?_, hbelongs, h.provisioner⟩
      rw [without_concat, if_neg hn, h.threads]
  | resume i ω =>
      simp only [Action.renumber, Option.ite_none_left_eq_some, Option.some.injEq,
        Bool.not_eq_true] at ha
      obtain ⟨hi, rfl⟩ := ha
      obtain ⟨thread, hget, hrunning, hguard, rfl⟩ := step_resume_eq hstep
      have hthread : thread.Belongs τ true := by simpa [hi] using h.belongs i thread hget
      obtain ⟨seed, hsame, hshares⟩ := Thread.resume_own ω hthread h.provisioner
      have hget₀ : m₀.threads[rank others i]? = some thread := by
        rw [h.threads, getElem?_without hi, hget]
      refine ⟨seed, _, step_resume_of hget₀ hrunning (fun hawaits => h.guardFree (hguard hawaits)) _,
        ?_,
        hbelongs, hshares⟩
      rw [without_set hi, hsame, h.threads]
  | drop i =>
      simp only [Action.renumber, Option.ite_none_left_eq_some, Option.some.injEq,
        Bool.not_eq_true] at ha
      obtain ⟨hi, rfl⟩ := ha
      obtain ⟨thread, hget, rfl⟩ := step_drop hstep
      have hget₀ : m₀.threads[rank others i]? = some thread := by
        rw [h.threads, getElem?_without hi, hget]
      refine ⟨[], { m₀ with threads := m₀.threads.set (rank others i) (dropThread thread) }, ?_, ?_,
        hbelongs, h.provisioner⟩
      · simp only [Action.reseed, step, hget₀]
      · rw [without_set hi, h.threads]
  | restart =>
      cases hstep
      cases ha
      refine ⟨[], _, rfl, ?_, hbelongs, ?_⟩
      · rw [without_map, h.threads]
      · exact h.provisioner.restart

/-- The steps of the others unwind. -/
theorem unwinds (hJ : J.Faithful) (τ : Tenant) (others : Nat → Bool) :
    Unwinds (step J) (step J) (fun n a => Action.renumber others n a) Action.sent
      (fun m => m.threads.length) (Separate τ others) (fun b b' => ∃ seed, b' = b.reseed seed)
      (Isolates J τ others) where
  counts hstep := step_sent hstep
  others h hseparate hstep ha := h.step_others hJ hseparate hstep ha
  own h hseparate hstep ha := by
    obtain ⟨seed, m₀', hstep₀, h'⟩ := h.step_own hJ hseparate hstep ha
    exact ⟨_, m₀', ⟨seed, rfl⟩, hstep₀, h'⟩

end Isolates

/-- Two groups of controllers use the same manager, with any interleaving, lost
requests and restarts, and each keeps to its own session ids and task ids. Then one
of the groups, without the other, can have the same run: the same actions, up to the
randomness of the key pairs, bring each of its threads to the same point with the same
answer, and leave the same sessions under its ids, no other sessions, and the same
tasks stored. -/
theorem tenants_isolated {J : Janus} (hJ : J.Faithful) (stored : Datastore)
    (config : TaskProvisionerConfig) (τ : Tenant) (others : Nat → Bool) {as : List Action}
    {m : Manager} (hrun : Run.after (step J) (.new stored config) as = some m)
    (hseparate : Run.Along (step J) (Separate τ others) (.new stored config) as) :
    ∃ bs m₀, List.Forall₂ (fun b b' => ∃ seed, b' = b.reseed seed)
        (Action.without others 0 as) bs ∧
      Run.after (step J) (.new stored config) bs = some m₀ ∧
      m₀.threads = without others m.threads ∧
      (∀ id s, m₀.provisioner.trainingSessions.lookup id = some s → τ.ids id = true) ∧
      (∀ id, τ.ids id = true → m₀.provisioner.trainingSessions.lookup id =
        m.provisioner.trainingSessions.lookup id) ∧
      ∀ taskId, τ.tasks taskId = true → m₀.provisioner.datastore.lookup taskId =
        m.provisioner.datastore.lookup taskId := by
  obtain ⟨bs, m₀, hbs, hrun₀, h⟩ :=
    (Isolates.unwinds hJ τ others).run (Isolates.new J τ others stored config) hrun hseparate
  rw [← Action.without_eq_purge] at hbs
  exact ⟨bs, m₀, hbs, hrun₀, h.threads, h.provisioner.alone, h.provisioner.sessions,
    h.provisioner.datastore⟩

end Manager

namespace Sample

/-- A tenant with the ids below 10 and the task 1. -/
def tenant : Tenant where
  ids id := decide (id.value < 10)
  tasks t := t == taskId 1

/-- The session 5 of the tenant, and the session 20 of another controller, whose
requests have the odd numbers. The other one is the first to ask for the key pair 0. -/
def twoTenants : List Manager.Action :=
  [.send (.createSession (createRequest (some ⟨5⟩) [1])),
   .send (.createSession (createRequest none [2])), .resume 1 (ambient 20), .resume 0 (ambient 0),
   .resume 1 (ambient 0), .resume 0 (ambient 0), .resume 0 (ambient 0), .resume 1 (ambient 0),
   .send (.startRound (startRequest ⟨5⟩ (taskId 1))),
   .send (.startRound (startRequest ⟨20⟩ (taskId 2))), .resume 3 (ambient 0), .resume 3 (ambient 0),
   .resume 3 (ambient 0), .resume 2 (ambient 0), .resume 2 (ambient 0), .resume 2 (ambient 0)]

end Sample

theorem Manager.tenants_isolated_sample :
    ∃ bs m₀, bs.length = 8 ∧ Run.after (step .plain) (.new ∅ Sample.config) bs = some m₀ ∧
      m₀.threads.map Thread.finished = [true, true] ∧
      m₀.provisioner.trainingSessions.lookup ⟨20⟩ = none ∧
      (m₀.provisioner.datastore.lookup (Sample.taskId 1)).isSome = true := by
  have hruns : ((Run.after (step .plain) (.new ∅ Sample.config) Sample.twoTenants).map fun m =>
      ((Erasure.without (fun i => i % 2 == 1) m.threads).map Thread.finished,
        (m.provisioner.datastore.lookup (Sample.taskId 1)).isSome)) =
        some ([true, true], true) := by
    decide +kernel
  obtain ⟨m, hrun, hm⟩ := Option.map_eq_some_iff.mp hruns
  obtain ⟨hthreads, htask⟩ := Prod.mk.inj hm
  obtain ⟨bs, m₀, hbs, hrun₀, hthreads₀, halone, -, htasks⟩ :=
    tenants_isolated Janus.plain_faithful ∅ Sample.config Sample.tenant (fun i => i % 2 == 1) hrun
      (by decide +kernel)
  refine ⟨bs, m₀, hbs.length_eq.symm, hrun₀, by rw [hthreads₀, hthreads], ?_, ?_⟩
  · cases h : m₀.provisioner.trainingSessions.lookup ⟨20⟩ with
    | none => rfl
    | some s => exact absurd (halone _ _ h) (by decide)
  · rw [htasks _ (by decide), htask]
