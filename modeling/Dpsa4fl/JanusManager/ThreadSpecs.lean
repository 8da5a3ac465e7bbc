-- SUMMARY: Everything one step of a manager can do, as an inversion lemma for threads and one for managers.
import Dpsa4fl.JanusManager.Threads

/-!
# Steps of a manager

`Thread.Resumes` lists what a thread can do between two await points, guards
included, and `Manager.step_cases` does the same for the manager. Every
invariant is derived from these two, without unfolding a handler again.
-/

open Handler

/-- `Resumes J ω p thread thread' p'`: in the state `p`, the thread can run to
its next await point, where it is `thread'`, and leaves the state `p'`. -/
inductive Thread.Resumes (J : Janus) (ω : Ambient) (p : TaskProvisioner) :
    Thread → Thread → TaskProvisioner → Prop where
  /-- An id was chosen: a requested one that is not live, or the drawn one. -/
  | chosen {request id secrets} (hsecrets : createSessionSecrets J request = .ok secrets)
      (hid : (request.trainingSessionId = some id ∧ p.trainingSessions.lookup id = none) ∨
        (request.trainingSessionId = none ∧ id = ⟨ω.sessionId⟩)) :
      Resumes J ω p (arrived (.createSession request)) (keyring request id secrets) p
  | keypair {request id secrets keypair p'} (hsame : p.SameTables p') :
      Resumes J ω p (keyring request id secrets)
        (insert request id (request.session secrets keypair)) p'
  | inserted {request id session} :
      Resumes J ω p (insert request id session)
        (answered (.createSession request) (.ok (.createSession id)))
        { p with trainingSessions := p.trainingSessions.insert id session }
  | built {request s taskId task p'}
      (hlive : p.trainingSessions.lookup request.trainingSessionId = some s)
      (htask : taskIdFromString request.taskIdEncoded = .ok taskId)
      (hbuilds : s.Builds J p.config taskId task) (hsame : p.SameTables p') :
      Resumes J ω p (arrived (.startRound request)) (transaction request taskId task) p'
  | provisioned {request taskId task datastore} (hpost : postTask task p.datastore = .ok datastore) :
      Resumes J ω p (transaction request taskId task) (record request taskId)
        { p with datastore := datastore }
  | recorded {request taskId} :
      Resumes J ω p (record request taskId) (answered (.startRound request) (.ok .startRound))
        (p.recordTask request.trainingSessionId taskId)
  | ended {id p'} (hlive : (p.trainingSessions.lookup id).isSome)
      (hdatastore : p'.datastore = p.datastore) (hconfig : p'.config = p.config)
      (hsessions : p'.trainingSessions = p.trainingSessions.erase id) :
      Resumes J ω p (arrived (.endSession id)) (answered (.endSession id) (.ok .endSession)) p'
  | decoded {request taskId} (htask : taskIdFromString request.taskIdEncoded = .ok taskId) :
      Resumes J ω p (arrived (.getVdafParameter request)) (lookup request taskId) p
  | found {request taskId id s} (hlive : p.trainingSessions.lookup id = some s)
      (hmem : taskId ∈ s.tasks) :
      Resumes J ω p (lookup request taskId)
        (answered (.getVdafParameter request) (.ok (.getVdafParameter s.vdafParameter))) p
  | located :
      Resumes J ω p (arrived .getMainLocations)
        (answered .getMainLocations (.ok (.getMainLocations p.config.mainLocations))) p
  /-- A failing exit. -/
  | failed {thread failure p'} (hsame : p.SameTables p') :
      Resumes J ω p thread (answered thread.request (.error failure)) p'

namespace Thread

variable {J : Janus} {ω : Ambient} {p p' : TaskProvisioner} {thread thread' : Thread}

/-- A piece that does `x` and then goes on as `f` says. -/
theorem resume_of_piece {α : Type} {ω : Ambient} {x : Handler α} {f : α → Thread}
    (h : thread.piece J ω = x >>= fun a => pure (f a)) (p : TaskProvisioner) :
    thread.resume J ω p = match x.run p with
      | .ok a p' => (f a, p')
      | .error failure p' => (.answered thread.request (.error failure), p') := by
  simp only [resume, h, EStateM.run_bind]
  cases x.run p <;> rfl

/-- A piece that fails has only printed something. -/
theorem piece_failed {e : Failure} (h : (thread.piece J ω).run p = .error e p') :
    p.Printed p' := by
  cases thread with
  | arrived request =>
      cases request with
      | createSession request =>
          exact ((within_createSessionStart J ω request).bind fun _ => .pure _).error h
      | endSession id =>
          rcases run_bind_error.mp h with h | ⟨_, _, -, h⟩
          · exact handleEndSession_failed h
          · cases h
      | startRound request =>
          exact ((within_startRoundTask J ω request).bind fun _ => .pure _).error h
      | getVdafParameter request => exact ((within_orReturn _).bind fun _ => .pure _).error h
      | getMainLocations => cases h
  | keyring request id secrets =>
      rcases run_bind_error.mp h with h | ⟨_, _, -, h⟩
      · rw [createSessionKeypair_error h]
        rfl
      · cases h
  | insert request id session => cases h
  | transaction request taskId task =>
      rcases run_bind_error.mp h with h | ⟨_, _, -, h⟩
      · rw [provisionTask_error h]
        rfl
      · cases h
  | record request taskId => cases h
  | lookup request taskId =>
      exact ((within_lookupVdafParameter taskId).bind fun _ => .pure _).error h
  | answered request answer => cases h
  | dropped request => cases h

/-- A piece that comes to its end does not answer with a failure. -/
theorem piece_ok (hrunning : thread.finished = false)
    (h : (thread.piece J ω).run p = .ok thread' p') (request : Request) (failure : Failure) :
    thread' ≠ .answered request (.error failure) := by
  rintro rfl
  cases thread with
  | arrived request =>
      cases request with
      | getMainLocations => cases h
      | _ => obtain ⟨_, _, -, hret⟩ := run_bind_ok.mp h; cases hret
  | insert => cases h
  | record => cases h
  | answered => cases hrunning
  | dropped => cases hrunning
  | _ => obtain ⟨_, _, -, hret⟩ := run_bind_ok.mp h; cases hret

/-- A resumed thread does one of the listed things. -/
theorem resume_spec (hrun : thread.finished = false)
    (h : thread.resume J ω p = (thread', p')) : Resumes J ω p thread thread' p' := by
  unfold resume at h
  split at h
  · rename_i thread₁ p₁ hpiece
    obtain ⟨rfl, rfl⟩ := Prod.mk.inj h
    cases thread with
    | arrived request =>
        cases request with
        | createSession request =>
            obtain ⟨⟨id, secrets⟩, p₂, hstart, hret⟩ := run_bind_ok.mp hpiece
            cases hret
            obtain ⟨rfl, hsecrets, hid⟩ := createSessionStart_ok hstart
            exact .chosen hsecrets hid
        | endSession id =>
            obtain ⟨_, p₂, hend, hret⟩ := run_bind_ok.mp hpiece
            cases hret
            obtain ⟨hlive, hds, hconfig, hsessions⟩ := handleEndSession_ok hend
            exact .ended hlive hds hconfig hsessions
        | startRound request =>
            obtain ⟨⟨taskId, task⟩, p₂, hstart, hret⟩ := run_bind_ok.mp hpiece
            cases hret
            obtain ⟨s, hlive, htask, hbuilds, hsame⟩ := startRoundTask_ok hstart
            exact .built hlive htask hbuilds hsame
        | getVdafParameter request =>
            obtain ⟨taskId, p₂, hdecode, hret⟩ := run_bind_ok.mp hpiece
            cases hret
            obtain ⟨htask, rfl⟩ := run_orReturn_ok.mp hdecode
            exact .decoded htask
        | getMainLocations => cases hpiece; exact .located
    | keyring request id secrets =>
        obtain ⟨session, p₂, hkey, hret⟩ := run_bind_ok.mp hpiece
        cases hret
        obtain ⟨hsame, keypair, rfl⟩ := createSessionKeypair_ok hkey
        exact .keypair hsame
    | insert request id session => cases hpiece; exact .inserted
    | transaction request taskId task =>
        obtain ⟨_, p₂, hprov, hret⟩ := run_bind_ok.mp hpiece
        cases hret
        obtain ⟨ds, hpost, rfl⟩ := provisionTask_ok hprov
        exact .provisioned hpost
    | record request taskId => cases hpiece; exact .recorded
    | lookup request taskId =>
        obtain ⟨vdafParameter, p₂, hlookup, hret⟩ := run_bind_ok.mp hpiece
        cases hret
        obtain ⟨rfl, id, s, hlive, hmem, rfl⟩ := lookupVdafParameter_ok hlookup
        exact .found hlive hmem
    | answered request answer => cases hrun
    | dropped request => cases hrun
  · rename_i e p₁ hpiece
    obtain ⟨rfl, rfl⟩ := Prod.mk.inj h
    exact .failed (piece_failed hpiece).sameTables

namespace Resumes

theorem request_eq (h : Resumes J ω p thread thread' p') : thread'.request = thread.request := by
  cases h <;> rfl

/-- Without the guard, no table changes. -/
theorem sameTables (h : Resumes J ω p thread thread' p') (hholds : thread.holdsGuard = false)
    (hawaits : thread.awaitsGuard = false) : p.SameTables p' := by
  cases h with
  | chosen => exact .refl p
  | keypair hsame => exact hsame
  | inserted => cases hawaits
  | built => cases hawaits
  | provisioned => cases hholds
  | recorded => cases hholds
  | ended => cases hawaits
  | decoded => exact .refl p
  | found => exact .refl p
  | located => exact .refl p
  | failed hsame => exact hsame

/-- The guard is taken only by a thread that waited for it. -/
theorem holdsGuard_of (h : Resumes J ω p thread thread' p') (hholds : thread'.holdsGuard = true) :
    thread.awaitsGuard = true ∨ thread.holdsGuard = true := by
  cases h with
  | built => exact .inl rfl
  | provisioned => exact .inr rfl
  | _ => cases hholds

end Resumes

end Thread

/-! ## Managers -/

namespace Manager

variable {J : Janus} {m m' : Manager}

/-- `m'` is `m` after thread number `i` ran to its next await point. -/
structure Resumed (J : Janus) (m : Manager) (i : Nat) (ω : Ambient) (thread thread' : Thread)
    (m' : Manager) : Prop where
  get : m.threads[i]? = some thread
  running : thread.finished = false
  guard : thread.awaitsGuard = true → m.guardFree = true
  resumes : thread.Resumes J ω m.provisioner thread' m'.provisioner
  threads : m'.threads = m.threads.set i thread'

/-- The resumed thread, and what its piece leaves. -/
theorem step_resume_eq {i : Nat} {ω : Ambient} (h : m.step J (.resume i ω) = some m') :
    ∃ thread, m.threads[i]? = some thread ∧ thread.finished = false ∧
      (thread.awaitsGuard = true → m.guardFree = true) ∧
      m' = { provisioner := (thread.resume J ω m.provisioner).2,
             threads := m.threads.set i (thread.resume J ω m.provisioner).1 } := by
  simp only [step] at h
  split at h
  · cases h
  · rename_i thread hget
    split at h
    · cases h
    · rename_i hguard
      cases h
      simp only [Bool.or_eq_true, Bool.and_eq_true, Bool.not_eq_true', not_or, not_and,
        Bool.not_eq_false, Bool.not_eq_true] at hguard
      exact ⟨thread, hget, hguard.1, hguard.2, rfl⟩

theorem step_resume {i : Nat} {ω : Ambient} (h : m.step J (.resume i ω) = some m') :
    ∃ thread thread', m.Resumed J i ω thread thread' m' := by
  obtain ⟨thread, hget, hrunning, hguard, rfl⟩ := step_resume_eq h
  exact ⟨thread, _, hget, hrunning, hguard, Thread.resume_spec hrunning rfl, rfl⟩

theorem step_drop {i : Nat} (h : m.step J (.drop i) = some m') :
    ∃ thread, m.threads[i]? = some thread ∧
      m' = { m with threads := m.threads.set i (dropThread thread) } := by
  simp only [step] at h
  split at h
  · cases h
  · rename_i thread hget
    cases h
    exact ⟨thread, hget, rfl⟩

@[simp] theorem dropThread_request (thread : Thread) :
    (dropThread thread).request = thread.request := by
  unfold dropThread
  split <;> rfl

theorem dropThread_holdsGuard (thread : Thread) : (dropThread thread).holdsGuard = false := by
  unfold dropThread
  split
  · cases thread <;> first | rfl | contradiction
  · rfl

/-- What is left of a thread that may have been dropped. -/
theorem dropThread_cases (thread : Thread) :
    dropThread thread = thread ∨ dropThread thread = .dropped thread.request := by
  unfold dropThread
  split
  · exact .inl rfl
  · exact .inr rfl

theorem guardFree_iff :
    m.guardFree = true ↔
      ∀ (i : Nat) (thread : Thread), m.threads[i]? = some thread → thread.holdsGuard = false := by
  simp only [guardFree, List.all_eq_true, Bool.not_eq_true', List.mem_iff_getElem?]
  constructor
  · intro h i thread hget
    exact h thread ⟨i, hget⟩
  · rintro h thread ⟨i, hget⟩
    exact h i thread hget

/-- At most one thread holds the guard of the sessions. -/
def Exclusive (m : Manager) : Prop :=
  ∀ (i j : Nat) (ti tj : Thread), m.threads[i]? = some ti → m.threads[j]? = some tj →
    ti.holdsGuard = true → tj.holdsGuard = true → i = j

theorem getElem?_send {request : Request} {i : Nat} {thread : Thread}
    (h : (m.threads ++ [Thread.arrived request])[i]? = some thread) :
    m.threads[i]? = some thread ∨ (i = m.threads.length ∧ thread = .arrived request) := by
  rw [List.getElem?_append] at h
  split at h
  · exact .inl h
  · rename_i hlen
    rw [List.getElem?_singleton] at h
    split at h
    · exact .inr ⟨by omega, (Option.some.inj h).symm⟩
    · cases h

theorem getElem?_set {i j : Nat} {t thread : Thread} (h : (m.threads.set i t)[j]? = some thread) :
    (j = i ∧ thread = t) ∨ (j ≠ i ∧ m.threads[j]? = some thread) := by
  rw [List.getElem?_set] at h
  split at h
  · rename_i hij
    split at h
    · exact .inl ⟨hij.symm, (Option.some.inj h).symm⟩
    · cases h
  · rename_i hij
    exact .inr ⟨fun hji => hij hji.symm, h⟩

theorem Exclusive.step (hm : m.Exclusive) {a : Action} (h : m.step J a = some m') :
    m'.Exclusive := by
  cases a with
  | send request =>
      cases h
      intro i j ti tj hi hj hti htj
      rcases getElem?_send hi with hi | ⟨rfl, rfl⟩
      · rcases getElem?_send hj with hj | ⟨rfl, rfl⟩
        · exact hm i j ti tj hi hj hti htj
        · cases htj
      · cases hti
  | resume k ω =>
      obtain ⟨thread, thread', hr⟩ := step_resume h
      intro i j ti tj hi hj hti htj
      rw [hr.threads] at hi hj
      -- a thread other than `k` held the guard before, and so `k` cannot have taken it
      have hother : ∀ (j : Nat) (tj : Thread), j ≠ k → m.threads[j]? = some tj → tj.holdsGuard = true →
          thread'.holdsGuard = true → False := by
        intro j tj hjk hj htj ht'
        rcases hr.resumes.holdsGuard_of ht' with hawaits | hholds
        · have := guardFree_iff.mp (hr.guard hawaits) j tj hj
          rw [this] at htj; cases htj
        · exact hjk (hm j k tj thread hj hr.get htj hholds)
      rcases getElem?_set hi with ⟨rfl, rfl⟩ | ⟨hik, hi'⟩
      · rcases getElem?_set hj with ⟨rfl, rfl⟩ | ⟨hjk, hj'⟩
        · rfl
        · exact (hother j tj hjk hj' htj hti).elim
      · rcases getElem?_set hj with ⟨rfl, rfl⟩ | ⟨hjk, hj'⟩
        · exact (hother i ti hik hi' hti htj).elim
        · exact hm i j ti tj hi' hj' hti htj
  | drop k =>
      obtain ⟨thread, hget, rfl⟩ := step_drop h
      intro i j ti tj hi hj hti htj
      rcases getElem?_set hi with ⟨rfl, rfl⟩ | ⟨-, hi⟩
      · rw [dropThread_holdsGuard] at hti; cases hti
      · rcases getElem?_set hj with ⟨rfl, rfl⟩ | ⟨-, hj⟩
        · rw [dropThread_holdsGuard] at htj; cases htj
        · exact hm i j ti tj hi hj hti htj
  | restart =>
      cases h
      intro i j ti tj hi _ hti _
      rw [List.getElem?_map, Option.map_eq_some_iff] at hi
      obtain ⟨t, -, rfl⟩ := hi
      rw [dropThread_holdsGuard] at hti; cases hti

/-- While another thread holds the guard, a resumed thread changes no table. -/
theorem Resumed.sameTables {i k : Nat} {ω : Ambient} {thread thread' tk : Thread}
    (h : m.Resumed J i ω thread thread' m') (hm : m.Exclusive) (hki : k ≠ i)
    (hk : m.threads[k]? = some tk) (hholds : tk.holdsGuard = true) :
    m.provisioner.SameTables m'.provisioner := by
  apply h.resumes.sameTables
  · refine Bool.eq_false_iff.mpr fun hthread => ?_
    exact hki (hm k i tk thread hk h.get hholds hthread)
  · refine Bool.eq_false_iff.mpr fun hawaits => ?_
    have := guardFree_iff.mp (h.guard hawaits) k tk hk
    rw [this] at hholds; cases hholds

/-- A thread keeps its number and its request, and a finished one does not change. -/
theorem step_keeps {a : Action} (h : m.step J a = some m') {k : Nat} {thread : Thread}
    (hk : m.threads[k]? = some thread) :
    ∃ thread', m'.threads[k]? = some thread' ∧ thread'.request = thread.request ∧
      (thread.finished = true → thread' = thread) := by
  obtain ⟨hlt, -⟩ := List.getElem?_eq_some_iff.mp hk
  have hdropped : thread.finished = true → dropThread thread = thread := by
    intro hfinished
    rw [dropThread, if_pos hfinished]
  cases a with
  | send request =>
      cases h
      exact ⟨thread, (List.getElem?_append_left hlt).trans hk, rfl, fun _ => rfl⟩
  | resume i ω =>
      obtain ⟨t, t', hr⟩ := step_resume h
      by_cases hik : i = k
      · subst hik
        obtain rfl := Option.some.inj (hr.get.symm.trans hk)
        refine ⟨t', by rw [hr.threads, List.getElem?_set_self hlt], hr.resumes.request_eq, ?_⟩
        intro hfinished
        rw [hr.running] at hfinished
        cases hfinished
      · exact ⟨thread, by rw [hr.threads, List.getElem?_set_ne hik, hk], rfl, fun _ => rfl⟩
  | drop i =>
      obtain ⟨t, ht, rfl⟩ := step_drop h
      by_cases hik : i = k
      · subst hik
        obtain rfl := Option.some.inj (ht.symm.trans hk)
        exact ⟨dropThread t, List.getElem?_set_self hlt, dropThread_request t, hdropped⟩
      · exact ⟨thread, (List.getElem?_set_ne hik).trans hk, rfl, fun _ => rfl⟩
  | restart =>
      cases h
      exact ⟨dropThread thread, by rw [List.getElem?_map, hk, Option.map_some],
        dropThread_request thread, hdropped⟩

/-- Where a thread of the manager after a step comes from. -/
inductive Origin (J : Janus) (m m' : Manager) (k : Nat) : Action → Thread → Prop where
  | same {a thread} (hget : m.threads[k]? = some thread) : Origin J m m' k a thread
  | arrived {request} (hk : k = m.threads.length) : Origin J m m' k (.send request) (.arrived request)
  | dropped {a thread} (hget : m.threads[k]? = some thread) :
      Origin J m m' k a (.dropped thread.request)
  | resumed {ω thread thread'} (hresumed : m.Resumed J k ω thread thread' m') :
      Origin J m m' k (.resume k ω) thread'

theorem step_origin {a : Action} (h : m.step J a = some m') {k : Nat} {thread : Thread}
    (hk : m'.threads[k]? = some thread) : Origin J m m' k a thread := by
  have hdropped : ∀ t, m.threads[k]? = some t → Origin J m m' k a (dropThread t) := by
    intro t ht
    rcases dropThread_cases t with heq | heq
    · rw [heq]; exact .same ht
    · rw [heq]; exact .dropped ht
  cases a with
  | send request =>
      cases h
      rcases getElem?_send hk with hk | ⟨hlen, rfl⟩
      · exact .same hk
      · exact .arrived hlen
  | resume i ω =>
      obtain ⟨t, t', hr⟩ := step_resume h
      rw [hr.threads] at hk
      rcases getElem?_set hk with ⟨rfl, rfl⟩ | ⟨-, hk⟩
      · exact .resumed hr
      · exact .same hk
  | drop i =>
      obtain ⟨t, ht, rfl⟩ := step_drop h
      rcases getElem?_set hk with ⟨rfl, rfl⟩ | ⟨-, hk⟩
      · exact hdropped t ht
      · exact .same hk
  | restart =>
      cases h
      rw [List.getElem?_map, Option.map_eq_some_iff] at hk
      obtain ⟨t, ht, rfl⟩ := hk
      exact hdropped t ht

end Manager
