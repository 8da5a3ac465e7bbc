-- SUMMARY: Every request comes to an end: the mutex of the sessions never blocks all handlers, and a fair scheduler answers each of them.
import Dpsa4fl.Library.Fairness
import Dpsa4fl.JanusManager.ThreadSpecs

/-!
# Progress

The guard of the training sessions is held across an await point, so other
handlers may have to wait for it. The one that holds it never waits for it again.
Each handler has at most three pieces, hence it ends after as many turns.
-/

/-- How many pieces of its handler the thread has left at most. -/
def Thread.piecesLeft : Thread → Nat
  | arrived (.createSession _) => 3
  | arrived (.endSession _) => 1
  | arrived (.startRound _) => 3
  | arrived (.getVdafParameter _) => 2
  | arrived .getMainLocations => 1
  | keyring _ _ _ => 2
  | insert _ _ _ => 1
  | transaction _ _ _ => 2
  | record _ _ => 1
  | lookup _ _ => 1
  | answered _ _ => 0
  | dropped _ => 0

namespace Thread

variable {J : Janus} {ω : Ambient} {p p' : TaskProvisioner} {thread thread' : Thread}

theorem piecesLeft_le (thread : Thread) : thread.piecesLeft ≤ 3 := by
  cases thread with
  | arrived request => cases request <;> simp [piecesLeft]
  | _ => simp [piecesLeft]

theorem piecesLeft_eq_zero_iff : thread.piecesLeft = 0 ↔ thread.finished = true := by
  cases thread with
  | arrived request => cases request <;> simp [piecesLeft, finished]
  | _ => simp [piecesLeft, finished]

theorem piecesLeft_pos (h : thread.finished = false) : 0 < thread.piecesLeft := by
  rw [Nat.pos_iff_ne_zero, Ne, piecesLeft_eq_zero_iff, h]
  exact Bool.false_ne_true

/-- The thread that holds the guard does not wait for it. -/
theorem awaitsGuard_of_holdsGuard (h : thread.holdsGuard = true) : thread.awaitsGuard = false := by
  cases thread <;> first | rfl | cases h

theorem finished_of_holdsGuard (h : thread.holdsGuard = true) : thread.finished = false := by
  cases thread <;> first | rfl | cases h

theorem Resumes.piecesLeft_lt (h : Resumes J ω p thread thread' p')
    (hrunning : thread.finished = false) : thread'.piecesLeft < thread.piecesLeft := by
  cases h with
  | failed => exact piecesLeft_pos hrunning
  | _ => simp [piecesLeft]

/-- The thread works on this request or has answered it. -/
structure WorksOn (request : Request) (thread : Thread) : Prop where
  request_eq : thread.request = request
  kept : thread ≠ .dropped request

theorem worksOn_of_running (h : thread.finished = false) : thread.WorksOn thread.request :=
  ⟨rfl, by intro heq; rw [heq] at h; cases h⟩

theorem WorksOn.resumes {request : Request} (h : thread.WorksOn request)
    (hr : Resumes J ω p thread thread' p') : thread'.WorksOn request where
  request_eq := hr.request_eq.trans h.request_eq
  kept := by cases hr <;> exact nofun

theorem WorksOn.answered {request : Request} (h : thread.WorksOn request)
    (hfinished : thread.finished = true) : ∃ answer, thread = .answered request answer := by
  cases thread with
  | answered request' answer =>
      obtain rfl : request' = request := h.request_eq
      exact ⟨answer, rfl⟩
  | dropped request' =>
      obtain rfl : request' = request := h.request_eq
      exact (h.kept rfl).elim
  | _ => cases hfinished

end Thread

namespace Manager

variable {J : Janus} {m m' : Manager}

/-! ## No deadlock -/

theorem step_resume_of {i : Nat} {thread : Thread} (hget : m.threads[i]? = some thread)
    (hrunning : thread.finished = false) (hguard : thread.awaitsGuard = true → m.guardFree = true)
    (ω : Ambient) : m.step J (.resume i ω) = some
      { provisioner := (thread.resume J ω m.provisioner).2,
        threads := m.threads.set i (thread.resume J ω m.provisioner).1 } := by
  have hcondition : (thread.finished || (thread.awaitsGuard && !m.guardFree)) = false := by
    rw [hrunning, Bool.false_or]
    cases hawaits : thread.awaitsGuard with
    | false => rfl
    | true => rw [hguard hawaits]; rfl
  simp only [step, hget, hcondition, Bool.false_eq_true, if_false]

theorem step_resume_isSome {i : Nat} {thread : Thread} (hget : m.threads[i]? = some thread)
    (hrunning : thread.finished = false) (hguard : thread.awaitsGuard = true → m.guardFree = true)
    (ω : Ambient) : (m.step J (.resume i ω)).isSome := by
  rw [step_resume_of hget hrunning hguard ω]
  rfl

theorem exists_holdsGuard (h : m.guardFree = false) :
    ∃ (i : Nat) (thread : Thread), m.threads[i]? = some thread ∧ thread.holdsGuard = true := by
  by_contra hnone
  push Not at hnone
  have hfree : m.guardFree = true :=
    guardFree_iff.mpr fun i thread hget => Bool.eq_false_iff.mpr (hnone i thread hget)
  rw [h] at hfree
  cases hfree

/-- If some handler has not ended, one of those that have not can go on, whatever
its surroundings answer. -/
theorem exists_resumable {i : Nat} {thread : Thread} (hget : m.threads[i]? = some thread)
    (hrunning : thread.finished = false) :
    ∃ k tk, m.threads[k]? = some tk ∧ tk.finished = false ∧
      ∀ ω, (m.step J (.resume k ω)).isSome := by
  cases hfree : m.guardFree with
  | true =>
      exact ⟨i, thread, hget, hrunning, step_resume_isSome hget hrunning fun _ => hfree⟩
  | false =>
      -- the thread that holds the guard can go on
      obtain ⟨k, tk, hk, hholds⟩ := exists_holdsGuard hfree
      have htk : tk.finished = false := Thread.finished_of_holdsGuard hholds
      refine ⟨k, tk, hk, htk, step_resume_isSome hk htk fun hawaits => ?_⟩
      rw [Thread.awaitsGuard_of_holdsGuard hholds] at hawaits
      cases hawaits

/-- No handler can go on once all have ended. -/
theorem not_enabled_of_finished (h : ∀ thread ∈ m.threads, thread.finished = true) (i : Nat) :
    ¬Run.Enabled (step J) (fun a => ∃ ω, a = .resume i ω) m := by
  rintro ⟨_, ⟨ω, rfl⟩, hsome⟩
  obtain ⟨m', hstep⟩ := Option.isSome_iff_exists.mp hsome
  obtain ⟨thread, thread', hr⟩ := step_resume hstep
  have hrunning := hr.running
  rw [h thread (List.mem_of_getElem? hr.get)] at hrunning
  cases hrunning

/-! ## Bounded work -/

/-- How many pieces all handlers together have left at most. -/
def piecesLeft (m : Manager) : Nat := (m.threads.map Thread.piecesLeft).sum

theorem piecesLeft_dropThread (thread : Thread) :
    (dropThread thread).piecesLeft ≤ thread.piecesLeft := by
  rcases dropThread_cases thread with heq | heq <;> rw [heq]
  exact Nat.zero_le _

theorem piecesLeft_set {i : Nat} {thread : Thread} {threads : List Thread}
    (hget : threads[i]? = some thread) (thread' : Thread) :
    ((threads.set i thread').map Thread.piecesLeft).sum + thread.piecesLeft =
      (threads.map Thread.piecesLeft).sum + thread'.piecesLeft := by
  induction threads generalizing i with
  | nil => cases hget
  | cons t threads ih =>
      cases i with
      | zero =>
          cases hget
          simp only [List.set_cons_zero, List.map_cons, List.sum_cons]
          omega
      | succ i =>
          have := ih (i := i) hget
          simp only [List.set_cons_succ, List.map_cons, List.sum_cons]
          omega

def Action.isResume : Action → Bool
  | .resume _ _ => true
  | _ => false

def Action.isSend : Action → Bool
  | .send _ => true
  | _ => false

/-- A resumed handler takes one piece at least, a sent request brings three at most. -/
theorem step_piecesLeft {a : Action} (h : m.step J a = some m') :
    m'.piecesLeft + (if a.isResume then 1 else 0) ≤
      m.piecesLeft + 3 * (if a.isSend then 1 else 0) := by
  cases a with
  | send request =>
      cases h
      have hle := Thread.piecesLeft_le (.arrived request)
      simp only [piecesLeft, List.map_append, List.sum_append, List.map_cons, List.map_nil,
        List.sum_cons, List.sum_nil, Action.isResume, Action.isSend]
      simp only [Bool.false_eq_true, if_false, if_true]
      omega
  | resume i ω =>
      obtain ⟨thread, thread', hr⟩ := step_resume h
      have hlt := hr.resumes.piecesLeft_lt hr.running
      have hset := piecesLeft_set hr.get thread'
      simp only [piecesLeft, hr.threads, Action.isResume, Action.isSend]
      simp only [Bool.false_eq_true, if_false, if_true]
      omega
  | drop i =>
      obtain ⟨thread, hget, rfl⟩ := step_drop h
      have hle := piecesLeft_dropThread thread
      have hset := piecesLeft_set hget (dropThread thread)
      simp only [piecesLeft, Action.isResume, Action.isSend]
      simp only [Bool.false_eq_true, if_false]
      omega
  | restart =>
      cases h
      have hle : ∀ threads : List Thread,
          ((threads.map dropThread).map Thread.piecesLeft).sum ≤
            (threads.map Thread.piecesLeft).sum := by
        intro threads
        induction threads with
        | nil => exact Nat.le_refl 0
        | cons t threads ih => exact Nat.add_le_add (piecesLeft_dropThread t) ih
      have := hle m.threads
      simp only [piecesLeft, Action.isResume, Action.isSend]
      simp only [Bool.false_eq_true, if_false]
      omega

theorem run_piecesLeft {as : List Action} (h : Run.after (step J) m as = some m') :
    m'.piecesLeft + as.countP Action.isResume ≤ m.piecesLeft + 3 * as.countP Action.isSend := by
  induction as generalizing m with
  | nil =>
      cases h
      exact Nat.le_refl _
  | cons a as ih =>
      obtain ⟨m₁, h₁, hrest⟩ := Run.after_cons_eq_some.mp h
      have hstep := step_piecesLeft h₁
      have hrun := ih hrest
      rw [List.countP_cons, List.countP_cons]
      omega

/-- What a step does to a thread: nothing, a piece of its handler, or it is dropped. -/
theorem step_thread {a : Action} (h : m.step J a = some m') {i : Nat} {thread : Thread}
    (hi : m.threads[i]? = some thread) :
    m'.threads[i]? = some thread ∨
      (∃ ω thread', a = .resume i ω ∧ m.Resumed J i ω thread thread' m' ∧
        m'.threads[i]? = some thread') ∨
      ((a = .drop i ∨ a = .restart) ∧ thread.finished = false ∧
        m'.threads[i]? = some (.dropped thread.request)) := by
  obtain ⟨hlt, -⟩ := List.getElem?_eq_some_iff.mp hi
  have hdropped : m'.threads[i]? = some (dropThread thread) → (a = .drop i ∨ a = .restart) →
      m'.threads[i]? = some thread ∨ ((a = .drop i ∨ a = .restart) ∧ thread.finished = false ∧
        m'.threads[i]? = some (.dropped thread.request)) := by
    intro hget ha
    cases hfinished : thread.finished with
    | true =>
        rw [dropThread, if_pos hfinished] at hget
        exact .inl hget
    | false =>
        rw [dropThread, hfinished, if_neg Bool.false_ne_true] at hget
        exact .inr ⟨ha, rfl, hget⟩
  cases a with
  | send request =>
      cases h
      exact .inl ((List.getElem?_append_left hlt).trans hi)
  | resume k ω =>
      obtain ⟨t, t', hr⟩ := step_resume h
      by_cases hk : k = i
      · subst hk
        cases hr.get.symm.trans hi
        exact .inr (.inl ⟨ω, t', rfl, hr, by rw [hr.threads, List.getElem?_set_self hlt]⟩)
      · exact .inl (by rw [hr.threads, List.getElem?_set_ne hk, hi])
  | drop k =>
      obtain ⟨t, ht, rfl⟩ := step_drop h
      by_cases hk : k = i
      · subst hk
        cases ht.symm.trans hi
        exact (hdropped (List.getElem?_set_self hlt) (.inl rfl)).imp_right .inr
      · exact .inl ((List.getElem?_set_ne hk).trans hi)
  | restart =>
      cases h
      exact (hdropped (by rw [List.getElem?_map, hi, Option.map_some]) (.inr rfl)).imp_right .inr

/-! ## All requests are answered -/

/-- A handler that has not been dropped stays so until it is dropped, and keeps its request. -/
theorem step_worksOn {a : Action} (h : m.step J a = some m') {i : Nat} {thread : Thread}
    (hi : m.threads[i]? = some thread) {request : Request} (hworks : thread.WorksOn request)
    (hkept : thread.finished = false → a ≠ .drop i ∧ a ≠ .restart) :
    ∃ thread', m'.threads[i]? = some thread' ∧ thread'.WorksOn request := by
  rcases step_thread h hi with hsame | ⟨ω, thread', -, hr, hget⟩ | ⟨ha, hrunning, -⟩
  · exact ⟨thread, hsame, hworks⟩
  · exact ⟨thread', hget, hworks.resumes hr.resumes⟩
  · obtain ⟨hdrop, hrestart⟩ := hkept hrunning
    exact (ha.elim hdrop hrestart).elim

theorem run_worksOn {as : List Action} (h : Run.after (step J) m as = some m')
    (hresumes : as.all Action.isResume = true) {i : Nat} {thread : Thread}
    (hi : m.threads[i]? = some thread) {request : Request} (hworks : thread.WorksOn request) :
    ∃ thread', m'.threads[i]? = some thread' ∧ thread'.WorksOn request := by
  induction as generalizing m thread with
  | nil =>
      cases h
      exact ⟨thread, hi, hworks⟩
  | cons a as ih =>
      obtain ⟨m₁, h₁, hrest⟩ := Run.after_cons_eq_some.mp h
      simp only [List.all_cons, Bool.and_eq_true] at hresumes
      obtain ⟨thread₁, hget, hworks₁⟩ := step_worksOn h₁ hi hworks (by
        rintro -
        constructor <;> rintro rfl <;> cases hresumes.1)
      exact ih hrest hresumes.2 hget hworks₁

/-- In every state that a manager can reach, with any requests sent, dropped and
interrupted by restarts: the handlers have taken at most three turns for each
request; if one of them has not ended, one that has not can go on; and when nothing
but turns follows, there are only so many, and once none is possible any more, every
handler has ended, and those that had not ended before have answered. -/
theorem requests_complete (datastore : Datastore) (config : TaskProvisionerConfig)
    (as : List Action) (hrun : Run.after (step J) (.new datastore config) as = some m) :
    as.countP Action.isResume ≤ 3 * as.countP Action.isSend ∧
    (∀ (i : Nat) (thread : Thread), m.threads[i]? = some thread → thread.finished = false →
      ∃ (k : Nat) (tk : Thread), m.threads[k]? = some tk ∧ tk.finished = false ∧
        ∀ ω, (m.step J (.resume k ω)).isSome) ∧
    ∀ (bs : List Action) (m' : Manager), bs.all Action.isResume = true →
      Run.after (step J) m bs = some m' →
      as.countP Action.isResume + bs.length ≤ 3 * as.countP Action.isSend ∧
      ((∀ i ω, m'.step J (.resume i ω) = none) →
        ∀ (i : Nat) (thread : Thread), m'.threads[i]? = some thread → thread.finished = true ∧
          ∀ thread₀ : Thread, m.threads[i]? = some thread₀ → thread₀.finished = false →
            ∃ answer, thread = .answered thread₀.request answer) := by
  have hbound := run_piecesLeft hrun
  have hnew : (Manager.new datastore config).piecesLeft = 0 := rfl
  refine ⟨by omega, fun i thread hget hrunning => exists_resumable hget hrunning, ?_⟩
  intro bs m' hbs hrest
  have hbound' := run_piecesLeft hrest
  have hresumes : bs.countP Action.isResume = bs.length :=
    List.countP_eq_length.mpr (List.all_eq_true.mp hbs)
  have hsends : bs.countP Action.isSend = 0 := by
    refine List.countP_eq_zero.mpr fun a ha => ?_
    have hresume := List.all_eq_true.mp hbs a ha
    cases a <;> first | exact Bool.false_ne_true | cases hresume
  refine ⟨by omega, fun hstuck i thread hget => ?_⟩
  have hfinished : thread.finished = true := by
    by_contra hnot
    obtain ⟨k, tk, -, -, hstep⟩ := exists_resumable hget (Bool.eq_false_iff.mpr hnot)
    have hsome := hstep ⟨0, 0, [], .ok 0, .ok ()⟩
    rw [hstuck k ⟨0, 0, [], .ok 0, .ok ()⟩] at hsome
    cases hsome
  refine ⟨hfinished, fun thread₀ hget₀ hrunning => ?_⟩
  obtain ⟨thread', hget', hworks⟩ := run_worksOn hrest hbs hget₀ (Thread.worksOn_of_running hrunning)
  cases hget.symm.trans hget'
  exact hworks.answered hfinished

/-! ## Fair schedulers -/

/-- It is the turn of the thread with this number. -/
def Action.IsTurn (i : Nat) (a : Action) : Prop := ∃ ω, a = .resume i ω

/-- A manager that runs forever, under a scheduler that is strongly fair to every thread. -/
structure FairRun (J : Janus) (s : Nat → Manager) (as : Nat → Option Action) : Prop where
  forever : Run.Forever (step J) s as
  fair : ∀ i, Run.StronglyFair (step J) (Action.IsTurn i) s as
  exclusive : (s 0).Exclusive

/-- The guard is free once the thread that held it does not hold it any more. -/
theorem guardFree_of_released (hm : m.Exclusive) {a : Action} (h : m.step J a = some m') {i : Nat}
    {thread thread' : Thread} (hi : m.threads[i]? = some thread) (hholds : thread.holdsGuard = true)
    (hi' : m'.threads[i]? = some thread') (hreleased : thread'.holdsGuard = false) :
    m'.guardFree = true := by
  refine guardFree_iff.mpr fun k tk hk => ?_
  by_cases hki : k = i
  · subst hki
    cases hk.symm.trans hi'
    exact hreleased
  · have hother : ∀ t : Thread, m.threads[k]? = some t → t.holdsGuard = false := fun t ht =>
      Bool.eq_false_iff.mpr fun htrue => hki (hm k i t thread ht hi htrue hholds)
    cases step_origin h hk with
    | same hget => exact hother _ hget
    | arrived => rfl
    | dropped => rfl
    | resumed hr =>
        refine Bool.eq_false_iff.mpr fun htk => ?_
        rcases hr.resumes.holdsGuard_of htk with hawaits | hholds'
        · have hnot := guardFree_iff.mp (hr.guard hawaits) i thread hi
          rw [hholds] at hnot
          cases hnot
        · rw [hother _ hr.get] at hholds'
          cases hholds'

namespace FairRun

variable {s : Nat → Manager} {as : Nat → Option Action}

theorem exclusive_at (h : FairRun J s as) (n : Nat) : (s n).Exclusive :=
  h.forever.invariant_from (P := Exclusive) h.exclusive (fun _ _ _ hstep _ hm => hm.step hstep)
    (Nat.zero_le n)

/-- A thread that can go on again and again does not stay where it is. -/
theorem moves (h : FairRun J s as) {n i : Nat} {thread : Thread}
    (hget : (s n).threads[i]? = some thread) (hrunning : thread.finished = false)
    (hguard : ∀ m, ∃ k, m ≤ k ∧ (thread.awaitsGuard = true → (s k).guardFree = true)) :
    ∃ m a, n ≤ m ∧ (s m).threads[i]? = some thread ∧ (s m).step J a = some (s (m + 1)) ∧
      (s (m + 1)).threads[i]? ≠ some thread := by
  obtain ⟨m, hm, hsame, hleft⟩ :=
    (h.fair i).ends (K := fun m => m.threads[i]? = some thread) hget
      (by
        intro hforever m
        obtain ⟨k, hk, hfree⟩ := hguard (max m n)
        refine ⟨k, by omega, .resume i ⟨0, 0, [], .ok 0, .ok ()⟩, ⟨_, rfl⟩, ?_⟩
        exact step_resume_isSome (hforever k (by omega)) hrunning hfree _)
      (by
        rintro m a ha ⟨ω, rfl⟩ hsame heq
        obtain ⟨t, t', hr⟩ := step_resume (h.forever.move m _ ha)
        cases hr.get.symm.trans hsame
        have hlt := hr.resumes.piecesLeft_lt hr.running
        obtain ⟨hi, -⟩ := List.getElem?_eq_some_iff.mp hr.get
        rw [hr.threads, List.getElem?_set_self hi] at heq
        cases heq
        omega)
  cases ha : as m with
  | none =>
      rw [h.forever.pause m ha] at hleft
      exact (hleft hsame).elim
  | some a => exact ⟨m, a, hm, hsame, h.forever.move m a ha, hleft⟩

/-- The guard is given back again and again: the one who holds it needs no other. -/
theorem guard_released (h : FairRun J s as) (n : Nat) :
    ∃ m, n ≤ m ∧ (s m).guardFree = true := by
  have hholder : ∀ (pieces n i : Nat) (thread : Thread), thread.piecesLeft = pieces →
      (s n).threads[i]? = some thread → thread.holdsGuard = true →
      ∃ m, n ≤ m ∧ (s m).guardFree = true := by
    intro pieces
    induction pieces using Nat.strong_induction_on with
    | h pieces ih =>
        rintro n i thread rfl hget hholds
        obtain ⟨m, a, hm, hsame, hstep, hleft⟩ :=
          h.moves hget (Thread.finished_of_holdsGuard hholds) fun m => ⟨m, Nat.le_refl m, fun hawaits => by
            rw [Thread.awaitsGuard_of_holdsGuard hholds] at hawaits
            cases hawaits⟩
        rcases step_thread hstep hsame with hkept | ⟨ω, thread', -, hr, hget'⟩ | ⟨-, -, hget'⟩
        · exact (hleft hkept).elim
        · cases hholds' : thread'.holdsGuard with
          | true =>
              obtain ⟨k, hk, hfree⟩ := ih _ (hr.resumes.piecesLeft_lt hr.running) (m + 1) i thread'
                rfl hget' hholds'
              exact ⟨k, by omega, hfree⟩
          | false =>
              exact ⟨m + 1, by omega,
                guardFree_of_released (h.exclusive_at m) hstep hsame hholds hget' hholds'⟩
        · exact ⟨m + 1, by omega,
            guardFree_of_released (h.exclusive_at m) hstep hsame hholds hget' rfl⟩
  cases hfree : (s n).guardFree with
  | true => exact ⟨n, Nat.le_refl n, hfree⟩
  | false =>
      obtain ⟨i, thread, hget, hholds⟩ := exists_holdsGuard hfree
      exact hholder _ n i thread rfl hget hholds

/-- Every handler comes to its end. -/
theorem ends (h : FairRun J s as) (n i : Nat) (thread : Thread)
    (hget : (s n).threads[i]? = some thread) :
    ∃ m thread', n ≤ m ∧ (s m).threads[i]? = some thread' ∧ thread'.finished = true := by
  induction hpieces : thread.piecesLeft using Nat.strong_induction_on generalizing n thread with
  | h pieces ih =>
      subst hpieces
      cases hfinished : thread.finished with
      | true => exact ⟨n, thread, Nat.le_refl n, hget, hfinished⟩
      | false =>
          obtain ⟨m, a, hm, hsame, hstep, hleft⟩ :=
            h.moves hget hfinished fun m =>
              (h.guard_released m).imp fun k hk => ⟨hk.1, fun _ => hk.2⟩
          rcases step_thread hstep hsame with hkept | ⟨ω, thread', -, hr, hget'⟩ | ⟨-, -, hget'⟩
          · exact (hleft hkept).elim
          · obtain ⟨k, thread'', hk, hget'', hend⟩ :=
              ih _ (hr.resumes.piecesLeft_lt hr.running) (m + 1) thread' hget' rfl
            exact ⟨k, thread'', by omega, hget'', hend⟩
          · exact ⟨m + 1, _, by omega, hget', rfl⟩

/-- A handler that nobody drops has its request answered for good. -/
theorem answers (h : FairRun J s as) (n i : Nat) (thread : Thread)
    (hget : (s n).threads[i]? = some thread) {request : Request} (hworks : thread.WorksOn request)
    (hkept : ∀ m, n ≤ m → as m ≠ some (.drop i) ∧ as m ≠ some .restart) :
    ∃ m answer, n ≤ m ∧ ∀ k, m ≤ k → (s k).threads[i]? = some (.answered request answer) := by
  obtain ⟨m, thread', hm, hget', hfinished⟩ := h.ends n i thread hget
  obtain ⟨t, ht, hworked⟩ : ∃ t : Thread, (s m).threads[i]? = some t ∧ t.WorksOn request := by
    refine h.forever.invariant_from
      (P := fun m => ∃ t : Thread, m.threads[i]? = some t ∧ t.WorksOn request)
      ⟨thread, hget, hworks⟩ ?_ hm
    rintro k a hk hstep ha ⟨t, ht, hworks⟩
    obtain ⟨hdrop, hrestart⟩ := hkept k hk
    exact step_worksOn hstep ht hworks fun _ =>
      ⟨fun heq => hdrop (heq ▸ ha), fun heq => hrestart (heq ▸ ha)⟩
  cases ht.symm.trans hget'
  obtain ⟨answer, rfl⟩ := hworked.answered hfinished
  refine ⟨m, answer, hm, fun k hk => ?_⟩
  refine h.forever.invariant_from (P := fun m => m.threads[i]? = some (.answered request answer))
    hget' ?_ hk
  intro k a _ hstep _ hsame
  obtain ⟨thread'', hget'', -, hstays⟩ := step_keeps hstep hsame
  rw [hget'', hstays rfl]

end FairRun

/-- In every run of a manager that goes on forever, with requests that keep coming
in, with handlers that are dropped and with restarts, a scheduler that is strongly
fair to the handlers brings each of them to its end; and it answers every request
whose handler is not dropped, for good. -/
theorem fair_scheduler_answers (datastore : Datastore) (config : TaskProvisionerConfig)
    {s : Nat → Manager} {as : Nat → Option Action} (hstart : s 0 = .new datastore config)
    (hrun : Run.Forever (step J) s as)
    (hfair : ∀ i, Run.StronglyFair (step J) (Action.IsTurn i) s as)
    (n i : Nat) (thread : Thread) (hget : (s n).threads[i]? = some thread) :
    (∃ m thread', n ≤ m ∧ (s m).threads[i]? = some thread' ∧ thread'.finished = true) ∧
    ∀ request, thread.WorksOn request →
      (∀ m, n ≤ m → as m ≠ some (.drop i) ∧ as m ≠ some .restart) →
      ∃ m answer, n ≤ m ∧ ∀ k, m ≤ k → (s k).threads[i]? = some (.answered request answer) := by
  have h : FairRun J s as := ⟨hrun, hfair, by rw [hstart]; rintro i j ti tj ⟨⟩⟩
  exact ⟨h.ends n i thread hget, fun request hworks hkept => h.answers n i thread hget hworks hkept⟩

end Manager

namespace Sample

/-- Session 5 is created, and the handler of a round of it has come to its transaction.
It holds the guard, and the end of the session waits for it. -/
def heldActions : List Manager.Action :=
  [.send (.createSession (createRequest (some ⟨5⟩) [1])), .resume 0 (ambient 0),
   .resume 0 (ambient 0), .resume 0 (ambient 0),
   .send (.startRound (startRequest ⟨5⟩ (taskId 1))), .send (.endSession ⟨5⟩),
   .resume 1 (ambient 0)]

/-- Then the round is recorded, and the session is ended. -/
def releasedActions : List Manager.Action :=
  heldActions ++ [.resume 1 (ambient 0), .resume 1 (ambient 0), .resume 2 (ambient 0)]

theorem waiting_resumable :
    ∃ m, Run.after (Manager.step .plain) (.new ∅ config) heldActions = some m ∧
      m.guardFree = false ∧ m.threads[2]? = some (.arrived (.endSession ⟨5⟩)) ∧
      ∃ k tk, m.threads[k]? = some tk ∧ tk.finished = false ∧
        ∀ ω, (m.step .plain (.resume k ω)).isSome := by
  obtain ⟨m, hrun, hcheck⟩ := Option.any_eq_true _ _ |>.mp
    (by decide +kernel : (Run.after (Manager.step .plain) (.new ∅ config) heldActions).any
      (fun m => !m.guardFree && m.threads[2]? = some (.arrived (.endSession ⟨5⟩))) = true)
  simp only [Bool.and_eq_true, Bool.not_eq_true', decide_eq_true_eq] at hcheck
  obtain ⟨hheld, hwaits⟩ := hcheck
  exact ⟨m, hrun, hheld, hwaits,
    (Manager.requests_complete ∅ config heldActions hrun).2.1 2 _ hwaits rfl⟩

/-- The states of the manager while it takes these actions and then rests. -/
def releasedStates : Nat → Manager :=
  Run.resting (Manager.step .plain) (.new ∅ config) releasedActions

theorem releasedActions_kept (i : Nat) :
    ∀ a ∈ releasedActions, a ≠ .drop i ∧ a ≠ .restart := by
  simp [releasedActions, heldActions]

theorem waiting_answered :
    (releasedStates 7).guardFree = false ∧
      (releasedStates 7).threads[2]? = some (.arrived (.endSession ⟨5⟩)) ∧
      ∃ m answer, 7 ≤ m ∧ ∀ k, m ≤ k →
        (releasedStates k).threads[2]? = some (.answered (.endSession ⟨5⟩) answer) := by
  obtain ⟨m, hrun, hended⟩ := Option.any_eq_true _ _ |>.mp
    (by decide +kernel : (Run.after (Manager.step .plain) (.new ∅ config) releasedActions).any
      (fun m => m.threads.all Thread.finished) = true)
  have hheld : (releasedStates 7).guardFree = false := by decide +kernel
  have hwaits : (releasedStates 7).threads[2]? = some (.arrived (.endSession ⟨5⟩)) := by
    decide +kernel
  refine ⟨hheld, hwaits, ?_⟩
  refine (Manager.fair_scheduler_answers ∅ config Run.resting_zero (Run.Forever.resting hrun)
    (fun i => Run.StronglyFair.resting hrun ?_) 7 2 _ hwaits).2 _ ⟨rfl, nofun⟩ ?_
  · exact Manager.not_enabled_of_finished (List.all_eq_true.mp hended) i
  · exact fun k _ => ⟨fun ha => (releasedActions_kept 2 _ (List.mem_of_getElem? ha)).1 rfl,
      fun ha => (releasedActions_kept 2 _ (List.mem_of_getElem? ha)).2 rfl⟩

end Sample
