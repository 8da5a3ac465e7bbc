-- SUMMARY: Runs of a manager without some of its requests, when these leave no trace in its state.
import Dpsa4fl.Library.Erasure
import Dpsa4fl.JanusManager.Alike

/-!
# Runs without some requests

`Action.without erased` takes the requests with the numbers in `erased` out of a
run of a manager: they are not sent, and their threads are neither resumed nor
dropped. If the erased threads leave the state as it was, up to `Alike`, what
remains is again a run, in which every other thread gets to the same place.
-/

open Erasure

namespace Manager

/-- The action in the run without the erased threads, if it stays there. So far
`n` requests were sent. -/
def Action.renumber (erased : Nat → Bool) (n : Nat) : Action → Option Action
  | send request => if erased n then none else some (send request)
  | resume i ω => if erased i then none else some (resume (rank erased i) ω)
  | drop i => if erased i then none else some (drop (rank erased i))
  | restart => some restart

/-- The number of requests sent after the action, if it was `n` before. -/
def Action.sent (n : Nat) : Action → Nat
  | send _ => n + 1
  | _ => n

def Action.without (erased : Nat → Bool) : Nat → List Action → List Action
  | _, [] => []
  | n, a :: as => (a.renumber erased n).toList ++ without erased (a.sent n) as

/-- The action is not one of an erased thread that changes the state. -/
def Traceless (J : Janus) (T : List TaskId → List TaskId → Prop) (erased : Nat → Bool)
    (m : Manager) (a : Action) : Prop :=
  ∀ i ω m', a = .resume i ω → erased i = true → m.step J a = some m' →
    m.provisioner.Alike T m'.provisioner

/-- `m₀` is `m` without the erased threads. -/
structure Erases (T : List TaskId → List TaskId → Prop) (erased : Nat → Bool) (m m₀ : Manager) :
    Prop where
  threads : m₀.threads = without erased m.threads
  provisioner : m.provisioner.Alike T m₀.provisioner

theorem step_sent {J : Janus} {m m' : Manager} {a : Action} (h : m.step J a = some m') :
    m'.threads.length = a.sent m.threads.length := by
  cases a with
  | send request => cases h; simp [Action.sent]
  | resume i ω =>
      obtain ⟨thread, thread', hr⟩ := step_resume h
      simp [hr.threads, Action.sent]
  | drop i =>
      obtain ⟨thread, -, rfl⟩ := step_drop h
      simp [Action.sent]
  | restart => cases h; simp [Action.sent]

namespace Erases

variable {J : Janus} {T : List TaskId → List TaskId → Prop} {erased : Nat → Bool} {m m' m₀ : Manager}

theorem guardFree (h : Erases T erased m m₀) (hfree : m.guardFree = true) :
    m₀.guardFree = true := by
  simp only [Manager.guardFree, List.all_eq_true, h.threads] at hfree ⊢
  exact fun thread hthread => hfree thread (mem_of_mem_without hthread)

section
variable (hT : Indistinct T)
include hT

/-- Erasing what was never there changes nothing. -/
theorem refl (h : ∀ i, i < m.threads.length → erased i = false) : Erases T erased m m where
  threads := (without_eq_self h).symm
  provisioner := .refl hT _

/-- A step of an erased thread. -/
theorem step_erased (h : Erases T erased m m₀) {a : Action} (hstep : m.step J a = some m')
    (htraceless : Traceless J T erased m a) (ha : a.renumber erased m.threads.length = none) :
    Erases T erased m' m₀ := by
  cases a with
  | send request =>
      cases hstep
      simp only [Action.renumber, ite_eq_left_iff, reduceCtorEq, imp_false, Bool.not_eq_true,
        Bool.not_eq_false] at ha
      exact ⟨by rw [without_concat, ha, h.threads]; simp, h.provisioner⟩
  | resume i ω =>
      simp only [Action.renumber, ite_eq_left_iff, reduceCtorEq, imp_false, Bool.not_eq_true,
        Bool.not_eq_false] at ha
      have halike := htraceless i ω m' rfl ha hstep
      obtain ⟨thread, thread', hr⟩ := step_resume hstep
      refine ⟨?_, (halike.symm hT).trans hT h.provisioner⟩
      rw [hr.threads, without_set_erased ha, h.threads]
  | drop i =>
      simp only [Action.renumber, ite_eq_left_iff, reduceCtorEq, imp_false, Bool.not_eq_true,
        Bool.not_eq_false] at ha
      obtain ⟨thread, -, rfl⟩ := step_drop hstep
      exact ⟨by rw [without_set_erased ha, h.threads], h.provisioner⟩
  | restart => cases ha

/-- A step of any other thread is one without the erased threads, too. -/
theorem step_kept (h : Erases T erased m m₀) {a b : Action} (hstep : m.step J a = some m')
    (ha : a.renumber erased m.threads.length = some b) :
    ∃ m₀', m₀.step J b = some m₀' ∧ Erases T erased m' m₀' := by
  cases a with
  | send request =>
      cases hstep
      simp only [Action.renumber, Option.ite_none_left_eq_some, Option.some.injEq] at ha
      obtain ⟨hn, rfl⟩ := ha
      refine ⟨_, rfl, ⟨?_, h.provisioner⟩⟩
      rw [without_concat, if_neg hn, h.threads]
  | resume i ω =>
      simp only [Action.renumber, Option.ite_none_left_eq_some, Option.some.injEq,
        Bool.not_eq_true] at ha
      obtain ⟨hi, rfl⟩ := ha
      simp only [step] at hstep ⊢
      split at hstep
      · cases hstep
      · rename_i thread hget
        split at hstep
        · cases hstep
        · rename_i henabled
          cases hstep
          obtain ⟨hthread, halike⟩ := thread.resume_alike hT J ω h.provisioner
          have henabled₀ : ¬(thread.finished || (thread.awaitsGuard && !m₀.guardFree)) = true := by
            cases hfree : m.guardFree with
            | true =>
                rw [h.guardFree hfree]
                rwa [hfree] at henabled
            | false =>
                simp only [hfree, Bool.not_false, Bool.and_true, Bool.or_eq_true, not_or,
                  Bool.not_eq_true] at henabled
                simp [henabled.1, henabled.2]
          rw [h.threads, getElem?_without hi, hget]
          refine ⟨_, if_neg henabled₀, ⟨?_, halike⟩⟩
          rw [without_set hi, hthread]
  | drop i =>
      simp only [Action.renumber, Option.ite_none_left_eq_some, Option.some.injEq,
        Bool.not_eq_true] at ha
      obtain ⟨hi, rfl⟩ := ha
      obtain ⟨thread, hget, rfl⟩ := step_drop hstep
      have hget₀ : m₀.threads[rank erased i]? = some thread := by
        rw [h.threads, getElem?_without hi, hget]
      refine ⟨{ m₀ with threads := m₀.threads.set (rank erased i) (dropThread thread) }, ?_,
        ⟨?_, h.provisioner⟩⟩
      · simp only [step, hget₀]
      · rw [without_set hi, h.threads]
  | restart =>
      cases hstep
      cases ha
      refine ⟨_, rfl, ⟨?_, ?_⟩⟩
      · rw [without_map, h.threads]
      · exact ⟨h.provisioner.datastore, h.provisioner.config, rfl, fun id => .none⟩

/-- A run in which the erased threads leave no trace is a run without them. -/
theorem run {as : List Action} (h : Erases T erased m m₀)
    (hrun : Run.after (Manager.step J) m as = some m')
    (htraceless : Run.Along (Manager.step J) (Traceless J T erased) m as) :
    ∃ m₀', Run.after (Manager.step J) m₀ (Action.without erased m.threads.length as) = some m₀' ∧
      Erases T erased m' m₀' := by
  induction as generalizing m m₀ with
  | nil => cases hrun; exact ⟨m₀, rfl, h⟩
  | cons a as ih =>
      obtain ⟨m₁, hstep, hrest⟩ := Run.after_cons_eq_some.mp hrun
      obtain ⟨ha, htraceless⟩ := (Run.along_cons hstep).mp htraceless
      rw [Action.without, ← step_sent hstep]
      cases hb : a.renumber erased m.threads.length with
      | none => exact ih (h.step_erased hT hstep ha hb) hrest htraceless
      | some b =>
          obtain ⟨m₀₁, hstep₀, h₁⟩ := h.step_kept hT hstep hb
          obtain ⟨m₀', hrun₀, h'⟩ := ih h₁ hrest htraceless
          exact ⟨m₀', Run.after_cons_eq_some.mpr ⟨m₀₁, hstep₀, hrun₀⟩, h'⟩

end

end Erases

end Manager
