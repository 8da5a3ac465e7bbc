-- SUMMARY: Infinite runs that may pause, strong fairness, the rule that a fair move comes about, and what a projection keeps.
import Dpsa4fl.Library.Run
import Mathlib.Data.Nat.Init

/-!
# Infinite runs

A run that goes on forever is a sequence of states with the label of the step from
each one to the next; no label means that the system pauses. A run is strongly fair
to some moves if it makes them again and again, provided that they are enabled again
and again.
-/

namespace Run

variable {σ α : Type*}

structure Forever (step : σ → α → Option σ) (s : ℕ → σ) (as : ℕ → Option α) : Prop where
  pause : ∀ n, as n = none → s (n + 1) = s n
  move : ∀ n a, as n = some a → step (s n) a = some (s (n + 1))

/-- Some of the moves can be made. -/
def Enabled (step : σ → α → Option σ) (moves : α → Prop) (s : σ) : Prop :=
  ∃ a, moves a ∧ (step s a).isSome

def StronglyFair (step : σ → α → Option σ) (moves : α → Prop) (s : ℕ → σ)
    (as : ℕ → Option α) : Prop :=
  (∀ n, ∃ m, n ≤ m ∧ Enabled step moves (s m)) → ∀ n, ∃ m a, n ≤ m ∧ as m = some a ∧ moves a

namespace Forever

variable {step : σ → α → Option σ} {s : ℕ → σ} {as : ℕ → Option α}

/-- What every step from some point on keeps. -/
theorem invariant_from {P : σ → Prop} (h : Forever step s as) {n : ℕ} (hn : P (s n))
    (hstep : ∀ m a, n ≤ m → step (s m) a = some (s (m + 1)) → as m = some a → P (s m) →
      P (s (m + 1))) {m : ℕ} (hm : n ≤ m) : P (s m) := by
  induction m, hm using Nat.le_induction with
  | base => exact hn
  | succ m hm ih =>
      cases ha : as m with
      | none =>
          rw [h.pause m ha]
          exact ih
      | some a => exact hstep m a hm (h.move m a ha) ha ih

end Forever

section
variable {step : σ → α → Option σ} {s : ℕ → σ} {as : ℕ → Option α}

/-- What does not last forever is ended by some step. -/
theorem exists_left {K : σ → Prop} {n : ℕ} (hn : K (s n)) (hnot : ¬∀ m, n ≤ m → K (s m)) :
    ∃ m, n ≤ m ∧ K (s m) ∧ ¬K (s (m + 1)) := by
  by_contra hnone
  push Not at hnone
  exact hnot fun m hm => Nat.le_induction hn hnone m hm

/-- What is ended by each of the moves, and enables them again and again for as long
as it lasts, comes to an end in a run that is fair to them. -/
theorem StronglyFair.ends {moves : α → Prop} (hfair : StronglyFair step moves s as)
    {K : σ → Prop} {n : ℕ} (hn : K (s n))
    (henabled : (∀ m, n ≤ m → K (s m)) → ∀ m, ∃ k, m ≤ k ∧ Enabled step moves (s k))
    (hmove : ∀ m a, as m = some a → moves a → K (s m) → ¬K (s (m + 1))) :
    ∃ m, n ≤ m ∧ K (s m) ∧ ¬K (s (m + 1)) := by
  refine exists_left hn fun hforever => ?_
  obtain ⟨m, a, hm, ha, hmoves⟩ := hfair (henabled hforever) n
  exact hmove m a ha hmoves (hforever m hm) (hforever (m + 1) (Nat.le_succ_of_le hm))

end

/-! ## Runs that come to rest -/

section
variable {step : σ → α → Option σ} {s s' : σ} {as : List α}

/-- The states along a finite run; from its end on, the system rests. -/
def resting (step : σ → α → Option σ) (s : σ) (as : List α) (n : ℕ) : σ :=
  (after step s (as.take n)).getD s

@[simp] theorem resting_zero : resting step s as 0 = s := by simp [resting]

theorem resting_of_length_le (h : after step s as = some s') {n : ℕ} (hn : as.length ≤ n) :
    resting step s as n = s' := by
  rw [resting, List.take_of_length_le hn, h, Option.getD_some]

/-- The first steps of a run are a run. -/
theorem exists_after_take (h : after step s as = some s') (n : ℕ) :
    ∃ sₙ, after step s (as.take n) = some sₙ ∧ after step sₙ (as.drop n) = some s' := by
  refine Option.bind_eq_some_iff.mp ?_
  rw [← h, after, after, ← List.take_append_drop n as, List.foldlM_append]
  simp [after]

theorem Forever.resting (h : after step s as = some s') :
    Forever step (resting step s as) fun n => as[n]? where
  pause n hn := by
    have hle := List.getElem?_eq_none_iff.mp hn
    rw [resting_of_length_le h hle, resting_of_length_le h (Nat.le_succ_of_le hle)]
  move n a ha := by
    obtain ⟨sₙ, htake, hdrop⟩ := exists_after_take h n
    obtain ⟨hlt, rfl⟩ := List.getElem?_eq_some_iff.mp ha
    rw [List.drop_eq_getElem_cons hlt] at hdrop
    obtain ⟨s₁, hstep, -⟩ := after_cons_eq_some.mp hdrop
    have hnext : after step s (as.take (n + 1)) = some s₁ := by
      rw [List.take_add_one, List.getElem?_eq_getElem hlt, after_append htake]
      exact after_cons_eq_some.mpr ⟨s₁, hstep, rfl⟩
    rw [Run.resting, htake, Run.resting, hnext]
    exact hstep

/-- A run is fair to moves of which none is possible where it comes to rest. -/
theorem StronglyFair.resting {moves : α → Prop} (h : after step s as = some s')
    (hrest : ¬Enabled step moves s') :
    StronglyFair step moves (resting step s as) fun n => as[n]? := by
  intro henabled
  obtain ⟨m, hm, hmove⟩ := henabled as.length
  rw [resting_of_length_le h hm] at hmove
  exact (hrest hmove).elim

end

/-! ## Projections -/

section
variable {τ β : Type*} {step : σ → α → Option σ} {s : ℕ → σ} {as : ℕ → Option α}
  {step' : τ → β → Option τ}

/-- If every step of a system is, seen through `f`, a pause of a second system or the
step of it that `g` says, then the second system runs forever with the first. -/
theorem Forever.project (h : Forever step s as) (f : σ → τ) (g : α → Option β)
    (hstep : ∀ s a s', step s a = some s' →
      g a = none ∧ f s' = f s ∨ ∃ b, g a = some b ∧ step' (f s) b = some (f s')) :
    Forever step' (fun n => f (s n)) fun n => (as n).bind g where
  pause n hn := by
    cases ha : as n with
    | none => rw [h.pause n ha]
    | some a =>
        rw [ha] at hn
        rcases hstep _ a _ (h.move n a ha) with ⟨-, hsame⟩ | ⟨b, hb, -⟩
        · exact hsame
        · cases hb.symm.trans hn
  move n b hn := by
    obtain ⟨a, ha, hg⟩ := Option.bind_eq_some_iff.mp hn
    rcases hstep _ a _ (h.move n a ha) with ⟨hnone, -⟩ | ⟨b', hb', hmove⟩
    · cases hnone.symm.trans hg
    · obtain rfl := Option.some.inj (hb'.symm.trans hg)
      exact hmove

/-- Moves that are enabled together in both systems are fair in both. -/
theorem StronglyFair.project {moves : α → Prop} {moves' : β → Prop}
    (hfair : StronglyFair step moves s as) (f : σ → τ) (g : α → Option β)
    (henabled : ∀ s, Enabled step' moves' (f s) → Enabled step moves s)
    (hmoves : ∀ a, moves a → ∃ b, g a = some b ∧ moves' b) :
    StronglyFair step' moves' (fun n => f (s n)) fun n => (as n).bind g := by
  intro hagain n
  obtain ⟨m, a, hm, ha, hmove⟩ := hfair (fun n => by
    obtain ⟨m, hm, h⟩ := hagain n
    exact ⟨m, hm, henabled _ h⟩) n
  obtain ⟨b, hb, hmove'⟩ := hmoves a hmove
  exact ⟨m, b, hm, Option.bind_eq_some_iff.mpr ⟨a, ha, hb⟩, hmove'⟩

end

end Run
