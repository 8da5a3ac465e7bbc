-- SUMMARY: Finite runs of a deterministic partial step function, with the rules that lift step lemmas to runs.
import Mathlib.Data.List.Basic
import Mathlib.Order.Defs.PartialOrder

/-!
# Runs

A system is given by its step function `step : σ → α → Option σ`: the label
`α` says which party moves and what its environment answers, and `none` says
that the move is not enabled. A run is a list of labels. Nondeterminism lives
in the choice of the labels, so a run can be evaluated.
-/

variable {σ τ α β : Type*}

namespace Run

/-- The state after the labels `as`, if each of them is enabled in turn. -/
def after (step : σ → α → Option σ) (s : σ) (as : List α) : Option σ :=
  as.foldlM step s

variable {step : σ → α → Option σ}

@[simp] theorem after_nil (s : σ) : after step s [] = some s := rfl

@[simp] theorem after_cons (s : σ) (a : α) (as : List α) :
    after step s (a :: as) = (step s a).bind fun s' => after step s' as := by
  simp only [after, List.foldlM_cons]
  rfl

theorem after_cons_eq_some {s s'' : σ} {a : α} {as : List α} :
    after step s (a :: as) = some s'' ↔
      ∃ s', step s a = some s' ∧ after step s' as = some s'' := by
  rw [after_cons, Option.bind_eq_some_iff]

theorem after_append {s s' : σ} {as bs : List α} (h : after step s as = some s') :
    after step s (as ++ bs) = after step s' bs := by
  induction as generalizing s with
  | nil => cases h; rfl
  | cons a as ih =>
      obtain ⟨s₁, h₁, hrest⟩ := after_cons_eq_some.mp h
      rw [List.cons_append, after_cons, h₁]
      exact ih hrest

/-! ## Invariants -/

/-- What every step preserves, every run preserves. -/
theorem invariant {P : σ → Prop} (hstep : ∀ s a s', P s → step s a = some s' → P s')
    {s s' : σ} {as : List α} (hs : P s) (hrun : after step s as = some s') : P s' := by
  induction as generalizing s with
  | nil => cases hrun; exact hs
  | cons a as ih =>
      obtain ⟨s₁, h₁, hrest⟩ := after_cons_eq_some.mp hrun
      exact ih (hstep s a s₁ hs h₁) hrest

/-- Every step of the run meets the condition `C` on the state before the step
and on the label. -/
def Along (step : σ → α → Option σ) (C : σ → α → Prop) : σ → List α → Prop
  | _, [] => True
  | s, a :: as => C s a ∧
    match step s a with
    | none => True
    | some s' => Along step C s' as

instance Along.decidable {C : σ → α → Prop} [∀ s a, Decidable (C s a)] :
    (s : σ) → (as : List α) → Decidable (Along step C s as)
  | _, [] => inferInstanceAs (Decidable True)
  | s, a :: as =>
    have : Decidable (match step s a with
        | none => True
        | some s' => Along step C s' as) :=
      match step s a with
      | none => inferInstanceAs (Decidable True)
      | some s' => decidable s' as
    inferInstanceAs (Decidable (_ ∧ _))

theorem along_cons {C : σ → α → Prop} {s s' : σ} {a : α} {as : List α} (h : step s a = some s') :
    Along step C s (a :: as) ↔ C s a ∧ Along step C s' as := by
  simp only [Along, h]

theorem along_append {C : σ → α → Prop} {s s' : σ} {as bs : List α}
    (h : after step s as = some s') :
    Along step C s (as ++ bs) ↔ Along step C s as ∧ Along step C s' bs := by
  induction as generalizing s with
  | nil => cases h; exact (and_iff_right trivial).symm
  | cons a as ih =>
      obtain ⟨s₁, h₁, hrest⟩ := after_cons_eq_some.mp h
      rw [List.cons_append, along_cons h₁, along_cons h₁, ih hrest, and_assoc]

theorem Along.and {C D : σ → α → Prop} {s : σ} {as : List α} (hC : Along step C s as)
    (hD : Along step D s as) : Along step (fun s a => C s a ∧ D s a) s as := by
  induction as generalizing s with
  | nil => trivial
  | cons a as ih =>
      refine ⟨⟨hC.1, hD.1⟩, ?_⟩
      have hrest := hC.2
      have hrest' := hD.2
      cases h : step s a with
      | none => trivial
      | some s' =>
          rw [h] at hrest hrest'
          exact ih hrest hrest'

theorem Along.mono {C C' : σ → α → Prop} (hC : ∀ s a, C s a → C' s a) {s : σ} {as : List α}
    (h : Along step C s as) : Along step C' s as := by
  induction as generalizing s with
  | nil => trivial
  | cons a as ih =>
      refine ⟨hC s a h.1, ?_⟩
      have hrest := h.2
      split at hrest
      · trivial
      · exact ih hrest

/-- A condition that follows from another one in the states that a run comes to. -/
theorem Along.mono_of {P : σ → Prop} {C C' : σ → α → Prop} (hC : ∀ s a, P s → C s a → C' s a)
    (hstep : ∀ s a s', P s → C s a → step s a = some s' → P s') {s : σ} {as : List α} (hs : P s)
    (h : Along step C s as) : Along step C' s as := by
  induction as generalizing s with
  | nil => trivial
  | cons a as ih =>
      refine ⟨hC s a hs h.1, ?_⟩
      have hrest := h.2
      split at hrest
      · trivial
      · rename_i s' heq
        exact ih (hstep s a s' hs h.1 heq) hrest

/-- A condition on the labels alone can be checked beforehand. -/
theorem Along.and_all {C : σ → α → Prop} {c : α → Bool} {s : σ} {as : List α}
    (h : Along step C s as) (hall : as.all c = true) :
    Along step (fun s a => c a = true ∧ C s a) s as := by
  induction as generalizing s with
  | nil => trivial
  | cons a as ih =>
      simp only [List.all_cons, Bool.and_eq_true] at hall
      refine ⟨⟨hall.1, h.1⟩, ?_⟩
      have hrest := h.2
      split at hrest
      · trivial
      · exact ih hrest hall.2

/-- The invariant rule for a run all of whose steps meet a condition. -/
theorem invariant_of {P : σ → Prop} {C : σ → α → Prop}
    (hstep : ∀ s a s', P s → C s a → step s a = some s' → P s')
    {s s' : σ} {as : List α} (hs : P s) (hrun : after step s as = some s')
    (hC : Along step C s as) : P s' := by
  induction as generalizing s with
  | nil => cases hrun; exact hs
  | cons a as ih =>
      obtain ⟨s₁, h₁, hrest⟩ := after_cons_eq_some.mp hrun
      obtain ⟨ha, hC⟩ := (along_cons h₁).mp hC
      exact ih (hstep s a s₁ hs ha h₁) hrest hC

/-- What holds after a step exactly if it held before and the step meets `C`, holds
after a run exactly if all its steps meet `C`. -/
theorem invariant_iff {P : σ → Prop} {C : σ → α → Prop}
    (hstep : ∀ s a s', step s a = some s' → (P s' ↔ P s ∧ C s a))
    {s s' : σ} {as : List α} (hrun : after step s as = some s') :
    P s' ↔ P s ∧ Along step C s as := by
  induction as generalizing s with
  | nil => cases hrun; exact (and_iff_left trivial).symm
  | cons a as ih =>
      obtain ⟨s₁, h₁, hrest⟩ := after_cons_eq_some.mp hrun
      rw [ih hrest, hstep s a s₁ h₁, along_cons h₁, and_assoc]

/-- In a run that ends in `Q`, every step meets a condition that follows from an
invariant before it and from `Q` after it, where `Q` held before a step whenever
it holds after it. -/
theorem along_of {P Q : σ → Prop} {D C : σ → α → Prop}
    (hP : ∀ s a s', P s → D s a → step s a = some s' → P s')
    (hQ : ∀ s a s', step s a = some s' → Q s' → Q s)
    (hC : ∀ s a s', P s → D s a → step s a = some s' → Q s' → C s a)
    {s s' : σ} {as : List α} (hs : P s) (hrun : after step s as = some s')
    (hD : Along step D s as) (hs' : Q s') : Q s ∧ Along step C s as := by
  induction as generalizing s with
  | nil => cases hrun; exact ⟨hs', trivial⟩
  | cons a as ih =>
      obtain ⟨s₁, h₁, hrest⟩ := after_cons_eq_some.mp hrun
      obtain ⟨ha, hD⟩ := (along_cons h₁).mp hD
      obtain ⟨hs₁, halong⟩ := ih (hP s a s₁ hs ha h₁) hrest hD
      exact ⟨hQ s a s₁ h₁ hs₁, (along_cons h₁).mpr ⟨hC s a s₁ hs ha h₁ hs₁, halong⟩⟩

/-- In a run all of whose steps meet `D`, every step meets a condition that follows
from `D` and an invariant before it. -/
theorem along_of_invariant {P : σ → Prop} {D C : σ → α → Prop}
    (hP : ∀ s a s', P s → D s a → step s a = some s' → P s')
    (hC : ∀ s a s', P s → D s a → step s a = some s' → C s a)
    {s s' : σ} {as : List α} (hs : P s) (hrun : after step s as = some s')
    (hD : Along step D s as) : Along step C s as :=
  (along_of (Q := fun _ => True) hP (fun _ _ _ _ h => h)
    (fun s a s' hs ha h _ => hC s a s' hs ha h) hs hrun hD trivial).2

theorem along_trivial {C : σ → α → Prop} (hC : ∀ s a, C s a) (s : σ) (as : List α) :
    Along step C s as := by
  induction as generalizing s with
  | nil => trivial
  | cons a as ih =>
      refine ⟨hC s a, ?_⟩
      split
      · trivial
      · exact ih _

/-- A reflexive and transitive relation that every step of an invariant state
respects relates the two ends of every run. -/
theorem stable {P : σ → Prop} {R : σ → σ → Prop} (hrefl : ∀ s, R s s)
    (htrans : ∀ {s₁ s₂ s₃}, R s₁ s₂ → R s₂ s₃ → R s₁ s₃)
    (hP : ∀ s a s', P s → step s a = some s' → P s')
    (hR : ∀ s a s', P s → step s a = some s' → R s s')
    {s s' : σ} {as : List α} (hs : P s) (hrun : after step s as = some s') : R s s' := by
  induction as generalizing s with
  | nil => cases hrun; exact hrefl _
  | cons a as ih =>
      obtain ⟨s₁, h₁, hrest⟩ := after_cons_eq_some.mp hrun
      exact htrans (hR s a s₁ hs h₁) (ih (hP s a s₁ hs h₁) hrest)

/-- `P` holds in every state of the run, the first and the last included. -/
def Throughout (step : σ → α → Option σ) (P : σ → Prop) (s : σ) (as : List α) : Prop :=
  ∀ pre post s', as = pre ++ post → after step s pre = some s' → P s'

theorem Throughout.nil {P : σ → Prop} {s : σ} (h : P s) : Throughout step P s [] := by
  intro pre post s' hsplit hpre
  obtain ⟨rfl, -⟩ := List.append_eq_nil_iff.mp hsplit.symm
  cases hpre
  exact h

theorem Throughout.cons {P : σ → Prop} {s s' : σ} {a : α} {as : List α} (hs : P s)
    (h : step s a = some s') (hrest : Throughout step P s' as) :
    Throughout step P s (a :: as) := by
  intro pre post s'' hsplit hpre
  cases pre with
  | nil => cases hpre; exact hs
  | cons b pre =>
      obtain ⟨rfl, rfl⟩ := List.cons.inj hsplit
      rw [after_cons, h] at hpre
      exact hrest pre post s'' rfl hpre

theorem Throughout.tail {P : σ → Prop} {s s' : σ} {a : α} {as : List α}
    (h : Throughout step P s (a :: as)) (hstep : step s a = some s') : Throughout step P s' as := by
  intro pre post s'' hsplit hpre
  refine h (a :: pre) post s'' (by rw [hsplit]; rfl) ?_
  rw [after_cons, hstep]
  exact hpre

theorem Throughout.head {P : σ → Prop} {s : σ} {as : List α} (h : Throughout step P s as) : P s :=
  h [] as s rfl rfl

/-- What a step keeps exactly if it meets `C` holds throughout a run exactly if all
its steps meet `C`. -/
theorem throughout_iff {I P : σ → Prop} {C : σ → α → Prop}
    (hI : ∀ s a s', I s → step s a = some s' → I s')
    (hP : ∀ s a s', I s → P s → step s a = some s' → (P s' ↔ C s a))
    {s s' : σ} {as : List α} (hs : I s) (hs' : P s) (hrun : after step s as = some s') :
    Throughout step P s as ↔ Along step C s as := by
  induction as generalizing s with
  | nil => exact iff_of_true (.nil hs') trivial
  | cons a as ih =>
      obtain ⟨s₁, h₁, hrest⟩ := after_cons_eq_some.mp hrun
      rw [along_cons h₁, ← hP s a s₁ hs hs' h₁]
      constructor
      · intro h
        have hs₁ : P s₁ := (h.tail h₁).head
        exact ⟨hs₁, (ih (hI s a s₁ hs h₁) hs₁ hrest).mp (h.tail h₁)⟩
      · rintro ⟨hs₁, h⟩
        exact .cons hs' h₁ ((ih (hI s a s₁ hs h₁) hs₁ hrest).mpr h)

/-- What holds at the end of a run has held throughout it, or it began to hold
at some step and has held ever since. -/
theorem throughout_or_began {P : σ → Prop} {s s' : σ} {as : List α}
    (hrun : after step s as = some s') (hs' : P s') :
    (P s ∧ Throughout step P s as) ∨
      ∃ pre a post s₁ s₂, as = pre ++ a :: post ∧ after step s pre = some s₁ ∧
        step s₁ a = some s₂ ∧ ¬ P s₁ ∧ P s₂ ∧ Throughout step P s₂ post := by
  induction as generalizing s with
  | nil => cases hrun; exact .inl ⟨hs', .nil hs'⟩
  | cons a as ih =>
      obtain ⟨s₁, h₁, hrest⟩ := after_cons_eq_some.mp hrun
      rcases ih hrest with ⟨hP, hthroughout⟩ | ⟨pre, b, post, s₂, s₃, rfl, hpre, hb⟩
      · by_cases hs : P s
        · exact .inl ⟨hs, hthroughout.cons hs h₁⟩
        · exact .inr ⟨[], a, as, s, s₁, rfl, rfl, h₁, hs, hP, hthroughout⟩
      · refine .inr ⟨a :: pre, b, post, s₂, s₃, rfl, ?_, hb⟩
        rw [after_cons, h₁]
        exact hpre

/-- What does not hold at the start of a run and holds at its end began to hold
at some step and has held ever since. -/
theorem began {P : σ → Prop} {s s' : σ} {as : List α} (hrun : after step s as = some s')
    (hs : ¬ P s) (hs' : P s') :
    ∃ pre a post s₁ s₂, as = pre ++ a :: post ∧ after step s pre = some s₁ ∧
      step s₁ a = some s₂ ∧ ¬ P s₁ ∧ P s₂ ∧ Throughout step P s₂ post :=
  (throughout_or_began hrun hs').resolve_left fun h => hs h.1

/-! ## Logs -/

section
variable {η : Type*}

/-- The system together with a log of its steps, which it does not read. -/
def withLog (step : σ → α → Option σ) (log : σ → α → η → η) (s : σ × η) (a : α) :
    Option (σ × η) :=
  (step s.1 a).map fun s' => (s', log s.1 a s.2)

theorem withLog_eq_some {log : σ → α → η → η} {s s' : σ × η} {a : α} :
    withLog step log s a = some s' ↔ step s.1 a = some s'.1 ∧ s'.2 = log s.1 a s.2 := by
  rw [withLog, Option.map_eq_some_iff]
  constructor
  · rintro ⟨s₁, h, rfl⟩
    exact ⟨h, rfl⟩
  · rintro ⟨h, hlog⟩
    exact ⟨s'.1, h, Prod.ext rfl hlog.symm⟩

end

/-! ## Two runs -/

/-- The system that takes a step in each of two copies. -/
def both (step : σ → α → Option σ) (s : σ × σ) (a : α × α) : Option (σ × σ) :=
  (step s.1 a.1).bind fun s' => (step s.2 a.2).map fun t' => (s', t')

theorem both_eq_some {s s' : σ × σ} {a : α × α} :
    both step s a = some s' ↔ step s.1 a.1 = some s'.1 ∧ step s.2 a.2 = some s'.2 := by
  simp only [both, Option.bind_eq_some_iff, Option.map_eq_some_iff]
  constructor
  · rintro ⟨s₁, h, t₁, h', rfl⟩
    exact ⟨h, h'⟩
  · rintro ⟨h, h'⟩
    exact ⟨s'.1, h, s'.2, h', rfl⟩

/-- What two steps with related labels preserve, two runs with related labels
preserve, if all their steps meet the condition `C`. -/
theorem invariant_both {L : α → α → Prop} {P : σ × σ → Prop} {C : σ × σ → α × α → Prop}
    (hstep : ∀ s a s', P s → L a.1 a.2 → C s a → both step s a = some s' → P s')
    {s t s' t' : σ} {as bs : List α} (hP : P (s, t)) (hL : List.Forall₂ L as bs)
    (hrun : after step s as = some s') (hrun' : after step t bs = some t')
    (hC : Along (both step) C (s, t) (as.zip bs)) : P (s', t') := by
  induction hL generalizing s t with
  | nil => cases hrun; cases hrun'; exact hP
  | cons hab _ ih =>
      obtain ⟨s₁, h₁, hrest⟩ := after_cons_eq_some.mp hrun
      obtain ⟨t₁, h₁', hrest'⟩ := after_cons_eq_some.mp hrun'
      have hboth : both step (_, _) (_, _) = some (s₁, t₁) := both_eq_some.mpr ⟨h₁, h₁'⟩
      obtain ⟨ha, hC⟩ := (along_cons hboth).mp hC
      exact ih (hstep _ _ _ hP hab ha hboth) hrest hrest' hC

/-! ## Projections -/

/-- Labels of another type are run by translating them first. -/
theorem after_relabel (g : β → α) (s : σ) (bs : List β) :
    after step s (bs.map g) = after (fun s b => step s (g b)) s bs := by
  unfold after
  rw [List.foldlM_map]

/-- If every step of a system is, seen through `f`, the step of a second system
that `g` says, or leaves that one as it is, then every run of the first is a run of
the second. -/
theorem after_filterMap {step' : τ → β → Option τ} (f : σ → τ) (g : α → Option β)
    (hstep : ∀ s a s', step s a = some s' →
      g a = none ∧ f s' = f s ∨ ∃ b, g a = some b ∧ step' (f s) b = some (f s'))
    {s s' : σ} {as : List α} (hrun : after step s as = some s') :
    after step' (f s) (as.filterMap g) = some (f s') := by
  induction as generalizing s with
  | nil => cases hrun; rfl
  | cons a as ih =>
      obtain ⟨s₁, h₁, hrest⟩ := after_cons_eq_some.mp hrun
      rcases hstep s a s₁ h₁ with ⟨hg, hsame⟩ | ⟨b, hg, hb⟩
      · rw [List.filterMap_cons_none hg, ← hsame]
        exact ih hrest
      · rw [List.filterMap_cons_some hg]
        exact after_cons_eq_some.mpr ⟨f s₁, hb, ih hrest⟩

/-- The same for a second system that takes every step with the same label. -/
theorem after_image {step' : τ → α → Option τ} (f : σ → τ)
    (hstep : ∀ s a s', step s a = some s' → step' (f s) a = some (f s'))
    {s s' : σ} {as : List α} (hrun : after step s as = some s') :
    after step' (f s) as = some (f s') := by
  have h := after_filterMap f some (fun s a s' h => .inr ⟨a, rfl, hstep s a s' h⟩) hrun
  rwa [List.filterMap_some] at h

end Run
