-- SUMMARY: The unwinding rule: if each step of a system is nothing to one of its users or a step of that user, a run without the others is a run of a system that the user has alone.
import Dpsa4fl.Library.Run

/-!
# Unwinding

Several users share a system. `view` says what an action is for one of them:
nothing, or an action of its own, which may have another number there. `purge`
takes what is nothing out of a run. `Unwinds` says, step by step, that the state
keeps its relation to that of a second system in which the user is alone, and
`Unwinds.run` says the same of whole runs.
-/

namespace Unwinding

variable {σ τ α β ν : Type}

/-- What a list of actions is for one user. The view of an action depends on a
counter, which `next` brings up to date. -/
def purge (view : ν → α → Option β) (next : ν → α → ν) : ν → List α → List β
  | _, [] => []
  | n, a :: as => (view n a).toList ++ purge view next (next n a) as

/-- The steps that meet `C` keep `R`, if the user's own steps are followed by an
action that is related to their view by `E`, and the others' by nothing. -/
structure Unwinds (step : σ → α → Option σ) (step₀ : τ → β → Option τ) (view : ν → α → Option β)
    (next : ν → α → ν) (count : σ → ν) (C : σ → α → Prop) (E : β → β → Prop) (R : σ → τ → Prop) :
    Prop where
  counts : ∀ {s a s'}, step s a = some s' → count s' = next (count s) a
  others : ∀ {s t a s'}, R s t → C s a → step s a = some s' → view (count s) a = none → R s' t
  own : ∀ {s t a s' b}, R s t → C s a → step s a = some s' → view (count s) a = some b →
    ∃ b' t', E b b' ∧ step₀ t b' = some t' ∧ R s' t'

theorem Unwinds.run {step : σ → α → Option σ} {step₀ : τ → β → Option τ} {view : ν → α → Option β}
    {next : ν → α → ν} {count : σ → ν} {C : σ → α → Prop} {E : β → β → Prop} {R : σ → τ → Prop}
    (h : Unwinds step step₀ view next count C E R) {s s' : σ} {t : τ} {as : List α} (hR : R s t)
    (hrun : Run.after step s as = some s') (hC : Run.Along step C s as) :
    ∃ bs t', List.Forall₂ E (purge view next (count s) as) bs ∧
      Run.after step₀ t bs = some t' ∧ R s' t' := by
  induction as generalizing s t with
  | nil =>
      cases hrun
      exact ⟨[], t, .nil, rfl, hR⟩
  | cons a as ih =>
      obtain ⟨s₁, hstep, hrest⟩ := Run.after_cons_eq_some.mp hrun
      obtain ⟨ha, hC⟩ := (Run.along_cons hstep).mp hC
      rw [purge, ← h.counts hstep]
      cases hview : view (count s) a with
      | none => exact ih (h.others hR ha hstep hview) hrest hC
      | some b =>
          obtain ⟨b', t₁, hb, hstep₀, hR₁⟩ := h.own hR ha hstep hview
          obtain ⟨bs, t', hbs, hrun₀, hR'⟩ := ih hR₁ hrest hC
          exact ⟨b' :: bs, t', .cons hb hbs, Run.after_cons_eq_some.mpr ⟨t₁, hstep₀, hrun₀⟩, hR'⟩

end Unwinding
