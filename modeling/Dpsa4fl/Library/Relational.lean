-- SUMMARY: Rules for what a program with state and failures can change, and for two of them that are run from related states.
import Mathlib.Order.Defs.Unbundled

/-!
# One run and two runs of programs

`Within R x` says that `x` ends in a state that is related by `R` to the one it
was started in, also if it fails, and `Fails Q x` that it fails only in ways that
meet `Q`. `Relates R V x y` says that the programs `x` and `y`, started in states
that are related by `R`, both return, with values related by `V`, or both fail
with the same failure, and that the states they end in are related by `R` again.
For each of them there is one rule for each way of forming a program.
-/

variable {ε σ τ α β γ δ : Type}

namespace Relational

/-! ## One run -/

/-- The state in which a run ends. -/
def final : EStateM.Result ε σ α → σ
  | .ok _ s => s
  | .error _ s => s

def Within (R : σ → σ → Prop) (x : EStateM ε σ α) : Prop := ∀ s, R s (final (x.run s))

namespace Within

variable {R : σ → σ → Prop}

theorem ok {x : EStateM ε σ α} (h : Within R x) {s s' : σ} {a : α} (hrun : x.run s = .ok a s') :
    R s s' := by
  have hs := h s
  rwa [hrun] at hs

theorem error {x : EStateM ε σ α} (h : Within R x) {s s' : σ} {e : ε}
    (hrun : x.run s = .error e s') : R s s' := by
  have hs := h s
  rwa [hrun] at hs

section
variable [Std.Refl R]

theorem pure (a : α) : Within (ε := ε) R (Pure.pure a) := fun s => Std.Refl.refl s

theorem throw (e : ε) : Within R (MonadExcept.throw e : EStateM ε σ α) := fun s => Std.Refl.refl s

theorem get : Within (ε := ε) R MonadState.get := fun s => Std.Refl.refl s

end

theorem modify {f : σ → σ} (h : ∀ s, R s (f s)) : Within (ε := ε) R (modify f) := h

theorem bind [IsTrans σ R] {x : EStateM ε σ α} {f : α → EStateM ε σ β} (hx : Within R x)
    (hf : ∀ a, Within R (f a)) : Within R (x >>= f) := by
  intro s
  rw [EStateM.run_bind]
  cases hrun : x.run s with
  | ok a s' => exact IsTrans.trans _ _ _ (hx.ok hrun) (hf a s')
  | error e s' => exact hx.error hrun

end Within

/-- All the failures of `x` meet `Q`. -/
def Fails (Q : ε → Prop) (x : EStateM ε σ α) : Prop := ∀ s e s', x.run s = .error e s' → Q e

namespace Fails

variable {Q : ε → Prop}

theorem pure (a : α) : Fails Q (Pure.pure a : EStateM ε σ α) := fun _ _ _ h => by cases h

theorem throw {e : ε} (h : Q e) : Fails Q (MonadExcept.throw e : EStateM ε σ α) :=
  fun _ _ _ h' => by cases h'; exact h

theorem get : Fails Q (MonadState.get : EStateM ε σ σ) := fun _ _ _ h => by cases h

theorem set (s : σ) : Fails Q (MonadStateOf.set s : EStateM ε σ PUnit) :=
  fun _ _ _ h => by cases h

theorem modify (f : σ → σ) : Fails Q (modify f : EStateM ε σ PUnit) := fun _ _ _ h => by cases h

theorem bind {x : EStateM ε σ α} {f : α → EStateM ε σ β} (hx : Fails Q x)
    (hf : ∀ a, Fails Q (f a)) : Fails Q (x >>= f) := by
  intro s e s' h
  rw [EStateM.run_bind] at h
  cases hrun : x.run s with
  | ok a s₁ =>
      rw [hrun] at h
      exact hf a s₁ e s' h
  | error e' s₁ =>
      rw [hrun] at h
      cases h
      exact hx s e s' hrun

end Fails

/-! ## Two runs -/

/-- Both results are values related by `V`, or they are the same failure. The
states are related by `R`. -/
inductive Results (R : σ → τ → Prop) (V : α → β → Prop) :
    EStateM.Result ε σ α → EStateM.Result ε τ β → Prop where
  | ok {a b s t} (hV : V a b) (hR : R s t) : Results R V (.ok a s) (.ok b t)
  | error {e s t} (hR : R s t) : Results R V (.error e s) (.error e t)

def Relates (R : σ → τ → Prop) (V : α → β → Prop) (x : EStateM ε σ α) (y : EStateM ε τ β) : Prop :=
  ∀ s t, R s t → Results R V (x.run s) (y.run t)

namespace Relates

variable {R : σ → τ → Prop} {V : α → β → Prop} {W : γ → δ → Prop}

theorem pure {a : α} {b : β} (h : V a b) :
    Relates (ε := ε) R V (Pure.pure a) (Pure.pure b) :=
  fun _ _ hR => .ok h hR

theorem throw (e : ε) :
    Relates R V (MonadExcept.throw e : EStateM ε σ α) (MonadExcept.throw e : EStateM ε τ β) :=
  fun _ _ hR => .error hR

theorem bind {x : EStateM ε σ α} {y : EStateM ε τ β} {f : α → EStateM ε σ γ}
    {g : β → EStateM ε τ δ} (hx : Relates R V x y)
    (hf : ∀ a b, V a b → Relates R W (f a) (g b)) : Relates R W (x >>= f) (y >>= g) := by
  intro s t hR
  rw [EStateM.run_bind, EStateM.run_bind]
  have h := hx s t hR
  revert h
  generalize x.run s = rx
  generalize y.run t = ry
  intro h
  cases h with
  | ok hV hR' => exact hf _ _ hV _ _ hR'
  | error hR' => exact .error hR'

theorem get : Relates (ε := ε) R R (MonadState.get) (MonadState.get) :=
  fun _ _ hR => .ok hR hR

/-- A program that starts by reading its state. -/
theorem get_bind {f : σ → EStateM ε σ γ} {g : τ → EStateM ε τ δ}
    (h : ∀ s t, R s t → Relates R W (f s) (g t)) :
    Relates R W (MonadState.get >>= f) (MonadState.get >>= g) :=
  get.bind h

theorem set {s : σ} {t : τ} (h : R s t) :
    Relates (ε := ε) R Eq (MonadStateOf.set s) (MonadStateOf.set t) :=
  fun _ _ _ => .ok rfl h

theorem modify {f : σ → σ} {g : τ → τ} (h : ∀ s t, R s t → R (f s) (g t)) :
    Relates (ε := ε) R Eq (modify f) (modify g) :=
  fun s t hR => .ok rfl (h s t hR)

end Relates

end Relational
