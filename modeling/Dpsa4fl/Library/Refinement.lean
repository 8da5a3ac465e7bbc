-- SUMMARY: Programs over two kinds of operations that do the same, on the condition that they get answers that mean the same.
import Dpsa4fl.Library.Script

/-!
# Refinement of scripts

Two scripts may speak to the outside in different terms. `Refines Q R m₁ m₂`
relates them step by step: they end alike, and they call operations that are
related by `Q` and go on alike from answers that are related by `R`. Servers that
keep to these relations then give both the same result.
-/

namespace Script

variable {Op₁ Op₂ : Type} {Ans₁ : Op₁ → Type} {Ans₂ : Op₂ → Type} {ε α β : Type}

/-- What answers to the two operations mean the same. -/
abbrev AnsRel (Ans₁ : Op₁ → Type) (Ans₂ : Op₂ → Type) : Type :=
  (op₁ : Op₁) → (op₂ : Op₂) → Ans₁ op₁ → Ans₂ op₂ → Prop

inductive Refines (Q : Op₁ → Op₂ → Prop) (R : AnsRel Ans₁ Ans₂) :
    Script Op₁ Ans₁ ε α → Script Op₂ Ans₂ ε α → Prop where
  | ret (a : α) : Refines Q R (ret a) (ret a)
  | fail (e : ε) : Refines Q R (fail e) (fail e)
  | call {op₁ op₂ k₁ k₂} (hop : Q op₁ op₂)
      (hk : ∀ r₁ r₂, R op₁ op₂ r₁ r₂ → Refines Q R (k₁ r₁) (k₂ r₂)) :
      Refines Q R (call op₁ k₁) (call op₂ k₂)

namespace Refines

variable {Q : Op₁ → Op₂ → Prop} {R : AnsRel Ans₁ Ans₂}

theorem bind {m₁ : Script Op₁ Ans₁ ε α} {m₂ : Script Op₂ Ans₂ ε α}
    {f₁ : α → Script Op₁ Ans₁ ε β} {f₂ : α → Script Op₂ Ans₂ ε β} (hm : Refines Q R m₁ m₂)
    (hf : ∀ a, Refines Q R (f₁ a) (f₂ a)) : Refines Q R (m₁ >>= f₁) (m₂ >>= f₂) := by
  induction hm with
  | ret a => exact hf a
  | fail e => exact .fail e
  | call hop _ ih => exact .call hop ih

/-- Against servers that give related answers to related operations, and keep an
invariant of their common state, both programs have the same result. -/
theorem exec_eq {σ : Type} {I : σ → Prop} {serve₁ : Nat → (op : Op₁) → σ → Ans₁ op × σ}
    {serve₂ : Nat → (op : Op₂) → σ → Ans₂ op × σ}
    (hserve : ∀ n op₁ op₂ s, Q op₁ op₂ → I s →
      R op₁ op₂ (serve₁ n op₁ s).1 (serve₂ n op₂ s).1 ∧
        (serve₁ n op₁ s).2 = (serve₂ n op₂ s).2 ∧ I (serve₂ n op₂ s).2)
    {m₁ : Script Op₁ Ans₁ ε α} {m₂ : Script Op₂ Ans₂ ε α} (hm : Refines Q R m₁ m₂) {s : σ}
    (hs : I s) (n : Nat) : m₁.exec serve₁ n s = m₂.exec serve₂ n s := by
  induction hm generalizing s n with
  | ret a => rfl
  | fail e => rfl
  | @call op₁ op₂ _ _ hop _ ih =>
      obtain ⟨hanswer, hstate, hinv⟩ := hserve n op₁ op₂ s hop hs
      rw [exec_call, exec_call, hstate]
      exact ih _ _ hanswer hinv (n + 1)

end Refines

end Script
