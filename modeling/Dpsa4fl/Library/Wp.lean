-- SUMMARY: Weakest preconditions of scripts, where the outside is assumed to answer in certain ways only.
import Dpsa4fl.Library.Script

/-!
# Weakest preconditions

`m.wp G Q` says that the script `m` can only end as `Q` says, if every answer it
gets is one that `G` allows. `Q` is about the exchanges of the whole run and the
result. The rules follow the constructors of a script.
-/

namespace Script

variable {Op : Type} {Ans : Op → Type} {ε ε' α β : Type}

/-- Which answers to an operation are allowed. -/
abbrev Allowed (Op : Type) (Ans : Op → Type) : Type := (op : Op) → Ans op → Prop

/-- What is said about the end of a run: its exchanges and its result. -/
abbrev Post (Op : Type) (Ans : Op → Type) (ε α : Type) : Type :=
  List (Exchange Op Ans) → Except ε α → Prop

def wp (G : Allowed Op Ans) : Script Op Ans ε α → Post Op Ans ε α → Prop
  | ret a, Q => Q [] (.ok a)
  | fail e, Q => Q [] (.error e)
  | call op k, Q => ∀ r, G op r → (k r).wp G fun es result => Q (⟨op, r⟩ :: es) result

variable {G : Allowed Op Ans} {m : Script Op Ans ε α} {Q Q' : Post Op Ans ε α}

@[simp] theorem wp_ret (a : α) : (ret a : Script Op Ans ε α).wp G Q = Q [] (.ok a) := rfl
@[simp] theorem wp_fail (e : ε) : (fail e : Script Op Ans ε α).wp G Q = Q [] (.error e) := rfl
@[simp] theorem wp_call (op : Op) (k : Ans op → Script Op Ans ε α) :
    (call op k).wp G Q = ∀ r, G op r → (k r).wp G fun es result => Q (⟨op, r⟩ :: es) result := rfl

namespace wp

theorem mono (h : m.wp G Q) (hQ : ∀ es result, Q es result → Q' es result) : m.wp G Q' := by
  induction m generalizing Q Q' with
  | ret a => exact hQ _ _ h
  | fail e => exact hQ _ _ h
  | call op k ih => exact fun r hr => ih r (h r hr) fun es result => hQ (⟨op, r⟩ :: es) result

/-- The second part is run after every value of the first one. -/
theorem bind {f : α → Script Op Ans ε β} {P : Post Op Ans ε β} (h : m.wp G Q)
    (hok : ∀ es a, Q es (.ok a) → (f a).wp G fun es' result => P (es ++ es') result)
    (herror : ∀ es e, Q es (.error e) → P es (.error e)) : (m >>= f).wp G P := by
  induction m generalizing Q P with
  | ret a => exact hok [] a h
  | fail e => exact herror [] e h
  | call op k ih =>
      intro r hr
      exact ih r (h r hr) (fun es a => hok (⟨op, r⟩ :: es) a)
        (fun es e => herror (⟨op, r⟩ :: es) e)

/-- What comes after a program that hands out its error as a value is run in any case. -/
theorem attempt_bind {f : Except ε α → Script Op Ans ε' β} {P : Post Op Ans ε' β} (h : m.wp G Q)
    (hf : ∀ es result, Q es result → (f result).wp G fun es' r => P (es ++ es') r) :
    (m.attempt >>= f).wp G P := by
  induction m generalizing Q P with
  | ret a => exact hf [] (.ok a) h
  | fail e => exact hf [] (.error e) h
  | call op k ih => exact fun r hr => ih r (h r hr) fun es result => hf (⟨op, r⟩ :: es) result

/-- A run that has got allowed answers only, and has ended, has ended as it should. -/
theorem of_follows {es : List (Exchange Op Ans)} {a : α} (h : m.wp G Q)
    (hfollows : Follows m es (ret a)) (hallowed : ∀ e ∈ es, G e.1 e.2) : Q es (.ok a) := by
  generalize hend : ret a = m' at hfollows
  induction hfollows generalizing Q with
  | refl m =>
      cases hend
      exact h
  | @call op k r es m' _ ih =>
      exact ih (h r (hallowed _ List.mem_cons_self))
        (fun e he => hallowed e (List.mem_cons_of_mem _ he)) hend

theorem of_follows_attempt {es : List (Exchange Op Ans)} {result : Except ε α} (h : m.wp G Q)
    (hfollows : Follows m.attempt es (ret result : Script Op Ans ε' (Except ε α)))
    (hallowed : ∀ e ∈ es, G e.1 e.2) : Q es result := by
  induction m generalizing Q es with
  | ret a =>
      obtain ⟨rfl, hend⟩ := Follows.ret_iff.mp hfollows
      cases hend
      exact h
  | fail e =>
      obtain ⟨rfl, hend⟩ := Follows.ret_iff.mp hfollows
      cases hend
      exact h
  | call op k ih =>
      rw [Script.attempt, Follows.call_iff] at hfollows
      rcases hfollows with ⟨-, hend⟩ | ⟨r, es', rfl, hrest⟩
      · cases hend
      · have hend := ih r (h r (hallowed _ List.mem_cons_self)) hrest
          fun e he => hallowed e (List.mem_cons_of_mem _ he)
        exact hend

end wp

end Script
