-- SUMMARY: Client programs as trees of calls to the outside, what a run of one has exchanged so far, and its execution against a server.
import Mathlib.Data.List.Basic

/-!
# Scripts

A script is a sequential program that calls operations of the outside world
and goes on with their answers. It ends in a value or in an error. The same
script is used in two ways: `Script.Follows` says which exchanges lead from it
to which remaining script, whatever the outside did in between, and
`Script.exec` runs it without interruption against a server that has a state.
-/

/-- `Ans op` is the type of the answers to the operation `op`. -/
inductive Script (Op : Type) (Ans : Op → Type) (ε α : Type) where
  | ret (a : α)
  | fail (e : ε)
  | call (op : Op) (k : Ans op → Script Op Ans ε α)

namespace Script

variable {Op : Type} {Ans : Op → Type} {ε α β γ : Type}

def bind : Script Op Ans ε α → (α → Script Op Ans ε β) → Script Op Ans ε β
  | ret a, f => f a
  | fail e, _ => fail e
  | call op k, f => call op fun r => (k r).bind f

instance : Monad (Script Op Ans ε) where
  pure := ret
  bind := bind

instance : MonadExceptOf ε (Script Op Ans ε) where
  throw := fail
  tryCatch := fun m h =>
    let rec go : Script Op Ans ε _ → Script Op Ans ε _
      | ret a => ret a
      | fail e => h e
      | call op k => call op fun r => go (k r)
    go m

/-- Run to the end and hand out the error as a value. -/
def attempt {ε' : Type} : Script Op Ans ε α → Script Op Ans ε' (Except ε α)
  | ret a => ret (.ok a)
  | fail e => ret (.error e)
  | call op k => call op fun r => (k r).attempt

/-- One operation, with its answer as the result. -/
def perform (op : Op) : Script Op Ans ε (Ans op) := call op ret

@[simp] theorem pure_eq (a : α) : (pure a : Script Op Ans ε α) = ret a := rfl
@[simp] theorem throw_eq (e : ε) : (throw e : Script Op Ans ε α) = fail e := rfl
@[simp] theorem ret_bind (a : α) (f : α → Script Op Ans ε β) : (ret a >>= f) = f a := rfl
@[simp] theorem fail_bind (e : ε) (f : α → Script Op Ans ε β) : (fail e >>= f) = fail e := rfl
@[simp] theorem call_bind (op : Op) (k : Ans op → Script Op Ans ε α) (f : α → Script Op Ans ε β) :
    (call op k >>= f) = call op fun r => k r >>= f := rfl
@[simp] theorem perform_bind (op : Op) (f : Ans op → Script Op Ans ε β) :
    (perform op >>= f) = call op f := rfl

/-! ## Exchanges -/

/-- One operation together with the answer that was given to it. -/
abbrev Exchange (Op : Type) (Ans : Op → Type) : Type := (op : Op) × Ans op

/-- `Follows m es m'`: started as `m`, the program has made the exchanges `es`,
oldest first, and `m'` is left to do. -/
inductive Follows : Script Op Ans ε α → List (Exchange Op Ans) → Script Op Ans ε α → Prop where
  | refl (m) : Follows m [] m
  | call {op : Op} {k : Ans op → Script Op Ans ε α} {r : Ans op} {es m'} :
      Follows (k r) es m' → Follows (call op k) (⟨op, r⟩ :: es) m'

namespace Follows

variable {m m' m'' : Script Op Ans ε α} {es es' : List (Exchange Op Ans)}

@[simp] theorem ret_iff {a : α} : Follows (ret a) es m' ↔ es = [] ∧ m' = ret a := by
  constructor
  · intro h; cases h; exact ⟨rfl, rfl⟩
  · rintro ⟨rfl, rfl⟩; exact .refl _

@[simp] theorem fail_iff {e : ε} : Follows (fail e) es m' ↔ es = [] ∧ m' = fail e := by
  constructor
  · intro h; cases h; exact ⟨rfl, rfl⟩
  · rintro ⟨rfl, rfl⟩; exact .refl _

theorem nil_iff : Follows m [] m' ↔ m' = m := by
  constructor
  · intro h; cases h; rfl
  · rintro rfl; exact .refl _

/-- A program that starts with a call has either exchanged nothing yet or
exchanged that call first. -/
theorem call_iff {op : Op} {k : Ans op → Script Op Ans ε α} :
    Follows (Script.call op k) es m' ↔
      (es = [] ∧ m' = Script.call op k) ∨ ∃ r es', es = ⟨op, r⟩ :: es' ∧ Follows (k r) es' m' := by
  constructor
  · intro h
    cases h with
    | refl => exact .inl ⟨rfl, rfl⟩
    | call h => exact .inr ⟨_, _, rfl, h⟩
  · rintro (⟨rfl, rfl⟩ | ⟨r, es', rfl, h⟩)
    · exact .refl _
    · exact .call h

theorem trans (h : Follows m es m') (h' : Follows m' es' m'') : Follows m (es ++ es') m'' := by
  induction h with
  | refl => exact h'
  | call _ ih => exact .call (ih h')

/-- Answering the call that a program waits for extends its exchanges by one. -/
theorem snoc {op : Op} {k : Ans op → Script Op Ans ε α} (h : Follows m es (Script.call op k))
    (r : Ans op) : Follows m (es ++ [⟨op, r⟩]) (k r) :=
  h.trans (.call (.refl _))

/-- A program built with `>>=` is either still in its first part or has ended
it with a value. -/
theorem of_bind {m : Script Op Ans ε α} {f : α → Script Op Ans ε β} {m' : Script Op Ans ε β}
    (h : Follows (m >>= f) es m') :
    (∃ m₁, Follows m es m₁ ∧ m' = m₁ >>= f) ∨
      ∃ es₁ es₂ a, es = es₁ ++ es₂ ∧ Follows m es₁ (ret a) ∧ Follows (f a) es₂ m' := by
  induction m generalizing es with
  | ret a => exact .inr ⟨[], es, a, rfl, .refl _, h⟩
  | fail e =>
      rw [fail_bind, fail_iff] at h
      obtain ⟨rfl, rfl⟩ := h
      exact .inl ⟨fail e, .refl _, rfl⟩
  | call op k ih =>
      rw [call_bind, call_iff] at h
      rcases h with ⟨rfl, rfl⟩ | ⟨r, es', rfl, h⟩
      · exact .inl ⟨Script.call op k, .refl _, rfl⟩
      · rcases ih r h with ⟨m₁, h₁, rfl⟩ | ⟨es₁, es₂, a, rfl, h₁, h₂⟩
        · exact .inl ⟨m₁, .call h₁, rfl⟩
        · exact .inr ⟨⟨op, r⟩ :: es₁, es₂, a, rfl, .call h₁, h₂⟩

/-- A program built with `>>=` that has ended with a value has ended both parts. -/
theorem bind_ret {m : Script Op Ans ε α} {f : α → Script Op Ans ε β} {b : β}
    (h : Follows (m >>= f) es (ret b)) :
    ∃ es₁ es₂ a, es = es₁ ++ es₂ ∧ Follows m es₁ (ret a) ∧ Follows (f a) es₂ (ret b) := by
  rcases h.of_bind with ⟨m₁, h₁, heq⟩ | h
  · cases m₁ with
    | ret a =>
        rw [ret_bind] at heq
        exact ⟨es, [], a, (List.append_nil es).symm, h₁, heq ▸ .refl _⟩
    | fail e => cases heq
    | call op k => cases heq
  · exact h

/-- A program built with `>>=` that waits for an answer does so in one of its parts. -/
theorem bind_call {m : Script Op Ans ε α} {f : α → Script Op Ans ε β} {op : Op}
    {k : Ans op → Script Op Ans ε β} (h : Follows (m >>= f) es (Script.call op k)) :
    (∃ k', Follows m es (Script.call op k')) ∨
      ∃ es₁ es₂ a, es = es₁ ++ es₂ ∧ Follows m es₁ (ret a) ∧ Follows (f a) es₂ (Script.call op k) := by
  rcases h.of_bind with ⟨m₁, h₁, heq⟩ | h
  · cases m₁ with
    | ret a =>
        rw [ret_bind] at heq
        exact .inr ⟨es, [], a, (List.append_nil es).symm, h₁, heq ▸ .refl _⟩
    | fail e => cases heq
    | call op' k' =>
        cases heq
        exact .inl ⟨k', h₁⟩
  · exact .inr h

/-- An operation that a program has got an answer to is one that it waited for. -/
theorem of_mem (h : Follows m es m') {e : Exchange Op Ans} (he : e ∈ es) :
    ∃ es₁ es₂ k, es = es₁ ++ es₂ ∧ Follows m es₁ (Script.call e.1 k) := by
  induction h with
  | refl => cases he
  | @call op k r es m' _ ih =>
      rcases List.mem_cons.mp he with rfl | he
      · exact ⟨[], _, k, rfl, .refl _⟩
      · obtain ⟨es₁, es₂, k', rfl, h₁⟩ := ih he
        exact ⟨⟨op, r⟩ :: es₁, es₂, k', rfl, .call h₁⟩

/-- What a program exchanges does not depend on what becomes of its error. -/
theorem of_attempt {ε' : Type} {m : Script Op Ans ε α} {m' : Script Op Ans ε' (Except ε α)}
    (h : Follows m.attempt es m') : ∃ m₁, Follows m es m₁ ∧ m' = m₁.attempt := by
  induction m generalizing es with
  | ret a =>
      obtain ⟨rfl, rfl⟩ := ret_iff.mp h
      exact ⟨ret a, .refl _, rfl⟩
  | fail e =>
      obtain ⟨rfl, rfl⟩ := ret_iff.mp h
      exact ⟨fail e, .refl _, rfl⟩
  | call op k ih =>
      rw [attempt, call_iff] at h
      rcases h with ⟨rfl, rfl⟩ | ⟨r, es', rfl, h⟩
      · exact ⟨Script.call op k, .refl _, rfl⟩
      · obtain ⟨m₁, h₁, rfl⟩ := ih r h
        exact ⟨m₁, .call h₁, rfl⟩

theorem attempt_ret {ε' : Type} {m : Script Op Ans ε α} {a : α} (h : Follows m es (ret a)) :
    Follows m.attempt es (ret (.ok a) : Script Op Ans ε' (Except ε α)) := by
  generalize hend : ret a = m' at h
  induction h with
  | refl => subst hend; exact .refl _
  | call _ ih => exact .call (ih hend)

/-- One record of exchanges does not lead a program to two ends. -/
theorem ret_unique {a b : α} {rest rest' : List (Exchange Op Ans)} (h : Follows m es (ret a))
    (h' : Follows m es' (ret b)) (heq : es ++ rest = es' ++ rest') : es = es' ∧ a = b := by
  induction m generalizing es es' with
  | ret c =>
      obtain ⟨rfl, hret⟩ := ret_iff.mp h
      obtain ⟨rfl, hret'⟩ := ret_iff.mp h'
      cases hret
      cases hret'
      exact ⟨rfl, rfl⟩
  | fail e => cases (fail_iff.mp h).2
  | call op k ih =>
      rcases call_iff.mp h with ⟨-, hret⟩ | ⟨r, es₁, rfl, h₁⟩
      · cases hret
      rcases call_iff.mp h' with ⟨-, hret⟩ | ⟨r', es₁', rfl, h₁'⟩
      · cases hret
      obtain ⟨hhead, htail⟩ := List.cons.inj heq
      cases hhead
      obtain ⟨rfl, hab⟩ := ih r h₁ h₁' htail
      exact ⟨rfl, hab⟩

theorem attempt_ok {ε' : Type} {m : Script Op Ans ε α} {a : α}
    (h : Follows m.attempt es (ret (.ok a) : Script Op Ans ε' (Except ε α))) :
    Follows m es (ret a) := by
  obtain ⟨m₁, hm, heq⟩ := h.of_attempt
  cases m₁ with
  | ret b => cases heq; exact hm
  | fail e => cases heq
  | call op k => cases heq

end Follows

/-! ## The operations of a program -/

/-- Every operation that the program can come to has the property `P`. -/
def All (P : Op → Prop) : Script Op Ans ε α → Prop
  | ret _ => True
  | fail _ => True
  | call op k => P op ∧ ∀ r, All P (k r)

namespace All

variable {P : Op → Prop} {m : Script Op Ans ε α}

theorem bind {f : α → Script Op Ans ε β} (hm : m.All P) (hf : ∀ a, (f a).All P) :
    (m >>= f).All P := by
  induction m with
  | ret a => exact hf a
  | fail e => trivial
  | call op k ih => exact ⟨hm.1, fun r => ih r (hm.2 r)⟩

theorem attempt {ε' : Type} (hm : m.All P) :
    (m.attempt : Script Op Ans ε' (Except ε α)).All P := by
  induction m with
  | ret a => trivial
  | fail e => trivial
  | call op k ih => exact ⟨hm.1, fun r => ih r (hm.2 r)⟩

theorem mono {Q : Op → Prop} (hm : m.All P) (h : ∀ op, P op → Q op) : m.All Q := by
  induction m with
  | ret a => trivial
  | fail e => trivial
  | call op k ih => exact ⟨h op hm.1, fun r => ih r (hm.2 r)⟩

/-- What is left to do has the property as well. -/
theorem rest {m' : Script Op Ans ε α} {es : List (Exchange Op Ans)} (hm : m.All P)
    (h : Follows m es m') : m'.All P := by
  induction h with
  | refl => exact hm
  | call _ ih => exact ih (hm.2 _)

theorem of_follows {m' : Script Op Ans ε α} {es : List (Exchange Op Ans)} (hm : m.All P)
    (h : Follows m es m') : ∀ e ∈ es, P e.1 := by
  induction h with
  | refl => intro e he; cases he
  | call _ ih =>
      intro e he
      rcases List.mem_cons.mp he with rfl | he
      · exact hm.1
      · exact ih (hm.2 _) e he

end All

/-- On every path the program comes to at most this many operations. -/
def Within : Script Op Ans ε α → Nat → Prop
  | ret _, _ => True
  | fail _, _ => True
  | call _ _, 0 => False
  | call _ k, n + 1 => ∀ r, (k r).Within n

namespace Within

variable {m : Script Op Ans ε α} {n n' : Nat}

theorem mono (hm : m.Within n) (h : n ≤ n') : m.Within n' := by
  induction m generalizing n n' with
  | ret a => trivial
  | fail e => trivial
  | call op k ih =>
      cases n with
      | zero => exact hm.elim
      | succ n =>
          cases n' with
          | zero => omega
          | succ n' => exact fun r => ih r (hm r) (by omega)

theorem bind {f : α → Script Op Ans ε β} (hm : m.Within n) (hf : ∀ a, (f a).Within n') :
    (m >>= f).Within (n + n') := by
  induction m generalizing n with
  | ret a => exact (hf a).mono (Nat.le_add_left n' n)
  | fail e => trivial
  | call op k ih =>
      cases n with
      | zero => exact hm.elim
      | succ n =>
          rw [Nat.add_right_comm]
          exact fun r => ih r (hm r)

theorem attempt {ε' : Type} (hm : m.Within n) :
    (m.attempt : Script Op Ans ε' (Except ε α)).Within n := by
  induction m generalizing n with
  | ret a => trivial
  | fail e => trivial
  | call op k ih =>
      cases n with
      | zero => exact hm.elim
      | succ n => exact fun r => ih r (hm r)

theorem perform (op : Op) : (Script.perform op : Script Op Ans ε (Ans op)).Within 1 :=
  fun _ => trivial

/-- What is left to do comes to so many operations fewer. -/
theorem rest {m' : Script Op Ans ε α} {es : List (Exchange Op Ans)} (h : Follows m es m')
    (hm : m.Within n) : es.length ≤ n ∧ m'.Within (n - es.length) := by
  induction h generalizing n with
  | refl => exact ⟨Nat.zero_le n, hm⟩
  | call _ ih =>
      cases n with
      | zero => exact hm.elim
      | succ n =>
          obtain ⟨hle, hrest⟩ := ih (hm _)
          rw [List.length_cons, Nat.add_sub_add_right]
          exact ⟨Nat.succ_le_succ hle, hrest⟩

end Within

/-- On every path the program comes to at most one operation that meets `p`. -/
def AtMostOne (p : Op → Bool) : Script Op Ans ε α → Prop
  | ret _ => True
  | fail _ => True
  | call op k => if p op then ∀ r, (k r).All fun op => p op = false else ∀ r, AtMostOne p (k r)

namespace AtMostOne

variable {p : Op → Bool} {m : Script Op Ans ε α}

theorem of_all (h : m.All fun op => p op = false) : m.AtMostOne p := by
  induction m with
  | ret a => trivial
  | fail e => trivial
  | call op k ih =>
      rw [AtMostOne, h.1]
      exact fun r => ih r (h.2 r)

theorem call_of_all {op : Op} {k : Ans op → Script Op Ans ε α}
    (h : ∀ r, (k r).All fun op => p op = false) : (Script.call op k).AtMostOne p := by
  rw [AtMostOne]
  split
  · exact h
  · exact fun r => of_all (h r)

/-- A first part without such an operation. -/
theorem bind {f : α → Script Op Ans ε β} (hm : m.All fun op => p op = false)
    (hf : ∀ a, (f a).AtMostOne p) : (m >>= f).AtMostOne p := by
  induction m with
  | ret a => exact hf a
  | fail e => trivial
  | call op k ih =>
      rw [call_bind, AtMostOne, hm.1]
      exact fun r => ih r (hm.2 r)

theorem attempt {ε' : Type} (hm : m.AtMostOne p) :
    (m.attempt : Script Op Ans ε' (Except ε α)).AtMostOne p := by
  induction m with
  | ret a => trivial
  | fail e => trivial
  | call op k ih =>
      rw [Script.attempt, AtMostOne]
      rw [AtMostOne] at hm
      split at hm
      · rename_i hop
        rw [if_pos hop]
        exact fun r => (hm r).attempt
      · rename_i hop
        rw [if_neg hop]
        exact fun r => ih r (hm r)

theorem count_le {m' : Script Op Ans ε α} {es : List (Exchange Op Ans)} (hm : m.AtMostOne p)
    (h : Follows m es m') : es.countP (fun e => p e.1) ≤ 1 := by
  induction h with
  | refl => exact Nat.zero_le 1
  | @call op k r es m' h ih =>
      rw [AtMostOne] at hm
      rw [List.countP_cons]
      split at hm
      · have hrest : es.countP (fun e => p e.1) = 0 := by
          rw [List.countP_eq_zero]
          intro e he
          simp [(hm r).of_follows h e he]
        rw [hrest]
        split <;> simp
      · rename_i hop
        rw [if_neg hop]
        exact ih (hm r)

end AtMostOne

/-! ## Execution against a server -/

/-- Run a script to its end. The `n`-th operation is answered by `serve n`,
which reads and changes the state of the outside. -/
def exec {σ : Type} (serve : Nat → (op : Op) → σ → Ans op × σ) :
    Nat → Script Op Ans ε α → σ → Except ε α × σ
  | _, ret a, s => (.ok a, s)
  | _, fail e, s => (.error e, s)
  | n, call op k, s => exec serve (n + 1) (k (serve n op s).1) (serve n op s).2

section
variable {σ : Type} (serve : Nat → (op : Op) → σ → Ans op × σ)

@[simp] theorem exec_ret (n : Nat) (a : α) (s : σ) :
    exec serve n (ret a : Script Op Ans ε α) s = (.ok a, s) := rfl
@[simp] theorem exec_fail (n : Nat) (e : ε) (s : σ) :
    exec serve n (fail e : Script Op Ans ε α) s = (.error e, s) := rfl
@[simp] theorem exec_call (n : Nat) (op : Op) (k : Ans op → Script Op Ans ε α) (s : σ) :
    exec serve n (call op k) s = exec serve (n + 1) (k (serve n op s).1) (serve n op s).2 := rfl

/-- Running a program to its end and going on without another exchange. -/
theorem exec_attempt_bind {ε' : Type} {m : Script Op Ans ε α} {f : Except ε α → Script Op Ans ε' β}
    {n : Nat} {s s' : σ} {r : Except ε α} {b : β} (hm : exec serve n m s = (r, s'))
    (hf : f r = ret b) : exec serve n (m.attempt >>= f) s = (.ok b, s') := by
  induction m generalizing n s with
  | ret a =>
      cases hm
      rw [attempt, ret_bind, hf]
      rfl
  | fail e =>
      cases hm
      rw [attempt, ret_bind, hf]
      rfl
  | call op k ih => exact ih _ hm

/-- What every operation that the program can come to keeps, its whole run keeps. -/
theorem exec_invariant {P : Op → Prop} {I : σ → Prop} {m : Script Op Ans ε α} (hm : m.All P)
    (hserve : ∀ n op s, P op → I s → I (serve n op s).2) (n : Nat) {s : σ} (hs : I s) :
    I (exec serve n m s).2 := by
  induction m generalizing n s with
  | ret a => exact hs
  | fail e => exact hs
  | call op k ih => exact ih _ (hm.2 _) _ (hserve n op s hm.1 hs)

end

/-! ## Execution with given answers -/

/-- Run a program that cannot fail to its end, where the `n`-th operation gets the
answer `answers n`. The exchanges that it makes come with its value. -/
def play (answers : Nat → (op : Op) → Ans op) :
    Nat → Script Op Ans Empty α → α × List (Exchange Op Ans)
  | _, ret a => (a, [])
  | n, call op k =>
    let (a, es) := play answers (n + 1) (k (answers n op))
    (a, ⟨op, answers n op⟩ :: es)

theorem follows_play (answers : Nat → (op : Op) → Ans op) (n : Nat) (m : Script Op Ans Empty α) :
    Follows m (play answers n m).2 (ret (play answers n m).1) := by
  induction m generalizing n with
  | ret a => exact .refl _
  | fail e => exact e.elim
  | call op k ih => exact .call (ih (answers n op) (n + 1))

end Script
