-- SUMMARY: Lists without the elements at some of their positions, and the positions of the others in what is left.
import Mathlib.Data.List.Basic

/-!
# Erasing positions of a list

`E` says which positions are taken out. `without E l` is what is left of `l`,
and `rank E i` is the new position of an element that stays.
-/

variable {α β : Type*}

namespace Erasure

def without (E : Nat → Bool) : List α → List α
  | [] => []
  | a :: l =>
    if E 0 then without (fun i => E (i + 1)) l
    else a :: without (fun i => E (i + 1)) l

def rank (E : Nat → Bool) : Nat → Nat
  | 0 => 0
  | i + 1 => (if E 0 then 0 else 1) + rank (fun i => E (i + 1)) i

variable {E : Nat → Bool} {l : List α} {i : Nat}

theorem getElem?_without (h : E i = false) : (without E l)[rank E i]? = l[i]? := by
  induction l generalizing E i with
  | nil => rfl
  | cons a l ih =>
      cases i with
      | zero => simp [without, rank, h]
      | succ i =>
          have hrest := ih (E := fun i => E (i + 1)) h
          cases h0 : E 0 <;> simp [without, rank, h0, hrest, Nat.add_comm 1]

theorem without_set (h : E i = false) (a : α) :
    without E (l.set i a) = (without E l).set (rank E i) a := by
  induction l generalizing E i with
  | nil => rfl
  | cons b l ih =>
      cases i with
      | zero => simp [without, rank, h]
      | succ i =>
          have hrest := ih (E := fun i => E (i + 1)) h
          cases h0 : E 0 <;> simp [without, rank, h0, hrest, Nat.add_comm 1]

theorem without_set_erased (h : E i = true) (a : α) :
    without E (l.set i a) = without E l := by
  induction l generalizing E i with
  | nil => rfl
  | cons b l ih =>
      cases i with
      | zero => simp [without, h]
      | succ i => simp [without, ih (E := fun i => E (i + 1)) h]

theorem without_concat (E : Nat → Bool) (l : List α) (a : α) :
    without E (l ++ [a]) = without E l ++ if E l.length then [] else [a] := by
  induction l generalizing E with
  | nil => simp [without]
  | cons b l ih => cases h0 : E 0 <;> simp [without, h0, ih]

theorem length_without (E : Nat → Bool) (l : List α) : (without E l).length = rank E l.length := by
  induction l generalizing E with
  | nil => rfl
  | cons a l ih => cases h0 : E 0 <;> simp [without, rank, h0, ih, Nat.add_comm 1]

theorem without_map (E : Nat → Bool) (f : α → β) (l : List α) :
    without E (l.map f) = (without E l).map f := by
  induction l generalizing E with
  | nil => rfl
  | cons a l ih => cases h0 : E 0 <;> simp [without, h0, ih]

theorem mem_of_mem_without {a : α} (h : a ∈ without E l) : a ∈ l := by
  induction l generalizing E with
  | nil => exact h
  | cons b l ih =>
      cases h0 : E 0 <;> simp only [without, h0] at h
      · rcases List.mem_cons.mp h with rfl | h
        · exact List.mem_cons_self
        · exact List.mem_cons_of_mem b (ih h)
      · exact List.mem_cons_of_mem b (ih h)

/-- Where nothing is E, nothing changes. -/
theorem without_eq_self (h : ∀ i, i < l.length → E i = false) : without E l = l := by
  induction l generalizing E with
  | nil => rfl
  | cons a l ih =>
      have hrest := ih (E := fun i => E (i + 1)) fun i hi => h (i + 1) (by simpa using hi)
      simp [without, h 0 (by simp), hrest]

end Erasure
