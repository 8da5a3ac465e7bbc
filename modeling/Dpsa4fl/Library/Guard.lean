-- SUMMARY: Threads with one critical section each, and the serial order that every interleaving of them amounts to.
import Dpsa4fl.Library.Run
import Mathlib.Data.List.Perm.Basic
import Mathlib.Data.List.Range

/-!
# Guarded threads

Threads run over a shared state, one piece at a time in any order. Some pieces
may only run while no thread holds the guard of the state. If every thread has a
single critical section, from taking the guard to its end, then an interleaving
of them cannot be told from running the threads one after the other, in the
order in which they finish. Each thread gets the same from outside in both.
-/

namespace Guard

/-- A kind of thread: what its next piece does, and where it stands. -/
structure Discipline (T σ Ω : Type*) where
  /-- Run one piece; `Ω` is what the piece takes from outside. -/
  resume : Ω → T → σ → T × σ
  finished : T → Bool
  holds : T → Bool
  /-- The next piece starts by taking the guard. -/
  awaits : T → Bool

structure State (T σ : Type*) where
  threads : List T
  shared : σ

variable {T σ Ω : Type*}

namespace Discipline

variable (D : Discipline T σ Ω)

def free (threads : List T) : Bool := threads.all fun t => !D.holds t

/-- Thread number `a.1` runs its next piece. -/
def step (w : State T σ) (a : Nat × Ω) : Option (State T σ) :=
  match w.threads[a.1]? with
  | none => none
  | some t =>
    if D.finished t || (D.awaits t && !D.free w.threads) then none
    else some ⟨w.threads.set a.1 (D.resume a.2 t w.shared).1, (D.resume a.2 t w.shared).2⟩

/-- The threads that satisfy `Q` have a single critical section. Before it they
neither read nor change the shared state; in it they hold the guard until they
have finished. -/
structure OneSection (Q : T → Prop) : Prop where
  closed : ∀ {t ω s}, Q t → D.finished t = false → Q (D.resume ω t s).1
  released : ∀ {t}, Q t → D.finished t = true → D.holds t = false
  inside : ∀ {t ω s}, Q t → D.finished t = false → D.awaits t = true ∨ D.holds t = true →
    D.finished (D.resume ω t s).1 = true ∨ D.holds (D.resume ω t s).1 = true
  outside : ∀ {t ω s}, Q t → D.finished t = false → D.awaits t = false → D.holds t = false →
    D.holds (D.resume ω t s).1 = false ∧ ∀ s', D.resume ω t s' = ((D.resume ω t s).1, s')

/-- Started in the state `s₀` with no other thread running, the thread `t₀` gets
to `t` and the state to `s`. -/
inductive Alone (t₀ : T) (s₀ : σ) : T → σ → Prop where
  | start : Alone t₀ s₀ t₀ s₀
  | resume {t s} (ω : Ω) : Alone t₀ s₀ t s → D.finished t = false →
      Alone t₀ s₀ (D.resume ω t s).1 (D.resume ω t s).2

/-- `Serial ts s₀ done s`: from the state `s₀`, some of the threads `ts` run one
after the other, each to its end. `done` lists their numbers and what is left of
them, in the order of the runs. -/
inductive Serial (ts : List T) (s₀ : σ) : List (Nat × T) → σ → Prop where
  | nil : Serial ts s₀ [] s₀
  | snoc {done s i t₀ t s'} : Serial ts s₀ done s → ts[i]? = some t₀ → D.Alone t₀ s t s' →
      D.finished t = true → Serial ts s₀ (done ++ [(i, t)]) s'

/-! ## The invariant -/

/-- Where a thread of an interleaving stands. `s₁` is the state after the serial
run of the threads in `done`; `s` is the state of the interleaving. -/
inductive Stands (done : List (Nat × T)) (s₁ s : σ) (i : Nat) (t₀ t : T) : Prop where
  | finished (hfinished : D.finished t = true) (hdone : (i, t) ∈ done)
  | before (hrunning : D.finished t = false) (hfree : D.holds t = false)
      (hnew : ∀ t', (i, t') ∉ done) (halone : ∀ s, D.Alone t₀ s t s)
  | inside (hrunning : D.finished t = false) (hholds : D.holds t = true)
      (hnew : ∀ t', (i, t') ∉ done) (halone : D.Alone t₀ s₁ t s)

/-- The threads in `done` have run serially. If one thread holds the guard, it
has run on alone from where they ended; all others have not touched the state. -/
structure Serialized (Q : T → Prop) (w₀ w : State T σ) (done : List (Nat × T)) (s₁ : σ) :
    Prop where
  serial : D.Serial w₀.threads w₀.shared done s₁
  nodup : (done.map Prod.fst).Nodup
  present : ∀ i t, (i, t) ∈ done → w.threads[i]? = some t
  length_eq : w.threads.length = w₀.threads.length
  good : ∀ (i : Nat) (t : T), w.threads[i]? = some t → Q t
  stands : ∀ (i : Nat) (t₀ t : T), w₀.threads[i]? = some t₀ → w.threads[i]? = some t →
    D.Stands done s₁ w.shared i t₀ t
  exclusive : ∀ (i j : Nat) (ti tj : T), w.threads[i]? = some ti → w.threads[j]? = some tj →
    D.holds ti = true → D.holds tj = true → i = j
  shared : D.free w.threads = true → w.shared = s₁

variable {D} {Q : T → Prop} {w₀ w w' : State T σ} {done : List (Nat × T)} {s₁ : σ}

theorem free_iff {threads : List T} :
    D.free threads = true ↔ ∀ (i : Nat) (t : T), threads[i]? = some t → D.holds t = false := by
  simp only [free, List.all_eq_true, Bool.not_eq_true', List.mem_iff_getElem?]
  constructor
  · intro h i t hget
    exact h t ⟨i, hget⟩
  · rintro h t ⟨i, hget⟩
    exact h i t hget

theorem getElem?_set {threads : List T} {i j : Nat} {t u : T}
    (h : (threads.set i u)[j]? = some t) :
    (j = i ∧ t = u) ∨ (j ≠ i ∧ threads[j]? = some t) := by
  rw [List.getElem?_set] at h
  split at h
  · rename_i hij
    split at h
    · exact .inl ⟨hij.symm, (Option.some.inj h).symm⟩
    · cases h
  · rename_i hij
    exact .inr ⟨fun hji => hij hji.symm, h⟩

theorem serialized_start (hgood : ∀ t ∈ w.threads, Q t)
    (hfresh : ∀ t ∈ w.threads, D.finished t = false ∧ D.holds t = false) :
    D.Serialized Q w w [] w.shared where
  serial := .nil
  nodup := List.nodup_nil
  present := fun _ _ h => nomatch h
  length_eq := rfl
  good := fun _ t h => hgood t (List.mem_of_getElem? h)
  stands := by
    intro i t₀ t h₀ h
    obtain rfl := Option.some.inj (h₀.symm.trans h)
    obtain ⟨hrunning, hfree⟩ := hfresh t₀ (List.mem_of_getElem? h)
    exact .before hrunning hfree (fun _ h => nomatch h) fun _ => .start
  exclusive := by
    intro i j ti tj hi _ hti
    rw [(hfresh ti (List.mem_of_getElem? hi)).2] at hti
    cases hti
  shared := fun _ => rfl

namespace Serialized

/-- A running thread is not among those that have run serially. -/
theorem not_done (h : D.Serialized Q w₀ w done s₁) {k : Nat} {t : T}
    (hk : w.threads[k]? = some t) (hrunning : D.finished t = false) :
    ∃ t₀, w₀.threads[k]? = some t₀ ∧ ∀ u, (k, u) ∉ done := by
  obtain ⟨hlt, -⟩ := List.getElem?_eq_some_iff.mp hk
  have h₀ := List.getElem?_eq_getElem (h.length_eq ▸ hlt)
  refine ⟨_, h₀, ?_⟩
  cases h.stands k _ t h₀ hk with
  | finished hfinished => rw [hrunning] at hfinished; cases hfinished
  | before _ _ hnew => exact hnew
  | inside _ _ hnew => exact hnew

/-- Thread number `k` has become `t'` and the state `s'`. If the thread has
finished, its run is put at the end of the serial one. -/
theorem update (h : D.Serialized Q w₀ w done s₁) {k : Nat} {t t' : T} {s' s₁' : σ}
    {done' : List (Nat × T)} (hk : w.threads[k]? = some t) (hrunning : D.finished t = false)
    (hQ : Q t') (hserial : D.Serial w₀.threads w₀.shared done' s₁')
    (hdone : done' = done ∨ done' = done ++ [(k, t')])
    (hstands : ∀ t₀, w₀.threads[k]? = some t₀ → D.Stands done' s₁' s' k t₀ t')
    (hothers : ∀ (i : Nat) (u : T), i ≠ k → w.threads[i]? = some u → D.holds u = true →
      s' = w.shared ∧ s₁' = s₁ ∧ D.holds t' = false)
    (hshared : D.free (w.threads.set k t') = true → s' = s₁') :
    D.Serialized Q w₀ ⟨w.threads.set k t', s'⟩ done' s₁' := by
  obtain ⟨t₀, h₀, hnew⟩ := h.not_done hk hrunning
  have hmem : ∀ {i u}, (i, u) ∈ done' → (i, u) ∈ done ∨ (i = k ∧ u = t') := by
    intro i u hu
    rcases hdone with rfl | rfl
    · exact .inl hu
    · simpa using hu
  have hsub : ∀ {x}, x ∈ done → x ∈ done' := by
    intro x hx
    rcases hdone with rfl | rfl
    · exact hx
    · exact List.mem_append_left _ hx
  constructor
  case serial => exact hserial
  case shared => exact hshared
  case nodup =>
    rcases hdone with rfl | rfl
    · exact h.nodup
    · rw [List.map_append, List.map_singleton]
      refine List.nodup_append.mpr ⟨h.nodup, by simp, ?_⟩
      intro i hi j hj hij
      obtain ⟨⟨l, u⟩, hu, rfl⟩ := List.mem_map.mp hi
      obtain rfl : l = k := hij.trans (List.mem_singleton.mp hj)
      exact hnew u hu
  case present =>
    intro i u hu
    rcases hmem hu with hu | ⟨rfl, rfl⟩
    · have hne : k ≠ i := by
        rintro rfl
        exact hnew u hu
      rw [List.getElem?_set_ne hne]
      exact h.present i u hu
    · obtain ⟨hlt, -⟩ := List.getElem?_eq_some_iff.mp hk
      rw [List.getElem?_set_self hlt]
  case length_eq => rw [List.length_set]; exact h.length_eq
  case good =>
    intro i u hu
    rcases getElem?_set hu with ⟨-, rfl⟩ | ⟨-, hu⟩
    · exact hQ
    · exact h.good i u hu
  case stands =>
    intro i u₀ u h₀' hu
    rcases getElem?_set hu with ⟨rfl, rfl⟩ | ⟨hik, hu'⟩
    · exact hstands u₀ h₀'
    · have hnew' : (∀ v, (i, v) ∉ done) → ∀ v, (i, v) ∉ done' := by
        intro hnew v hv
        rcases hmem hv with hv | ⟨hi, -⟩
        · exact hnew v hv
        · exact hik hi
      cases h.stands i u₀ u h₀' hu' with
      | finished hfinished hdone => exact .finished hfinished (hsub hdone)
      | before hrunning hfree hnew halone => exact .before hrunning hfree (hnew' hnew) halone
      | inside hrunning hholds hnew halone =>
          obtain ⟨rfl, rfl, -⟩ := hothers i u hik hu' hholds
          exact .inside hrunning hholds (hnew' hnew) halone
  case exclusive =>
    intro i j ti tj hi hj hti htj
    rcases getElem?_set hi with ⟨rfl, rfl⟩ | ⟨hik, hi'⟩
    · rcases getElem?_set hj with ⟨rfl, rfl⟩ | ⟨hjk, hj'⟩
      · rfl
      · rw [(hothers j tj hjk hj' htj).2.2] at hti; cases hti
    · rcases getElem?_set hj with ⟨rfl, rfl⟩ | ⟨hjk, hj'⟩
      · rw [(hothers i ti hik hi' hti).2.2] at htj; cases htj
      · exact h.exclusive i j ti tj hi' hj' hti htj

/-- A piece outside the critical section. If it ends the thread, the thread is
put in the order before the one that holds the guard. -/
theorem step_outside (hD : D.OneSection Q) (h : D.Serialized Q w₀ w done s₁) {k : Nat} {t : T}
    (ω : Ω) (hk : w.threads[k]? = some t) (hrunning : D.finished t = false)
    (hawaits : D.awaits t = false) (hholds : D.holds t = false) :
    ∃ done', D.Serialized Q w₀
      ⟨w.threads.set k (D.resume ω t w.shared).1, (D.resume ω t w.shared).2⟩ done' s₁ := by
  have hQ := h.good k t hk
  obtain ⟨t₀, h₀, hnew⟩ := h.not_done hk hrunning
  obtain ⟨hfree, hlocal⟩ := hD.outside (s := w.shared) (ω := ω) hQ hrunning hawaits hholds
  have halone : ∀ s, D.Alone t₀ s (D.resume ω t w.shared).1 s := by
    intro s
    cases h.stands k t₀ t h₀ hk with
    | finished hfinished => rw [hrunning] at hfinished; cases hfinished
    | before _ _ _ halone =>
        have := (halone s).resume ω hrunning
        rwa [hlocal s] at this
    | inside _ hholds' => rw [hholds] at hholds'; cases hholds'
  have hstate : (D.resume ω t w.shared).2 = w.shared := by
    conv_lhs => rw [hlocal w.shared]
  -- the guard is free after the piece only if it was free before
  have hshared : D.free (w.threads.set k (D.resume ω t w.shared).1) = true →
      (D.resume ω t w.shared).2 = s₁ := by
    intro hset
    rw [hstate]
    refine h.shared (free_iff.mpr fun i u hu => ?_)
    by_cases hik : i = k
    · obtain rfl := hik
      obtain rfl := Option.some.inj (hk.symm.trans hu)
      exact hholds
    · refine free_iff.mp hset i u ?_
      rw [List.getElem?_set_ne (Ne.symm hik)]
      exact hu
  cases hfinished : D.finished (D.resume ω t w.shared).1 with
  | false =>
      refine ⟨done, h.update hk hrunning (hD.closed hQ hrunning) h.serial (.inl rfl) ?_
        (fun _ _ _ _ _ => ⟨hstate, rfl, hfree⟩) hshared⟩
      intro t₁ h₁
      obtain rfl := Option.some.inj (h₀.symm.trans h₁)
      exact .before hfinished hfree hnew halone
  | true =>
      refine ⟨_, h.update hk hrunning (hD.closed hQ hrunning)
        (.snoc h.serial h₀ (halone s₁) hfinished) (.inr rfl) ?_
        (fun _ _ _ _ _ => ⟨hstate, rfl, hfree⟩) hshared⟩
      intro t₁ _
      exact .finished hfinished (by simp)

/-- A piece of the critical section, its first one included. -/
theorem step_inside (hD : D.OneSection Q) (h : D.Serialized Q w₀ w done s₁) {k : Nat} {t : T}
    (ω : Ω) (hk : w.threads[k]? = some t) (hrunning : D.finished t = false)
    (hsection : (D.awaits t = true ∧ D.free w.threads = true) ∨ D.holds t = true) :
    ∃ done' s₁', D.Serialized Q w₀
      ⟨w.threads.set k (D.resume ω t w.shared).1, (D.resume ω t w.shared).2⟩ done' s₁' := by
  have hQ := h.good k t hk
  obtain ⟨t₀, h₀, hnew⟩ := h.not_done hk hrunning
  have halone : D.Alone t₀ s₁ t w.shared := by
    cases h.stands k t₀ t h₀ hk with
    | finished hfinished => rw [hrunning] at hfinished; cases hfinished
    | before _ hfree _ halone =>
        rcases hsection with ⟨-, hguard⟩ | hholds
        · rw [h.shared hguard]; exact halone s₁
        · rw [hfree] at hholds; cases hholds
    | inside _ _ _ halone => exact halone
  have hnext := halone.resume ω hrunning
  -- no other thread holds the guard
  have hothers : ∀ (i : Nat) (u : T), i ≠ k → w.threads[i]? = some u → D.holds u = false := by
    intro i u hik hu
    rcases hsection with ⟨-, hguard⟩ | hholds
    · exact free_iff.mp hguard i u hu
    · refine Bool.eq_false_iff.mpr fun hu' => hik ?_
      exact h.exclusive i k u t hu hk hu' hholds
  have hvacuous : ∀ {P : Prop} (i : Nat) (u : T), i ≠ k → w.threads[i]? = some u →
      D.holds u = true → P := by
    intro P i u hik hu hholds
    rw [hothers i u hik hu] at hholds; cases hholds
  cases hfinished : D.finished (D.resume ω t w.shared).1 with
  | false =>
      have hholds : D.holds (D.resume ω t w.shared).1 = true := by
        rcases hD.inside (s := w.shared) (ω := ω) hQ hrunning (hsection.imp And.left id) with h | h
        · rw [hfinished] at h; cases h
        · exact h
      refine ⟨done, s₁, h.update hk hrunning (hD.closed hQ hrunning) h.serial (.inl rfl) ?_
        hvacuous ?_⟩
      · intro t₁ h₁
        obtain rfl := Option.some.inj (h₀.symm.trans h₁)
        exact .inside hfinished hholds hnew hnext
      · intro hguard
        obtain ⟨hlt, -⟩ := List.getElem?_eq_some_iff.mp hk
        rw [free_iff.mp hguard k _ (List.getElem?_set_self hlt)] at hholds
        cases hholds
  | true =>
      refine ⟨_, _, h.update hk hrunning (hD.closed hQ hrunning)
        (.snoc h.serial h₀ hnext hfinished) (.inr rfl) ?_ hvacuous fun _ => rfl⟩
      intro t₁ _
      exact .finished hfinished (by simp)

theorem step (hD : D.OneSection Q) (h : ∃ done s₁, D.Serialized Q w₀ w done s₁) {a : Nat × Ω}
    (hstep : D.step w a = some w') : ∃ done s₁, D.Serialized Q w₀ w' done s₁ := by
  obtain ⟨done, s₁, h⟩ := h
  obtain ⟨k, ω⟩ := a
  unfold Discipline.step at hstep
  split at hstep
  · cases hstep
  · rename_i t hk
    split at hstep
    · cases hstep
    · rename_i hguard
      cases hstep
      simp only [Bool.or_eq_true, Bool.and_eq_true, Bool.not_eq_true', not_or, not_and,
        Bool.not_eq_false, Bool.not_eq_true] at hguard
      obtain ⟨hrunning, hguard⟩ := hguard
      cases hholds : D.holds t with
      | true => exact h.step_inside hD ω hk hrunning (.inr hholds)
      | false =>
          cases hawaits : D.awaits t with
          | true => exact h.step_inside hD ω hk hrunning (.inl ⟨hawaits, hguard hawaits⟩)
          | false =>
              obtain ⟨done', h'⟩ := h.step_outside hD ω hk hrunning hawaits hholds
              exact ⟨done', s₁, h'⟩

end Serialized

/-! ## Runs -/

/-- In every state of an interleaving, the finished threads have run serially,
and a thread that holds the guard has run on alone. -/
theorem serialized_of_run (hD : D.OneSection Q) (hgood : ∀ t ∈ w.threads, Q t)
    (hfresh : ∀ t ∈ w.threads, D.finished t = false ∧ D.holds t = false) {as : List (Nat × Ω)}
    (hrun : Run.after D.step w as = some w') : ∃ done s₁, D.Serialized Q w w' done s₁ :=
  Run.invariant (fun _ _ _ h hstep => Serialized.step hD h hstep)
    ⟨[], w.shared, serialized_start hgood hfresh⟩ hrun

/-- An interleaving in which all threads have finished ends in the state of a
serial run of all of them, with the same outcome for each. -/
theorem serializable (hD : D.OneSection Q) (hgood : ∀ t ∈ w.threads, Q t)
    (hfresh : ∀ t ∈ w.threads, D.finished t = false ∧ D.holds t = false) {as : List (Nat × Ω)}
    (hrun : Run.after D.step w as = some w')
    (hfinished : ∀ t ∈ w'.threads, D.finished t = true) :
    ∃ done, D.Serial w.threads w.shared done w'.shared ∧
      (done.map Prod.fst).Perm (List.range w.threads.length) ∧
      ∀ (i : Nat) (t : T), (i, t) ∈ done ↔ w'.threads[i]? = some t := by
  obtain ⟨done, s₁, h⟩ := serialized_of_run hD hgood hfresh hrun
  have hiff : ∀ (i : Nat) (t : T), (i, t) ∈ done ↔ w'.threads[i]? = some t := by
    intro i t
    refine ⟨h.present i t, fun ht => ?_⟩
    obtain ⟨hlt, -⟩ := List.getElem?_eq_some_iff.mp ht
    cases h.stands i _ t (List.getElem?_eq_getElem (h.length_eq ▸ hlt)) ht with
    | finished _ hdone => exact hdone
    | before hrunning => rw [hfinished t (List.mem_of_getElem? ht)] at hrunning; cases hrunning
    | inside hrunning => rw [hfinished t (List.mem_of_getElem? ht)] at hrunning; cases hrunning
  have hshared : w'.shared = s₁ := by
    refine h.shared (free_iff.mpr fun i t ht => ?_)
    exact hD.released (h.good i t ht) (hfinished t (List.mem_of_getElem? ht))
  refine ⟨done, hshared ▸ h.serial, ?_, hiff⟩
  apply (List.perm_ext_iff_of_nodup h.nodup List.nodup_range).mpr
  intro i
  rw [List.mem_range, ← h.length_eq]
  constructor
  · intro hi
    obtain ⟨⟨_, t⟩, ht, rfl⟩ := List.mem_map.mp hi
    exact (List.getElem?_eq_some_iff.mp ((hiff _ t).mp ht)).1
  · intro hi
    exact List.mem_map.mpr ⟨(i, w'.threads[i]), (hiff i _).mpr (List.getElem?_eq_getElem hi), rfl⟩

/-! ## What threads get from outside -/

variable (D) in
/-- The same threads, each with a log of what its pieces got from outside. -/
def logged : Discipline (T × List Ω) σ Ω where
  resume ω t s := (((D.resume ω t.1 s).1, t.2 ++ [ω]), (D.resume ω t.1 s).2)
  finished t := D.finished t.1
  holds t := D.holds t.1
  awaits t := D.awaits t.1

theorem OneSection.logged (hD : D.OneSection Q) : D.logged.OneSection fun t => Q t.1 where
  closed := hD.closed
  released := hD.released
  inside := hD.inside
  outside := by
    intro t ω s hQ hrunning hawaits hholds
    obtain ⟨hfree, hlocal⟩ := hD.outside (ω := ω) (s := s) hQ hrunning hawaits hholds
    refine ⟨hfree, fun s' => ?_⟩
    simp only [Discipline.logged]
    rw [hlocal s']

end Discipline

/-- What thread number `i` gets from outside in a run, in order. -/
def turns (as : List (Nat × Ω)) (i : Nat) : List Ω :=
  (as.filter fun a => a.1 = i).map Prod.snd

theorem turns_cons (a : Nat × Ω) (as : List (Nat × Ω)) (i : Nat) :
    turns (a :: as) i = (if a.1 = i then [a.2] else []) ++ turns as i := by
  unfold turns
  rw [List.filter_cons]
  by_cases h : a.1 = i
  · simp [h]
  · simp [h]

/-- The state with a log for each thread. -/
def State.withLogs (w : State T σ) (logs : Nat → List Ω) : State (T × List Ω) σ :=
  ⟨w.threads.mapIdx fun i t => (t, logs i), w.shared⟩

theorem State.getElem?_withLogs {w : State T σ} {logs : Nat → List Ω} {i : Nat} {t : T}
    {log : List Ω} :
    (w.withLogs logs).threads[i]? = some (t, log) ↔ w.threads[i]? = some t ∧ log = logs i := by
  simp only [withLogs, List.getElem?_mapIdx, Option.map_eq_some_iff, Prod.mk.injEq]
  constructor
  · rintro ⟨_, ht, rfl, hlog⟩
    exact ⟨ht, hlog.symm⟩
  · rintro ⟨ht, rfl⟩
    exact ⟨t, ht, rfl, rfl⟩

namespace Discipline

variable {D : Discipline T σ Ω} {Q : T → Prop} {w w' : State T σ}

theorem free_withLogs (threads : List T) (logs : Nat → List Ω) :
    D.logged.free (threads.mapIdx fun i t => (t, logs i)) = D.free threads := by
  rw [Bool.eq_iff_iff, free_iff, free_iff]
  constructor
  · intro h i t ht
    exact h i (t, logs i) (by simp [ht])
  · intro h i t ht
    rw [List.getElem?_mapIdx, Option.map_eq_some_iff] at ht
    obtain ⟨t, ht, rfl⟩ := ht
    exact h i t ht

theorem step_withLogs {logs : Nat → List Ω} {a : Nat × Ω} (h : D.step w a = some w') :
    D.logged.step (w.withLogs logs) a =
      some (w'.withLogs fun i => logs i ++ if a.1 = i then [a.2] else []) := by
  unfold step at h ⊢
  split at h
  · cases h
  · rename_i t hget
    rw [State.getElem?_withLogs.mpr ⟨hget, rfl⟩]
    have hfree : D.logged.free (w.withLogs logs).threads = D.free w.threads := free_withLogs _ _
    split at h
    · cases h
    · rename_i hguard
      cases h
      refine (if_neg (by rw [hfree]; exact hguard)).trans ?_
      refine congrArg some (congrArg₂ State.mk ?_ rfl)
      obtain ⟨hlt, -⟩ := List.getElem?_eq_some_iff.mp hget
      refine List.ext_getElem? fun i => ?_
      rw [List.getElem?_set, List.getElem?_mapIdx, List.getElem?_set]
      by_cases hi : a.1 = i
      · subst hi
        simp [State.withLogs, hlt, logged]
      · simp [State.withLogs, hi]

theorem after_withLogs (logs : Nat → List Ω) {as : List (Nat × Ω)}
    (h : Run.after D.step w as = some w') :
    Run.after D.logged.step (w.withLogs logs) as =
      some (w'.withLogs fun i => logs i ++ turns as i) := by
  induction as generalizing w logs with
  | nil =>
      cases h
      simp [turns]
  | cons a as ih =>
      obtain ⟨w₁, h₁, hrest⟩ := Run.after_cons_eq_some.mp h
      simp only [turns_cons, ← List.append_assoc]
      exact Run.after_cons_eq_some.mpr ⟨_, step_withLogs h₁, ih _ hrest⟩

/-- The serial run of `serializable`, where each thread gets from outside what it
got in the interleaving. -/
theorem serializable_logged (hD : D.OneSection Q) (hgood : ∀ t ∈ w.threads, Q t)
    (hfresh : ∀ t ∈ w.threads, D.finished t = false ∧ D.holds t = false) {as : List (Nat × Ω)}
    (hrun : Run.after D.step w as = some w')
    (hfinished : ∀ t ∈ w'.threads, D.finished t = true) :
    ∃ done, D.logged.Serial (w.threads.map fun t => (t, [])) w.shared done w'.shared ∧
      (done.map Prod.fst).Perm (List.range w.threads.length) ∧
      ∀ (i : Nat) (t : T) (log : List Ω),
        (i, t, log) ∈ done ↔ w'.threads[i]? = some t ∧ log = turns as i := by
  have hmem : ∀ {w : State T σ} {logs : Nat → List Ω} {t : T × List Ω},
      t ∈ (w.withLogs logs).threads → t.1 ∈ w.threads := by
    intro w logs t ht
    obtain ⟨i, hi⟩ := List.mem_iff_getElem?.mp ht
    exact List.mem_of_getElem? (State.getElem?_withLogs.mp hi).1
  obtain ⟨done, hserial, hperm, hdone⟩ := serializable hD.logged
    (fun t ht => hgood t.1 (hmem ht)) (fun t ht => hfresh t.1 (hmem ht))
    (after_withLogs (fun _ => []) hrun) fun t ht => hfinished t.1 (hmem ht)
  refine ⟨done, ?_, ?_, fun i t log => ?_⟩
  · have hstart : (w.withLogs fun _ => ([] : List Ω)).threads = w.threads.map fun t => (t, []) :=
      List.ext_getElem? fun i => by simp [State.withLogs]
    rw [← hstart]
    exact hserial
  · simpa [State.withLogs] using hperm
  · rw [hdone, State.getElem?_withLogs, List.nil_append]

end Discipline

end Guard
