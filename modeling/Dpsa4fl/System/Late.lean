-- SUMMARY: Processes that begin after some point of a run: all they hear is from threads that begin after it, too.
import Dpsa4fl.JanusManager.Kept
import Dpsa4fl.System.Traces

/-!
# Processes after a point

What a process hears is the answer of a thread that was sent its request. So if
the managers answer the requests in some way from a certain world on, the
processes that begin there hear such answers only.
-/

/-- All that this process waits for, and all that it has heard from a manager, is of
threads with the number `n` or a later one. -/
structure Process.Late (n : ManagerServer → Nat) (w : World) (process : Process) : Prop where
  pending : ∀ k server request f, process.pending = some k →
    process.rest = .call (.manager server request) f → n server ≤ k
  heard : ∀ server request r, (⟨.manager server request, .ok r⟩ : Exchange) ∈ process.trace →
    ∃ (k : Nat) (answer : Except Failure Response), n server ≤ k ∧
      (w.manager server).threads[k]? = some (.answered request answer) ∧ respond answer = .ok r

namespace Process.Late

variable {J : Janus} {w w' : World} {n : ManagerServer → Nat} {process : Process}

theorem start (J : Janus) (n : ManagerServer → Nat) (w : World) (call : Call) :
    (Process.start J call).Late n w where
  pending := by intro _ _ _ _ hpending; cases hpending
  heard := by intro _ _ _ hmem; cases hmem

theorem mono (h : process.Late n w) {a : World.Action} (hmove : w.Moves J a w') :
    process.Late n w' where
  pending := h.pending
  heard := by
    intro server request r hmem
    obtain ⟨k, answer, hn, hk, hr⟩ := h.heard server request r hmem
    exact ⟨k, answer, hn, hmove.keeps_answer hk, hr⟩

theorem answer (h : process.Late n w) (htraced : process.Traced J w) {op : Op}
    {f : Ans op → Api process.call.Result} {r : Ans op} (hrest : process.rest = .call op f)
    (hheard : w.Heard process op r) : (process.answer op f r).Late n w where
  pending := by intro _ _ _ _ hpending; cases hpending
  heard := by
    intro server request r' hmem
    rcases List.mem_append.mp hmem with hmem | hmem
    · exact h.heard server request r' hmem
    · have hexchange := List.mem_singleton.mp hmem
      cases hheard with
      | @answer server₁ request₁ request' answer k hpending hanswered =>
          obtain ⟨server₂, request₂, f₂, thread, hrest₂, hthread, hrequest⟩ :=
            htraced.pending k hpending
          have hn := h.pending k server₁ request₁ f hpending hrest
          rw [hrest] at hrest₂
          cases hrest₂
          rw [hanswered] at hthread
          cases hthread
          cases hrequest
          simp only [Sigma.mk.injEq, Op.manager.injEq] at hexchange
          obtain ⟨⟨rfl, rfl⟩, hr⟩ := hexchange
          exact ⟨k, answer, hn, hanswered, (eq_of_heq hr).symm⟩
      | lost => cases hexchange
      | httpClient => cases hexchange
      | built => cases hexchange
      | uploaded => cases hexchange

end Process.Late

/-- A thread is never removed. -/
theorem Manager.length_le_step {J : Janus} {m m' : Manager} {a : Manager.Action}
    (h : m.step J a = some m') : m.threads.length ≤ m'.threads.length := by
  by_contra hlt
  rw [Nat.not_le] at hlt
  obtain ⟨thread', hk', -⟩ := step_keeps h (List.getElem?_eq_getElem hlt)
  exact Nat.lt_irrefl _ (List.getElem?_eq_some_iff.mp hk').1

namespace World

variable {J : Janus} {w w' : World} {n : ManagerServer → Nat} {N : Nat}

/-- The managers had `n` threads once, and there were `N` processes. All later
processes have heard of later threads only. -/
structure Since (w : World) (n : ManagerServer → Nat) (N : Nat) : Prop where
  bound : ∀ server, n server ≤ (w.manager server).threads.length
  late : ∀ (i : Nat) (process : Process), N ≤ i → w.processes[i]? = some process →
    process.Late n w

theorem since_self (w : World) :
    w.Since (fun server => (w.manager server).threads.length) w.processes.length where
  bound _ := Nat.le_refl _
  late i process hi hget := by
    have hlt := (List.getElem?_eq_some_iff.mp hget).1
    omega

theorem Since.step (hw : w.Since n N) (htraced : w.Traced J) {a : Action}
    (h : w.step J a = some w') : w'.Since n N where
  bound server := by
    rcases (step_moves h).manager server with heq | ⟨action, hstep⟩
    · rw [heq]
      exact hw.bound server
    · exact (hw.bound server).trans (Manager.length_le_step hstep)
  late i process hi hget' := by
    have hmove := step_moves h
    cases hmove.origin hget' with
    | same hget => exact (hw.late i _ hi hget).mono hmove
    | started => exact .start J n w' _
    | @sent process server request f hget hpending hrest hthreads =>
        have hlate := (hw.late i _ hi hget).mono hmove
        refine ⟨?_, hlate.heard⟩
        rintro k server' request' f' ⟨⟩ hrest'
        rw [hrest] at hrest'
        cases hrest'
        exact hw.bound server
    | heard hget hrest hheard =>
        exact ((hw.late i _ hi hget).answer (htraced i _ hget) hrest hheard).mono hmove

theorem config_step {a : Action} (h : w.step J a = some w') (server : ManagerServer) :
    (w'.manager server).provisioner.config = (w.manager server).provisioner.config := by
  rcases (step_moves h).manager server with heq | ⟨action, hstep⟩
  · rw [heq]
  · exact Manager.step_config hstep

end World

/-! ## A session that is kept -/

/-- The step neither ends nor replaces the session at any manager. -/
def World.Action.Keeps (id : TrainingSessionId) (w : World) : World.Action → Prop
  | .manager server action => (w.manager server).Keeps id action
  | _ => True

instance (id : TrainingSessionId) (w : World) (a : World.Action) : Decidable (a.Keeps id w) := by
  unfold World.Action.Keeps
  split <;> infer_instance

/-! ## Undisturbed exchanges -/

/-- The exchange was not lost, and nothing outside the managers failed in it. -/
def undisturbed : Exchange → Bool
  | ⟨.manager _ _, r⟩ => r.isOk
  | ⟨.defaultHttpClient, r⟩ => r.isOk
  | ⟨.buildClient _, r⟩ => r.isOk
  | ⟨.upload _ _, r⟩ => r.isOk
