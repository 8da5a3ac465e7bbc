-- SUMMARY: Exactly when a create_session request that runs alone destroys no session.
import Dpsa4fl.JanusManager.AnswerSpecs

/-!
# Session ids

`handle_create_session` inserts its session whatever is in the map. A requested
id is compared with the live sessions before, a drawn id is compared with
nothing. This module says exactly when no session is lost.
-/

open Handler

/-- Started in `p`, a creation that ends in `result` has destroyed no session. -/
def CreatesSafely (p : TaskProvisioner) :
    EStateM.Result Failure TaskProvisioner TrainingSessionId → Prop
  | .error (.err _) p' => p'.trainingSessions = p.trainingSessions
  | .error (.panic _) _ => False
  | .ok id p' => p.trainingSessions.lookup id = none ∧
      ∀ k s, p.trainingSessions.lookup k = some s → p'.trainingSessions.lookup k = some s

section
variable {J : Janus} {ω : Ambient} {request : CreateTrainingSessionRequest}
  {p p' : TaskProvisioner}

/-- Creating a session destroys none exactly if the request names its id, or the
drawn id is not live, or the secrets of the request are refused. -/
theorem handleCreateSession_safe_iff (hJ : J.GeneratesKeys) :
    CreatesSafely p ((handleCreateSession J ω request).run p) ↔
      request.trainingSessionId.isSome ∨ p.trainingSessions.lookup ⟨ω.sessionId⟩ = none ∨
        ∃ e, createSessionSecrets J request = .error e := by
  rcases createSessionStart_cases J ω request p with
    ⟨id, secrets, hstart, hsecrets, hid⟩ | ⟨e, hstart, hnone⟩
  · obtain ⟨keypair, p', hrun, -, -, hsessions⟩ :=
      handleCreateSession_of_start (fetchKeypair_ok hJ _ _ _) hstart
    have hiff : CreatesSafely p (.ok id p') ↔ p.trainingSessions.lookup id = none := by
      refine ⟨And.left, fun hfree => ⟨hfree, fun k s hs => ?_⟩⟩
      have hne : k ≠ id := by
        rintro rfl
        rw [hfree] at hs; cases hs
      rw [hsessions, AList.lookup_insert_ne hne]
      exact hs
    rw [hrun, hiff]
    rcases hid with ⟨hsome, hfree⟩ | ⟨hnone, rfl⟩
    · simp [hfree, hsome]
    · simp [hnone, hsecrets]
  · have hrun : (handleCreateSession J ω request).run p = .error (.err e) p := by
      simp only [handleCreateSession, EStateM.run_bind, hstart]
    rw [hrun]
    refine ⟨fun _ => ?_, fun _ => rfl⟩
    cases hid : request.trainingSessionId with
    | some id => exact .inl rfl
    | none => exact .inr (.inr (hnone hid))

end

namespace Sample

/-- A manager that was asked for one session and drew the id 5 for it. -/
def provisioner : TaskProvisioner :=
  match (handleCreateSession .plain (ambient 5) (createRequest none [1])).run (.new ∅ config) with
  | .ok _ p => p
  | .error _ p => p

end Sample

/-- Another draw leaves the live session alone. -/
theorem handleCreateSession_safe_sample :
    CreatesSafely Sample.provisioner
      ((handleCreateSession .plain (Sample.ambient 6) (Sample.createRequest none [2])).run
        Sample.provisioner) :=
  (handleCreateSession_safe_iff Janus.plain_generatesKeys).mpr (.inr (.inl (by decide +kernel)))

/-- When the same id is drawn again, the live session with the verify key 1 is
replaced by the new one with the verify key 2. -/
theorem handleCreateSession_replaces :
    ¬ CreatesSafely Sample.provisioner
      ((handleCreateSession .plain (Sample.ambient 5) (Sample.createRequest none [2])).run
        Sample.provisioner) ∧
    (Sample.provisioner.trainingSessions.lookup ⟨5⟩).map (·.verifyKey) = some [1] := by
  refine ⟨fun h => ?_, by decide +kernel⟩
  have hlive : (Sample.provisioner.trainingSessions.lookup ⟨5⟩).isSome = true := by decide +kernel
  have hfree : Sample.provisioner.trainingSessions.lookup ⟨5⟩ = none := h.1
  rw [hfree] at hlive
  cases hlive
