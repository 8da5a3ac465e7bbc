-- SUMMARY: What a call of a controller does to the two managers, in terms of the answers they give.
import Dpsa4fl.System.Managers

/-!
# Calls against the pair of managers

One inversion lemma for each call of `JanusManagerClient`. They list all ways in
which it can end, with the answers that led there.
-/

namespace Managers

variable {J : Janus} {o : Outside} {m : Managers} {client : JanusManagerClient}

/-- How `create_session` ends when no message is lost; `request` makes the request. -/
inductive Creates (J : Janus) (o : Outside) (m : Managers)
    (request : Role → Option TrainingSessionId → CreateTrainingSessionRequest) :
    Except Failure TrainingSessionId × Managers → Prop where
  | leaderFailed {failure e p}
      (hleader : m.leader.answer J (o.ambient 0) (.createSession (request .leader none)) =
        (.error failure, p)) :
      Creates J o m request (.error e, ⟨p, m.helper⟩)
  | helperFailed {id failure e p p'}
      (hleader : m.leader.answer J (o.ambient 0) (.createSession (request .leader none)) =
        (.ok (.createSession id), p))
      (hhelper : m.helper.answer J (o.ambient 1) (.createSession (request .helper (some id))) =
        (.error failure, p')) :
      Creates J o m request (.error e, ⟨p, p'⟩)
  | created {id p p'}
      (hleader : m.leader.answer J (o.ambient 0) (.createSession (request .leader none)) =
        (.ok (.createSession id), p))
      (hhelper : m.helper.answer J (o.ambient 1) (.createSession (request .helper (some id))) =
        (.ok (.createSession id), p')) :
      Creates J o m request (.ok id, ⟨p, p'⟩)

theorem run_createSession (ho : o.Reliable) (random : Nat → UInt8) :
    Creates J o m (client.makeRequest (client.verifyKey J random))
      (m.run J o (client.createSession J random)) := by
  unfold run JanusManagerClient.createSession
  simp only [exec_post, serve_delivered (ho _), get_leader, set_leader]
  generalize hleader : m.leader.answer J (o.ambient 0) _ = r
  obtain ⟨answer, p⟩ := r
  rcases (answer_spec hleader).createSession_cases with ⟨failure, rfl⟩ | ⟨id, rfl⟩
  · rcases respond_error failure with ⟨e, he⟩ | ⟨e, he⟩
    · rw [he]; exact .leaderFailed hleader
    · rw [he]; exact .leaderFailed hleader
  · simp only [respond_ok, JanusManagerClient.createdSession_ok, Script.ret_bind, exec_post,
      serve_delivered (ho _), get_helper, set_helper]
    generalize hhelper : m.helper.answer J (o.ambient (0 + 1)) _ = r
    obtain ⟨answer, p'⟩ := r
    have hanswer := answer_spec hhelper
    rcases hanswer.createSession_cases with ⟨failure, rfl⟩ | ⟨id', rfl⟩
    · rcases respond_error failure with ⟨e, he⟩ | ⟨e, he⟩
      · rw [he]; exact .helperFailed hleader hhelper
      · rw [he]; exact .helperFailed hleader hhelper
    · -- the helper keeps to the requested id, so the assertion holds
      obtain rfl : id = id' := by
        cases hanswer with
        | created _ hid => exact (hid id rfl).1
      simp only [respond_ok, JanusManagerClient.createdSession_ok, Script.ret_bind, if_true,
        Script.pure_eq, Script.exec_ret]
      exact .created hleader hhelper

/-- How `start_round` ends when no message is lost. -/
inductive Starts (J : Janus) (o : Outside) (m : Managers) (request : StartRoundRequest)
    (taskId : TaskId) : Except Failure TaskId × Managers → Prop where
  /-- The leader's handler panicked, so the helper was not asked. -/
  | unanswered {message e p}
      (hleader : m.leader.answer J (o.ambient 0) (.startRound request) = (.error (.panic message), p)) :
      Starts J o m request taskId (.error e, ⟨p, m.helper⟩)
  | failed {answer answer' e p p'}
      (hleader : m.leader.answer J (o.ambient 0) (.startRound request) = (answer, p))
      (hhelper : m.helper.answer J (o.ambient 1) (.startRound request) = (answer', p'))
      (hfailed : answer ≠ .ok .startRound ∨ answer' ≠ .ok .startRound) :
      Starts J o m request taskId (.error e, ⟨p, p'⟩)
  | started {p p'}
      (hleader : m.leader.answer J (o.ambient 0) (.startRound request) = (.ok .startRound, p))
      (hhelper : m.helper.answer J (o.ambient 1) (.startRound request) = (.ok .startRound, p')) :
      Starts J o m request taskId (.ok taskId, ⟨p, p'⟩)

theorem run_startRound (ho : o.Reliable) (taskId : TaskId) (id : TrainingSessionId) :
    Starts J o m ⟨id, taskIdToString taskId⟩ taskId (m.run J o (client.startRound taskId id)) := by
  unfold run JanusManagerClient.startRound
  rw [exec_post, serve_delivered (ho _), get_leader, set_leader]
  generalize hleader : m.leader.answer J (o.ambient 0) _ = r
  obtain ⟨answer, p⟩ := r
  -- what is left to do once the leader has answered with any status
  have hrest : ∀ response, respond answer = .ok response →
      Starts J o m ⟨id, taskIdToString taskId⟩ taskId
        ((do
          let helperResponse ← Net.post .helper (.startRound ⟨id, Base64Url.encode taskId.bytes⟩)
          JanusManagerClient.bothOk "Starting round" taskId response helperResponse).exec
            (serve J o) (0 + 1) ⟨p, m.helper⟩) := by
    intro response hresponse
    rw [exec_post, serve_delivered (ho _), get_helper, set_helper]
    generalize hhelper : m.helper.answer J (o.ambient (0 + 1)) _ = r
    obtain ⟨answer', p'⟩ := r
    rcases (answer_spec hhelper).startRound_cases with ⟨failure, rfl⟩ | rfl
    · have hfailed : (.error failure : Except Failure Response) ≠ .ok .startRound := by simp
      rcases respond_error failure with ⟨e, he⟩ | ⟨e, he⟩
      · rw [he]
        cases response <;> exact .failed hleader hhelper (.inr hfailed)
      · rw [he]; exact .failed hleader hhelper (.inr hfailed)
    · cases response with
      | ok r =>
          rw [respond_eq_ok] at hresponse
          rcases (answer_spec hleader).startRound_cases with ⟨failure, rfl⟩ | rfl
          · cases hresponse
          · exact .started hleader hhelper
      | badRequest e =>
          refine .failed hleader hhelper (.inl ?_)
          rintro rfl
          cases hresponse
  cases hresponse : respond answer with
  | ok response => exact hrest response hresponse
  | error e =>
      obtain ⟨message, rfl⟩ := respond_eq_error hresponse
      exact .unanswered hleader

/-- How `end_session` ends, whatever is lost. `p` and `p'` are the managers after
they have handled the request. -/
inductive Ends (J : Janus) (o : Outside) (m : Managers) (id : TrainingSessionId) :
    Except Failure Unit × Managers → Prop where
  | leaderRequestLost {e} (hfault : o.fault 0 = .requestLost) : Ends J o m id (.error e, m)
  | leaderReplyLost {e answer p} (hfault : o.fault 0 = .replyLost)
      (hleader : m.leader.answer J (o.ambient 0) (.endSession id) = (answer, p)) :
      Ends J o m id (.error e, ⟨p, m.helper⟩)
  | helperRequestLost {e answer p} (hdelivered : o.fault 0 = .delivered)
      (hfault : o.fault 1 = .requestLost)
      (hleader : m.leader.answer J (o.ambient 0) (.endSession id) = (answer, p)) :
      Ends J o m id (.error e, ⟨p, m.helper⟩)
  | helperReplyLost {e answer answer' p p'} (hdelivered : o.fault 0 = .delivered)
      (hfault : o.fault 1 = .replyLost)
      (hleader : m.leader.answer J (o.ambient 0) (.endSession id) = (answer, p))
      (hhelper : m.helper.answer J (o.ambient 1) (.endSession id) = (answer', p')) :
      Ends J o m id (.error e, ⟨p, p'⟩)
  | answered {result answer answer' p p'} (hdelivered : o.fault 0 = .delivered)
      (hdelivered' : o.fault 1 = .delivered)
      (hleader : m.leader.answer J (o.ambient 0) (.endSession id) = (answer, p))
      (hhelper : m.helper.answer J (o.ambient 1) (.endSession id) = (answer', p'))
      (hresult : result = .ok () ∧ answer = .ok .endSession ∧ answer' = .ok .endSession ∨
        (∃ e, result = .error e) ∧ ¬ (answer = .ok .endSession ∧ answer' = .ok .endSession)) :
      Ends J o m id (result, ⟨p, p'⟩)

/-- The end of the call, once both managers have answered. -/
theorem ends_of_responses {id : TrainingSessionId} {answer answer' : Except Failure Response}
    {p p' : TaskProvisioner} {response response' : HttpResponse} (n : Nat)
    (hdelivered : o.fault 0 = .delivered) (hdelivered' : o.fault 1 = .delivered)
    (hleader : m.leader.answer J (o.ambient 0) (.endSession id) = (answer, p))
    (hhelper : m.helper.answer J (o.ambient 1) (.endSession id) = (answer', p'))
    (hresponse : respond answer = .ok response) (hresponse' : respond answer' = .ok response') :
    Ends J o m id
      ((JanusManagerClient.bothOk "Ending session" () response response').exec (serve J o) n
        ⟨p, p'⟩) := by
  rcases (answer_spec hleader).endSession_cases with ⟨e, rfl⟩ | rfl
  · cases hresponse
    rcases (answer_spec hhelper).endSession_cases with ⟨e', rfl⟩ | rfl
    · cases hresponse'
      exact .answered hdelivered hdelivered' hleader hhelper (.inr ⟨⟨_, rfl⟩, by simp⟩)
    · cases hresponse'
      exact .answered hdelivered hdelivered' hleader hhelper (.inr ⟨⟨_, rfl⟩, by simp⟩)
  · cases hresponse
    rcases (answer_spec hhelper).endSession_cases with ⟨e', rfl⟩ | rfl
    · cases hresponse'
      exact .answered hdelivered hdelivered' hleader hhelper (.inr ⟨⟨_, rfl⟩, by simp⟩)
    · cases hresponse'
      exact .answered hdelivered hdelivered' hleader hhelper (.inl ⟨rfl, rfl, rfl⟩)

theorem run_endSession (id : TrainingSessionId) :
    Ends J o m id (m.run J o (client.endSession id)) := by
  unfold run JanusManagerClient.endSession
  rw [exec_post]
  generalize hleader : m.leader.answer J (o.ambient 0) (.endSession id) = r
  obtain ⟨answer, p⟩ := r
  cases hfault : o.fault 0 with
  | requestLost => simp only [serve, hfault]; exact .leaderRequestLost hfault
  | replyLost =>
      simp only [serve, hfault, get_leader, set_leader, hleader]
      exact .leaderReplyLost hfault hleader
  | delivered =>
      rw [serve_delivered hfault, get_leader, set_leader, hleader]
      -- an end is never answered by a panic, so the helper is asked in any case
      obtain ⟨response, hresponse⟩ : ∃ response, respond answer = .ok response := by
        rcases (answer_spec hleader).endSession_cases with ⟨e, rfl⟩ | rfl
        · exact ⟨_, rfl⟩
        · exact ⟨_, rfl⟩
      simp only [hresponse]
      rw [exec_post]
      generalize hhelper : m.helper.answer J (o.ambient 1) (.endSession id) = r
      obtain ⟨answer', p'⟩ := r
      cases hfault' : o.fault 1 with
      | requestLost => simp only [serve, hfault']; exact .helperRequestLost hfault hfault' hleader
      | replyLost =>
          simp only [serve, hfault', get_helper, set_helper, hhelper]
          exact .helperReplyLost hfault hfault' hleader hhelper
      | delivered =>
          rw [serve_delivered hfault', get_helper, set_helper, hhelper]
          obtain ⟨response', hresponse'⟩ : ∃ response', respond answer' = .ok response' := by
            rcases (answer_spec hhelper).endSession_cases with ⟨e, rfl⟩ | rfl
            · exact ⟨_, rfl⟩
            · exact ⟨_, rfl⟩
          simp only [hresponse']
          exact ends_of_responses _ hfault hfault' hleader hhelper hresponse hresponse'

end Managers
