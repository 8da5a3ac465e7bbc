-- SUMMARY: How ending a session goes on after attempts in which messages were lost.
import Dpsa4fl.System.Lockstep

/-!
# Ending a session after failed attempts

`handle_end_session` rejects a session that it does not know, and the call needs
both managers to accept. So an attempt that got as far as the leader's manager
and failed cannot be made good: later attempts remove the session everywhere,
but they fail, and the controller's record of the session stays.
-/

/-- In a session that is not over: a round is started with any outcome, or an
attempt to end the session fails. Any messages may be lost. -/
def System.Continues (J : Janus) (istate : ControllerStateImmut) (sys : System)
    (a : ControllerCall × Outside) : Prop :=
  match a.1 with
  | .createSession _ => False
  | .startRound _ => True
  | .endSession => (a.1.run J istate a.2 sys).1.isOk = false

instance (J : Janus) (istate : ControllerStateImmut) (sys : System) :
    (a : ControllerCall × Outside) → Decidable (sys.Continues J istate a)
  | (.createSession _, _) => instDecidableFalse
  | (.startRound _, _) => instDecidableTrue
  | (.endSession, _) => instDecidableEqBool _ _

/-- An attempt to end the session whose request to the leader's manager is not lost. -/
def ControllerCall.EndReached (o : Outside) : ControllerCall → Prop
  | endSession => o.fault 0 ≠ .requestLost
  | _ => False

/-- The session is live at both managers, and the controller has recorded it. -/
structure System.Established (sys : System) (id : TrainingSessionId) : Prop where
  recorded : sys.mstate.round.trainingSessionId = some id
  leader : (sys.managers.leader.trainingSessions.lookup id).isSome
  helper : (sys.managers.helper.trainingSessions.lookup id).isSome

namespace Managers

variable {J : Janus} {o : Outside} {m m' : Managers} {client : JanusManagerClient}

/-- Only an accepted creation has a session id in its answer. -/
theorem createdSession_exec_ok {α : Type} {aggregator : String} {response : HttpResponse}
    {f : TrainingSessionId → Net α} {n : Nat} {a : α}
    (h : (JanusManagerClient.createdSession aggregator response >>= f).exec (serve J o) n m =
      (.ok a, m')) :
    ∃ id, response = .ok (.createSession id) ∧ (f id).exec (serve J o) n m = (.ok a, m') := by
  unfold JanusManagerClient.createdSession at h
  split at h
  · exact ⟨_, rfl, h⟩
  · cases h
  · cases h

/-- A round request adds and removes no session. -/
theorem answer_startRound_live {p p' : TaskProvisioner} {ω : Ambient} {request : StartRoundRequest}
    {answer : Except Failure Response} (h : p.answer J ω (.startRound request) = (answer, p'))
    (k : TrainingSessionId) :
    (p'.trainingSessions.lookup k).isSome = (p.trainingSessions.lookup k).isSome := by
  cases answer_spec h with
  | started hlive _ _ _ _ hsessions =>
      rw [hsessions]
      by_cases hk : k = request.trainingSessionId
      · rw [hk, AList.lookup_insert, hlive]
        rfl
      · rw [AList.lookup_insert_ne hk]
  | failed hsame => rw [hsame.trainingSessions]

/-- Whatever is lost on its way, a round adds and removes no session. -/
theorem startRound_live (client : JanusManagerClient) (taskId : TaskId) (id k : TrainingSessionId)
    (server : ManagerServer) :
    (((m.run J o (client.startRound taskId id)).2.get server).trainingSessions.lookup k).isSome =
      ((m.get server).trainingSessions.lookup k).isSome := by
  revert server
  have hall : (client.startRound taskId id).All
      fun op => ∃ server request, op = .manager server (.startRound request) := by
    refine (Net.all_post ⟨_, _, rfl⟩).bind fun response =>
      (Net.all_post ⟨_, _, rfl⟩).bind fun response' => ?_
    unfold JanusManagerClient.bothOk
    split <;> trivial
  refine Script.exec_invariant (serve J o) (I := fun m' : Managers => ∀ server,
    ((m'.get server).trainingSessions.lookup k).isSome =
      ((m.get server).trainingSessions.lookup k).isSome) hall ?_ 0 fun _ => rfl
  rintro n _ m' ⟨asked, request, rfl⟩ hm'
  have hanswered : ∀ server,
      (((m'.set asked ((m'.get asked).answer J (o.ambient n) (.startRound request)).2).get
        server).trainingSessions.lookup k).isSome =
          ((m.get server).trainingSessions.lookup k).isSome := by
    intro server
    have hlive : (((m'.get asked).answer J (o.ambient n)
        (.startRound request)).2.trainingSessions.lookup k).isSome =
          ((m'.get asked).trainingSessions.lookup k).isSome := answer_startRound_live rfl k
    cases asked <;> cases server
    · exact hlive.trans (hm' .leader)
    · exact hm' .helper
    · exact hm' .leader
    · exact hlive.trans (hm' .helper)
  cases hfault : o.fault n with
  | requestLost => simp only [serve, hfault]; exact hm'
  | delivered => simp only [serve, hfault]; exact hanswered
  | replyLost => simp only [serve, hfault]; exact hanswered

/-- A creation that returns `Ok` was accepted by both managers under the same id. -/
theorem createSession_ok {random : Nat → UInt8} {id : TrainingSessionId}
    (h : m.run J o (client.createSession J random) = (.ok id, m')) :
    Creates J o m (client.makeRequest (client.verifyKey J random)) (.ok id, m') := by
  unfold run JanusManagerClient.createSession at h
  obtain ⟨answer, p, response, hleader, hresponse, h⟩ := exec_post_ok h
  obtain ⟨leaderId, rfl, -⟩ := createdSession_exec_ok h
  rw [JanusManagerClient.createdSession_ok, Script.ret_bind] at h
  obtain ⟨answer', p', response', hhelper, hresponse', h⟩ := exec_post_ok h
  obtain ⟨helperId, rfl, -⟩ := createdSession_exec_ok h
  rw [JanusManagerClient.createdSession_ok, Script.ret_bind] at h
  rw [respond_eq_ok] at hresponse hresponse'
  subst hresponse hresponse'
  split at h
  · rename_i heq
    rw [heq] at hhelper
    cases h
    exact .created hleader hhelper
  · cases h

end Managers

namespace System

variable {J : Janus} {istate : ControllerStateImmut} {o : Outside} {sys sys' : System}
  {id : TrainingSessionId}

/-- A session is established by a creation that returns `Ok`. -/
theorem established_of_createSession {random : Nat → UInt8} {value : UInt16}
    (h : sys.call J o (fun mstate => apiCreateSession J istate mstate random) = (.ok value, sys')) :
    sys'.Established ⟨value⟩ := by
  rw [call_createSession] at h
  split at h
  · rename_i id m hrun
    cases h
    cases Managers.createSession_ok hrun with
    | created hleader hhelper =>
        cases answer_spec hleader with
        | created _ _ _ _ hsessions =>
        cases answer_spec hhelper with
        | created _ _ _ _ hsessions' =>
            refine ⟨rfl, ?_, ?_⟩
            · simp only [hsessions, AList.lookup_insert, Option.isSome_some]
            · simp only [hsessions', AList.lookup_insert, Option.isSome_some]
  · cases h

/-- What a call leaves that does not end the session. The leader's manager loses the
session only in an attempt that reaches it. -/
structure Left (sys sys' : System) (id : TrainingSessionId) (reached : Prop) : Prop where
  recorded : sys'.mstate.round.trainingSessionId = some id
  gone : sys.managers.leader.trainingSessions.lookup id = none ∨ reached →
    sys'.managers.leader.trainingSessions.lookup id = none
  live : sys.Established id → ¬ reached → sys'.Established id

theorem failedEnd_left (hrecorded : sys.mstate.round.trainingSessionId = some id)
    (hfailed : (ControllerCall.endSession.run J istate o sys).1.isOk = false) :
    Left sys (ControllerCall.endSession.run J istate o sys).2 id
      (ControllerCall.EndReached o .endSession) := by
  simp only [ControllerCall.run, call_endSession hrecorded] at hfailed ⊢
  have hends : Managers.Ends J o sys.managers id
      (sys.managers.run J o (istate.permanent.janusTasksClient.endSession id)) :=
    Managers.run_endSession id
  -- once the leader's manager has handled the request, the session is gone there
  have hreached : ∀ {answer p p'}, o.fault 0 ≠ .requestLost →
      sys.managers.leader.answer J (o.ambient 0) (.endSession id) = (answer, p) →
      Left sys ⟨⟨p, p'⟩, sys.mstate⟩ id (ControllerCall.EndReached o .endSession) :=
    fun hfault hleader => ⟨hrecorded, fun _ => (answer_spec hleader).endSession_effect.1,
      fun _ hnot => (hnot hfault).elim⟩
  generalize sys.managers.run J o _ = r at hends hfailed ⊢
  cases hends with
  | leaderRequestLost hfault =>
      refine ⟨hrecorded, ?_, fun hlive _ => hlive⟩
      rintro (hgone | hreached)
      · exact hgone
      · exact (hreached hfault).elim
  | leaderReplyLost hfault hleader => exact hreached (by simp [hfault]) hleader
  | helperRequestLost hfault _ hleader => exact hreached (by simp [hfault]) hleader
  | helperReplyLost hfault _ hleader => exact hreached (by simp [hfault]) hleader
  | answered hfault _ hleader _ hresult =>
      rcases hresult with ⟨rfl, -⟩ | ⟨⟨e, rfl⟩, -⟩
      · cases hfailed
      · exact hreached (by simp [hfault]) hleader

theorem startRound_left (hrecorded : sys.mstate.round.trainingSessionId = some id)
    (taskId : TaskId) :
    Left sys ((ControllerCall.startRound taskId).run J istate o sys).2 id
      (ControllerCall.EndReached o (.startRound taskId)) := by
  have hlive : ∀ server, (((sys.managers.run J o
      (istate.permanent.janusTasksClient.startRound taskId id)).2.get server).trainingSessions.lookup
        id).isSome = ((sys.managers.get server).trainingSessions.lookup id).isSome :=
    Managers.startRound_live _ taskId id id
  simp only [ControllerCall.run, call_startRound taskId hrecorded]
  generalize sys.managers.run J o _ = r at hlive
  have hleft : ∀ mstate : ControllerStateMut, mstate.round.trainingSessionId = some id →
      Left sys ⟨r.2, mstate⟩ id (ControllerCall.EndReached o (.startRound taskId)) := by
    intro mstate hmstate
    refine ⟨hmstate, ?_, fun h _ => ⟨hmstate, ?_, ?_⟩⟩
    · rintro (hgone | hreached)
      · rw [← Option.not_isSome_iff_eq_none] at hgone ⊢
        exact fun h => hgone ((hlive .leader).symm.trans h)
      · exact hreached.elim
    · exact (hlive .leader).trans h.leader
    · exact (hlive .helper).trans h.helper
  obtain ⟨_ | _, m⟩ := r
  · exact hleft _ hrecorded
  · exact hleft _ hrecorded

theorem continues_left (hrecorded : sys.mstate.round.trainingSessionId = some id)
    {a : ControllerCall × Outside} (h : sys.Continues J istate a) :
    Left sys (a.1.run J istate a.2 sys).2 id (a.1.EndReached a.2) := by
  obtain ⟨call, o⟩ := a
  cases call with
  | createSession random => exact h.elim
  | startRound taskId => exact startRound_left hrecorded taskId
  | endSession => exact failedEnd_left hrecorded h

theorem Left.refl (hrecorded : sys.mstate.round.trainingSessionId = some id) :
    Left sys sys id False where
  recorded := hrecorded
  gone h := h.resolve_right not_false
  live h _ := h

theorem Left.trans {sys₁ : System} {reached reached' : Prop} (h : Left sys sys₁ id reached)
    (h' : Left sys₁ sys' id reached') : Left sys sys' id (reached ∨ reached') where
  recorded := h'.recorded
  gone := by
    rintro (hgone | hreached | hreached)
    · exact h'.gone (.inl (h.gone (.inl hgone)))
    · exact h'.gone (.inl (h.gone (.inr hreached)))
    · exact h'.gone (.inr hreached)
  live hlive hnot := h'.live (h.live hlive fun hr => hnot (.inl hr)) fun hr => hnot (.inr hr)

theorem along_left {as : List (ControllerCall × Outside)}
    (hrecorded : sys.mstate.round.trainingSessionId = some id)
    (hrun : Run.after (System.step J istate) sys as = some sys')
    (hcontinues : Run.Along (System.step J istate) (System.Continues J istate) sys as) :
    Left sys sys' id (∃ a ∈ as, a.1.EndReached a.2) := by
  induction as generalizing sys with
  | nil =>
      cases hrun
      simpa only [List.not_mem_nil, false_and, exists_false] using Left.refl hrecorded
  | cons a as ih =>
      obtain ⟨sys₁, h₁, hrest⟩ := Run.after_cons_eq_some.mp hrun
      obtain ⟨ha, hcontinues⟩ := (Run.along_cons h₁).mp hcontinues
      have hfirst : Left sys sys₁ id (a.1.EndReached a.2) := by
        cases h₁
        exact continues_left hrecorded ha
      simpa only [List.exists_mem_cons_iff] using
        hfirst.trans (ih hfirst.recorded hrest hcontinues)

/-- An attempt all of whose messages are delivered leaves the session live at
neither manager. It succeeds if both of them still had it. -/
theorem endSession_delivered (ho : o.Reliable)
    (hrecorded : sys.mstate.round.trainingSessionId = some id) {result : Except Failure Unit}
    (h : ControllerCall.endSession.run J istate o sys = (result, sys')) :
    sys'.managers.leader.trainingSessions.lookup id = none ∧
      sys'.managers.helper.trainingSessions.lookup id = none ∧
      (result = .ok () ∧ sys'.mstate.round.trainingSessionId = none ∧
          (sys.managers.leader.trainingSessions.lookup id).isSome ∨
        (∃ e, result = .error e) ∧ sys'.mstate.round.trainingSessionId = some id ∧
          ¬ ((sys.managers.leader.trainingSessions.lookup id).isSome ∧
            (sys.managers.helper.trainingSessions.lookup id).isSome)) := by
  simp only [ControllerCall.run, call_endSession hrecorded] at h
  have hends : Managers.Ends J o sys.managers id
      (sys.managers.run J o (istate.permanent.janusTasksClient.endSession id)) :=
    Managers.run_endSession id
  generalize sys.managers.run J o _ = r at hends h
  cases hends with
  | leaderRequestLost hfault => rw [ho 0] at hfault; cases hfault
  | leaderReplyLost hfault => rw [ho 0] at hfault; cases hfault
  | helperRequestLost _ hfault => rw [ho 1] at hfault; cases hfault
  | helperReplyLost _ hfault => rw [ho 1] at hfault; cases hfault
  | answered _ _ hleader hhelper hresult =>
      obtain ⟨hgone, -, -, hiff⟩ := (answer_spec hleader).endSession_effect
      obtain ⟨hgone', -, -, hiff'⟩ := (answer_spec hhelper).endSession_effect
      rcases hresult with ⟨rfl, hok, -⟩ | ⟨⟨e, rfl⟩, hnot⟩
      · cases h
        exact ⟨hgone, hgone', .inl ⟨rfl, rfl, hiff.mp hok⟩⟩
      · cases h
        refine ⟨hgone, hgone', .inr ⟨⟨e, rfl⟩, hrecorded, ?_⟩⟩
        rintro ⟨hlive, hlive'⟩
        exact hnot ⟨hiff.mpr hlive, hiff'.mpr hlive'⟩

/-- After a creation that returned `Ok`, any rounds and any failed attempts to end
the session, an attempt whose messages are all delivered ends it at both managers.
It returns `Ok` and clears the record exactly if no failed attempt had reached the
leader's manager. -/
theorem end_after_failures {sys₀ sys₁ sys₂ sys₃ : System} {o₀ : Outside}
    {as : List (ControllerCall × Outside)} {random : Nat → UInt8} {value : UInt16}
    {result : Except Failure Unit}
    (hcreate : sys₀.call J o₀ (fun mstate => apiCreateSession J istate mstate random) =
      (.ok value, sys₁))
    (hrun : Run.after (System.step J istate) sys₁ as = some sys₂)
    (hcontinues : Run.Along (System.step J istate) (System.Continues J istate) sys₁ as)
    (ho : o.Reliable) (hend : ControllerCall.endSession.run J istate o sys₂ = (result, sys₃)) :
    sys₃.managers.leader.trainingSessions.lookup ⟨value⟩ = none ∧
      sys₃.managers.helper.trainingSessions.lookup ⟨value⟩ = none ∧
      ((¬ ∃ a ∈ as, a.1.EndReached a.2) ∧ result = .ok () ∧
          sys₃.mstate.round.trainingSessionId = none ∨
        (∃ a ∈ as, a.1.EndReached a.2) ∧ (∃ e, result = .error e) ∧
          sys₃.mstate.round.trainingSessionId = some ⟨value⟩) := by
  have hestablished : sys₁.Established ⟨value⟩ := established_of_createSession hcreate
  have hleft : Left sys₁ sys₂ ⟨value⟩ (∃ a ∈ as, a.1.EndReached a.2) :=
    along_left hestablished.recorded hrun hcontinues
  obtain ⟨hgone, hgone', hresult⟩ := endSession_delivered ho hleft.recorded hend
  refine ⟨hgone, hgone', ?_⟩
  by_cases hreached : ∃ a ∈ as, a.1.EndReached a.2
  · rcases hresult with ⟨-, -, hlive⟩ | ⟨herror, hstuck, -⟩
    · rw [hleft.gone (.inr hreached)] at hlive
      cases hlive
    · exact .inr ⟨hreached, herror, hstuck⟩
  · obtain ⟨-, hlive, hlive'⟩ := hleft.live hestablished hreached
    rcases hresult with ⟨hok, hcleared, -⟩ | ⟨-, -, hnot⟩
    · exact .inl ⟨hreached, hok, hcleared⟩
    · exact (hnot ⟨hlive, hlive'⟩).elim

end System

namespace Sample

/-- The request to the helper's manager is lost. -/
def helperUnreachable : Outside :=
  ⟨fun _ => ambient 5, fun n => if n = 1 then .requestLost else .delivered⟩

/-- The request to the leader's manager is lost. -/
def leaderUnreachable : Outside :=
  ⟨fun _ => ambient 5, fun n => if n = 0 then .requestLost else .delivered⟩

/-- The controller has created the session 5. -/
def created : System :=
  (system.call .plain (reliable 5) fun mstate =>
    apiCreateSession .plain controller mstate fun _ => 1).2

/-- A round, and an attempt to end the session that does not reach the leader's manager. -/
def endUnsent : List (ControllerCall × Outside) :=
  [(.startRound (taskId 1), reliable 5), (.endSession, leaderUnreachable)]

/-- The same for an attempt that reaches only the leader's manager, and a round
that fails after it. -/
def endHalfway : List (ControllerCall × Outside) :=
  [(.startRound (taskId 1), reliable 5), (.endSession, helperUnreachable),
   (.startRound (taskId 2), reliable 5)]

end Sample

/-- A session that is ended after an attempt that did not reach the leader's
manager, and one that is not after an attempt that did. -/
theorem System.end_after_failures_sample :
    (∃ sys, Run.after (System.step .plain Sample.controller) Sample.created Sample.endUnsent =
        some sys ∧
      (ControllerCall.endSession.run .plain Sample.controller (Sample.reliable 5) sys).1 = .ok ()) ∧
    ∃ sys, Run.after (System.step .plain Sample.controller) Sample.created Sample.endHalfway =
        some sys ∧
      (ControllerCall.endSession.run .plain Sample.controller (Sample.reliable 5)
        sys).2.mstate.round.trainingSessionId = some ⟨5⟩ := by
  have hcreate : Sample.system.call .plain (Sample.reliable 5)
      (fun mstate => apiCreateSession .plain Sample.controller mstate fun _ => 1) =
        (.ok 5, Sample.created) := rfl
  have ho : (Sample.reliable 5).Reliable := fun _ => rfl
  constructor
  · obtain ⟨sys, hrun⟩ := Option.isSome_iff_exists.mp
      (show (Run.after (System.step .plain Sample.controller) Sample.created
        Sample.endUnsent).isSome by decide +kernel)
    refine ⟨sys, hrun, ?_⟩
    have hcontinues : Run.Along (System.step .plain Sample.controller)
        (System.Continues .plain Sample.controller) Sample.created Sample.endUnsent := by
      decide +kernel
    have hunsent : ¬ ∃ a ∈ Sample.endUnsent, a.1.EndReached a.2 := by
      simp [Sample.endUnsent, ControllerCall.EndReached, Sample.leaderUnreachable]
    obtain ⟨-, -, ⟨-, hok, -⟩ | ⟨hreached, -⟩⟩ :=
      System.end_after_failures hcreate hrun hcontinues ho rfl
    · exact hok
    · exact (hunsent hreached).elim
  · obtain ⟨sys, hrun⟩ := Option.isSome_iff_exists.mp
      (show (Run.after (System.step .plain Sample.controller) Sample.created
        Sample.endHalfway).isSome by decide +kernel)
    refine ⟨sys, hrun, ?_⟩
    have hcontinues : Run.Along (System.step .plain Sample.controller)
        (System.Continues .plain Sample.controller) Sample.created Sample.endHalfway := by
      decide +kernel
    have hhalfway : ∃ a ∈ Sample.endHalfway, a.1.EndReached a.2 := by
      simp [Sample.endHalfway, ControllerCall.EndReached, Sample.helperUnreachable]
    obtain ⟨-, -, ⟨hunreached, -⟩ | ⟨-, -, hstuck⟩⟩ :=
      System.end_after_failures hcreate hrun hcontinues ho rfl
    · exact (hunreached hhalfway).elim
    · exact hstuck

/-- The request of the first attempt to the helper's manager is lost. The second
attempt meets no fault, but it fails and the record of the session stays. -/
theorem System.end_stuck :
    (Sample.system.call .plain (Sample.reliable 5) fun mstate =>
        apiCreateSession .plain Sample.controller mstate fun _ => 1) = (.ok 5, Sample.created) ∧
      ∃ e sys, ControllerCall.endSession.run .plain Sample.controller Sample.helperUnreachable
          Sample.created = (.error e, sys) ∧
        (ControllerCall.endSession.run .plain Sample.controller (Sample.reliable 5) sys).1 ≠
          .ok () ∧
        (ControllerCall.endSession.run .plain Sample.controller (Sample.reliable 5)
          sys).2.mstate.round.trainingSessionId = some ⟨5⟩ := by
  refine ⟨rfl, _, _, rfl, ?_, ?_⟩ <;> decide +kernel
