-- SUMMARY: What a process sends to the managers, at which point of its call, and what the calls of a controller have heard when they return.
import Dpsa4fl.System.Traces

/-!
# The calls of controllers

Each call of a controller asks the leader's manager first and then, depending on
the answer, the helper's. `Process.Sends` says which request a process waits at,
as an inversion lemma over all calls.
-/

/-! ## Two requests in a row -/

/-- The program has come to its end. -/
def Script.Done {Op : Type} {Ans : Op → Type} {ε α : Type} : Script Op Ans ε α → Prop
  | .ret _ => True
  | .fail _ => True
  | .call _ _ => False

/-- How far a call is that posts `q` to the leader's manager, and then `next r`
to the helper's if the answer `r` lets it go on. -/
inductive Stage {α : Type} (q : Request) (next : HttpResponse → Option Request) :
    List Exchange → Api α → Prop where
  | leader {k} : Stage q next [] (.call (.manager .leader q) k)
  | noAnswer {e x} : Stage q next [⟨.manager .leader q, .error e⟩] (.ret x)
  | stopped {r x} (hnext : next r = none) : Stage q next [⟨.manager .leader q, .ok r⟩] (.ret x)
  | helper {r q' k} (hnext : next r = some q') :
      Stage q next [⟨.manager .leader q, .ok r⟩] (.call (.manager .helper q') k)
  | finished {r q' x} {answer : Ans (.manager .helper q')} (hnext : next r = some q') :
      Stage q next [⟨.manager .leader q, .ok r⟩, ⟨.manager .helper q', answer⟩] (.ret x)

/-- Any program of this form is at one of these stages. -/
theorem Stage.of_follows {α : Type} {q : Request} {next : HttpResponse → Option Request}
    {f : HttpResponse → Net α}
    (hstop : ∀ r, next r = none → (f r).Done)
    (hgo : ∀ r q', next r = some q' →
      ∃ g, f r = Net.post .helper q' >>= g ∧ ∀ r', (g r').Done)
    {es : List Exchange} {m' : Api (Except Failure α)}
    (h : Script.Follows (Net.post .leader q >>= f).attempt es m') : Stage q next es m' := by
  have hdone : ∀ {m : Net α} {es : List Exchange} {m' : Net α}, m.Done →
      Script.Follows m es m' → es = [] ∧ ∃ x, (m'.attempt : Api (Except Failure α)) = .ret x := by
    intro m es m' hm h
    cases m with
    | ret a =>
        obtain ⟨rfl, rfl⟩ := Script.Follows.ret_iff.mp h
        exact ⟨rfl, _, rfl⟩
    | fail e =>
        obtain ⟨rfl, rfl⟩ := Script.Follows.fail_iff.mp h
        exact ⟨rfl, _, rfl⟩
    | call op k => exact hm.elim
  obtain ⟨m₁, hfollows, rfl⟩ := h.of_attempt
  rcases Net.follows_post hfollows with ⟨rfl, rfl⟩ | ⟨e, rfl, rfl⟩ | ⟨r, es₁, rfl, h₁⟩
  · exact .leader
  · exact .noAnswer
  · cases hnext : next r with
    | none =>
        obtain ⟨rfl, x, hx⟩ := hdone (hstop r hnext) h₁
        rw [hx]
        exact .stopped hnext
    | some q' =>
        obtain ⟨g, hf, hg⟩ := hgo r q' hnext
        rw [hf] at h₁
        rcases Net.follows_post h₁ with ⟨rfl, rfl⟩ | ⟨e, rfl, rfl⟩ | ⟨r', es₂, rfl, h₂⟩
        · exact .helper hnext
        · exact .finished hnext
        · obtain ⟨rfl, x, hx⟩ := hdone (hg r') h₂
          rw [hx]
          exact .finished hnext

theorem Stage.first_exchange {α : Type} {q : Request} {next : HttpResponse → Option Request}
    {e : Exchange} {es : List Exchange} {m' : Api α} (h : Stage q next (e :: es) m') :
    ∃ r, e = ⟨.manager .leader q, r⟩ := by
  cases h with
  | noAnswer => exact ⟨_, rfl⟩
  | stopped => exact ⟨_, rfl⟩
  | helper => exact ⟨_, rfl⟩
  | finished => exact ⟨_, rfl⟩

namespace JanusManagerClient

variable {J : Janus} {client : JanusManagerClient} {es : List Exchange}

/-- The request of a creation to the helper's manager, for the id in the answer
of the leader's. -/
def helperRequest (J : Janus) (client : JanusManagerClient) (random : Nat → UInt8) :
    HttpResponse → Option Request
  | .ok (.createSession id) =>
    some (.createSession (client.makeRequest (client.verifyKey J random) .helper (some id)))
  | _ => none

theorem createdSession_cases (aggregator : String) (r : HttpResponse) :
    (∃ id, r = .ok (.createSession id)) ∨ ∃ e, createdSession aggregator r = .fail e := by
  unfold createdSession
  split
  · exact .inl ⟨_, rfl⟩
  · exact .inr ⟨_, rfl⟩
  · exact .inr ⟨_, rfl⟩

theorem stage_createSession {random : Nat → UInt8} {m' : Api (Except Failure TrainingSessionId)}
    (h : Script.Follows (client.createSession J random).attempt es m') :
    Stage (.createSession (client.makeRequest (client.verifyKey J random) .leader none))
      (client.helperRequest J random) es m' := by
  refine Stage.of_follows ?_ ?_ h
  · intro r hnext
    rcases createdSession_cases "leader" r with ⟨id, rfl⟩ | ⟨e, he⟩
    · cases hnext
    · simp only [he]
      trivial
  · intro r q' hnext
    rcases createdSession_cases "leader" r with ⟨id, rfl⟩ | ⟨e, he⟩
    · cases hnext
      refine ⟨_, rfl, fun r' => ?_⟩
      rcases createdSession_cases "helper" r' with ⟨id', rfl⟩ | ⟨e, he⟩
      · rw [createdSession_ok, Script.ret_bind]
        split <;> trivial
      · rw [he]
        trivial
    · unfold helperRequest at hnext
      split at hnext
      · cases he
      · cases hnext

theorem bothOk_done {α : Type} (message : String) (result : α) (r r' : HttpResponse) :
    (bothOk message result r r').Done := by
  unfold bothOk
  split <;> trivial

theorem stage_endSession (client : JanusManagerClient) {id : TrainingSessionId}
    {m' : Api (Except Failure Unit)}
    (h : Script.Follows (client.endSession id).attempt es m') :
    Stage (.endSession id) (fun _ => some (.endSession id)) es m' := by
  refine Stage.of_follows (fun r hnext => by cases hnext) ?_ h
  rintro r _ ⟨⟩
  exact ⟨_, rfl, fun r' => bothOk_done _ _ _ _⟩

theorem stage_startRound (client : JanusManagerClient) {taskId : TaskId}
    {id : TrainingSessionId} {m' : Api (Except Failure TaskId)}
    (h : Script.Follows (client.startRound taskId id).attempt es m') :
    Stage (.startRound ⟨id, taskIdToString taskId⟩)
      (fun _ => some (.startRound ⟨id, taskIdToString taskId⟩)) es m' := by
  refine Stage.of_follows (fun r hnext => by cases hnext) ?_ h
  rintro r _ ⟨⟩
  exact ⟨_, rfl, fun r' => bothOk_done _ _ _ _⟩

theorem follows_bothOk {α : Type} {message : String} {result a : α} {r r' : HttpResponse}
    (h : Script.Follows (bothOk message result r r') es (.ret a)) :
    es = [] ∧ a = result ∧ ∃ response response', r = .ok response ∧ r' = .ok response' := by
  cases r with
  | badRequest e =>
      obtain ⟨-, hret⟩ := Script.Follows.fail_iff.mp h
      cases hret
  | ok response =>
      cases r' with
      | badRequest e =>
          obtain ⟨-, hret⟩ := Script.Follows.fail_iff.mp h
          cases hret
      | ok response' =>
          obtain ⟨rfl, hret⟩ := Script.Follows.ret_iff.mp h
          cases hret
          exact ⟨rfl, rfl, response, response', rfl, rfl⟩

/-- A round is started only if both managers have accepted it. -/
theorem follows_startRound {taskId t : TaskId} {id : TrainingSessionId}
    (h : Script.Follows (client.startRound taskId id) es (.ret t)) :
    t = taskId ∧ ∃ request response response',
      es = [⟨.manager .leader request, .ok (.ok response)⟩,
        ⟨.manager .helper request, .ok (.ok response')⟩] := by
  unfold startRound at h
  rcases Net.follows_post h with ⟨-, hret⟩ | ⟨e, -, hret⟩ | ⟨r, es₁, rfl, h₁⟩
  · cases hret
  · cases hret
  · rcases Net.follows_post h₁ with ⟨-, hret⟩ | ⟨e, -, hret⟩ | ⟨r', es₂, rfl, h₂⟩
    · cases hret
    · cases hret
    · obtain ⟨rfl, rfl, response, response', rfl, rfl⟩ := follows_bothOk h₂
      exact ⟨rfl, _, response, response', rfl⟩

end JanusManagerClient

/-! ## What a process sends -/

/-- The call is one of a client. -/
def Call.ofClient : Call → Bool
  | newClientState _ _ => true
  | clientState _ _ => true
  | _ => false

/-- The request that a process waits at, with the trace of the process there. -/
inductive Process.Sends (J : Janus) (process : Process) : ManagerServer → Request → Prop where
  | createLeader {client random} (hcall : process.call = .createSession client random)
      (htrace : process.trace = []) :
      Sends J process .leader
        (.createSession (client.makeRequest (client.verifyKey J random) .leader none))
  | createHelper {client random request id} (hcall : process.call = .createSession client random)
      (htrace : process.trace = [⟨.manager .leader request, .ok (.ok (.createSession id))⟩]) :
      Sends J process .helper
        (.createSession (client.makeRequest (client.verifyKey J random) .helper (some id)))
  | endSession {server client id} (hcall : process.call = .endSession client id) :
      Sends J process server (.endSession id)
  | startLeader {client taskId id} (hcall : process.call = .startRound client taskId id)
      (htrace : process.trace = []) :
      Sends J process .leader (.startRound ⟨id, taskIdToString taskId⟩)
  | startHelper {client taskId id request response}
      (hcall : process.call = .startRound client taskId id)
      (htrace : process.trace = [⟨.manager .leader request, .ok response⟩]) :
      Sends J process .helper (.startRound ⟨id, taskIdToString taskId⟩)
  | query {server request} (hcall : process.call.ofClient = true)
      (hquery : (Op.manager server request).Query) : Sends J process server request

namespace Process.Sends

variable {J : Janus} {process : Process} {server : ManagerServer} {request : Request}
  {client : JanusManagerClient}

/-- A creation that has heard nothing yet asks the leader's manager. -/
theorem first_of_createSession {random : Nat → UInt8} (h : process.Sends J server request)
    (hcall : process.call = .createSession client random) (htrace : process.trace = []) :
    server = .leader ∧ request =
      .createSession (client.makeRequest (client.verifyKey J random) .leader none) := by
  cases h with
  | createLeader hcall' =>
      rw [hcall] at hcall'
      cases hcall'
      exact ⟨rfl, rfl⟩
  | createHelper _ htrace' => rw [htrace] at htrace'; cases htrace'
  | endSession hcall' => rw [hcall] at hcall'; cases hcall'
  | startLeader hcall' => rw [hcall] at hcall'; cases hcall'
  | startHelper hcall' => rw [hcall] at hcall'; cases hcall'
  | query hclient => rw [hcall] at hclient; cases hclient

/-- A round is asked of the leader's manager first and of the helper's then. -/
theorem of_startRound {taskId : TaskId} {id : TrainingSessionId} (h : process.Sends J server request)
    (hcall : process.call = .startRound client taskId id) :
    request = .startRound ⟨id, taskIdToString taskId⟩ ∧
      (process.trace = [] ∧ server = .leader ∨
        ∃ q response, process.trace = [⟨.manager .leader q, .ok response⟩] ∧ server = .helper) := by
  cases h with
  | createLeader hcall' => rw [hcall] at hcall'; cases hcall'
  | createHelper hcall' => rw [hcall] at hcall'; cases hcall'
  | endSession hcall' => rw [hcall] at hcall'; cases hcall'
  | startLeader hcall' htrace =>
      rw [hcall] at hcall'
      cases hcall'
      exact ⟨rfl, .inl ⟨htrace, rfl⟩⟩
  | startHelper hcall' htrace =>
      rw [hcall] at hcall'
      cases hcall'
      exact ⟨rfl, .inr ⟨_, _, htrace, rfl⟩⟩
  | query hclient => rw [hcall] at hclient; cases hclient

theorem first_of_startRound {taskId : TaskId} {id : TrainingSessionId}
    (h : process.Sends J server request) (hcall : process.call = .startRound client taskId id)
    (htrace : process.trace = []) :
    server = .leader ∧ request = .startRound ⟨id, taskIdToString taskId⟩ := by
  obtain ⟨hrequest, ⟨-, hserver⟩ | ⟨_, _, htrace', -⟩⟩ := h.of_startRound hcall
  · exact ⟨hserver, hrequest⟩
  · rw [htrace] at htrace'
    cases htrace'

theorem second_of_startRound {taskId : TaskId} {id : TrainingSessionId}
    (h : process.Sends J server request) (hcall : process.call = .startRound client taskId id)
    {e : Exchange} {es : List Exchange} (htrace : process.trace = e :: es) :
    server = .helper ∧ request = .startRound ⟨id, taskIdToString taskId⟩ := by
  obtain ⟨hrequest, ⟨htrace', -⟩ | ⟨_, _, -, hserver⟩⟩ := h.of_startRound hcall
  · rw [htrace] at htrace'
    cases htrace'
  · exact ⟨hserver, hrequest⟩

end Process.Sends

theorem Process.Traced.sends {J : Janus} {w : World} {process : Process} (h : process.Traced J w)
    {server : ManagerServer} {request : Request}
    {f : Ans (.manager server request) → Api process.call.Result}
    (hrest : process.rest = .call (.manager server request) f) :
    process.Sends J server request := by
  have hfollows := h.follows
  rw [hrest] at hfollows
  clear h hrest
  obtain ⟨call, trace, rest, pending⟩ := process
  cases call with
  | createSession client random =>
      have hstage := JanusManagerClient.stage_createSession hfollows
      cases hstage with
      | leader => exact .createLeader rfl rfl
      | @helper r q' k hnext =>
          unfold JanusManagerClient.helperRequest at hnext
          split at hnext
          · cases hnext
            exact .createHelper rfl rfl
          · cases hnext
  | endSession client id =>
      have hstage := client.stage_endSession hfollows
      cases hstage with
      | leader => exact .endSession rfl
      | helper hnext => cases hnext; exact .endSession rfl
  | startRound client taskId id =>
      have hstage := client.stage_startRound hfollows
      cases hstage with
      | leader => exact .startLeader rfl rfl
      | helper hnext => cases hnext; exact .startHelper rfl rfl
  | newClientState managerLocations roundSettings =>
      have hall : Script.All Op.Initial
          ((ClientState.new managerLocations roundSettings).attempt : Api _) :=
        (ClientState.new_initial managerLocations roundSettings).attempt
      exact .query rfl (hall.rest hfollows).1.query
  | clientState managerLocations calls =>
      exact .query rfl ((clientCalls_query _ calls).rest hfollows).1

/-- A process that waits for an answer has a thread with the request it waits at. -/
theorem Process.Traced.pending_sends {J : Janus} {w : World} {process : Process}
    (h : process.Traced J w) {k : Nat} (hpending : process.pending = some k) :
    ∃ server thread, (w.manager server).threads[k]? = some thread ∧
      process.Sends J server thread.request := by
  obtain ⟨server, request, f, thread, hrest, hthread, rfl⟩ := h.pending k hpending
  exact ⟨server, thread, hthread, h.sends hrest⟩

/-- The first exchange of a round is the one with the leader's manager. -/
theorem Process.Traced.first_exchange {J : Janus} {w : World} {process : Process}
    (h : process.Traced J w) {client : JanusManagerClient} {taskId : TaskId} {id : TrainingSessionId}
    (hcall : process.call = .startRound client taskId id) {e : Exchange} {es : List Exchange}
    (htrace : process.trace = e :: es) :
    ∃ r, e = ⟨.manager .leader (.startRound ⟨id, taskIdToString taskId⟩), r⟩ := by
  obtain ⟨call, trace, rest, pending⟩ := process
  simp only at hcall htrace
  subst hcall htrace
  exact (client.stage_startRound h.follows).first_exchange
