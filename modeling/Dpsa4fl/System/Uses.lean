-- SUMMARY: Where a world has terms under a session id: at its managers, in creations that are under way, and in rounds that one manager has accepted.
import Dpsa4fl.System.Rounds

/-!
# Ids in use

A session id is in use as long as something is done under it at one of the
managers, or is still to be done: a creation that was answered by the leader's
manager and not yet passed on to the helper's, or a round that was accepted by
the leader's and not yet handled by the helper's.
-/

namespace Process

/-- The id that the leader's manager has answered to this creation, if the
request to the helper's is still to be sent. -/
def createdId (w : World) (process : Process) : Option TrainingSessionId :=
  match process.trace, process.pending with
  | [], some k =>
    match w.leader.threads[k]? with
    | some (.answered _ (.ok (.createSession id))) => some id
    | _ => none
  | [⟨.manager _ _, .ok (.ok (.createSession id))⟩], none => some id
  | _, _ => none

/-- The session of the round that this call starts, if the leader's manager has
accepted the round and the helper's has still to handle it. -/
def openRound (w : World) (process : Process) : Option TrainingSessionId :=
  match process.call with
  | .startRound _ _ id =>
    match process.trace, process.pending with
    | [], some k =>
      match w.leader.threads[k]? with
      | some (.answered _ (.ok _)) => some id
      | _ => none
    | [⟨.manager _ _, .ok (.ok _)⟩], none => some id
    | [⟨.manager _ _, .ok (.ok _)⟩], some k =>
      match w.helper.threads[k]? with
      | some (.arrived _) => some id
      | _ => none
    | _, _ => none
  | _ => none

end Process

namespace World

/-- The id is used by a manager, by a creation, or by a round. -/
def inUse (w : World) (id : TrainingSessionId) : Bool :=
  w.leader.uses id || w.helper.uses id || w.processes.any fun process =>
    process.createdId w = some id || process.openRound w = some id

/-- The world has the terms `p` under this id. -/
inductive Uses (J : Janus) (w : World) (id : TrainingSessionId) (p : Terms) : Prop where
  | manager {server} (huses : (w.manager server).Uses J id p)
  | created {i : Nat} {process : Process} {client random} (hget : w.processes[i]? = some process)
      (hcall : process.call = .createSession client random)
      (hid : process.createdId w = some id)
      (hterms : (client.makeRequest (client.verifyKey J random) .leader none).terms J = .ok p)
  | started {i : Nat} {process : Process} {client taskId task} (hget : w.processes[i]? = some process)
      (hcall : process.call = .startRound client taskId id)
      (hopen : process.openRound w = some id)
      (hstored : w.leader.provisioner.datastore.lookup taskId = some task)
      (hcarries : task.Carries J p .leader)

/-- The id that a manager draws in this step, with the terms of the request. -/
def draw (J : Janus) (w : World) : Action → Option (TrainingSessionId × Terms)
  | .manager server action => (w.manager server).draw J action
  | _ => none

variable {J : Janus} {w w' : World} {id : TrainingSessionId} {p : Terms}

theorem Uses.inUse (h : w.Uses J id p) : w.inUse id = true := by
  unfold World.inUse
  simp only [Bool.or_eq_true, List.any_eq_true, decide_eq_true_eq]
  cases h with
  | @manager server huses =>
      cases server with
      | leader => exact .inl (.inl huses.uses)
      | helper => exact .inl (.inr huses.uses)
  | created hget _ hid => exact .inr ⟨_, List.mem_of_getElem? hget, .inl hid⟩
  | started hget _ hopen => exact .inr ⟨_, List.mem_of_getElem? hget, .inr hopen⟩

end World

namespace Process

variable {w : World} {process : Process} {id : TrainingSessionId}

/-- The two points at which a creation has an id for the helper's manager. -/
theorem createdId_cases (h : process.createdId w = some id) :
    (∃ k request, process.trace = [] ∧ process.pending = some k ∧
      w.leader.threads[k]? = some (.answered request (.ok (.createSession id)))) ∨
    ∃ server request, process.pending = none ∧
      process.trace = [⟨.manager server request, .ok (.ok (.createSession id))⟩] := by
  unfold createdId at h
  split at h
  · rename_i k htrace hpending
    split at h
    · rename_i request id' hthread
      cases h
      exact .inl ⟨k, request, htrace, hpending, hthread⟩
    · cases h
  · rename_i server request id' htrace hpending
    cases h
    exact .inr ⟨server, request, hpending, htrace⟩
  · cases h

/-- The three points at which a round waits for the helper's manager. -/
theorem openRound_cases (h : process.openRound w = some id) :
    (∃ k request response, process.trace = [] ∧ process.pending = some k ∧
      w.leader.threads[k]? = some (.answered request (.ok response))) ∨
    (∃ server request response, process.pending = none ∧
      process.trace = [⟨.manager server request, .ok (.ok response)⟩]) ∨
    ∃ server request response k request', process.pending = some k ∧
      process.trace = [⟨.manager server request, .ok (.ok response)⟩] ∧
      w.helper.threads[k]? = some (.arrived request') := by
  unfold openRound at h
  split at h
  · split at h
    · rename_i k htrace hpending
      split at h
      · rename_i request response hthread
        exact .inl ⟨k, request, response, htrace, hpending, hthread⟩
      · cases h
    · rename_i server request response htrace hpending
      exact .inr (.inl ⟨server, request, response, hpending, htrace⟩)
    · rename_i server request response k htrace hpending
      split at h
      · rename_i request' hthread
        exact .inr (.inr ⟨server, request, response, k, request', hpending, htrace, hthread⟩)
      · cases h
    · cases h
  · cases h

end Process

namespace World

variable {J : Janus} {w w' : World} {id : TrainingSessionId} {p : Terms} {i : Nat}
  {process : Process} {client : JanusManagerClient} {taskId : TaskId}

/-- The task of an open round is stored at the leader's manager. -/
theorem Regular.openRound_stored (hw : w.Regular J) (hget : w.processes[i]? = some process)
    (hcall : process.call = .startRound client taskId id)
    (hopen : process.openRound w = some id) :
    ∃ task p, w.leader.provisioner.datastore.lookup taskId = some task ∧
      task.Carries J p .leader := by
  have htraced := hw.sound.traced i process hget
  have haccepted : ∀ (k : Nat) (response : Response), w.leader.threads[k]? =
        some (.answered (.startRound ⟨id, taskIdToString taskId⟩) (.ok response)) →
      ∃ task p, w.leader.provisioner.datastore.lookup taskId = some task ∧
        task.Carries J p .leader := by
    intro k response hk
    obtain ⟨t, task, p, hdecode, hstored, hcarries⟩ := (hw.inRole .leader).accepted k _ response hk
    obtain rfl := eq_of_taskIdFromString hdecode
    exact ⟨task, p, hstored, hcarries⟩
  -- the leader's manager has answered, and the answer may have been received
  have hreceived : ∀ server request response,
      process.trace = [⟨.manager server request, .ok (.ok response)⟩] →
      ∃ task p, w.leader.provisioner.datastore.lookup taskId = some task ∧
        task.Carries J p .leader := by
    intro server request response htrace
    obtain ⟨r, heq⟩ := htraced.first_exchange hcall htrace
    simp only [Sigma.mk.injEq, Op.manager.injEq] at heq
    obtain ⟨⟨rfl, rfl⟩, -⟩ := heq
    obtain ⟨k, hk⟩ := htraced.answered .leader _ response (by rw [htrace]; exact List.mem_cons_self)
    exact haccepted k response hk
  rcases Process.openRound_cases hopen with ⟨k, request, response, htrace, hpending, hthread⟩ |
    ⟨server, request, response, -, htrace⟩ | ⟨server, request, response, k, request', -, htrace, -⟩
  · obtain ⟨server, thread, hk, hsends⟩ := htraced.pending_sends hpending
    obtain ⟨rfl, hrequest⟩ := hsends.first_of_startRound hcall htrace
    obtain rfl := Option.some.inj (hk.symm.trans hthread)
    cases hrequest
    exact haccepted k response hthread
  · exact hreceived server request response htrace
  · exact hreceived server request response htrace

/-! ## One step back -/

/-- What a manager uses after a step was used before it, or has been drawn. -/
theorem Uses.manager_back (hw : w.Regular J) {a : Action} (hmove : w.Moves J a w')
    {server : ManagerServer} (h : (w'.manager server).Uses J id p) :
    w.Uses J id p ∨ w.draw J a = some (id, p) := by
  have hat := hmove.atManager server
  generalize w'.manager server = m at hat h
  cases hat with
  | same => exact .inl (.manager h)
  | @sent i process request f m hget hpending hrest hstep =>
      rcases h.back (hw.sound.coherent server) hstep with h | hdraw | ⟨request, heq, hid, hterms⟩
      · exact .inl (.manager h)
      · cases hdraw
      · -- the helper's manager is asked for the id that the leader's has answered
        cases heq
        cases (hw.sound.traced i process hget).sends hrest with
        | createLeader => cases hid
        | createHelper hcall htrace =>
            cases hid
            refine .inl (.created hget hcall ?_ hterms)
            simp only [Process.createdId, htrace, hpending]
        | query _ hquery => exact hquery.elim
  | managed haction hstep =>
      rcases h.back (hw.sound.coherent server) hstep with h | hdraw | ⟨request, heq, -⟩
      · exact .inl (.manager h)
      · exact .inr hdraw
      · exact (haction _ heq).elim

/-- A process that hears of an accepted request had waited for this answer. -/
theorem Heard.last_exchange {op : Op} {r : Ans op} (h : w.Heard process op r) (es : List Exchange)
    {server : ManagerServer} {request : Request} {response : Response}
    (htrace : process.trace ++ [⟨op, r⟩] = es ++ [⟨.manager server request, .ok (.ok response)⟩]) :
    process.trace = es ∧ op = .manager server request ∧ ∃ k request', process.pending = some k ∧
      (w.manager server).threads[k]? = some (.answered request' (.ok response)) := by
  obtain ⟨hes, hexchange⟩ := List.append_inj' htrace rfl
  have hlast := List.singleton_inj.mp hexchange
  cases h with
  | @answer server' _ request' answer k hpending hanswered =>
      simp only [Sigma.mk.injEq, Op.manager.injEq] at hlast
      obtain ⟨⟨rfl, rfl⟩, hr⟩ := hlast
      rw [respond_eq_ok.mp (eq_of_heq hr)] at hanswered
      exact ⟨hes, rfl, k, request', hpending, hanswered⟩
  | lost => cases hlast
  | httpClient => cases hlast
  | built => cases hlast
  | uploaded => cases hlast

/-- A process that waits for a thread waited for it before the step, or its request
has just arrived. -/
theorem Sound.pending_back (hw : w.Sound J) {a : Action} (hmove : w.Moves J a w')
    (hget : w'.processes[i]? = some process) {k : Nat} (hpending : process.pending = some k) :
    ∃ process₀ server, w.processes[i]? = some process₀ ∧ process₀.call = process.call ∧
      process₀.trace = process.trace ∧
        ((process₀.pending = some k ∧ ∃ thread, (w.manager server).threads[k]? = some thread ∧
            process₀.Sends J server thread.request) ∨
          (process₀.pending = none ∧ ∃ request,
            (w'.manager server).threads[k]? = some (.arrived request) ∧
              process₀.Sends J server request)) := by
  cases hmove.origin hget with
  | same hget₀ =>
      obtain ⟨server, thread, hk, hsends⟩ := (hw.traced i process hget₀).pending_sends hpending
      exact ⟨process, server, hget₀, rfl, rfl, .inl ⟨hpending, thread, hk, hsends⟩⟩
  | started => cases hpending
  | @sent process server request f hget₀ hpending₀ hrest hthreads =>
      cases hpending
      refine ⟨process, server, hget₀, rfl, rfl, .inr ⟨hpending₀, request, ?_,
        (hw.traced i process hget₀).sends hrest⟩⟩
      rw [hthreads, List.getElem?_concat_length]
  | heard => cases hpending

/-- A process whose last request was accepted knew this before the step, or it has
just received the answer. -/
theorem Sound.accepted_back (hw : w.Sound J) {a : Action} (hmove : w.Moves J a w')
    (hget : w'.processes[i]? = some process) (es : List Exchange) {server : ManagerServer}
    {request : Request} {response : Response}
    (htrace : process.trace = es ++ [⟨.manager server request, .ok (.ok response)⟩]) :
    ∃ process₀, w.processes[i]? = some process₀ ∧ process₀.call = process.call ∧
      ((process₀.trace = process.trace ∧ (process.pending = none → process₀.pending = none)) ∨
        (process₀.trace = es ∧ process₀.Sends J server request ∧
          ∃ k request', process₀.pending = some k ∧
            (w.manager server).threads[k]? = some (.answered request' (.ok response)))) := by
  cases hmove.origin hget with
  | same hget₀ => exact ⟨process, hget₀, rfl, .inl ⟨rfl, id⟩⟩
  | started =>
      have hempty : [] = es ++ [_] := htrace
      simp at hempty
  | sent hget₀ hpending₀ => exact ⟨_, hget₀, rfl, .inl ⟨rfl, fun _ => hpending₀⟩⟩
  | @heard _ process op f r hget₀ hrest hheard =>
      obtain ⟨hes, rfl, hanswered⟩ := hheard.last_exchange es htrace
      exact ⟨process, hget₀, rfl, .inr ⟨hes, (hw.traced i process hget₀).sends hrest, hanswered⟩⟩

/-- What a creation has to pass on after a step was used before it. -/
theorem Uses.created_back (hw : w.Regular J) {a : Action} (hmove : w.Moves J a w')
    {random : Nat → UInt8} (hget : w'.processes[i]? = some process)
    (hcall : process.call = .createSession client random) (hid : process.createdId w' = some id)
    (hterms : (client.makeRequest (client.verifyKey J random) .leader none).terms J = .ok p) :
    w.Uses J id p := by
  rcases Process.createdId_cases hid with ⟨k, request, htrace, hpending, hthread⟩ |
    ⟨server, request, hpending, htrace⟩
  · -- the leader's manager has answered
    obtain ⟨process₀, server, hget₀, hcall₀, htrace₀, hcases⟩ :=
      hw.sound.pending_back hmove hget hpending
    rw [hcall] at hcall₀
    rw [htrace] at htrace₀
    rcases hcases with ⟨hpending₀, thread, hk, hsends⟩ | ⟨-, request', hk, hsends⟩
    · obtain ⟨rfl, hrequest⟩ := hsends.first_of_createSession hcall₀ htrace₀
      rcases hmove.thread_cases hk hthread with rfl | heq | ⟨ω, hr⟩
      · refine .created hget₀ hcall₀ ?_ hterms
        simp only [Process.createdId, htrace₀, hpending₀]
        rw [show w.leader.threads[k]? = _ from hk]
      · cases heq
      · obtain ⟨request', session, rfl⟩ := hr.resumes.of_createSession
        exact .manager (.thread hk (by simp [Thread.uses]) hrequest hterms)
    · obtain ⟨rfl, -⟩ := hsends.first_of_createSession hcall₀ htrace₀
      rw [show w'.leader.threads[k]? = _ from hk] at hthread
      cases hthread
  · -- its answer has been received
    obtain ⟨process₀, hget₀, hcall₀, hcases⟩ := hw.sound.accepted_back hmove hget [] htrace
    rw [hcall] at hcall₀
    refine .created hget₀ hcall₀ ?_ hterms
    rcases hcases with ⟨htrace₀, hpending₀⟩ | ⟨htrace₀, hsends, k, request', hpending₀, hk⟩
    · simp only [Process.createdId, htrace₀, htrace, hpending₀ hpending]
    · obtain ⟨rfl, -⟩ := hsends.first_of_createSession hcall₀ htrace₀
      simp only [Process.createdId, htrace₀, hpending₀]
      rw [show w.leader.threads[k]? = _ from hk]

/-- An open round was open before the step, or the leader's manager was about
to record it. -/
theorem Regular.openRound_back (hw : w.Regular J) {a : Action} (hmove : w.Moves J a w')
    (hget : w'.processes[i]? = some process) (hcall : process.call = .startRound client taskId id)
    (hopen : process.openRound w' = some id) :
    (∃ process₀, w.processes[i]? = some process₀ ∧
        process₀.call = .startRound client taskId id ∧ process₀.openRound w = some id) ∨
      ∃ (k : Nat) (taskId' : TaskId),
        w.leader.threads[k]? = some (.record ⟨id, taskIdToString taskId⟩ taskId') := by
  rcases Process.openRound_cases hopen with ⟨k, request, response, htrace, hpending, hthread⟩ |
    ⟨server, request, response, hpending, htrace⟩ |
    ⟨server, request, response, k, request', hpending, htrace, hthread⟩
  · -- the leader's manager has accepted the round
    obtain ⟨process₀, server, hget₀, hcall₀, htrace₀, hcases⟩ :=
      hw.sound.pending_back hmove hget hpending
    rw [hcall] at hcall₀
    rw [htrace] at htrace₀
    rcases hcases with ⟨hpending₀, thread, hk, hsends⟩ | ⟨-, request', hk, hsends⟩
    · obtain ⟨rfl, hrequest⟩ := hsends.first_of_startRound hcall₀ htrace₀
      rcases hmove.thread_cases hk hthread with rfl | heq | ⟨ω, hr⟩
      · refine .inl ⟨process₀, hget₀, hcall₀, ?_⟩
        simp only [Process.openRound, hcall₀, htrace₀, hpending₀]
        rw [show w.leader.threads[k]? = _ from hk]
      · cases heq
      · obtain ⟨taskId', rfl⟩ := hr.resumes.of_startRound hrequest
        exact .inr ⟨k, taskId', hk⟩
    · obtain ⟨rfl, -⟩ := hsends.first_of_startRound hcall₀ htrace₀
      rw [show w'.leader.threads[k]? = _ from hk] at hthread
      cases hthread
  · -- its answer has been received
    obtain ⟨process₀, hget₀, hcall₀, hcases⟩ := hw.sound.accepted_back hmove hget [] htrace
    rw [hcall] at hcall₀
    refine .inl ⟨process₀, hget₀, hcall₀, ?_⟩
    rcases hcases with ⟨htrace₀, hpending₀⟩ | ⟨htrace₀, hsends, k, request', hpending₀, hk⟩
    · simp only [Process.openRound, hcall₀, htrace₀, htrace, hpending₀ hpending]
    · obtain ⟨rfl, -⟩ := hsends.first_of_startRound hcall₀ htrace₀
      simp only [Process.openRound, hcall₀, htrace₀, hpending₀]
      rw [show w.leader.threads[k]? = _ from hk]
  · -- the request to the helper's manager has been sent
    obtain ⟨process₀, server', hget₀, hcall₀, htrace₀, hcases⟩ :=
      hw.sound.pending_back hmove hget hpending
    rw [hcall] at hcall₀
    rw [htrace] at htrace₀
    refine .inl ⟨process₀, hget₀, hcall₀, ?_⟩
    rcases hcases with ⟨hpending₀, thread, hk, hsends⟩ | ⟨hpending₀, -⟩
    · obtain ⟨rfl, -⟩ := hsends.second_of_startRound hcall₀ htrace₀
      rcases hmove.thread_cases hk hthread with rfl | heq | ⟨ω, hr⟩
      · simp only [Process.openRound, hcall₀, htrace₀, hpending₀]
        rw [show w.helper.threads[k]? = _ from hk]
      · cases heq
      · exact hr.resumes.not_arrived.elim
    · simp only [Process.openRound, hcall₀, htrace₀, hpending₀]

/-- What an open round has terms of after a step, it or its session had before. -/
theorem Uses.started_back (hw : w.Regular J) {a : Action} (hmove : w.Moves J a w')
    {task : AggregatorTask} (hget : w'.processes[i]? = some process)
    (hcall : process.call = .startRound client taskId id) (hopen : process.openRound w' = some id)
    (hstored : w'.leader.provisioner.datastore.lookup taskId = some task)
    (hcarries : task.Carries J p .leader) : w.Uses J id p := by
  -- a task that was stored before the step is the one that is stored after it
  have hsame : ∀ task₀, w.leader.provisioner.datastore.lookup taskId = some task₀ → task₀ = task := by
    intro task₀ h₀
    have h₁ := hmove.extends_datastore .leader _ _ h₀
    exact Option.some.inj (h₁.symm.trans hstored)
  rcases hw.openRound_back hmove hget hcall hopen with ⟨process₀, hget₀, hcall₀, hopen₀⟩ |
    ⟨k, taskId', hk⟩
  · obtain ⟨task₀, p₀, hstored₀, -⟩ := hw.openRound_stored hget₀ hcall₀ hopen₀
    obtain rfl := hsame task₀ hstored₀
    exact .started hget₀ hcall₀ hopen₀ hstored₀ hcarries
  · obtain ⟨s, task₀, hlive, hstored₀, hcarries₀⟩ := (hw.inRole .leader).recorded k _ taskId' hk
    obtain ⟨hdecode, -⟩ := (hw.sound.coherent .leader).threads k _ hk
    obtain rfl := eq_of_taskIdFromString hdecode
    obtain rfl := hsame task₀ hstored₀
    exact .manager (.live hlive (hcarries₀.leader_unique hcarries))

/-- A world has terms under an id only if it had them before the step, or if a
manager has drawn the id for them. -/
theorem Uses.back (hw : w.Regular J) {a : Action} (h : w.step J a = some w') (hu : w'.Uses J id p) :
    w.Uses J id p ∨ w.draw J a = some (id, p) := by
  cases hu with
  | manager huses => exact Uses.manager_back hw (step_moves h) huses
  | created hget hcall hid hterms =>
      exact .inl (Uses.created_back hw (step_moves h) hget hcall hid hterms)
  | started hget hcall hopen hstored hcarries =>
      exact .inl (Uses.started_back hw (step_moves h) hget hcall hopen hstored hcarries)

end World
