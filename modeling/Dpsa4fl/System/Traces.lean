-- SUMMARY: What is known of every process: its exchanges follow its program, what it heard from a manager was answered there, and it comes to an end.
import Dpsa4fl.System.World

/-!
# Traces

`World.Traced` ties the processes to the managers: a pending request has a
thread at its manager, and an answer in a trace is the answer of a thread. So
what a call returned can be traced back to the managers. No call has more than a
bounded number of exchanges, so it ends when these are answered.
-/

/-! ## The parts of a world after a step -/

namespace World

variable {J : Janus} {w w' : World}

@[simp] theorem manager_setProcess (w : World) (i : Nat) (process : Process) (server : ManagerServer) :
    (w.setProcess i process).manager server = w.manager server := by
  cases server <;> rfl

@[simp] theorem manager_setManager (w : World) (server : ManagerServer) (m : Manager) :
    (w.setManager server m).manager server = m := by
  cases server <;> rfl

theorem manager_setManager_ne {server server' : ManagerServer} (h : server' ≠ server) (w : World)
    (m : Manager) : (w.setManager server m).manager server' = w.manager server' := by
  cases server <;> cases server' <;> first | rfl | exact (h rfl).elim

@[simp] theorem processes_setManager (w : World) (server : ManagerServer) (m : Manager) :
    (w.setManager server m).processes = w.processes := by
  cases server <;> rfl

@[simp] theorem processes_setProcess (w : World) (i : Nat) (process : Process) :
    (w.setProcess i process).processes = w.processes.set i process := rfl

namespace Moves

variable {a : World.Action}

/-- What a step of the world does to one manager. -/
inductive AtManager (J : Janus) (w : World) (server : ManagerServer) :
    World.Action → Manager → Prop where
  | same {b : World.Action} : AtManager J w server b (w.manager server)
  | sent {i process request f m} (hget : w.processes[i]? = some process)
      (hpending : process.pending = none) (hrest : process.rest = .call (.manager server request) f)
      (hstep : (w.manager server).step J (.send request) = some m) : AtManager J w server (.send i) m
  | managed {action m} (haction : ∀ request, action ≠ .send request)
      (hstep : (w.manager server).step J action = some m) :
      AtManager J w server (.manager server action) m

theorem atManager (h : w.Moves J a w') (server : ManagerServer) :
    AtManager J w server a (w'.manager server) := by
  have hsame : w'.manager server = w.manager server → AtManager J w server a (w'.manager server) := by
    intro heq
    rw [heq]
    exact .same
  cases h with
  | called => exact hsame (by cases server <;> rfl)
  | @sent i process server' request f m hget hpending hrest hsend =>
      rw [manager_setProcess] at hsame ⊢
      by_cases hs : server = server'
      · subst hs
        rw [manager_setManager]
        exact .sent hget hpending hrest hsend
      · exact hsame (manager_setManager_ne hs w m)
  | heard => exact hsame (manager_setProcess _ _ _ _)
  | @managed server' action m haction hstep =>
      by_cases hs : server = server'
      · subst hs
        rw [manager_setManager]
        exact .managed haction hstep
      · exact hsame (manager_setManager_ne hs w m)

/-- At each manager, a step of the world is a step of the manager or nothing. -/
theorem manager (h : w.Moves J a w') (server : ManagerServer) :
    w'.manager server = w.manager server ∨
      ∃ action, (w.manager server).step J action = some (w'.manager server) := by
  have hat := h.atManager server
  generalize w'.manager server = m at hat
  cases hat with
  | same => exact .inl rfl
  | sent _ _ _ hstep => exact .inr ⟨_, hstep⟩
  | managed _ hstep => exact .inr ⟨_, hstep⟩

theorem keeps_thread (h : w.Moves J a w') {server : ManagerServer} {k : Nat} {thread : Thread}
    (hk : (w.manager server).threads[k]? = some thread) :
    ∃ thread', (w'.manager server).threads[k]? = some thread' ∧
      thread'.request = thread.request ∧ (thread.finished = true → thread' = thread) := by
  rcases h.manager server with heq | ⟨action, hstep⟩
  · exact ⟨thread, by rw [heq]; exact hk, rfl, fun _ => rfl⟩
  · exact Manager.step_keeps hstep hk

theorem keeps_answer (h : w.Moves J a w') {server : ManagerServer} {k : Nat} {request : Request}
    {answer : Except Failure Response}
    (hk : (w.manager server).threads[k]? = some (.answered request answer)) :
    (w'.manager server).threads[k]? = some (.answered request answer) := by
  obtain ⟨thread', hk', -, hsame⟩ := h.keeps_thread hk
  rw [hk', hsame rfl]

theorem extends_datastore (h : w.Moves J a w') (server : ManagerServer) :
    Datastore.Extends (w.manager server).provisioner.datastore
      (w'.manager server).provisioner.datastore := by
  rcases h.manager server with heq | ⟨action, hstep⟩
  · rw [heq]
  · exact Manager.step_extends hstep

/-- What has become of a thread in a step: it is the same, it was dropped, or it ran. -/
theorem thread_cases (h : w.Moves J a w') {server : ManagerServer} {k : Nat}
    {thread thread' : Thread} (hk : (w.manager server).threads[k]? = some thread)
    (hk' : (w'.manager server).threads[k]? = some thread') :
    thread' = thread ∨ thread' = .dropped thread.request ∨
      ∃ ω, (w.manager server).Resumed J k ω thread thread' (w'.manager server) := by
  rcases h.manager server with heq | ⟨action, hstep⟩
  · rw [heq, hk] at hk'
    exact .inl (Option.some.inj hk').symm
  · cases Manager.step_origin hstep hk' with
    | same hget =>
        rw [hk] at hget
        exact .inl (Option.some.inj hget).symm
    | arrived hlen =>
        have hlt := (List.getElem?_eq_some_iff.mp hk).1
        omega
    | dropped hget =>
        rw [hk] at hget
        cases hget
        exact .inr (.inl rfl)
    | resumed hresumed =>
        obtain rfl := Option.some.inj (hresumed.get.symm.trans hk)
        exact .inr (.inr ⟨_, hresumed⟩)

/-- Where a process of the world after a step comes from. -/
inductive Origin (J : Janus) (w w' : World) (i : Nat) : World.Action → Process → Prop where
  | same {a process} (hget : w.processes[i]? = some process) : Origin J w w' i a process
  | started {call} (hi : i = w.processes.length) : Origin J w w' i (.call call) (.start J call)
  | sent {process server request f} (hget : w.processes[i]? = some process)
      (hpending : process.pending = none) (hrest : process.rest = .call (.manager server request) f)
      (hthreads : (w'.manager server).threads = (w.manager server).threads ++ [.arrived request]) :
      Origin J w w' i (.send i) { process with pending := some (w.manager server).threads.length }
  | heard {a process op f r} (hget : w.processes[i]? = some process)
      (hrest : process.rest = .call op f) (hheard : w.Heard process op r) :
      Origin J w w' i a (process.answer op f r)

theorem origin (h : w.Moves J a w') {i : Nat} {process : Process}
    (hi : w'.processes[i]? = some process) : Origin J w w' i a process := by
  cases h with
  | @called call =>
      rw [List.getElem?_append] at hi
      split at hi
      · exact .same hi
      · rw [List.getElem?_singleton] at hi
        split at hi
        · cases hi
          exact .started (by omega)
        · cases hi
  | @sent j process₀ server request f m hget hpending hrest hsend =>
      rw [processes_setProcess, processes_setManager, List.getElem?_set] at hi
      split at hi
      · rename_i hji
        subst hji
        split at hi
        · cases hi
          cases hsend
          apply Origin.sent hget hpending hrest
          rw [manager_setProcess, manager_setManager]
        · cases hi
      · exact .same hi
  | @heard _ j process₀ op f r hget hrest hheard =>
      rw [processes_setProcess, List.getElem?_set] at hi
      split at hi
      · rename_i hji
        subst hji
        split at hi
        · cases hi
          exact .heard hget hrest hheard
        · cases hi
      · exact .same hi
  | managed =>
      rw [processes_setManager] at hi
      exact .same hi

end Moves

end World

/-! ## Traces -/

/-- A manager answered a request with this response. -/
def Manager.Answered (m : Manager) (request : Request) (response : Response) : Prop :=
  ∃ k : Nat, m.threads[k]? = some (Thread.answered request (.ok response))

structure Process.Traced (J : Janus) (w : World) (process : Process) : Prop where
  follows : Script.Follows (process.call.script J) process.trace process.rest
  pending : ∀ k, process.pending = some k → ∃ server request f thread,
    process.rest = .call (.manager server request) f ∧
      (w.manager server).threads[k]? = some thread ∧ thread.request = request
  answered : ∀ server request response,
    (⟨.manager server request, .ok (.ok response)⟩ : Exchange) ∈ process.trace →
      (w.manager server).Answered request response

/-- Every process is traced. -/
def World.Traced (J : Janus) (w : World) : Prop :=
  ∀ (i : Nat) (process : Process), w.processes[i]? = some process → process.Traced J w

namespace Process.Traced

variable {J : Janus} {w w' : World} {process : Process}

theorem start (J : Janus) (w : World) (call : Call) : (Process.start J call).Traced J w where
  follows := .refl _
  pending := by intro k hk; cases hk
  answered := by intro _ _ _ hmem; cases hmem

/-- Whatever the others do, a process stays traced. -/
theorem mono (h : process.Traced J w) {a : World.Action} (hmove : w.Moves J a w') :
    process.Traced J w' where
  follows := h.follows
  pending := by
    intro k hk
    obtain ⟨server, request, f, thread, hrest, hthread, hrequest⟩ := h.pending k hk
    obtain ⟨thread', hthread', hsame, -⟩ := hmove.keeps_thread hthread
    exact ⟨server, request, f, thread', hrest, hthread', hsame.trans hrequest⟩
  answered := by
    intro server request response hmem
    obtain ⟨k, hk⟩ := h.answered server request response hmem
    exact ⟨k, hmove.keeps_answer hk⟩

/-- A process that hears an answer stays traced. -/
theorem answer (h : process.Traced J w) {op : Op} {f : Ans op → Api process.call.Result}
    {r : Ans op} (hrest : process.rest = .call op f) (hheard : w.Heard process op r) :
    (process.answer op f r).Traced J w where
  follows := by
    have hfollows := h.follows
    rw [hrest] at hfollows
    exact hfollows.snoc r
  pending := by intro k hk; cases hk
  answered := by
    intro server request response hmem
    rcases List.mem_append.mp hmem with hmem | hmem
    · exact h.answered server request response hmem
    · have hexchange := List.mem_singleton.mp hmem
      cases hheard with
      | @answer server₁ request₁ request' answer k hpending hanswered =>
          obtain ⟨server₂, request₂, f₂, thread, hrest₂, hthread, hrequest⟩ := h.pending k hpending
          rw [hrest] at hrest₂
          cases hrest₂
          rw [hanswered] at hthread
          cases hthread
          cases hrequest
          simp only [Sigma.mk.injEq, Op.manager.injEq] at hexchange
          obtain ⟨⟨rfl, rfl⟩, hresponse⟩ := hexchange
          exact ⟨k, by rw [hanswered, respond_eq_ok.mp (eq_of_heq hresponse).symm]⟩
      | lost => cases hexchange
      | httpClient => cases hexchange
      | built => cases hexchange
      | uploaded => cases hexchange

end Process.Traced

namespace World

variable {J : Janus} {w w' : World}

theorem traced_start (J : Janus) (leaderDatastore helperDatastore : Datastore)
    (leaderConfig helperConfig : TaskProvisionerConfig) :
    (start leaderDatastore helperDatastore leaderConfig helperConfig).Traced J := by
  intro i process hi
  cases hi

theorem Traced.step (hw : w.Traced J) {a : Action} (h : w.step J a = some w') : w'.Traced J := by
  intro i process hi
  have hmove := step_moves h
  cases hmove.origin hi with
  | same hget => exact (hw i _ hget).mono hmove
  | started => exact .start J w' _
  | @sent process server request f hget hpending hrest hthreads =>
      have htraced := (hw i _ hget).mono hmove
      refine ⟨htraced.follows, ?_, htraced.answered⟩
      rintro k ⟨⟩
      exact ⟨server, request, f, .arrived request, hrest, by rw [hthreads]; simp, rfl⟩
  | heard hget hrest hheard => exact ((hw i _ hget).answer hrest hheard).mono hmove

end World

/-! ## How long a call takes -/

section
open Script

theorem Net.within_orReturn {α : Type} (result : Except Error α) (n : Nat) :
    (Net.orReturn result).Within n := by
  cases result <;> trivial

theorem Net.within_post (server : ManagerServer) (request : Request) :
    (Net.post server request).Within 1 := fun result => Net.within_orReturn result 0

theorem JanusManagerClient.within_bothOk {α : Type} (message : String) (result : α)
    (leaderResponse helperResponse : HttpResponse) :
    (bothOk message result leaderResponse helperResponse).Within 0 := by
  unfold bothOk
  split <;> trivial

theorem JanusManagerClient.within_createdSession (aggregator : String) (response : HttpResponse) :
    (createdSession aggregator response).Within 0 := by
  unfold createdSession
  split <;> trivial

theorem within_getVdafParameterFromTask (server : ManagerServer) (taskId : TaskId) :
    (getVdafParameterFromTask server taskId).Within 1 := by
  show Within _ (1 + 0)
  refine (Net.within_post _ _).bind fun response => ?_
  split <;> trivial

theorem within_getMainLocations : getMainLocations.Within 2 := by
  show Within _ (1 + (1 + 0))
  refine (Net.within_post _ _).bind fun a => (Net.within_post _ _).bind fun b => ?_
  split
  · split <;> trivial
  · trivial

theorem within_getParametrization (taskId : TaskId) (l : Locations) :
    (getParametrization taskId l).Within 2 := by
  show Within _ (1 + (1 + 0))
  refine (within_getVdafParameterFromTask _ _).bind fun a =>
    (within_getVdafParameterFromTask _ _).bind fun b => ?_
  split <;> trivial

theorem ClientState.within_new (managerLocations : ManagerLocations)
    (roundSettings : RoundSettings) : (new managerLocations roundSettings).Within 5 := by
  show Within _ (1 + (0 + (2 + (2 + 0))))
  refine (Within.perform _).bind fun result => (Net.within_orReturn result 0).bind fun _ => ?_
  exact within_getMainLocations.bind fun a => (within_getParametrization _ _).bind fun b => trivial

theorem ClientState.within_getSubmissionResult (J : Janus) (self : ClientState)
    (data : VecFixedAny) : (self.getSubmissionResult J data).Within 2 := by
  have hjanusClient : ∀ (Fx : Type) [CompatibleFloat Fx] settings l p,
      (getJanusClient J Fx settings l p).Within 1 := by
    intro Fx _ settings l p
    show Within _ (0 + (1 + (0 + 0)))
    refine (Net.within_orReturn _ 0).bind fun _ => (Within.perform _).bind fun result => ?_
    exact (Net.within_orReturn result 0).bind fun _ => trivial
  have himpl : ∀ (Fx : Type) [CompatibleFloat Fx] [IsTagInstance Fx] (v : List Fx),
      (self.getSubmissionResultImpl J Fx v).Within 2 := by
    intro Fx _ _ v
    unfold getSubmissionResultImpl
    show Within _ (1 + (1 + 0))
    dsimp only
    split
    · trivial
    · split
      · trivial
      · refine (hjanusClient Fx _ _ _).bind fun client => ?_
        exact (Within.perform _).bind fun result => Net.within_orReturn result 0
  cases data with
  | vecFixed16 v => exact himpl Fixed16 v
  | vecFixed32 v => exact himpl Fixed32 v

theorem within_apiUpdateClientRoundSettings (s : ClientStatePU) (roundSettings : RoundSettings) :
    (apiUpdateClientRoundSettings s roundSettings).Within 5 := by
  cases s with
  | validState clientState => trivial
  | initState p =>
      show Within _ (5 + 0)
      refine (ClientState.within_new p roundSettings).attempt.bind fun result => ?_
      split <;> trivial

theorem ClientCall.within_run (J : Janus) (s : ClientStatePU) (call : ClientCall) :
    (call.run J s).Within 7 := by
  cases call with
  | updateRoundSettings roundSettings =>
      exact (within_apiUpdateClientRoundSettings s roundSettings).mono (by decide)
  | submitWith roundSettings getData =>
      show Within _ (5 + 2)
      refine (within_apiUpdateClientRoundSettings s roundSettings).bind fun result => ?_
      split
      · trivial
      · trivial
      · show Within _ (2 + 0)
        exact (ClientState.within_getSubmissionResult J _ _).attempt.bind fun _ => trivial

theorem within_clientCalls (J : Janus) (s : ClientStatePU) (calls : List ClientCall) :
    (clientCalls J s calls).Within (7 * calls.length) := by
  induction calls generalizing s with
  | nil => trivial
  | cons call calls ih =>
      rw [List.length_cons, Nat.mul_add_one, Nat.add_comm]
      exact (call.within_run J s).bind fun r => ih r.2

end

/-- The most exchanges that a call can have. -/
def Call.exchanges : Call → Nat
  | createSession _ _ => 2
  | endSession _ _ => 2
  | startRound _ _ _ => 2
  | newClientState _ _ => 5
  | clientState _ calls => 7 * calls.length

theorem Call.script_within (J : Janus) (call : Call) : (call.script J).Within call.exchanges := by
  cases call with
  | createSession client random =>
      refine Script.Within.attempt ?_
      show Script.Within _ (1 + (0 + (1 + (0 + 0))))
      refine (Net.within_post _ _).bind fun _ =>
        (JanusManagerClient.within_createdSession _ _).bind fun _ =>
          (Net.within_post _ _).bind fun _ =>
            (JanusManagerClient.within_createdSession _ _).bind fun _ => ?_
      split <;> trivial
  | endSession client id =>
      refine Script.Within.attempt ?_
      show Script.Within _ (1 + (1 + 0))
      exact (Net.within_post _ _).bind fun _ => (Net.within_post _ _).bind fun _ =>
        JanusManagerClient.within_bothOk _ _ _ _
  | startRound client taskId id =>
      refine Script.Within.attempt ?_
      show Script.Within _ (1 + (1 + 0))
      exact (Net.within_post _ _).bind fun _ => (Net.within_post _ _).bind fun _ =>
        JanusManagerClient.within_bothOk _ _ _ _
  | newClientState managerLocations roundSettings =>
      exact (ClientState.within_new managerLocations roundSettings).attempt
  | clientState managerLocations calls => exact within_clientCalls J _ calls

/-- A call has ended, or it waits for an exchange and has had fewer than it can have. So it
ends when all its exchanges are answered. -/
theorem Process.Traced.ended_or_waits {J : Janus} {w : World} {process : Process}
    (h : process.Traced J w) :
    (∃ result, process.rest = .ret result) ∨
      (∃ op f, process.rest = .call op f) ∧ process.trace.length < process.call.exchanges := by
  obtain ⟨hle, hwithin⟩ := (process.call.script_within J).rest h.follows
  cases hrest : process.rest with
  | ret result => exact .inl ⟨result, rfl⟩
  | fail e => exact e.elim
  | call op f =>
      rw [hrest] at hwithin
      refine .inr ⟨⟨op, f, rfl⟩, lt_of_le_of_ne hle fun heq => ?_⟩
      rw [heq, Nat.sub_self] at hwithin
      exact hwithin

/-- In every state of every run, a call has ended or waits for one of boundedly many
exchanges, whatever they answer. -/
theorem World.ended_or_waits {J : Janus} {w : World} {leaderDatastore helperDatastore : Datastore}
    {leaderConfig helperConfig : TaskProvisionerConfig} {as : List World.Action}
    (hrun : Run.after (World.step J)
      (.start leaderDatastore helperDatastore leaderConfig helperConfig) as = some w)
    {i : Nat} {process : Process} (hget : w.processes[i]? = some process) :
    (∃ result, process.rest = .ret result) ∨
      (∃ op f, process.rest = .call op f) ∧ process.trace.length < process.call.exchanges := by
  have htraced : w.Traced J :=
    Run.invariant (P := fun w : World => w.Traced J) (fun _ _ _ hw h => hw.step h) (World.traced_start J _ _ _ _)
      hrun
  exact (htraced i process hget).ended_or_waits
