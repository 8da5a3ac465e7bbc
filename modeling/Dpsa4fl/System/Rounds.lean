-- SUMMARY: With fresh task ids, both managers of a world stay regular: their sessions are in their role, and their tasks carry the terms of a session.
import Dpsa4fl.JanusManager.Rounds
import Dpsa4fl.System.Controllers
import Dpsa4fl.System.Initialized

/-!
# Rounds in a world

Each start of a round has a task id of its own, so each manager is sent one
request at most for a task id.
-/

/-- The task of the round that a call starts. -/
def Call.taskId : Call → Option TaskId
  | .startRound _ taskId _ => some taskId
  | _ => none

/-- The process has sent a request to this manager, or given up to send it. -/
def Process.Sent (process : Process) (server : ManagerServer) : Prop :=
  (∃ request r, (⟨.manager server request, r⟩ : Exchange) ∈ process.trace) ∨
    process.pending ≠ none ∧ ∃ request f, process.rest = .call (.manager server request) f

/-- The role of the aggregator that a manager provisions tasks for. -/
def ManagerServer.role : ManagerServer → Role
  | leader => .leader
  | helper => .helper

/-- A request for a round is sent by the call that starts it, and not twice. -/
theorem Process.Sends.taskId {J : Janus} {process : Process} {server : ManagerServer} {request : Request}
    {taskId : TaskId} (h : process.Sends J server request) (hpending : process.pending = none)
    (htask : request.taskId = some taskId) :
    process.call.taskId = some taskId ∧ ¬ process.Sent server := by
  cases h with
  | startLeader hcall htrace =>
      rw [Request.taskId_startRound, taskIdFromString_toString] at htask
      cases htask
      refine ⟨by rw [hcall]; rfl, ?_⟩
      rintro (⟨request, r, hmem⟩ | ⟨hne, -⟩)
      · rw [htrace] at hmem
        cases hmem
      · exact hne hpending
  | startHelper hcall htrace =>
      rw [Request.taskId_startRound, taskIdFromString_toString] at htask
      cases htask
      refine ⟨by rw [hcall]; rfl, ?_⟩
      rintro (⟨request, r, hmem⟩ | ⟨hne, -⟩)
      · rw [htrace] at hmem
        cases List.mem_singleton.mp hmem
      · exact hne hpending
  | query _ hquery =>
      cases request with
      | startRound request => exact hquery.elim
      | _ => cases htask
  | _ => cases htask

namespace World

variable {J : Janus} {w w' : World}

/-- A round is started with a task id that no other call has. -/
def Action.FreshTask (w : World) : Action → Prop
  | .call (.startRound _ taskId _) => ∀ process ∈ w.processes, process.call.taskId ≠ some taskId
  | _ => True

instance (w : World) (a : Action) : Decidable (a.FreshTask w) := by
  unfold Action.FreshTask
  split <;> infer_instance

theorem Action.FreshTask.ne {call : Call} {taskId : TaskId} (h : (Action.call call).FreshTask w)
    (hcall : call.taskId = some taskId) :
    ∀ process ∈ w.processes, process.call.taskId ≠ some taskId := by
  cases call with
  | startRound client t id =>
      cases hcall
      exact h
  | _ => cases hcall

/-- A process stays, and what it has sent stays sent. -/
theorem Moves.keeps_process {a : Action} (h : w.Moves J a w') {i : Nat} {process : Process}
    (hi : w.processes[i]? = some process) :
    ∃ process', w'.processes[i]? = some process' ∧ process'.call = process.call ∧
      ∀ server, process.Sent server → process'.Sent server := by
  obtain ⟨hlt, -⟩ := List.getElem?_eq_some_iff.mp hi
  cases h with
  | called => exact ⟨process, (List.getElem?_append_left hlt).trans hi, rfl, fun _ h => h⟩
  | @sent j process₀ server request f m hget hpending hrest hsend =>
      rw [processes_setProcess, processes_setManager]
      by_cases hji : j = i
      · subst hji
        obtain rfl := Option.some.inj (hget.symm.trans hi)
        refine ⟨_, List.getElem?_set_self hlt, rfl, fun server hsent => ?_⟩
        rcases hsent with hmem | ⟨hne, -⟩
        · exact .inl hmem
        · exact (hne hpending).elim
      · exact ⟨process, (List.getElem?_set_ne hji).trans hi, rfl, fun _ h => h⟩
  | @heard _ j process₀ op f r hget hrest hheard =>
      rw [processes_setProcess]
      by_cases hji : j = i
      · subst hji
        obtain rfl := Option.some.inj (hget.symm.trans hi)
        refine ⟨_, List.getElem?_set_self hlt, rfl, fun server hsent => .inl ?_⟩
        rcases hsent with ⟨request, r', hmem⟩ | ⟨-, request, f', hrest'⟩
        · exact ⟨request, r', List.mem_append_left _ hmem⟩
        · rw [hrest] at hrest'
          cases hrest'
          exact ⟨request, r, List.mem_append_right _ List.mem_cons_self⟩
      · exact ⟨process, (List.getElem?_set_ne hji).trans hi, rfl, fun _ h => h⟩
  | managed => exact ⟨process, by rw [processes_setManager]; exact hi, rfl, fun _ h => h⟩

/-- Every process is a call that was made before, or the one that is made now. -/
theorem Moves.call_origin {a : Action} (h : w.Moves J a w') {i : Nat} {process' : Process}
    (hi : w'.processes[i]? = some process') :
    (∃ process, w.processes[i]? = some process ∧ process.call = process'.call) ∨
      i = w.processes.length ∧ a = .call process'.call := by
  cases h.origin hi with
  | same hget => exact .inl ⟨_, hget, rfl⟩
  | started hlen => exact .inr ⟨hlen, rfl⟩
  | sent hget => exact .inl ⟨_, hget, rfl⟩
  | heard hget => exact .inl ⟨_, hget, rfl⟩

/-- Every start of a round has its own task id, and each manager has a request
for it only from this call. -/
structure FreshTasks (w : World) : Prop where
  manager : ∀ server, (w.manager server).FreshTasks
  unique : ∀ (i j : Nat) (process process' : Process) (taskId : TaskId),
    w.processes[i]? = some process → w.processes[j]? = some process' →
    process.call.taskId = some taskId → process'.call.taskId = some taskId → i = j
  origin : ∀ (server : ManagerServer) (k : Nat) (thread : Thread) (taskId : TaskId),
    (w.manager server).threads[k]? = some thread → thread.request.taskId = some taskId →
    ∃ (i : Nat) (process : Process), w.processes[i]? = some process ∧
      process.call.taskId = some taskId ∧ process.Sent server

theorem freshTasks_start (leaderConfig helperConfig : TaskProvisionerConfig) :
    (start ∅ ∅ leaderConfig helperConfig).FreshTasks where
  manager := by
    intro server
    cases server with
    | leader => exact Manager.freshTasks_new _
    | helper => exact Manager.freshTasks_new _
  unique := by intro i j process process' taskId hi; simp [start] at hi
  origin := by
    intro server k thread taskId hk
    cases server <;> simp [start, World.manager, Manager.new] at hk

/-- No manager has a request for the task of a request that is sent. -/
theorem FreshTasks.send (hsound : w.Sound J) (hw : w.FreshTasks) {i : Nat} {process : Process}
    {server : ManagerServer} {request : Request}
    {f : Ans (.manager server request) → Api process.call.Result}
    (hget : w.processes[i]? = some process) (hpending : process.pending = none)
    (hrest : process.rest = .call (.manager server request) f) :
    (Manager.Action.send request).FreshTask (w.manager server) := by
  rintro _ t ⟨⟩ htask k thread hk hthread
  obtain ⟨j, process', hget', hcall', hsent⟩ := hw.origin server k thread t hk hthread
  obtain ⟨hcall, hnot⟩ := ((hsound.traced i process hget).sends hrest).taskId hpending htask
  obtain rfl := hw.unique i j process process' t hget hget' hcall hcall'
  obtain rfl := Option.some.inj (hget.symm.trans hget')
  exact hnot hsent

theorem FreshTasks.step (hJ : J.Faithful) (hsound : w.Sound J) (hw : w.FreshTasks) {a : Action}
    (h : w.step J a = some w') (ha : a.FreshTask w) : w'.FreshTasks where
  manager := by
    intro server
    have hat := (step_moves h).atManager server
    generalize w'.manager server = m at hat
    cases hat with
    | same => exact hw.manager server
    | sent hget hpending hrest hstep =>
        exact (hw.manager server).step hJ (hsound.coherent server) hstep
          (hw.send hsound hget hpending hrest)
    | managed haction hstep =>
        apply (hw.manager server).step hJ (hsound.coherent server) hstep
        intro request t heq
        exact (haction request heq).elim
  unique := by
    intro i j process process' t hi hj ht ht'
    rcases (step_moves h).call_origin hi with ⟨p, hp, hcall⟩ | ⟨hlen, rfl⟩
    · rcases (step_moves h).call_origin hj with ⟨p', hp', hcall'⟩ | ⟨-, rfl⟩
      · exact hw.unique i j p p' t hp hp' (hcall ▸ ht) (hcall' ▸ ht')
      · exact (ha.ne ht' p (List.mem_of_getElem? hp) (hcall ▸ ht)).elim
    · rcases (step_moves h).call_origin hj with ⟨p', hp', hcall'⟩ | ⟨hlen', -⟩
      · exact (ha.ne ht p' (List.mem_of_getElem? hp') (hcall' ▸ ht')).elim
      · exact hlen.trans hlen'.symm
  origin := by
    intro server k thread t hk ht
    -- a thread that was there before has its process, which stays
    have hold : ∀ thread₀, (w.manager server).threads[k]? = some thread₀ →
        thread₀.request = thread.request → ∃ (i : Nat) (process : Process),
          w'.processes[i]? = some process ∧ process.call.taskId = some t ∧ process.Sent server := by
      intro thread₀ h₀ heq
      obtain ⟨i, process, hget, hcall, hsent⟩ := hw.origin server k thread₀ t h₀ (heq ▸ ht)
      obtain ⟨process', hget', hsame, hkeeps⟩ := (step_moves h).keeps_process hget
      exact ⟨i, process', hget', hsame ▸ hcall, hkeeps server hsent⟩
    cases step_moves h with
    | called => exact hold thread hk rfl
    | heard => rw [manager_setProcess] at hk; exact hold thread hk rfl
    | @sent i process server' request f m hget hpending hrest hstep =>
        rw [manager_setProcess] at hk
        by_cases hs : server = server'
        · subst hs
          rw [manager_setManager] at hk
          rcases Manager.step_request hstep hk with ⟨thread₀, h₀, heq, -⟩ | ⟨-, request', heq, rfl⟩
          · exact hold thread₀ h₀ heq
          · cases heq
            have hcall := ((hsound.traced i process hget).sends hrest).taskId hpending ht
            have hlt := (List.getElem?_eq_some_iff.mp hget).1
            refine ⟨i, { process with pending := some (w.manager server).threads.length }, ?_,
              hcall.1, .inr ⟨by simp, request, f, hrest⟩⟩
            rw [processes_setProcess, processes_setManager, List.getElem?_set_self hlt]
        · rw [manager_setManager_ne hs] at hk
          exact hold thread hk rfl
    | @managed server' action m haction hstep =>
        by_cases hs : server = server'
        · subst hs
          rw [manager_setManager] at hk
          rcases Manager.step_request hstep hk with ⟨thread₀, h₀, heq, -⟩ | ⟨-, request, heq, -⟩
          · exact hold thread₀ h₀ heq
          · exact (haction request heq).elim
        · rw [manager_setManager_ne hs] at hk
          exact hold thread hk rfl

/-! ## Regular worlds -/

/-- What holds in every run in which the started rounds have fresh task ids. -/
structure Regular (J : Janus) (w : World) : Prop where
  sound : w.Sound J
  fresh : w.FreshTasks
  inRole : ∀ server, (w.manager server).InRole J server.role

theorem regular_start (J : Janus) (leaderConfig helperConfig : TaskProvisionerConfig) :
    (start ∅ ∅ leaderConfig helperConfig).Regular J where
  sound := sound_start J _ _ _ _
  fresh := freshTasks_start _ _
  inRole := by
    intro server
    cases server with
    | leader => exact Manager.inRole_new J _ _ _
    | helper => exact Manager.inRole_new J _ _ _

theorem Regular.step (hJ : J.Faithful) (hw : w.Regular J) {a : Action} (h : w.step J a = some w')
    (ha : a.FreshTask w) : w'.Regular J where
  sound := hw.sound.step hJ h
  fresh := hw.fresh.step hJ hw.sound h ha
  inRole := by
    intro server
    have hat := (step_moves h).atManager server
    generalize w'.manager server = m at hat
    cases hat with
    | same => exact hw.inRole server
    | @sent i process request f m hget hpending hrest hstep =>
        apply (hw.inRole server).step hJ (hw.sound.coherent server) (hw.fresh.manager server) hstep
        rintro request' ⟨⟩
        -- a creation is sent to the manager of the role that it names
        cases (hw.sound.traced i process hget).sends hrest with
        | createLeader => rfl
        | createHelper => rfl
        | query _ hquery => exact hquery.elim
    | managed haction hstep =>
        apply (hw.inRole server).step hJ (hw.sound.coherent server) (hw.fresh.manager server) hstep
        intro request heq
        exact (haction _ heq).elim

end World
