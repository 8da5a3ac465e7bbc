-- SUMMARY: In every run of the world, the calls of one tenant hear what they would hear if there were no other controllers and clients.
import Dpsa4fl.JanusManager.Isolation
import Dpsa4fl.System.Creating

/-!
# Isolation in the world

The managers keep the threads of a tenant apart from the others. Here the requests
come from the calls of controllers and clients, at both managers. A controller asks
the helper's manager for the id that the leader's one has drawn, so what a call
sends depends on what it has heard, and what it hears are answers of its own threads.
-/

open Erasure Unwinding

/-! ## Queries of a client -/

/-- If this is a request to a manager, then for its locations or for one of the tasks `ids`. -/
def Op.Concerns (ids : List TaskId) : Op → Prop
  | .manager _ .getMainLocations => True
  | .manager _ (.getVdafParameter request) => ∃ t ∈ ids, request.taskIdEncoded = taskIdToString t
  | .manager _ _ => False
  | _ => True

section
variable {J : Janus} {ids : List TaskId} {roundSettings : RoundSettings}

theorem ClientState.new_concerns (managerLocations : ManagerLocations)
    (hid : roundSettings.taskId ∈ ids) :
    (ClientState.new managerLocations roundSettings).All (Op.Concerns ids) := by
  have hpost : ∀ server, (Net.post server .getMainLocations).All (Op.Concerns ids) :=
    fun _ => Net.all_post trivial
  have hlocations : getMainLocations.All (Op.Concerns ids) := by
    refine (hpost _).bind fun a => (hpost _).bind fun b => ?_
    split
    · split <;> trivial
    · trivial
  have hparameter : ∀ server, (getVdafParameterFromTask server roundSettings.taskId).All
      (Op.Concerns ids) := by
    intro server
    have hpost : (Net.post server (.getVdafParameter ⟨taskIdToString roundSettings.taskId⟩)).All
        (Op.Concerns ids) := Net.all_post ⟨_, hid, rfl⟩
    apply hpost.bind
    intro response
    split <;> trivial
  have hparametrization : ∀ l, (getParametrization roundSettings.taskId l).All
      (Op.Concerns ids) := by
    intro l
    refine (hparameter _).bind fun a => (hparameter _).bind fun b => ?_
    split <;> trivial
  refine Script.All.bind ⟨trivial, fun _ => trivial⟩ fun result => ?_
  refine (Net.all_orReturn result _).bind fun _ => ?_
  exact hlocations.bind fun a => (hparametrization _).bind fun _ => trivial

theorem ClientState.Permits.concerns {self : ClientState} {op : Op} (h : self.Permits op) :
    op.Concerns ids := by
  cases op with
  | manager server request => exact h.elim
  | _ => trivial

theorem apiUpdateClientRoundSettings_concerns (s : ClientStatePU)
    (hid : roundSettings.taskId ∈ ids) :
    (apiUpdateClientRoundSettings s roundSettings).All (Op.Concerns ids) := by
  cases s with
  | initState p =>
      apply (ClientState.new_concerns p hid).attempt.bind
      intro result
      cases result <;> trivial
  | validState s => trivial

theorem ClientCall.run_concerns (s : ClientStatePU) (call : ClientCall)
    (hid : call.roundSettings.taskId ∈ ids) : (call.run J s).All (Op.Concerns ids) := by
  cases call with
  | updateRoundSettings roundSettings => exact apiUpdateClientRoundSettings_concerns s hid
  | submitWith roundSettings getData =>
      apply (apiUpdateClientRoundSettings_concerns s hid).bind
      rintro ⟨_ | _, s₁⟩
      · trivial
      · cases s₁ with
        | initState p => trivial
        | validState state =>
            exact ((state.getSubmissionResult_permits _).mono fun _ h => h.concerns).attempt.bind
              fun _ => trivial

/-- The calls on a client ask for the parameters of their tasks only. -/
theorem clientCalls_concerns (s : ClientStatePU) (calls : List ClientCall)
    (hids : ∀ call ∈ calls, call.roundSettings.taskId ∈ ids) :
    (clientCalls J s calls).All (Op.Concerns ids) := by
  induction calls generalizing s with
  | nil => trivial
  | cons call calls ih =>
      refine (call.run_concerns s (hids call List.mem_cons_self)).bind fun r => ?_
      exact ih r.2 fun c hc => hids c (List.mem_cons_of_mem call hc)

end

/-! ## The steps of the world, in both directions -/

namespace World

variable {J : Janus} {w w' : World}

/-- What process `i` can hear in a step, with the action that lets it hear this. -/
inductive Hears (w : World) (i : Nat) (process : Process) : Action → (op : Op) → Ans op → Prop where
  | answer {server request request' answer k} (hpending : process.pending = some k)
      (hanswered : (w.manager server).threads[k]? = some (.answered request' answer)) :
      Hears w i process (.receive i) (.manager server request) (respond answer)
  | lost {server request} : Hears w i process (.fail i) (.manager server request) (.error .transport)
  | httpClient {result} : Hears w i process (.reply i result) .defaultHttpClient result
  | built {client result} : Hears w i process (.reply i result) (.buildClient client) result
  | uploaded {client measurement result} :
      Hears w i process (.reply i result) (.upload client measurement) result

/-- The steps of the world, case by case. -/
inductive Steps (J : Janus) (w : World) : Action → World → Prop where
  | called {call} : Steps J w (.call call) { w with processes := w.processes ++ [.start J call] }
  | sent {i process server request f} (hget : w.processes[i]? = some process)
      (hpending : process.pending = none) (hrest : process.rest = .call (.manager server request) f) :
      Steps J w (.send i) ((w.setManager server { w.manager server with
          threads := (w.manager server).threads ++ [.arrived request] }).setProcess i
        { process with pending := some (w.manager server).threads.length })
  | heard {a i process op f r} (hget : w.processes[i]? = some process)
      (hrest : process.rest = .call op f) (hhears : w.Hears i process a op r) :
      Steps J w a (w.setProcess i (process.answer op f r))
  | managed {server action m} (haction : ∀ request, action ≠ .send request)
      (hstep : (w.manager server).step J action = some m) :
      Steps J w (.manager server action) (w.setManager server m)

theorem Steps.of_step {a : Action} (h : w.step J a = some w') : w.Steps J a w' := by
  cases a with
  | call call => cases h; exact .called
  | send i =>
      simp only [step] at h
      split at h
      · cases h
      · rename_i process hget
        split at h
        · rename_i server request f hpending hrest
          cases h
          exact .sent hget hpending hrest
        · cases h
  | receive i =>
      simp only [step] at h
      split at h
      · cases h
      · rename_i process hget
        split at h
        · rename_i k server request f hpending hrest
          split at h
          · rename_i request' answer hanswered
            cases h
            exact .heard hget hrest (.answer hpending hanswered)
          · cases h
        · cases h
  | fail i =>
      simp only [step] at h
      split at h
      · cases h
      · rename_i process hget
        split at h
        · rename_i hrest
          cases h
          exact .heard hget hrest .lost
        · cases h
  | reply i result =>
      simp only [step] at h
      split at h
      · cases h
      · rename_i process hget
        split at h
        · rename_i hrest; cases h; exact .heard hget hrest .httpClient
        · rename_i hrest; cases h; exact .heard hget hrest .built
        · rename_i hrest; cases h; exact .heard hget hrest .uploaded
        · cases h
  | manager server action =>
      simp only [step] at h
      split at h
      · cases h
      · rename_i haction
        obtain ⟨m, hstep, rfl⟩ := Option.map_eq_some_iff.mp h
        exact .managed haction hstep

theorem Steps.step {a : Action} (h : w.Steps J a w') : w.step J a = some w' := by
  cases h with
  | called => rfl
  | @sent i process server request f hget hpending hrest =>
      obtain ⟨call, trace, rest, pending⟩ := process
      dsimp only at hpending hrest f
      subst hpending hrest
      simp only [World.step, hget]
      rfl
  | @heard a i process op f r hget hrest hhears =>
      obtain ⟨call, trace, rest, pending⟩ := process
      dsimp only at hrest f
      subst hrest
      cases hhears with
      | answer hpending hanswered =>
          cases hpending
          simp only [World.step, hget, hanswered]
      | lost => simp only [World.step, hget]
      | httpClient => simp only [World.step, hget]
      | built => simp only [World.step, hget]
      | uploaded => simp only [World.step, hget]
  | @managed server action m haction hstep =>
      cases action with
      | send request => exact (haction request rfl).elim
      | resume k ω => simp only [World.step, hstep, Option.map_some]
      | drop k => simp only [World.step, hstep, Option.map_some]
      | restart => simp only [World.step, hstep, Option.map_some]

end World

/-! ## Calls of a tenant -/

namespace Call

/-- The tasks whose parameters a client asks for. -/
def queried : Call → List TaskId
  | newClientState _ roundSettings => [roundSettings.taskId]
  | clientState _ calls => calls.map fun call => call.roundSettings.taskId
  | _ => []

/-- The call is one of the tenant (`own`), or it is one of the others. -/
def belongs (τ : Tenant) (own : Bool) : Call → Bool
  | createSession _ _ => true
  | endSession _ id => τ.ids id == own
  | startRound _ taskId id => τ.ids id == own && τ.tasks taskId == own
  | call => !own || call.queried.all τ.tasks

theorem script_concerns (J : Janus) {call : Call} (h : call.ofClient = true) :
    (call.script J).All (Op.Concerns call.queried) := by
  cases call with
  | newClientState managerLocations roundSettings =>
      exact (ClientState.new_concerns managerLocations List.mem_cons_self).attempt
  | clientState managerLocations calls =>
      exact clientCalls_concerns _ calls fun call hmem => List.mem_map_of_mem hmem
  | _ => cases h

theorem belongs_of_ofClient {τ : Tenant} {own : Bool} {call : Call} (h : call.ofClient = true) :
    call.belongs τ own = (!own || call.queried.all τ.tasks) := by
  cases call with
  | newClientState => rfl
  | clientState => rfl
  | _ => cases h

end Call

/-- What is known of a process of the tenant, or of one of the others. The threads with
a number in `foreign` are those of the others. -/
structure Process.Belongs (τ : Tenant) (own : Bool) (foreign : ManagerServer → Nat → Bool)
    (process : Process) : Prop where
  call : process.call.belongs τ own = true
  heard : ∀ server request id,
    (⟨.manager server request, .ok (.ok (.createSession id))⟩ : Exchange) ∈ process.trace →
    τ.ids id = own
  pending : ∀ k server request f, process.pending = some k →
    process.rest = .call (.manager server request) f → foreign server k = !own

namespace Process.Belongs

variable {J : Janus} {τ : Tenant} {own : Bool} {foreign : ManagerServer → Nat → Bool} {w : World}
  {process : Process}

theorem start (J : Janus) (foreign : ManagerServer → Nat → Bool) {call : Call}
    (h : call.belongs τ own = true) : (Process.start J call).Belongs τ own foreign where
  call := h
  heard := by intro _ _ _ hmem; cases hmem
  pending := by intro _ _ _ _ hpending; cases hpending

/-- The request that a process waits at is on its side. -/
theorem request (h : process.Belongs τ own foreign) (htraced : process.Traced J w)
    {server : ManagerServer} {request : Request}
    {f : Ans (.manager server request) → Api process.call.Result}
    (hrest : process.rest = .call (.manager server request) f) : request.belongs τ own = true := by
  have hcall := h.call
  have hstart : ∀ {client taskId id}, process.call = .startRound client taskId id →
      (Request.startRound ⟨id, taskIdToString taskId⟩).belongs τ own = true := by
    intro client taskId id hcall'
    rw [hcall', Call.belongs, Bool.and_eq_true, beq_iff_eq, beq_iff_eq] at hcall
    refine Request.belongs_startRound.mpr ⟨hcall.1, fun t ht => ?_⟩
    rw [← eq_of_taskIdFromString ht]
    exact hcall.2
  cases htraced.sends hrest with
  | createLeader => rfl
  | @createHelper _ _ request id _ htrace =>
      exact beq_iff_eq.mpr (h.heard .leader request id (by rw [htrace]; exact List.mem_cons_self))
  | endSession hcall' =>
      rw [hcall'] at hcall
      exact hcall
  | startLeader hcall' => exact hstart hcall'
  | startHelper hcall' => exact hstart hcall'
  | query hclient =>
      have hfollows := htraced.follows
      rw [hrest] at hfollows
      have hconcerns := ((Call.script_concerns J hclient).rest hfollows).1
      rw [Call.belongs_of_ofClient hclient] at hcall
      cases request with
      | getMainLocations => rfl
      | getVdafParameter request =>
          obtain ⟨t, ht, heq⟩ := hconcerns
          cases own with
          | false => rfl
          | true =>
              simp only [Bool.not_true, Bool.false_or, List.all_eq_true] at hcall
              simp [Request.belongs, heq, taskIdFromString_toString, Except.toOption, hcall t ht]
      | _ => exact hconcerns.elim

end Process.Belongs

/-! ## Runs without the others -/

namespace Process

/-- The process, where the threads in `foreign` are not there. -/
def renumber (foreign : ManagerServer → Nat → Bool) (self : Process) : Process :=
  { self with pending := match self.rest with
      | .call (.manager server _) _ => self.pending.map (rank (foreign server))
      | _ => self.pending }

variable {foreign : ManagerServer → Nat → Bool} {process : Process}

@[simp] theorem renumber_of_none (h : process.pending = none) : process.renumber foreign = process := by
  obtain ⟨call, trace, rest, pending⟩ := process
  obtain rfl : pending = none := h
  unfold renumber
  split <;> rfl

theorem renumber_pending {server : ManagerServer} {request : Request}
    {f : Ans (.manager server request) → Api process.call.Result}
    (hrest : process.rest = .call (.manager server request) f) :
    (process.renumber foreign).pending = process.pending.map (rank (foreign server)) := by
  obtain ⟨call, trace, rest, pending⟩ := process
  dsimp only at hrest f
  subst hrest
  rfl

/-- The request of a process has another number among the threads of its manager. -/
theorem renumber_some {server : ManagerServer} {request : Request}
    {f : Ans (.manager server request) → Api process.call.Result}
    (hrest : process.rest = .call (.manager server request) f) (k : Nat) :
    ({ process with pending := some k } : Process).renumber foreign =
      { process.renumber foreign with pending := some (rank (foreign server) k) } := by
  obtain ⟨call, trace, rest, pending⟩ := process
  dsimp only at hrest f
  subst hrest
  rfl

@[simp] theorem renumber_answer (foreign : ManagerServer → Nat → Bool) (process : Process) (op : Op)
    (f : Ans op → Api process.call.Result) (r : Ans op) :
    (process.answer op f r).renumber foreign = process.answer op f r := renumber_of_none rfl

end Process

namespace World

/-- The process that sends a request to this manager in the action. -/
def sender (w : World) (server : ManagerServer) : Action → Option Nat
  | .send i => w.processes[i]?.bind fun process =>
    match process.rest with
    | .call (.manager server' _) _ => if server' = server then some i else none
    | _ => none
  | _ => none

/-- The processes that have sent the threads of this manager, one after the other. -/
def senders (J : Janus) (server : ManagerServer) : World → List Action → List Nat
  | _, [] => []
  | w, a :: as =>
    match w.step J a with
    | none => []
    | some w' => (w.sender server a).toList ++ senders J server w' as

/-- The threads of a run that were sent by the processes in `others`. -/
def foreign (J : Janus) (others : Nat → Bool) (w : World) (as : List Action)
    (server : ManagerServer) (k : Nat) : Bool :=
  (senders J server w as)[k]?.any others

def separate (τ : Tenant) (others : Nat → Bool) (foreign : ManagerServer → Nat → Bool) (w : World) :
    Action → Bool
  | .call call => call.belongs τ (!others w.processes.length)
  | .manager server action => (w.manager server).separate τ (foreign server) action
  | _ => true

/-- The call that is made, and the id that is drawn, belong to the side of their process.
The processes with a number in `others` are those of the others. -/
def Separate (τ : Tenant) (others : Nat → Bool) (foreign : ManagerServer → Nat → Bool) (w : World)
    (a : Action) : Prop :=
  w.separate τ others foreign a = true

instance (τ : Tenant) (others : Nat → Bool) (foreign : ManagerServer → Nat → Bool) (w : World)
    (a : Action) : Decidable (w.Separate τ others foreign a) :=
  inferInstanceAs (Decidable (_ = true))

/-- A new thread is on the side of its process. -/
def Labels (others : Nat → Bool) (foreign : ManagerServer → Nat → Bool) (w : World) (a : Action) :
    Prop :=
  ∀ server i, w.sender server a = some i →
    foreign server (w.manager server).threads.length = others i

/-- The action in the run without the others, if it stays there. So far `n` calls were made. -/
def Action.renumber (others : Nat → Bool) (foreign : ManagerServer → Nat → Bool) (n : Nat) :
    Action → Option Action
  | .call c => if others n then none else some (.call c)
  | .send i => if others i then none else some (.send (rank others i))
  | .receive i => if others i then none else some (.receive (rank others i))
  | .fail i => if others i then none else some (.fail (rank others i))
  | .reply i result => if others i then none else some (.reply (rank others i) result)
  | .manager server action => (action.renumber (foreign server) 0).map (.manager server)

/-- The number of calls made after the action, if it was `n` before. -/
def Action.made (n : Nat) : Action → Nat
  | .call _ => n + 1
  | _ => n

def Action.without (others : Nat → Bool) (foreign : ManagerServer → Nat → Bool) (as : List Action) :
    List Action :=
  purge (Action.renumber others foreign) Action.made 0 as

/-- The action, with other randomness for a key pair. -/
def Action.reseed (seed : List UInt8) : Action → Action
  | .manager server action => .manager server (action.reseed seed)
  | a => a

/-- `w₀` is what `w` is for the tenant. -/
structure Isolates (J : Janus) (τ : Tenant) (others : Nat → Bool)
    (foreign : ManagerServer → Nat → Bool) (w w₀ : World) : Prop where
  traced : w.Traced J
  managers : ∀ server, (w.manager server).Isolates J τ (foreign server) (w₀.manager server)
  processes : w₀.processes = (without others w.processes).map (Process.renumber foreign)
  belongs : ∀ (i : Nat) (process : Process), w.processes[i]? = some process →
    process.Belongs τ (!others i) foreign


section
variable {J : Janus} {τ : Tenant} {others : Nat → Bool} {foreign : ManagerServer → Nat → Bool}
  {w w' w₀ : World}

theorem sender_eq {i : Nat} {process : Process} {server : ManagerServer} {request : Request}
    {f : Ans (.manager server request) → Api process.call.Result}
    (hget : w.processes[i]? = some process)
    (hrest : process.rest = .call (.manager server request) f) (server' : ManagerServer) :
    w.sender server' (.send i) = if server = server' then some i else none := by
  obtain ⟨call, trace, rest, pending⟩ := process
  dsimp only at hrest f
  subst hrest
  simp [sender, hget]

theorem sender_send {i : Nat} {process : Process} {server : ManagerServer} {request : Request}
    {f : Ans (.manager server request) → Api process.call.Result}
    (hget : w.processes[i]? = some process)
    (hrest : process.rest = .call (.manager server request) f) :
    w.sender server (.send i) = some i := by
  rw [sender_eq hget hrest, if_pos rfl]

/-- Each thread of a manager was sent by one process. -/
theorem length_step {a : Action} (h : w.step J a = some w') (server : ManagerServer) :
    (w'.manager server).threads.length =
      (w.manager server).threads.length + (w.sender server a).toList.length := by
  cases Steps.of_step h with
  | called => cases server <;> rfl
  | @sent i process server' request f hget hpending hrest =>
      rw [sender_eq hget hrest, manager_setProcess]
      by_cases hs : server' = server
      · subst hs
        rw [manager_setManager, if_pos rfl, List.length_append]
        rfl
      · rw [manager_setManager_ne (Ne.symm hs), if_neg hs]
        rfl
  | heard hget hrest hhears =>
      rw [manager_setProcess]
      cases hhears <;> rfl
  | @managed server' action m haction hstep =>
      by_cases hs : server = server'
      · subst hs
        rw [manager_setManager, Manager.step_sent hstep]
        cases action with
        | send request => exact (haction request rfl).elim
        | _ => rfl
      · rw [manager_setManager_ne hs]
        rfl

/-- The threads are labelled by the processes that send them. -/
theorem labels_of_senders {as : List Action} (hrun : Run.after (step J) w as = some w')
    (h : ∀ server j i, (senders J server w as)[j]? = some i →
      foreign server ((w.manager server).threads.length + j) = others i) :
    Run.Along (step J) (Labels others foreign) w as := by
  induction as generalizing w with
  | nil => trivial
  | cons a as ih =>
      obtain ⟨w₁, hstep, hrest⟩ := Run.after_cons_eq_some.mp hrun
      simp only [senders, hstep] at h
      refine (Run.along_cons hstep).mpr ⟨fun server i hi => ?_, ih hrest fun server j i hj => ?_⟩
      · exact h server 0 i (by rw [hi]; rfl)
      · rw [length_step hstep, Nat.add_assoc]
        refine h server _ i ?_
        rw [List.getElem?_append_right (Nat.le_add_right _ _), Nat.add_sub_cancel_left]
        exact hj

theorem labels_of_foreign (others : Nat → Bool) {as : List Action}
    (hrun : Run.after (step J) w as = some w')
    (hlength : ∀ server, (w.manager server).threads.length = 0) :
    Run.Along (step J) (Labels others (World.foreign J others w as)) w as := by
  refine labels_of_senders hrun fun server j i hj => ?_
  rw [hlength, Nat.zero_add, World.foreign, hj, Option.any_some]

namespace Isolates

theorem start (J : Janus) (τ : Tenant) (others : Nat → Bool) (foreign : ManagerServer → Nat → Bool)
    (leaderDatastore helperDatastore : Datastore)
    (leaderConfig helperConfig : TaskProvisionerConfig) :
    Isolates J τ others foreign (.start leaderDatastore helperDatastore leaderConfig helperConfig)
      (.start leaderDatastore helperDatastore leaderConfig helperConfig) where
  traced := traced_start J _ _ _ _
  managers server := by
    cases server with
    | leader => exact Manager.Isolates.new J τ _ _ _
    | helper => exact Manager.Isolates.new J τ _ _ _
  processes := rfl
  belongs := by rintro i process ⟨⟩

/-- A process hears the answers of its own side only. -/
theorem belongs_answer (h : Isolates J τ others foreign w w₀) {i : Nat} {process : Process}
    (hget : w.processes[i]? = some process) {op : Op} {f : Ans op → Api process.call.Result}
    {r : Ans op} (hrest : process.rest = .call op f) (hheard : w.Heard process op r) :
    (process.answer op f r).Belongs τ (!others i) foreign where
  call := (h.belongs i process hget).call
  heard := by
    intro server request id hmem
    have hbelongs := h.belongs i process hget
    rcases List.mem_append.mp hmem with hmem | hmem
    · exact hbelongs.heard server request id hmem
    · have hexchange := List.mem_singleton.mp hmem
      cases hheard with
      | @answer server₁ request₁ request' answer k hpending hanswered =>
          have hforeign := hbelongs.pending k server₁ request₁ f hpending hrest
          have hwithin := ((h.managers server₁).belongs k _ hanswered).within
          simp only [Sigma.mk.injEq, Op.manager.injEq] at hexchange
          obtain ⟨⟨rfl, rfl⟩, hr⟩ := hexchange
          obtain rfl := respond_eq_ok.mp (eq_of_heq hr).symm
          rw [hforeign, Bool.not_not] at hwithin
          exact hwithin
      | lost => cases hexchange
      | httpClient => cases hexchange
      | built => cases hexchange
      | uploaded => cases hexchange
  pending := by
    intro k server request f hpending
    cases hpending

/-- Every process stays on its side. -/
theorem belongs_step (h : Isolates J τ others foreign w w₀) {a : Action}
    (hstep : w.step J a = some w') (hlabels : w.Labels others foreign a)
    (hseparate : w.Separate τ others foreign a) (i : Nat) (process : Process)
    (hi : w'.processes[i]? = some process) : process.Belongs τ (!others i) foreign := by
  cases (step_moves hstep).origin hi with
  | same hget => exact h.belongs i process hget
  | started hlen =>
      subst hlen
      exact .start J foreign hseparate
  | @sent process server request f hget hpending hrest hthreads =>
      have hbelongs := h.belongs i process hget
      refine ⟨hbelongs.call, hbelongs.heard, ?_⟩
      rintro k server' request' f' ⟨⟩ hrest'
      rw [hrest] at hrest'
      cases hrest'
      rw [hlabels server i (sender_send hget hrest), Bool.not_not]
  | heard hget hrest hheard => exact h.belongs_answer hget hrest hheard

/-- What a step is for a manager of the tenant, if it is nothing to the tenant. -/
theorem manager_others (hJ : J.Faithful) (h : Isolates J τ others foreign w w₀) {a : Action}
    (hstep : w.step J a = some w') (hlabels : w.Labels others foreign a)
    (hseparate : w.Separate τ others foreign a)
    (ha : a.renumber others foreign w.processes.length = none) (server : ManagerServer) :
    (w'.manager server).Isolates J τ (foreign server) (w₀.manager server) := by
  have hat := (step_moves hstep).atManager server
  generalize w'.manager server = m at hat
  cases hat with
  | same => exact h.managers server
  | @sent i process request f _ hget hpending hrest hsend =>
      have hforeign := hlabels server i (sender_send hget hrest)
      have hbelongs := (h.belongs i process hget).request (h.traced i process hget) hrest
      have hi : others i = true := by simpa [Action.renumber] using ha
      refine (h.managers server).step_others hJ ?_ hsend ?_
      · change request.belongs τ _ = true
        rw [hforeign]
        exact hbelongs
      · rw [Manager.Action.renumber, if_pos (hforeign.trans hi)]
  | @managed action _ haction hmanager =>
      refine (h.managers server).step_others hJ hseparate hmanager ?_
      rw [Manager.Action.renumber_eq haction _ 0]
      exact Option.map_eq_none_iff.mp ha

/-- A step of one of the others. -/
theorem step_others (hJ : J.Faithful) (h : Isolates J τ others foreign w w₀) {a : Action}
    (hstep : w.step J a = some w') (hlabels : w.Labels others foreign a)
    (hseparate : w.Separate τ others foreign a)
    (ha : a.renumber others foreign w.processes.length = none) :
    Isolates J τ others foreign w' w₀ where
  traced := h.traced.step hstep
  managers := h.manager_others hJ hstep hlabels hseparate ha
  processes := by
    cases Steps.of_step hstep with
    | called =>
        have hn : others w.processes.length = true := by simpa [Action.renumber] using ha
        rw [without_concat, if_pos hn, List.append_nil, h.processes]
    | @sent i process server request f hget hpending hrest =>
        have hi : others i = true := by simpa [Action.renumber] using ha
        rw [processes_setProcess, processes_setManager, without_set_erased hi, h.processes]
    | @heard _ i process op f r hget hrest hhears =>
        have hi : others i = true := by
          cases hhears <;> simpa [Action.renumber] using ha
        rw [processes_setProcess, without_set_erased hi, h.processes]
    | managed => rw [processes_setManager, h.processes]
  belongs := h.belongs_step hstep hlabels hseparate

theorem get_own (h : Isolates J τ others foreign w w₀) {i : Nat} (hi : others i = false)
    {process : Process} (hget : w.processes[i]? = some process) :
    w₀.processes[rank others i]? = some (process.renumber foreign) := by
  rw [h.processes, List.getElem?_map, getElem?_without hi, hget, Option.map_some]

theorem set_own (h : Isolates J τ others foreign w w₀) {i : Nat} (hi : others i = false)
    (process : Process) : w₀.processes.set (rank others i) (process.renumber foreign) =
      (without others (w.processes.set i process)).map (Process.renumber foreign) := by
  rw [without_set hi, List.map_set, h.processes]

theorem setManager (h : Isolates J τ others foreign w w₀) {server : ManagerServer} {m m₀ : Manager}
    (hm : m.Isolates J τ (foreign server) m₀) (server' : ManagerServer) :
    ((w.setManager server m).manager server').Isolates J τ (foreign server')
      ((w₀.setManager server m₀).manager server') := by
  by_cases hs : server' = server
  · subst hs
    rw [manager_setManager, manager_setManager]
    exact hm
  · rw [manager_setManager_ne hs, manager_setManager_ne hs]
    exact h.managers server'

/-- A process of the tenant hears the same without the others. -/
theorem hears (h : Isolates J τ others foreign w w₀) {i : Nat} (hi : others i = false)
    {process : Process} (hget : w.processes[i]? = some process) {a b : Action} {op : Op}
    {f : Ans op → Api process.call.Result} {r : Ans op} (hrest : process.rest = .call op f)
    (hhears : w.Hears i process a op r)
    (hb : a.renumber others foreign w.processes.length = some b) :
    w₀.Hears (rank others i) (process.renumber foreign) b op r := by
  cases hhears with
  | @answer server request request' answer k hpending hanswered =>
      have hforeign : foreign server k = false := by
        rw [(h.belongs i process hget).pending k server request f hpending hrest, hi]
        rfl
      obtain rfl : Action.receive (rank others i) = b := by simpa [Action.renumber, hi] using hb
      have hanswered₀ : (w₀.manager server).threads[rank (foreign server) k]? =
          some (.answered request' answer) := by
        rw [(h.managers server).threads, getElem?_without hforeign, hanswered]
      refine .answer ?_ hanswered₀
      rw [Process.renumber_pending hrest, hpending, Option.map_some]
  | lost =>
      obtain rfl : Action.fail (rank others i) = b := by simpa [Action.renumber, hi] using hb
      exact .lost
  | httpClient =>
      obtain rfl : Action.reply (rank others i) _ = b := by simpa [Action.renumber, hi] using hb
      exact .httpClient
  | built =>
      obtain rfl : Action.reply (rank others i) _ = b := by simpa [Action.renumber, hi] using hb
      exact .built
  | uploaded =>
      obtain rfl : Action.reply (rank others i) _ = b := by simpa [Action.renumber, hi] using hb
      exact .uploaded

/-- A step of the tenant is one that it can take without the others. -/
theorem step_own (hJ : J.Faithful) (h : Isolates J τ others foreign w w₀) {a b : Action}
    (hstep : w.step J a = some w') (hlabels : w.Labels others foreign a)
    (hseparate : w.Separate τ others foreign a)
    (ha : a.renumber others foreign w.processes.length = some b) :
    ∃ seed w₀', w₀.step J (b.reseed seed) = some w₀' ∧ Isolates J τ others foreign w' w₀' := by
  have htraced := h.traced.step hstep
  have hbelongs := h.belongs_step hstep hlabels hseparate
  cases Steps.of_step hstep with
  | @called call =>
      simp only [Action.renumber, Option.ite_none_left_eq_some, Option.some.injEq] at ha
      obtain ⟨hn, rfl⟩ := ha
      refine ⟨[], { w₀ with processes := w₀.processes ++ [.start J call] }, rfl,
        ⟨htraced, fun server => ?_, ?_, hbelongs⟩⟩
      · cases server with
        | leader => exact h.managers .leader
        | helper => exact h.managers .helper
      · rw [without_concat, if_neg hn, List.map_append, List.map_singleton, h.processes,
          Process.renumber_of_none rfl]
  | @sent i process server request f hget hpending hrest =>
      simp only [Action.renumber, Option.ite_none_left_eq_some, Option.some.injEq,
        Bool.not_eq_true] at ha
      obtain ⟨hi, rfl⟩ := ha
      have hforeign := (hlabels server i (sender_send hget hrest)).trans hi
      have hrequest := (h.belongs i process hget).request (h.traced i process hget) hrest
      obtain ⟨seed, m₀, hsend₀, hm⟩ := (h.managers server).step_own hJ (a := .send request)
        (b := .send request) (by
          change request.belongs τ _ = true
          rw [hforeign, ← hi]
          exact hrequest) rfl
        (by rw [Manager.Action.renumber, if_neg (by rw [hforeign]; exact Bool.false_ne_true)])
      cases hsend₀
      have hpending₀ : (process.renumber foreign).pending = none := by
        rw [Process.renumber_pending hrest, hpending, Option.map_none]
      refine ⟨[], _, (Steps.sent (h.get_own hi hget) hpending₀ hrest).step, htraced, fun server' => ?_,
        ?_, hbelongs⟩
      · rw [manager_setProcess, manager_setProcess]
        exact h.setManager hm server'
      · rw [processes_setProcess, processes_setManager, processes_setProcess, processes_setManager,
          ← h.set_own hi, Process.renumber_some hrest, (h.managers server).threads, length_without]
  | @heard _ i process op f r hget hrest hhears =>
      have hi : others i = false := by
        cases hhears <;> simp only [Action.renumber, Option.ite_none_left_eq_some,
          Bool.not_eq_true] at ha <;> exact ha.1
      have hhears₀ := h.hears hi hget hrest hhears ha
      have hsame : b.reseed [] = b := by cases hhears₀ <;> rfl
      refine ⟨[], _, by rw [hsame]; exact (Steps.heard (h.get_own hi hget) hrest hhears₀).step, htraced,
        fun server => ?_, ?_, hbelongs⟩
      · rw [manager_setProcess, manager_setProcess]
        exact h.managers server
      · rw [processes_setProcess, processes_setProcess, ← h.set_own hi, Process.renumber_answer]
        rfl
  | @managed server action m haction hmanager =>
      obtain ⟨b, hb, rfl⟩ := Option.map_eq_some_iff.mp ha
      rw [Manager.Action.renumber_eq haction 0 (w.manager server).threads.length] at hb
      obtain ⟨seed, m₀, hstep₀, hm⟩ := (h.managers server).step_own hJ hseparate hmanager hb
      have haction₀ := Manager.Action.reseed_ne_send haction hb seed
      refine ⟨seed, _, (Steps.managed haction₀ hstep₀).step, htraced, h.setManager hm, ?_, hbelongs⟩
      rw [processes_setManager, processes_setManager, h.processes]

/-- The steps of the others unwind. -/
theorem unwinds (hJ : J.Faithful) (τ : Tenant) (others : Nat → Bool)
    (foreign : ManagerServer → Nat → Bool) :
    Unwinds (step J) (step J) (Action.renumber others foreign) Action.made
      (fun w => w.processes.length)
      (fun w a => w.Labels others foreign a ∧ w.Separate τ others foreign a)
      (fun b b' => ∃ seed, b' = b.reseed seed) (Isolates J τ others foreign) where
  counts hstep := by
    cases Steps.of_step hstep with
    | called => simp [Action.made]
    | sent => simp [Action.made]
    | heard hget hrest hhears => cases hhears <;> simp [Action.made]
    | managed => simp [Action.made]
  others h hC hstep ha := h.step_others hJ hstep hC.1 hC.2 ha
  own h hC hstep ha := by
    obtain ⟨seed, w₀', hstep₀, h'⟩ := h.step_own hJ hstep hC.1 hC.2 ha
    exact ⟨_, w₀', ⟨seed, rfl⟩, hstep₀, h'⟩

end Isolates

/-- Two groups of controllers and clients use the same managers, with any interleaving,
losses and restarts, and each keeps to its own session ids and task ids. Then one of the
groups, without the other, can have the same run: its calls are made in the same order,
and each has the same exchanges with the managers and the same outcome. And the managers
have the same sessions and tasks under its ids. -/
theorem calls_isolated (hJ : J.Faithful) (leaderDatastore helperDatastore : Datastore)
    (leaderConfig helperConfig : TaskProvisionerConfig) {s : World}
    (hs : s = .start leaderDatastore helperDatastore leaderConfig helperConfig) (τ : Tenant)
    (others : Nat → Bool) {as : List Action} (hrun : Run.after (step J) s as = some w)
    (hseparate : Run.Along (step J) (Separate τ others (World.foreign J others s as)) s as) :
    ∃ bs w₀, List.Forall₂ (fun b b' => ∃ seed, b' = b.reseed seed)
        (Action.without others (World.foreign J others s as) as) bs ∧
      Run.after (step J) s bs = some w₀ ∧
      w₀.processes = (without others w.processes).map
        (Process.renumber (World.foreign J others s as)) ∧
      ∀ server,
        (∀ id, τ.ids id = true →
          (w₀.manager server).provisioner.trainingSessions.lookup id =
            (w.manager server).provisioner.trainingSessions.lookup id) ∧
        ∀ taskId, τ.tasks taskId = true →
          (w₀.manager server).provisioner.datastore.lookup taskId =
            (w.manager server).provisioner.datastore.lookup taskId := by
  subst hs
  have hlabels := labels_of_foreign others hrun fun server => by cases server <;> rfl
  obtain ⟨bs, w₀, hbs, hrun₀, h⟩ := (Isolates.unwinds hJ τ others _).run
    (Isolates.start J τ others _ leaderDatastore helperDatastore leaderConfig helperConfig) hrun
    (hlabels.and hseparate)
  refine ⟨bs, w₀, hbs, hrun₀, h.processes, fun server => ?_⟩
  exact ⟨(h.managers server).provisioner.sessions, (h.managers server).provisioner.datastore⟩

end

end World

namespace Sample

/-- The tenant with the session 5. -/
def session5 : Tenant where
  ids id := id == ⟨5⟩
  tasks _ := false

/-- The process 0 without the other one has created the session 5, and both managers have it. -/
def keepsCreation (w : World) : Bool :=
  let processes := (Erasure.without (· == 1) w.processes).map
    (Process.renumber (World.foreign .plain (· == 1) world twoCreations))
  processes.length == 1 && processes[0]?.any hasCreated &&
    (w.leader.provisioner.trainingSessions.lookup ⟨5⟩).isSome &&
    (w.helper.provisioner.trainingSessions.lookup ⟨5⟩).isSome

end Sample

theorem World.calls_isolated_sample :
    ∃ bs w₀, bs.length = 11 ∧ Run.after (World.step .plain) Sample.world bs = some w₀ ∧
      w₀.processes.length = 1 ∧ w₀.processes[0]?.any Sample.hasCreated = true ∧
      ∀ server, ((w₀.manager server).provisioner.trainingSessions.lookup ⟨5⟩).isSome = true := by
  obtain ⟨w, hrun, hcheck⟩ := Option.any_eq_true _ _ |>.mp
    (by decide +kernel : (Run.after (World.step .plain) Sample.world Sample.twoCreations).any
      Sample.keepsCreation = true)
  simp only [Sample.keepsCreation, Bool.and_eq_true, beq_iff_eq] at hcheck
  obtain ⟨⟨⟨hlength, hcreated⟩, hleader⟩, hhelper⟩ := hcheck
  obtain ⟨bs, w₀, hbs, hrun₀, hprocesses, hmanagers⟩ := World.calls_isolated
    Janus.plain_faithful ∅ ∅ Sample.config Sample.config rfl Sample.session5 (· == 1) hrun
    (by decide +kernel)
  refine ⟨bs, w₀, ?_, hrun₀, by rw [hprocesses]; exact hlength, by rw [hprocesses]; exact hcreated,
    fun server => ?_⟩
  · exact hbs.length_eq.symm.trans (by decide +kernel)
  · rw [(hmanagers server).1 _ (by decide)]
    cases server with
    | leader => exact hleader
    | helper => exact hhelper
