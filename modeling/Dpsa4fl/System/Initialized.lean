-- SUMMARY: A client that was initialized has both aggregators on the parameters it got.
import Dpsa4fl.System.Traces

/-!
# Initialized clients

A client asks the leader's manager and the helper's manager at different times,
and both answer from sessions that may change or vanish in between. But each
answer is backed by a stored task, and stored tasks stay.
-/

/-- `ClientState::new` has returned this state in the process, for these round
settings: in a call of its own, or in one of the calls on a client state. -/
inductive Process.Initialized (J : Janus) : Process → RoundSettings → ClientState → Prop where
  | newClientState {m roundSettings trace state pending} :
      Initialized J ⟨.newClientState m roundSettings, trace, .ret (.ok state), pending⟩ roundSettings
        state
  | clientState {m calls trace rest pending call state}
      (h : Initializes J (apiNewClientState m) calls trace call state) :
      Initialized J ⟨.clientState m calls, trace, rest, pending⟩ call.roundSettings state

/-- The managers have named the parameters of an initialized client for its task. -/
theorem Process.Initialized.exchange {J : Janus} {w : World} {process : Process}
    {roundSettings : RoundSettings} {state : ClientState}
    (h : process.Initialized J roundSettings state) (htraced : process.Traced J w)
    (server : ManagerServer) :
    parameterExchange server roundSettings.taskId state.parametrization.vdafParameter ∈
      process.trace := by
  cases h with
  | newClientState => exact ClientState.follows_new htraced.follows.attempt_ok server
  | clientState h => exact h.exchange server

/-! ## Both managers -/

namespace World

variable {J : Janus} {w w' : World}

/-- The task is stored at the manager with the VDAF of these parameters. -/
def Registered (J : Janus) (w : World) (server : ManagerServer) (taskId : TaskId)
    (p : VdafParameter) : Prop :=
  ∃ task, (w.manager server).provisioner.datastore.lookup taskId = some task ∧
    task.vdaf = p.toVdafInstance J

/-- Both managers are coherent, and all processes are traced. -/
structure Sound (J : Janus) (w : World) : Prop where
  coherent : ∀ server, (w.manager server).Coherent J
  traced : w.Traced J

theorem sound_start (J : Janus) (leaderDatastore helperDatastore : Datastore)
    (leaderConfig helperConfig : TaskProvisionerConfig) :
    (start leaderDatastore helperDatastore leaderConfig helperConfig).Sound J where
  coherent := by
    intro server
    cases server with
    | leader => exact Manager.coherent_new J _ _
    | helper => exact Manager.coherent_new J _ _
  traced := traced_start J _ _ _ _

theorem Sound.step (hJ : J.Faithful) (hw : w.Sound J) {a : Action} (h : w.step J a = some w') :
    w'.Sound J where
  coherent := by
    intro server
    rcases (step_moves h).manager server with heq | ⟨action, hstep⟩
    · rw [heq]
      exact hw.coherent server
    · exact (hw.coherent server).step hJ hstep
  traced := hw.traced.step h

theorem Sound.run (hJ : J.Faithful) (hw : w.Sound J) {as : List Action}
    (hrun : Run.after (World.step J) w as = some w') : w'.Sound J :=
  Run.invariant (fun _ _ _ hs h => hs.step hJ h) hw hrun

theorem Registered.run {server : ManagerServer} {taskId : TaskId} {p : VdafParameter}
    (h : w.Registered J server taskId p) {as : List Action}
    (hrun : Run.after (step J) w as = some w') : w'.Registered J server taskId p := by
  refine Run.invariant (P := fun w => w.Registered J server taskId p) ?_ h hrun
  rintro s a s' ⟨task, hstored, hvdaf⟩ hstep
  exact ⟨task, (step_moves hstep).extends_datastore server _ _ hstored, hvdaf⟩

/-- The parameters that a process has heard for a task are registered. -/
theorem Sound.registered (hw : w.Sound J) {i : Nat} {process : Process}
    (hget : w.processes[i]? = some process) {server : ManagerServer} {taskId : TaskId}
    {p : VdafParameter} (hmem : parameterExchange server taskId p ∈ process.trace) :
    w.Registered J server taskId p := by
  obtain ⟨k, hk⟩ := (hw.traced i process hget).answered _ _ _ hmem
  obtain ⟨t, task, hdecode, hstored, hvdaf⟩ := (hw.coherent server).threads k _ hk
  obtain rfl := eq_of_taskIdFromString hdecode
  exact ⟨task, hstored, hvdaf⟩

/-- Once `ClientState::new` has returned `Ok`, the task of the client is
registered at both managers, now and for ever, with the parameters it got. -/
theorem initialized (hJ : J.Faithful) {leaderDatastore helperDatastore : Datastore}
    {leaderConfig helperConfig : TaskProvisionerConfig} {as bs : List Action}
    (hrun : Run.after (step J) (start leaderDatastore helperDatastore leaderConfig helperConfig) as =
      some w)
    {i : Nat} {process : Process} {roundSettings : RoundSettings} {state : ClientState}
    (hget : w.processes[i]? = some process) (hinit : process.Initialized J roundSettings state)
    (hlater : Run.after (step J) w bs = some w') (server : ManagerServer) :
    w'.Registered J server roundSettings.taskId state.parametrization.vdafParameter := by
  have hsound : w.Sound J := (sound_start J _ _ _ _).run hJ hrun
  exact (hsound.registered hget (hinit.exchange (hsound.traced i _ hget) server)).run hlater

end World

namespace Sample

/-- An exchange of process `i` with a manager, where its request becomes thread
number `k` and is answered after `n` pieces. A drawn session id is this one. -/
def exchange (sessionId : UInt16) (server : ManagerServer) (i k n : Nat) : List World.Action :=
  .send i :: List.replicate n (.manager server (.resume k (ambient sessionId))) ++ [.receive i]

/-- The session 5 is created, and the task 1 is started in it. -/
def oneRound : List World.Action :=
  .call (.createSession client fun _ => 0) :: exchange 5 .leader 0 0 3 ++ exchange 5 .helper 0 0 3 ++
    .call (.startRound client (taskId 1) ⟨5⟩) :: exchange 5 .leader 1 1 3 ++ exchange 5 .helper 1 1 3

def roundSettings (byte : UInt8) : RoundSettings := ⟨taskId byte, TIME_PRECISION, false⟩

/-- A client is initialized for this task. After the leader's manager has named
the parameters, it ends the session. -/
def oneClient : List World.Action :=
  oneRound ++ .call (.newClientState client.location.manager (roundSettings 1)) ::
    .reply 2 (.ok ()) :: exchange 5 .leader 2 2 1 ++ exchange 5 .helper 2 2 1 ++
    exchange 5 .leader 2 3 2 ++ .call (.endSession client ⟨5⟩) :: exchange 5 .leader 3 4 1 ++
    exchange 5 .helper 2 3 2

def world : World := .start ∅ ∅ config config

/-- The process has returned a client state for the task 1. -/
def hasState (process : Process) : Bool :=
  match process with
  | ⟨.newClientState _ settings, _, .ret (.ok state), _⟩ =>
    settings.taskId = taskId 1 ∧ state.parametrization.vdafParameter = vdafParameter
  | _ => false

end Sample

theorem World.initialized_sample :
    ∃ w, Run.after (World.step .plain) Sample.world Sample.oneClient = some w ∧
      ∀ server, w.Registered .plain server (Sample.taskId 1) Sample.vdafParameter := by
  obtain ⟨w, hrun, hcheck⟩ := Option.any_eq_true _ _ |>.mp
    (by decide +kernel : (Run.after (World.step .plain) Sample.world Sample.oneClient).any
      (fun w => w.processes[2]?.any Sample.hasState) = true)
  obtain ⟨process, hget, hstate⟩ := Option.any_eq_true _ _ |>.mp hcheck
  unfold Sample.hasState at hstate
  split at hstate
  · rename_i managerLocations settings trace state pending
    simp only [decide_eq_true_eq] at hstate
    obtain ⟨htask, hparameter⟩ := hstate
    refine ⟨w, hrun, fun server => ?_⟩
    rw [← htask, ← hparameter]
    exact World.initialized Janus.plain_faithful hrun hget .newClientState (Run.after_nil w) server
  · cases hstate
