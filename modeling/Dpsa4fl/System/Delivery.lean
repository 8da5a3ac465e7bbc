-- SUMMARY: While a session is kept, every client that turns to one of its rounds is initialized, and its submissions arrive exactly once.
import Dpsa4fl.Client.Submissions
import Dpsa4fl.JanusManager.Availability
import Dpsa4fl.System.Agreement
import Dpsa4fl.System.Late

/-!
# Delivery

A client asks both managers for the parameters of its first task. Their handlers
run among those of all other controllers and clients. If the task belongs to a
session that both managers keep, the answers agree, and all that can keep a
gradient from its task is a failure outside, or that the gradient does not fit.
-/

/-! ## Serving a session -/

namespace World

variable {J : Janus} {w w' : World} {id : TrainingSessionId} {s : ManagerServer → TrainingSession}
  {main : ManagerServer → MainLocations} {n : ManagerServer → Nat} {N : Nat}

/-- Both managers keep their session under this id and answer well to the requests
of every process with the number `N` or a later one. -/
structure Serves (w : World) (id : TrainingSessionId) (s : ManagerServer → TrainingSession)
    (main : ManagerServer → MainLocations) (n : ManagerServer → Nat) (N : Nat) : Prop where
  since : w.Since n N
  managers : ∀ server, (w.manager server).Serves id (s server) (main server) (n server)

theorem serves_start
    (hlive : ∀ server, (w.manager server).provisioner.trainingSessions.lookup id = some (s server))
    (hmain : ∀ server, (w.manager server).provisioner.config.mainLocations = main server) :
    w.Serves id s main (fun server => (w.manager server).threads.length) w.processes.length where
  since := since_self w
  managers server := hmain server ▸ Manager.serves_start (hlive server)

theorem Serves.step (hw : w.Serves id s main n N) (hregular : w.Regular J)
    (hlists : ∀ server, (w.manager server).ListsRequested) {a : Action}
    (h : w.step J a = some w') (hkeeps : a.Keeps id w) : w'.Serves id s main n N where
  since := hw.since.step hregular.sound.traced h
  managers := by
    intro server
    have hat := (step_moves h).atManager server
    generalize w'.manager server = m at hat
    cases hat with
    | same => exact hw.managers server
    | sent _ _ _ hstep =>
        exact (hw.managers server).step (hregular.sound.coherent server) (hlists server)
          (hregular.fresh.manager server) hstep rfl
    | managed _ hstep =>
        exact (hw.managers server).step (hregular.sound.coherent server) (hlists server)
          (hregular.fresh.manager server) hstep hkeeps

/-- If the managers agree on the locations and the parameters, then an exchange in
which nothing failed was answered as the client hopes. -/
theorem Serves.served (hw : w.Serves id s main n N) {l : MainLocations} {p : VdafParameter}
    {ids : List TaskId} (hmain : ∀ server, main server = l)
    (hp : ∀ server, (s server).vdafParameter = p)
    (hids : ∀ t ∈ ids, ∀ server, t ∈ (s server).tasks) {i : Nat} {process : Process} (hi : N ≤ i)
    (hget : w.processes[i]? = some process) {e : Exchange} (hmem : e ∈ process.trace)
    (hundisturbed : undisturbed e = true) : Op.Served l p ids e.1 e.2 := by
  obtain ⟨op, r⟩ := e
  cases op with
  | manager server request =>
      cases r with
      | error error => cases hundisturbed
      | ok r =>
          obtain ⟨k, answer, hn, hk, hr⟩ := (hw.since.late i process hi hget).heard server request r hmem
          have hnames := (hw.managers server).names k _ hn hk
          cases request with
          | getMainLocations =>
              obtain rfl : answer = _ := hnames
              rw [hmain server] at hr
              exact hr.symm
          | getVdafParameter request =>
              intro t ht henc
              obtain rfl := hnames t (hids t ht server) henc
              rw [hp server] at hr
              exact hr.symm
          | _ => trivial
  | _ =>
      cases r with
      | error error => cases hundisturbed
      | ok _ => rfl

/-- Both managers have tasks of one session id for the same parameters. -/
theorem Agreeing.vdafParameter_eq (hJ : J.Faithful) (hw : w.Agreeing J)
    (hlive : ∀ server,
      (w.manager server).provisioner.trainingSessions.lookup id = some (s server))
    (server : ManagerServer) : (s server).vdafParameter = (s .leader).vdafParameter := by
  have hterms : (s server).terms J = (s .leader).terms J :=
    hw.consistent id _ _ (.manager (.live (hlive server) rfl)) (.manager (.live (hlive .leader) rfl))
  exact VdafParameter.toVdafInstance_injective hJ (congrArg Terms.vdaf hterms)

theorem agreeing_run (hJ : J.Faithful) {leaderConfig helperConfig : TaskProvisionerConfig}
    {as : List Action} (hrun : Run.after (step J) (start ∅ ∅ leaderConfig helperConfig) as = some w)
    (hfresh : Run.Along (step J) (Action.Fresh J) (start ∅ ∅ leaderConfig helperConfig) as) :
    w.Agreeing J := by
  refine Run.invariant_of (fun s a s' hs hC hstep => ?_) (agreeing_start J _ _) hrun hfresh
  exact hs.step hJ hstep hC.1 hC.2

theorem listsRequested_start (leaderDatastore helperDatastore : Datastore)
    (leaderConfig helperConfig : TaskProvisionerConfig) (server : ManagerServer) :
    ((start leaderDatastore helperDatastore leaderConfig helperConfig).manager
      server).ListsRequested := by
  cases server with
  | leader => exact Manager.listsRequested_new _ _
  | helper => exact Manager.listsRequested_new _ _

theorem listsRequested_step (hsound : w.Sound J)
    (hw : ∀ server, (w.manager server).ListsRequested) {a : Action} (h : w.step J a = some w')
    (server : ManagerServer) : (w'.manager server).ListsRequested := by
  rcases (step_moves h).manager server with heq | ⟨action, hstep⟩
  · rw [heq]
    exact hw server
  · exact (hw server).step (hsound.coherent server) hstep

theorem mainLocations_run {leaderConfig helperConfig : TaskProvisionerConfig}
    (hlocations : leaderConfig.mainLocations = helperConfig.mainLocations) {as : List Action}
    (hrun : Run.after (step J) (start ∅ ∅ leaderConfig helperConfig) as = some w)
    (server : ManagerServer) :
    (w.manager server).provisioner.config.mainLocations = leaderConfig.mainLocations := by
  revert server
  refine Run.invariant (P := fun w : World => ∀ server,
    (w.manager server).provisioner.config.mainLocations = leaderConfig.mainLocations)
    (fun _ _ _ hs h server => (congrArg (·.mainLocations) (config_step h server)).trans (hs server))
    (fun server => ?_) hrun
  cases server with
  | leader => rfl
  | helper => exact hlocations.symm

theorem listsRequested_run (hJ : J.Faithful) {leaderConfig helperConfig : TaskProvisionerConfig}
    {as : List Action} (hrun : Run.after (step J) (start ∅ ∅ leaderConfig helperConfig) as = some w)
    (server : ManagerServer) : (w.manager server).ListsRequested := by
  have hboth : w.Sound J ∧ ∀ server, (w.manager server).ListsRequested :=
    Run.invariant (P := fun w : World => w.Sound J ∧ ∀ server, (w.manager server).ListsRequested)
      (fun _ _ _ hs h => ⟨hs.1.step hJ h, listsRequested_step hs.1 hs.2 h⟩)
      ⟨sound_start J _ _ _ _, listsRequested_start _ _ _ _⟩ hrun
  exact hboth.2 server

/-- From a world in which both managers have a session: while it is kept, every client
that turns to one of its tasks uploads what fits. -/
theorem delivers (hJ : J.Faithful) {w₀ : World} {bs : List Action}
    (hagreeing : w₀.Agreeing J) (hlists : ∀ server, (w₀.manager server).ListsRequested)
    {l : MainLocations}
    (hmain : ∀ server, (w₀.manager server).provisioner.config.mainLocations = l)
    (hlive : ∀ server,
      (w₀.manager server).provisioner.trainingSessions.lookup id = some (s server))
    (hrun : Run.after (step J) w₀ bs = some w)
    (hsteps : Run.Along (step J) (fun w a => a.FreshTask w ∧ a.Keeps id w) w₀ bs)
    {i : Nat} (hi : w₀.processes.length ≤ i) {managerLocations : ManagerLocations}
    {calls : List ClientCall} {trace : List Exchange} {state : ClientStatePU} {pending : Option Nat}
    (hget : w.processes[i]? =
      some ⟨.clientState managerLocations calls, trace, .ret state, pending⟩)
    (hfirst : ∀ call ∈ calls.head?, ∀ server, call.roundSettings.taskId ∈ (s server).tasks)
    (hbuilds : J.BuildsVdaf (s .leader).vdafParameter)
    (hundisturbed : ∀ e ∈ trace, undisturbed e = true) :
    uploads trace = calls.flatMap fun call =>
      call.report ⟨⟨l, managerLocations⟩, (s .leader).vdafParameter⟩ := by
  -- what is kept from there on
  obtain ⟨hregular, -, hserves⟩ := Run.invariant_of (P := fun w : World => w.Regular J ∧
      (∀ server, (w.manager server).ListsRequested) ∧
      w.Serves id s (fun _ => l) (fun server => (w₀.manager server).threads.length)
        w₀.processes.length)
    (fun _ _ _ hs hC h => ⟨hs.1.step hJ h hC.1, listsRequested_step hs.1.sound hs.2.1 h,
      hs.2.2.step hs.1 hs.2.1 h hC.2⟩)
    ⟨hagreeing.regular, hlists, serves_start hlive hmain⟩ hrun hsteps
  have hfollows := (hregular.sound.traced i _ hget).follows
  have hclient : (apiNewClientState managerLocations).Expects
      ⟨⟨l, managerLocations⟩, (s .leader).vdafParameter⟩ := rfl
  have hserved : ∀ e ∈ trace, Op.Served l (s .leader).vdafParameter
      (calls.head?.toList.map (·.roundSettings.taskId)) e.1 e.2 := by
    intro e he
    refine hserves.served (fun _ => rfl) (hagreeing.vdafParameter_eq hJ hlive) ?_ hi hget he
      (hundisturbed e he)
    intro t ht
    obtain ⟨call, hcall, rfl⟩ := List.mem_map.mp ht
    exact hfirst call (Option.mem_toList.mp hcall)
  refine (wp_clientCalls hbuilds ?_ hclient).of_follows hfollows hserved
  intro l _ call hcall
  exact List.mem_map_of_mem (Option.mem_toList.mpr hcall)

/-- Both managers have the same main locations. Task ids are fresh, and no session id is
drawn while it is in use, up to a world in which both managers have a session, for whose
parameters the VDAF is built. Task ids stay fresh, and the session is kept. Then each
client that is made from then on, and first turns to a task which both managers list,
uploads exactly those gradients that fit, each once, in their order and to the task of
their round, unless an exchange of its own is lost or fails outside. -/
theorem submissions_arrive (hJ : J.Faithful) {leaderConfig helperConfig : TaskProvisionerConfig}
    (hlocations : leaderConfig.mainLocations = helperConfig.mainLocations)
    {w₀ : World} {as bs : List Action}
    (hrun₀ : Run.after (step J) (start ∅ ∅ leaderConfig helperConfig) as = some w₀)
    (hfresh₀ : Run.Along (step J) (Action.Fresh J) (start ∅ ∅ leaderConfig helperConfig) as)
    (hlive : ∀ server,
      (w₀.manager server).provisioner.trainingSessions.lookup id = some (s server))
    (hrun : Run.after (step J) w₀ bs = some w)
    (hsteps : Run.Along (step J) (fun w a => a.FreshTask w ∧ a.Keeps id w) w₀ bs)
    {i : Nat} (hi : w₀.processes.length ≤ i) {managerLocations : ManagerLocations}
    {calls : List ClientCall} {trace : List Exchange} {state : ClientStatePU} {pending : Option Nat}
    (hget : w.processes[i]? =
      some ⟨.clientState managerLocations calls, trace, .ret state, pending⟩)
    (hfirst : ∀ call ∈ calls.head?, ∀ server, call.roundSettings.taskId ∈ (s server).tasks)
    (hbuilds : J.BuildsVdaf (s .leader).vdafParameter)
    (hundisturbed : ∀ e ∈ trace, undisturbed e = true) :
    uploads trace = calls.flatMap fun call =>
      call.report ⟨⟨leaderConfig.mainLocations, managerLocations⟩, (s .leader).vdafParameter⟩ :=
  delivers hJ (agreeing_run hJ hrun₀ hfresh₀) (listsRequested_run hJ hrun₀)
    (mainLocations_run hlocations hrun₀) hlive hrun hsteps hi hget hfirst hbuilds hundisturbed

end World

namespace Sample

/-- A client submits two gradients to the task 1. The second one is too short. -/
def twoSubmissions : List World.Action :=
  .call (.clientState client.location.manager
      [.submitWith (roundSettings 1) fun _ => .vecFixed16 [⟨0⟩, ⟨0⟩],
        .submitWith (roundSettings 1) fun _ => .vecFixed16 [⟨0⟩]]) ::
    .reply 2 (.ok ()) :: exchange 5 .leader 2 2 1 ++ exchange 5 .helper 2 2 1 ++
    exchange 5 .leader 2 3 2 ++ exchange 5 .helper 2 3 2 ++ [.reply 2 (.ok ()), .reply 2 (.ok ())]

/-- The calls of the process have ended undisturbed, with one upload. -/
def hasSubmitted : Process → Bool
  | ⟨.clientState _ calls, trace, .ret _, _⟩ =>
    calls.head?.all (fun call => call.roundSettings.taskId = taskId 1) && trace.all undisturbed &&
      (uploads trace).length = 1
  | _ => false

/-- The session 5 of the manager, if it lists the task 1. -/
def openSession (m : Manager) : Option TrainingSession :=
  (m.provisioner.trainingSessions.lookup ⟨5⟩).filter fun s => taskId 1 ∈ s.tasks

end Sample

theorem World.submissions_arrive_sample :
    ∃ w managerLocations calls trace state pending,
      Run.after (World.step .plain) Sample.world (Sample.oneRound ++ Sample.twoSubmissions) = some w ∧
      w.processes[2]? = some ⟨.clientState managerLocations calls, trace, .ret state, pending⟩ ∧
      (uploads trace).length = 1 ∧
      uploads trace = calls.flatMap fun call => call.report
        ⟨⟨Sample.config.mainLocations, managerLocations⟩, Sample.vdafParameter⟩ := by
  obtain ⟨w₀, hrun₀, hcheck₀⟩ := Option.any_eq_true _ _ |>.mp
    (by decide +kernel : (Run.after (World.step .plain) Sample.world Sample.oneRound).any
      (fun w => (Sample.openSession w.leader).any (fun s => s.vdafParameter = Sample.vdafParameter) &&
        (Sample.openSession w.helper).any (fun s => s.vdafParameter = Sample.vdafParameter) &&
        w.processes.length = 2 &&
        decide (Run.Along (World.step .plain)
          (fun w a => a.FreshTask w ∧ a.Keeps ⟨5⟩ w) w Sample.twoSubmissions) &&
        (Run.after (World.step .plain) w Sample.twoSubmissions).any
          fun w' => w'.processes[2]?.any Sample.hasSubmitted) = true)
  simp only [Bool.and_eq_true] at hcheck₀
  obtain ⟨⟨⟨⟨hleader, hhelper⟩, hlength⟩, hsteps⟩, hcheck⟩ := hcheck₀
  obtain ⟨w, hrun, hcheck⟩ := Option.any_eq_true _ _ |>.mp hcheck
  obtain ⟨process, hget, hsubmitted⟩ := Option.any_eq_true _ _ |>.mp hcheck
  have hlive : ∀ server, ∃ s, (w₀.manager server).provisioner.trainingSessions.lookup ⟨5⟩ = some s ∧
      s.vdafParameter = Sample.vdafParameter ∧ Sample.taskId 1 ∈ s.tasks := by
    intro server
    have hopen : (Sample.openSession (w₀.manager server)).any
        (fun s => s.vdafParameter = Sample.vdafParameter) = true := by
      cases server with
      | leader => exact hleader
      | helper => exact hhelper
    obtain ⟨s, hs, hparameter⟩ := Option.any_eq_true _ _ |>.mp hopen
    obtain ⟨hlive, htask⟩ := Option.filter_eq_some_iff.mp hs
    exact ⟨s, hlive, of_decide_eq_true hparameter, of_decide_eq_true htask⟩
  choose s hlive using hlive
  unfold Sample.hasSubmitted at hsubmitted
  split at hsubmitted
  · rename_i managerLocations calls trace state pending
    simp only [Bool.and_eq_true, decide_eq_true_eq] at hsubmitted
    obtain ⟨⟨hfirst, hundisturbed⟩, hone⟩ := hsubmitted
    refine ⟨w, managerLocations, calls, trace, state, pending, ?_, hget, hone, ?_⟩
    · rw [Run.after_append hrun₀]
      exact hrun
    · have hfresh : Run.Along (World.step .plain) (World.Action.Fresh .plain) Sample.world
          Sample.oneRound := by decide +kernel
      have harrive := World.submissions_arrive
        Janus.plain_faithful rfl hrun₀ hfresh (fun server => (hlive server).1) hrun
        (of_decide_eq_true hsteps) (of_decide_eq_true hlength).le hget
        (fun call hcall server => ?_) rfl (fun e he => List.all_eq_true.mp hundisturbed e he)
      · rw [← (hlive .leader).2.1]
        exact harrive
      · rw [of_decide_eq_true (Option.all_eq_true _ _ |>.mp hfirst call hcall)]
        exact (hlive server).2.2
  · cases hsubmitted
