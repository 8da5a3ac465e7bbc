-- SUMMARY: While a session is kept, every round that is started in it with a fresh task id is accepted by both managers.
import Dpsa4fl.JanusManager.OpenRounds
import Dpsa4fl.JanusManager.WireFormat
import Dpsa4fl.Library.Wp
import Dpsa4fl.System.Late
import Dpsa4fl.System.Rounds

/-!
# Starting a round

A controller starts a round with one request to each manager. Other controllers may
send requests in between, and their handlers run in any order. In a session that
both managers keep, only a failure outside can keep a round from being started.
-/

/-! ## The call of a controller -/

/-- The managers accept this round. -/
def Op.Starts (request : StartRoundRequest) : Script.Allowed Op Ans
  | .manager _ (.startRound request'), r => request' = request → r = .ok (.ok .startRound)
  | _, _ => True

theorem JanusManagerClient.wp_startRound (client : JanusManagerClient) (taskId : TaskId)
    (id : TrainingSessionId) :
    (client.startRound taskId id).wp (Op.Starts ⟨id, taskIdToString taskId⟩) fun es result =>
      result = .ok taskId ∧ ∀ server, ∃ r : HttpResponse,
        (⟨.manager server (.startRound ⟨id, taskIdToString taskId⟩), .ok r⟩ : Exchange) ∈ es := by
  unfold startRound Net.post
  simp only [Script.call_bind, Script.wp_call]
  intro _ hr
  cases hr rfl
  simp only [Net.orReturn, Script.ret_bind, Script.wp_call]
  intro _ hr
  cases hr rfl
  refine ⟨rfl, fun server => ⟨.ok .startRound, ?_⟩⟩
  cases server with
  | leader => exact List.mem_cons_self
  | helper => exact List.mem_cons_of_mem _ List.mem_cons_self

/-- The requests of a controller have keys of the right length. -/
theorem JanusManagerClient.makeRequest_wellKeyed (J : Janus) (client : JanusManagerClient)
    (random : Nat → UInt8) (role : Role) (id : Option TrainingSessionId) :
    (client.makeRequest (client.verifyKey J random) role id).WellKeyed J := by
  intro secrets hsecrets
  obtain ⟨-, -, hkey⟩ := createSessionSecrets_eq_ok.mp hsecrets
  rw [makeRequest, Base64Url.decode_encode] at hkey
  rw [← Except.ok.inj hkey]
  simp [verifyKey, makeRequest]

/-! ## Rounds of a session that is kept -/

namespace World

variable {J : Janus} {w w' : World} {id : TrainingSessionId} {s : ManagerServer → TrainingSession}
  {n : ManagerServer → Nat} {N : Nat}

/-- The step is made with a working clock and datastore. -/
def Action.Healthy : World.Action → Prop
  | .manager _ action => action.Healthy
  | _ => True

instance : (a : World.Action) → Decidable a.Healthy
  | .manager _ action => inferInstanceAs (Decidable action.Healthy)
  | .call _ => inferInstanceAs (Decidable True)
  | .send _ => inferInstanceAs (Decidable True)
  | .receive _ => inferInstanceAs (Decidable True)
  | .fail _ => inferInstanceAs (Decidable True)
  | .reply _ _ => inferInstanceAs (Decidable True)

theorem wellKeyed_start (J : Janus) (leaderDatastore helperDatastore : Datastore)
    (leaderConfig helperConfig : TaskProvisionerConfig) (server : ManagerServer) :
    ((start leaderDatastore helperDatastore leaderConfig helperConfig).manager server).WellKeyed
      J := by
  cases server with
  | leader => exact Manager.wellKeyed_new J _ _
  | helper => exact Manager.wellKeyed_new J _ _

/-- Sessions are created by controllers only, so all their keys have the right length. -/
theorem wellKeyed_step (hsound : w.Sound J) (hw : ∀ server, (w.manager server).WellKeyed J)
    {a : Action} (h : w.step J a = some w') (server : ManagerServer) :
    (w'.manager server).WellKeyed J := by
  have hat := (step_moves h).atManager server
  generalize w'.manager server = m at hat
  cases hat with
  | same => exact hw server
  | @sent i process request f m hget hpending hrest hstep =>
      apply (hw server).step (hsound.coherent server) hstep
      rintro request' ⟨⟩
      cases (hsound.traced i process hget).sends hrest with
      | createLeader => exact JanusManagerClient.makeRequest_wellKeyed J _ _ _ _
      | createHelper => exact JanusManagerClient.makeRequest_wellKeyed J _ _ _ _
      | query _ hquery => exact hquery.elim
  | managed haction hstep =>
      apply (hw server).step (hsound.coherent server) hstep
      intro request heq
      exact (haction _ heq).elim

/-- Both managers keep their session under this id and accept the rounds that the
processes with the number `N` or a later one ask for. -/
structure Starts (w : World) (id : TrainingSessionId) (s : ManagerServer → TrainingSession)
    (n : ManagerServer → Nat) (N : Nat) : Prop where
  since : w.Since n N
  managers : ∀ server, (w.manager server).Starts id (s server) (n server)

theorem Starts.step (hJ : J.Faithful) (hw : w.Starts id s n N) (hregular : w.Regular J)
    (hbuilds : ∀ server, (s server).BuildsAll J (w.manager server).provisioner.config) {a : Action}
    (h : w.step J a = some w') (hkeeps : a.Keeps id w) (hhealthy : a.Healthy) :
    w'.Starts id s n N where
  since := hw.since.step hregular.sound.traced h
  managers := by
    intro server
    have hat := (step_moves h).atManager server
    generalize w'.manager server = m at hat
    cases hat with
    | same => exact hw.managers server
    | sent _ _ _ hstep =>
        exact (hw.managers server).step hJ (hregular.sound.coherent server)
          (hregular.fresh.manager server) (hbuilds server) hstep rfl trivial
    | managed _ hstep =>
        exact (hw.managers server).step hJ (hregular.sound.coherent server)
          (hregular.fresh.manager server) (hbuilds server) hstep hkeeps hhealthy

/-- What was heard of a round without a failure is that it was accepted. -/
theorem Starts.heard (hw : w.Starts id s n N) {i : Nat} {process : Process} (hi : N ≤ i)
    (hget : w.processes[i]? = some process) {server : ManagerServer} {taskId : TaskId}
    {r : HttpResponse}
    (hmem : (⟨.manager server (.startRound ⟨id, taskIdToString taskId⟩), .ok r⟩ : Exchange) ∈
      process.trace) :
    r = .ok .startRound ∧ (w.manager server).Lists id taskId := by
  obtain ⟨k, answer, hn, hk, hr⟩ := (hw.since.late i process hi hget).heard server _ r hmem
  obtain ⟨rfl, hlists⟩ := (hw.managers server).starts k _ hn hk rfl taskId
    (taskIdFromString_toString taskId)
  exact ⟨(Except.ok.inj hr).symm, hlists⟩

/-- From a world in which both managers have a session: while it is kept, every call that
starts a round in it is accepted. -/
theorem round_starts (hJ : J.Faithful) (htasks : J.AcceptsTasks) {w₀ : World}
    {bs : List Action} (hregular₀ : w₀.Regular J) (hkeyed : ∀ server, (w₀.manager server).WellKeyed J)
    (hlive : ∀ server,
      (w₀.manager server).provisioner.trainingSessions.lookup id = some (s server))
    (hrun : Run.after (step J) w₀ bs = some w)
    (hsteps : Run.Along (step J) (fun w a => a.FreshTask w ∧ a.Keeps id w ∧ a.Healthy) w₀ bs)
    {i : Nat} (hi : w₀.processes.length ≤ i) {client : JanusManagerClient} {taskId : TaskId}
    {trace : List Exchange} {result : Except Failure TaskId} {pending : Option Nat}
    (hget : w.processes[i]? = some ⟨.startRound client taskId id, trace, .ret result, pending⟩)
    (hundisturbed : ∀ e ∈ trace, undisturbed e = true) :
    result = .ok taskId ∧ ∀ server, (w.manager server).Lists id taskId := by
  have hrole : ∀ server, (s server).role = .leader ∨ (s server).role = .helper := by
    intro server
    rw [(hregular₀.inRole server).sessions id _ (hlive server)]
    cases server with
    | leader => exact .inl rfl
    | helper => exact .inr rfl
  have hbuilds : ∀ server, (s server).BuildsAll J (w₀.manager server).provisioner.config :=
    fun server => TrainingSession.builds_all htasks ((hkeyed server).sessions id _ (hlive server))
      (hrole server) _
  obtain ⟨hregular, -, hstarts⟩ := Run.invariant_of (P := fun w : World => w.Regular J ∧
      (∀ server, (s server).BuildsAll J (w.manager server).provisioner.config) ∧
      w.Starts id s (fun server => (w₀.manager server).threads.length) w₀.processes.length)
    (fun _ _ _ hs hC h => ⟨hs.1.step hJ h hC.1,
      fun server => config_step h server ▸ hs.2.1 server,
      hs.2.2.step hJ hs.1 hs.2.1 h hC.2.1 hC.2.2⟩)
    ⟨hregular₀, hbuilds, since_self w₀, fun server => Manager.starts_start (hlive server)⟩ hrun hsteps
  have hfollows := (hregular.sound.traced i _ hget).follows
  have hallowed : ∀ e ∈ trace, Op.Starts ⟨id, taskIdToString taskId⟩ e.1 e.2 := by
    intro e he
    obtain ⟨op, r⟩ := e
    cases op with
    | manager server request =>
        cases request with
        | startRound request =>
            rintro rfl
            cases r with
            | error e => cases hundisturbed _ he
            | ok r => rw [(hstarts.heard hi hget he).1]
        | _ => trivial
    | _ => trivial
  obtain ⟨rfl, hexchanges⟩ := (client.wp_startRound taskId id).of_follows_attempt hfollows hallowed
  refine ⟨rfl, fun server => ?_⟩
  obtain ⟨r, hmem⟩ := hexchanges server
  exact (hstarts.heard hi hget hmem).2

theorem wellKeyed_run (hJ : J.Faithful) {leaderConfig helperConfig : TaskProvisionerConfig}
    {as : List Action} (hrun : Run.after (step J) (start ∅ ∅ leaderConfig helperConfig) as = some w)
    (hfresh : Run.Along (step J) Action.FreshTask (start ∅ ∅ leaderConfig helperConfig) as) :
    w.Regular J ∧ ∀ server, (w.manager server).WellKeyed J :=
  Run.invariant_of (P := fun w : World => w.Regular J ∧ ∀ server, (w.manager server).WellKeyed J)
    (fun _ _ _ hs hC h => ⟨hs.1.step hJ h hC, wellKeyed_step hs.1.sound hs.2 h⟩)
    ⟨regular_start J _ _, wellKeyed_start J _ _ _ _⟩ hrun hfresh

/-- Task ids are fresh up to a world in which both managers have a session. From
then on they stay fresh, the session is kept, and clocks and datastores work. Then every
call that starts a round in the session returns `Ok` and leaves both managers with the
session listing the task, unless one of its own messages is lost. -/
theorem rounds_start (hJ : J.Faithful) (htasks : J.AcceptsTasks)
    {leaderConfig helperConfig : TaskProvisionerConfig} {w₀ : World} {as bs : List Action}
    (hrun₀ : Run.after (step J) (start ∅ ∅ leaderConfig helperConfig) as = some w₀)
    (hfresh₀ : Run.Along (step J) Action.FreshTask (start ∅ ∅ leaderConfig helperConfig) as)
    (hlive : ∀ server,
      (w₀.manager server).provisioner.trainingSessions.lookup id = some (s server))
    (hrun : Run.after (step J) w₀ bs = some w)
    (hsteps : Run.Along (step J) (fun w a => a.FreshTask w ∧ a.Keeps id w ∧ a.Healthy) w₀ bs)
    {i : Nat} (hi : w₀.processes.length ≤ i) {client : JanusManagerClient} {taskId : TaskId}
    {trace : List Exchange} {result : Except Failure TaskId} {pending : Option Nat}
    (hget : w.processes[i]? = some ⟨.startRound client taskId id, trace, .ret result, pending⟩)
    (hundisturbed : ∀ e ∈ trace, undisturbed e = true) :
    result = .ok taskId ∧ ∀ server, (w.manager server).Lists id taskId := by
  obtain ⟨hregular₀, hkeyed⟩ := wellKeyed_run hJ hrun₀ hfresh₀
  exact round_starts hJ htasks hregular₀ hkeyed hlive hrun hsteps hi hget hundisturbed

end World

namespace Sample

/-- The session 5 is created at both managers. -/
def oneCreation : List World.Action :=
  .call (.createSession client fun _ => 0) :: exchange 5 .leader 0 0 3 ++ exchange 5 .helper 0 0 3

/-- The task 1 is started in it. -/
def oneStart : List World.Action :=
  .call (.startRound client (taskId 1) ⟨5⟩) :: exchange 5 .leader 1 1 3 ++ exchange 5 .helper 1 1 3

/-- The call that starts the task 1 has ended undisturbed. -/
def hasEnded : Process → Bool
  | ⟨.startRound _ t id, trace, .ret _, _⟩ => t = taskId 1 && id = ⟨5⟩ && trace.all undisturbed
  | _ => false

end Sample

theorem World.rounds_start_sample :
    ∃ w client trace pending,
      Run.after (World.step .plain) Sample.world (Sample.oneCreation ++ Sample.oneStart) = some w ∧
      w.processes[1]? = some
        ⟨.startRound client (Sample.taskId 1) ⟨5⟩, trace, .ret (.ok (Sample.taskId 1)), pending⟩ ∧
      ∀ server, (w.manager server).Lists ⟨5⟩ (Sample.taskId 1) := by
  obtain ⟨w₀, hrun₀, hcheck₀⟩ := Option.any_eq_true _ _ |>.mp
    (by decide +kernel : (Run.after (World.step .plain) Sample.world Sample.oneCreation).any
      (fun w => (w.leader.provisioner.trainingSessions.lookup ⟨5⟩).isSome &&
        (w.helper.provisioner.trainingSessions.lookup ⟨5⟩).isSome && w.processes.length = 1 &&
        decide (Run.Along (World.step .plain)
          (fun w a => a.FreshTask w ∧ a.Keeps ⟨5⟩ w ∧ a.Healthy) w Sample.oneStart) &&
        (Run.after (World.step .plain) w Sample.oneStart).any
          fun w' => w'.processes[1]?.any Sample.hasEnded) = true)
  simp only [Bool.and_eq_true] at hcheck₀
  obtain ⟨⟨⟨⟨hleader, hhelper⟩, hlength⟩, hsteps⟩, hcheck⟩ := hcheck₀
  obtain ⟨w, hrun, hcheck⟩ := Option.any_eq_true _ _ |>.mp hcheck
  obtain ⟨process, hget, hended⟩ := Option.any_eq_true _ _ |>.mp hcheck
  have hlive : ∀ server, ∃ s, (w₀.manager server).provisioner.trainingSessions.lookup ⟨5⟩ = some s := by
    intro server
    cases server with
    | leader => exact Option.isSome_iff_exists.mp hleader
    | helper => exact Option.isSome_iff_exists.mp hhelper
  choose s hlive using hlive
  unfold Sample.hasEnded at hended
  split at hended
  · rename_i client t id trace result pending
    simp only [Bool.and_eq_true, decide_eq_true_eq] at hended
    obtain ⟨⟨rfl, rfl⟩, hundisturbed⟩ := hended
    have hfresh : Run.Along (World.step .plain) World.Action.FreshTask Sample.world
        Sample.oneCreation := by decide +kernel
    have htasks : Janus.plain.AcceptsTasks := fun _ _ _ _ _ _ => ⟨_, rfl⟩
    obtain ⟨rfl, hlists⟩ := World.rounds_start
      Janus.plain_faithful htasks hrun₀ hfresh hlive hrun (of_decide_eq_true hsteps)
      (of_decide_eq_true hlength).le hget
      (fun e he => List.all_eq_true.mp hundisturbed e he)
    refine ⟨w, client, trace, pending, ?_, hget, hlists⟩
    rw [Run.after_append hrun₀]
    exact hrun
  · cases hended
