-- SUMMARY: The documented protocol works, among all other controllers and clients: from a new controller to the collection of what its clients have uploaded.
import Dpsa4fl.System.Collecting
import Dpsa4fl.System.Delivery
import Dpsa4fl.System.Starting

/-!
# The protocol

`src/lib.rs` says how the crate is to be used: a controller is initialized, creates a
session and starts a round; clients submit their gradients for the task of the round;
the controller collects the aggregate. Each step relies on what the steps before it
have left at the managers, which serve others in between.
-/

/-! ## A new controller -/

/-- The library accepts the tokens that were drawn. -/
structure ClientAmbient.Accepted (J : Janus) (ω : ClientAmbient) : Prop where
  collectorToken : ∃ token, J.newBearerTokenFromBytes ω.collectorAuthToken.asRef = .ok token
  leaderToken : ∃ token, J.newBearerTokenFromBytes
    (Base64Url.encode ω.leaderAuthToken.asRef).toUTF8.data.toList = .ok token

section
variable {J : Janus} {ω : ClientAmbient}

/-- A new client has the tokens that were drawn, and the given configuration. -/
theorem JanusManagerClient.new_eq_ok {location : Locations} {vdafParameter : VdafParameter}
    {client : JanusManagerClient} (h : new J ω location vdafParameter = .ok client) :
    ∃ hpkeKeypair, client =
      ⟨location, hpkeKeypair, ω.leaderAuthToken, ω.collectorAuthToken, vdafParameter⟩ := by
  unfold new at h
  split at h
  · cases h
  · cases h
    exact ⟨_, rfl⟩

theorem apiNewControllerState_eq_ok {p : CommonStateParametrization}
    {istate : ControllerStateImmut} (h : apiNewControllerState J ω p = .ok istate) :
    ∃ client, JanusManagerClient.new J ω p.location p.vdafParameter = .ok client ∧
      istate = ⟨p, ⟨client⟩⟩ := by
  unfold apiNewControllerState ControllerStateImmut.new at h
  cases hnew : JanusManagerClient.new J ω p.location p.vdafParameter with
  | error e =>
      rw [hnew] at h
      cases h
  | ok client =>
      rw [hnew] at h
      cases h
      exact ⟨client, rfl, rfl⟩

/-- The managers accept the terms of a new client. -/
theorem JanusManagerClient.new_terms (hω : ω.Accepted J) {location : Locations}
    {vdafParameter : VdafParameter} {client : JanusManagerClient}
    (h : new J ω location vdafParameter = .ok client) (random : Nat → UInt8) :
    ∃ p, (client.makeRequest (client.verifyKey J random) .leader none).terms J = .ok p ∧
      p.vdaf = vdafParameter.toVdafInstance J := by
  obtain ⟨hpkeKeypair, rfl⟩ := new_eq_ok h
  obtain ⟨collectorToken, hcollector⟩ := hω.collectorToken
  obtain ⟨leaderToken, hleader⟩ := hω.leaderToken
  have hsecrets : createSessionSecrets J (makeRequest
      ⟨location, hpkeKeypair, ω.leaderAuthToken, ω.collectorAuthToken, vdafParameter⟩
      (verifyKey J ⟨location, hpkeKeypair, ω.leaderAuthToken, ω.collectorAuthToken, vdafParameter⟩
        random) .leader none) = .ok ⟨collectorToken, leaderToken, verifyKey J
        ⟨location, hpkeKeypair, ω.leaderAuthToken, ω.collectorAuthToken, vdafParameter⟩ random⟩ :=
    createSessionSecrets_eq_ok.mpr
      ⟨⟨_, Base64Url.decode_encode _, hcollector⟩, hleader, Base64Url.decode_encode _⟩
  exact ⟨_, CreateTrainingSessionRequest.terms_of_secrets hsecrets hpkeKeypair, rfl⟩

end

namespace World

variable {J : Janus} {w w' : World} {id : TrainingSessionId}

/-! ## What stays -/

/-- A call that has ended stays as it is. -/
theorem Moves.keeps_ended {a : Action} (h : w.Moves J a w') {i : Nat} {call : Call}
    {trace : List Exchange} {result : call.Result} {pending : Option Nat}
    (hget : w.processes[i]? = some ⟨call, trace, .ret result, pending⟩) :
    w'.processes[i]? = some ⟨call, trace, .ret result, pending⟩ := by
  cases h with
  | called =>
      rw [List.getElem?_append_left (List.getElem?_eq_some_iff.mp hget).1]
      exact hget
  | @sent j process server request f m hget' hpending hrest hsend =>
      rw [processes_setProcess, processes_setManager, List.getElem?_set_ne ?_]
      · exact hget
      · rintro rfl
        obtain rfl := Option.some.inj (hget.symm.trans hget')
        cases hrest
  | @heard _ j process op f r hget' hrest hheard =>
      rw [processes_setProcess, List.getElem?_set_ne ?_]
      · exact hget
      · rintro rfl
        obtain rfl := Option.some.inj (hget.symm.trans hget')
        cases hrest
  | managed =>
      rw [processes_setManager]
      exact hget

theorem ended_run {as : List Action} (hrun : Run.after (step J) w as = some w') {i : Nat}
    {call : Call} {trace : List Exchange} {result : call.Result} {pending : Option Nat}
    (hget : w.processes[i]? = some ⟨call, trace, .ret result, pending⟩) :
    w'.processes[i]? = some ⟨call, trace, .ret result, pending⟩ :=
  Run.invariant (P := fun w : World =>
      w.processes[i]? = some ⟨call, trace, .ret result, pending⟩)
    (fun _ _ _ hs h => (step_moves h).keeps_ended hs) hget hrun

/-- Both managers have a session with these terms under this id. -/
def Live (w : World) (J : Janus) (id : TrainingSessionId) (p : Terms) : Prop :=
  ∀ server, ∃ s, (w.manager server).provisioner.trainingSessions.lookup id = some s ∧ s.terms J = p

/-- A session that is not ended is kept, as no other one is created with its id. -/
theorem Distinct.keeps (hw : w.Distinct J) {p : Terms} (hlive : w.Live J id p) {a : Action}
    (hspares : a.Spares id w) : a.Keeps id w := by
  cases a with
  | manager server action =>
      obtain ⟨s, hs, -⟩ := hlive server
      exact Manager.keeps_of_spares (hw.soleUse server id) hs hspares
  | _ => trivial

theorem Live.step {p : Terms} (hlive : w.Live J id p) {a : Action} (h : w.step J a = some w')
    (hkeeps : a.Keeps id w) : w'.Live J id p := by
  intro server
  obtain ⟨s, hs, rfl⟩ := hlive server
  have hgrows : ∀ {m action}, (w.manager server).step J action = some m →
      (w.manager server).Keeps id action →
      ∃ s', m.provisioner.trainingSessions.lookup id = some s' ∧ s'.terms J = s.terms J := by
    intro m action hstep hkeeps
    obtain ⟨s', hs', hgrows⟩ := Manager.grows_step hs hstep hkeeps
    refine ⟨s', hs', ?_⟩
    rw [hgrows.eq]
    rfl
  have hat := (step_moves h).atManager server
  generalize w'.manager server = m at hat
  cases hat with
  | same => exact ⟨s, hs, rfl⟩
  | sent _ _ _ hstep => exact hgrows hstep rfl
  | managed _ hstep => exact hgrows hstep hkeeps

/-- Along a run that spares the session, each step keeps it, and so it is still there
at the end. -/
theorem live_run (hJ : J.Faithful) (hw : w.Distinct J) {p : Terms} (hlive : w.Live J id p)
    {as : List Action} (hrun : Run.after (World.step J) w as = some w')
    (hsteps : Run.Along (World.step J) (fun w a => a.Fresh J w ∧ a.Spares id w) w as) :
    Run.Along (World.step J) (fun w a => a.FreshTask w ∧ a.Keeps id w) w as ∧
      w'.Live J id p := by
  have hkeeps : Run.Along (World.step J) (fun w a => a.FreshTask w ∧ a.Keeps id w) w as := by
    refine Run.Along.mono_of (P := fun w : World => w.Distinct J ∧ w.Live J id p)
      (fun w a hs hC => ⟨hC.1.1, hs.1.keeps hs.2 hC.2⟩) (fun w a w' hs hC h => ?_) ⟨hw, hlive⟩
      hsteps
    exact ⟨hs.1.step hJ h hC.1, hs.2.step h (hs.1.keeps hs.2 hC.2)⟩
  exact ⟨hkeeps, Run.invariant_of (P := fun w : World => w.Live J id p)
    (fun _ _ _ hs hC h => hs.step h hC.2) hlive hrun hkeeps⟩

/-! ## The steps of the protocol -/

/-- The process `i` has ended this call, and nothing of its own exchanges was lost or
failed outside. -/
structure Ended (w : World) (i : Nat) (call : Call) (trace : List Exchange) (result : call.Result) :
    Prop where
  get : ∃ pending, w.processes[i]? = some ⟨call, trace, .ret result, pending⟩
  undisturbed : ∀ e ∈ trace, undisturbed e = true

/-- Whenever this controller queries the leader for the task, the collector decodes for
the given parameters, the leader knows it and has a task for it, and the task of the
helper fits. -/
def Collectable (J : Janus) (w : World) (istate : ControllerStateImmut) (p : VdafParameter)
    (taskId : TaskId) : Prop :=
  ∀ ⦃κ : Type⦄ ⦃T : JanusTime⦄ ⦃build : Build⦄ ⦃mstate : ControllerStateMut⦄
    ⦃es : List (Script.Exchange CollectOp (CollectAns κ))⦄
    ⦃m : Script CollectOp (CollectAns κ) Empty (Except Failure κ × ControllerStateMut)⦄
    ⦃collector : Collector⦄ ⦃interval : BatchInterval⦄ ⦃r : Except Error κ⦄,
    mstate.round.taskId = some taskId → Script.Follows (apiCollect J T build istate mstate) es m →
    ⟨.collect collector interval, r⟩ ∈ es →
    collector.vdafCollector = ⟨p.submissionType, 2, p.gradientLen⟩ ∧
      ∃ leader helper, w.leader.provisioner.datastore.lookup taskId = some leader ∧
        w.helper.provisioner.datastore.lookup taskId = some helper ∧ leader.Agrees J helper ∧
        collector.Authorized J leader

theorem Distinct.collectable (hJ : J.Faithful) (htokens : J.KeepsTokens) (hw : w.Distinct J)
    (hholds : w.leader.Holds J id) {istate : ControllerStateImmut} {i : Nat}
    {random : Nat → UInt8} {trace₀ : List Exchange} {pending₀ : Option Nat}
    (hcreated : w.processes[i]? = some
      ⟨.createSession istate.permanent.janusTasksClient random, trace₀, .ret (.ok id), pending₀⟩)
    {j : Nat} {client : JanusManagerClient} {taskId : TaskId} {trace : List Exchange}
    {pending : Option Nat} (hstarted : w.processes[j]? =
      some ⟨.startRound client taskId id, trace, .ret (.ok taskId), pending⟩) :
    w.Collectable J istate istate.permanent.janusTasksClient.vdafParameter taskId := by
  intro κ T build mstate es m collector interval r hround hcollect hmem
  obtain rfl : collector = istate.permanent.janusTasksClient.roundCollector taskId :=
    (apiCollect_collects hround).of_follows hcollect _ hmem
  obtain ⟨leader, helper, hleader, hhelper, hagrees⟩ := hw.agreeing.agreed hstarted
  exact ⟨rfl, leader, helper, hleader, hhelper, hagrees, hw.authorized hJ htokens hholds
    (hw.agreeing.regular.sound.traced.answered_createSession hcreated) hstarted hleader⟩

/-- While a session with these parameters is kept, each client that first turns to one
of its rounds uploads what fits them. -/
theorem Live.uploads (hJ : J.Faithful) {w₁ : World} (hw₁ : w₁.Distinct J)
    (hrequested : ∀ server, (w₁.manager server).ListsRequested) {l : MainLocations}
    (hmain : ∀ server, (w₁.manager server).provisioner.config.mainLocations = l) {q : Terms}
    (hlive : w₁.Live J id q) {vdafParameter : VdafParameter}
    (hq : q.vdaf = vdafParameter.toVdafInstance J) (hvdaf : J.BuildsVdaf vdafParameter)
    {taskId : TaskId} (hlists : ∀ server, (w₁.manager server).Lists id taskId) {cs : List Action}
    (hrun : Run.after (World.step J) w₁ cs = some w)
    (hkeeps : Run.Along (World.step J) (fun w a => a.FreshTask w ∧ a.Keeps id w) w₁ cs) {k : Nat}
    (hk : w₁.processes.length ≤ k) {managerLocations : ManagerLocations} {calls : List ClientCall}
    {trace : List Exchange} {state : ClientStatePU}
    (hsubmit : w.Ended k (.clientState managerLocations calls) trace state)
    (hfirst : ∀ call ∈ calls.head?, call.roundSettings.taskId = taskId) :
    uploads trace = calls.flatMap fun call => call.report ⟨⟨l, managerLocations⟩, vdafParameter⟩ := by
  obtain ⟨⟨pending, hget⟩, hundisturbed⟩ := hsubmit
  choose s hs htask using hlists
  have hparameter : (s .leader).vdafParameter = vdafParameter := by
    obtain ⟨s', hs', hterms⟩ := hlive .leader
    obtain rfl := Option.some.inj (hs'.symm.trans (hs .leader))
    exact VdafParameter.toVdafInstance_injective hJ ((congrArg Terms.vdaf hterms).trans hq)
  rw [← hparameter] at hvdaf ⊢
  refine delivers hJ hw₁.agreeing hrequested hmain hs hrun hkeeps hk hget (fun call hcall server => ?_)
    hvdaf hundisturbed
  rw [hfirst call hcall]
  exact htask server

/-- The documented protocol, with anything else going on at two managers that have the
same main locations. Task ids are fresh, and no session id is drawn while it is in use.
Then a new controller that creates a session gets its id, unless a message of the call is
lost. If nobody ends the session and no manager is restarted, then each round that the
controller starts in it is accepted at both managers, as long as clocks and datastores
work; each client that first turns to such a round uploads exactly the gradients that fit
the parameters of the controller; and each such round can be collected, with a collector
that decodes for the same parameters. -/
theorem protocol_succeeds (hJ : J.Faithful) (hkeys : J.GeneratesKeys) (htokens : J.KeepsTokens)
    (htasks : J.AcceptsTasks) {leaderConfig helperConfig : TaskProvisionerConfig}
    (hlocations : leaderConfig.mainLocations = helperConfig.mainLocations)
    {ω : ClientAmbient} (hω : ω.Accepted J) {p : CommonStateParametrization}
    (hvdaf : J.BuildsVdaf p.vdafParameter) {istate : ControllerStateImmut}
    (hinit : apiNewControllerState J ω p = .ok istate) {w₀ w₁ : World} {as bs cs : List Action}
    (hrun₀ : Run.after (World.step J) (start ∅ ∅ leaderConfig helperConfig) as = some w₀)
    (hrun₁ : Run.after (World.step J) w₀ bs = some w₁)
    (hrun₂ : Run.after (World.step J) w₁ cs = some w)
    (hfresh : Run.Along (World.step J) (Action.Fresh J) (start ∅ ∅ leaderConfig helperConfig)
      (as ++ (bs ++ cs)))
    {i : Nat} {random : Nat → UInt8} {trace : List Exchange}
    {result : Except Failure TrainingSessionId}
    (hcreate : w₀.Ended i (.createSession istate.permanent.janusTasksClient random) trace result) :
    ∃ id, result = .ok id ∧
      (Run.Along (World.step J) (Action.Spares id) (start ∅ ∅ leaderConfig helperConfig)
          (as ++ (bs ++ cs)) →
        Run.Along (World.step J) (fun _ a => a.Healthy) w₀ bs →
        ∀ j taskId trace result, w₀.processes.length ≤ j →
          w₁.Ended j (.startRound istate.permanent.janusTasksClient taskId id) trace result →
          result = .ok taskId ∧ w.Collectable J istate p.vdafParameter taskId ∧
          ∀ k managerLocations calls trace state, w₁.processes.length ≤ k →
            w.Ended k (.clientState managerLocations calls) trace state →
            (∀ call ∈ calls.head?, call.roundSettings.taskId = taskId) →
            uploads trace = calls.flatMap fun call =>
              call.report ⟨⟨leaderConfig.mainLocations, managerLocations⟩, p.vdafParameter⟩) := by
  obtain ⟨client, hnew, rfl⟩ := apiNewControllerState_eq_ok hinit
  obtain ⟨q, hterms, hq⟩ := JanusManagerClient.new_terms hω hnew random
  obtain ⟨hfresh₀, hfresh'⟩ := (Run.along_append hrun₀).mp hfresh
  obtain ⟨hfresh₁, hfresh₂⟩ := (Run.along_append hrun₁).mp hfresh'
  have hrun₀₁ : Run.after (World.step J) (start ∅ ∅ leaderConfig helperConfig) (as ++ bs) =
      some w₁ := by
    rw [Run.after_append hrun₀]
    exact hrun₁
  have hrun : Run.after (World.step J) (start ∅ ∅ leaderConfig helperConfig) (as ++ (bs ++ cs)) =
      some w := by
    rw [Run.after_append hrun₀, Run.after_append hrun₁]
    exact hrun₂
  -- the session
  obtain ⟨hcreates, hsince⟩ := creates_run hJ hkeys hrun₀ hfresh₀
  obtain ⟨⟨pending, hget⟩, hundisturbed⟩ := hcreate
  obtain ⟨id, rfl, hsession⟩ := hcreates.created hsince hterms hget hundisturbed
  refine ⟨id, rfl, ?_⟩
  intro hspares hhealthy j taskId trace₁ result₁ hj hstart
  obtain ⟨hspares₀, hspares'⟩ := (Run.along_append hrun₀).mp hspares
  obtain ⟨hspares₁, hspares₂⟩ := (Run.along_append hrun₁).mp hspares'
  have hlive₀ : w₀.Live J id q := hsession (holds_run hJ hrun₀ hfresh₀ hspares₀)
  -- the round
  obtain ⟨hkeeps₁, hlive₁⟩ :=
    live_run hJ hcreates.distinct hlive₀ hrun₁ (hfresh₁.and hspares₁)
  obtain ⟨hregular, hkeyed⟩ := wellKeyed_run hJ hrun₀ (hfresh₀.mono fun _ _ h => h.1)
  obtain ⟨⟨pending₁, hget₁⟩, hundisturbed₁⟩ := hstart
  choose s₀ hs₀ _ using hlive₀
  obtain ⟨rfl, hlists⟩ := round_starts hJ htasks hregular hkeyed hs₀ hrun₁
    ((hkeeps₁.and hhealthy).mono fun _ _ h => ⟨h.1.1, h.1.2, h.2⟩) hj hget₁ hundisturbed₁
  refine ⟨rfl, ?_, ?_⟩
  · -- the collection
    have hcollectable : w.Collectable J ⟨p, ⟨client⟩⟩ client.vdafParameter taskId :=
      (distinct_run hJ hrun hfresh).collectable hJ htokens (holds_run hJ hrun hfresh hspares .leader)
        (ended_run hrun₂ (ended_run hrun₁ hget)) (ended_run hrun₂ hget₁)
    obtain ⟨hpkeKeypair, rfl⟩ := JanusManagerClient.new_eq_ok hnew
    exact hcollectable
  · -- the submissions
    intro k managerLocations calls trace₂ state hk hsubmit hfirst
    have hdistinct₁ : w₁.Distinct J :=
      distinct_run hJ hrun₀₁ ((Run.along_append hrun₀).mpr ⟨hfresh₀, hfresh₁⟩)
    obtain ⟨hkeeps₂, -⟩ := live_run hJ hdistinct₁ hlive₁ hrun₂ (hfresh₂.and hspares₂)
    exact hlive₁.uploads hJ hdistinct₁ (listsRequested_run hJ hrun₀₁)
      (mainLocations_run hlocations hrun₀₁) hq hvdaf hlists hrun₂ hkeeps₂ hk hsubmit hfirst

end World

namespace Sample

/-- What a new manager client draws. -/
def drawn : ClientAmbient := ⟨.bearer [97], .bearer [97, 98, 99], 0, []⟩

def parametrization : CommonStateParametrization := ⟨client.location, vdafParameter⟩

/-- The controller of the samples, with the configuration that the library has generated. -/
def newController : ControllerStateImmut :=
  ⟨parametrization, ⟨{ client with hpkeKeypair := ⟨⟨0, 0x20, 1, 2, []⟩, []⟩ }⟩⟩

/-- The new controller creates the session 5. -/
def newCreation : List World.Action :=
  .call (.createSession newController.permanent.janusTasksClient fun _ => 0) ::
    exchange 5 .leader 0 0 3 ++ exchange 5 .helper 0 0 3

/-- The new controller starts the task 1 in it. -/
def newStart : List World.Action :=
  .call (.startRound newController.permanent.janusTasksClient (taskId 1) ⟨5⟩) ::
    exchange 5 .leader 1 1 3 ++ exchange 5 .helper 1 1 3

/-- The new controller has created the session 5, undisturbed. -/
def hasNewSession : Process → Bool
  | ⟨.createSession c _, trace, .ret (.ok id), _⟩ =>
    c = newController.permanent.janusTasksClient && id = ⟨5⟩ && trace.all undisturbed
  | _ => false

/-- The call of the new controller that starts the task 1 has ended undisturbed. -/
def hasNewRound : Process → Bool
  | ⟨.startRound c t id, trace, .ret _, _⟩ =>
    c = newController.permanent.janusTasksClient && t = taskId 1 && id = ⟨5⟩ && trace.all undisturbed
  | _ => false

end Sample

theorem World.protocol_succeeds_sample :
    apiNewControllerState .plain Sample.drawn Sample.parametrization = .ok Sample.newController ∧
      ∃ w managerLocations calls trace state pending,
        Run.after (World.step .plain) Sample.world
          (Sample.newCreation ++ (Sample.newStart ++ Sample.twoSubmissions)) = some w ∧
        w.Collectable .plain Sample.newController Sample.vdafParameter (Sample.taskId 1) ∧
        w.processes[2]? = some ⟨.clientState managerLocations calls, trace, .ret state, pending⟩ ∧
        (uploads trace).length = 1 ∧
        uploads trace = calls.flatMap fun call => call.report
          ⟨⟨Sample.config.mainLocations, managerLocations⟩, Sample.vdafParameter⟩ := by
  obtain ⟨w₀, hrun₀, hcheck₀⟩ := Option.any_eq_true _ _ |>.mp
    (by decide +kernel : (Run.after (World.step .plain) Sample.world Sample.newCreation).any
      (fun w => w.processes[0]?.any Sample.hasNewSession && w.processes.length = 1 &&
        decide (Run.Along (World.step .plain) (fun _ a => a.Healthy) w Sample.newStart) &&
        (Run.after (World.step .plain) w Sample.newStart).any fun w =>
          w.processes[1]?.any Sample.hasNewRound && w.processes.length = 2 &&
          (Run.after (World.step .plain) w Sample.twoSubmissions).any
            fun w => w.processes[2]?.any Sample.hasSubmitted) = true)
  simp only [Bool.and_eq_true] at hcheck₀
  obtain ⟨⟨⟨hsession, hlength₀⟩, hhealthy⟩, hcheck₁⟩ := hcheck₀
  obtain ⟨w₁, hrun₁, hcheck₁⟩ := Option.any_eq_true _ _ |>.mp hcheck₁
  simp only [Bool.and_eq_true] at hcheck₁
  obtain ⟨⟨hround, hlength₁⟩, hcheck₂⟩ := hcheck₁
  obtain ⟨w, hrun₂, hcheck₂⟩ := Option.any_eq_true _ _ |>.mp hcheck₂
  obtain ⟨process₀, hget₀, hsession⟩ := Option.any_eq_true _ _ |>.mp hsession
  obtain ⟨process₁, hget₁, hround⟩ := Option.any_eq_true _ _ |>.mp hround
  obtain ⟨process₂, hget₂, hsubmitted⟩ := Option.any_eq_true _ _ |>.mp hcheck₂
  have hfresh : Run.Along (World.step .plain) (World.Action.Fresh .plain) Sample.world
      (Sample.newCreation ++ (Sample.newStart ++ Sample.twoSubmissions)) := by decide +kernel
  have hspares : Run.Along (World.step .plain) (World.Action.Spares ⟨5⟩) Sample.world
      (Sample.newCreation ++ (Sample.newStart ++ Sample.twoSubmissions)) := by decide +kernel
  have hinit : apiNewControllerState .plain Sample.drawn Sample.parametrization =
      .ok Sample.newController := rfl
  have hdrawn : Sample.drawn.Accepted .plain := ⟨⟨_, rfl⟩, ⟨_, rfl⟩⟩
  refine ⟨hinit, w, ?_⟩
  unfold Sample.hasNewSession at hsession
  split at hsession
  · rename_i creator random trace₀ id pending₀
    unfold Sample.hasNewRound at hround
    split at hround
    · rename_i starter t id' trace₁ result pending₁
      unfold Sample.hasSubmitted at hsubmitted
      split at hsubmitted
      · rename_i managerLocations calls trace state pending
        simp only [Bool.and_eq_true, decide_eq_true_eq] at hsession hround hsubmitted
        obtain ⟨⟨rfl, rfl⟩, hundisturbed₀⟩ := hsession
        obtain ⟨⟨⟨rfl, rfl⟩, rfl⟩, hundisturbed₁⟩ := hround
        obtain ⟨⟨hfirst, hundisturbed⟩, hone⟩ := hsubmitted
        have htasks : Janus.plain.AcceptsTasks := fun _ _ _ _ _ _ => ⟨_, rfl⟩
        obtain ⟨id, hid, hrounds⟩ := World.protocol_succeeds Janus.plain_faithful
          Janus.plain_generatesKeys Janus.plain_keepsTokens htasks rfl hdrawn rfl hinit hrun₀ hrun₁
          hrun₂ hfresh ⟨⟨pending₀, hget₀⟩, fun e he => List.all_eq_true.mp hundisturbed₀ e he⟩
        cases hid
        obtain ⟨-, hcollectable, hsubmissions⟩ := hrounds hspares (of_decide_eq_true hhealthy) 1
          (Sample.taskId 1) trace₁ result (of_decide_eq_true hlength₀).le
          ⟨⟨pending₁, hget₁⟩, fun e he => List.all_eq_true.mp hundisturbed₁ e he⟩
        refine ⟨managerLocations, calls, trace, state, pending, ?_, hcollectable, hget₂, hone, ?_⟩
        · rw [Run.after_append hrun₀, Run.after_append hrun₁]
          exact hrun₂
        · exact hsubmissions 2 managerLocations calls trace state (of_decide_eq_true hlength₁).le
            ⟨⟨pending, hget₂⟩, fun e he => List.all_eq_true.mp hundisturbed e he⟩
            fun call hcall => of_decide_eq_true (Option.all_eq_true _ _ |>.mp hfirst call hcall)
      · cases hsubmitted
    · cases hround
  · cases hsession
