-- SUMMARY: A started round has the same terms at both aggregators, as long as no session id is drawn while it is in use.
import Dpsa4fl.System.Uses

/-!
# Agreement on a round

The two managers agree on a round only because both have made its task for the
terms that they have under one session id. So a world must not have two terms
under an id, and it gets a second one only when a manager draws an id that is
in use.
-/

/-! ## Tasks that fit together -/

/-- The tasks of leader and helper have what they need in common, and the helper
knows the token of the leader. -/
structure AggregatorTask.Agrees (J : Janus) (leader helper : AggregatorTask) : Prop where
  verifyKey : leader.opaqueVdafVerifyKey = helper.opaqueVdafVerifyKey
  vdaf : leader.vdaf = helper.vdaf
  collectorHpkeConfig : leader.collectorHpkeConfig = helper.collectorHpkeConfig
  leaderRole : leader.role = .leader
  helperRole : helper.role = .helper
  authToken : ∃ token hash, leader.aggregatorParameters =
      .leader token hash leader.collectorHpkeConfig ∧
    helper.aggregatorParameters =
      .helper (J.authenticationTokenHash token) helper.collectorHpkeConfig

theorem AggregatorTask.Carries.agrees {J : Janus} {p : Terms} {leader helper : AggregatorTask}
    (h : leader.Carries J p .leader) (h' : helper.Carries J p .helper) :
    leader.Agrees J helper := by
  cases h with
  | leader hvdaf hkey hparameters =>
  cases h' with
  | helper hvdaf' hkey' hparameters' =>
      have hconfig : leader.collectorHpkeConfig = p.collectorHpkeConfig := by
        simp only [AggregatorTask.collectorHpkeConfig, hparameters]
      have hconfig' : helper.collectorHpkeConfig = p.collectorHpkeConfig := by
        simp only [AggregatorTask.collectorHpkeConfig, hparameters']
      refine ⟨hkey.trans hkey'.symm, hvdaf.trans hvdaf'.symm, hconfig.trans hconfig'.symm, ?_, ?_, ?_⟩
      · simp only [AggregatorTask.role, hparameters]
      · simp only [AggregatorTask.role, hparameters']
      · rw [hconfig, hconfig']
        exact ⟨_, _, hparameters, hparameters'⟩

namespace World

variable {J : Janus} {w w' : World} {taskId : TaskId} {task : AggregatorTask}

/-- The leader has stored a task under this id, for the terms that the helper's
`task` was made for. -/
def Matches (J : Janus) (w : World) (taskId : TaskId) (task : AggregatorTask) : Prop :=
  ∃ leader p, w.leader.provisioner.datastore.lookup taskId = some leader ∧
    leader.Carries J p .leader ∧ task.Carries J p .helper

/-- Both aggregators have stored tasks under this id that fit together. -/
def Agreed (J : Janus) (w : World) (taskId : TaskId) : Prop :=
  ∃ leader helper, w.leader.provisioner.datastore.lookup taskId = some leader ∧
    w.helper.provisioner.datastore.lookup taskId = some helper ∧ leader.Agrees J helper

theorem Matches.mono (h : w.Matches J taskId task) {a : Action} (hmove : w.Moves J a w') :
    w'.Matches J taskId task := by
  obtain ⟨leader, p, hstored, hcarries⟩ := h
  exact ⟨leader, p, hmove.extends_datastore .leader _ _ hstored, hcarries⟩

theorem Matches.agreed (h : w.Matches J taskId task)
    (hstored : w.helper.provisioner.datastore.lookup taskId = some task) : w.Agreed J taskId := by
  obtain ⟨leader, p, hleader, hcarries, hcarries'⟩ := h
  exact ⟨leader, task, hleader, hstored, hcarries.agrees hcarries'⟩

theorem Agreed.mono (h : w.Agreed J taskId) {a : Action} (hmove : w.Moves J a w') :
    w'.Agreed J taskId := by
  obtain ⟨leader, helper, hleader, hhelper, hagrees⟩ := h
  exact ⟨leader, helper, hmove.extends_datastore .leader _ _ hleader,
    hmove.extends_datastore .helper _ _ hhelper, hagrees⟩

/-! ## One terms for each id -/

/-- No session id has two different terms. -/
def Consistent (J : Janus) (w : World) : Prop :=
  ∀ id p p', w.Uses J id p → w.Uses J id p' → p = p'

/-- An id that a manager draws in this step is not in use. -/
def Action.FreshDraw (J : Janus) (w : World) (a : Action) : Prop :=
  ∀ draw ∈ w.draw J a, w.inUse draw.1 = false

instance (J : Janus) (w : World) (a : Action) : Decidable (a.FreshDraw J w) := by
  unfold Action.FreshDraw
  infer_instance

theorem consistent_start (J : Janus) (leaderDatastore helperDatastore : Datastore)
    (leaderConfig helperConfig : TaskProvisionerConfig) :
    (start leaderDatastore helperDatastore leaderConfig helperConfig).Consistent J := by
  intro id p p' h
  have hin := h.inUse
  simp [start, World.inUse, Manager.uses, Manager.new, TaskProvisioner.new] at hin

theorem Consistent.step (hregular : w.Regular J) (hw : w.Consistent J) {a : Action}
    (h : w.step J a = some w') (ha : a.FreshDraw J w) : w'.Consistent J := by
  -- a drawn id is not one of those that have terms already
  have hfresh : ∀ id p p', w.Uses J id p → w.draw J a ≠ some (id, p') := by
    intro id p p' hp hdraw
    have hfree := ha (id, p') hdraw
    rw [hp.inUse] at hfree
    cases hfree
  intro id p p' hp hp'
  rcases hp.back hregular h with hold | hdraw
  · rcases hp'.back hregular h with hold' | hdraw'
    · exact hw id p p' hold hold'
    · exact (hfresh id p p' hold hdraw').elim
  · rcases hp'.back hregular h with hold' | hdraw'
    · exact (hfresh id p' p hold' hdraw).elim
    · rw [hdraw] at hdraw'
      cases hdraw'
      rfl

end World

/-! ## From the leader's manager to the helper's -/

/-- What the thread of the helper's manager knows of a round that the leader's
has accepted. -/
def Thread.Matched (J : Janus) (w : World) (taskId : TaskId) : Thread → Prop
  | transaction _ _ task => w.Matches J taskId task
  | record _ _ => w.Agreed J taskId
  | answered _ (.ok _) => w.Agreed J taskId
  | _ => True

theorem Thread.Matched.mono {J : Janus} {w w' : World} {taskId : TaskId} {thread : Thread}
    (h : thread.Matched J w taskId) {a : World.Action} (hmove : w.Moves J a w') :
    thread.Matched J w' taskId := by
  unfold Thread.Matched at h ⊢
  split at h
  · exact World.Matches.mono h hmove
  · exact World.Agreed.mono h hmove
  · exact World.Agreed.mono h hmove
  · trivial

/-- A round that the helper's manager has accepted after the leader's is agreed on. -/
structure Process.Matched (J : Janus) (w : World) (process : Process) : Prop where
  pending : ∀ {client : JanusManagerClient} {taskId : TaskId} {id : TrainingSessionId}
    {server : ManagerServer} {request : Request} {response : Response} {k : Nat} {thread : Thread},
    process.call = .startRound client taskId id →
    process.trace = [⟨.manager server request, .ok (.ok response)⟩] → process.pending = some k →
    w.helper.threads[k]? = some thread → thread.Matched J w taskId
  finished : ∀ {client : JanusManagerClient} {taskId : TaskId} {id : TrainingSessionId}
    {server server' : ManagerServer} {request request' : Request} {response response' : Response},
    process.call = .startRound client taskId id →
    process.trace = [⟨.manager server request, .ok (.ok response)⟩,
      ⟨.manager server' request', .ok (.ok response')⟩] → w.Agreed J taskId

namespace World

variable {J : Janus} {w w' : World} {i : Nat} {process : Process} {client : JanusManagerClient}
  {taskId : TaskId} {id : TrainingSessionId}

/-- A step of the helper's manager in a round that the leader's has accepted. -/
theorem Regular.matched_thread (hJ : J.Faithful) (hw : w.Regular J) (hconsistent : w.Consistent J)
    {a : Action} (hmove : w.Moves J a w') (hget : w.processes[i]? = some process)
    (hcall : process.call = .startRound client taskId id) {server : ManagerServer}
    {request : Request} {response : Response} {k : Nat} {thread thread' : Thread}
    (htrace : process.trace = [⟨.manager server request, .ok (.ok response)⟩])
    (hpending : process.pending = some k) (hk : (w.manager .helper).threads[k]? = some thread)
    (hk' : (w'.manager .helper).threads[k]? = some thread')
    (hrequest : thread.request = .startRound ⟨id, taskIdToString taskId⟩)
    (hmatched : thread.Matched J w taskId) : thread'.Matched J w' taskId := by
  rcases hmove.thread_cases hk hk' with rfl | rfl | ⟨ω, hr⟩
  · exact hmatched.mono hmove
  · trivial
  · have hres := hr.resumes
    generalize hp' : (w'.manager .helper).provisioner = p' at hres
    cases hres with
    | @built q s t task _ hlive hdecode hbuilds =>
        -- the session has the terms that the leader's manager has made its task for
        cases hrequest
        obtain rfl := eq_of_taskIdFromString hdecode
        have hopen : process.openRound w = some id := by
          simp only [Process.openRound, hcall, htrace, hpending]
          rw [show w.helper.threads[k]? = _ from hk]
        obtain ⟨leader, p, hstored, hcarries⟩ := hw.openRound_stored hget hcall hopen
        have hterms : p = s.terms J :=
          hconsistent id _ _ (.started hget hcall hopen hstored hcarries)
            (.manager (.live hlive rfl))
        have hcarries' := hbuilds.carries hJ
        rw [(hw.inRole .helper).sessions _ s hlive] at hcarries'
        exact Matches.mono ⟨leader, p, hstored, hcarries, hterms ▸ hcarries'⟩ hmove
    | @provisioned q t task datastore =>
        cases hrequest
        obtain ⟨hdecode, -⟩ := (hw.sound.coherent .helper).threads k _ hk
        obtain rfl := eq_of_taskIdFromString hdecode
        obtain ⟨-, -, -, hstored, -⟩ := Manager.provisioned_carries hJ (hw.sound.coherent .helper)
          (hw.fresh.manager .helper) (hw.inRole .helper) hr
        exact (Matches.mono hmatched hmove).agreed hstored
    | recorded => exact Agreed.mono hmatched hmove
    | inserted => cases hrequest
    | ended => cases hrequest
    | found => cases hrequest
    | located => cases hrequest
    | _ => trivial

/-- What holds in every run in which the started rounds have fresh task ids and
the drawn session ids are not in use. -/
structure Agreeing (J : Janus) (w : World) : Prop where
  regular : w.Regular J
  consistent : w.Consistent J
  matched : ∀ (i : Nat) (process : Process), w.processes[i]? = some process → process.Matched J w

theorem agreeing_start (J : Janus) (leaderConfig helperConfig : TaskProvisionerConfig) :
    (start ∅ ∅ leaderConfig helperConfig).Agreeing J where
  regular := regular_start J _ _
  consistent := consistent_start J _ _ _ _
  matched := by intro i process hi; cases hi

theorem Agreeing.matched_step (hJ : J.Faithful) (hw : w.Agreeing J) {a : Action}
    (hmove : w.Moves J a w') (hget : w'.processes[i]? = some process) : process.Matched J w' where
  pending := by
    intro client taskId id server request response k thread' hcall htrace hpending hk'
    obtain ⟨process₀, server', hget₀, hcall₀, htrace₀, hcases⟩ :=
      hw.regular.sound.pending_back hmove hget hpending
    rw [hcall] at hcall₀
    rw [htrace] at htrace₀
    rcases hcases with ⟨hpending₀, thread, hk, hsends⟩ | ⟨-, request', hk, hsends⟩
    · obtain ⟨rfl, hrequest⟩ := hsends.second_of_startRound hcall₀ htrace₀
      exact hw.regular.matched_thread hJ hw.consistent hmove hget₀ hcall₀ htrace₀ hpending₀ hk hk'
        hrequest ((hw.matched i process₀ hget₀).pending hcall₀ htrace₀ hpending₀ hk)
    · -- the request to the helper's manager has just arrived
      obtain ⟨rfl, -⟩ := hsends.second_of_startRound hcall₀ htrace₀
      rw [show w'.helper.threads[k]? = _ from hk] at hk'
      cases hk'
      trivial
  finished := by
    intro client taskId id server server' request request' response response' hcall htrace
    obtain ⟨process₀, hget₀, hcall₀, hcases⟩ := hw.regular.sound.accepted_back hmove hget
      [⟨.manager server request, .ok (.ok response)⟩] htrace
    rw [hcall] at hcall₀
    have hmatched := hw.matched i process₀ hget₀
    rcases hcases with ⟨htrace₀, -⟩ | ⟨htrace₀, hsends, k, request'', hpending₀, hk⟩
    · exact (hmatched.finished hcall₀ (htrace₀.trans htrace)).mono hmove
    · -- the answer of the helper's manager has just been received
      obtain ⟨rfl, -⟩ := hsends.second_of_startRound hcall₀ htrace₀
      have hagreed : w.Agreed J taskId := hmatched.pending hcall₀ htrace₀ hpending₀ hk
      exact hagreed.mono hmove

theorem Agreeing.step (hJ : J.Faithful) (hw : w.Agreeing J) {a : Action}
    (h : w.step J a = some w') (htask : a.FreshTask w) (hdraw : a.FreshDraw J w) :
    w'.Agreeing J where
  regular := hw.regular.step hJ h htask
  consistent := hw.consistent.step hw.regular h hdraw
  matched := fun _ _ hget => hw.matched_step hJ (step_moves h) hget

/-- Fresh task ids, and session ids that are not in use when they are drawn. -/
def Action.Fresh (J : Janus) (w : World) (a : Action) : Prop := a.FreshTask w ∧ a.FreshDraw J w

instance (J : Janus) (w : World) (a : Action) : Decidable (a.Fresh J w) :=
  inferInstanceAs (Decidable (_ ∧ _))

/-- Both managers start with empty datastores, every round is started with a
fresh task id, and no session id is drawn while it is in use. Then, whenever
`start_round` has returned `Ok`, both aggregators have tasks for the round that
fit together. -/
theorem round_agreement (hJ : J.Faithful) {leaderConfig helperConfig : TaskProvisionerConfig}
    {as : List Action} (hrun : Run.after (step J) (start ∅ ∅ leaderConfig helperConfig) as = some w)
    (hfresh : Run.Along (step J) (Action.Fresh J) (start ∅ ∅ leaderConfig helperConfig) as)
    {t : TaskId} {trace : List Exchange} {pending : Option Nat}
    (hget : w.processes[i]? =
      some ⟨.startRound client taskId id, trace, .ret (.ok t), pending⟩) :
    w.Agreed J t := by
  have hw : w.Agreeing J := by
    apply Run.invariant_of _ (agreeing_start J _ _) hrun hfresh
    rintro s a s' hs ⟨htask, hdraw⟩ hstep
    exact hs.step hJ hstep htask hdraw
  have hfollows := (hw.regular.sound.traced i _ hget).follows.attempt_ok
  obtain ⟨rfl, request, response, response', htrace⟩ :=
    JanusManagerClient.follows_startRound hfollows
  exact (hw.matched i _ hget).finished rfl htrace

end World

namespace Sample

/-- The process has started the round of the task 1. -/
def hasStarted (process : Process) : Bool :=
  match process with
  | ⟨.startRound _ _ _, _, .ret (.ok t), _⟩ => t = taskId 1
  | _ => false

/-- The leader's manager draws the id 5 for two controllers, whose verify keys
differ. The helper's manager refuses the second session, and the first controller
starts the task 1 in the session 5. -/
def drawnTwice : List World.Action :=
  .call (.createSession client fun _ => 0) :: exchange 5 .leader 0 0 3 ++ exchange 5 .helper 0 0 3 ++
    .call (.createSession client fun _ => 1) :: exchange 5 .leader 1 1 3 ++ exchange 5 .helper 1 1 1 ++
    .call (.startRound client (taskId 1) ⟨5⟩) :: exchange 5 .leader 2 2 3 ++ exchange 5 .helper 2 2 3

end Sample

/-- The two aggregators agree on the only round of a single controller. -/
theorem World.round_agreement_sample :
    ∃ w, Run.after (World.step .plain) Sample.world Sample.oneRound = some w ∧
      w.Agreed .plain (Sample.taskId 1) := by
  obtain ⟨w, hrun, hcheck⟩ := Option.any_eq_true _ _ |>.mp
    (by decide +kernel : (Run.after (World.step .plain) Sample.world Sample.oneRound).any
      (fun w => w.processes[1]?.any Sample.hasStarted) = true)
  have hfresh : Run.Along (World.step .plain) (World.Action.Fresh .plain) Sample.world
      Sample.oneRound := by decide +kernel
  obtain ⟨process, hget, hstarted⟩ := Option.any_eq_true _ _ |>.mp hcheck
  unfold Sample.hasStarted at hstarted
  split at hstarted
  · obtain rfl := of_decide_eq_true hstarted
    exact ⟨w, hrun, World.round_agreement Janus.plain_faithful hrun hfresh hget⟩
  · cases hstarted

/-- With fresh task ids alone, a round can be started with different verify keys. -/
theorem World.round_disagreement :
    ∃ w, Run.after (World.step .plain) Sample.world Sample.drawnTwice = some w ∧
      Run.Along (World.step .plain) World.Action.FreshTask Sample.world Sample.drawnTwice ∧
      (∃ (client : JanusManagerClient) (taskId : TaskId) (id : TrainingSessionId)
        (trace : List Exchange) (pending : Option Nat), w.processes[2]? =
          some ⟨.startRound client taskId id, trace, .ret (.ok (Sample.taskId 1)), pending⟩) ∧
      ¬ w.Agreed .plain (Sample.taskId 1) := by
  obtain ⟨w, hrun, hcheck⟩ := Option.any_eq_true _ _ |>.mp
    (by decide +kernel : (Run.after (World.step .plain) Sample.world Sample.drawnTwice).any
      (fun w => w.processes[2]?.any Sample.hasStarted ∧
        (w.leader.provisioner.datastore.lookup (Sample.taskId 1)).map (·.opaqueVdafVerifyKey) ≠
          (w.helper.provisioner.datastore.lookup (Sample.taskId 1)).map (·.opaqueVdafVerifyKey)) =
      true)
  obtain ⟨hstarted, hkeys⟩ := of_decide_eq_true hcheck
  refine ⟨w, hrun, by decide +kernel, ?_, ?_⟩
  · obtain ⟨process, hget, hstarted⟩ := Option.any_eq_true _ _ |>.mp hstarted
    unfold Sample.hasStarted at hstarted
    split at hstarted
    · obtain rfl := of_decide_eq_true hstarted
      exact ⟨_, _, _, _, _, hget⟩
    · cases hstarted
  · rintro ⟨leader, helper, hleader, hhelper, hagrees⟩
    rw [hleader, hhelper, Option.map_some, Option.map_some, hagrees.verifyKey] at hkeys
    exact hkeys rfl
