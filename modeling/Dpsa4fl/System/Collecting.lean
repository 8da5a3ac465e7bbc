-- SUMMARY: A controller can collect every round of its session: the aggregators know its token, encrypt for its key and use its VDAF.
import Dpsa4fl.Controller.LeaderUrls
import Dpsa4fl.JanusManager.WireFormat
import Dpsa4fl.System.Creating

/-!
# Collecting a round

The managers get the collector's token and HPKE configuration when the session is
created, and the task gets them from the session when a round is started. The
controller itself passes them to its collector only when it collects. The
aggregators answer it if the two still fit together.
-/

/-- The leader answers this collector with the aggregate of the task: it knows the
bytes of its token, the shares are encrypted for its key, and the collector decodes
them as the instance of the task does. -/
structure Collector.Authorized (J : Janus) (collector : Collector) (task : AggregatorTask) :
    Prop where
  taskId : task.id = collector.taskId
  parameters : ∃ aggregatorAuthToken token, task.aggregatorParameters =
      .leader aggregatorAuthToken (J.authenticationTokenHash token) collector.hpkeKeypair.config ∧
    token.asRef = collector.authenticationToken.asRef
  vdaf : ∃ dpStrategy, task.vdaf = .prio3FixedPointBoundedL2VecSum collector.vdafCollector.length
    collector.vdafCollector.fixedType.bitsize dpStrategy

/-! ## The collector of a controller -/

/-- Only this collector queries the leader. -/
def CollectOp.Collects (collector : Collector) : CollectOp → Prop
  | .collect collector' _ => collector' = collector
  | _ => True

section
variable {κ : Type} {J : Janus} {T : JanusTime} {build : Build} {client : JanusManagerClient}
  {taskId : TaskId}

theorem Collecting.collects_lift {α : Type} (collector : Collector) (result : Except Failure α) :
    (Collecting.lift result : Collecting κ α).All (CollectOp.Collects collector) := by
  cases result <;> trivial

theorem Collecting.collects_perform {collector : Collector} {op : CollectOp}
    (h : op.Collects collector) :
    (Script.perform op : Collecting κ (CollectAns κ op)).All (CollectOp.Collects collector) :=
  ⟨h, fun _ => trivial⟩

theorem JanusManagerClient.collectGeneric_collects (Fx : Type) [CompatibleFloat Fx] :
    (client.collectGeneric J T build Fx taskId : Collecting κ κ).All
      (CollectOp.Collects (client.collector Fx taskId)) := by
  unfold collectGeneric
  refine (Collecting.collects_lift _ _).bind fun _ => ?_
  refine (Collecting.collects_perform (by trivial)).bind fun created => ?_
  refine (Collecting.collects_lift _ _).bind fun _ => ?_
  refine (Collecting.collects_perform (by trivial)).bind fun clock => ?_
  refine (Collecting.collects_lift _ _).bind fun start => ?_
  refine (Collecting.collects_lift _ _).bind fun realStart => ?_
  refine (Collecting.collects_lift _ _).bind fun _ => ?_
  refine (Collecting.collects_lift _ _).bind fun _ => ?_
  refine (Collecting.collects_lift _ _).bind fun interval => ?_
  exact (Collecting.collects_perform (by rfl)).bind fun result => Collecting.collects_lift _ _

/-- The collector of a round, with the numbers that the parameters name. -/
def JanusManagerClient.roundCollector (self : JanusManagerClient) (taskId : TaskId) : Collector :=
  { self.collector Fixed16 taskId with
    vdafCollector := ⟨self.vdafParameter.submissionType, 2, self.vdafParameter.gradientLen⟩ }

theorem JanusManagerClient.collect_collects :
    (client.collect J T build taskId : Collecting κ κ).All
      (CollectOp.Collects (client.roundCollector taskId)) := by
  unfold collect roundCollector
  split
  · rename_i htype
    rw [htype]
    exact collectGeneric_collects Fixed16
  · rename_i htype
    rw [htype]
    exact collectGeneric_collects Fixed32

theorem apiCollect_collects {istate : ControllerStateImmut} {mstate : ControllerStateMut}
    (htask : mstate.round.taskId = some taskId) :
    (apiCollect (κ := κ) J T build istate mstate).All
      (CollectOp.Collects (istate.permanent.janusTasksClient.roundCollector taskId)) := by
  unfold apiCollect
  rw [htask]
  exact JanusManagerClient.collect_collects.attempt.bind fun _ => trivial

end

/-! ## The session of a controller -/

/-- A session is created only if both managers have accepted it with its id. -/
theorem JanusManagerClient.follows_createSession {J : Janus} {client : JanusManagerClient}
    {random : Nat → UInt8} {es : List Exchange} {id : TrainingSessionId}
    (h : Script.Follows (client.createSession J random) es (.ret id)) :
    es = [⟨.manager .leader
        (.createSession (client.makeRequest (client.verifyKey J random) .leader none)),
        .ok (.ok (.createSession id))⟩,
      ⟨.manager .helper
        (.createSession (client.makeRequest (client.verifyKey J random) .helper (some id))),
        .ok (.ok (.createSession id))⟩] := by
  unfold createSession at h
  rcases Net.follows_post h with ⟨-, hret⟩ | ⟨e, -, hret⟩ | ⟨r, es₁, rfl, h₁⟩
  · cases hret
  · cases hret
  · rcases createdSession_cases "leader" r with ⟨leaderId, rfl⟩ | ⟨e, he⟩
    · rw [createdSession_ok, Script.ret_bind] at h₁
      rcases Net.follows_post h₁ with ⟨-, hret⟩ | ⟨e, -, hret⟩ | ⟨r', es₂, rfl, h₂⟩
      · cases hret
      · cases hret
      · rcases createdSession_cases "helper" r' with ⟨helperId, rfl⟩ | ⟨e, he⟩
        · rw [createdSession_ok, Script.ret_bind] at h₂
          split at h₂
          · rename_i heq
            obtain ⟨rfl, hret⟩ := Script.Follows.ret_iff.mp h₂
            cases hret
            rw [heq]
          · cases (Script.Follows.fail_iff.mp h₂).2
        · rw [he] at h₂
          cases (Script.Follows.fail_iff.mp h₂).2
    · rw [he] at h₁
      cases (Script.Follows.fail_iff.mp h₁).2

/-- A session of the leader's manager that was made of this request builds tasks that
the controller can collect. -/
theorem TrainingSession.Builds.authorized {J : Janus} (hJ : J.Faithful) (htokens : J.KeepsTokens)
    {client : JanusManagerClient} {verifyKey : SecretBytes} {secrets : SessionSecrets}
    (hsecrets : createSessionSecrets J (client.makeRequest verifyKey .leader none) = .ok secrets)
    {keypair : HpkeKeypair} {s : TrainingSession}
    (hgrows : ((client.makeRequest verifyKey .leader none).session secrets keypair).Grows s)
    {config : TaskProvisionerConfig} {taskId : TaskId} {task : AggregatorTask}
    (hbuilds : s.Builds J config taskId task) :
    (client.roundCollector taskId).Authorized J task := by
  obtain ⟨⟨bytes, hbytes, htoken⟩, -, -⟩ := createSessionSecrets_eq_ok.mp hsecrets
  simp only [JanusManagerClient.makeRequest, Base64Url.decode_encode, Except.ok.injEq] at hbytes
  subst hbytes
  have hbuilt := hgrows.builds_iff.mp hbuilds
  obtain ⟨params, hparams, heq⟩ := hbuilt.eq hJ
  rcases taskParams_role hparams with ⟨-, rfl⟩ | ⟨hrole, -⟩
  · refine ⟨hbuilt.id_eq hJ, ?_, ?_⟩
    · rw [heq]
      exact ⟨_, _, rfl, htokens htoken⟩
    · rw [heq]
      exact ⟨_, rfl⟩
  · cases hrole

namespace World

variable {J : Janus} {w : World} {id : TrainingSessionId} {taskId : TaskId}
  {client : JanusManagerClient}

/-- A round that was started has left tasks at both aggregators that fit together. -/
theorem Agreeing.agreed (hw : w.Agreeing J) {j : Nat} {trace : List Exchange} {t : TaskId}
    {pending : Option Nat}
    (hstarted : w.processes[j]? =
      some ⟨.startRound client taskId id, trace, .ret (.ok t), pending⟩) : w.Agreed J t := by
  have hfollows := (hw.regular.sound.traced j _ hstarted).follows.attempt_ok
  obtain ⟨rfl, request, response, response', htrace⟩ :=
    JanusManagerClient.follows_startRound hfollows
  exact (hw.matched j _ hstarted).finished rfl htrace

/-- The manager of the leader has answered the creation of this controller. -/
theorem Traced.answered_createSession (hw : w.Traced J) {i : Nat} {random : Nat → UInt8}
    {trace : List Exchange} {pending : Option Nat}
    (hcreated : w.processes[i]? =
      some ⟨.createSession client random, trace, .ret (.ok id), pending⟩) :
    w.leader.Answered (.createSession (client.makeRequest (client.verifyKey J random) .leader none))
      (.createSession id) := by
  apply (hw i _ hcreated).answered .leader
  rw [show trace = _ from JanusManagerClient.follows_createSession
    (hw i _ hcreated).follows.attempt_ok]
  exact List.mem_cons_self

/-- Where the controller's session was never ended, the task of a round that was started
in it is one that the controller can collect. -/
theorem Distinct.authorized (hJ : J.Faithful) (htokens : J.KeepsTokens) (hw : w.Distinct J)
    (hholds : w.leader.Holds J id) {verifyKey : SecretBytes}
    (hcreated : w.leader.Answered (.createSession (client.makeRequest verifyKey .leader none))
      (.createSession id))
    {j : Nat} {client' : JanusManagerClient} {trace : List Exchange} {pending : Option Nat}
    (hstarted : w.processes[j]? =
      some ⟨.startRound client' taskId id, trace, .ret (.ok taskId), pending⟩)
    {leader : AggregatorTask}
    (hleader : w.leader.provisioner.datastore.lookup taskId = some leader) :
    (client.roundCollector taskId).Authorized J leader := by
  have htraced := hw.agreeing.regular.sound.traced
  -- the session is the one that the controller has created
  obtain ⟨k, hk⟩ := hcreated
  obtain ⟨s, secrets, keypair, hs, hsecrets, hgrows⟩ := hholds.sessions k _ hk
  -- the task was built by this session
  obtain ⟨-, request, response, response', htrace⟩ := JanusManagerClient.follows_startRound
    (htraced j _ hstarted).follows.attempt_ok
  obtain ⟨r', heq⟩ := (htraced j _ hstarted).first_exchange rfl htrace
  simp only [Sigma.mk.injEq, Op.manager.injEq, true_and] at heq
  obtain ⟨rfl, -⟩ := heq
  obtain ⟨k', hk'⟩ := (htraced j _ hstarted).answered .leader _ response
    (by rw [show trace = _ from htrace]; exact List.mem_cons_self)
  obtain ⟨s', task, hs', hstored, hbuilds⟩ := hholds.rounds k' _ taskId hk'
    ⟨rfl, taskIdFromString_toString taskId⟩
  obtain rfl := Option.some.inj (hs.symm.trans hs')
  obtain rfl := Option.some.inj (hleader.symm.trans hstored)
  exact hbuilds.authorized hJ htokens hsecrets hgrows

/-- Task ids are fresh, no session id is drawn while it is in use, and a session is
never ended. Whoever has started a round in it with `Ok`: the collector with which its
controller queries the leader for the round fits the task of the leader, and the tasks of
leader and helper fit together. -/
theorem rounds_collectable (hJ : J.Faithful) (htokens : J.KeepsTokens)
    {leaderConfig helperConfig : TaskProvisionerConfig} {as : List Action}
    (hrun : Run.after (step J) (start ∅ ∅ leaderConfig helperConfig) as = some w)
    (hfresh : Run.Along (step J) (Action.Fresh J) (start ∅ ∅ leaderConfig helperConfig) as)
    (hspares : Run.Along (step J) (Action.Spares id) (start ∅ ∅ leaderConfig helperConfig) as)
    {i : Nat} {random : Nat → UInt8} {trace : List Exchange} {pending : Option Nat}
    (hcreated : w.processes[i]? =
      some ⟨.createSession client random, trace, .ret (.ok id), pending⟩)
    {j : Nat} {client' : JanusManagerClient} {trace' : List Exchange} {pending' : Option Nat}
    (hstarted : w.processes[j]? =
      some ⟨.startRound client' taskId id, trace', .ret (.ok taskId), pending'⟩)
    {κ : Type} {T : JanusTime} {build : Build} {istate : ControllerStateImmut}
    {mstate : ControllerStateMut} (hclient : istate.permanent.janusTasksClient = client)
    (hround : mstate.round.taskId = some taskId)
    {es : List (Script.Exchange CollectOp (CollectAns κ))}
    {m' : Script CollectOp (CollectAns κ) Empty (Except Failure κ × ControllerStateMut)}
    (hcollect : Script.Follows (apiCollect J T build istate mstate) es m') {collector : Collector}
    {interval : BatchInterval} {r : Except Error κ} (hmem : ⟨.collect collector interval, r⟩ ∈ es) :
    ∃ leader helper, w.leader.provisioner.datastore.lookup taskId = some leader ∧
      w.helper.provisioner.datastore.lookup taskId = some helper ∧ leader.Agrees J helper ∧
      collector.Authorized J leader := by
  have hdistinct : w.Distinct J := distinct_run hJ hrun hfresh
  have hholds : w.leader.Holds J id := holds_run hJ hrun hfresh hspares .leader
  obtain ⟨leader, helper, hleader, hhelper, hagrees⟩ := hdistinct.agreeing.agreed hstarted
  refine ⟨leader, helper, hleader, hhelper, hagrees, ?_⟩
  -- the collector is the one of the controller
  obtain rfl : collector = client.roundCollector taskId :=
    hclient ▸ (apiCollect_collects hround).of_follows hcollect _ hmem
  exact hdistinct.authorized hJ htokens hholds
    (hdistinct.agreeing.regular.sound.traced.answered_createSession hcreated) hstarted hleader

end World

namespace Sample

/-- The controller of the samples has created the session 5. -/
def hasSession : Process → Bool
  | ⟨.createSession c _, _, .ret (.ok id), _⟩ => c = client && id = ⟨5⟩
  | _ => false

/-- The task 1 was started in the session 5. -/
def hasRound : Process → Bool
  | ⟨.startRound _ t id, _, .ret (.ok t'), _⟩ => t = taskId 1 && id = ⟨5⟩ && t' = taskId 1
  | _ => false

end Sample

theorem World.rounds_collectable_sample :
    ∃ w leader helper, Run.after (World.step .plain) Sample.world Sample.oneRound = some w ∧
      w.leader.provisioner.datastore.lookup (Sample.taskId 1) = some leader ∧
      w.helper.provisioner.datastore.lookup (Sample.taskId 1) = some helper ∧
      leader.Agrees .plain helper ∧
      (Sample.client.roundCollector (Sample.taskId 1)).Authorized .plain leader := by
  obtain ⟨w, hrun, hcheck⟩ := Option.any_eq_true _ _ |>.mp
    (by decide +kernel : (Run.after (World.step .plain) Sample.world Sample.oneRound).any
      (fun w => w.processes[0]?.any Sample.hasSession && w.processes[1]?.any Sample.hasRound) = true)
  have hfresh : Run.Along (World.step .plain) (World.Action.Fresh .plain) Sample.world
      Sample.oneRound := by decide +kernel
  have hspares : Run.Along (World.step .plain) (World.Action.Spares ⟨5⟩) Sample.world
      Sample.oneRound := by decide +kernel
  obtain ⟨hsession, hround⟩ := Bool.and_eq_true _ _ |>.mp hcheck
  obtain ⟨p, hget, hsession⟩ := Option.any_eq_true _ _ |>.mp hsession
  obtain ⟨p', hget', hround⟩ := Option.any_eq_true _ _ |>.mp hround
  unfold Sample.hasSession at hsession
  split at hsession
  · unfold Sample.hasRound at hround
    split at hround
    · simp only [Bool.and_eq_true, decide_eq_true_eq] at hsession hround
      obtain ⟨rfl, rfl⟩ := hsession
      obtain ⟨⟨rfl, rfl⟩, rfl⟩ := hround
      have hcollect : Script.Follows
          (apiCollect .plain .plain .debug Sample.collecting Sample.startedRound)
          (Sample.collected 100000) _ := Sample.follows_collected (by decide)
      obtain ⟨leader, helper, hstored⟩ := World.rounds_collectable Janus.plain_faithful
        Janus.plain_keepsTokens hrun hfresh hspares hget hget' rfl rfl hcollect
        (.tail _ (.tail _ (.head _)))
      exact ⟨w, leader, helper, hrun, hstored⟩
    · cases hround
  · cases hsession
