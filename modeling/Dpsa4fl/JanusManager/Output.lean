-- SUMMARY: What the handlers print, and when two runs that differ in their secrets print the same.
import Dpsa4fl.Library.Run
import Dpsa4fl.JanusManager.Alike
import Dpsa4fl.JanusManager.Panics

/-!
# The output of a manager

`TaskProvisioner.lines` says what a request prints, given whether it is answered
`Ok`. Only one line depends on the secrets of a session: `handle_start_round`
prints both of its tokens before it creates the task.
-/

open Handler Relational

/-! ## What a request prints -/

/-- What `handle_start_round` lets out once it has come as far as creating the
task: the bytes of both tokens, and then the id if the task could be created. -/
structure Disclosure where
  leaderAuthToken : List UInt8
  collectorAuthToken : List UInt8
  taskId : TaskId
  accepted : Bool
deriving DecidableEq

def Disclosure.lines (d : Disclosure) : List String :=
  ("Got training session request with auth token for aggregator: " ++
    toString d.leaderAuthToken ++ ", collector: " ++ toString d.collectorAuthToken) ::
  if d.accepted then ["provisioning task now with id " ++ taskIdToString d.taskId] else []

/-- Nothing is let out of a round whose start fails before that. -/
def TaskProvisioner.disclosed (J : Janus) (ω : Ambient) (p : TaskProvisioner) :
    Request → Option Disclosure
  | .startRound request => do
    let trainingSession ← p.trainingSessions.lookup request.trainingSessionId
    let taskId ← (taskIdFromString request.taskIdEncoded).toOption
    let _elapsed ← ω.elapsed.toOption
    let taskParams ← (trainingSession.taskParams J).toOption
    return {
      leaderAuthToken := trainingSession.leaderAuthToken.asRef
      collectorAuthToken := trainingSession.collectorAuthToken.asRef
      taskId := taskId
      accepted := (J.newAggregatorTask
        (trainingSession.taskArguments J p.config taskId taskParams)).isOk }
  | _ => none

def TaskProvisioner.lines (J : Janus) (ω : Ambient) (p : TaskProvisioner) (ok : Bool) :
    Request → List String
  | .createSession request =>
    if ok then
      ["creating training session with id " ++
        toString (request.trainingSessionId.getD ⟨ω.sessionId⟩)]
    else []
  | .endSession id =>
    if ok then ["Removed session with id " ++ toString id]
    else ["Attempted to remove session with id " ++ toString id ++
      ", but there was no such session."]
  | .startRound request => ((p.disclosed J ω (.startRound request)).map Disclosure.lines).getD []
  | .getVdafParameter _ => []
  | .getMainLocations => []

/-- The step prints nothing. -/
def TaskProvisioner.Silent (p p' : TaskProvisioner) : Prop := p'.stdout = p.stdout

instance : Std.Refl TaskProvisioner.Silent := ⟨fun _ => rfl⟩

instance : IsTrans TaskProvisioner TaskProvisioner.Silent where
  trans _ _ _ h h' := Eq.trans h' h

section
variable {J : Janus} {ω : Ambient} {p p' : TaskProvisioner}

theorem silent_provisionTask (ω : Ambient) (task : AggregatorTask) :
    Within TaskProvisioner.Silent (provisionTask ω task) := by
  intro p
  cases hrun : (provisionTask ω task).run p with
  | ok _ p' =>
      obtain ⟨datastore, -, rfl⟩ := provisionTask_ok hrun
      rfl
  | error e p' =>
      obtain rfl := provisionTask_error hrun
      rfl

theorem silent_startRoundRecord (id : TrainingSessionId) (taskId : TaskId) :
    Within TaskProvisioner.Silent (startRoundRecord id taskId) := by
  refine .modify fun p => ?_
  unfold TaskProvisioner.Silent TaskProvisioner.recordTask
  split <;> rfl

theorem createSessionKeypair_stdout {request : CreateTrainingSessionRequest}
    {id : TrainingSessionId} {secrets : SessionSecrets} {session : TrainingSession}
    (h : (createSessionKeypair J ω request id secrets).run p = .ok session p') :
    p'.stdout = p.stdout ++ ["creating training session with id " ++ toString id] := by
  simp only [createSessionKeypair, EStateM.run_bind, EStateM.run_get, run_lift] at h
  cases hkey : p.keyring.fetchKeypair J ω.keypairSeed ω.keypairId with
  | ok pair =>
      rw [hkey] at h
      cases h
      rfl
  | error e => simp [hkey] at h

theorem handleCreateSession_stdout {request : CreateTrainingSessionRequest}
    {id : TrainingSessionId} (h : (handleCreateSession J ω request).run p = .ok id p') :
    p'.stdout = p.stdout ++ p.lines J ω true (.createSession request) := by
  obtain ⟨⟨k, secrets⟩, p₁, hstart, h⟩ := run_bind_ok.mp h
  obtain ⟨session, p₂, hkey, hinsert⟩ := run_bind_ok.mp h
  obtain ⟨rfl, -, hid⟩ := createSessionStart_ok hstart
  have hk : request.trainingSessionId.getD ⟨ω.sessionId⟩ = k := by
    rcases hid with ⟨hsome, -⟩ | ⟨hnone, rfl⟩
    · rw [hsome, Option.getD_some]
    · rw [hnone, Option.getD_none]
  cases hinsert
  simp only [TaskProvisioner.lines, hk]
  exact createSessionKeypair_stdout hkey

theorem handleCreateSession_silent {request : CreateTrainingSessionRequest} {e : Failure}
    (h : (handleCreateSession J ω request).run p = .error e p') : p'.stdout = p.stdout := by
  rcases run_bind_error.mp h with hstart | ⟨⟨k, secrets⟩, p₁, hstart, hrest⟩
  · exact Within.error (R := TaskProvisioner.Silent) (within_createSessionStart J ω request) hstart
  · obtain ⟨rfl, -⟩ := createSessionStart_ok hstart
    rcases run_bind_error.mp hrest with hkey | ⟨session, p₂, -, hinsert⟩
    · rw [createSessionKeypair_error hkey]
    · cases hinsert

/-- All the printing of `handle_start_round` is done before its transaction. -/
theorem startRoundTask_stdout (request : StartRoundRequest) (ok : Bool) :
    (final ((startRoundTask J ω request).run p)).stdout =
      p.stdout ++ p.lines J ω ok (.startRound request) := by
  simp only [startRoundTask, TaskProvisioner.lines, TaskProvisioner.disclosed,
    EStateM.run_bind, EStateM.run_get]
  cases p.trainingSessions.lookup request.trainingSessionId with
  | none => exact (List.append_nil _).symm
  | some s =>
      simp only [orReturn]
      cases taskIdFromString request.taskIdEncoded with
      | error e => exact (List.append_nil _).symm
      | ok taskId =>
          cases ω.elapsed with
          | error e => exact (List.append_nil _).symm
          | ok elapsed =>
              simp only [Except.toOption, Except.mapError, run_lift, EStateM.run_bind,
                Option.bind_eq_bind, Option.bind_some]
              cases s.taskParams J with
              | error e => exact (List.append_nil _).symm
              | ok params =>
                  -- the tokens are printed, whether or not the task can be created
                  simp only [run_println, Option.bind_some]
                  cases J.newAggregatorTask (s.taskArguments J p.config taskId params) with
                  | error e => rfl
                  | ok task => exact List.append_assoc _ _ _

theorem handleStartRound_stdout (request : StartRoundRequest) (ok : Bool) :
    (final ((handleStartRound J ω request).run p)).stdout =
      p.stdout ++ p.lines J ω ok (.startRound request) := by
  have hstart := startRoundTask_stdout (J := J) (ω := ω) (p := p) request ok
  rw [handleStartRound, EStateM.run_bind]
  cases hrun : (startRoundTask J ω request).run p with
  | error e p₁ => rwa [hrun] at hstart
  | ok pair p₁ =>
      rw [hrun] at hstart
      have hrest : Within TaskProvisioner.Silent (do
          provisionTask ω pair.2
          startRoundRecord request.trainingSessionId pair.1) :=
        (silent_provisionTask ω pair.2).bind fun _ => silent_startRoundRecord _ _
      exact (hrest p₁).trans hstart

/-- What a request prints depends on its answer only through whether it is `Ok`. -/
theorem answer_stdout (request : Request) {answer : Except Failure Response}
    (h : p.answer J ω request = (answer, p')) :
    p'.stdout = p.stdout ++ p.lines J ω answer.isOk request := by
  cases request with
  | createSession request =>
      rw [answer_createSession] at h
      split at h
      · rename_i id p₁ hrun
        cases h
        exact handleCreateSession_stdout hrun
      · rename_i e p₁ hrun
        cases h
        simpa [TaskProvisioner.lines, Except.isOk, Except.toBool] using
          handleCreateSession_silent hrun
  | endSession id =>
      simp only [answer_endSession, handleEndSession, EStateM.run_bind, EStateM.run_get] at h
      cases hlive : (p.trainingSessions.lookup id).isSome with
      | true => simp only [hlive, if_true] at h; cases h; rfl
      | false => simp only [hlive, Bool.false_eq_true, if_false] at h; cases h; rfl
  | startRound request =>
      have hround := handleStartRound_stdout (J := J) (ω := ω) (p := p) request answer.isOk
      rw [answer_startRound] at h
      split at h
      · rename_i _ p₁ hrun
        rw [hrun] at hround
        cases h
        exact hround
      · rename_i e p₁ hrun
        rw [hrun] at hround
        cases h
        exact hround
  | getVdafParameter request =>
      have hsilent : Within TaskProvisioner.Silent _ := within_handleGetVdafParameter request
      replace hsilent := hsilent p
      rw [answer_getVdafParameter] at h
      simp only [TaskProvisioner.lines, List.append_nil]
      split at h
      · rename_i _ p₁ hrun
        rw [hrun] at hsilent
        cases h
        exact hsilent
      · rename_i e p₁ hrun
        rw [hrun] at hsilent
        cases h
        exact hsilent
  | getMainLocations =>
      cases h
      simp [TaskProvisioner.lines]

end

/-! ## Two runs -/

/-- A request with what its handler takes from outside, and whether it is
answered `Ok`. -/
structure Turn where
  ambient : Ambient
  request : Request
  ok : Bool

/-- Answer a request, if this has the given outcome. -/
def TaskProvisioner.turn (J : Janus) (p : TaskProvisioner) (turn : Turn) :
    Option TaskProvisioner :=
  let (answer, p') := p.answer J turn.ambient turn.request
  if answer.isOk = turn.ok then some p' else none

theorem TaskProvisioner.turn_eq_some {J : Janus} {p p' : TaskProvisioner} {turn : Turn} :
    p.turn J turn = some p' ↔ ∃ answer, p.answer J turn.ambient turn.request = (answer, p') ∧
      answer.isOk = turn.ok := by
  unfold TaskProvisioner.turn
  cases h : p.answer J turn.ambient turn.request with
  | mk answer q =>
      simp only [Option.ite_none_right_eq_some, Option.some.injEq, Prod.mk.injEq]
      constructor
      · rintro ⟨hok, rfl⟩
        exact ⟨answer, ⟨rfl, rfl⟩, hok⟩
      · rintro ⟨_, ⟨rfl, rfl⟩, hok⟩
        exact ⟨hok, rfl⟩

/-- The request with the tokens and the verify key of a new session left out. -/
def Request.withoutSecrets : Request → Request
  | .createSession request => .createSession { request with
      verifyKeyEncoded := ""
      collectorAuthTokenEncoded := ""
      leaderAuthTokenEncoded := "" }
  | request => request

/-- The requests are equal except for the secrets in them, their handlers make the
same random choices, and they have the same outcome. -/
structure Turn.SameButSecrets (a b : Turn) : Prop where
  sessionId : b.ambient.sessionId = a.ambient.sessionId
  keypairId : b.ambient.keypairId = a.ambient.keypairId
  keypairSeed : b.ambient.keypairSeed = a.ambient.keypairSeed
  request : b.request.withoutSecrets = a.request.withoutSecrets
  ok : b.ok = a.ok

theorem Request.withoutSecrets_cases {r r' : Request}
    (h : r'.withoutSecrets = r.withoutSecrets) :
    r' = r ∨ ∃ request request' : CreateTrainingSessionRequest, r = .createSession request ∧
      r' = .createSession request' ∧ request'.trainingSessionId = request.trainingSessionId := by
  cases r with
  | createSession request =>
      cases r' with
      | createSession request' =>
          have hrequests := Request.createSession.inj h
          simp only [CreateTrainingSessionRequest.mk.injEq] at hrequests
          exact .inr ⟨request, request', rfl, rfl, hrequests.1⟩
      | _ => cases h
  | _ =>
      cases r' with
      | createSession request' => cases h
      | _ => exact .inl h

/-- What the two runs let out in a step is the same. -/
def TaskProvisioner.NoLeak (J : Janus) (s : TaskProvisioner × TaskProvisioner)
    (turns : Turn × Turn) : Prop :=
  s.2.disclosed J turns.2.ambient turns.2.request = s.1.disclosed J turns.1.ambient turns.1.request

namespace TaskProvisioner

instance (J : Janus) (s : TaskProvisioner × TaskProvisioner) (turns : Turn × Turn) :
    Decidable (NoLeak J s turns) := inferInstanceAs (Decidable (_ = _))

variable {J : Janus} {p q p' q' : TaskProvisioner}

theorem lines_eq {a b : Turn} (hab : a.SameButSecrets b) (hleak : NoLeak J (p, q) (a, b)) :
    q.lines J b.ambient b.ok b.request = p.lines J a.ambient a.ok a.request := by
  rcases Request.withoutSecrets_cases hab.request with hrequest | ⟨request, request', ha, hb, hid⟩
  · unfold NoLeak at hleak
    simp only [hrequest] at hleak
    rw [hrequest, hab.ok]
    cases hr : a.request with
    | createSession request => simp only [lines, hab.sessionId]
    | startRound request =>
        rw [hr] at hleak
        simp only [lines, hleak]
    | _ => rfl
  · simp only [ha, hb, lines, hab.ok, hid, hab.sessionId]

/-- Two runs that differ only in the secrets inside the requests print the same, if
every start of a round lets out the same in both. -/
theorem same_output {datastore datastore' : Datastore} {config : TaskProvisionerConfig}
    {as bs : List Turn} (hab : List.Forall₂ Turn.SameButSecrets as bs)
    (hrun : Run.after (turn J) (.new datastore config) as = some p)
    (hrun' : Run.after (turn J) (.new datastore' config) bs = some q)
    (hleak : Run.Along (Run.both (turn J)) (NoLeak J)
      (.new datastore config, .new datastore' config) (as.zip bs)) :
    q.stdout = p.stdout := by
  refine Run.invariant_both (P := fun s => s.2.stdout = s.1.stdout) ?_ rfl hab hrun hrun' hleak
  rintro ⟨p, q⟩ ⟨a, b⟩ ⟨p', q'⟩ heq hab hleak h
  obtain ⟨h, h'⟩ := Run.both_eq_some.mp h
  obtain ⟨answer, ha, hok⟩ := turn_eq_some.mp h
  obtain ⟨answer', hb, hok'⟩ := turn_eq_some.mp h'
  dsimp only at *
  rw [answer_stdout _ ha, answer_stdout _ hb, hok, hok', heq, lines_eq hab hleak]

end TaskProvisioner

namespace Sample

/-- A session with these secrets, and a round in it. -/
def turnsWith (verifyKey : SecretBytes) (leaderAuthToken : List UInt8) : List Turn :=
  [⟨ambient 0, .createSession { createRequest (some ⟨5⟩) verifyKey with
      leaderAuthTokenEncoded := Base64Url.encode leaderAuthToken }, true⟩,
   ⟨ambient 0, .startRound (startRequest ⟨5⟩ (taskId 1)), true⟩]

theorem turnsWith_sameButSecrets (verifyKey verifyKey' : SecretBytes)
    (leaderAuthToken leaderAuthToken' : List UInt8) :
    List.Forall₂ Turn.SameButSecrets (turnsWith verifyKey leaderAuthToken)
      (turnsWith verifyKey' leaderAuthToken') :=
  .cons ⟨rfl, rfl, rfl, rfl, rfl⟩ (.cons ⟨rfl, rfl, rfl, rfl, rfl⟩ .nil)

end Sample

/-- Different verify keys are not seen. -/
theorem TaskProvisioner.same_output_sample :
    ∃ p q, Run.after (turn .plain) (.new ∅ Sample.config) (Sample.turnsWith [1] [100]) = some p ∧
      Run.after (turn .plain) (.new ∅ Sample.config) (Sample.turnsWith [2] [100]) = some q ∧
      q.stdout = p.stdout := by
  have hruns : ((Run.after (turn .plain) (.new ∅ Sample.config)
        (Sample.turnsWith [1] [100])).isSome &&
      (Run.after (turn .plain) (.new ∅ Sample.config) (Sample.turnsWith [2] [100])).isSome) =
      true := by
    decide +kernel
  obtain ⟨hp, hq⟩ := Bool.and_eq_true_iff.mp hruns
  obtain ⟨p, hp⟩ := Option.isSome_iff_exists.mp hp
  obtain ⟨q, hq⟩ := Option.isSome_iff_exists.mp hq
  refine ⟨p, q, hp, hq, same_output (Sample.turnsWith_sameButSecrets _ _ _ _) hp hq ?_⟩
  decide +kernel

/-- Different tokens are printed when a round is started. -/
theorem TaskProvisioner.output_leaks :
    ∃ p q, Run.after (turn .plain) (.new ∅ Sample.config) (Sample.turnsWith [1] [100]) = some p ∧
      Run.after (turn .plain) (.new ∅ Sample.config) (Sample.turnsWith [1] [101]) = some q ∧
      List.Forall₂ Turn.SameButSecrets (Sample.turnsWith [1] [100]) (Sample.turnsWith [1] [101]) ∧
      q.stdout ≠ p.stdout := by
  have hp : (Run.after (turn .plain) (.new ∅ Sample.config)
      (Sample.turnsWith [1] [100])).map (·.stdout) = some
        ["creating training session with id 5",
         "Got training session request with auth token for aggregator: [90, 65], " ++
           "collector: [97, 98, 99]",
         "provisioning task now with id AQEBAQEBAQEBAQEBAQEBAQEBAQEBAQEBAQEBAQEBAQE"] := by
    decide +kernel
  have hq : (Run.after (turn .plain) (.new ∅ Sample.config)
      (Sample.turnsWith [1] [101])).map (·.stdout) = some
        ["creating training session with id 5",
         "Got training session request with auth token for aggregator: [90, 81], " ++
           "collector: [97, 98, 99]",
         "provisioning task now with id AQEBAQEBAQEBAQEBAQEBAQEBAQEBAQEBAQEBAQEBAQE"] := by
    decide +kernel
  obtain ⟨p, hp, hlines⟩ := Option.map_eq_some_iff.mp hp
  obtain ⟨q, hq, hlines'⟩ := Option.map_eq_some_iff.mp hq
  refine ⟨p, q, hp, hq, Sample.turnsWith_sameButSecrets _ _ _ _, ?_⟩
  rw [hlines, hlines']
  decide
