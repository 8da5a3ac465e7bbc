-- SUMMARY: Exactly when a request handler panics.
import Dpsa4fl.Library.Relational
import Dpsa4fl.JanusManager.AnswerSpecs
import Dpsa4fl.JanusManager.ThreadSpecs

/-!
# Panics

The handlers have two partial operations: key generation, which is unwrapped and
succeeds for the algorithms of the keyring, and the match on the role of a
session in `handle_start_round`, which is only written for the two aggregators.
A session of another role can be created, so that match is reachable.
-/

open Handler Relational

/-- The failure is an `Err`. -/
def Failure.IsErr (failure : Failure) : Prop := ∃ error, failure = .err error

/-! ## Handlers that never panic -/

section
variable {J : Janus} {ω : Ambient}

theorem fails_orReturn {α : Type} (r : Except Error α) : Fails Failure.IsErr (orReturn r) := by
  cases r with
  | ok a => exact .pure a
  | error e => exact .throw ⟨e, rfl⟩

theorem fails_println (line : String) : Fails Failure.IsErr (println line) := .modify _

theorem fails_createSessionStart (J : Janus) (ω : Ambient)
    (request : CreateTrainingSessionRequest) :
    Fails Failure.IsErr (createSessionStart J ω request) := by
  refine .bind ?_ fun _ => .bind (fails_orReturn _) fun _ => .pure _
  unfold createSessionId
  split
  · refine .bind .get fun self => ?_
    split
    · exact .throw ⟨_, rfl⟩
    · exact .pure _
  · exact .pure _

theorem fails_createSessionKeypair (hJ : J.GeneratesKeys) (ω : Ambient)
    (request : CreateTrainingSessionRequest) (id : TrainingSessionId) (secrets : SessionSecrets) :
    Fails Failure.IsErr (createSessionKeypair J ω request id secrets) := by
  refine .bind .get fun self => ?_
  obtain ⟨pair, hkey⟩ := fetchKeypair_ok hJ ω.keypairSeed self.keyring ω.keypairId
  rw [hkey]
  exact .bind (.pure pair) fun _ => .bind (.set _) fun _ => .bind (fails_println _) fun _ => .pure _

theorem fails_provisionTask (ω : Ambient) (task : AggregatorTask) :
    Fails Failure.IsErr (provisionTask ω task) :=
  .bind .get fun _ => .bind (fails_orReturn _) fun _ => .set _

theorem fails_handleEndSession (id : TrainingSessionId) :
    Fails Failure.IsErr (handleEndSession id) := by
  refine .bind .get fun self => ?_
  split
  · exact .bind (.set _) fun _ => fails_println _
  · exact .bind (fails_println _) fun _ => .throw ⟨_, rfl⟩

theorem fails_lookupVdafParameter (taskId : TaskId) :
    Fails Failure.IsErr (lookupVdafParameter taskId) := by
  refine .bind .get fun self => ?_
  dsimp only
  split
  · exact .throw ⟨_, rfl⟩
  · exact .pure _
  · exact .throw ⟨_, rfl⟩

end

/-! ## The match on the role -/

def TrainingSession.hasOtherRole (s : TrainingSession) : Bool :=
  s.role != .leader && s.role != .helper

/-- `handle_start_round` reaches the match on the role, for a session that is
neither the leader's nor the helper's. -/
def TaskProvisioner.ReachesTodo (p : TaskProvisioner) (ω : Ambient) (request : StartRoundRequest) :
    Prop :=
  (p.trainingSessions.lookup request.trainingSessionId).any TrainingSession.hasOtherRole = true ∧
    (taskIdFromString request.taskIdEncoded).isOk = true ∧ ω.elapsed.isOk = true

section
variable {J : Janus} {ω : Ambient} {p p' : TaskProvisioner}

theorem taskParams_of_hasOtherRole {s : TrainingSession} (h : s.hasOtherRole = true) :
    s.taskParams J = .error (.panic "not yet implemented") := by
  unfold TrainingSession.taskParams
  cases hrole : s.role <;> simp [TrainingSession.hasOtherRole, hrole] at h ⊢

theorem taskParams_ok {s : TrainingSession} (h : s.hasOtherRole = false) :
    ∃ params, s.taskParams J = .ok params := by
  unfold TrainingSession.taskParams
  cases hrole : s.role <;> simp [TrainingSession.hasOtherRole, hrole] at h ⊢

theorem exists_of_isOk {ε α : Type} {r : Except ε α} (h : r.isOk = true) : ∃ a, r = .ok a := by
  cases r with
  | ok a => exact ⟨a, rfl⟩
  | error e => cases h

/-- The start of a round that reaches the match for another role panics. -/
theorem startRoundTask_of_reachesTodo {request : StartRoundRequest}
    (h : p.ReachesTodo ω request) :
    (startRoundTask J ω request).run p = .error (.panic "not yet implemented") p := by
  obtain ⟨hrole, hdecode, hclock⟩ := h
  obtain ⟨s, hs, hrole⟩ := (Option.any_eq_true _ _).mp hrole
  obtain ⟨taskId, hdecode⟩ := exists_of_isOk hdecode
  obtain ⟨elapsed, hclock⟩ := exists_of_isOk hclock
  simp only [startRoundTask, EStateM.run_bind, EStateM.run_get, hs, hdecode, hclock,
    Handler.orReturn, Except.mapError, run_lift, taskParams_of_hasOtherRole hrole]

/-- The start of a round fails with an error, unless it reaches that match. -/
theorem startRoundTask_fails {request : StartRoundRequest} {e : Failure}
    (h : (startRoundTask J ω request).run p = .error e p') (hnot : ¬ p.ReachesTodo ω request) :
    e.IsErr := by
  simp only [startRoundTask, EStateM.run_bind, EStateM.run_get] at h
  cases hs : p.trainingSessions.lookup request.trainingSessionId with
  | none =>
      rw [hs] at h
      cases h
      exact ⟨_, rfl⟩
  | some s =>
      simp only [hs] at h
      cases hrole : s.hasOtherRole with
      | false =>
          -- the parameters exist, and every other failure is an error
          obtain ⟨params, hparams⟩ := taskParams_ok (J := J) hrole
          rw [hparams] at h
          refine Fails.bind (fails_orReturn _) (fun _ => ?_) p e p' h
          refine .bind (fails_orReturn _) fun _ => .bind (.pure _) fun _ => ?_
          refine .bind (fails_println _) fun _ => .bind (fails_orReturn _) fun _ => ?_
          exact .bind (fails_println _) fun _ => .pure _
      | true =>
          rcases run_bind_error.mp h with h | ⟨taskId, p₁, hdecode, h⟩
          · exact fails_orReturn _ _ _ _ h
          · rcases run_bind_error.mp h with h | ⟨elapsed, p₂, hclock, -⟩
            · exact fails_orReturn _ _ _ _ h
            · obtain ⟨hdecode, -⟩ := run_orReturn_ok.mp hdecode
              obtain ⟨hclock, -⟩ := run_orReturn_ok.mp hclock
              exact (hnot ⟨by rw [hs]; exact hrole, by rw [hdecode]; rfl, by rw [hclock]; rfl⟩).elim

end

/-! ## Threads and managers -/

/-- The thread was answered with a panic. -/
def Thread.panicked : Thread → Bool
  | answered _ (.error (.panic _)) => true
  | _ => false

theorem Thread.exists_of_panicked {thread : Thread} (h : thread.panicked = true) :
    ∃ request message, thread = .answered request (.error (.panic message)) := by
  cases thread with
  | answered request answer =>
      cases answer with
      | ok response => cases h
      | error failure =>
          cases failure with
          | err error => cases h
          | panic message => exact ⟨request, message, rfl⟩
  | _ => cases h

/-- In the next piece of the thread, `handle_start_round` reaches the match on the
role for a session of another role. -/
def Thread.ReachesTodo (p : TaskProvisioner) (ω : Ambient) : Thread → Prop
  | arrived (.startRound request) => p.ReachesTodo ω request
  | _ => False

namespace Thread

variable {J : Janus} {ω : Ambient} {p p' : TaskProvisioner} {thread : Thread}

theorem piece_fails (hJ : J.GeneratesKeys) {e : Failure}
    (h : (thread.piece J ω).run p = .error e p') (hnot : ¬ thread.ReachesTodo p ω) : e.IsErr := by
  cases thread with
  | arrived request =>
      cases request with
      | createSession request =>
          exact ((fails_createSessionStart J ω request).bind fun _ => .pure _) p e p' h
      | endSession id => exact ((fails_handleEndSession id).bind fun _ => .pure _) p e p' h
      | startRound request =>
          rcases run_bind_error.mp h with h | ⟨_, _, -, h⟩
          · exact startRoundTask_fails h hnot
          · cases h
      | getVdafParameter request => exact ((fails_orReturn _).bind fun _ => .pure _) p e p' h
      | getMainLocations => cases h
  | keyring request id secrets =>
      exact ((fails_createSessionKeypair hJ ω request id secrets).bind fun _ => .pure _) p e p' h
  | insert request id session => cases h
  | transaction request taskId task =>
      exact ((fails_provisionTask ω task).bind fun _ => .pure _) p e p' h
  | record request taskId => cases h
  | lookup request taskId =>
      exact ((fails_lookupVdafParameter taskId).bind fun _ => .pure _) p e p' h
  | answered request answer => cases h
  | dropped request => cases h

/-- A piece panics exactly if it reaches the match for another role. -/
theorem panicked_resume_iff (hJ : J.GeneratesKeys) (hrunning : thread.finished = false) :
    (thread.resume J ω p).1.panicked = true ↔ thread.ReachesTodo p ω := by
  constructor
  · intro h
    by_contra hnot
    unfold resume at h
    cases hpiece : (thread.piece J ω).run p with
    | ok thread' p' =>
        rw [hpiece] at h
        obtain ⟨request, message, rfl⟩ := exists_of_panicked h
        exact piece_ok hrunning hpiece request (.panic message) rfl
    | error e p' =>
        rw [hpiece] at h
        obtain ⟨error, rfl⟩ := piece_fails hJ hpiece hnot
        cases h
  · intro h
    cases thread with
    | arrived request =>
        cases request with
        | startRound request =>
            have hrun := startRoundTask_of_reachesTodo (J := J) h
            rw [resume_of_piece (x := startRoundTask J ω request)
              (f := fun a => Thread.transaction request a.1 a.2) rfl, hrun]
            rfl
        | _ => cases h
    | _ => cases h

end Thread

namespace Manager

variable {J : Janus} {m m' : Manager}

/-- No handler has panicked. -/
def NoPanic (m : Manager) : Prop :=
  ∀ (i : Nat) thread, m.threads[i]? = some thread → thread.panicked = false

/-- The step does not make `handle_start_round` reach the match on the role for a
session that is neither the leader's nor the helper's. -/
def AvoidsTodo (m : Manager) (a : Action) : Prop :=
  ∀ i ω thread, a = .resume i ω → m.threads[i]? = some thread →
    ¬ thread.ReachesTodo m.provisioner ω

theorem noPanic_step (hJ : J.GeneratesKeys) {a : Action} (h : m.step J a = some m') :
    m'.NoPanic ↔ m.NoPanic ∧ m.AvoidsTodo a := by
  constructor
  · intro hm'
    refine ⟨fun k thread hk => ?_, ?_⟩
    · -- a thread that has panicked stays as it is
      refine Bool.eq_false_iff.mpr fun hpanicked => ?_
      obtain ⟨request, message, rfl⟩ := Thread.exists_of_panicked hpanicked
      obtain ⟨thread', hk', -, hsame⟩ := step_keeps h hk
      rw [hsame rfl] at hk'
      cases hm' k _ hk'
    · rintro i ω thread rfl hget htodo
      obtain ⟨thread', hget', hrunning, -, rfl⟩ := step_resume_eq h
      obtain rfl := Option.some.inj (hget.symm.trans hget')
      obtain ⟨hlt, -⟩ := List.getElem?_eq_some_iff.mp hget
      have hpanicked := (Thread.panicked_resume_iff hJ hrunning).mpr htodo
      rw [hm' i _ (List.getElem?_set_self hlt)] at hpanicked
      cases hpanicked
  · rintro ⟨hm, havoids⟩ k thread hk
    have hdropped : ∀ thread, thread.panicked = false → (dropThread thread).panicked = false := by
      intro thread hthread
      rcases dropThread_cases thread with heq | heq
      · rwa [heq]
      · rw [heq]; rfl
    cases a with
    | send request =>
        cases h
        rcases getElem?_send hk with hk | ⟨-, rfl⟩
        · exact hm k thread hk
        · rfl
    | resume i ω =>
        obtain ⟨t, hget, hrunning, -, rfl⟩ := step_resume_eq h
        rcases getElem?_set hk with ⟨-, rfl⟩ | ⟨-, hk⟩
        · refine Bool.eq_false_iff.mpr fun hpanicked => ?_
          exact havoids i ω t rfl hget ((Thread.panicked_resume_iff hJ hrunning).mp hpanicked)
        · exact hm k thread hk
    | drop i =>
        obtain ⟨t, hget, rfl⟩ := step_drop h
        rcases getElem?_set hk with ⟨-, rfl⟩ | ⟨-, hk⟩
        · exact hdropped t (hm i t hget)
        · exact hm k thread hk
    | restart =>
        cases h
        rw [List.getElem?_map, Option.map_eq_some_iff] at hk
        obtain ⟨t, hget, rfl⟩ := hk
        exact hdropped t (hm k t hget)

/-- In a run of a manager no handler panics if and only if no round is started in
a live session whose role is neither leader nor helper, with a task id that
decodes and a working clock. -/
theorem no_panic_iff (hJ : J.GeneratesKeys) {datastore : Datastore} {config : TaskProvisionerConfig}
    {as : List Action} (hrun : Run.after (Manager.step J) (.new datastore config) as = some m) :
    m.NoPanic ↔ Run.Along (Manager.step J) AvoidsTodo (.new datastore config) as := by
  have hnew : (Manager.new datastore config).NoPanic := by
    intro i thread hget
    simp [Manager.new] at hget
  rw [Run.invariant_iff (fun _ _ _ h => noPanic_step hJ h) hrun]
  exact and_iff_right hnew

end Manager

namespace Sample

def createWithRole (role : Role) : List Manager.Action :=
  [.send (.createSession { createRequest (some ⟨5⟩) [1] with role := role }),
   .resume 0 (ambient 0), .resume 0 (ambient 0), .resume 0 (ambient 0),
   .send (.startRound (startRequest ⟨5⟩ (taskId 1))), .resume 1 (ambient 0)]

end Sample

theorem Manager.no_panic_sample :
    ∃ m, Run.after (Manager.step .plain) (.new ∅ Sample.config) (Sample.createWithRole .leader) =
        some m ∧
      Run.Along (Manager.step .plain) AvoidsTodo (.new ∅ Sample.config)
        (Sample.createWithRole .leader) := by
  have hruns : (Run.after (Manager.step .plain) (.new ∅ Sample.config)
      (Sample.createWithRole .leader)).map (fun m => m.threads.all fun t => !t.panicked) =
      some true := by
    decide +kernel
  obtain ⟨m, hrun, hall⟩ := Option.map_eq_some_iff.mp hruns
  refine ⟨m, hrun, (Manager.no_panic_iff Janus.plain_generatesKeys hrun).mp ?_⟩
  intro i thread hget
  simpa using List.all_eq_true.mp hall thread (List.mem_of_getElem? hget)

/-- A session can be created for the collector, and a round in it panics. -/
theorem Manager.panic_reached :
    ∃ m, Run.after (Manager.step .plain) (.new ∅ Sample.config)
        (Sample.createWithRole .collector) = some m ∧
      m.threads[0]? = some (.answered (.createSession
        { Sample.createRequest (some ⟨5⟩) [1] with role := .collector })
        (.ok (.createSession ⟨5⟩))) ∧
      m.threads[1]? = some (.answered (.startRound (Sample.startRequest ⟨5⟩ (Sample.taskId 1)))
        (.error (.panic "not yet implemented"))) ∧ ¬ m.NoPanic := by
  have hruns : (Run.after (Manager.step .plain) (.new ∅ Sample.config)
      (Sample.createWithRole .collector)).map (fun m => (m.threads[0]?, m.threads[1]?)) =
      some (some (.answered (.createSession
        { Sample.createRequest (some ⟨5⟩) [1] with role := .collector })
        (.ok (.createSession ⟨5⟩))),
        some (.answered (.startRound (Sample.startRequest ⟨5⟩ (Sample.taskId 1)))
          (.error (.panic "not yet implemented")))) := by
    decide +kernel
  obtain ⟨m, hrun, hpair⟩ := Option.map_eq_some_iff.mp hruns
  obtain ⟨hcreated, hpanicked⟩ := Prod.mk.inj hpair
  refine ⟨m, hrun, hcreated, hpanicked, fun h => ?_⟩
  cases h 1 _ hpanicked
