-- SUMMARY: The terms of a session, on which both aggregators must agree, and where a manager has them under a session id.
import Dpsa4fl.JanusManager.Coherence

/-!
# Terms of a session

The managers never talk to each other. What they must agree on reaches them in
two requests of the same controller, and stays with the session id: with the
request, with the handler that creates the session, and with the session itself.
`Manager.Uses` lists these places, and a step adds a place only when the place
it takes the terms from was one before, or when an id is drawn.
-/

/-- What the tasks of the two aggregators must have in common. -/
structure Terms where
  verifyKey : SecretBytes
  vdaf : VdafInstance
  collectorHpkeConfig : HpkeConfig
  leaderAuthToken : AuthenticationToken

def TrainingSession.terms (J : Janus) (s : TrainingSession) : Terms where
  verifyKey := s.verifyKey
  vdaf := s.vdafParameter.toVdafInstance J
  collectorHpkeConfig := s.collectorHpkeConfig
  leaderAuthToken := s.leaderAuthToken

/-- The terms of the session that a request asks for. -/
def CreateTrainingSessionRequest.terms (J : Janus) (request : CreateTrainingSessionRequest) :
    Except Error Terms := do
  let secrets ← createSessionSecrets J request
  return {
    verifyKey := secrets.verifyKey
    vdaf := request.vdafParameter.toVdafInstance J
    collectorHpkeConfig := request.collectorHpkeConfig
    leaderAuthToken := secrets.leaderAuthToken }

/-- The task of an aggregator with this role was made for these terms. -/
inductive AggregatorTask.Carries (J : Janus) (p : Terms) (task : AggregatorTask) : Role → Prop where
  | leader {hash} (hvdaf : task.vdaf = p.vdaf) (hkey : task.opaqueVdafVerifyKey = p.verifyKey)
      (hparameters : task.aggregatorParameters =
        .leader p.leaderAuthToken hash p.collectorHpkeConfig) :
      Carries J p task .leader
  | helper (hvdaf : task.vdaf = p.vdaf) (hkey : task.opaqueVdafVerifyKey = p.verifyKey)
      (hparameters : task.aggregatorParameters =
        .helper (J.authenticationTokenHash p.leaderAuthToken) p.collectorHpkeConfig) :
      Carries J p task .helper

/-- The task of the leader determines its terms. -/
theorem AggregatorTask.Carries.leader_unique {J : Janus} {p p' : Terms} {task : AggregatorTask}
    (h : task.Carries J p .leader) (h' : task.Carries J p' .leader) : p = p' := by
  obtain ⟨key, vdaf, config, token⟩ := p
  obtain ⟨key', vdaf', config', token'⟩ := p'
  cases h with
  | leader hvdaf hkey hparameters =>
  cases h' with
  | leader hvdaf' hkey' hparameters' =>
      obtain ⟨htoken, -, hconfig⟩ :=
        AggregatorTaskParameters.leader.inj (hparameters.symm.trans hparameters')
      simp only [Terms.mk.injEq]
      exact ⟨hkey.symm.trans hkey', hvdaf.symm.trans hvdaf', hconfig, htoken⟩

theorem TrainingSession.Builds.carries {J : Janus} (hJ : J.Faithful) {s : TrainingSession}
    {config : TaskProvisionerConfig} {taskId : TaskId} {task : AggregatorTask}
    (h : s.Builds J config taskId task) : task.Carries J (s.terms J) s.role := by
  obtain ⟨params, hparams, heq⟩ := h.eq hJ
  rw [heq]
  rcases taskParams_role hparams with ⟨hrole, rfl⟩ | ⟨hrole, rfl⟩
  · rw [hrole]
    exact .leader rfl rfl rfl
  · rw [hrole]
    exact .helper rfl rfl rfl

theorem CreateTrainingSessionRequest.terms_of_secrets {J : Janus}
    {request : CreateTrainingSessionRequest} {secrets : SessionSecrets}
    (h : createSessionSecrets J request = .ok secrets) (keypair : HpkeKeypair) :
    request.terms J = .ok ((request.session secrets keypair).terms J) := by
  unfold terms
  rw [h]
  rfl

/-! ## Where a manager has terms -/

/-- The thread is about to create a session with this id. -/
def Thread.uses (id : TrainingSessionId) : Thread → Bool
  | arrived (.createSession request) => request.trainingSessionId = some id
  | keyring _ id' _ => id' = id
  | insert _ id' _ => id' = id
  | _ => false

/-- Only the insertion of a session answers a creation. -/
theorem Thread.Resumes.of_createSession {J : Janus} {ω : Ambient} {p p' : TaskProvisioner}
    {thread : Thread} {request : Request} {id : TrainingSessionId}
    (h : thread.Resumes J ω p (.answered request (.ok (.createSession id))) p') :
    ∃ request session, thread = .insert request id session := by
  generalize hthread : Thread.answered _ _ = thread' at h
  cases h with
  | inserted =>
      cases hthread
      exact ⟨_, _, rfl⟩
  | failed =>
      injection hthread with _ hanswer
      cases hanswer
  | _ => cases hthread

/-- Only the end of a round accepts it. -/
theorem Thread.Resumes.of_startRound {J : Janus} {ω : Ambient} {p p' : TaskProvisioner}
    {thread : Thread} {request : Request} {response : Response} {q : StartRoundRequest}
    (h : thread.Resumes J ω p (.answered request (.ok response)) p')
    (hrequest : thread.request = .startRound q) : ∃ taskId, thread = .record q taskId := by
  generalize hthread : Thread.answered _ _ = thread' at h
  cases h with
  | recorded => cases hrequest; exact ⟨_, rfl⟩
  | failed =>
      injection hthread with _ hanswer
      cases hanswer
  | chosen => cases hthread
  | keypair => cases hthread
  | built => cases hthread
  | provisioned => cases hthread
  | decoded => cases hthread
  | _ => cases hrequest

theorem Thread.Resumes.not_arrived {J : Janus} {ω : Ambient} {p p' : TaskProvisioner}
    {thread : Thread} {request : Request} (h : thread.Resumes J ω p (.arrived request) p') :
    False := by
  cases h

namespace Manager

/-- The id is the one of a live session, or a session is about to be created with it. -/
def uses (m : Manager) (id : TrainingSessionId) : Bool :=
  (m.provisioner.trainingSessions.lookup id).isSome || m.threads.any (·.uses id)

/-- The manager has the terms `p` under this id. -/
inductive Uses (J : Janus) (m : Manager) (id : TrainingSessionId) (p : Terms) : Prop where
  | live {s} (hlive : m.provisioner.trainingSessions.lookup id = some s) (hterms : s.terms J = p)
  | thread {k : Nat} {thread : Thread} {request} (hget : m.threads[k]? = some thread)
      (huses : thread.uses id = true) (hrequest : thread.request = .createSession request)
      (hterms : request.terms J = .ok p)

/-- The id that a thread draws in this step, with the terms of its request. -/
def draw (J : Janus) (m : Manager) : Action → Option (TrainingSessionId × Terms)
  | .resume i ω =>
    match m.threads[i]? with
    | some (.arrived (.createSession request)) =>
      match request.trainingSessionId, request.terms J with
      | none, .ok p => some (⟨ω.sessionId⟩, p)
      | _, _ => none
    | _ => none
  | _ => none

variable {J : Janus} {m m' : Manager} {id : TrainingSessionId} {p : Terms}

theorem Uses.uses (h : m.Uses J id p) : m.uses id = true := by
  unfold Manager.uses
  cases h with
  | live hlive => rw [hlive]; rfl
  | thread hget huses =>
      rw [List.any_eq_true.mpr ⟨_, List.mem_of_getElem? hget, huses⟩, Bool.or_true]

/-- A live session after a step was live before, up to its tasks, or it has just
been inserted. -/
theorem live_origin (hm : m.Coherent J) {a : Action} (h : m.step J a = some m')
    {s : TrainingSession} (hlive : m'.provisioner.trainingSessions.lookup id = some s) :
    (∃ s₀, m.provisioner.trainingSessions.lookup id = some s₀ ∧ s = { s₀ with tasks := s.tasks }) ∨
      ∃ (k : Nat) (request : CreateTrainingSessionRequest) (secrets : SessionSecrets)
        (keypair : HpkeKeypair),
        m.threads[k]? = some (.insert request id (request.session secrets keypair)) ∧
          createSessionSecrets J request = .ok secrets ∧ s = request.session secrets keypair := by
  cases a with
  | send request => cases h; exact .inl ⟨s, hlive, rfl⟩
  | drop i =>
      obtain ⟨t, -, rfl⟩ := step_drop h
      exact .inl ⟨s, hlive, rfl⟩
  | restart =>
      cases h
      simp only [AList.lookup_empty] at hlive
      cases hlive
  | resume i ω =>
      obtain ⟨thread, thread', hr⟩ := step_resume h
      have hvalid := hm.threads i thread hr.get
      have hget := hr.get
      have hres := hr.resumes
      generalize m'.provisioner = p' at hres hlive
      cases hres with
      | keypair hsame => rw [hsame.trainingSessions] at hlive; exact .inl ⟨s, hlive, rfl⟩
      | @inserted request k session =>
          by_cases hk : id = k
          · subst hk
            obtain ⟨⟨secrets, keypair, hsecrets, rfl⟩, -⟩ := hvalid
            rw [AList.lookup_insert] at hlive
            cases hlive
            exact .inr ⟨i, request, secrets, keypair, hget, hsecrets, rfl⟩
          · rw [AList.lookup_insert_ne hk] at hlive
            exact .inl ⟨s, hlive, rfl⟩
      | built _ _ _ hsame => rw [hsame.trainingSessions] at hlive; exact .inl ⟨s, hlive, rfl⟩
      | recorded =>
          rw [TaskProvisioner.lookup_recordTask] at hlive
          split at hlive
          · rename_i hk
            obtain ⟨s₀, hs₀, rfl⟩ := Option.map_eq_some_iff.mp hlive
            exact .inl ⟨s₀, hk ▸ hs₀, rfl⟩
          · exact .inl ⟨s, hlive, rfl⟩
      | @ended k _ _ _ _ hsessions =>
          rw [hsessions] at hlive
          by_cases hk : id = k
          · rw [hk, AList.lookup_erase] at hlive
            cases hlive
          · rw [AList.lookup_erase_ne hk] at hlive
            exact .inl ⟨s, hlive, rfl⟩
      | failed hsame => rw [hsame.trainingSessions] at hlive; exact .inl ⟨s, hlive, rfl⟩
      | _ => exact .inl ⟨s, hlive, rfl⟩

/-- A manager has terms under an id only if it had them before the step, or was
sent them under this id, or has drawn the id for them. -/
theorem Uses.back (hm : m.Coherent J) {a : Action} (h : m.step J a = some m')
    (hu : m'.Uses J id p) :
    m.Uses J id p ∨ m.draw J a = some (id, p) ∨
      ∃ request, a = .send (.createSession request) ∧ request.trainingSessionId = some id ∧
        request.terms J = .ok p := by
  cases hu with
  | live hlive hterms =>
      rcases live_origin hm h hlive with ⟨s₀, hs₀, heq⟩ | ⟨k, request, secrets, keypair, hget, hsecrets, rfl⟩
      · exact .inl (.live hs₀ (by rw [← hterms, heq]; rfl))
      · refine .inl (.thread hget (by simp [Thread.uses]) rfl ?_)
        rw [request.terms_of_secrets hsecrets keypair, hterms]
  | @thread k thread' request hget' huses hrequest hterms =>
      cases step_origin h hget' with
      | same hget => exact .inl (.thread hget huses hrequest hterms)
      | arrived hk =>
          cases hrequest
          exact .inr (.inr ⟨request, rfl, by simpa [Thread.uses] using huses, hterms⟩)
      | dropped => cases huses
      | @resumed ω thread _ hr =>
          have hget := hr.get
          have hres := hr.resumes
          generalize m'.provisioner = p' at hres
          cases hres with
          | @chosen request' id' secrets hsecrets hid =>
              cases hrequest
              obtain rfl : id' = id := by simpa [Thread.uses] using huses
              rcases hid with ⟨hsome, -⟩ | ⟨hnone, rfl⟩
              · exact .inl (.thread hget (by simp [Thread.uses, hsome]) rfl hterms)
              · refine .inr (.inl ?_)
                simp only [draw, hget, hnone, hterms]
          | keypair =>
              cases hrequest
              exact .inl (.thread hget huses rfl hterms)
          | failed => cases huses
          | _ => cases huses

end Manager
