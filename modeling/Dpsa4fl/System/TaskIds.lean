-- SUMMARY: Task ids keep their identity as strings, on every way from the controller to the managers and to the clients.
import Dpsa4fl.JanusManager.AnswerSpecs
import Dpsa4fl.Client.Exchanges
import Dpsa4fl.Controller.ActiveRound

/-!
# Task ids on their way

The controller draws a task id and sends it to the managers as a string. It
hands the same string to its caller, who gives it to the clients; a client makes
its settings of it and asks the managers for the parameters of the task.
-/

open Handler

/-! ## The strings of task ids -/

/-- A string that a task id is decoded from is the string of that task id. -/
theorem eq_toString_of_taskIdFromString {s : String} {taskId : TaskId}
    (h : taskIdFromString s = .ok taskId) : s = taskIdToString taskId := by
  unfold taskIdFromString at h
  cases hdecode : Base64Url.decode s with
  | error e =>
    rw [hdecode] at h
    cases h
  | ok bytes =>
    rw [hdecode] at h
    simp only [Except.mapError, bind, Except.bind, TaskId.getDecoded] at h
    split at h
    · cases h
      exact (Base64Url.encode_of_decode hdecode).symm
    · cases h

/-- The 32 bytes of a task id fill 43 symbols, of which the last has two unused bits. -/
structure IsTaskIdString (s : String) : Prop where
  length : s.toList.length = 43
  symbols : ∀ c ∈ s.toList, c ∈ Base64Url.alphabet
  unusedBits : ∃ n < 16, s.toList.getLast? = some (Base64Url.symbol (n * 4))

theorem isTaskIdString_toString (taskId : TaskId) : IsTaskIdString (taskIdToString taskId) := by
  have hlist : (taskIdToString taskId).toList = Base64Url.encodeChars taskId.bytes := by
    rw [taskIdToString, Base64Url.encode, String.toList_ofList]
  refine ⟨?_, ?_, ?_⟩
  · rw [hlist, Base64Url.length_encodeChars, taskId.length_eq]
  · rw [hlist]
    exact Base64Url.mem_alphabet_of_mem_encodeChars
  · rw [hlist]
    exact Base64Url.getLast?_encodeChars (by rw [taskId.length_eq])

/-! ## Requests -/

/-- A request with a task id, namely this one. -/
def Op.Names (taskId : TaskId) : Op → Prop
  | .manager _ (.startRound request) => taskIdFromString request.taskIdEncoded = .ok taskId
  | .manager _ (.getVdafParameter request) => taskIdFromString request.taskIdEncoded = .ok taskId
  | _ => False

theorem startRound_names (client : JanusManagerClient) (taskId : TaskId) (id : TrainingSessionId) :
    (client.startRound taskId id).All (Op.Names taskId) := by
  have hpost : ∀ server, (Net.post server
      (.startRound ⟨id, taskIdToString taskId⟩)).All (Op.Names taskId) :=
    fun _ => Net.all_post (taskIdFromString_toString taskId)
  refine (hpost _).bind fun a => (hpost _).bind fun b => ?_
  unfold JanusManagerClient.bothOk
  split <;> trivial

theorem getVdafParameterFromTask_names (server : ManagerServer) (taskId : TaskId) :
    (getVdafParameterFromTask server taskId).All (Op.Names taskId) := by
  have hpost : (Net.post server (.getVdafParameter ⟨taskIdToString taskId⟩)).All
      (Op.Names taskId) := Net.all_post (taskIdFromString_toString taskId)
  apply hpost.bind
  intro response
  split <;> trivial

/-- The leader is asked to start the round, and the helper once the leader has answered. -/
theorem startRound_asks {client : JanusManagerClient} {taskId : TaskId} {id : TrainingSessionId}
    {es : List Exchange} {m' : Net TaskId}
    (h : Script.Follows (client.startRound taskId id) es m') (hend : ∀ op k, m' ≠ .call op k) :
    (∃ e, es = [⟨.manager .leader (.startRound ⟨id, taskIdToString taskId⟩), .error e⟩]) ∨
      es.map (·.1) = [.manager .leader (.startRound ⟨id, taskIdToString taskId⟩),
        .manager .helper (.startRound ⟨id, taskIdToString taskId⟩)] := by
  rcases Net.follows_post h with ⟨-, rfl⟩ | ⟨e, rfl, -⟩ | ⟨response, es, rfl, hleader⟩
  · exact (hend _ _ rfl).elim
  · exact .inl ⟨e, rfl⟩
  · right
    rcases Net.follows_post hleader with ⟨-, rfl⟩ | ⟨e, rfl, -⟩ | ⟨response', es, rfl, hhelper⟩
    · exact (hend _ _ rfl).elim
    · rfl
    · unfold JanusManagerClient.bothOk at hhelper
      split at hhelper
      · obtain ⟨rfl, -⟩ := Script.Follows.ret_iff.mp hhelper
        rfl
      · obtain ⟨rfl, -⟩ := Script.Follows.fail_iff.mp hhelper
        rfl

theorem getVdafParameterFromTask_asks {server : ManagerServer} {taskId : TaskId}
    {es : List Exchange} {m' : Net VdafParameter}
    (h : Script.Follows (getVdafParameterFromTask server taskId) es m')
    (hend : ∀ op k, m' ≠ .call op k) :
    es.map (·.1) = [.manager server (.getVdafParameter ⟨taskIdToString taskId⟩)] := by
  rcases Net.follows_post h with ⟨-, rfl⟩ | ⟨e, rfl, -⟩ | ⟨response, es, rfl, hanswered⟩
  · exact (hend _ _ rfl).elim
  · rfl
  · split at hanswered
    · obtain ⟨rfl, -⟩ := Script.Follows.ret_iff.mp hanswered
      rfl
    · obtain ⟨rfl, -⟩ := Script.Follows.fail_iff.mp hanswered
      rfl

/-! ## The managers -/

section
variable {J : Janus} {ω : Ambient} {p p' : TaskProvisioner} {taskId : TaskId}

/-- A manager that starts a round does so for the task id that the request names. -/
theorem answer_startRound_taskId {request : StartRoundRequest}
    (hnames : taskIdFromString request.taskIdEncoded = .ok taskId)
    (h : p.answer J ω (.startRound request) = (.ok .startRound, p')) :
    ∃ s task, p.trainingSessions.lookup request.trainingSessionId = some s ∧
      s.Builds J p.config taskId task ∧ postTask task p.datastore = .ok p'.datastore ∧
      p'.trainingSessions.lookup request.trainingSessionId =
        some { s with tasks := s.tasks ++ [taskId] } := by
  cases answer_spec h with
  | started hlive hdecode hbuilds hpost hconfig hsessions =>
    cases hnames.symm.trans hdecode
    exact ⟨_, _, hlive, hbuilds, hpost, by rw [hsessions, AList.lookup_insert]⟩

/-- A manager looks for the task id that the request names. -/
theorem handleGetVdafParameter_eq {request : GetVdafParameterRequest}
    (hnames : taskIdFromString request.taskIdEncoded = .ok taskId) :
    handleGetVdafParameter request = lookupVdafParameter taskId := by
  rw [handleGetVdafParameter, hnames]
  rfl

end

/-! ## The controller and the clients -/

theorem roundSettings_new_toString (taskId : TaskId) :
    RoundSettings.new (taskIdToString taskId) = .ok ⟨taskId, TIME_PRECISION, false⟩ := by
  rw [RoundSettings.new, taskIdFromString_toString]
  rfl

/-- A task id is the same for all that handle it as a string: the coding is a
bijection between task ids and the strings that are accepted; a controller and a
client put it in the requests that they send, and no other; what is in a request is
what the managers start or look up; and the string that the controller returns
makes the settings of that task. -/
theorem taskId_strings_faithful :
    (∀ taskId, taskIdFromString (taskIdToString taskId) = .ok taskId) ∧
    (∀ s taskId, taskIdFromString s = .ok taskId → s = taskIdToString taskId ∧ IsTaskIdString s) ∧
    (∀ (client : JanusManagerClient) (taskId : TaskId) (id : TrainingSessionId),
      (client.startRound taskId id).All (Op.Names taskId) ∧
      ∀ es m', Script.Follows (client.startRound taskId id) es m' → (∀ op k, m' ≠ .call op k) →
        (∃ e, es = [⟨.manager .leader (.startRound ⟨id, taskIdToString taskId⟩), .error e⟩]) ∨
          es.map (·.1) = [.manager .leader (.startRound ⟨id, taskIdToString taskId⟩),
            .manager .helper (.startRound ⟨id, taskIdToString taskId⟩)]) ∧
    (∀ (server : ManagerServer) (taskId : TaskId),
      (getVdafParameterFromTask server taskId).All (Op.Names taskId) ∧
      ∀ es m', Script.Follows (getVdafParameterFromTask server taskId) es m' →
        (∀ op k, m' ≠ .call op k) →
        es.map (·.1) = [.manager server (.getVdafParameter ⟨taskIdToString taskId⟩)]) ∧
    (∀ (J : Janus) (ω : Ambient) (p p' : TaskProvisioner) (request : StartRoundRequest)
      (taskId : TaskId), taskIdFromString request.taskIdEncoded = .ok taskId →
      p.answer J ω (.startRound request) = (.ok .startRound, p') →
        ∃ s task, p.trainingSessions.lookup request.trainingSessionId = some s ∧
          s.Builds J p.config taskId task ∧ postTask task p.datastore = .ok p'.datastore ∧
          p'.trainingSessions.lookup request.trainingSessionId =
            some { s with tasks := s.tasks ++ [taskId] }) ∧
    (∀ (request : GetVdafParameterRequest) (taskId : TaskId),
      taskIdFromString request.taskIdEncoded = .ok taskId →
        handleGetVdafParameter request = lookupVdafParameter taskId) ∧
    ∀ (istate : ControllerStateImmut) (mstate mstate' : ControllerStateMut) (taskId : TaskId)
      (es : List Exchange) (s : String),
      Script.Follows (apiStartRound istate mstate taskId) es (.ret (.ok s, mstate')) →
        mstate'.round.taskId = some taskId ∧
          RoundSettings.new s = .ok ⟨taskId, TIME_PRECISION, false⟩ := by
  refine ⟨taskIdFromString_toString, ?_,
    fun client taskId id => ⟨startRound_names client taskId id, fun _ _ => startRound_asks⟩,
    fun server taskId =>
      ⟨getVdafParameterFromTask_names server taskId, fun _ _ => getVdafParameterFromTask_asks⟩,
    fun _ _ _ _ _ _ => answer_startRound_taskId, fun _ _ => handleGetVdafParameter_eq, ?_⟩
  · intro s taskId h
    obtain rfl := eq_toString_of_taskIdFromString h
    exact ⟨rfl, isTaskIdString_toString taskId⟩
  · intro istate mstate mstate' taskId es s h
    rcases apiStartRound_cases h with ⟨failure, hfailed, -⟩ | ⟨id, -, hok, rfl⟩
    · cases hfailed
    · cases hok
      exact ⟨rfl, roundSettings_new_toString taskId⟩

namespace Sample

/-- Both managers start a round, and a client that is given the returned string
has the settings of the recorded task. -/
theorem startedRound_settings :
    ∃ es s, Script.Follows (apiStartRound collecting ⟨⟨none, some ⟨5⟩⟩⟩ (taskId 1)) es
        (.ret (.ok s, startedRound)) ∧
      RoundSettings.new s = .ok ⟨taskId 1, TIME_PRECISION, false⟩ := by
  have hplay : ((apiStartRound collecting ⟨⟨none, some ⟨5⟩⟩⟩ (taskId 1)).play
      (roundAnswers 5).managers 0).1 = (.ok (taskIdToString (taskId 1)), startedRound) := rfl
  have hfollows := Script.follows_play (roundAnswers 5).managers 0
    (apiStartRound collecting ⟨⟨none, some ⟨5⟩⟩⟩ (taskId 1))
  rw [hplay] at hfollows
  obtain ⟨-, -, -, -, -, -, hsettings⟩ := taskId_strings_faithful
  exact ⟨_, _, hfollows, (hsettings _ _ _ _ _ _ hfollows).2⟩

end Sample
