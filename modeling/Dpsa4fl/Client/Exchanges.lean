-- SUMMARY: What a client must have exchanged with the outside to be initialized, and before it uploads.
import Dpsa4fl.Client.Embedded

/-!
# Exchanges of a client

A client keeps the parametrization that it got when it was initialized. So all
its uploads, whichever tasks they go to, fit the parameters that both managers
have named for the first one.
-/

/-! ## Initialization -/

/-- The exchange in which a manager names the parameters of a task. -/
def parameterExchange (server : ManagerServer) (taskId : TaskId) (p : VdafParameter) : Exchange :=
  ⟨.manager server (.getVdafParameter ⟨taskIdToString taskId⟩), .ok (.ok (.getVdafParameter p))⟩

section
variable {es : List Exchange}

theorem follows_getVdafParameterFromTask {server : ManagerServer} {taskId : TaskId}
    {p : VdafParameter} (h : Script.Follows (getVdafParameterFromTask server taskId) es (.ret p)) :
    es = [parameterExchange server taskId p] := by
  unfold getVdafParameterFromTask at h
  rcases Net.follows_post h with ⟨-, hret⟩ | ⟨e, -, hret⟩ | ⟨response, es', rfl, hrest⟩
  · cases hret
  · cases hret
  · split at hrest
    · obtain ⟨rfl, hret⟩ := Script.Follows.ret_iff.mp hrest
      cases hret
      rfl
    · obtain ⟨-, hret⟩ := Script.Follows.fail_iff.mp hrest
      cases hret

theorem follows_getParametrization {taskId : TaskId} {l : Locations}
    {p : CommonStateParametrization}
    (h : Script.Follows (getParametrization taskId l) es (.ret p)) :
    es = [parameterExchange .leader taskId p.vdafParameter,
      parameterExchange .helper taskId p.vdafParameter] := by
  obtain ⟨es₁, es₂, leaderParam, rfl, hleader, h⟩ := h.bind_ret
  obtain ⟨es₂, es₃, helperParam, rfl, hhelper, h⟩ := h.bind_ret
  rw [follows_getVdafParameterFromTask hleader, follows_getVdafParameterFromTask hhelper]
  split at h
  · rename_i heq
    obtain ⟨rfl, hret⟩ := Script.Follows.ret_iff.mp h
    cases hret
    rw [← heq]
    rfl
  · obtain ⟨-, hret⟩ := Script.Follows.fail_iff.mp h
    cases hret

/-- A client state is made only after both managers have named its parameters. -/
theorem ClientState.follows_new {managerLocations : ManagerLocations}
    {roundSettings : RoundSettings} {state : ClientState}
    (h : Script.Follows (ClientState.new managerLocations roundSettings) es (.ret state))
    (server : ManagerServer) :
    parameterExchange server roundSettings.taskId state.parametrization.vdafParameter ∈ es := by
  unfold ClientState.new at h
  obtain ⟨es₀, es₁, result, rfl, -, h⟩ := h.bind_ret
  obtain ⟨es₁, es₂, _, rfl, -, h⟩ := h.bind_ret
  obtain ⟨es₂, es₃, mainLocations, rfl, -, h⟩ := h.bind_ret
  obtain ⟨es₃, es₄, parametrization, rfl, hparametrization, h⟩ := h.bind_ret
  obtain ⟨rfl, hret⟩ := Script.Follows.ret_iff.mp h
  cases hret
  rw [follows_getParametrization hparametrization]
  cases server <;> simp

theorem ClientState.settings_new {managerLocations : ManagerLocations}
    {roundSettings : RoundSettings} {state : ClientState}
    (h : Script.Follows (ClientState.new managerLocations roundSettings) es (.ret state)) :
    state.round.config.settings = roundSettings := by
  unfold ClientState.new at h
  obtain ⟨es₀, es₁, result, rfl, -, h⟩ := h.bind_ret
  obtain ⟨es₁, es₂, _, rfl, -, h⟩ := h.bind_ret
  obtain ⟨es₂, es₃, mainLocations, rfl, -, h⟩ := h.bind_ret
  obtain ⟨es₃, es₄, parametrization, rfl, -, h⟩ := h.bind_ret
  obtain ⟨-, hret⟩ := Script.Follows.ret_iff.mp h
  cases hret
  rfl

end

/-! ## Uploads -/

/-- The upload suits the parameters: the vector has their length and type, and
so has the VDAF of the client that encodes it. -/
structure VdafParameter.Suits (p : VdafParameter) (client : JanusClient)
    (measurement : VecFixedAny) : Prop where
  length : measurement.length = p.gradientLen
  tag : measurement.tag = p.submissionType
  vdafLength : client.vdaf.length = p.gradientLen
  fixedType : client.vdaf.fixedType = p.submissionType

/-- An upload suits all parameters with the same length and type. -/
theorem VdafParameter.Suits.iff {p : VdafParameter} {client : JanusClient}
    {measurement : VecFixedAny} (h : p.Suits client measurement) (q : VdafParameter) :
    q.Suits client measurement ↔
      q.gradientLen = p.gradientLen ∧ q.submissionType = p.submissionType := by
  constructor
  · intro hq
    exact ⟨hq.length.symm.trans h.length, hq.tag.symm.trans h.tag⟩
  · rintro ⟨hlength, htag⟩
    exact ⟨h.length.trans hlength.symm, h.tag.trans htag.symm, h.vdafLength.trans hlength.symm,
      h.fixedType.trans htag.symm⟩

/-- What a client does to be initialized. -/
def Op.Initial : Op → Prop
  | .manager _ .getMainLocations => True
  | .manager _ (.getVdafParameter _) => True
  | .defaultHttpClient => True
  | _ => False

/-- What a client does to submit a gradient: an upload is for its round and
suits its parameters. -/
def ClientState.Permits (self : ClientState) : Op → Prop
  | .buildClient _ => True
  | .upload client measurement =>
    self.parametrization.vdafParameter.Suits client measurement ∧
      client.taskId = self.round.config.settings.taskId
  | _ => False

section
variable {J : Janus}

theorem ClientState.new_initial (managerLocations : ManagerLocations)
    (roundSettings : RoundSettings) :
    (ClientState.new managerLocations roundSettings).All Op.Initial := by
  have hpost : ∀ server, (Net.post server .getMainLocations).All Op.Initial :=
    fun _ => Net.all_post trivial
  have hlocations : getMainLocations.All Op.Initial := by
    refine (hpost _).bind fun a => (hpost _).bind fun b => ?_
    split
    · split <;> trivial
    · trivial
  have hparameter : ∀ server taskId, (getVdafParameterFromTask server taskId).All Op.Initial := by
    intro server taskId
    have hpost : ∀ query, (Net.post server (.getVdafParameter query)).All Op.Initial :=
      fun _ => Net.all_post trivial
    apply (hpost _).bind
    intro response
    split <;> trivial
  have hparametrization : ∀ l, (getParametrization roundSettings.taskId l).All Op.Initial := by
    intro l
    refine (hparameter _ _).bind fun a => (hparameter _ _).bind fun b => ?_
    split <;> trivial
  refine Script.All.bind ⟨trivial, fun _ => trivial⟩ fun result => ?_
  refine (Net.all_orReturn result _).bind fun _ => ?_
  exact hlocations.bind fun a => (hparametrization _).bind fun _ => trivial

/-- The janus client for a round, for vectors of this type. -/
def ClientState.janusClient (self : ClientState) (tag : FixedTypeTag) : JanusClient where
  taskId := self.round.config.settings.taskId
  leaderAggregatorEndpoint := self.parametrization.location.main.externalLeader
  helperAggregatorEndpoint := self.parametrization.location.main.externalHelper
  timePrecision := 1
  vdaf := ⟨tag, 2, self.parametrization.vdafParameter.gradientLen⟩

/-- The data passes the checks of a submission. -/
def ClientState.Checks (self : ClientState) (data : VecFixedAny) : Prop :=
  data.length = self.parametrization.vdafParameter.gradientLen ∧
    data.tag = self.parametrization.vdafParameter.submissionType

/-- What a submission of this data exchanges. -/
inductive ClientState.Issues (self : ClientState) (data : VecFixedAny) : Op → Prop where
  | buildClient (hchecks : self.Checks data) :
      Issues self data (.buildClient (self.janusClient data.tag))
  | upload (hchecks : self.Checks data) :
      Issues self data (.upload (self.janusClient data.tag) data)

/-- A vector that passes the checks is uploaded with a client of the same length and type. -/
theorem ClientState.getSubmissionResultImpl_issues {Fx : Type} [CompatibleFloat Fx]
    [IsTagInstance Fx] (hlength : ∀ v : List Fx, (CompatibleFloat.vector v).length = v.length)
    (htag : ∀ v : List Fx, (CompatibleFloat.vector v).tag = IsTagInstance.getTag Fx)
    (htype : CompatibleFloat.fixedType Fx = IsTagInstance.getTag Fx) (self : ClientState)
    (v : List Fx) :
    (self.getSubmissionResultImpl J Fx v).All (self.Issues (CompatibleFloat.vector v)) := by
  unfold getSubmissionResultImpl
  simp only
  split
  · trivial
  · rename_i hv
    split
    · trivial
    · rename_i ht
      simp only [not_not] at hv ht
      have hchecks : self.Checks (CompatibleFloat.vector v) :=
        ⟨(hlength v).trans hv, (htag v).trans ht⟩
      have hclient : self.janusClient (CompatibleFloat.fixedType Fx) =
          self.janusClient (CompatibleFloat.vector v).tag := by
        rw [htag, htype]
      have hbuild : self.Issues (CompatibleFloat.vector v)
          (.buildClient (self.janusClient (CompatibleFloat.fixedType Fx))) := by
        rw [hclient]
        exact .buildClient hchecks
      have hupload : self.Issues (CompatibleFloat.vector v)
          (.upload (self.janusClient (CompatibleFloat.fixedType Fx))
            (CompatibleFloat.vector v)) := by
        rw [hclient]
        exact .upload hchecks
      unfold getJanusClient
      simp only
      cases J.newFixedpointBoundedl2VecSum _ with
      | error e => trivial
      | ok _ =>
          refine ⟨hbuild, fun r => ?_⟩
          cases r with
          | error e => trivial
          | ok _ => exact ⟨hupload, fun _ => Net.all_orReturn _ _⟩

theorem ClientState.getSubmissionResult_issues (self : ClientState) (data : VecFixedAny) :
    (self.getSubmissionResult J data).All (self.Issues data) := by
  cases data with
  | vecFixed16 v =>
      exact getSubmissionResultImpl_issues (fun _ => rfl) (fun _ => rfl) rfl self v
  | vecFixed32 v =>
      exact getSubmissionResultImpl_issues (fun _ => rfl) (fun _ => rfl) rfl self v

theorem ClientState.getSubmissionResult_permits (self : ClientState) (measurement : VecFixedAny) :
    (self.getSubmissionResult J measurement).All self.Permits := by
  refine (self.getSubmissionResult_issues measurement).mono fun op h => ?_
  cases h with
  | buildClient => trivial
  | upload hchecks => exact ⟨⟨hchecks.1, hchecks.2, rfl, hchecks.2⟩, rfl⟩

theorem ClientState.getSubmissionResultImpl_rejects {Fx : Type} [CompatibleFloat Fx]
    [IsTagInstance Fx] (self : ClientState) (v : List Fx)
    (h : v.length ≠ self.parametrization.vdafParameter.gradientLen ∨
      IsTagInstance.getTag Fx ≠ self.parametrization.vdafParameter.submissionType) :
    ∃ error, self.getSubmissionResultImpl J Fx v = .fail (.err error) := by
  unfold getSubmissionResultImpl
  simp only
  split
  · exact ⟨_, rfl⟩
  · rename_i hv
    rw [if_pos (h.resolve_left hv)]
    exact ⟨_, rfl⟩

/-- A vector of another length or type is rejected before anything is exchanged. -/
theorem ClientState.getSubmissionResult_rejects (self : ClientState) (measurement : VecFixedAny)
    (h : measurement.length ≠ self.parametrization.vdafParameter.gradientLen ∨
      measurement.tag ≠ self.parametrization.vdafParameter.submissionType) :
    ∃ error, self.getSubmissionResult J measurement = .fail (.err error) := by
  cases measurement with
  | vecFixed16 v => exact getSubmissionResultImpl_rejects self v h
  | vecFixed32 v => exact getSubmissionResultImpl_rejects self v h

end

/-! ## Calls -/

/-- The ways in which a configuration of the round can end. -/
inductive ClientStatePU.Updates (roundSettings : RoundSettings) :
    ClientStatePU → List Exchange → Except Failure Unit → ClientStatePU → Prop where
  | next {c : ClientState} :
      Updates roundSettings (.validState c) [] (.ok ())
        (.validState (c.updateToNextRoundConfig roundSettings))
  | failed {m es failure}
      (hnew : Script.Follows (ClientState.new m roundSettings).attempt es
        (.ret (.error failure) : Api (Except Failure ClientState))) :
      Updates roundSettings (.initState m) es (.error failure) (.initState m)
  | initialized {m es} {c : ClientState}
      (hnew : Script.Follows (ClientState.new m roundSettings) es (.ret c)) :
      Updates roundSettings (.initState m) es (.ok ()) (.validState c)

section
variable {J : Janus} {es : List Exchange} {s s' : ClientStatePU} {roundSettings : RoundSettings}
  {result : Except Failure Unit}

theorem updates_of_follows
    (h : Script.Follows (apiUpdateClientRoundSettings s roundSettings) es (.ret (result, s'))) :
    s.Updates roundSettings es result s' := by
  cases s with
  | initState m =>
      obtain ⟨es₁, es₂, r, rfl, hnew, h⟩ := h.bind_ret
      cases r with
      | error failure =>
          obtain ⟨rfl, hret⟩ := Script.Follows.ret_iff.mp h
          cases hret
          rw [List.append_nil]
          exact .failed hnew
      | ok c =>
          obtain ⟨rfl, hret⟩ := Script.Follows.ret_iff.mp h
          cases hret
          rw [List.append_nil]
          exact .initialized hnew.attempt_ok
  | validState c =>
      obtain ⟨rfl, hret⟩ := Script.Follows.ret_iff.mp h
      cases hret
      exact .next

theorem ClientStatePU.Updates.settings {c : ClientState} (h : s.Updates roundSettings es result s')
    (hresult : result = .ok ()) (hs' : s' = .validState c) :
    c.round.config.settings = roundSettings := by
  cases h with
  | next => cases hs'; rfl
  | failed => cases hresult
  | initialized hnew => cases hs'; exact ClientState.settings_new hnew

theorem apiUpdateClientRoundSettings_initial (s : ClientStatePU) (roundSettings : RoundSettings) :
    (apiUpdateClientRoundSettings s roundSettings).All Op.Initial := by
  cases s with
  | initState p =>
      apply (ClientState.new_initial p roundSettings).attempt.bind
      intro result
      cases result <;> trivial
  | validState s => trivial

/-- Every call configures the round first, and does not touch the state after that. -/
theorem ClientCall.run_updates {call : ClientCall}
    (h : Script.Follows (call.run J s) es (.ret (result, s'))) :
    ∃ es₁ es₂ result₁, es = es₁ ++ es₂ ∧ s.Updates call.roundSettings es₁ result₁ s' := by
  cases call with
  | updateRoundSettings roundSettings =>
      exact ⟨es, [], result, (List.append_nil es).symm, updates_of_follows h⟩
  | submitWith roundSettings getData =>
      obtain ⟨es₁, es₂, ⟨result₁, s₁⟩, rfl, h₁, h₂⟩ := h.bind_ret
      refine ⟨es₁, es₂, result₁, rfl, ?_⟩
      have hupdate := updates_of_follows h₁
      cases result₁ with
      | error failure =>
          cases (Script.Follows.ret_iff.mp h₂).2
          exact hupdate
      | ok _ =>
          cases s₁ with
          | initState p => cases hupdate
          | validState c =>
              obtain ⟨es₃, es₄, r, -, -, h₄⟩ := h₂.bind_ret
              cases (Script.Follows.ret_iff.mp h₄).2
              exact hupdate

/-- What a call uploads is for its own round, and suits the parameters that the
state has once the round is configured. -/
theorem ClientCall.run_uploads {call : ClientCall} {client : JanusClient}
    {measurement : VecFixedAny} {k : Except Error Unit → Api (Except Failure Unit × ClientStatePU)}
    (h : Script.Follows (call.run J s) es (.call (.upload client measurement) k)) :
    ∃ es₁ es₂ c, es = es₁ ++ es₂ ∧ s.Updates call.roundSettings es₁ (.ok ()) (.validState c) ∧
      c.parametrization.vdafParameter.Suits client measurement ∧
      client.taskId = call.roundSettings.taskId := by
  have hinitial := apiUpdateClientRoundSettings_initial s call.roundSettings
  cases call with
  | updateRoundSettings roundSettings => exact (hinitial.rest h).1.elim
  | submitWith roundSettings getData =>
      rcases h.bind_call with ⟨_, h₁⟩ | ⟨es₁, es₂, ⟨result, s₁⟩, rfl, h₁, h₂⟩
      · exact (hinitial.rest h₁).1.elim
      · have hupdate := updates_of_follows h₁
        cases result with
        | error failure => cases (Script.Follows.ret_iff.mp h₂).2
        | ok _ =>
            cases s₁ with
            | initState p => cases hupdate
            | validState c =>
                have hall : Script.All c.Permits (do
                    let result ← (c.getSubmissionResult J (getData c.parametrization)).attempt
                    return (result, .validState c) : Api (Except Failure Unit × ClientStatePU)) :=
                  (c.getSubmissionResult_permits _).attempt.bind fun _ => trivial
                obtain ⟨hsuits, htask⟩ := (hall.rest h₂).1
                exact ⟨es₁, es₂, c, rfl, hupdate, hsuits,
                  htask.trans (congrArg RoundSettings.taskId (hupdate.settings rfl rfl))⟩

end

/-! ## Calls in a row -/

/-- Among the calls on the state `s`, with the exchanges `es`, this one initialized
the client: it found no client state, and `ClientState::new` returned `c` in it. -/
inductive Initializes (J : Janus) :
    ClientStatePU → List ClientCall → List Exchange → ClientCall → ClientState → Prop where
  | here {m call calls es es' c}
      (hnew : Script.Follows (ClientState.new m call.roundSettings) es (.ret c)) :
      Initializes J (.initState m) (call :: calls) (es ++ es') call c
  | later {s s' call call' calls es es' result c}
      (hrun : Script.Follows (call.run J s) es (.ret (result, s')))
      (hlater : Initializes J s' calls es' call' c) :
      Initializes J s (call :: calls) (es ++ es') call' c

/-- The parameters that the state `s` has, or those with which one of the calls
initializes it. -/
inductive Parameters (J : Janus) (s : ClientStatePU) (calls : List ClientCall) (es : List Exchange)
    (p : VdafParameter) : Prop where
  | present {c} (hs : s = .validState c) (hp : c.parametrization.vdafParameter = p)
  | initialized {call c} (h : Initializes J s calls es call c)
      (hp : c.parametrization.vdafParameter = p)

section
variable {J : Janus} {es es' : List Exchange} {s s' : ClientStatePU} {call call' : ClientCall}
  {calls calls' : List ClientCall} {c c' : ClientState} {p : VdafParameter}
  {result : Except Failure Unit}

namespace Initializes

theorem append (h : Initializes J s calls es call c) (es' : List Exchange) :
    Initializes J s calls (es ++ es') call c := by
  induction h with
  | here hnew =>
      rw [List.append_assoc]
      exact .here hnew
  | later hrun _ ih =>
      rw [List.append_assoc]
      exact .later hrun ih

/-- Both managers have named the parameters for the task of the call. -/
theorem exchange (h : Initializes J s calls es call c) (server : ManagerServer) :
    parameterExchange server call.roundSettings.taskId c.parametrization.vdafParameter ∈ es := by
  induction h with
  | here hnew => exact List.mem_append_left _ (ClientState.follows_new hnew server)
  | later _ _ ih => exact List.mem_append_right _ ih

theorem not_valid (h : Initializes J (.validState c') calls es call c) : False := by
  generalize hs : ClientStatePU.validState c' = s at h
  induction h generalizing c' with
  | here => cases hs
  | later hrun _ ih =>
      obtain ⟨_, _, _, -, hupdate⟩ := ClientCall.run_updates hrun
      subst hs
      cases hupdate with
      | next => exact ih rfl

/-- A call in which `ClientState::new` returns a state leaves the client initialized. -/
theorem valid_of_new {m : ManagerLocations} {rest rest' : List Exchange}
    (hnew : Script.Follows (ClientState.new m call.roundSettings) es (.ret c))
    (hrun : Script.Follows (call.run J (.initState m)) es' (.ret (result, s')))
    (heq : es ++ rest = es' ++ rest') : ∃ c', s' = .validState c' := by
  obtain ⟨es₁, es₂, _, rfl, hupdate⟩ := ClientCall.run_updates hrun
  cases hupdate with
  | failed hfailed =>
      rw [List.append_assoc] at heq
      obtain ⟨-, hret⟩ := hnew.attempt_ret.ret_unique hfailed heq
      cases hret
  | initialized => exact ⟨_, rfl⟩

/-- A client is initialized by one of the calls only. -/
theorem unique (h : Initializes J s calls es call c) (h' : Initializes J s calls es call' c') :
    call = call' ∧ c = c' := by
  induction h generalizing call' c' with
  | @here m call calls es es' c hnew =>
      generalize hes : es ++ es' = trace at h'
      cases h' with
      | here hnew' => exact ⟨rfl, (hnew.ret_unique hnew' hes).2⟩
      | later hrun' hlater' =>
          obtain ⟨_, rfl⟩ := valid_of_new hnew hrun' hes
          exact hlater'.not_valid.elim
  | @later s s₁ call₀ call calls es es' result c hrun hlater ih =>
      generalize hes : es ++ es' = trace at h'
      cases h' with
      | here hnew' =>
          obtain ⟨_, rfl⟩ := valid_of_new hnew' hrun hes.symm
          exact hlater.not_valid.elim
      | later hrun' hlater' =>
          obtain ⟨rfl, hret⟩ := hrun.ret_unique hrun' hes
          cases hret
          obtain rfl := List.append_cancel_left hes
          exact ih hlater'

end Initializes

namespace Parameters

theorem of_updates {es₁ es₂ : List Exchange}
    (h : s.Updates call.roundSettings es₁ result (.validState c)) :
    Parameters J s (call :: calls) (es₁ ++ es₂) c.parametrization.vdafParameter := by
  cases h with
  | next => exact .present rfl rfl
  | initialized hnew => exact .initialized (.here hnew) rfl

theorem later (hrun : Script.Follows (call.run J s) es (.ret (result, s')))
    (h : Parameters J s' calls es' p) : Parameters J s (call :: calls) (es ++ es') p := by
  cases h with
  | present hs' hp =>
      obtain ⟨es₁, es₂, _, rfl, hupdate⟩ := ClientCall.run_updates hrun
      subst hs' hp
      rw [List.append_assoc]
      exact .of_updates hupdate
  | initialized hlater hp => exact .initialized (.later hrun hlater) hp

/-- A client state that is new has its parameters from one of the calls. -/
theorem exists_initializes {m : ManagerLocations} (h : Parameters J (.initState m) calls es p) :
    ∃ call c, Initializes J (.initState m) calls es call c ∧
      c.parametrization.vdafParameter = p := by
  cases h with
  | present hs => cases hs
  | initialized h hp => exact ⟨_, _, h, hp⟩

end Parameters

/-- Every upload in a row of calls is for the task of one of them, and suits the
parameters with which the client was initialized. -/
theorem clientCalls_uploads {client : JanusClient} {measurement : VecFixedAny}
    {k : Except Error Unit → Api ClientStatePU}
    (h : Script.Follows (clientCalls J s calls) es (.call (.upload client measurement) k)) :
    client.taskId ∈ calls.map (·.roundSettings.taskId) ∧
      ∃ p, Parameters J s calls es p ∧ p.Suits client measurement := by
  induction calls generalizing s es with
  | nil => cases (Script.Follows.ret_iff.mp h).2
  | cons call calls ih =>
      rcases h.bind_call with ⟨k', h₁⟩ | ⟨es₁, es₂, ⟨result, s₁⟩, rfl, h₁, h₂⟩
      · obtain ⟨es₁, es₂, c, rfl, hupdate, hsuits, htask⟩ := ClientCall.run_uploads h₁
        exact ⟨by rw [htask]; exact List.mem_cons_self, _, .of_updates hupdate, hsuits⟩
      · obtain ⟨htask, p, hp, hsuits⟩ := ih h₂
        exact ⟨List.mem_cons_of_mem _ htask, p, hp.later h₁, hsuits⟩

/-- The parameters of the state that a call configures are those with which the
client was initialized. -/
theorem clientCalls_parameters {calls₁ calls₂ : List ClientCall} {es₁ es₂ es₃ : List Exchange}
    (h : Script.Follows (clientCalls J s calls₁) es₁ (.ret s'))
    (hupdate : s'.Updates call.roundSettings es₂ result (.validState c)) :
    Parameters J s (calls₁ ++ call :: calls₂) (es₁ ++ (es₂ ++ es₃))
      c.parametrization.vdafParameter := by
  induction calls₁ generalizing s es₁ with
  | nil =>
      obtain ⟨rfl, hret⟩ := Script.Follows.ret_iff.mp h
      cases hret
      simp only [List.nil_append]
      exact .of_updates hupdate
  | cons call' calls₁ ih =>
      obtain ⟨es, es', ⟨result', s₁⟩, rfl, h₁, h₂⟩ := h.bind_ret
      rw [List.append_assoc]
      exact (ih h₂).later h₁

end

/-! ## Queries -/

/-- If this is a request to a manager, then one that changes nothing. -/
def Op.Query : Op → Prop
  | .manager _ .getMainLocations => True
  | .manager _ (.getVdafParameter _) => True
  | .manager _ _ => False
  | _ => True

section
variable {J : Janus}

theorem Op.Initial.query {op : Op} (h : op.Initial) : op.Query := by
  cases op with
  | manager server request => cases request <;> trivial
  | _ => trivial

theorem ClientState.Permits.query {self : ClientState} {op : Op} (h : self.Permits op) :
    op.Query := by
  cases op with
  | manager server request => exact h.elim
  | _ => trivial

theorem apiSubmitWith_query (s : ClientStatePU) (roundSettings : RoundSettings)
    (getData : CommonStateParametrization → VecFixedAny) :
    (apiSubmitWith J s roundSettings getData).All Op.Query := by
  apply ((apiUpdateClientRoundSettings_initial s roundSettings).mono fun _ h => h.query).bind
  rintro ⟨_ | _, s₁⟩
  · trivial
  · cases s₁ with
    | initState p => trivial
    | validState state =>
        exact ((state.getSubmissionResult_permits _).mono fun _ h => h.query).attempt.bind
          fun _ => trivial

/-- A client only queries the managers. -/
theorem clientCalls_query (s : ClientStatePU) (calls : List ClientCall) :
    (clientCalls J s calls).All Op.Query := by
  induction calls generalizing s with
  | nil => trivial
  | cons call calls ih =>
      refine Script.All.bind ?_ fun r => ih r.2
      cases call with
      | updateRoundSettings roundSettings =>
          exact (apiUpdateClientRoundSettings_initial s roundSettings).mono fun _ h => h.query
      | submitWith roundSettings getData => exact apiSubmitWith_query s roundSettings getData

end
