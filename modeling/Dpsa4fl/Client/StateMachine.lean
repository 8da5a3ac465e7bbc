-- SUMMARY: The client as a state machine: what every call can do to its state, and what it uploads.
import Dpsa4fl.Library.Run
import Dpsa4fl.Client.Exchanges

/-!
# The client's state machine

A client is initialized by the first call whose four queries are answered as
they should be, and never again. `ClientStatePU.Updates` and `Submits` list the
ways in which a call can end, for all answers from the outside.
-/

/-! ## Initialization -/

/-- The exchange in which a manager names the main locations. -/
def locationExchange (server : ManagerServer) (l : MainLocations) : Exchange :=
  ⟨.manager server .getMainLocations, .ok (.ok (.getMainLocations l))⟩

/-- Both managers have reported this parametrization, for the task: the same main
locations and the same VDAF parameters. -/
structure Reported (m : ManagerLocations) (taskId : TaskId) (es : List Exchange)
    (p : CommonStateParametrization) : Prop where
  manager : p.location.manager = m
  locations : ∀ server, locationExchange server p.location.main ∈ es
  parameters : ∀ server, parameterExchange server taskId p.vdafParameter ∈ es

theorem Reported.mono {m : ManagerLocations} {taskId : TaskId} {es es' : List Exchange}
    {p : CommonStateParametrization} (h : Reported m taskId es p) (hes : es ⊆ es') :
    Reported m taskId es' p :=
  ⟨h.manager, fun server => hes (h.locations server), fun server => hes (h.parameters server)⟩

theorem HttpResponse.mainLocations_eq_some {response : HttpResponse} {l : MainLocations} :
    response.mainLocations = some l ↔ response = .ok (.getMainLocations l) := by
  cases response with
  | ok r => cases r <;> simp [mainLocations]
  | badRequest e => simp [mainLocations]

section
variable {es : List Exchange}

theorem follows_getMainLocations {l : MainLocations}
    (h : Script.Follows getMainLocations es (.ret l)) :
    es = [locationExchange .leader l, locationExchange .helper l] := by
  unfold getMainLocations at h
  rcases Net.follows_post h with ⟨-, hret⟩ | ⟨e, -, hret⟩ | ⟨leader, es₁, rfl, hrest⟩
  · cases hret
  · cases hret
  · rcases Net.follows_post hrest with ⟨-, hret⟩ | ⟨e, -, hret⟩ | ⟨helper, es₂, rfl, hend⟩
    · cases hret
    · cases hret
    · split at hend
      · rename_i a b ha hb
        split at hend
        · rename_i hab
          obtain ⟨rfl, hret⟩ := Script.Follows.ret_iff.mp hend
          cases hret
          rw [HttpResponse.mainLocations_eq_some.mp ha, HttpResponse.mainLocations_eq_some.mp hb,
            ← hab]
          rfl
        · cases (Script.Follows.fail_iff.mp hend).2
      · cases (Script.Follows.fail_iff.mp hend).2

theorem location_getParametrization {taskId : TaskId} {l : Locations}
    {p : CommonStateParametrization}
    (h : Script.Follows (getParametrization taskId l) es (.ret p)) : p.location = l := by
  obtain ⟨es₁, es₂, leaderParam, rfl, -, h⟩ := h.bind_ret
  obtain ⟨es₂, es₃, helperParam, rfl, -, h⟩ := h.bind_ret
  split at h
  · cases (Script.Follows.ret_iff.mp h).2
    rfl
  · cases (Script.Follows.fail_iff.mp h).2

/-- A client state is made only of what both managers have reported. -/
theorem ClientState.reported_new {m : ManagerLocations} {roundSettings : RoundSettings}
    {state : ClientState}
    (h : Script.Follows (ClientState.new m roundSettings) es (.ret state)) :
    Reported m roundSettings.taskId es state.parametrization := by
  have hparameters := ClientState.follows_new h
  unfold ClientState.new at h
  obtain ⟨es₀, es₁, result, rfl, -, h⟩ := h.bind_ret
  obtain ⟨es₁, es₂, _, rfl, -, h⟩ := h.bind_ret
  obtain ⟨es₂, es₃, mainLocations, rfl, hlocations, h⟩ := h.bind_ret
  obtain ⟨es₃, es₄, parametrization, rfl, hparametrization, h⟩ := h.bind_ret
  obtain ⟨rfl, hret⟩ := Script.Follows.ret_iff.mp h
  cases hret
  have hlocation := location_getParametrization hparametrization
  refine ⟨by rw [hlocation], fun server => ?_, hparameters⟩
  rw [follows_getMainLocations hlocations, hlocation]
  cases server <;> simp

end

/-! ## The calls -/

/-- The upload is one of this data, which suits the parametrization, to the task
of the round through the aggregators of the stored locations. -/
structure ClientState.Uploads (c : ClientState) (data : VecFixedAny) (client : JanusClient)
    (measurement : VecFixedAny) : Prop where
  measurement : measurement = data
  length : data.length = c.parametrization.vdafParameter.gradientLen
  tag : data.tag = c.parametrization.vdafParameter.submissionType
  taskId : client.taskId = c.round.config.settings.taskId
  leader : client.leaderAggregatorEndpoint = c.parametrization.location.main.externalLeader
  helper : client.helperAggregatorEndpoint = c.parametrization.location.main.externalHelper
  timePrecision : client.timePrecision = 1

def Op.isUpload : Op → Bool
  | .upload _ _ => true
  | _ => false

section
variable {J : Janus} {s s' : ClientStatePU} {es : List Exchange} {roundSettings : RoundSettings}
  {result : Except Failure Unit}

theorem Op.Initial.isUpload {op : Op} (h : op.Initial) : op.isUpload = false := by
  cases op with
  | upload client measurement => exact h.elim
  | _ => rfl

theorem apiUpdateClientRoundSettings_no_upload (s : ClientStatePU) (roundSettings : RoundSettings) :
    (apiUpdateClientRoundSettings s roundSettings).All fun op => op.isUpload = false :=
  (apiUpdateClientRoundSettings_initial s roundSettings).mono fun _ h => h.isUpload

theorem getJanusClient_no_upload (Fx : Type) [CompatibleFloat Fx] (roundSettings : RoundSettings)
    (l : Locations) (vdafParameter : VdafParameter) :
    (getJanusClient J Fx roundSettings l vdafParameter).All fun op => op.isUpload = false := by
  refine (Net.all_orReturn _ _).bind fun _ => ?_
  exact Script.All.bind ⟨rfl, fun _ => trivial⟩ fun r => (Net.all_orReturn r _).bind fun _ => trivial

theorem ClientState.getSubmissionResult_atMostOne (self : ClientState) (data : VecFixedAny) :
    (self.getSubmissionResult J data).AtMostOne Op.isUpload := by
  have himpl : ∀ (Fx : Type) [CompatibleFloat Fx] [IsTagInstance Fx] (v : List Fx),
      (self.getSubmissionResultImpl J Fx v).AtMostOne Op.isUpload := by
    intro Fx _ _ v
    unfold getSubmissionResultImpl
    simp only
    split
    · trivial
    · split
      · trivial
      · refine .bind (getJanusClient_no_upload Fx _ _ _) fun client => ?_
        exact .call_of_all fun r => Net.all_orReturn r _
  cases data with
  | vecFixed16 v => exact himpl Fixed16 v
  | vecFixed32 v => exact himpl Fixed32 v

theorem ClientState.getSubmissionResult_uploads (self : ClientState) (data : VecFixedAny) :
    (self.getSubmissionResult J data).All fun op => ∀ client measurement,
      op = .upload client measurement → self.Uploads data client measurement := by
  refine (self.getSubmissionResult_issues data).mono fun op h => ?_
  cases h with
  | buildClient => intro _ _ heq; cases heq
  | upload hchecks =>
      rintro _ _ ⟨⟩
      exact ⟨rfl, hchecks.1, hchecks.2, rfl, rfl, rfl, rfl⟩

end

/-- The ways in which a submission can end. -/
inductive ClientStatePU.Submits (roundSettings : RoundSettings)
    (getData : CommonStateParametrization → VecFixedAny) (s : ClientStatePU) :
    List Exchange → Except Failure Unit → ClientStatePU → Prop where
  | failed {es failure s'} (hupdate : s.Updates roundSettings es (.error failure) s')
      (hno : ∀ e ∈ es, e.1.isUpload = false) :
      Submits roundSettings getData s es (.error failure) s'
  | submitted {es es' result} {c : ClientState}
      (hupdate : s.Updates roundSettings es (.ok ()) (.validState c))
      (hno : ∀ e ∈ es, e.1.isUpload = false)
      (hone : es'.countP (fun e => e.1.isUpload) ≤ 1)
      (huploads : ∀ client measurement r, (⟨.upload client measurement, r⟩ : Exchange) ∈ es' →
        c.Uploads (getData c.parametrization) client measurement) :
      Submits roundSettings getData s (es ++ es') result (.validState c)

/-! ## What a call guarantees -/

/-- A state that is not initialized is the new one, and a parametrization was
reported by both managers. -/
def ClientStatePU.Sound (m : ManagerLocations) (log : List Exchange) : ClientStatePU → Prop
  | initState p => p = m
  | validState c => ∃ taskId, Reported m taskId log c.parametrization

/-- `call` was made in the state `s` after the exchanges `log`; it has exchanged
`es`, returned `result` and left the state `s'`. -/
structure ClientCall.Lawful (J : Janus) (m : ManagerLocations) (log : List Exchange)
    (s : ClientStatePU) (call : ClientCall) (es : List Exchange) (result : Except Failure Unit)
    (s' : ClientStatePU) : Prop where
  /-- An initialized state stays so, with its parametrization. -/
  valid : ∀ c, s = .validState c →
    ∃ c', s' = .validState c' ∧ c'.parametrization = c.parametrization
  /-- A call that does not complete the initialization fails and leaves the state. -/
  init : ∀ p, s = .initState p → p = m ∧
    ((s' = .initState m ∧ ∃ failure, result = .error failure) ∨ ∃ c, s' = .validState c)
  reported : ∀ c, s' = .validState c → ∃ taskId, Reported m taskId (log ++ es) c.parametrization
  /-- There is an initialized state after every successful configuration, so the
  other branch of a submission is not taken. -/
  branch : ∀ es₁ s₁, Script.Follows (apiUpdateClientRoundSettings s call.roundSettings) es₁
    (.ret (.ok (), s₁)) → ∃ c, s₁ = .validState c
  one : es.countP (fun e => e.1.isUpload) ≤ 1
  uploads : ∀ client measurement r, (⟨.upload client measurement, r⟩ : Exchange) ∈ es →
    ∃ getData c, call = .submitWith call.roundSettings getData ∧ s' = .validState c ∧
      client.taskId = call.roundSettings.taskId ∧
      c.Uploads (getData c.parametrization) client measurement

section
variable {J : Janus} {m : ManagerLocations} {log es : List Exchange} {s s' : ClientStatePU}
  {roundSettings : RoundSettings} {result : Except Failure Unit}

theorem submits_of_follows {getData : CommonStateParametrization → VecFixedAny}
    (h : Script.Follows (apiSubmitWith J s roundSettings getData) es (.ret (result, s'))) :
    s.Submits roundSettings getData es result s' := by
  obtain ⟨es₁, es₂, ⟨result₁, s₁⟩, rfl, h₁, h₂⟩ := h.bind_ret
  have hupdate := updates_of_follows h₁
  have hno := (apiUpdateClientRoundSettings_no_upload s roundSettings).of_follows h₁
  cases result₁ with
  | error failure =>
      obtain ⟨rfl, hret⟩ := Script.Follows.ret_iff.mp h₂
      cases hret
      rw [List.append_nil]
      exact .failed hupdate hno
  | ok _ =>
      cases s₁ with
      | initState p => cases hupdate
      | validState c =>
          obtain ⟨es₃, es₄, r, rfl, hsubmit, h₄⟩ := h₂.bind_ret
          obtain ⟨rfl, hret⟩ := Script.Follows.ret_iff.mp h₄
          cases hret
          rw [List.append_nil]
          refine .submitted hupdate hno ?_ fun client measurement r hmem => ?_
          · exact (c.getSubmissionResult_atMostOne _).attempt.count_le hsubmit
          · exact (c.getSubmissionResult_uploads _).attempt.of_follows hsubmit _ hmem _ _ rfl

namespace ClientStatePU

theorem Updates.valid {c : ClientState} (h : s.Updates roundSettings es result s')
    (hs : s = .validState c) : ∃ c', s' = .validState c' ∧ c'.parametrization = c.parametrization := by
  cases h with
  | next => cases hs; exact ⟨_, rfl, rfl⟩
  | failed => cases hs
  | initialized => cases hs

theorem Updates.init {p : ManagerLocations} (h : s.Updates roundSettings es result s')
    (hs : s = .initState p) :
    (s' = .initState p ∧ ∃ failure, result = .error failure) ∨ ∃ c, s' = .validState c := by
  cases h with
  | next => cases hs
  | failed => cases hs; exact .inl ⟨rfl, _, rfl⟩
  | initialized => exact .inr ⟨_, rfl⟩

theorem Updates.reported {c : ClientState} (h : s.Updates roundSettings es result s')
    (hs : s.Sound m log) (hs' : s' = .validState c) :
    ∃ taskId, Reported m taskId (log ++ es) c.parametrization := by
  cases h with
  | next =>
      cases hs'
      obtain ⟨taskId, hreported⟩ := hs
      exact ⟨taskId, hreported.mono (List.subset_append_left _ _)⟩
  | failed => cases hs'
  | initialized hnew =>
      cases hs'
      cases hs
      exact ⟨_, (ClientState.reported_new hnew).mono (List.subset_append_right _ _)⟩

theorem Updates.initialized_of_ok (h : s.Updates roundSettings es result s')
    (hresult : result = .ok ()) : ∃ c, s' = .validState c := by
  cases h with
  | next => exact ⟨_, rfl⟩
  | failed => cases hresult
  | initialized => exact ⟨_, rfl⟩

end ClientStatePU

theorem countP_isUpload_eq_zero (h : ∀ e ∈ es, e.1.isUpload = false) :
    es.countP (fun e => e.1.isUpload) = 0 :=
  List.countP_eq_zero.mpr fun e he => by simp [h e he]

/-- A call that ends with the configuration of the round. -/
theorem ClientCall.Lawful.of_updates {call : ClientCall} (hm : ∀ p, s = .initState p → p = m)
    (hbranch : ∀ es₁ s₁, Script.Follows (apiUpdateClientRoundSettings s call.roundSettings) es₁
      (.ret (.ok (), s₁)) → ∃ c, s₁ = .validState c)
    (hupdate : s.Updates call.roundSettings es result s') (hs : s.Sound m log)
    (hno : ∀ e ∈ es, e.1.isUpload = false) : call.Lawful J m log s es result s' where
  valid c hc := hupdate.valid hc
  init p hp := by
    obtain rfl := hm p hp
    exact ⟨rfl, hupdate.init hp⟩
  reported c hc := hupdate.reported hs hc
  branch := hbranch
  one := by
    rw [countP_isUpload_eq_zero hno]
    exact Nat.zero_le 1
  uploads client measurement r hmem := by cases hno _ hmem

/-- The call keeps to the state machine and uploads at most
once, what suits the stored parametrization. -/
theorem ClientCall.lawful_of_follows {call : ClientCall} (hs : s.Sound m log)
    (h : Script.Follows (call.run J s) es (.ret (result, s'))) :
    call.Lawful J m log s es result s' := by
  have hm : ∀ p, s = .initState p → p = m := by
    rintro p rfl
    exact hs
  have hbranch : ∀ es₁ s₁, Script.Follows (apiUpdateClientRoundSettings s call.roundSettings) es₁
      (.ret (.ok (), s₁)) → ∃ c, s₁ = .validState c :=
    fun es₁ s₁ h₁ => (updates_of_follows h₁).initialized_of_ok rfl
  cases call with
  | updateRoundSettings roundSettings =>
      have hno := (apiUpdateClientRoundSettings_no_upload s roundSettings).of_follows h
      exact .of_updates hm hbranch (updates_of_follows h) hs hno
  | submitWith roundSettings getData =>
      cases submits_of_follows h with
      | failed hupdate hno => exact .of_updates hm hbranch hupdate hs hno
      | @submitted es es' result c hupdate hno hone huploads =>
          refine ⟨fun c' hc' => hupdate.valid hc', fun p hp => ?_, fun c' hc' => ?_, hbranch, ?_,
            fun client measurement r hmem => ?_⟩
          · exact ⟨hm p hp, .inr ⟨c, rfl⟩⟩
          · obtain ⟨taskId, hreported⟩ := hupdate.reported hs hc'
            refine ⟨taskId, hreported.mono ?_⟩
            rw [← List.append_assoc]
            exact List.subset_append_left _ _
          · rwa [List.countP_append, countP_isUpload_eq_zero hno, Nat.zero_add]
          · rcases List.mem_append.mp hmem with hmem | hmem
            · cases hno _ hmem
            · have hupload := huploads client measurement r hmem
              exact ⟨getData, c, rfl, rfl, hupload.taskId.trans
                (congrArg RoundSettings.taskId (hupdate.settings rfl rfl)), hupload⟩

end

/-! ## Runs -/

/-- What the outside answers to the operations of a call. -/
abbrev Answers : Type := Nat → (op : Op) → Ans op

/-- Make a call with these answers, and log what it exchanges. -/
def clientStep (J : Janus) (s : ClientStatePU × List Exchange) (a : ClientCall × Answers) :
    Option (ClientStatePU × List Exchange) :=
  let ((_, s'), es) := (a.1.run J s.1).play a.2 0
  some (s', s.2 ++ es)

section
variable {J : Janus} {m : ManagerLocations} {log : List Exchange} {s : ClientStatePU}

theorem clientStep_sound {x x' : ClientStatePU × List Exchange} {a : ClientCall × Answers}
    (hx : x.1.Sound m x.2) (h : clientStep J x a = some x') :
    x'.1.Sound m x'.2 ∧ ∀ c, x.1 = .validState c →
      ∃ c', x'.1 = .validState c' ∧ c'.parametrization = c.parametrization := by
  cases h
  have hlawful := ClientCall.lawful_of_follows hx (Script.follows_play a.2 0 (a.1.run J x.1))
  refine ⟨?_, hlawful.valid⟩
  dsimp only
  cases hs : ((a.1.run J x.1).play a.2 0).1.2 with
  | initState p =>
      cases hx' : x.1 with
      | initState q =>
          rcases (hlawful.init q hx').2 with ⟨heq, -⟩ | ⟨c, heq⟩
          · rw [hs] at heq
            cases heq
            rfl
          · rw [hs] at heq
            cases heq
      | validState c =>
          obtain ⟨c', heq, -⟩ := hlawful.valid c hx'
          rw [hs] at heq
          cases heq
  | validState c => exact hlawful.reported c hs

/-- In every state that a new client can reach, all calls keep to the state machine,
and a client that is initialized stays so with its parametrization for good. -/
theorem client_lawful {as : List (ClientCall × Answers)}
    (hrun : Run.after (clientStep J) (apiNewClientState m, []) as = some (s, log)) :
    (∀ (call : ClientCall) es result s', Script.Follows (call.run J s) es (.ret (result, s')) →
      call.Lawful J m log s es result s') ∧
    ∀ c bs s' log', s = .validState c → Run.after (clientStep J) (s, log) bs = some (s', log') →
      ∃ c', s' = .validState c' ∧ c'.parametrization = c.parametrization := by
  have hsound : s.Sound m log :=
    Run.invariant (P := fun x => x.1.Sound m x.2)
      (fun _ _ _ hx h => (clientStep_sound hx h).1) rfl hrun
  refine ⟨fun call es result s' h => ClientCall.lawful_of_follows hsound h, ?_⟩
  intro c bs s' log' hc hrest
  refine (Run.invariant (P := fun x => x.1.Sound m x.2 ∧
    ∃ c', x.1 = .validState c' ∧ c'.parametrization = c.parametrization) ?_
    ⟨hsound, c, hc, rfl⟩ hrest).2
  rintro x a x' ⟨hx, c', hc', heq⟩ h
  obtain ⟨hx', hvalid⟩ := clientStep_sound hx h
  obtain ⟨c'', hc'', heq'⟩ := hvalid c' hc'
  exact ⟨hx', c'', hc'', heq'.trans heq⟩

end

namespace Sample

/-- Both managers name the sample parameters, and everything goes through. -/
def answers : Answers
  | _, .manager _ (.getVdafParameter _) => .ok (.ok (.getVdafParameter vdafParameter))
  | _, .manager _ _ => .ok (.ok (.getMainLocations ⟨url, url⟩))
  | _, .defaultHttpClient => .ok ()
  | _, .buildClient _ => .ok ()
  | _, .upload _ _ => .ok ()

def submission : ClientCall :=
  .submitWith ⟨taskId 1, TIME_PRECISION, false⟩ fun _ => .vecFixed16 [⟨0⟩, ⟨0⟩]

end Sample

theorem client_lawful_sample :
    ∃ s log, Run.after (clientStep .plain) (apiNewClientState ⟨Sample.url, Sample.url⟩, [])
        [(Sample.submission, Sample.answers)] = some (s, log) ∧
      log.countP (fun e => e.1.isUpload) = 1 ∧
      ∀ (call : ClientCall) es result s', Script.Follows (call.run .plain s) es (.ret (result, s')) →
        call.Lawful .plain ⟨Sample.url, Sample.url⟩ log s es result s' := by
  have hruns : (Run.after (clientStep .plain) (apiNewClientState ⟨Sample.url, Sample.url⟩, [])
      [(Sample.submission, Sample.answers)]).map (fun x => x.2.countP fun e => e.1.isUpload) =
      some 1 := by
    decide +kernel
  obtain ⟨⟨s, log⟩, hrun, hcount⟩ := Option.map_eq_some_iff.mp hruns
  exact ⟨s, log, hrun, hcount, (client_lawful hrun).1⟩
