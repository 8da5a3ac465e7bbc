-- SUMMARY: What the calls on a client upload in all, when the managers name the parameters of their tasks and nothing outside fails.
import Dpsa4fl.Library.Wp
import Dpsa4fl.Client.Exchanges

/-!
# Submissions

Each call that submits a gradient of the right length and type should lead to one
upload, to the task of its round, and no other call to any. That is so if the
managers name the parameters of the tasks and no exchange fails, which is the
precondition `Op.Served` here.
-/

/-! ## Answers that a client hopes for -/

/-- The managers name these locations, and these parameters for the tasks `ids`. All
that is asked of others succeeds. -/
def Op.Served (main : MainLocations) (p : VdafParameter) (ids : List TaskId) :
    Script.Allowed Op Ans
  | .manager _ .getMainLocations, r => r = .ok (.ok (.getMainLocations main))
  | .manager _ (.getVdafParameter request), r =>
    ∀ t ∈ ids, request.taskIdEncoded = taskIdToString t → r = .ok (.ok (.getVdafParameter p))
  | .manager _ _, _ => True
  | .defaultHttpClient, r => r = .ok ()
  | .buildClient _, r => r = .ok ()
  | .upload _ _, r => r = .ok ()

/-! ## Uploads -/

/-- What an exchange uploads. -/
def uploaded : Exchange → Option (JanusClient × VecFixedAny)
  | ⟨.upload client measurement, _⟩ => some (client, measurement)
  | _ => none

def uploads (es : List Exchange) : List (JanusClient × VecFixedAny) := es.filterMap uploaded

@[simp] theorem uploads_nil : uploads [] = [] := rfl

@[simp] theorem uploads_append (es es' : List Exchange) :
    uploads (es ++ es') = uploads es ++ uploads es' :=
  List.filterMap_append

/-- An exchange that is no upload adds none. -/
@[simp] theorem uploads_manager {server : ManagerServer} {request : Request}
    (r : Ans (.manager server request)) (es : List Exchange) :
    uploads (⟨.manager server request, r⟩ :: es) = uploads es := rfl
@[simp] theorem uploads_defaultHttpClient (r : Ans .defaultHttpClient) (es : List Exchange) :
    uploads (⟨.defaultHttpClient, r⟩ :: es) = uploads es := rfl
@[simp] theorem uploads_buildClient {client : JanusClient} (r : Ans (.buildClient client))
    (es : List Exchange) : uploads (⟨.buildClient client, r⟩ :: es) = uploads es := rfl
@[simp] theorem uploads_upload {client : JanusClient} {measurement : VecFixedAny}
    (r : Ans (.upload client measurement)) (es : List Exchange) :
    uploads (⟨.upload client measurement, r⟩ :: es) = (client, measurement) :: uploads es := rfl

instance (self : ClientState) (data : VecFixedAny) : Decidable (self.Checks data) :=
  inferInstanceAs (Decidable (_ ∧ _))

/-- What a submission of this data uploads. -/
def ClientState.report (self : ClientState) (data : VecFixedAny) :
    List (JanusClient × VecFixedAny) :=
  if self.Checks data then [(self.janusClient data.tag, data)] else []

theorem ClientState.report_of_checks {self : ClientState} {data : VecFixedAny}
    (h : self.Checks data) : self.report data = [(self.janusClient data.tag, data)] := if_pos h

theorem ClientState.report_of_not_checks {self : ClientState} {data : VecFixedAny}
    (h : ¬ self.Checks data) : self.report data = [] := if_neg h

/-- What a call uploads, on a client with this parametrization. -/
def ClientCall.report (parametrization : CommonStateParametrization) :
    ClientCall → List (JanusClient × VecFixedAny)
  | updateRoundSettings _ => []
  | submitWith roundSettings getData =>
    ClientState.report ⟨parametrization, ⟨⟨roundSettings⟩⟩⟩ (getData parametrization)

/-- The client has this parametrization, or it has still to be initialized there. -/
def ClientStatePU.Expects (parametrization : CommonStateParametrization) : ClientStatePU → Prop
  | initState managerLocations => managerLocations = parametrization.location.manager
  | validState s => s.parametrization = parametrization

/-! ## Initialization -/

section
variable {J : Janus} {main : MainLocations} {p : VdafParameter} {ids : List TaskId}

theorem wp_getMainLocations :
    getMainLocations.wp (Op.Served main p ids) fun es result =>
      uploads es = [] ∧ result = .ok main := by
  unfold getMainLocations Net.post
  simp only [Script.call_bind, Script.wp_call]
  rintro _ rfl
  simp only [Net.orReturn, Script.ret_bind, Script.wp_call]
  rintro _ rfl
  simp [HttpResponse.mainLocations]

theorem wp_getVdafParameterFromTask (managerServer : ManagerServer) {taskId : TaskId}
    (hid : taskId ∈ ids) :
    (getVdafParameterFromTask managerServer taskId).wp (Op.Served main p ids) fun es result =>
      uploads es = [] ∧ result = .ok p := by
  unfold getVdafParameterFromTask Net.post
  simp only [Script.call_bind, Script.wp_call]
  intro r hr
  obtain rfl := hr taskId hid rfl
  exact ⟨rfl, rfl⟩

/-- Both managers name the same parameters, so the client takes them over. -/
theorem wp_getParametrization {taskId : TaskId} (hid : taskId ∈ ids) (l : Locations) :
    (getParametrization taskId l).wp (Op.Served main p ids) fun es result =>
      uploads es = [] ∧ result = .ok ⟨l, p⟩ := by
  refine (wp_getVdafParameterFromTask .leader hid).bind ?_ (by rintro _ _ ⟨-, h⟩; cases h)
  rintro es leaderParam ⟨hes, h⟩
  cases h
  refine (wp_getVdafParameterFromTask .helper hid).bind ?_ (by rintro _ _ ⟨-, h⟩; cases h)
  rintro es' helperParam ⟨hes', h⟩
  cases h
  simp [hes, hes']

theorem ClientState.wp_new (managerLocations : ManagerLocations) {roundSettings : RoundSettings}
    (hid : roundSettings.taskId ∈ ids) :
    (ClientState.new managerLocations roundSettings).wp (Op.Served main p ids) fun es result =>
      uploads es = [] ∧
        result = .ok ⟨⟨⟨main, managerLocations⟩, p⟩, ⟨⟨roundSettings⟩⟩⟩ := by
  unfold ClientState.new
  simp only [Script.perform_bind, Script.wp_call]
  rintro _ rfl
  refine wp_getMainLocations.bind ?_ (by rintro _ _ ⟨-, h⟩; cases h)
  rintro es mainLocations ⟨hes, h⟩
  cases h
  refine (wp_getParametrization hid _).bind ?_ (by rintro _ _ ⟨-, h⟩; cases h)
  rintro es' parametrization ⟨hes', h⟩
  cases h
  simp [hes, hes']

/-- After an update the client is initialized. It asks the managers only if it was not before. -/
theorem wp_apiUpdateClientRoundSettings {managerLocations : ManagerLocations}
    {roundSettings : RoundSettings} {s : ClientStatePU}
    (hid : ∀ l, s = .initState l → roundSettings.taskId ∈ ids)
    (hs : s.Expects ⟨⟨main, managerLocations⟩, p⟩) :
    (apiUpdateClientRoundSettings s roundSettings).wp (Op.Served main p ids) fun es result =>
      uploads es = [] ∧ result = .ok (.ok (),
        .validState ⟨⟨⟨main, managerLocations⟩, p⟩, ⟨⟨roundSettings⟩⟩⟩) := by
  cases s with
  | initState l =>
      cases hs
      refine (ClientState.wp_new managerLocations (hid _ rfl)).attempt_bind ?_
      rintro es result ⟨hes, rfl⟩
      simp [hes]
  | validState s =>
      cases s
      cases hs
      exact ⟨rfl, rfl⟩

/-! ## Submission -/

/-- The library builds the VDAF of these parameters. -/
def Janus.BuildsVdaf (J : Janus) (p : VdafParameter) : Prop :=
  J.newFixedpointBoundedl2VecSum ⟨p.submissionType, 2, p.gradientLen⟩ = .ok ()

/-- A gradient that passes the checks is uploaded once, and no other is. -/
theorem ClientState.wp_getSubmissionResultImpl {Fx : Type} [CompatibleFloat Fx] [IsTagInstance Fx]
    (hlength : ∀ v : List Fx, (CompatibleFloat.vector v).length = v.length)
    (htag : ∀ v : List Fx, (CompatibleFloat.vector v).tag = IsTagInstance.getTag Fx)
    (htype : CompatibleFloat.fixedType Fx = IsTagInstance.getTag Fx) {self : ClientState}
    (hbuilds : J.BuildsVdaf self.parametrization.vdafParameter) (v : List Fx) :
    (self.getSubmissionResultImpl J Fx v).wp (Op.Served main p ids) fun es _ =>
      uploads es = self.report (CompatibleFloat.vector v) := by
  unfold getSubmissionResultImpl
  simp only
  split
  · rename_i hv
    exact (report_of_not_checks fun h => hv ((hlength v).symm.trans h.1)).symm
  · rename_i hv
    split
    · rename_i ht
      exact (report_of_not_checks fun h => ht ((htag v).symm.trans h.2)).symm
    · rename_i ht
      simp only [not_not] at hv ht
      rw [report_of_checks ⟨(hlength v).trans hv, (htag v).trans ht⟩, htag, ht]
      unfold Janus.BuildsVdaf at hbuilds
      unfold getJanusClient
      simp only [htype, ht, hbuilds, Except.mapError]
      rintro _ rfl _ rfl
      rfl

theorem ClientState.wp_getSubmissionResult {self : ClientState}
    (hbuilds : J.BuildsVdaf self.parametrization.vdafParameter) (data : VecFixedAny) :
    (self.getSubmissionResult J data).wp (Op.Served main p ids) fun es _ =>
      uploads es = self.report data := by
  cases data with
  | vecFixed16 v => exact wp_getSubmissionResultImpl (fun _ => rfl) (fun _ => rfl) rfl hbuilds v
  | vecFixed32 v => exact wp_getSubmissionResultImpl (fun _ => rfl) (fun _ => rfl) rfl hbuilds v

theorem ClientCall.wp_run (hbuilds : J.BuildsVdaf p) {managerLocations : ManagerLocations}
    {call : ClientCall} {s : ClientStatePU}
    (hid : ∀ l, s = .initState l → call.roundSettings.taskId ∈ ids)
    (hs : s.Expects ⟨⟨main, managerLocations⟩, p⟩) :
    (call.run J s).wp (Op.Served main p ids) fun es result =>
      uploads es = call.report ⟨⟨main, managerLocations⟩, p⟩ ∧
        ∃ r state, result = .ok (r, .validState state) ∧
          state.parametrization = ⟨⟨main, managerLocations⟩, p⟩ := by
  cases call with
  | updateRoundSettings roundSettings =>
      refine (wp_apiUpdateClientRoundSettings hid hs).mono ?_
      rintro es _ ⟨hes, rfl⟩
      exact ⟨hes, _, _, rfl, rfl⟩
  | submitWith roundSettings getData =>
      refine (wp_apiUpdateClientRoundSettings hid hs).bind ?_ (fun _ e => e.elim)
      rintro es _ ⟨hes, h⟩
      cases h
      refine (ClientState.wp_getSubmissionResult hbuilds _).attempt_bind ?_
      intro es' result hes'
      refine ⟨?_, _, _, rfl, rfl⟩
      rw [List.append_nil, uploads_append, hes, hes', List.nil_append]
      rfl

/-- The calls on a client upload what each of them should, in their order. Only the
first one has to be for one of the tasks. -/
theorem wp_clientCalls (hbuilds : J.BuildsVdaf p) {managerLocations : ManagerLocations}
    {calls : List ClientCall} {s : ClientStatePU}
    (hid : ∀ l, s = .initState l → ∀ call ∈ calls.head?, call.roundSettings.taskId ∈ ids)
    (hs : s.Expects ⟨⟨main, managerLocations⟩, p⟩) :
    (clientCalls J s calls).wp (Op.Served main p ids) fun es _ =>
      uploads es = calls.flatMap (·.report ⟨⟨main, managerLocations⟩, p⟩) := by
  induction calls generalizing s with
  | nil => rfl
  | cons call calls ih =>
      refine (ClientCall.wp_run hbuilds (fun l hl => hid l hl call rfl) hs).bind ?_
        (fun _ e => e.elim)
      rintro es _ ⟨hes, r, state, h, hstate⟩
      cases h
      refine (ih (s := .validState state) (fun l hl => by cases hl) hstate).mono ?_
      intro es' result hes'
      rw [uploads_append, hes, hes', List.flatMap_cons]

end
