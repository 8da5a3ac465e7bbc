-- SUMMARY: What a manager replies over HTTP in the states it can reach, and that the one who asked can read it.
import Dpsa4fl.JanusManager.AnswerSpecs
import Dpsa4fl.JanusManager.HttpConsumer

/-!
# Replies over HTTP

A manager gets any HTTP requests, be they from a controller or not. What it reads
from one has a gradient length of 64 bits, so this holds of every session it ever
has; therefore each reply can be read by the one who asked for it.
-/

/-- Every session has a gradient length of 64 bits. -/
def TaskProvisioner.Sized (p : TaskProvisioner) : Prop :=
  ∀ id s, p.trainingSessions.lookup id = some s → s.vdafParameter.Sized

theorem TaskProvisioner.new_sized (datastore : Datastore) (config : TaskProvisionerConfig) :
    (TaskProvisioner.new datastore config).Sized := by
  rintro id s ⟨⟩

section
variable {C : Codings} {J : Janus} {ω : Ambient} {request : Request} {p p' : TaskProvisioner}
  {answer : Except Failure Response}

namespace TaskProvisioner.Sized

theorem insert (hp : p.Sized) {id : TrainingSessionId} {session : TrainingSession}
    (hsessions : p'.trainingSessions = p.trainingSessions.insert id session)
    (hsession : session.vdafParameter.Sized) : p'.Sized := by
  intro k s hs
  rw [hsessions] at hs
  by_cases hk : k = id
  · subst hk
    rw [AList.lookup_insert] at hs
    cases hs
    exact hsession
  · rw [AList.lookup_insert_ne hk] at hs
    exact hp k s hs

theorem erase (hp : p.Sized) {id : TrainingSessionId}
    (hsessions : p'.trainingSessions = p.trainingSessions.erase id) : p'.Sized := by
  intro k s hs
  rw [hsessions] at hs
  by_cases hk : k = id
  · subst hk
    rw [AList.lookup_erase] at hs
    cases hs
  · rw [AList.lookup_erase_ne hk] at hs
    exact hp k s hs

theorem of_sameTables (hp : p.Sized) (hsame : p.SameTables p') : p'.Sized := by
  intro k s hs
  rw [hsame.trainingSessions] at hs
  exact hp k s hs

end TaskProvisioner.Sized

theorem TaskProvisioner.Answers.sized (h : p.Answers J request answer p') (hrequest : request.Sized)
    (hp : p.Sized) : p'.Sized := by
  cases h with
  | created _ _ _ _ hsessions => exact hp.insert hsessions hrequest
  | ended _ _ _ hsessions => exact hp.erase hsessions
  | @started request s₀ taskId task _ hlive _ _ _ _ hsessions =>
      exact hp.insert hsessions (hp _ s₀ hlive)
  | found => exact hp
  | located => exact hp
  | failed hsame => exact hp.of_sameTables hsame

theorem TaskProvisioner.Answers.fits {response : Response}
    (h : p.Answers J request (.ok response) p') (hp : p.Sized) : Response.Fits request response := by
  cases h with
  | found _ hlive => exact hp _ _ hlive
  | _ => trivial

theorem answer_sized (hrequest : request.Sized) (hp : p.Sized) :
    (p.answer J ω request).2.Sized := by
  cases h : p.answer J ω request with
  | mk answer p' => exact (answer_spec h).sized hrequest hp

theorem serveHttp_sized (hC : C.Faithful) (httpRequest : HttpRequest) (hp : p.Sized) :
    (p.serveHttp C J ω httpRequest).2.Sized := by
  unfold TaskProvisioner.serveHttp
  split
  · rename_i request hdispatch
    exact answer_sized (dispatch_sized hC hdispatch) hp
  · exact hp

/-! ## Requests in their HTTP form -/

theorem postJson_mayBeJson {α : Type} (endpoint : String) (c : Coding α) (value : α) :
    (HttpRequest.postJson endpoint c value).MayBeJson := by
  rintro contentType ⟨⟩
  rfl

theorem responding_http (hC : C.Faithful) (hrequest : request.Sized) :
    ∃ endpoint : Endpoint, endpoint.Serves (request.http C) ∧
      endpoint.responding C (request.http C) = .ok request := by
  cases request with
  | createSession request =>
      exact ⟨.createSession, rfl, posted_of_read rfl (postJson_mayBeJson _ _ _) rfl
        (CreateTrainingSessionRequest.coding_carries hC hrequest)⟩
  | endSession session =>
      exact ⟨.endSession, rfl, posted_of_read rfl (postJson_mayBeJson _ _ _) rfl
        (session.coding_carries hC)⟩
  | startRound request =>
      exact ⟨.startRound, rfl, posted_of_read rfl (postJson_mayBeJson _ _ _) rfl
        (request.coding_carries hC)⟩
  | getVdafParameter request =>
      exact ⟨.getVdafParameter, rfl, posted_of_read rfl (postJson_mayBeJson _ _ _) rfl
        (request.coding_carries hC)⟩
  | getMainLocations => exact ⟨.getMainLocations, rfl, rfl⟩

/-- The calls send no preflights. -/
theorem http_isPreflight (C : Codings) (request : Request) :
    (request.http C).isPreflight = false := by
  cases request <;> rfl

theorem dispatch_http (hC : C.Faithful) (hrequest : request.Sized) :
    dispatch C (request.http C) = .ok request := by
  obtain ⟨endpoint, hserves, hresponding⟩ := responding_http hC hrequest
  simp only [dispatch, janusManagerFilter_of_serves hserves, Cors.wrap, http_isPreflight C,
    hresponding]
  rfl

theorem serveHttp_http (hC : C.Faithful) (hrequest : request.Sized) :
    p.serveHttp C J ω (request.http C) =
      ((endpointReply C (p.answer J ω request).1).map (errorHandler C), (p.answer J ω request).2) := by
  simp only [TaskProvisioner.serveHttp, dispatch_http hC hrequest]

end

/-! ## Every reply in a run -/

/-- What the caller who sent the request reads from the body of a reply. The bodies
of the other two endpoints are not looked at. -/
def Response.ReadFrom (C : Codings) (body : Option Json) : Request → Response → Prop
  | .createSession _, .createSession id =>
    Reply.readJson (C.struct (createTrainingSessionResponse C)) ⟨.ok, body⟩ = .ok id
  | .getVdafParameter _, .getVdafParameter vdafParameter =>
    Reply.readJson (C.struct (getVdafParameterResponse C)) ⟨.ok, body⟩ = .ok vdafParameter
  | .getMainLocations, .getMainLocations mainLocations =>
    Reply.readJson (MainLocations.coding C) ⟨.ok, body⟩ = .ok mainLocations
  | .endSession _, .endSession => True
  | .startRound _, .startRound => True
  | _, _ => False

/-- The state of a manager after these HTTP requests. -/
def TaskProvisioner.afterHttp (C : Codings) (J : Janus) (p : TaskProvisioner)
    (history : List (Ambient × HttpRequest)) : TaskProvisioner :=
  history.foldl (fun p sent => (p.serveHttp C J sent.1 sent.2).2) p

section
variable {C : Codings} {J : Janus} {ω : Ambient} {httpRequest : HttpRequest} {request : Request}
  {p p' : TaskProvisioner} {reply : Option Reply}

theorem TaskProvisioner.Sized.afterHttp (hC : C.Faithful) (hp : p.Sized)
    (history : List (Ambient × HttpRequest)) : (p.afterHttp C J history).Sized := by
  induction history generalizing p with
  | nil => exact hp
  | cons sent history ih => exact ih (serveHttp_sized hC sent.2 hp)

theorem Response.Fits.readFrom (hC : C.Faithful) {response : Response}
    (h : Response.Fits request response) :
    Response.ReadFrom C (some (response.json C)) request response := by
  cases request <;> cases response <;> try exact h.elim
  case createSession.createSession id =>
    exact readJson_carries (hC.struct_carries (createTrainingSessionResponse_nodup C)
      (createTrainingSessionResponse_carries hC id)) .ok
  case endSession.endSession => trivial
  case startRound.startRound => trivial
  case getVdafParameter.getVdafParameter vdafParameter =>
    exact readJson_carries (hC.struct_carries (getVdafParameterResponse_nodup C)
      (getVdafParameterResponse_carries hC h)) .ok
  case getMainLocations.getMainLocations mainLocations =>
    exact readJson_carries (MainLocations.coding_carries hC mainLocations) .ok

/-- What a request is replied: at once by the filters, which changes nothing, or what
the endpoint makes of the answer of its handler. -/
theorem serveHttp_cases (h : p.serveHttp C J ω httpRequest = (reply, p')) :
    (∃ r, dispatch C httpRequest = .error r ∧ reply = some r ∧ p' = p) ∨
    ∃ request answer, dispatch C httpRequest = .ok request ∧
      p.answer J ω request = (answer, p') ∧ reply = (endpointReply C answer).map (errorHandler C) := by
  unfold TaskProvisioner.serveHttp at h
  split at h
  · rename_i request hdispatch
    cases h
    exact .inr ⟨request, _, hdispatch, rfl, rfl⟩
  · rename_i r hdispatch
    cases h
    exact .inl ⟨r, hdispatch, rfl, rfl⟩

/-- A handler replies OK or a bad request, if it replies. -/
theorem endpointReply_status {answer : Except Failure Response} {r : Reply}
    (h : (endpointReply C answer).map (errorHandler C) = some r) :
    r.status = .ok ∧ (∃ response, answer = .ok response ∧ r.body = some (response.json C)) ∨
      r.status = .badRequest ∧ ∃ error, answer = .error (.err error) := by
  cases answer with
  | ok response => cases h; exact .inl ⟨rfl, response, rfl, rfl⟩
  | error failure => cases failure with
    | err error => cases h; exact .inr ⟨rfl, error, rfl⟩
    | panic message => cases h

/-- The filters reply OK to preflights only, and without a body. -/
theorem dispatch_error_ok {r : Reply} (h : dispatch C httpRequest = .error r)
    (hok : r.status = .ok) : httpRequest.isPreflight = true ∧ r.body = none := by
  by_cases hserves : ∃ endpoint : Endpoint, endpoint.Serves httpRequest
  · obtain ⟨endpoint, hserves⟩ := hserves
    have hdispatches := dispatch_of_serves (C := C) hserves
    rw [h] at hdispatches
    cases hdispatches with
    | preflight hpreflight => exact ⟨hpreflight, rfl⟩
    | forbidden => cases hok
    | @rejected rejection => cases rejection <;> cases hok
  · cases (dispatch_of_unserved (not_exists.mp hserves)).symm.trans h
    cases hok

theorem sameTables_of_not_ok (h : p.serveHttp C J ω httpRequest = (reply, p'))
    (hr : ∀ r, reply = some r → r.status ≠ .ok) : p.SameTables p' := by
  rcases serveHttp_cases h with ⟨r, -, -, rfl⟩ | ⟨request, answer, -, hanswer, rfl⟩
  · exact .refl _
  · cases answer with
    | ok response => exact (hr _ rfl rfl).elim
    | error failure => cases answer_spec hanswer with
      | failed hsame => exact hsame

/-! ## What the filters decide alone -/

/-- `httpRequest.Statuses replied`: which of these statuses are replied, the path, the
method and the headers decide. -/
structure HttpRequest.Statuses (httpRequest : HttpRequest) (replied : HttpStatus → Prop) : Prop where
  /-- No endpoint has the path. -/
  notFound : replied .notFound ↔ ∀ endpoint : Endpoint, ¬endpoint.Serves httpRequest
  /-- The endpoint has another method. A preflight is not rejected for its method. -/
  methodNotAllowed : ∀ endpoint : Endpoint, endpoint.Serves httpRequest →
    (replied .methodNotAllowed ↔
      httpRequest.isPreflight = false ∧ httpRequest.method ≠ endpoint.method)
  /-- A preflight asks for another method or for a header. -/
  forbidden : ∀ endpoint : Endpoint, endpoint.Serves httpRequest →
    (replied .forbidden ↔ httpRequest.isPreflight = true ∧
      ¬(httpRequest.accessControlRequestMethod = some endpoint.method ∧
        httpRequest.accessControlRequestHeaders = none))
  /-- A value is posted that is not said to be JSON. -/
  unsupportedMediaType : ∀ endpoint : Endpoint, endpoint.Serves httpRequest →
    (replied .unsupportedMediaType ↔
      httpRequest.method = endpoint.method ∧ endpoint.method = .post ∧ ¬httpRequest.MayBeJson)
  /-- A preflight that is allowed is replied OK. -/
  preflight : ∀ endpoint : Endpoint, endpoint.Serves httpRequest → httpRequest.isPreflight = true →
    httpRequest.accessControlRequestMethod = some endpoint.method ∧
      httpRequest.accessControlRequestHeaders = none → replied .ok
  seeOther : ¬replied .seeOther

/-- The filters reply at once, with this status. -/
def Filtered (C : Codings) (httpRequest : HttpRequest) (status : HttpStatus) : Prop :=
  ∃ r, dispatch C httpRequest = .error r ∧ r.status = status

/-- An endpoint neither misses a path nor redirects. -/
theorem Filtered.of_serves {status : HttpStatus} (h : Filtered C httpRequest status)
    {endpoint : Endpoint} (hserves : endpoint.Serves httpRequest) :
    status ≠ .notFound ∧ status ≠ .seeOther := by
  obtain ⟨r, hr, rfl⟩ := h
  have hdispatches := dispatch_of_serves (C := C) hserves
  rw [hr] at hdispatches
  cases hdispatches with
  | rejected _ hresponds => cases hresponds <;> exact ⟨nofun, nofun⟩
  | _ => exact ⟨nofun, nofun⟩

theorem filtered_notFound_iff :
    Filtered C httpRequest .notFound ↔ ∀ endpoint : Endpoint, ¬endpoint.Serves httpRequest :=
  ⟨fun h _ hserves => (h.of_serves hserves).1 rfl, fun h => ⟨_, dispatch_of_unserved h, rfl⟩⟩

theorem not_filtered_seeOther : ¬Filtered C httpRequest .seeOther := by
  intro h
  by_cases hserves : ∃ endpoint : Endpoint, endpoint.Serves httpRequest
  · obtain ⟨endpoint, hserves⟩ := hserves
    exact (h.of_serves hserves).2 rfl
  · obtain ⟨r, hr, hstatus⟩ := h
    cases (dispatch_of_unserved (not_exists.mp hserves)).symm.trans hr
    cases hstatus

section
variable {endpoint : Endpoint} (h : endpoint.Serves httpRequest)
include h

theorem filtered_methodNotAllowed_iff : Filtered C httpRequest .methodNotAllowed ↔
    httpRequest.isPreflight = false ∧ httpRequest.method ≠ endpoint.method := by
  have hdispatches := dispatch_of_serves (C := C) h
  unfold Filtered
  generalize dispatch C httpRequest = outcome at hdispatches ⊢
  cases hdispatches with
  | preflight hpreflight => simp [hpreflight, preflightReply]
  | forbidden hpreflight => simp [hpreflight, Rejection.reply, Rejection.status]
  | rejected hpreflight hresponds =>
      cases hresponds <;> simp_all [Rejection.reply, Rejection.status]
  | handled _ _ hresponds => cases hresponds with
    | handled hmethod => simp [hmethod]

theorem filtered_forbidden_iff : Filtered C httpRequest .forbidden ↔
    httpRequest.isPreflight = true ∧
      ¬(httpRequest.accessControlRequestMethod = some endpoint.method ∧
        httpRequest.accessControlRequestHeaders = none) := by
  rw [← Cors.allowMethod_allows]
  have hdispatches := dispatch_of_serves (C := C) h
  unfold Filtered
  generalize dispatch C httpRequest = outcome at hdispatches ⊢
  cases hdispatches with
  | preflight _ hallows => simp [hallows, preflightReply]
  | forbidden hpreflight hallows => simp [hpreflight, hallows, Rejection.reply, Rejection.status]
  | rejected hpreflight hresponds =>
      cases hresponds <;> simp [hpreflight, Rejection.reply, Rejection.status]
  | handled hpreflight => simp [hpreflight]

theorem filtered_ok (hpreflight : httpRequest.isPreflight = true)
    (hallowed : httpRequest.accessControlRequestMethod = some endpoint.method ∧
      httpRequest.accessControlRequestHeaders = none) : Filtered C httpRequest .ok := by
  refine ⟨preflightReply, ?_, rfl⟩
  simp only [dispatch, janusManagerFilter_of_serves h, Cors.wrap, hpreflight,
    Cors.allowMethod_allows.mpr hallowed, if_true]

theorem filtered_unsupportedMediaType_iff : Filtered C httpRequest .unsupportedMediaType ↔
    httpRequest.method = endpoint.method ∧ endpoint.method = .post ∧ ¬httpRequest.MayBeJson := by
  have hdispatches := dispatch_of_serves (C := C) h
  unfold Filtered
  generalize dispatch C httpRequest = outcome at hdispatches ⊢
  have hplain : httpRequest.isPreflight = true → httpRequest.method ≠ endpoint.method := by
    intro hpreflight hmethod
    simp only [HttpRequest.isPreflight, hmethod, Bool.and_eq_true, decide_eq_true_eq] at hpreflight
    cases endpoint <;> cases hpreflight.2
  cases hdispatches with
  | preflight hpreflight => simp [hplain hpreflight, preflightReply]
  | forbidden hpreflight => simp [hplain hpreflight, Rejection.reply, Rejection.status]
  | rejected _ hresponds =>
      cases hresponds <;> simp_all [Rejection.reply, Rejection.status]
  | handled _ _ hresponds => cases hresponds with
    | handled _ hjson => simpa using fun _ => hjson

end

/-- It is enough that only OK and a bad request are replied by others than the filters. -/
theorem statuses_of_filtered {replied : HttpStatus → Prop}
    (hfiltered : ∀ status, Filtered C httpRequest status → replied status)
    (hreplied : ∀ status, status ≠ .ok → status ≠ .badRequest → replied status →
      Filtered C httpRequest status) : httpRequest.Statuses replied := by
  have h : ∀ status, status ≠ .ok → status ≠ .badRequest →
      (replied status ↔ Filtered C httpRequest status) := fun status hok hbad =>
    ⟨hreplied status hok hbad, hfiltered status⟩
  exact
    { notFound := (h .notFound nofun nofun).trans filtered_notFound_iff
      methodNotAllowed := fun _ hserves =>
        (h .methodNotAllowed nofun nofun).trans (filtered_methodNotAllowed_iff hserves)
      forbidden := fun _ hserves =>
        (h .forbidden nofun nofun).trans (filtered_forbidden_iff hserves)
      unsupportedMediaType := fun _ hserves =>
        (h .unsupportedMediaType nofun nofun).trans (filtered_unsupportedMediaType_iff hserves)
      preflight := fun _ hserves hpreflight hallowed =>
        hfiltered .ok (filtered_ok hserves hpreflight hallowed)
      seeOther := fun hsee => not_filtered_seeOther (hreplied .seeOther nofun nofun hsee) }

/-- In every state that a manager reaches with any HTTP requests, and for every HTTP
request: the path, the method and the headers alone decide about the statuses 403, 404,
405 and 415; no reply is a redirection; whatever is not replied with OK leaves the
sessions and the database as they were; and OK is replied to a preflight, which changes
nothing, or with the response of the handler, which the one who asked can read. -/
theorem http_replies (hC : C.Faithful) (J : Janus) (datastore : Datastore)
    (config : TaskProvisionerConfig) (history : List (Ambient × HttpRequest)) (ω : Ambient)
    (httpRequest : HttpRequest) (hp : p = (TaskProvisioner.new datastore config).afterHttp C J history)
    (h : p.serveHttp C J ω httpRequest = (reply, p')) :
    httpRequest.Statuses (fun status => ∃ r, reply = some r ∧ r.status = status) ∧
    ((∀ r, reply = some r → r.status ≠ .ok) → p.SameTables p') ∧
    ∀ r, reply = some r → r.status = .ok →
      httpRequest.isPreflight = true ∧ r.body = none ∧ p' = p ∨
      ∃ request response, dispatch C httpRequest = .ok request ∧
        p.answer J ω request = (.ok response, p') ∧
        Response.ReadFrom C r.body request response := by
  refine ⟨?_, sameTables_of_not_ok h, ?_⟩
  · rcases serveHttp_cases h with ⟨r, hdispatch, rfl, -⟩ | ⟨request, answer, hdispatch, -, rfl⟩
    · refine statuses_of_filtered (C := C) ?_ ?_
      · rintro status ⟨r', hr', hstatus⟩
        cases hdispatch.symm.trans hr'
        exact ⟨r, rfl, hstatus⟩
      · rintro status - - ⟨r', hr', hstatus⟩
        cases hr'
        exact ⟨r, hdispatch, hstatus⟩
    · refine statuses_of_filtered (C := C) ?_ ?_
      · rintro status ⟨r', hr', -⟩
        cases hdispatch.symm.trans hr'
      · rintro status hok hbad ⟨r, hr, rfl⟩
        exact (endpointReply_status hr).elim (fun h => (hok h.1).elim) fun h => (hbad h.1).elim
  · rintro r hr hok
    rcases serveHttp_cases h with ⟨r', hdispatch, rfl, rfl⟩ | ⟨request, answer, hdispatch, hanswer, rfl⟩
    · cases hr
      obtain ⟨hpreflight, hbody⟩ := dispatch_error_ok hdispatch hok
      exact .inl ⟨hpreflight, hbody, rfl⟩
    · rcases endpointReply_status hr with ⟨-, response, rfl, hbody⟩ | ⟨hbad, -⟩
      · have hsized : p.Sized :=
          hp ▸ (TaskProvisioner.new_sized datastore config).afterHttp hC history
        refine .inr ⟨request, response, hdispatch, hanswer, ?_⟩
        rw [hbody]
        exact ((answer_spec hanswer).fits hsized).readFrom hC
      · cases hbad.symm.trans hok

end

namespace Sample

/-- Over HTTP, session 5 is created and a round of it is started. -/
def roundHttp : List (Ambient × HttpRequest) :=
  [(ambient 0, (Request.createSession (createRequest (some ⟨5⟩) [1])).http .plain),
    (ambient 0, (Request.startRound (startRequest ⟨5⟩ (taskId 1))).http .plain)]

/-- What a manager then replies to a HTTP request. -/
def replied (httpRequest : HttpRequest) : Option Reply × TaskProvisioner :=
  ((TaskProvisioner.new ∅ config).afterHttp .plain .plain roundHttp).serveHttp .plain .plain
    (ambient 0) httpRequest

def getParameterHttp : HttpRequest :=
  (Request.getVdafParameter ⟨taskIdToString (taskId 1)⟩).http .plain

/-- A preflight that asks for a header, too. -/
def preflightHttp : HttpRequest where
  method := .options
  path := ["get_vdaf_parameter"]
  origin := some "https://localhost"
  accessControlRequestMethod := some .post
  accessControlRequestHeaders := some "content-type"

/-- The parameters are replied to the one who posts JSON, but not to the one who says
that it is a text or who asks across origins first. -/
theorem parameter_replied :
    (∃ r request response, (replied getParameterHttp).1 = some r ∧ r.status = .ok ∧
      Response.ReadFrom .plain r.body request response) ∧
    (∃ r, (replied { getParameterHttp with contentType := some (some ⟨"text", "plain"⟩) }).1 =
      some r ∧ r.status = .unsupportedMediaType) ∧
    ∃ r, (replied preflightHttp).1 = some r ∧ r.status = .forbidden := by
  refine ⟨?_, ?_, ?_⟩
  · obtain ⟨r, hr, hok⟩ := Option.any_eq_true _ _ |>.mp
      (by decide +kernel : (replied getParameterHttp).1.any (fun r => r.status = .ok) = true)
    rcases (http_replies Codings.plain_faithful .plain ∅ config roundHttp (ambient 0)
      getParameterHttp rfl rfl).2.2 r hr (of_decide_eq_true hok) with
      ⟨hpreflight, -⟩ | ⟨request, response, -, -, hread⟩
    · cases hpreflight
    · exact ⟨r, request, response, hr, of_decide_eq_true hok, hread⟩
  · refine ((http_replies Codings.plain_faithful .plain ∅ config roundHttp (ambient 0)
      { getParameterHttp with contentType := some (some ⟨"text", "plain"⟩) } rfl
      rfl).1.unsupportedMediaType .getVdafParameter rfl).mpr ⟨rfl, rfl, fun hjson => ?_⟩
    have hmime : some (⟨"text", "plain"⟩ : Mime) = some Mime.json := hjson _ rfl
    simp [Mime.json] at hmime
  · exact ((http_replies Codings.plain_faithful .plain ∅ config roundHttp (ambient 0)
      preflightHttp rfl rfl).1.forbidden .getVdafParameter rfl).mpr ⟨rfl, nofun⟩

end Sample
