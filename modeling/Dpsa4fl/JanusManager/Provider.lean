-- SUMMARY: The HTTP server of a manager: which requests its filters let through to a handler, and what is replied.
import Dpsa4fl.JanusManager.Messages

/-!
# The HTTP server

`src/janus_manager/interface/network/provider.rs`. A filter looks at the path, the
method, the headers and the body of a request, and either extracts something from
it or rejects it. The handlers are those of the task provisioner.
-/

inductive Method where
  | get
  | post
  | options
  | other (name : String)
deriving DecidableEq, Repr

/-- A media type without its parameters, in lower case. -/
structure Mime where
  type : String
  subtype : String
deriving DecidableEq, Repr

def Mime.json : Mime := ⟨"application", "json"⟩

/-- `path` has the segments of the path, `body` is the body if that is JSON. The
other fields are headers that the filters look at; a content type may be there and
be no media type, and a requested method that is none counts as missing. -/
structure HttpRequest where
  method : Method
  path : List String
  origin : Option String := none
  accessControlRequestMethod : Option Method := none
  accessControlRequestHeaders : Option String := none
  contentType : Option (Option Mime) := none
  body : Option Json := none

/-- The status codes of the replies that the filters and the endpoints make. -/
inductive HttpStatus where
  | ok
  | seeOther
  | badRequest
  | forbidden
  | notFound
  | methodNotAllowed
  | unsupportedMediaType
deriving DecidableEq, Repr

namespace HttpStatus

def code : HttpStatus → Nat
  | ok => 200
  | seeOther => 303
  | badRequest => 400
  | forbidden => 403
  | notFound => 404
  | methodNotAllowed => 405
  | unsupportedMediaType => 415

instance : ToString HttpStatus where
  toString
    | ok => "200 OK"
    | seeOther => "303 See Other"
    | badRequest => "400 Bad Request"
    | forbidden => "403 Forbidden"
    | notFound => "404 Not Found"
    | methodNotAllowed => "405 Method Not Allowed"
    | unsupportedMediaType => "415 Unsupported Media Type"

end HttpStatus

structure Reply where
  status : HttpStatus
  body : Option Json

/-! ## Filters -/

inductive Rejection where
  | notFound
  | methodNotAllowed
  | corsForbidden
  | unsupportedMediaType
  | bodyDeserialize
deriving DecidableEq, Repr

namespace Rejection

def status : Rejection → HttpStatus
  | notFound => .notFound
  | methodNotAllowed => .methodNotAllowed
  | corsForbidden => .forbidden
  | unsupportedMediaType => .unsupportedMediaType
  | bodyDeserialize => .badRequest

/-- At most a plain text is sent for a rejection. -/
def reply (rejection : Rejection) : Reply := ⟨rejection.status, none⟩

/-- What is left of two rejections. A path that was not found counts least, a
method that is not allowed counts second least, and of any others the higher
status code is taken. -/
def combine : Rejection → Rejection → Rejection
  | a, notFound => a
  | notFound, b => b
  | a, methodNotAllowed => a
  | methodNotAllowed, b => b
  | a, b => if a.status.code < b.status.code then b else a

@[simp] theorem combine_notFound (a : Rejection) : a.combine notFound = a := by cases a <;> rfl
@[simp] theorem notFound_combine (a : Rejection) : notFound.combine a = a := by cases a <;> rfl

end Rejection

abbrev RequestFilter (α : Type) : Type := HttpRequest → Except Rejection α

namespace RequestFilter

variable {α : Type}

/-- The first segment of the path. More segments may follow. -/
def path (segment : String) : RequestFilter Unit := fun request =>
  if request.path.head? = some segment then .ok () else .error .notFound

def method (method : Method) : RequestFilter Unit := fun request =>
  if request.method = method then .ok () else .error .methodNotAllowed

/-- Without a content type, the body is taken to be JSON. -/
def isContentTypeJson : RequestFilter Unit := fun request =>
  if request.contentType.all (· = some Mime.json) then .ok () else .error .unsupportedMediaType

def bodyJson (c : Coding α) : RequestFilter α := fun request => do
  isContentTypeJson request
  match request.body.bind c.deserialize with
  | some value => .ok value
  | none => .error .bodyDeserialize

/-- The first result that is not a rejection, else what is left of both rejections. -/
def orElse : Except Rejection α → Except Rejection α → Except Rejection α
  | .ok a, _ => .ok a
  | .error rejection, result => result.mapError rejection.combine

@[simp] theorem orElse_notFound (result : Except Rejection α) :
    orElse result (.error .notFound) = result := by
  cases result <;> simp [orElse, Except.mapError]

@[simp] theorem notFound_orElse (result : Except Rejection α) :
    orElse (.error .notFound) result = result := by
  cases result <;> simp [orElse, Except.mapError]

/-- The second filter is tried if the first one rejects the request. -/
def or (f g : RequestFilter α) : RequestFilter α := fun request => orElse (f request) (g request)

end RequestFilter

open RequestFilter

/-- A posted value, for the handler that `handle` names. -/
def posted {α : Type} (c : Coding α) (handle : α → Request) : RequestFilter Request :=
  fun httpRequest => do
    method .post httpRequest
    return handle (← bodyJson c httpRequest)

/-! ## Requests across origins -/

/-- The methods and the headers that a route allows to any origin. -/
structure Cors where
  methods : List Method
  headers : List String

/-- Only this method, and no headers. -/
def Cors.allowMethod (method : Method) : Cors := ⟨[method], []⟩

/-- A browser asks before it sends a request to another origin. -/
def HttpRequest.isPreflight (request : HttpRequest) : Bool :=
  request.origin.isSome && request.method = .options

/-- The request that a preflight asks for is allowed. Its headers are separated by commas. -/
def Cors.allows (self : Cors) (request : HttpRequest) : Bool :=
  request.accessControlRequestMethod.any self.methods.contains &&
    request.accessControlRequestHeaders.all fun headers =>
      (headers.toList.splitOn ',').all fun header =>
        self.headers.contains (String.ofList header).toLower

/-- What a route extracts: it replies to a preflight itself, and leaves everything
else to its response filter. -/
inductive WithCors (α : Type) where
  | preflight
  | response (value : α)

def Cors.wrap {α : Type} (self : Cors) (filter : RequestFilter α) : RequestFilter (WithCors α) :=
  fun request =>
    if request.isPreflight then
      if self.allows request then .ok .preflight else .error .corsForbidden
    else (filter request).map .response

/-- Respond to a route. What is measured and traced on the way is left out, and so
are the headers of replies. -/
def composeCommonWrappers {α : Type} (routeFilter : RequestFilter Unit)
    (responseFilter : RequestFilter α) (cors : Cors) : RequestFilter (WithCors α) :=
  fun request => do
    routeFilter request
    cors.wrap responseFilter request

section
variable (C : Codings)

def createSessionResponding : RequestFilter Request :=
  posted (CreateTrainingSessionRequest.coding C) .createSession

def createSessionEndpoint : RequestFilter (WithCors Request) :=
  composeCommonWrappers (path "create_session") (createSessionResponding C) (.allowMethod .post)

def endSessionResponding : RequestFilter Request :=
  posted (TrainingSessionId.coding C) .endSession

def endSessionEndpoint : RequestFilter (WithCors Request) :=
  composeCommonWrappers (path "end_session") (endSessionResponding C) (.allowMethod .post)

def startRoundResponding : RequestFilter Request :=
  posted (StartRoundRequest.coding C) .startRound

def startRoundEndpoint : RequestFilter (WithCors Request) :=
  composeCommonWrappers (path "start_round") (startRoundResponding C) (.allowMethod .post)

def getVdafParameterResponding : RequestFilter Request :=
  posted (GetVdafParameterRequest.coding C) .getVdafParameter

def getVdafParameterEndpoint : RequestFilter (WithCors Request) :=
  composeCommonWrappers (path "get_vdaf_parameter") (getVdafParameterResponding C)
    (.allowMethod .post)

def getMainLocationsResponding : RequestFilter Request := fun httpRequest => do
  method .get httpRequest
  return .getMainLocations

def getMainLocationsEndpoint : RequestFilter (WithCors Request) :=
  composeCommonWrappers (path "get_main_locations") getMainLocationsResponding (.allowMethod .get)

def janusManagerFilter : RequestFilter (WithCors Request) :=
  ((((startRoundEndpoint C).or (createSessionEndpoint C)).or (endSessionEndpoint C)).or
    (getVdafParameterEndpoint C)).or getMainLocationsEndpoint

/-! ## Replies -/

def Response.json : Response → Json
  | .createSession id => (C.struct (createTrainingSessionResponse C)).serialize id
  | .endSession => C.unit.serialize ()
  | .startRound => (C.struct startRoundResponse).serialize ()
  | .getVdafParameter vdafParameter =>
    (C.struct (getVdafParameterResponse C)).serialize vdafParameter
  | .getMainLocations mainLocations => (MainLocations.coding C).serialize mainLocations

/-- What an endpoint makes of the answer of its handler. Nothing is sent when the
handler panics. -/
def endpointReply : Except Failure Response → Option (Except Error Reply)
  | .ok response => some (.ok ⟨.ok, some (response.json C)⟩)
  | .error (.err error) => some (.ok ⟨.badRequest, some (.string (C.errorText error))⟩)
  | .error (.panic _) => none

def buildProblemDetailsResponse (errorType : String) (taskId : Option TaskId) : Reply where
  status := .seeOther
  body := some (.object [
    ("detail", .string errorType),
    ("instance", .string ".."),
    ("taskid", (taskId.map fun id => Json.string (taskIdToString id)).getD .null)])

def errorHandler : Except Error Reply → Reply
  | .ok reply => reply
  | .error error => buildProblemDetailsResponse (C.errorText error) none

/-- What is replied to a preflight that is allowed. -/
def preflightReply : Reply := ⟨.ok, none⟩

/-- The request that is left to a handler, or what is replied without one. -/
def dispatch (httpRequest : HttpRequest) : Except Reply Request :=
  match janusManagerFilter C httpRequest with
  | .ok .preflight => .error preflightReply
  | .ok (.response request) => .ok request
  | .error rejection => .error rejection.reply

/-- Serve a request, with no other handler running. -/
def TaskProvisioner.serveHttp (J : Janus) (ω : Ambient) (httpRequest : HttpRequest)
    (p : TaskProvisioner) : Option Reply × TaskProvisioner :=
  match dispatch C httpRequest with
  | .ok request =>
    let (answer, p') := p.answer J ω request
    ((endpointReply C answer).map (errorHandler C), p')
  | .error reply => (some reply, p)

end

/-! ## Dispatch -/

/-- The endpoints of a manager. -/
inductive Endpoint where
  | startRound
  | createSession
  | endSession
  | getVdafParameter
  | getMainLocations
deriving DecidableEq

namespace Endpoint

def name : Endpoint → String
  | startRound => "start_round"
  | createSession => "create_session"
  | endSession => "end_session"
  | getVdafParameter => "get_vdaf_parameter"
  | getMainLocations => "get_main_locations"

def method : Endpoint → Method
  | getMainLocations => .get
  | _ => .post

def responding (C : Codings) : Endpoint → RequestFilter Request
  | startRound => startRoundResponding C
  | createSession => createSessionResponding C
  | endSession => endSessionResponding C
  | getVdafParameter => getVdafParameterResponding C
  | getMainLocations => getMainLocationsResponding

/-- The first segment of the path names this endpoint. -/
def Serves (self : Endpoint) (httpRequest : HttpRequest) : Prop :=
  httpRequest.path.head? = some self.name

end Endpoint

theorem composeCommonWrappers_path {α : Type} (segment : String) (f : RequestFilter α) (cors : Cors)
    (httpRequest : HttpRequest) :
    composeCommonWrappers (path segment) f cors httpRequest =
      if httpRequest.path.head? = some segment then cors.wrap f httpRequest
      else .error .notFound := by
  simp only [composeCommonWrappers, path]
  split <;> rfl

section
variable {C : Codings} {httpRequest : HttpRequest}

/-- The paths exclude each other, so only the endpoint with the path decides. -/
theorem janusManagerFilter_of_serves {endpoint : Endpoint} (h : endpoint.Serves httpRequest) :
    janusManagerFilter C httpRequest =
      (Cors.allowMethod endpoint.method).wrap (endpoint.responding C) httpRequest := by
  have hhead : httpRequest.path.head? = some endpoint.name := h
  simp only [janusManagerFilter, startRoundEndpoint, createSessionEndpoint, endSessionEndpoint,
    getVdafParameterEndpoint, getMainLocationsEndpoint, RequestFilter.or,
    composeCommonWrappers_path, hhead]
  cases endpoint <;> simp [Endpoint.name, Endpoint.method, Endpoint.responding]

theorem janusManagerFilter_of_unserved (h : ∀ endpoint : Endpoint, ¬endpoint.Serves httpRequest) :
    janusManagerFilter C httpRequest = .error .notFound := by
  simp only [janusManagerFilter, startRoundEndpoint, createSessionEndpoint, endSessionEndpoint,
    getVdafParameterEndpoint, getMainLocationsEndpoint, RequestFilter.or,
    composeCommonWrappers_path]
  rw [if_neg (show ¬httpRequest.path.head? = some "start_round" from h .startRound),
    if_neg (show ¬httpRequest.path.head? = some "create_session" from h .createSession),
    if_neg (show ¬httpRequest.path.head? = some "end_session" from h .endSession),
    if_neg (show ¬httpRequest.path.head? = some "get_vdaf_parameter" from h .getVdafParameter),
    if_neg (show ¬httpRequest.path.head? = some "get_main_locations" from h .getMainLocations)]
  rfl

theorem Cors.allowMethod_allows {method : Method} :
    (Cors.allowMethod method).allows httpRequest = true ↔
      httpRequest.accessControlRequestMethod = some method ∧
        httpRequest.accessControlRequestHeaders = none := by
  simp only [Cors.allows, Cors.allowMethod, Bool.and_eq_true]
  refine and_congr ?_ ?_
  · cases httpRequest.accessControlRequestMethod <;> simp
  · -- the list of allowed headers is empty, and that of the requested ones never is
    cases httpRequest.accessControlRequestHeaders with
    | none => simp
    | some headers =>
        obtain ⟨header, rest, hsplit⟩ :=
          List.exists_cons_of_ne_nil (List.splitOn_ne_nil ',' headers.toList)
        simp [hsplit]

/-- A body can be there as far as the content type is concerned. -/
def HttpRequest.MayBeJson (httpRequest : HttpRequest) : Prop :=
  ∀ contentType, httpRequest.contentType = some contentType → contentType = some Mime.json

theorem isContentTypeJson_eq (httpRequest : HttpRequest) :
    isContentTypeJson httpRequest = .ok () ∧ httpRequest.MayBeJson ∨
      isContentTypeJson httpRequest = .error .unsupportedMediaType ∧ ¬httpRequest.MayBeJson := by
  simp only [isContentTypeJson, Option.all_eq_true, decide_eq_true_eq]
  split
  · rename_i hjson
    exact .inl ⟨rfl, hjson⟩
  · rename_i hjson
    exact .inr ⟨rfl, hjson⟩

theorem posted_of_read {α : Type} {c : Coding α} {handle : α → Request} {value : α} {j : Json}
    (hmethod : httpRequest.method = .post) (hjson : httpRequest.MayBeJson)
    (hbody : httpRequest.body = some j) (hread : c.deserialize j = some value) :
    posted c handle httpRequest = .ok (handle value) := by
  rcases isContentTypeJson_eq httpRequest with ⟨hok, -⟩ | ⟨-, hnot⟩
  · simp only [posted, method, if_pos hmethod, bodyJson, hok, hbody, Option.bind_some, hread]
    rfl
  · exact (hnot hjson).elim

end

/-! ## What the filters decide -/

/-- What the response filter of an endpoint makes of a request. -/
inductive Endpoint.Responds (endpoint : Endpoint) (httpRequest : HttpRequest) :
    Except Rejection Request → Prop where
  | methodNotAllowed (hmethod : httpRequest.method ≠ endpoint.method) :
      endpoint.Responds httpRequest (.error .methodNotAllowed)
  | unsupportedMediaType (hmethod : httpRequest.method = endpoint.method)
      (hpost : endpoint.method = .post) (hjson : ¬httpRequest.MayBeJson) :
      endpoint.Responds httpRequest (.error .unsupportedMediaType)
  | bodyDeserialize (hmethod : httpRequest.method = endpoint.method)
      (hjson : endpoint.method = .post → httpRequest.MayBeJson) :
      endpoint.Responds httpRequest (.error .bodyDeserialize)
  | handled {request} (hmethod : httpRequest.method = endpoint.method)
      (hjson : endpoint.method = .post → httpRequest.MayBeJson) :
      endpoint.Responds httpRequest (.ok request)

section
variable {C : Codings} {httpRequest : HttpRequest}

theorem posted_responds {α : Type} (c : Coding α) (handle : α → Request) {endpoint : Endpoint}
    (hpost : endpoint.method = .post) :
    endpoint.Responds httpRequest (posted c handle httpRequest) := by
  by_cases hmethod : httpRequest.method = .post
  · rcases isContentTypeJson_eq httpRequest with ⟨hok, hjson⟩ | ⟨hbad, hjson⟩
    · simp only [posted, method, if_pos hmethod, bodyJson, hok]
      cases httpRequest.body.bind c.deserialize with
      | none => exact .bodyDeserialize (hmethod.trans hpost.symm) fun _ => hjson
      | some value => exact .handled (hmethod.trans hpost.symm) fun _ => hjson
    · simp only [posted, method, if_pos hmethod, bodyJson, hbad]
      exact .unsupportedMediaType (hmethod.trans hpost.symm) hpost hjson
  · simp only [posted, method, if_neg hmethod]
    exact .methodNotAllowed (hpost ▸ hmethod)

theorem Endpoint.responding_responds (C : Codings) (endpoint : Endpoint)
    (httpRequest : HttpRequest) :
    endpoint.Responds httpRequest (endpoint.responding C httpRequest) := by
  cases endpoint with
  | startRound => exact posted_responds _ _ rfl
  | createSession => exact posted_responds _ _ rfl
  | endSession => exact posted_responds _ _ rfl
  | getVdafParameter => exact posted_responds _ _ rfl
  | getMainLocations =>
      simp only [responding, getMainLocationsResponding, RequestFilter.method]
      split
      · rename_i hmethod
        exact .handled hmethod nofun
      · rename_i hmethod
        exact .methodNotAllowed hmethod

/-- What becomes of a request at its endpoint. -/
inductive Endpoint.Dispatches (C : Codings) (endpoint : Endpoint) (httpRequest : HttpRequest) :
    Except Reply Request → Prop where
  | preflight (hpreflight : httpRequest.isPreflight = true)
      (hallows : (Cors.allowMethod endpoint.method).allows httpRequest = true) :
      endpoint.Dispatches C httpRequest (.error preflightReply)
  | forbidden (hpreflight : httpRequest.isPreflight = true)
      (hallows : (Cors.allowMethod endpoint.method).allows httpRequest = false) :
      endpoint.Dispatches C httpRequest (.error Rejection.corsForbidden.reply)
  | rejected {rejection} (hpreflight : httpRequest.isPreflight = false)
      (hresponds : endpoint.Responds httpRequest (.error rejection)) :
      endpoint.Dispatches C httpRequest (.error rejection.reply)
  | handled {request} (hpreflight : httpRequest.isPreflight = false)
      (hresponding : endpoint.responding C httpRequest = .ok request)
      (hresponds : endpoint.Responds httpRequest (.ok request)) :
      endpoint.Dispatches C httpRequest (.ok request)

theorem dispatch_of_serves {endpoint : Endpoint} (h : endpoint.Serves httpRequest) :
    endpoint.Dispatches C httpRequest (dispatch C httpRequest) := by
  simp only [dispatch, janusManagerFilter_of_serves h, Cors.wrap]
  cases hpreflight : httpRequest.isPreflight with
  | true =>
      cases hallows : (Cors.allowMethod endpoint.method).allows httpRequest with
      | true => exact .preflight hpreflight hallows
      | false => exact .forbidden hpreflight hallows
  | false =>
      have hresponds := endpoint.responding_responds C httpRequest
      cases hresponding : endpoint.responding C httpRequest with
      | ok request => exact .handled hpreflight hresponding (hresponding ▸ hresponds)
      | error rejection => exact .rejected hpreflight (hresponding ▸ hresponds)

theorem dispatch_of_unserved (h : ∀ endpoint : Endpoint, ¬endpoint.Serves httpRequest) :
    dispatch C httpRequest = .error Rejection.notFound.reply := by
  simp only [dispatch, janusManagerFilter_of_unserved h]

/-- A request that is left to a handler was read by the endpoint with its path. -/
theorem dispatch_ok {request : Request} (h : dispatch C httpRequest = .ok request) :
    ∃ endpoint : Endpoint, endpoint.Serves httpRequest ∧
      endpoint.responding C httpRequest = .ok request := by
  by_cases hserves : ∃ endpoint : Endpoint, endpoint.Serves httpRequest
  · obtain ⟨endpoint, hserves⟩ := hserves
    have hdispatches := dispatch_of_serves (C := C) hserves
    rw [h] at hdispatches
    cases hdispatches with
    | handled _ hresponding => exact ⟨endpoint, hserves, hresponding⟩
  · rw [dispatch_of_unserved (not_exists.mp hserves)] at h
    cases h

end

/-! ## Sizes -/

/-- The parameter in a request has a gradient length of 64 bits. -/
def Request.Sized : Request → Prop
  | .createSession request => request.vdafParameter.Sized
  | _ => True

section
variable {C : Codings} {httpRequest : HttpRequest} {request : Request}

theorem posted_ok {α : Type} {c : Coding α} {handle : α → Request}
    (h : posted c handle httpRequest = .ok request) :
    ∃ j value, c.deserialize j = some value ∧ request = handle value := by
  simp only [posted, method, bodyJson] at h
  split at h
  · rcases isContentTypeJson_eq httpRequest with ⟨hjson, -⟩ | ⟨hjson, -⟩
    · rw [hjson] at h
      cases hread : httpRequest.body.bind c.deserialize with
      | none => simp only [hread] at h; cases h
      | some value =>
          obtain ⟨j, -, hj⟩ := Option.bind_eq_some_iff.mp hread
          simp only [hread] at h
          cases h
          exact ⟨j, value, hj, rfl⟩
    · rw [hjson] at h
      cases h
  · cases h

theorem dispatch_sized (hC : C.Faithful) (h : dispatch C httpRequest = .ok request) :
    request.Sized := by
  obtain ⟨endpoint, -, hresponding⟩ := dispatch_ok h
  cases endpoint with
  | createSession =>
      obtain ⟨j, value, hread, rfl⟩ := posted_ok hresponding
      exact CreateTrainingSessionRequest.coding_yields hC j value hread
  | getMainLocations =>
      simp only [Endpoint.responding, getMainLocationsResponding, RequestFilter.method] at hresponding
      split at hresponding <;> cases hresponding
      trivial
  | _ =>
      obtain ⟨-, value, -, rfl⟩ := posted_ok hresponding
      trivial

end
