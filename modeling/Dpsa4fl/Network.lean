-- SUMMARY: What controllers and clients exchange with the outside: requests to the managers, and uploads to the aggregators.
import Dpsa4fl.Library.Script
import Dpsa4fl.JanusManager.Types

/-!
# The network

Controllers and clients are sequential programs that wait for the answer to
each request. They are scripts over the operations `Op`; a script ends in `Ok`,
in `Err` or in a panic. The two managers are addressed by the entry of
`ManagerLocations` that the caller uses.
-/

/-- The two entries of `ManagerLocations`. -/
inductive ManagerServer where
  | leader
  | helper
deriving DecidableEq, Repr

/-- The number of the exchange with this manager in the calls of a controller. -/
def ManagerServer.exchange : ManagerServer → Nat
  | leader => 0
  | helper => 1

/-! ## Answers of a manager -/

/-- The status codes with which the endpoints of a manager answer. -/
inductive StatusCode where
  | ok
  | badRequest
deriving DecidableEq, Repr

instance : ToString StatusCode where
  toString
    | .ok => "200 OK"
    | .badRequest => "400 Bad Request"

/-- The body of a bad request is the text of the error. -/
inductive HttpResponse where
  | ok (response : Response)
  | badRequest (error : Error)
deriving DecidableEq

def HttpResponse.status : HttpResponse → StatusCode
  | ok _ => .ok
  | badRequest _ => .badRequest

/-- What an endpoint sends for the answer of its handler. Nothing is sent when
the handler panics. -/
def respond : Except Failure Response → Except Error HttpResponse
  | .ok response => .ok (.ok response)
  | .error (.err error) => .ok (.badRequest error)
  | .error (.panic _) => .error .transport

@[simp] theorem respond_ok (response : Response) : respond (.ok response) = .ok (.ok response) := rfl

/-- A rejection is a bad request, or no answer if the handler panicked. -/
theorem respond_error (failure : Failure) :
    (∃ e, respond (.error failure) = .ok (.badRequest e)) ∨
      ∃ e, respond (.error failure) = .error e := by
  cases failure with
  | err e => exact .inl ⟨e, rfl⟩
  | panic message => exact .inr ⟨_, rfl⟩

theorem respond_eq_ok {answer : Except Failure Response} {response : Response} :
    respond answer = .ok (.ok response) ↔ answer = .ok response := by
  cases answer with
  | ok r => simp [respond]
  | error failure => cases failure <;> simp [respond]

/-- Only a panic leaves a request without a response. -/
theorem respond_eq_error {answer : Except Failure Response} {e : Error}
    (h : respond answer = .error e) : ∃ message, answer = .error (.panic message) := by
  cases answer with
  | ok response => cases h
  | error failure =>
      cases failure with
      | err error => cases h
      | panic message => exact ⟨message, rfl⟩

/-! ## Operations -/

/-- A client of the janus aggregators, with the arguments of its builder. -/
structure JanusClient where
  taskId : TaskId
  leaderAggregatorEndpoint : Url
  helperAggregatorEndpoint : Url
  timePrecision : Nat
  vdaf : Prio3FixedPointBoundedL2VecSum
deriving DecidableEq

inductive Op where
  /-- Send a request to a manager. -/
  | manager (server : ManagerServer) (request : Request)
  | defaultHttpClient
  /-- `ClientBuilder::build`, which asks the aggregators for their keys. -/
  | buildClient (client : JanusClient)
  | upload (client : JanusClient) (measurement : VecFixedAny)
deriving DecidableEq

abbrev Ans : Op → Type
  | .manager _ _ => Except Error HttpResponse
  | _ => Except Error Unit

abbrev Exchange : Type := Script.Exchange Op Ans

abbrev Net (α : Type) : Type := Script Op Ans Failure α

/-- A call that always comes to its end. -/
abbrev Api (α : Type) : Type := Script Op Ans Empty α

namespace Net

/-- The `?` operator. -/
def orReturn {α : Type} : Except Error α → Net α
  | .ok a => .ret a
  | .error e => .fail (.err e)

/-- Send a request to a manager and wait for its answer. -/
def post (server : ManagerServer) (request : Request) : Net HttpResponse :=
  .call (.manager server request) orReturn

variable {es : List Exchange} {α : Type}

theorem all_orReturn (result : Except Error α) (P : Op → Prop) :
    (orReturn result).All P := by
  cases result <;> trivial

theorem all_post {server : ManagerServer} {request : Request} {P : Op → Prop}
    (h : P (.manager server request)) : (post server request).All P :=
  ⟨h, fun _ => all_orReturn _ _⟩

/-- A program that posts a request waits for the answer, has failed for lack of
one, or goes on with it. -/
theorem follows_post {server : ManagerServer} {request : Request} {f : HttpResponse → Net α}
    {m' : Net α} (h : Script.Follows (post server request >>= f) es m') :
    (es = [] ∧ m' = post server request >>= f) ∨
      (∃ e, es = [⟨.manager server request, .error e⟩] ∧ m' = .fail (.err e)) ∨
      ∃ response es', es = ⟨.manager server request, .ok response⟩ :: es' ∧
        Script.Follows (f response) es' m' := by
  rw [post, Script.call_bind, Script.Follows.call_iff] at h
  rcases h with ⟨rfl, rfl⟩ | ⟨r, es', rfl, h⟩
  · exact .inl ⟨rfl, rfl⟩
  · cases r with
    | error e =>
        obtain ⟨rfl, rfl⟩ := Script.Follows.fail_iff.mp h
        exact .inr (.inl ⟨e, rfl, rfl⟩)
    | ok response => exact .inr (.inr ⟨response, es', rfl, h⟩)

end Net
