-- SUMMARY: The calls to the managers down to HTTP, and that they refine the calls in terms of typed requests and responses.
import Dpsa4fl.Library.Refinement
import Dpsa4fl.JanusManager.Consumer
import Dpsa4fl.JanusManager.Provider

/-!
# Calls over HTTP

The functions of `src/janus_manager/interface/network/consumer.rs` with what they
leave to `reqwest`: a value is posted as JSON to the path of an endpoint, and the
body of a reply is read as JSON.
-/

structure HttpOp where
  server : ManagerServer
  httpRequest : HttpRequest

abbrev HttpNet (α : Type) : Type := Script HttpOp (fun _ => Except Error Reply) Failure α

def HttpRequest.postJson {α : Type} (endpoint : String) (c : Coding α) (value : α) :
    HttpRequest where
  method := .post
  path := [endpoint]
  contentType := some (some Mime.json)
  body := some (c.serialize value)

def HttpRequest.ofGet (endpoint : String) : HttpRequest where
  method := .get
  path := [endpoint]

def Reply.readJson {α : Type} (c : Coding α) (reply : Reply) : Except Error α :=
  match reply.body.bind c.deserialize with
  | some value => .ok value
  | none => .error .json

namespace HttpNet

/-- The `?` operator. -/
def orReturn {α : Type} : Except Error α → HttpNet α
  | .ok a => .ret a
  | .error e => .fail (.err e)

def send (server : ManagerServer) (httpRequest : HttpRequest) : HttpNet Reply :=
  .call ⟨server, httpRequest⟩ orReturn

end HttpNet

open HttpNet HttpRequest

section
variable (C : Codings)

/-! ## The calls of a controller -/

namespace JanusManagerClient

/-- The session id in the reply to a creation; `aggregator` is named in the error. -/
def repliedSession (aggregator : String) (reply : Reply) : HttpNet TrainingSessionId :=
  match reply.status with
  | .ok => HttpNet.orReturn (reply.readJson (C.struct (createTrainingSessionResponse C)))
  | res => throw (.err (.anyhow ("Got error from " ++ aggregator ++ ": " ++ toString res)))

def createSessionHttp (J : Janus) (self : JanusManagerClient) (random : Nat → UInt8) :
    HttpNet TrainingSessionId := do
  let verifyKey := self.verifyKey J random
  let leaderResponse ← send .leader (postJson "create_session"
    (CreateTrainingSessionRequest.coding C) (self.makeRequest verifyKey .leader none))
  let leaderId ← repliedSession C "leader" leaderResponse
  let helperResponse ← send .helper (postJson "create_session"
    (CreateTrainingSessionRequest.coding C) (self.makeRequest verifyKey .helper (some leaderId)))
  let helperId ← repliedSession C "helper" helperResponse
  if helperId = leaderId then return leaderId
  else throw (.panic "leader and helper have different training session id!")

/-- Both replies must have status OK, else `message` goes before the two of them. -/
def bothRepliedOk {α : Type} (message : String) (result : α) (leaderResponse helperResponse : Reply) :
    HttpNet α :=
  match leaderResponse.status, helperResponse.status with
  | .ok, .ok => return result
  | res1, res2 => throw (.err (.anyhow
      (message ++ " not successful, results are: \n" ++ toString res1 ++ "\n\n" ++ toString res2)))

def endSessionHttp (_self : JanusManagerClient) (id : TrainingSessionId) : HttpNet Unit := do
  let leaderResponse ← send .leader (postJson "end_session" (TrainingSessionId.coding C) id)
  let helperResponse ← send .helper (postJson "end_session" (TrainingSessionId.coding C) id)
  bothRepliedOk "Ending session" () leaderResponse helperResponse

def startRoundHttp (_self : JanusManagerClient) (taskId : TaskId) (id : TrainingSessionId) :
    HttpNet TaskId := do
  let request : StartRoundRequest := ⟨id, Base64Url.encode taskId.bytes⟩
  let leaderResponse ← send .leader (postJson "start_round" (StartRoundRequest.coding C) request)
  let helperResponse ← send .helper (postJson "start_round" (StartRoundRequest.coding C) request)
  bothRepliedOk "Starting round" taskId leaderResponse helperResponse

end JanusManagerClient

/-! ## The calls of a client -/

def getVdafParameterFromTaskHttp (managerServer : ManagerServer) (taskId : TaskId) :
    HttpNet VdafParameter := do
  let request : GetVdafParameterRequest := ⟨Base64Url.encode taskId.bytes⟩
  let response ← send managerServer (postJson "get_vdaf_parameter"
    (GetVdafParameterRequest.coding C) request)
  match response.readJson (C.struct (getVdafParameterResponse C)) with
  | .ok vdafParameter => return vdafParameter
  | .error e => throw (.err (.context "got err" e))

def getMainLocationsHttp : HttpNet MainLocations := do
  let responseLeader ← send .leader (ofGet "get_main_locations")
  let responseHelper ← send .helper (ofGet "get_main_locations")
  match responseLeader.readJson (MainLocations.coding C),
    responseHelper.readJson (MainLocations.coding C) with
  | .ok a, .ok b =>
    if a = b then return a
    else throw (.err (.differentMainLocations a b))
  | res1, res2 => throw (.err (.mainLocations res1.toOption res2.toOption))

/-! ## What requests and replies mean -/

/-- The HTTP request in which a request is sent. -/
def Request.http : Request → HttpRequest
  | .createSession request => postJson "create_session" (CreateTrainingSessionRequest.coding C) request
  | .endSession session => postJson "end_session" (TrainingSessionId.coding C) session
  | .startRound request => postJson "start_round" (StartRoundRequest.coding C) request
  | .getVdafParameter request =>
    postJson "get_vdaf_parameter" (GetVdafParameterRequest.coding C) request
  | .getMainLocations => ofGet "get_main_locations"

end

/-- The response is one of the endpoint that the request is sent to. -/
def Response.Fits : Request → Response → Prop
  | .createSession _, .createSession _ => True
  | .endSession _, .endSession => True
  | .startRound _, .startRound => True
  | .getVdafParameter _, .getVdafParameter vdafParameter => vdafParameter.Sized
  | .getMainLocations, .getMainLocations _ => True
  | _, _ => False

/-- What is got for a request over HTTP, and what it means. -/
inductive ReplyMeans (C : Codings) (request : Request) :
    Except Error Reply → Except Error HttpResponse → Prop where
  | lost (e : Error) : ReplyMeans C request (.error e) (.error e)
  | ok {response} (hfits : Response.Fits request response) :
      ReplyMeans C request (.ok ⟨.ok, some (response.json C)⟩) (.ok (.ok response))
  | badRequest (error : Error) :
      ReplyMeans C request (.ok ⟨.badRequest, some (.string (C.errorText error))⟩)
        (.ok (.badRequest error))

/-- The HTTP request is the form in which this operation sends its request. -/
def HttpOp.Sends (C : Codings) (op : HttpOp) : Op → Prop
  | .manager server request =>
    op.server = server ∧ op.httpRequest = request.http C ∧ request.Sized
  | _ => False

def HttpOp.AnswerMeans (C : Codings) :
    Script.AnsRel (fun _ : HttpOp => Except Error Reply) Ans
  | _, .manager _ request, reply, answer => ReplyMeans C request reply answer
  | _, .defaultHttpClient, _, _ => False
  | _, .buildClient _, _, _ => False
  | _, .upload _ _, _, _ => False

/-- The program over HTTP does what the program in terms of requests and
responses does. -/
abbrev HttpNet.Refines {α : Type} (C : Codings) (m : HttpNet α) (m' : Net α) : Prop :=
  Script.Refines (HttpOp.Sends C) (HttpOp.AnswerMeans C) m m'

/-! ## The calls over HTTP refine the typed calls -/

section
variable {C : Codings}

theorem refines_send {α : Type} {server : ManagerServer} {httpRequest : HttpRequest}
    {request : Request} {f : Reply → HttpNet α} {f' : HttpResponse → Net α}
    (hrequest : httpRequest = request.http C) (hsized : request.Sized)
    (hf : ∀ reply response, ReplyMeans C request (.ok reply) (.ok response) →
      HttpNet.Refines C (f reply) (f' response)) :
    HttpNet.Refines C (send server httpRequest >>= f) (Net.post server request >>= f') := by
  refine .call ⟨rfl, hrequest, hsized⟩ fun reply answer hmeans => ?_
  cases reply with
  | error e =>
      cases hmeans
      exact .fail _
  | ok reply =>
      cases answer with
      | error e => cases hmeans
      | ok response => exact hf reply response hmeans

theorem readJson_carries {α : Type} {c : Coding α} {value : α} (h : c.Carries value)
    (status : HttpStatus) :
    Reply.readJson c ⟨status, some (c.serialize value)⟩ = .ok value := by
  have hread : c.deserialize (c.serialize value) = some value := h
  simp only [Reply.readJson, Option.bind_some, hread]

theorem readJson_text (hC : C.Faithful) {α : Type} (fs : Fields α) (status : HttpStatus)
    (text : String) : Reply.readJson (C.struct fs) ⟨status, some (.string text)⟩ = .error .json := by
  simp only [Reply.readJson, Option.bind_some, hC.struct_text]

namespace JanusManagerClient

theorem repliedSession_refines (hC : C.Faithful) (aggregator : String)
    {request : CreateTrainingSessionRequest} {reply : Reply} {response : HttpResponse}
    (h : ReplyMeans C (.createSession request) (.ok reply) (.ok response)) :
    HttpNet.Refines C (repliedSession C aggregator reply) (createdSession aggregator response) := by
  cases h with
  | @ok response hfits =>
      cases response with
      | createSession id =>
          have hread : Reply.readJson (C.struct (createTrainingSessionResponse C))
              ⟨.ok, some ((Response.createSession id).json C)⟩ = .ok id :=
            readJson_carries (hC.struct_carries (createTrainingSessionResponse_nodup C)
              (createTrainingSessionResponse_carries hC id)) .ok
          simp only [repliedSession, hread]
          exact .ret id
      | _ => cases hfits
  | badRequest error => exact .fail _

theorem bothRepliedOk_refines {α : Type} (message : String) (result : α)
    {request request' : Request} {reply reply' : Reply} {response response' : HttpResponse}
    (h : ReplyMeans C request (.ok reply) (.ok response))
    (h' : ReplyMeans C request' (.ok reply') (.ok response')) :
    HttpNet.Refines C (bothRepliedOk message result reply reply')
      (bothOk message result response response') := by
  cases h with
  | ok => cases h' with
    | ok => exact .ret result
    | badRequest => exact .fail _
  | badRequest => cases h' with
    | ok => exact .fail _
    | badRequest => exact .fail _

theorem createSessionHttp_refines (hC : C.Faithful) (J : Janus) {self : JanusManagerClient}
    (hsized : self.vdafParameter.Sized) (random : Nat → UInt8) :
    HttpNet.Refines C (self.createSessionHttp C J random) (self.createSession J random) := by
  refine refines_send rfl hsized fun _ _ hleader => ?_
  refine (repliedSession_refines hC "leader" hleader).bind fun leaderId => ?_
  refine refines_send rfl hsized fun _ _ hhelper => ?_
  refine (repliedSession_refines hC "helper" hhelper).bind fun helperId => ?_
  split
  · exact .ret leaderId
  · exact .fail _

theorem endSessionHttp_refines (self : JanusManagerClient) (id : TrainingSessionId) :
    HttpNet.Refines C (self.endSessionHttp C id) (self.endSession id) := by
  refine refines_send rfl trivial fun _ _ hleader => ?_
  refine refines_send rfl trivial fun _ _ hhelper => ?_
  exact bothRepliedOk_refines _ _ hleader hhelper

theorem startRoundHttp_refines (self : JanusManagerClient) (taskId : TaskId)
    (id : TrainingSessionId) :
    HttpNet.Refines C (self.startRoundHttp C taskId id) (self.startRound taskId id) := by
  refine refines_send rfl trivial fun _ _ hleader => ?_
  refine refines_send rfl trivial fun _ _ hhelper => ?_
  exact bothRepliedOk_refines _ _ hleader hhelper

end JanusManagerClient

theorem getVdafParameterFromTaskHttp_refines (hC : C.Faithful) (managerServer : ManagerServer)
    (taskId : TaskId) :
    HttpNet.Refines C (getVdafParameterFromTaskHttp C managerServer taskId)
      (getVdafParameterFromTask managerServer taskId) := by
  refine refines_send rfl trivial fun _ _ hmeans => ?_
  cases hmeans with
  | @ok response hfits =>
      cases response with
      | getVdafParameter vdafParameter =>
          have hread : Reply.readJson (C.struct (getVdafParameterResponse C))
              ⟨.ok, some ((Response.getVdafParameter vdafParameter).json C)⟩ =
                .ok vdafParameter :=
            readJson_carries (hC.struct_carries (getVdafParameterResponse_nodup C)
              (getVdafParameterResponse_carries hC hfits)) .ok
          simp only [hread]
          exact .ret vdafParameter
      | _ => cases hfits
  | badRequest error =>
      simp only [readJson_text hC]
      exact .fail _

/-- The main locations in a reply are those in the response. -/
theorem readJson_mainLocations (hC : C.Faithful) {reply : Reply} {response : HttpResponse}
    (h : ReplyMeans C .getMainLocations (.ok reply) (.ok response)) :
    (∃ locations, reply.readJson (MainLocations.coding C) = .ok locations ∧
      response.mainLocations = some locations) ∨
    reply.readJson (MainLocations.coding C) = .error .json ∧ response.mainLocations = none := by
  cases h with
  | @ok response hfits =>
      cases response with
      | getMainLocations locations =>
          exact .inl ⟨locations, readJson_carries (MainLocations.coding_carries hC locations) .ok, rfl⟩
      | _ => cases hfits
  | badRequest error => exact .inr ⟨readJson_text hC _ _ _, rfl⟩

theorem getMainLocationsHttp_refines (hC : C.Faithful) :
    HttpNet.Refines C (getMainLocationsHttp C) getMainLocations := by
  refine refines_send rfl trivial fun _ _ hleader => ?_
  refine refines_send rfl trivial fun _ _ hhelper => ?_
  rcases readJson_mainLocations hC hleader with ⟨a, hread, hlocations⟩ | ⟨hread, hlocations⟩ <;>
    rcases readJson_mainLocations hC hhelper with ⟨b, hread', hlocations'⟩ | ⟨hread', hlocations'⟩ <;>
    simp only [hread, hread', hlocations, hlocations', Except.toOption]
  · split
    · exact .ret a
    · exact .fail _
  · exact .fail _
  · exact .fail _
  · exact .fail _

end
