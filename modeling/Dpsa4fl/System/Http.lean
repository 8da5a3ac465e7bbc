-- SUMMARY: The two managers as HTTP servers: calls over HTTP have the same results and effects as the typed calls, whatever else is sent.
import Dpsa4fl.JanusManager.HttpReplies
import Dpsa4fl.System.Managers

/-!
# The managers over HTTP

A controller or a client calls the managers over HTTP while anybody may send them
any HTTP requests. The call comes out as the typed call does, since each exchange
over HTTP does what the typed exchange does.
-/

/-- A HTTP request that somebody sends to a manager. -/
structure Sent where
  server : ManagerServer
  ambient : Ambient
  httpRequest : HttpRequest

namespace Managers

def Sized (m : Managers) : Prop := m.leader.Sized ∧ m.helper.Sized

/-- The managers after these requests, one after the other. -/
def traffic (C : Codings) (J : Janus) (m : Managers) (sent : List Sent) : Managers :=
  sent.foldl (fun m s =>
    m.set s.server ((m.get s.server).serveHttp C J s.ambient s.httpRequest).2) m

/-- Exchange number `n` of a call over HTTP. -/
def serveHttp (C : Codings) (J : Janus) (o : Outside) (n : Nat) (op : HttpOp) (m : Managers) :
    Except Error Reply × Managers :=
  match o.fault n with
  | .requestLost => (.error .transport, m)
  | .delivered =>
    let (reply, p) := (m.get op.server).serveHttp C J (o.ambient n) op.httpRequest
    (reply.elim (.error .transport) .ok, m.set op.server p)
  | .replyLost => (.error .transport,
      m.set op.server ((m.get op.server).serveHttp C J (o.ambient n) op.httpRequest).2)

/-- Run a call over HTTP, where others send the requests `others n` before its
exchange number `n`. -/
def runHttp {α : Type} (C : Codings) (J : Janus) (o : Outside) (others : Nat → List Sent)
    (script : HttpNet α) (m : Managers) : Except Failure α × Managers :=
  script.exec (fun n op m => serveHttp C J o n op (m.traffic C J (others n))) 0 m

/-- Run a typed call among the same requests of others. -/
def runAmong {α : Type} (C : Codings) (J : Janus) (o : Outside) (others : Nat → List Sent)
    (script : Net α) (m : Managers) : Except Failure α × Managers :=
  script.exec (fun n op m => serve J o n op (m.traffic C J (others n))) 0 m

/-- Without others, this is a call that is alone with the managers. -/
theorem runAmong_alone {α : Type} (C : Codings) (J : Janus) (o : Outside) (script : Net α)
    (m : Managers) : runAmong C J o (fun _ => []) script m = run J o script m := rfl

section
variable {C : Codings} {J : Janus} {o : Outside} {m : Managers}

theorem Sized.get (hm : m.Sized) (server : ManagerServer) : (m.get server).Sized := by
  cases server with
  | leader => exact hm.1
  | helper => exact hm.2

theorem Sized.set (hm : m.Sized) (server : ManagerServer) {p : TaskProvisioner} (hp : p.Sized) :
    (m.set server p).Sized := by
  cases server with
  | leader => exact ⟨hp, hm.2⟩
  | helper => exact ⟨hm.1, hp⟩

theorem Sized.traffic (hC : C.Faithful) (hm : m.Sized) (sent : List Sent) : (m.traffic C J sent).Sized := by
  induction sent generalizing m with
  | nil => exact hm
  | cons s sent ih => exact ih (hm.set s.server (serveHttp_sized hC s.httpRequest (hm.get s.server)))

/-- One exchange over HTTP does what the typed exchange does. -/
theorem serveHttp_means (hC : C.Faithful) (n : Nat) {op : HttpOp} {op' : Op}
    (hop : op.Sends C op') (hm : m.Sized) :
    HttpOp.AnswerMeans C op op' (serveHttp C J o n op m).1 (serve J o n op' m).1 ∧
      (serveHttp C J o n op m).2 = (serve J o n op' m).2 ∧ (serve J o n op' m).2.Sized := by
  obtain ⟨server, httpRequest⟩ := op
  cases op' with
  | manager server' request =>
      obtain ⟨rfl, rfl, hrequest⟩ := hop
      have hp : (m.get server).Sized := hm.get server
      have hsized : ((m.get server).answer J (o.ambient n) request).2.Sized :=
        answer_sized hrequest hp
      simp only [serveHttp, serve, HttpOp.AnswerMeans, serveHttp_http hC hrequest]
      cases o.fault n with
      | requestLost => exact ⟨.lost _, rfl, hm⟩
      | replyLost => exact ⟨.lost _, rfl, hm.set server hsized⟩
      | delivered =>
          refine ⟨?_, rfl, hm.set server hsized⟩
          cases hanswer : ((m.get server).answer J (o.ambient n) request).1 with
          | ok response => exact .ok ((answer_spec (Prod.ext hanswer rfl)).fits hp)
          | error failure => cases failure with
            | err error => exact .badRequest error
            | panic message => exact .lost _
  | _ => exact hop.elim

/-- A program over HTTP has the result and the effect of the typed program that
it refines. -/
theorem runHttp_eq {α : Type} (hC : C.Faithful) (hm : m.Sized) (others : Nat → List Sent)
    {script : HttpNet α} {script' : Net α} (h : HttpNet.Refines C script script') :
    runHttp C J o others script m = runAmong C J o others script' m := by
  refine h.exec_eq (I := Sized) ?_ hm 0
  intro n op op' s hop hs
  exact serveHttp_means hC n hop (hs.traffic hC (others n))

end

end Managers

/-- The calls of controllers and clients over HTTP have the results and effects of
the typed calls, at managers that have served any HTTP requests before, among any
requests of others, and with any message lost. -/
theorem calls_over_http {C : Codings} (hC : C.Faithful) (J : Janus) (o : Outside)
    (others : Nat → List Sent) (history : List Sent) (leader helper : Datastore)
    (leaderConfig helperConfig : TaskProvisionerConfig) (m : Managers)
    (hm : m = Managers.traffic C J ⟨.new leader leaderConfig, .new helper helperConfig⟩ history) :
    (∀ client : JanusManagerClient, client.vdafParameter.Sized → ∀ random,
      Managers.runHttp C J o others (client.createSessionHttp C J random) m =
        Managers.runAmong C J o others (client.createSession J random) m) ∧
    (∀ (client : JanusManagerClient) id,
      Managers.runHttp C J o others (client.endSessionHttp C id) m =
        Managers.runAmong C J o others (client.endSession id) m) ∧
    (∀ (client : JanusManagerClient) taskId id,
      Managers.runHttp C J o others (client.startRoundHttp C taskId id) m =
        Managers.runAmong C J o others (client.startRound taskId id) m) ∧
    (∀ managerServer taskId,
      Managers.runHttp C J o others (getVdafParameterFromTaskHttp C managerServer taskId) m =
        Managers.runAmong C J o others (getVdafParameterFromTask managerServer taskId) m) ∧
    Managers.runHttp C J o others (getMainLocationsHttp C) m =
      Managers.runAmong C J o others getMainLocations m := by
  have hsized : m.Sized := by
    rw [hm]
    exact Managers.Sized.traffic hC
      ⟨TaskProvisioner.new_sized leader leaderConfig, TaskProvisioner.new_sized helper helperConfig⟩
      history
  refine ⟨fun client hclient random => ?_, fun client id => ?_, fun client taskId id => ?_,
    fun managerServer taskId => ?_, ?_⟩
  · exact Managers.runHttp_eq hC hsized others (client.createSessionHttp_refines hC J hclient random)
  · exact Managers.runHttp_eq hC hsized others (client.endSessionHttp_refines id)
  · exact Managers.runHttp_eq hC hsized others (client.startRoundHttp_refines taskId id)
  · exact Managers.runHttp_eq hC hsized others
      (getVdafParameterFromTaskHttp_refines hC managerServer taskId)
  · exact Managers.runHttp_eq hC hsized others (getMainLocationsHttp_refines hC)

namespace Sample

/-- Others ask for a path that no endpoint has, and across origins. -/
def otherRequests : Nat → List Sent := fun _ =>
  [⟨.helper, ambient 0, { method := .get, path := ["upload"] }⟩, ⟨.leader, ambient 0, preflightHttp⟩]

/-- A session is created over HTTP among them. -/
theorem createSession_over_http :
    Managers.runHttp .plain .plain ⟨fun _ => ambient 7, fun _ => .delivered⟩ otherRequests
        (client.createSessionHttp .plain .plain fun _ => 0) ⟨.new ∅ config, .new ∅ config⟩ =
      Managers.runAmong .plain .plain ⟨fun _ => ambient 7, fun _ => .delivered⟩ otherRequests
        (client.createSession .plain fun _ => 0) ⟨.new ∅ config, .new ∅ config⟩ :=
  (calls_over_http Codings.plain_faithful .plain _ _ [] ∅ ∅ config config _ rfl).1 client
    (by decide) _

end Sample
