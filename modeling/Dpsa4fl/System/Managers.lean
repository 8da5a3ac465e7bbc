-- SUMMARY: The two managers as one server: a call runs against them without other callers, with or without lost messages.
import Dpsa4fl.JanusManager.AnswerSpecs
import Dpsa4fl.JanusManager.Consumer

/-!
# The pair of managers

Here a controller is alone with the two managers: each request is answered
before the next one is sent, and nobody else sends any. A request may be lost
before it reaches its manager, or its answer may be lost on the way back.
-/

/-- The provisioners of the leader's and the helper's manager. -/
structure Managers where
  leader : TaskProvisioner
  helper : TaskProvisioner

/-- What becomes of one exchange with a manager. -/
inductive Fault where
  | delivered
  | requestLost
  | replyLost
deriving DecidableEq, Repr

/-- What the exchanges of a call meet, by their number. -/
structure Outside where
  ambient : Nat → Ambient
  fault : Nat → Fault

/-- No message is lost. -/
def Outside.Reliable (o : Outside) : Prop := ∀ n, o.fault n = .delivered

namespace Managers

def get (m : Managers) : ManagerServer → TaskProvisioner
  | .leader => m.leader
  | .helper => m.helper

def set (m : Managers) (server : ManagerServer) (p : TaskProvisioner) : Managers :=
  match server with
  | .leader => { m with leader := p }
  | .helper => { m with helper := p }

@[simp] theorem set_leader (m : Managers) (p : TaskProvisioner) :
    m.set .leader p = ⟨p, m.helper⟩ := rfl
@[simp] theorem set_helper (m : Managers) (p : TaskProvisioner) :
    m.set .helper p = ⟨m.leader, p⟩ := rfl
@[simp] theorem get_leader (m : Managers) : m.get .leader = m.leader := rfl
@[simp] theorem get_helper (m : Managers) : m.get .helper = m.helper := rfl

/-- Exchange number `n` of a call. The operations of clients meet no fault. -/
def serve (J : Janus) (o : Outside) (n : Nat) : (op : Op) → Managers → Ans op × Managers
  | .manager server request, m =>
    match o.fault n with
    | .requestLost => (.error .transport, m)
    | .delivered =>
      let (answer, p) := (m.get server).answer J (o.ambient n) request
      (respond answer, m.set server p)
    | .replyLost => (.error .transport, m.set server ((m.get server).answer J (o.ambient n) request).2)
  | .defaultHttpClient, m => (.ok (), m)
  | .buildClient _, m => (.ok (), m)
  | .upload _ _, m => (.ok (), m)

/-- Run a call to its end. -/
def run {ε α : Type} (J : Janus) (o : Outside) (script : Script Op Ans ε α) (m : Managers) :
    Except ε α × Managers :=
  script.exec (serve J o) 0 m

end Managers

/-! ## Running a call -/

namespace Managers

variable {J : Janus} {o : Outside} {m : Managers} {α : Type}

/-- The next step of a call that posts a request. -/
theorem exec_post (n : Nat) (server : ManagerServer) (request : Request)
    (f : HttpResponse → Net α) :
    (Net.post server request >>= f).exec (serve J o) n m =
      match serve J o n (.manager server request) m with
      | (.ok response, m') => (f response).exec (serve J o) (n + 1) m'
      | (.error e, m') => (.error (.err e), m') := by
  rw [Net.post, Script.call_bind, Script.exec_call]
  generalize serve J o n (.manager server request) m = r
  obtain ⟨answer, m'⟩ := r
  cases answer <;> rfl

theorem serve_delivered {n : Nat} (h : o.fault n = .delivered) (server : ManagerServer)
    (request : Request) :
    serve J o n (.manager server request) m =
      (respond ((m.get server).answer J (o.ambient n) request).1,
        m.set server ((m.get server).answer J (o.ambient n) request).2) := by
  simp only [serve, h]

/-- A call that succeeds has lost no message on its way. -/
theorem exec_post_ok {n : Nat} {server : ManagerServer} {request : Request}
    {f : HttpResponse → Net α} {a : α} {m' : Managers}
    (h : (Net.post server request >>= f).exec (serve J o) n m = (.ok a, m')) :
    ∃ answer p response, (m.get server).answer J (o.ambient n) request = (answer, p) ∧
      respond answer = .ok response ∧
      (f response).exec (serve J o) (n + 1) (m.set server p) = (.ok a, m') := by
  rw [exec_post] at h
  cases hfault : o.fault n with
  | requestLost =>
      simp only [serve, hfault] at h
      cases h
  | replyLost =>
      simp only [serve, hfault] at h
      cases h
  | delivered =>
      rw [serve_delivered hfault] at h
      generalize hanswer : (m.get server).answer J (o.ambient n) request = r at h
      obtain ⟨answer, p⟩ := r
      cases hresponse : respond answer with
      | error e =>
          simp only [hresponse] at h
          cases h
      | ok response =>
          simp only [hresponse] at h
          exact ⟨answer, p, response, rfl, hresponse, h⟩

end Managers
