-- SUMMARY: Any number of controllers and clients and the two managers, with every order of messages, losses and restarts.
import Dpsa4fl.JanusManager.Coherence
import Dpsa4fl.Client.Exchanges

/-!
# The world

Here nothing is alone. Every call of a controller or a client is a process that
waits for one exchange after the other. A request that was sent is a thread at
its manager; the answer is received when the thread has one, and the process can
stop waiting at any time while the thread goes on.
-/

/-- The calls that controllers and clients make. -/
inductive Call where
  | createSession (client : JanusManagerClient) (random : Nat → UInt8)
  | endSession (client : JanusManagerClient) (id : TrainingSessionId)
  | startRound (client : JanusManagerClient) (taskId : TaskId) (id : TrainingSessionId)
  | newClientState (managerLocations : ManagerLocations) (roundSettings : RoundSettings)
  /-- A client state, with all the calls that are made on it. -/
  | clientState (managerLocations : ManagerLocations) (calls : List ClientCall)

namespace Call

abbrev Result : Call → Type
  | createSession _ _ => Except Failure TrainingSessionId
  | endSession _ _ => Except Failure Unit
  | startRound _ _ _ => Except Failure TaskId
  | newClientState _ _ => Except Failure ClientState
  | clientState _ _ => ClientStatePU

def script (J : Janus) : (call : Call) → Api call.Result
  | createSession client random => (client.createSession J random).attempt
  | endSession client id => (client.endSession id).attempt
  | startRound client taskId id => (client.startRound taskId id).attempt
  | newClientState managerLocations roundSettings =>
    (ClientState.new managerLocations roundSettings).attempt
  | clientState managerLocations calls => clientCalls J (apiNewClientState managerLocations) calls

end Call

/-- A call that has been made. It has had the exchanges `trace`, the oldest
first, and `rest` is left to do. If the request it waits at was sent, then
`pending` is the number of the thread at its manager. -/
structure Process where
  call : Call
  trace : List Exchange
  rest : Api call.Result
  pending : Option Nat

namespace Process

def start (J : Janus) (call : Call) : Process where
  call := call
  trace := []
  rest := call.script J
  pending := none

/-- The process goes on with the answer `r` to the operation it waits at. -/
def answer (self : Process) (op : Op) (k : Ans op → Api self.call.Result) (r : Ans op) : Process :=
  { self with trace := self.trace ++ [⟨op, r⟩], rest := k r, pending := none }

end Process

structure World where
  leader : Manager
  helper : Manager
  processes : List Process

namespace World

def manager (w : World) : ManagerServer → Manager
  | .leader => w.leader
  | .helper => w.helper

def setManager (w : World) (server : ManagerServer) (m : Manager) : World :=
  match server with
  | .leader => { w with leader := m }
  | .helper => { w with helper := m }

def setProcess (w : World) (i : Nat) (process : Process) : World :=
  { w with processes := w.processes.set i process }

/-- Two managers that have just been started, and no call yet. -/
def start (leaderDatastore helperDatastore : Datastore)
    (leaderConfig helperConfig : TaskProvisionerConfig) : World where
  leader := .new leaderDatastore leaderConfig
  helper := .new helperDatastore helperConfig
  processes := []

inductive Action where
  /-- A controller or a client makes a call. -/
  | call (call : Call)
  /-- The process with this number sends the request that it waits at. -/
  | send (i : Nat)
  /-- The process with this number gets the answer to its request. -/
  | receive (i : Nat)
  /-- The process with this number gets no answer from the manager. -/
  | fail (i : Nat)
  /-- The outcome of another operation of the process with this number. -/
  | reply (i : Nat) (result : Except Error Unit)
  /-- A manager runs one of its threads, drops one, or is restarted. -/
  | manager (server : ManagerServer) (action : Manager.Action)

/-- One step of the world. Requests are sent by processes only. -/
def step (J : Janus) (w : World) : Action → Option World
  | .call call => some { w with processes := w.processes ++ [.start J call] }
  | .send i =>
    match w.processes[i]? with
    | none => none
    | some process =>
      match process.pending, process.rest with
      | none, .call (.manager server request) _ =>
        let k := (w.manager server).threads.length
        ((w.manager server).step J (.send request)).map fun m =>
          (w.setManager server m).setProcess i { process with pending := some k }
      | _, _ => none
  | .receive i =>
    match w.processes[i]? with
    | none => none
    | some process =>
      match process.pending, process.rest with
      | some k, .call (.manager server request) f =>
        match (w.manager server).threads[k]? with
        | some (.answered _ answer) =>
          some (w.setProcess i (process.answer (.manager server request) f (respond answer)))
        | _ => none
      | _, _ => none
  | .fail i =>
    match w.processes[i]? with
    | none => none
    | some process =>
      match process.rest with
      | .call (.manager server request) f =>
        some (w.setProcess i (process.answer (.manager server request) f (.error .transport)))
      | _ => none
  | .reply i result =>
    match w.processes[i]? with
    | none => none
    | some process =>
      match process.rest with
      | .call .defaultHttpClient f =>
        some (w.setProcess i (process.answer .defaultHttpClient f result))
      | .call (.buildClient client) f =>
        some (w.setProcess i (process.answer (.buildClient client) f result))
      | .call (.upload client measurement) f =>
        some (w.setProcess i (process.answer (.upload client measurement) f result))
      | _ => none
  | .manager server action =>
    match action with
    | .send _ => none
    | action => ((w.manager server).step J action).map (w.setManager server)

end World

/-! ## What a step can do -/

/-- What a process can hear in answer to the operation it waits at. -/
inductive World.Heard (w : World) (process : Process) : (op : Op) → Ans op → Prop where
  | answer {server request request' answer k} (hpending : process.pending = some k)
      (hanswered : (w.manager server).threads[k]? = some (.answered request' answer)) :
      Heard w process (.manager server request) (respond answer)
  | lost {server request} : Heard w process (.manager server request) (.error .transport)
  | httpClient {result} : Heard w process .defaultHttpClient result
  | built {client result} : Heard w process (.buildClient client) result
  | uploaded {client measurement result} : Heard w process (.upload client measurement) result

/-- `w.Moves J a w'`: the world goes from `w` to `w'` with the action `a`. -/
inductive World.Moves (J : Janus) (w : World) : World.Action → World → Prop where
  | called {call} : Moves J w (.call call) { w with processes := w.processes ++ [.start J call] }
  | sent {i process server request f m} (hget : w.processes[i]? = some process)
      (hpending : process.pending = none) (hrest : process.rest = .call (.manager server request) f)
      (hsend : (w.manager server).step J (.send request) = some m) :
      Moves J w (.send i) ((w.setManager server m).setProcess i
        { process with pending := some (w.manager server).threads.length })
  | heard {a i process op f r} (hget : w.processes[i]? = some process)
      (hrest : process.rest = .call op f) (hheard : w.Heard process op r) :
      Moves J w a (w.setProcess i (process.answer op f r))
  | managed {server action m} (haction : ∀ request, action ≠ .send request)
      (hstep : (w.manager server).step J action = some m) :
      Moves J w (.manager server action) (w.setManager server m)

namespace World

variable {J : Janus} {w w' : World}

theorem step_moves {a : Action} (h : w.step J a = some w') : w.Moves J a w' := by
  cases a with
  | call call => cases h; exact .called
  | send i =>
      simp only [step] at h
      split at h
      · cases h
      · rename_i process hget
        split at h
        · rename_i server request f hpending hrest
          obtain ⟨m, hsend, rfl⟩ := Option.map_eq_some_iff.mp h
          exact .sent hget hpending hrest hsend
        · cases h
  | receive i =>
      simp only [step] at h
      split at h
      · cases h
      · rename_i process hget
        split at h
        · rename_i k server request f hpending hrest
          split at h
          · rename_i request' answer hanswered
            cases h
            exact .heard hget hrest (.answer hpending hanswered)
          · cases h
        · cases h
  | fail i =>
      simp only [step] at h
      split at h
      · cases h
      · rename_i process hget
        split at h
        · rename_i hrest
          cases h
          exact .heard hget hrest .lost
        · cases h
  | reply i result =>
      simp only [step] at h
      split at h
      · cases h
      · rename_i process hget
        split at h
        · rename_i hrest; cases h; exact .heard hget hrest .httpClient
        · rename_i hrest; cases h; exact .heard hget hrest .built
        · rename_i hrest; cases h; exact .heard hget hrest .uploaded
        · cases h
  | manager server action =>
      simp only [step] at h
      split at h
      · cases h
      · rename_i haction
        obtain ⟨m, hstep, rfl⟩ := Option.map_eq_some_iff.mp h
        exact .managed haction hstep

end World
