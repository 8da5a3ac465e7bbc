-- SUMMARY: A manager as a HTTP server with many requests at once: its runs are runs of the manager, and what it replies in them.
import Dpsa4fl.JanusManager.Coherence
import Dpsa4fl.JanusManager.HttpReplies

/-!
# Concurrent requests over HTTP

The server reads each HTTP request with its filters. One that they let through is
handled by a thread of the manager, among those of the others, and the answer of
the thread is made a reply. To the others the filters reply at once.
-/

/-- A manager with the HTTP requests that it was sent, the oldest first. Each was
replied to by the filters or has a thread, which is known by its number. -/
structure HttpServer where
  manager : Manager
  exchanges : List (HttpRequest × Except Reply Nat)

namespace HttpServer

def new (datastore : Datastore) (config : TaskProvisionerConfig) : HttpServer where
  manager := .new datastore config
  exchanges := []

inductive Action where
  /-- Somebody sends a HTTP request. -/
  | send (httpRequest : HttpRequest)
  /-- The manager runs one of its threads, drops one, or is restarted. -/
  | manager (action : Manager.Action)

/-- The HTTP request that is sent with this action. -/
def Action.sent : Action → Option HttpRequest
  | send httpRequest => some httpRequest
  | manager _ => none

/-- What the manager does when the server takes this action. -/
def Action.typed (C : Codings) : Action → Option Manager.Action
  | send httpRequest => (dispatch C httpRequest).toOption.map .send
  | manager action => some action

/-- One step of the server. Requests reach the manager through the filters only. -/
def step (C : Codings) (J : Janus) (s : HttpServer) : Action → Option HttpServer
  | .send httpRequest =>
    match dispatch C httpRequest with
    | .error reply => some { s with exchanges := s.exchanges ++ [(httpRequest, .error reply)] }
    | .ok request =>
      (s.manager.step J (.send request)).map fun m =>
        ⟨m, s.exchanges ++ [(httpRequest, .ok s.manager.threads.length)]⟩
  | .manager action =>
    match action with
    | .send _ => none
    | action => (s.manager.step J action).map fun m => { s with manager := m }

/-- What was replied to the HTTP request with this number. -/
def reply (C : Codings) (s : HttpServer) (n : Nat) : Option Reply :=
  match s.exchanges[n]? with
  | none => none
  | some (_, .error reply) => some reply
  | some (_, .ok k) =>
    match s.manager.threads[k]? with
    | some (.answered _ answer) => (endpointReply C answer).map (errorHandler C)
    | _ => none

end HttpServer

/-! ## Sizes in threads -/

/-- The parameters in a thread have gradient lengths of 64 bits, and its answer is
one to its request. -/
structure Thread.Sized (thread : Thread) : Prop where
  request : thread.request.Sized
  session : ∀ request id session, thread = .insert request id session → session.vdafParameter.Sized
  response : ∀ request response, thread = .answered request (.ok response) →
    Response.Fits request response

structure Manager.Sized (m : Manager) : Prop where
  provisioner : m.provisioner.Sized
  threads : ∀ (k : Nat) (thread : Thread), m.threads[k]? = some thread → thread.Sized

section
variable {C : Codings} {J : Janus} {ω : Ambient} {p p' : TaskProvisioner} {thread thread' : Thread}
  {m m' : Manager}

theorem Thread.Sized.arrived {request : Request} (h : request.Sized) :
    (Thread.arrived request).Sized where
  request := h
  session _ _ _ heq := by cases heq
  response _ _ heq := by cases heq

theorem Thread.Sized.dropped (h : thread.Sized) : (Thread.dropped thread.request).Sized where
  request := h.request
  session _ _ _ heq := by cases heq
  response _ _ heq := by cases heq

theorem Thread.Resumes.sized_provisioner (h : thread.Resumes J ω p thread' p') (ht : thread.Sized)
    (hp : p.Sized) : p'.Sized := by
  cases h with
  | chosen => exact hp
  | keypair hsame => exact hp.of_sameTables hsame
  | inserted => exact hp.insert rfl (ht.session _ _ _ rfl)
  | built _ _ _ hsame => exact hp.of_sameTables hsame
  | provisioned => exact hp
  | @recorded request taskId =>
      intro k s hs
      rw [TaskProvisioner.lookup_recordTask] at hs
      split at hs
      · obtain ⟨s₀, hs₀, rfl⟩ := Option.map_eq_some_iff.mp hs
        exact hp _ s₀ hs₀
      · exact hp k s hs
  | ended _ _ _ hsessions => exact hp.erase hsessions
  | decoded => exact hp
  | found => exact hp
  | located => exact hp
  | failed hsame => exact hp.of_sameTables hsame

theorem Thread.Resumes.sized (h : thread.Resumes J ω p thread' p') (ht : thread.Sized)
    (hp : p.Sized) : thread'.Sized := by
  have hrequest : thread'.request.Sized := h.request_eq ▸ ht.request
  refine ⟨hrequest, ?_, ?_⟩
  · rintro request id session rfl
    cases h with
    | keypair => exact ht.request
  · rintro request response rfl
    cases h with
    | inserted => trivial
    | recorded => trivial
    | ended => trivial
    | found hlive => exact hp _ _ hlive
    | located => trivial

namespace Manager

theorem sized_new (datastore : Datastore) (config : TaskProvisionerConfig) :
    (new datastore config).Sized where
  provisioner := TaskProvisioner.new_sized datastore config
  threads k thread hk := by cases hk

/-- Only a request that is sent gets a new thread. -/
theorem length_step {a : Action} (ha : ∀ request, a ≠ .send request) (h : m.step J a = some m') :
    m'.threads.length = m.threads.length := by
  cases a with
  | send request => exact (ha request rfl).elim
  | resume i ω =>
      obtain ⟨thread, thread', hr⟩ := step_resume h
      rw [hr.threads, List.length_set]
  | drop i =>
      obtain ⟨thread, -, rfl⟩ := step_drop h
      exact List.length_set
  | restart =>
      cases h
      exact List.length_map _

theorem Sized.step (hm : m.Sized) {a : Action} (ha : ∀ request, a = .send request → request.Sized)
    (h : m.step J a = some m') : m'.Sized where
  provisioner := by
    cases a with
    | send request => cases h; exact hm.provisioner
    | resume i ω =>
        obtain ⟨thread, thread', hr⟩ := step_resume h
        exact hr.resumes.sized_provisioner (hm.threads i thread hr.get) hm.provisioner
    | drop i =>
        obtain ⟨thread, -, rfl⟩ := step_drop h
        exact hm.provisioner
    | restart =>
        cases h
        rintro id s ⟨⟩
  threads k thread hk := by
    cases step_origin h hk with
    | same hget => exact hm.threads k _ hget
    | arrived => exact .arrived (ha _ rfl)
    | dropped hget => exact (hm.threads k _ hget).dropped
    | resumed hr => exact hr.resumes.sized (hm.threads k _ hr.get) hm.provisioner

end Manager

end

/-! ## What a step of the server can do -/

namespace HttpServer

variable {C : Codings} {J : Janus} {s s' : HttpServer}

/-- `s.Moves C J a s'`: the server goes from `s` to `s'` with the action `a`. -/
inductive Moves (C : Codings) (J : Janus) (s : HttpServer) : Action → HttpServer → Prop where
  | filtered {httpRequest reply} (hdispatch : dispatch C httpRequest = .error reply) :
      Moves C J s (.send httpRequest) ⟨s.manager, s.exchanges ++ [(httpRequest, .error reply)]⟩
  | accepted {httpRequest request m} (hdispatch : dispatch C httpRequest = .ok request)
      (hstep : s.manager.step J (.send request) = some m) :
      Moves C J s (.send httpRequest)
        ⟨m, s.exchanges ++ [(httpRequest, .ok s.manager.threads.length)]⟩
  | managed {action m} (haction : ∀ request, action ≠ .send request)
      (hstep : s.manager.step J action = some m) :
      Moves C J s (.manager action) ⟨m, s.exchanges⟩

theorem step_moves {a : Action} (h : s.step C J a = some s') : s.Moves C J a s' := by
  cases a with
  | send httpRequest =>
      simp only [step] at h
      split at h
      · rename_i reply hdispatch
        cases h
        exact .filtered hdispatch
      · rename_i request hdispatch
        obtain ⟨m, hstep, rfl⟩ := Option.map_eq_some_iff.mp h
        exact .accepted hdispatch hstep
  | manager action =>
      simp only [step] at h
      split at h
      · cases h
      · rename_i haction
        obtain ⟨m, hstep, rfl⟩ := Option.map_eq_some_iff.mp h
        exact .managed haction hstep

/-- The manager takes the typed action, or none. -/
theorem Moves.typed {a : Action} (h : s.Moves C J a s') :
    a.typed C = none ∧ s'.manager = s.manager ∨
      ∃ action, a.typed C = some action ∧ s.manager.step J action = some s'.manager := by
  cases h with
  | filtered hdispatch =>
      refine .inl ⟨?_, rfl⟩
      simp only [Action.typed, hdispatch, Except.toOption, Option.map_none]
  | accepted hdispatch hstep =>
      refine .inr ⟨_, ?_, hstep⟩
      simp only [Action.typed, hdispatch, Except.toOption, Option.map_some]
  | managed _ hstep => exact .inr ⟨_, rfl, hstep⟩

/-- What the filters read has a gradient length of 64 bits. -/
theorem Moves.sized (hC : C.Faithful) {a : Action} (h : s.Moves C J a s') (hs : s.manager.Sized) :
    s'.manager.Sized := by
  cases h with
  | filtered => exact hs
  | accepted hdispatch hstep =>
      refine hs.step ?_ hstep
      rintro request ⟨⟩
      exact dispatch_sized hC hdispatch
  | managed haction hstep => exact hs.step (fun request heq => (haction request heq).elim) hstep

theorem Moves.keeps_exchange {a : Action} (h : s.Moves C J a s') {n : Nat}
    {e : HttpRequest × Except Reply Nat} (hget : s.exchanges[n]? = some e) :
    s'.exchanges[n]? = some e := by
  have hlt := (List.getElem?_eq_some_iff.mp hget).1
  cases h with
  | filtered => exact (List.getElem?_append_left hlt).trans hget
  | accepted => exact (List.getElem?_append_left hlt).trans hget
  | managed => exact hget

theorem Moves.keeps_answered {a : Action} (h : s.Moves C J a s') {k : Nat} {request : Request}
    {answer : Except Failure Response}
    (hk : s.manager.threads[k]? = some (.answered request answer)) :
    s'.manager.threads[k]? = some (.answered request answer) := by
  rcases h.typed with ⟨-, hsame⟩ | ⟨action, -, hstep⟩
  · rw [hsame]
    exact hk
  · obtain ⟨thread, hk', -, hfinished⟩ := Manager.step_keeps hstep hk
    rw [hfinished rfl] at hk'
    exact hk'

/-- The server runs as its manager does. -/
theorem run_typed {as : List Action} (hrun : Run.after (step C J) s as = some s') :
    Run.after (Manager.step J) s.manager (as.filterMap (Action.typed C)) = some s'.manager :=
  Run.after_filterMap (·.manager) (Action.typed C) (fun _ _ _ h => (step_moves h).typed) hrun

/-! ## What a server keeps -/

/-- What the filters have made of a HTTP request. -/
def Exchanged (C : Codings) (m : Manager) (httpRequest : HttpRequest) : Except Reply Nat → Prop
  | .error reply => dispatch C httpRequest = .error reply
  | .ok k => ∃ thread, m.threads[k]? = some thread ∧ dispatch C httpRequest = .ok thread.request

theorem Exchanged.mono {m m' : Manager} {httpRequest : HttpRequest} {outcome : Except Reply Nat}
    (h : Exchanged C m httpRequest outcome) {a : Manager.Action} (hstep : m.step J a = some m') :
    Exchanged C m' httpRequest outcome := by
  cases outcome with
  | error reply => exact h
  | ok k =>
      obtain ⟨thread, hk, hdispatch⟩ := h
      obtain ⟨thread', hk', hrequest, -⟩ := Manager.step_keeps hstep hk
      exact ⟨thread', hk', hrequest ▸ hdispatch⟩

/-- Every HTTP request was read by the filters, and each thread is that of one request. -/
structure Served (C : Codings) (s : HttpServer) : Prop where
  exchanges : ∀ e ∈ s.exchanges, Exchanged C s.manager e.1 e.2
  threads : s.exchanges.filterMap (fun e => e.2.toOption) = List.range s.manager.threads.length

theorem served_new (C : Codings) (datastore : Datastore) (config : TaskProvisionerConfig) :
    (new datastore config).Served C where
  exchanges e he := by cases he
  threads := rfl

theorem Served.step (hs : s.Served C) {a : Action} (h : s.step C J a = some s') : s'.Served C := by
  cases step_moves h with
  | @filtered httpRequest reply hdispatch =>
      refine ⟨?_, ?_⟩
      · intro e he
        rcases List.mem_append.mp he with he | he
        · exact hs.exchanges e he
        · obtain rfl := List.mem_singleton.mp he
          exact hdispatch
      · rw [List.filterMap_append, hs.threads]
        exact List.append_nil _
  | @accepted httpRequest request m hdispatch hstep =>
      refine ⟨?_, ?_⟩
      · intro e he
        rcases List.mem_append.mp he with he | he
        · exact (hs.exchanges e he).mono hstep
        · obtain rfl := List.mem_singleton.mp he
          cases hstep
          exact ⟨.arrived request, List.getElem?_concat_length, hdispatch⟩
      · cases hstep
        rw [List.filterMap_append, hs.threads, List.length_append]
        exact List.range_succ.symm
  | @managed action m haction hstep =>
      refine ⟨fun e he => (hs.exchanges e he).mono hstep, ?_⟩
      rw [Manager.length_step haction hstep]
      exact hs.threads

/-- Each HTTP request has its exchange, in the order in which they were sent. -/
theorem exchanges_run {as : List Action} (hrun : Run.after (step C J) s as = some s') :
    s'.exchanges.map (·.1) = s.exchanges.map (·.1) ++ as.filterMap Action.sent := by
  induction as generalizing s with
  | nil =>
      cases hrun
      exact (List.append_nil _).symm
  | cons a as ih =>
      obtain ⟨s₁, h₁, hrest⟩ := Run.after_cons_eq_some.mp hrun
      rw [ih hrest]
      cases step_moves h₁ with
      | managed => rfl
      | _ => rw [List.map_append, List.append_assoc]; rfl

/-! ## Replies -/

section
variable {n k : Nat} {httpRequest : HttpRequest} {outcome : Except Reply Nat} {r : Reply}

/-- A reply is one of the filters, or an endpoint has made it of an answer. -/
theorem reply_cases (hget : s.exchanges[n]? = some (httpRequest, outcome))
    (hr : s.reply C n = some r) :
    outcome = .error r ∨
      ∃ k request answer, outcome = .ok k ∧
        s.manager.threads[k]? = some (.answered request answer) ∧
        (endpointReply C answer).map (errorHandler C) = some r := by
  simp only [reply, hget] at hr
  cases outcome with
  | error reply =>
      cases hr
      exact .inl rfl
  | ok k =>
      simp only at hr
      split at hr
      · rename_i request answer hk
        exact .inr ⟨k, request, answer, rfl, hk, hr⟩
      · cases hr

theorem reply_of_filtered (hget : s.exchanges[n]? = some (httpRequest, .error r)) :
    s.reply C n = some r := by
  simp only [reply, hget]

theorem reply_of_answered (hget : s.exchanges[n]? = some (httpRequest, .ok k)) {request : Request}
    {answer : Except Failure Response}
    (hk : s.manager.threads[k]? = some (.answered request answer)) :
    s.reply C n = (endpointReply C answer).map (errorHandler C) := by
  simp only [reply, hget, hk]

/-- What was replied stays replied. -/
theorem reply_step {a : Action} (h : s.step C J a = some s')
    (hget : s.exchanges[n]? = some (httpRequest, outcome)) (hr : s.reply C n = some r) :
    s'.reply C n = some r := by
  have hmoves := step_moves h
  rcases reply_cases hget hr with rfl | ⟨k, request, answer, rfl, hk, hreply⟩
  · exact reply_of_filtered (hmoves.keeps_exchange hget)
  · rw [reply_of_answered (hmoves.keeps_exchange hget) (hmoves.keeps_answered hk)]
    exact hreply

theorem reply_run {as : List Action} (hrun : Run.after (step C J) s as = some s')
    (hget : s.exchanges[n]? = some (httpRequest, outcome)) (hr : s.reply C n = some r) :
    s'.reply C n = some r := by
  have hboth : s'.exchanges[n]? = some (httpRequest, outcome) ∧ s'.reply C n = some r :=
    Run.invariant (P := fun s : HttpServer =>
        s.exchanges[n]? = some (httpRequest, outcome) ∧ s.reply C n = some r)
      (fun _ _ _ hs h => ⟨(step_moves h).keeps_exchange hs.1, reply_step h hs.1 hs.2⟩) ⟨hget, hr⟩
      hrun
  exact hboth.2

theorem Served.exchanged (hs : s.Served C) (hget : s.exchanges[n]? = some (httpRequest, outcome)) :
    Exchanged C s.manager httpRequest outcome :=
  hs.exchanges _ (List.mem_of_getElem? hget)

theorem Served.statuses (hs : s.Served C) (hget : s.exchanges[n]? = some (httpRequest, outcome)) :
    httpRequest.Statuses fun status => ∃ r, s.reply C n = some r ∧ r.status = status := by
  have hexchanged := hs.exchanged hget
  refine statuses_of_filtered (C := C) ?_ ?_
  · rintro status ⟨r, hdispatch, hstatus⟩
    cases outcome with
    | error r' =>
        cases hdispatch.symm.trans hexchanged
        exact ⟨r, reply_of_filtered hget, hstatus⟩
    | ok k =>
        obtain ⟨thread, -, hok⟩ := hexchanged
        cases hok.symm.trans hdispatch
  · rintro status hok hbad ⟨r, hr, rfl⟩
    rcases reply_cases hget hr with rfl | ⟨k, request, answer, rfl, -, hreply⟩
    · exact ⟨r, hexchanged, rfl⟩
    · exact (endpointReply_status hreply).elim (fun h => (hok h.1).elim) fun h => (hbad h.1).elim

/-- A reply with status OK is the response to the request that was sent, if that is no
preflight. -/
theorem Served.ok_readFrom (hs : s.Served C) (hC : C.Faithful) (hsized : s.manager.Sized)
    (hget : s.exchanges[n]? = some (httpRequest, outcome)) (hr : s.reply C n = some r)
    (hok : r.status = .ok) :
    httpRequest.isPreflight = true ∧ r.body = none ∧ outcome = .error r ∨
    ∃ k request response, outcome = .ok k ∧ dispatch C httpRequest = .ok request ∧
      s.manager.threads[k]? = some (.answered request (.ok response)) ∧
      Response.ReadFrom C r.body request response := by
  have hexchanged := hs.exchanged hget
  rcases reply_cases hget hr with rfl | ⟨k, request, answer, rfl, hk, hreply⟩
  · obtain ⟨hpreflight, hbody⟩ := dispatch_error_ok hexchanged hok
    exact .inl ⟨hpreflight, hbody, rfl⟩
  · rcases endpointReply_status hreply with ⟨-, response, rfl, hbody⟩ | ⟨hbad, -⟩
    · obtain ⟨thread, hk', hdispatch⟩ := hexchanged
      obtain rfl := Option.some.inj (hk.symm.trans hk')
      refine .inr ⟨k, request, response, rfl, hdispatch, hk, ?_⟩
      rw [hbody]
      exact ((hsized.threads k _ hk).response request response rfl).readFrom hC
    · cases hbad.symm.trans hok

end

/-- A server gets any HTTP requests, and their handlers run in any order, are dropped
and are lost in restarts. It runs as its manager does with the requests that the
filters let through. Each HTTP request has its exchange, and each thread belongs to
one of them. The path, the method and the headers alone decide about the statuses 403,
404, 405 and 415; no reply is a redirection; OK is replied to a preflight by the filters,
or with the response to the request, which the one who asked can read; and no reply
changes. -/
theorem concurrent_replies (hC : C.Faithful) (J : Janus) (datastore : Datastore)
    (config : TaskProvisionerConfig) {as : List Action}
    (hrun : Run.after (step C J) (new datastore config) as = some s) :
    Run.after (Manager.step J) (.new datastore config) (as.filterMap (Action.typed C)) =
        some s.manager ∧
      s.exchanges.map (·.1) = as.filterMap Action.sent ∧
      s.exchanges.filterMap (fun e => e.2.toOption) = List.range s.manager.threads.length ∧
      ∀ n httpRequest outcome, s.exchanges[n]? = some (httpRequest, outcome) →
        httpRequest.Statuses (fun status => ∃ r, s.reply C n = some r ∧ r.status = status) ∧
        ∀ r, s.reply C n = some r →
          (r.status = .ok →
            httpRequest.isPreflight = true ∧ r.body = none ∧ outcome = .error r ∨
            ∃ k request response, outcome = .ok k ∧ dispatch C httpRequest = .ok request ∧
              s.manager.threads[k]? = some (.answered request (.ok response)) ∧
              Response.ReadFrom C r.body request response) ∧
          ∀ bs s', Run.after (step C J) s bs = some s' → s'.reply C n = some r := by
  have hs : s.Served C :=
    Run.invariant (fun _ _ _ hs h => hs.step h) (served_new C datastore config) hrun
  have hsized : s.manager.Sized :=
    Run.invariant (P := fun s : HttpServer => s.manager.Sized)
      (fun _ _ _ hs h => (step_moves h).sized hC hs) (Manager.sized_new datastore config) hrun
  refine ⟨run_typed hrun, exchanges_run hrun, hs.threads, ?_⟩
  intro n httpRequest outcome hget
  refine ⟨hs.statuses hget, ?_⟩
  intro r hr
  exact ⟨hs.ok_readFrom hC hsized hget hr, fun bs s' hrun' => reply_run hrun' hget hr⟩

end HttpServer

namespace Sample

/-- Session 5 is created over HTTP, and the handler of a round of it holds the guard at
its transaction. Somebody asks for the parameters of the session and has to wait, and
somebody else asks across origins. -/
def heldHttp : List HttpServer.Action :=
  [.send ((Request.createSession (createRequest (some ⟨5⟩) [1])).http .plain),
   .manager (.resume 0 (ambient 0)), .manager (.resume 0 (ambient 0)),
   .manager (.resume 0 (ambient 0)),
   .send ((Request.startRound (startRequest ⟨5⟩ (taskId 1))).http .plain),
   .send getParameterHttp, .manager (.resume 1 (ambient 0)), .manager (.resume 2 (ambient 0)),
   .send preflightHttp]

/-- Then the round is recorded, and the parameters are found. -/
def releaseHttp : List HttpServer.Action :=
  [.manager (.resume 1 (ambient 0)), .manager (.resume 1 (ambient 0)),
   .manager (.resume 2 (ambient 0))]

end Sample

theorem HttpServer.concurrent_replies_sample :
    ∃ s s', Run.after (HttpServer.step .plain .plain) (.new ∅ Sample.config) Sample.heldHttp =
        some s ∧
      s.manager.guardFree = false ∧ s.manager.threads[2]?.any Thread.awaitsGuard = true ∧
      Run.after (HttpServer.step .plain .plain) s Sample.releaseHttp = some s' ∧
      (∃ r, s.reply .plain 3 = some r ∧ s'.reply .plain 3 = some r ∧ r.status = .forbidden) ∧
      ∃ r request response, s'.reply .plain 2 = some r ∧
        Response.ReadFrom .plain r.body request response := by
  obtain ⟨s, hrun, hcheck⟩ := Option.any_eq_true _ _ |>.mp
    (by decide +kernel : (Run.after (HttpServer.step .plain .plain) (.new ∅ Sample.config)
      Sample.heldHttp).any (fun s => !s.manager.guardFree &&
        s.manager.threads[2]?.any Thread.awaitsGuard &&
        s.exchanges[3]?.any (fun e => e.1.isPreflight && e.1.path = ["get_vdaf_parameter"] &&
          e.1.accessControlRequestHeaders.isSome) &&
        (Run.after (HttpServer.step .plain .plain) s Sample.releaseHttp).any fun s' =>
          s'.exchanges[2]?.any (fun e => !e.1.isPreflight) &&
            (s'.reply .plain 2).any fun r => r.status = .ok) = true)
  simp only [Bool.and_eq_true, Bool.not_eq_true'] at hcheck
  obtain ⟨⟨⟨hheld, hwaits⟩, hasked⟩, hreleased⟩ := hcheck
  obtain ⟨s', hrun', hfound⟩ := Option.any_eq_true _ _ |>.mp hreleased
  simp only [Bool.and_eq_true] at hfound
  obtain ⟨⟨httpRequest, outcome⟩, hget, hpreflight⟩ := Option.any_eq_true _ _ |>.mp hasked
  simp only [Bool.and_eq_true, decide_eq_true_eq] at hpreflight
  obtain ⟨⟨httpRequest', outcome'⟩, hget', hplain⟩ := Option.any_eq_true _ _ |>.mp hfound.1
  obtain ⟨r', hr', hok⟩ := Option.any_eq_true _ _ |>.mp hfound.2
  obtain ⟨-, -, -, hreplies⟩ :=
    HttpServer.concurrent_replies Codings.plain_faithful .plain ∅ Sample.config hrun
  obtain ⟨hstatuses, hstays⟩ := hreplies 3 httpRequest outcome hget
  obtain ⟨r, hr, hforbidden⟩ := (hstatuses.forbidden .getVdafParameter
    (by rw [Endpoint.Serves, hpreflight.1.2]; rfl)).mpr ⟨hpreflight.1.1, fun h => by
      rw [h.2] at hpreflight
      cases hpreflight.2⟩
  obtain ⟨-, -, -, hreplies'⟩ := HttpServer.concurrent_replies Codings.plain_faithful .plain ∅
    Sample.config ((Run.after_append hrun).trans hrun')
  refine ⟨s, s', hrun, hheld, hwaits, hrun',
    ⟨r, hr, (hstays r hr).2 Sample.releaseHttp s' hrun', hforbidden⟩, ?_⟩
  rcases ((hreplies' 2 httpRequest' outcome' hget').2 r' hr').1 (of_decide_eq_true hok) with
    ⟨hpreflight', -⟩ | ⟨k, request, response, -, -, -, hread⟩
  · rw [hpreflight'] at hplain
    cases hplain
  · exact ⟨r', request, response, hr', hread⟩
