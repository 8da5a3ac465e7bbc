-- SUMMARY: Which forms of the leader's URL a collection gets past, compared with a submission.
import Dpsa4fl.Controller.BatchIntervals

/-!
# URLs of the leader

A collection asks the URL of the leader for its host and for its port before it
sends its query, only to print them. A URL has a port for the `url` crate if one
is written in it that is not the default of its scheme. A submission hands the
URL on as it is.
-/

/-! ## URLs with a host -/

inductive Scheme where
  | http
  | https
deriving DecidableEq, Repr

namespace Scheme

def name : Scheme → String
  | http => "http"
  | https => "https"

def defaultPort : Scheme → UInt16
  | http => 80
  | https => 443

end Scheme

/-- The URL of this scheme and host with a port written in it or not. -/
def Url.ofParts (scheme : Scheme) (host : String) (port : Option UInt16) (path : String) : Url where
  scheme := scheme.name
  host := some host
  port := port.filter (· ≠ scheme.defaultPort)
  path := path

theorem Url.ofParts_port_eq_none {scheme : Scheme} {host path : String} {port : Option UInt16} :
    (Url.ofParts scheme host port path).port = none ↔
      ∀ p, port = some p → p = scheme.defaultPort := by
  simp [ofParts, Option.filter_eq_none_iff]

/-! ## Collections -/

section
variable {κ : Type} (J : Janus) (T : JanusTime) (build : Build) {Fx : Type} [CompatibleFloat Fx]

namespace JanusManagerClient

/-- The collector of a collection. -/
def collector (Fx : Type) [CompatibleFloat Fx] (self : JanusManagerClient) (taskId : TaskId) :
    Collector where
  taskId := taskId
  leaderEndpoint := self.location.main.externalLeader
  authenticationToken := self.collectorAuthToken
  hpkeKeypair := self.hpkeKeypair
  vdafCollector := ⟨CompatibleFloat.fixedType Fx, 2, self.vdafParameter.gradientLen⟩

/-- The VDAF of a collection can be built. -/
def HasVdaf (Fx : Type) [CompatibleFloat Fx] (self : JanusManagerClient) : Prop :=
  J.newFixedpointBoundedl2VecSum
    ⟨CompatibleFloat.fixedType Fx, 2, self.vdafParameter.gradientLen⟩ = .ok ()

/-- The checks between the reading of the clock and the query, and the interval
that is then asked for. -/
def queryInterval (self : JanusManagerClient) (start : UInt64) : Except Failure BatchInterval := do
  let realStart ← batchStart build start
  let _host ← (Collecting.okOr self.location.main.externalLeader.host
    (.anyhow "Couldnt get hostname")).mapError .err
  let _port ← (Collecting.okOr self.location.main.externalLeader.port
    (.anyhow "Couldnt get port")).mapError .err
  ((T.newInterval realStart batchDuration).mapError Error.janus).mapError .err

/-- The collector was built and the clock was read; the call has returned an
error and has sent no query. -/
def ErrsEarly (κ : Type) (Fx : Type) [CompatibleFloat Fx] (self : JanusManagerClient)
    (taskId : TaskId) (clock : Except Error UInt64) : Prop :=
  ∃ collector error, Script.Follows (self.collectGeneric J T build Fx taskId : Collecting κ κ)
    [⟨.newCollector collector, .ok ()⟩, ⟨.elapsed, clock⟩] (.fail (.err error))

end JanusManagerClient

variable {J T build} {self : JanusManagerClient} {taskId : TaskId} {clock : Except Error UInt64}

/-- What a collection does once the clock was read: it fails in one of its checks
or sends its query. -/
def JanusManagerClient.queryOrFail (κ : Type) (T : JanusTime) (build : Build) (Fx : Type)
    [CompatibleFloat Fx] (self : JanusManagerClient) (taskId : TaskId) :
    Except Error UInt64 → Collecting κ κ
  | .error error => .fail (.err error)
  | .ok start => match self.queryInterval T build start with
    | .ok interval => .call (.collect (self.collector Fx taskId) interval) Collecting.orReturn
    | .error failure => .fail failure

theorem ok_bind {α β : Type} (a : α) (f : α → Except Failure β) : (Except.ok a >>= f) = f a := rfl

theorem collectGeneric_eq (hvdaf : self.HasVdaf J Fx) :
    (self.collectGeneric J T build Fx taskId : Collecting κ κ) =
      .call (.newCollector (self.collector Fx taskId)) fun created =>
        Collecting.orReturn created >>= fun _ =>
          .call .elapsed fun clock => self.queryOrFail κ T build Fx taskId clock := by
  unfold JanusManagerClient.collectGeneric
  rw [JanusManagerClient.HasVdaf] at hvdaf
  simp only [hvdaf]
  refine congrArg (Script.call _) (funext fun created => ?_)
  cases created with
  | error e => rfl
  | ok _ =>
    refine congrArg (Script.call _) (funext fun clock => ?_)
    cases clock with
    | error e => rfl
    | ok start =>
      simp only [JanusManagerClient.queryOrFail, JanusManagerClient.queryInterval, Script.bind,
        Collecting.orReturn, Except.mapError, Collecting.lift, Script.ret_bind]
      cases batchStart build start with
      | error failure => rfl
      | ok realStart =>
        cases self.location.main.externalLeader.host with
        | none => rfl
        | some host =>
          cases self.location.main.externalLeader.port with
          | none => rfl
          | some port =>
            simp only [Collecting.okOr, Script.ret_bind, ok_bind]
            cases T.newInterval realStart batchDuration with
            | error e => rfl
            | ok interval => rfl

/-- The run in which the collector is built and the clock gives this reading. -/
theorem follows_collectGeneric_clock (hvdaf : self.HasVdaf J Fx) {collector : Collector}
    {m' : Collecting κ κ} :
    Script.Follows (self.collectGeneric J T build Fx taskId)
      [⟨.newCollector collector, .ok ()⟩, ⟨.elapsed, clock⟩] m' ↔
    collector = self.collector Fx taskId ∧ m' = self.queryOrFail κ T build Fx taskId clock := by
  rw [collectGeneric_eq hvdaf]
  constructor
  · intro h
    cases h with
    | call h =>
      change Script.Follows (.call CollectOp.elapsed _) _ _ at h
      cases h with
      | call h => exact ⟨rfl, Script.Follows.nil_iff.mp h⟩
  · rintro ⟨rfl, rfl⟩
    exact .call (.call (.refl _))

theorem errsEarly_iff (hvdaf : self.HasVdaf J Fx) :
    self.ErrsEarly J T build κ Fx taskId clock ↔
      (∃ error, clock = .error error) ∨
        ∃ start error, clock = .ok start ∧
          self.queryInterval T build start = .error (.err error) := by
  simp only [JanusManagerClient.ErrsEarly, follows_collectGeneric_clock hvdaf, exists_and_left,
    exists_eq_left]
  cases clock with
  | error e => simp [JanusManagerClient.queryOrFail]
  | ok start =>
    cases hinterval : self.queryInterval T build start with
    | error failure => simp [JanusManagerClient.queryOrFail, hinterval, eq_comm]
    | ok interval => simp [JanusManagerClient.queryOrFail, hinterval]

theorem queryInterval_of_panic {start : UInt64} {message : String}
    (hstart : batchStart build start = .error (.panic message)) :
    ¬∃ error, self.queryInterval T build start = .error (.err error) := by
  have hquery : self.queryInterval T build start = .error (.panic message) := by
    rw [JanusManagerClient.queryInterval, hstart]
    rfl
  rw [hquery]
  simp

/-- With a host, and without a panic, the checks fail for lack of a port or for
an interval without a representation. -/
theorem queryInterval_of_start (hT : T.Faithful) {start realStart : UInt64} {host : String}
    (hhost : self.location.main.externalLeader.host = some host)
    (hstart : batchStart build start = .ok realStart) :
    (∃ error, self.queryInterval T build start = .error (.err error)) ↔
      self.location.main.externalLeader.port = none ∨ 2 ^ 64 ≤ realStart.toNat + 54000 := by
  have hend : (∃ e, T.newInterval realStart batchDuration = .error e) ↔
      2 ^ 64 ≤ realStart.toNat + 54000 := hT.newInterval_isError_iff
  rw [← hend, JanusManagerClient.queryInterval, hstart, hhost]
  cases self.location.main.externalLeader.port with
  | none => exact ⟨fun _ => .inl rfl, fun _ => ⟨_, rfl⟩⟩
  | some port =>
    simp only [Collecting.okOr, Except.mapError, ok_bind]
    cases T.newInterval realStart batchDuration with
    | error e => simp
    | ok interval => simp

/-- The checks of a collection return an error if the URL has no port, or the
interval has no representation; in the first five hours of time a debug build
panics instead. -/
theorem queryInterval_err_iff (hT : T.Faithful) {start : UInt64} {host : String}
    (hhost : self.location.main.externalLeader.host = some host) :
    (∃ error, self.queryInterval T build start = .error (.err error)) ↔
      (build = .release ∨ 5 ≤ start.toNat / 3600) ∧
        (self.location.main.externalLeader.port = none ∨
          ¬(5 ≤ start.toNat / 3600 ∧ (start.toNat / 3600 + 10) * 3600 < 2 ^ 64)) := by
  rcases Nat.lt_or_ge (start.toNat / 3600) 5 with hlt | hge
  · cases build with
    | debug =>
      refine iff_of_false (queryInterval_of_panic (batchStart_debug_of_lt hlt)) ?_
      rintro ⟨hrelease | hge, -⟩
      · cases hrelease
      · omega
    | release =>
      -- The start has wrapped around, and the end lies after the last time.
      have hstart : batchStart .release start = .ok _ := rfl
      have hwrap := batchStart_of_lt hlt hstart
      rw [queryInterval_of_start hT hhost hstart]
      refine iff_of_true (.inr (by omega)) ⟨.inl rfl, .inr ?_⟩
      omega
  · obtain ⟨realStart, hstart, hnat⟩ := batchStart_of_le build hge
    rw [queryInterval_of_start hT hhost hstart, hnat]
    constructor
    · rintro (hnone | hend)
      · exact ⟨.inr hge, .inl hnone⟩
      · exact ⟨.inr hge, .inr (by omega)⟩
    · rintro ⟨-, hnone | hend⟩
      · exact .inl hnone
      · exact .inr (by omega)

/-! ## Submissions -/

theorem getSubmissionResultImpl_err {state : ClientState} [IsTagInstance Fx] {v : List Fx}
    {es : List Exchange} {failure : Failure}
    (hlength : v.length = state.parametrization.vdafParameter.gradientLen)
    (htag : IsTagInstance.getTag Fx = state.parametrization.vdafParameter.submissionType)
    (hvdaf : J.newFixedpointBoundedl2VecSum ⟨CompatibleFloat.fixedType Fx, 2,
      state.parametrization.vdafParameter.gradientLen⟩ = .ok ())
    (h : Script.Follows (state.getSubmissionResultImpl J Fx v) es (.fail failure)) :
    (∃ client error, (⟨.buildClient client, .error error⟩ : Exchange) ∈ es) ∨
      ∃ client measurement error, (⟨.upload client measurement, .error error⟩ : Exchange) ∈ es := by
  simp only [ClientState.getSubmissionResultImpl, hlength, htag, ne_eq, not_true_eq_false, if_false,
    getJanusClient, hvdaf] at h
  change Script.Follows (.call (Op.buildClient _) _) _ _ at h
  rcases Script.Follows.call_iff.mp h with ⟨-, heq⟩ | ⟨built, es₁, rfl, h₁⟩
  · cases heq
  cases built with
  | error error => exact .inl ⟨_, error, List.mem_cons_self⟩
  | ok _ =>
    change Script.Follows (.call (Op.upload _ _) _) _ _ at h₁
    rcases Script.Follows.call_iff.mp h₁ with ⟨-, heq⟩ | ⟨uploaded, es₂, rfl, h₂⟩
    · cases heq
    cases uploaded with
    | error error => exact .inr ⟨_, _, error, .tail _ List.mem_cons_self⟩
    | ok _ => cases (Script.Follows.ret_iff.mp h₂).2

/-- A submission fails for its data, for its VDAF, or because something that it
asked for has failed. Nothing depends on the form of a URL. -/
theorem getSubmissionResult_err {state : ClientState} {data : VecFixedAny} {es : List Exchange}
    {failure : Failure}
    (h : Script.Follows (state.getSubmissionResult J data) es (.fail failure)) :
    ¬state.Checks data ∨
      (∃ e, J.newFixedpointBoundedl2VecSum
        ⟨data.tag, 2, state.parametrization.vdafParameter.gradientLen⟩ = .error e) ∨
      (∃ client error, (⟨.buildClient client, .error error⟩ : Exchange) ∈ es) ∨
      ∃ client measurement error, (⟨.upload client measurement, .error error⟩ : Exchange) ∈ es := by
  by_cases hchecks : state.Checks data
  · right
    cases hvdaf : J.newFixedpointBoundedl2VecSum
        ⟨data.tag, 2, state.parametrization.vdafParameter.gradientLen⟩ with
    | error e => exact .inl ⟨e, rfl⟩
    | ok _ =>
      right
      cases data with
      | vecFixed16 v => exact getSubmissionResultImpl_err hchecks.1 hchecks.2 hvdaf h
      | vecFixed32 v => exact getSubmissionResultImpl_err hchecks.1 hchecks.2 hvdaf h
  · exact .inl hchecks

/-- Whatever the form of the leader's URL, a submission fails for other reasons
than that. A collection for which the VDAF and the collector can be built does
not return an error before it sends its query if and only if a port is written
in the URL that is not the default of its scheme and the interval has a
representation, or it panics, which a debug build does in the first five hours of
time. -/
theorem collect_past_leaderUrl_iff (hT : T.Faithful) (hvdaf : self.HasVdaf J Fx) {scheme : Scheme}
    {host path : String} {port : Option UInt16}
    (hurl : self.location.main.externalLeader = .ofParts scheme host port path) :
    (∀ (state : ClientState) (data : VecFixedAny) (es : List Exchange) (failure : Failure),
      state.parametrization.location.main.externalLeader = .ofParts scheme host port path →
      Script.Follows (state.getSubmissionResult J data) es (.fail failure) →
        ¬state.Checks data ∨
          (∃ e, J.newFixedpointBoundedl2VecSum
            ⟨data.tag, 2, state.parametrization.vdafParameter.gradientLen⟩ = .error e) ∨
          (∃ client error, (⟨.buildClient client, .error error⟩ : Exchange) ∈ es) ∨
          ∃ client measurement error,
            (⟨.upload client measurement, .error error⟩ : Exchange) ∈ es) ∧
    (¬self.ErrsEarly J T build κ Fx taskId clock ↔
      ∃ start, clock = .ok start ∧
        ((∃ p, port = some p ∧ p ≠ scheme.defaultPort) ∧ 5 ≤ start.toNat / TIME_PRECISION ∧
            (start.toNat / TIME_PRECISION + 10) * TIME_PRECISION < 2 ^ 64 ∨
          build = .debug ∧ start.toNat / TIME_PRECISION < 5)) := by
  refine ⟨fun state data es failure _ h => getSubmissionResult_err h, ?_⟩
  have hhost : self.location.main.externalLeader.host = some host := by rw [hurl]; rfl
  have hport : self.location.main.externalLeader.port = none ↔
      ¬∃ p, port = some p ∧ p ≠ scheme.defaultPort := by
    rw [hurl, Url.ofParts_port_eq_none]
    simp
  rw [errsEarly_iff hvdaf]
  cases clock with
  | error e => simp
  | ok start =>
    simp only [reduceCtorEq, exists_false, false_or, Except.ok.injEq, exists_and_left,
      exists_eq_left', queryInterval_err_iff hT hhost, hport, TIME_PRECISION]
    rcases Nat.lt_or_ge (start.toNat / 3600) 5 with hlt | hge
    · cases build with
      | debug => simp [hlt, Nat.not_le.mpr hlt]
      | release => simp [hlt, Nat.not_le.mpr hlt]
    · simp [hge, Nat.not_lt.mpr hge]

end

namespace Sample

theorem collect_past_explicit_port :
    ¬client.ErrsEarly .plain .plain .debug Unit Fixed16 (taskId 1) (.ok 100000) :=
  (collect_past_leaderUrl_iff JanusTime.plain_faithful (show client.HasVdaf .plain Fixed16 from rfl)
    (show client.location.main.externalLeader = .ofParts .https "localhost" (some 9981) "/"
      from rfl)).2.mpr
    ⟨100000, rfl, .inl ⟨⟨9981, rfl, by decide⟩, by decide, by decide⟩⟩

/-- The leader is reached on the default port of https. -/
def defaultPortClient : JanusManagerClient :=
  { client with location :=
      { client.location with main := ⟨.ofParts .https "localhost" none "/", url⟩ } }

theorem collect_fails_on_default_port :
    defaultPortClient.HasVdaf .plain Fixed16 ∧
      defaultPortClient.ErrsEarly .plain .plain .debug Unit Fixed16 (taskId 1) (.ok 100000) := by
  have hvdaf : defaultPortClient.HasVdaf .plain Fixed16 := rfl
  refine ⟨hvdaf, (errsEarly_iff hvdaf).mpr (.inr ⟨100000, .anyhow "Couldnt get port", rfl, ?_⟩)⟩
  rfl

end Sample
