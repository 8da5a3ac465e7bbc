-- SUMMARY: Under a fair scheduler, every HTTP request is replied to for good, unless its handler is dropped or panics.
import Dpsa4fl.JanusManager.HttpServer
import Dpsa4fl.JanusManager.Progress

/-!
# Every HTTP request is replied to

The server runs as its manager does, and it can let a handler go on exactly when the
manager can. So a scheduler that is fair to the handlers of the server is fair to the
threads of the manager, and these come to their ends.
-/

namespace HttpServer

variable {C : Codings} {J : Janus}

/-- A turn of the handler with this number. -/
def Action.IsTurn (k : Nat) (a : Action) : Prop := ∃ ω, a = .manager (.resume k ω)

/-- Only the server's own actions on the manager are no requests. -/
theorem Action.eq_of_bind_typed {a : Option Action} {action : Manager.Action}
    (h : a.bind (Action.typed C) = some action) (haction : ∀ request, action ≠ .send request) :
    a = some (.manager action) := by
  obtain ⟨a, rfl, htyped⟩ := Option.bind_eq_some_iff.mp h
  cases a with
  | send httpRequest =>
      obtain ⟨request, -, rfl⟩ := Option.map_eq_some_iff.mp htyped
      exact (haction request rfl).elim
  | manager action' =>
      cases htyped
      rfl

/-- The server can let a handler go on if and only if the manager can. -/
theorem enabled_turn_iff {s : HttpServer} {k : Nat} :
    Run.Enabled (step C J) (Action.IsTurn k) s ↔
      Run.Enabled (Manager.step J) (Manager.Action.IsTurn k) s.manager := by
  constructor
  · rintro ⟨_, ⟨ω, rfl⟩, hsome⟩
    simp only [step, Option.isSome_map] at hsome
    exact ⟨.resume k ω, ⟨ω, rfl⟩, hsome⟩
  · rintro ⟨_, ⟨ω, rfl⟩, hsome⟩
    refine ⟨.manager (.resume k ω), ⟨ω, rfl⟩, ?_⟩
    simp only [step, Option.isSome_map]
    exact hsome

section
variable {s : Nat → HttpServer} {as : Nat → Option Action}

/-- The manager of a server that is fair to its handlers is fair to its threads. -/
theorem fairRun_manager {datastore : Datastore} {config : TaskProvisionerConfig}
    (hstart : s 0 = .new datastore config) (hrun : Run.Forever (step C J) s as)
    (hfair : ∀ k, Run.StronglyFair (step C J) (Action.IsTurn k) s as) :
    Manager.FairRun J (fun n => (s n).manager) fun n => (as n).bind (Action.typed C) where
  forever := hrun.project (·.manager) (Action.typed C) fun _ _ _ h => (step_moves h).typed
  fair k := by
    refine (hfair k).project (·.manager) (Action.typed C) (fun _ => enabled_turn_iff.mpr) ?_
    rintro _ ⟨ω, rfl⟩
    exact ⟨_, rfl, ω, rfl⟩
  exclusive := by
    rw [hstart]
    rintro i j ti tj ⟨⟩

/-- An exchange stays as it is from then on. -/
theorem exchange_from (hrun : Run.Forever (step C J) s as) {n e : Nat}
    {exchange : HttpRequest × Except Reply Nat} (hget : (s n).exchanges[e]? = some exchange)
    {m : Nat} (hm : n ≤ m) : (s m).exchanges[e]? = some exchange :=
  hrun.invariant_from (P := fun s : HttpServer => s.exchanges[e]? = some exchange) hget
    (fun _ _ _ hstep _ h => (step_moves hstep).keeps_exchange h) hm

end

/-- In every run of a server that goes on forever, with HTTP requests that keep coming
in, with handlers that are dropped and with restarts: if the scheduler is strongly fair
to the handlers, then every HTTP request gets a reply, for good, unless its handler is
dropped or panics. To one that the filters decide, they reply at once. -/
theorem fair_replies (datastore : Datastore) (config : TaskProvisionerConfig)
    {s : Nat → HttpServer} {as : Nat → Option Action} (hstart : s 0 = .new datastore config)
    (hrun : Run.Forever (step C J) s as)
    (hfair : ∀ k, Run.StronglyFair (step C J) (Action.IsTurn k) s as) {n e : Nat}
    {httpRequest : HttpRequest} {outcome : Except Reply Nat}
    (hget : (s n).exchanges[e]? = some (httpRequest, outcome))
    (hkept : ∀ k, outcome = .ok k →
      (∀ request, (s n).manager.threads[k]? ≠ some (.dropped request)) ∧
      ∀ m, n ≤ m → as m ≠ some (.manager (.drop k)) ∧ as m ≠ some (.manager .restart)) :
    (∀ r, outcome = .error r → ∀ l, n ≤ l → (s l).reply C e = some r) ∧
    ∃ m, n ≤ m ∧ ((∃ r, ∀ l, m ≤ l → (s l).reply C e = some r) ∨
      ∃ k request message, outcome = .ok k ∧
        ∀ l, m ≤ l → (s l).manager.threads[k]? =
          some (.answered request (.error (.panic message)))) := by
  have hfiltered : ∀ r, outcome = .error r → ∀ l, n ≤ l → (s l).reply C e = some r := by
    rintro r rfl l hl
    exact reply_of_filtered (exchange_from hrun hget hl)
  refine ⟨hfiltered, ?_⟩
  cases outcome with
  | error reply => exact ⟨n, Nat.le_refl n, .inl ⟨reply, hfiltered reply rfl⟩⟩
  | ok k =>
      obtain ⟨hnot, hspared⟩ := hkept k rfl
      have hserved : (s n).Served C := by
        refine hrun.invariant_from (P := fun s : HttpServer => s.Served C) (n := 0) ?_
          (fun _ _ _ hstep _ h => h.step hstep) (Nat.zero_le n)
        rw [hstart]
        exact served_new C datastore config
      obtain ⟨thread, hk, -⟩ := hserved.exchanged hget
      have hspared' : ∀ m, n ≤ m → (as m).bind (Action.typed C) ≠ some (.drop k) ∧
          (as m).bind (Action.typed C) ≠ some .restart := fun m hm =>
        ⟨fun h => (hspared m hm).1 (Action.eq_of_bind_typed h nofun),
          fun h => (hspared m hm).2 (Action.eq_of_bind_typed h nofun)⟩
      obtain ⟨m, answer, hm, hanswered⟩ := (fairRun_manager hstart hrun hfair).answers n k thread hk
        ⟨rfl, fun heq => hnot _ (heq ▸ hk)⟩ hspared'
      refine ⟨m, hm, ?_⟩
      have hreply : ∀ l, m ≤ l →
          (s l).reply C e = (endpointReply C answer).map (errorHandler C) := fun l hl =>
        reply_of_answered (exchange_from hrun hget (hm.trans hl)) (hanswered l hl)
      cases answer with
      | ok response => exact .inl ⟨_, hreply⟩
      | error failure => cases failure with
        | err error => exact .inl ⟨_, hreply⟩
        | panic message => exact .inr ⟨k, thread.request, message, rfl, hanswered⟩

end HttpServer

namespace Sample

/-- The states of a server that takes these actions and then rests. -/
def releasedServers : Nat → HttpServer :=
  Run.resting (HttpServer.step .plain .plain) (.new ∅ config) (heldHttp ++ releaseHttp)

theorem releasedHttp_kept (k : Nat) : ∀ a ∈ heldHttp ++ releaseHttp,
    a ≠ .manager (.drop k) ∧ a ≠ .manager .restart := by
  simp [heldHttp, releaseHttp]

end Sample

theorem HttpServer.fair_replies_sample :
    (Sample.releasedServers 9).manager.guardFree = false ∧
      (Sample.releasedServers 9).manager.threads[2]?.any Thread.awaitsGuard = true ∧
      ∃ m, 9 ≤ m ∧ ∃ r, ∀ l, m ≤ l → (Sample.releasedServers l).reply .plain 2 = some r := by
  obtain ⟨s, hrun, hcheck⟩ := Option.any_eq_true _ _ |>.mp
    (by decide +kernel : (Run.after (HttpServer.step .plain .plain) (.new ∅ Sample.config)
      (Sample.heldHttp ++ Sample.releaseHttp)).any (fun s =>
        s.manager.threads.all Thread.finished && (s.reply .plain 2).isSome) = true)
  simp only [Bool.and_eq_true] at hcheck
  have hheld : (Sample.releasedServers 9).manager.guardFree = false := by decide +kernel
  have hwaits : (Sample.releasedServers 9).manager.threads[2]?.any Thread.awaitsGuard = true := by
    decide +kernel
  have hsent : (Sample.releasedServers 9).exchanges[2]?.any
      (fun e => e.2.toOption = some 2) = true := by decide +kernel
  refine ⟨hheld, hwaits, ?_⟩
  obtain ⟨⟨httpRequest, _ | k⟩, hget, hthread⟩ := Option.any_eq_true _ _ |>.mp hsent
  · cases hthread
  obtain rfl : k = 2 := by simpa [Except.toOption] using hthread
  have hforever := Run.Forever.resting hrun
  obtain ⟨-, m, hm, hreplied | ⟨k, request, message, hok, hpanicked⟩⟩ :=
    HttpServer.fair_replies ∅ Sample.config Run.resting_zero hforever
      (fun k => Run.StronglyFair.resting hrun fun henabled =>
        Manager.not_enabled_of_finished (List.all_eq_true.mp hcheck.1) k
          (HttpServer.enabled_turn_iff.mp henabled))
      hget (by
        rintro k ⟨⟩
        refine ⟨fun request hdropped => ?_, fun m _ => ⟨fun ha => ?_, fun ha => ?_⟩⟩
        · rw [Sample.releasedServers] at hwaits
          rw [hdropped] at hwaits
          cases hwaits
        · exact (Sample.releasedHttp_kept 2 _ (List.mem_of_getElem? ha)).1 rfl
        · exact (Sample.releasedHttp_kept 2 _ (List.mem_of_getElem? ha)).2 rfl)
  · exact ⟨m, hm, hreplied⟩
  · -- the request was replied to, which a panic is not
    cases hok
    have hrests : Run.resting (HttpServer.step .plain .plain) (.new ∅ Sample.config)
        (Sample.heldHttp ++ Sample.releaseHttp) (m + 12) = s :=
      Run.resting_of_length_le hrun (by simp [Sample.heldHttp, Sample.releaseHttp])
    have hget' := HttpServer.exchange_from hforever hget (show 9 ≤ m + 12 by omega)
    have hpanicked' := hpanicked (m + 12) (by omega)
    rw [hrests] at hget' hpanicked'
    rw [HttpServer.reply_of_answered hget' hpanicked'] at hcheck
    cases hcheck.2
