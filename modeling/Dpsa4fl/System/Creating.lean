-- SUMMARY: As long as no session id is drawn while it is in use, every session that a controller creates comes into being at both managers.
import Dpsa4fl.JanusManager.Admission
import Dpsa4fl.Library.Wp
import Dpsa4fl.System.Claims
import Dpsa4fl.System.Late

/-!
# Creating a session

The leader's manager draws the id of a new session, and the helper's is asked for
the same id. In between, other controllers create sessions, too. The helper's
manager refuses an id only if another creation has taken it.
-/

/-! ## The call of a controller -/

/-- The managers accept creations with well formed secrets. -/
def Op.Creates (J : Janus) : Script.Allowed Op Ans
  | .manager _ (.createSession request), r => (∃ p, request.terms J = .ok p) →
    ∃ id, r = .ok (.ok (.createSession id)) ∧ ∀ k, request.trainingSessionId = some k → k = id
  | _, _ => True

theorem JanusManagerClient.wp_createSession {J : Janus} {client : JanusManagerClient}
    {random : Nat → UInt8} {p : Terms}
    (hterms : (client.makeRequest (client.verifyKey J random) .leader none).terms J = .ok p) :
    (client.createSession J random).wp (Op.Creates J) fun es result =>
      ∃ id, result = .ok id ∧ ∀ server, ∃ request, request.terms J = .ok p ∧
        (⟨.manager server (.createSession request), .ok (.ok (.createSession id))⟩ : Exchange) ∈
          es := by
  unfold createSession Net.post
  simp only [Script.call_bind, Script.wp_call]
  intro _ hr
  obtain ⟨id, rfl, -⟩ := hr ⟨p, hterms⟩
  simp only [Net.orReturn, createdSession_ok, Script.ret_bind, Script.wp_call]
  intro _ hr
  -- the terms depend neither on the role nor on the id
  obtain ⟨id', rfl, hid⟩ := hr ⟨p, hterms⟩
  obtain rfl := hid id rfl
  simp only [createdSession_ok, Script.ret_bind, if_true]
  refine ⟨id, rfl, fun server => ?_⟩
  cases server with
  | leader => exact ⟨_, hterms, List.mem_cons_self⟩
  | helper =>
      exact ⟨client.makeRequest (client.verifyKey J random) .helper (some id), hterms,
        List.mem_cons_of_mem _ List.mem_cons_self⟩

/-! ## The session that was created -/

namespace World

variable {J : Janus} {w w' : World} {id : TrainingSessionId}

/-- No manager ends the session of this id in the step. -/
def Action.Spares (id : TrainingSessionId) (w : World) : World.Action → Prop
  | .manager server action => (w.manager server).Spares id action
  | _ => True

instance (id : TrainingSessionId) (w : World) : (a : World.Action) → Decidable (a.Spares id w)
  | .manager server action => inferInstanceAs (Decidable ((w.manager server).Spares id action))
  | .call _ => inferInstanceAs (Decidable True)
  | .send _ => inferInstanceAs (Decidable True)
  | .receive _ => inferInstanceAs (Decidable True)
  | .fail _ => inferInstanceAs (Decidable True)
  | .reply _ _ => inferInstanceAs (Decidable True)

/-- What was created and started under this id is there at both managers. -/
def Holds (J : Janus) (w : World) (id : TrainingSessionId) : Prop :=
  ∀ server, (w.manager server).Holds J id

theorem Holds.step (hJ : J.Faithful) (hholds : w.Holds J id) (hw : w.Distinct J) {a : Action}
    (h : w.step J a = some w') (hspares : a.Spares id w) : w'.Holds J id := by
  intro server
  have hregular := hw.agreeing.regular
  have hkeeps : ∀ {m action}, (w.manager server).step J action = some m →
      (w.manager server).Spares id action → m.Holds J id := fun hstep hspares =>
    (hholds server).step hJ (hregular.sound.coherent server) (hregular.fresh.manager server)
      (hregular.inRole server) (hw.soleUse server id) hstep hspares
  have hat := (step_moves h).atManager server
  generalize w'.manager server = m at hat
  cases hat with
  | same => exact hholds server
  | sent _ _ _ hstep => exact hkeeps hstep rfl
  | managed _ hstep => exact hkeeps hstep hspares

theorem distinct_run (hJ : J.Faithful) {leaderConfig helperConfig : TaskProvisionerConfig}
    {as : List Action} (hrun : Run.after (step J) (start ∅ ∅ leaderConfig helperConfig) as = some w)
    (hfresh : Run.Along (step J) (Action.Fresh J) (start ∅ ∅ leaderConfig helperConfig) as) :
    w.Distinct J :=
  Run.invariant_of (fun _ _ _ hs hC h => hs.step hJ h hC) (distinct_start J _ _) hrun hfresh

/-- In a run in which the session of this id is never ended. -/
theorem holds_run (hJ : J.Faithful) {leaderConfig helperConfig : TaskProvisionerConfig}
    {as : List Action} (hrun : Run.after (step J) (start ∅ ∅ leaderConfig helperConfig) as = some w)
    (hfresh : Run.Along (step J) (Action.Fresh J) (start ∅ ∅ leaderConfig helperConfig) as)
    (hspares : Run.Along (step J) (Action.Spares id) (start ∅ ∅ leaderConfig helperConfig) as) :
    w.Holds J id := by
  have hboth : w.Distinct J ∧ w.Holds J id := by
    refine Run.invariant_of (P := fun w : World => w.Distinct J ∧ w.Holds J id)
      (fun _ _ _ hs hC h => ⟨hs.1.step hJ h hC.1, hs.2.step hJ hs.1 h hC.2⟩) ?_ hrun
      (hfresh.and hspares)
    refine ⟨distinct_start J _ _, fun server => ?_⟩
    cases server with
    | leader => exact Manager.holds_new J _ _ id
    | helper => exact Manager.holds_new J _ _ id
  exact hboth.2

/-! ## Creations of a run -/

/-- No creation is refused, as no two of them have the same id. -/
structure Creates (J : Janus) (w : World) : Prop where
  distinct : w.Distinct J
  managers : ∀ server, (w.manager server).Creates J

theorem creates_start (J : Janus) (leaderConfig helperConfig : TaskProvisionerConfig) :
    (start ∅ ∅ leaderConfig helperConfig).Creates J where
  distinct := distinct_start J _ _
  managers := by
    intro server
    cases server with
    | leader => exact Manager.creates_new J _ _
    | helper => exact Manager.creates_new J _ _

/-- An id that a handler is asked for is free until the handler has inserted its session. -/
theorem Distinct.free (hw : w.Distinct J) {server : ManagerServer} {k : Nat}
    {request : CreateTrainingSessionRequest}
    (hk : (w.manager server).threads[k]? = some (.arrived (.createSession request)))
    (hid : request.trainingSessionId = some id) :
    (w.manager server).provisioner.trainingSessions.lookup id = none := by
  by_contra hlive
  have huses := hw.soleUse server id (Option.isSome_iff_ne_none.mpr hlive) k _ hk
  exact of_decide_eq_false huses hid

theorem Creates.step (hJ : J.Faithful) (hkeys : J.GeneratesKeys) (hw : w.Creates J) {a : Action}
    (h : w.step J a = some w') (ha : a.Fresh J w) : w'.Creates J where
  distinct := hw.distinct.step hJ h ha
  managers := by
    intro server
    rcases (step_moves h).manager server with heq | ⟨action, hstep⟩
    · rw [heq]
      exact hw.managers server
    · exact (hw.managers server).step hkeys (hw.distinct.agreeing.regular.sound.coherent server)
        (fun _ _ _ hk hid => hw.distinct.free hk hid) hstep

/-- What was heard of a creation without a failure is that it was accepted. -/
theorem Creates.heard (hw : w.Creates J) (hsince : w.Since (fun _ => 0) 0) {i : Nat}
    {process : Process} (hget : w.processes[i]? = some process) {e : Exchange}
    (hmem : e ∈ process.trace) (hundisturbed : undisturbed e = true) : Op.Creates J e.1 e.2 := by
  obtain ⟨op, r⟩ := e
  cases op with
  | manager server request =>
      cases request with
      | createSession request =>
          cases r with
          | error e => cases hundisturbed
          | ok r =>
              intro hterms
              obtain ⟨k, answer, -, hk, hr⟩ :=
                (hsince.late i process (Nat.zero_le i) hget).heard server _ r hmem
              obtain ⟨id, rfl, hid⟩ := hw.managers server k _ hk hterms
              exact ⟨id, hr.symm, hid⟩
      | _ => trivial
  | _ => trivial

/-- A creation that has ended undisturbed has returned an id, and if nothing of this id
was ended, both managers have a session under it with the terms of the call. -/
theorem Creates.created (hw : w.Creates J) (hsince : w.Since (fun _ => 0) 0) {i : Nat}
    {client : JanusManagerClient} {random : Nat → UInt8} {p : Terms}
    (hterms : (client.makeRequest (client.verifyKey J random) .leader none).terms J = .ok p)
    {trace : List Exchange} {result : Except Failure TrainingSessionId} {pending : Option Nat}
    (hget : w.processes[i]? = some ⟨.createSession client random, trace, .ret result, pending⟩)
    (hundisturbed : ∀ e ∈ trace, undisturbed e = true) :
    ∃ id, result = .ok id ∧ (w.Holds J id → ∀ server, ∃ s,
      (w.manager server).provisioner.trainingSessions.lookup id = some s ∧ s.terms J = p) := by
  have htraced := hw.distinct.agreeing.regular.sound.traced i _ hget
  obtain ⟨id, rfl, hexchanges⟩ := (client.wp_createSession hterms).of_follows_attempt htraced.follows
    fun e he => hw.heard hsince hget he (hundisturbed e he)
  refine ⟨id, rfl, fun hholds server => ?_⟩
  obtain ⟨request, hrequest, hmem⟩ := hexchanges server
  obtain ⟨k, hk⟩ := htraced.answered server _ _ hmem
  obtain ⟨s, secrets, keypair, hs, hsecrets, hgrows⟩ := (hholds server).sessions k request hk
  refine ⟨s, hs, ?_⟩
  rw [request.terms_of_secrets hsecrets keypair] at hrequest
  rw [hgrows.eq]
  exact Except.ok.inj hrequest

theorem creates_run (hJ : J.Faithful) (hkeys : J.GeneratesKeys)
    {leaderConfig helperConfig : TaskProvisionerConfig} {as : List Action}
    (hrun : Run.after (step J) (start ∅ ∅ leaderConfig helperConfig) as = some w)
    (hfresh : Run.Along (step J) (Action.Fresh J) (start ∅ ∅ leaderConfig helperConfig) as) :
    w.Creates J ∧ w.Since (fun _ => 0) 0 :=
  Run.invariant_of (P := fun w : World => w.Creates J ∧ w.Since (fun _ => 0) 0)
    (fun _ _ _ hs hC h =>
      ⟨hs.1.step hJ hkeys h hC, hs.2.step hs.1.distinct.agreeing.regular.sound.traced h⟩)
    ⟨creates_start J _ _, ⟨fun _ => Nat.zero_le _, fun i process _ hi => by cases hi⟩⟩ hrun hfresh

/-- Task ids are fresh, and no session id is drawn while it is in use. Then every call
that creates a session, with tokens that the managers accept, returns an id, unless one
of its own messages is lost. And as long as the session of this id is never ended and no
manager is restarted, both managers have a session under it with the terms of the call. -/
theorem creations_succeed (hJ : J.Faithful) (hkeys : J.GeneratesKeys)
    {leaderConfig helperConfig : TaskProvisionerConfig} {as : List Action}
    (hrun : Run.after (step J) (start ∅ ∅ leaderConfig helperConfig) as = some w)
    (hfresh : Run.Along (step J) (Action.Fresh J) (start ∅ ∅ leaderConfig helperConfig) as)
    {i : Nat} {client : JanusManagerClient} {random : Nat → UInt8} {p : Terms}
    (hterms : (client.makeRequest (client.verifyKey J random) .leader none).terms J = .ok p)
    {trace : List Exchange} {result : Except Failure TrainingSessionId} {pending : Option Nat}
    (hget : w.processes[i]? = some ⟨.createSession client random, trace, .ret result, pending⟩)
    (hundisturbed : ∀ e ∈ trace, undisturbed e = true) :
    ∃ id, result = .ok id ∧
      (Run.Along (step J) (Action.Spares id) (start ∅ ∅ leaderConfig helperConfig) as →
        ∀ server, ∃ s, (w.manager server).provisioner.trainingSessions.lookup id = some s ∧
          s.terms J = p) := by
  obtain ⟨hcreates, hsince⟩ := creates_run hJ hkeys hrun hfresh
  obtain ⟨id, rfl, hlive⟩ := hcreates.created hsince hterms hget hundisturbed
  exact ⟨id, rfl, fun hspares => hlive (holds_run hJ hrun hfresh hspares)⟩

end World

namespace Sample

/-- Two controllers create sessions at the same time, with the ids 5 and 6. -/
def twoCreations : List World.Action :=
  let leader (k : Nat) (id : UInt16) : World.Action := .manager .leader (.resume k (ambient id))
  let helper (k : Nat) : World.Action := .manager .helper (.resume k (ambient 0))
  [.call (.createSession client fun _ => 0), .call (.createSession client fun _ => 1), .send 0,
    .send 1, leader 0 5, leader 1 6, leader 1 0, leader 0 0, leader 0 0, leader 1 0, .receive 1,
    .receive 0, .send 1, .send 0, helper 1, helper 0, helper 0, helper 1, helper 1, helper 0,
    .receive 0, .receive 1]

/-- The process has created the session 5, undisturbed. -/
def hasCreated : Process → Bool
  | ⟨.createSession client random, trace, .ret (.ok id), _⟩ =>
    id = ⟨5⟩ && trace.all undisturbed &&
      ((client.makeRequest (client.verifyKey .plain random) .leader none).terms .plain).isOk
  | _ => false

end Sample

theorem World.creations_succeed_sample :
    ∃ w client random trace pending,
      Run.after (World.step .plain) Sample.world Sample.twoCreations = some w ∧
      w.processes[0]? =
        some ⟨.createSession client random, trace, .ret (.ok ⟨5⟩), pending⟩ ∧
      ∀ server, ∃ s, (w.manager server).provisioner.trainingSessions.lookup ⟨5⟩ = some s ∧
        (client.makeRequest (client.verifyKey .plain random) .leader none).terms .plain =
          .ok (s.terms .plain) := by
  obtain ⟨w, hrun, hcheck⟩ := Option.any_eq_true _ _ |>.mp
    (by decide +kernel : (Run.after (World.step .plain) Sample.world Sample.twoCreations).any
      (fun w => w.processes[0]?.any Sample.hasCreated) = true)
  obtain ⟨process, hget, hcreated⟩ := Option.any_eq_true _ _ |>.mp hcheck
  unfold Sample.hasCreated at hcreated
  split at hcreated
  · rename_i client random trace id pending
    simp only [Bool.and_eq_true, decide_eq_true_eq] at hcreated
    obtain ⟨⟨rfl, hundisturbed⟩, hok⟩ := hcreated
    have hfresh : Run.Along (World.step .plain) (World.Action.Fresh .plain) Sample.world
        Sample.twoCreations := by decide +kernel
    have hspares : Run.Along (World.step .plain) (World.Action.Spares ⟨5⟩) Sample.world
        Sample.twoCreations := by decide +kernel
    cases hterms : (client.makeRequest (client.verifyKey .plain random) .leader none).terms .plain with
    | error e =>
        rw [hterms] at hok
        cases hok
    | ok p =>
        obtain ⟨id, hid, hlive⟩ := World.creations_succeed Janus.plain_faithful
          Janus.plain_generatesKeys hrun hfresh hterms hget
          (fun e he => List.all_eq_true.mp hundisturbed e he)
        cases hid
        refine ⟨w, client, random, trace, pending, hrun, hget, fun server => ?_⟩
        obtain ⟨s, hs, rfl⟩ := hlive hspares server
        exact ⟨s, hs, hterms⟩
  · cases hcreated
