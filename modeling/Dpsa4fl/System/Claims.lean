-- SUMMARY: As long as no session id is drawn while it is in use, an id belongs to one creation only, up to the session it leads to.
import Dpsa4fl.JanusManager.Admission
import Dpsa4fl.System.Agreement

/-!
# Claims

The id of a session is handed on: the handler at the leader's manager has drawn
it, the creation hears of it, a handler at the helper's manager is asked for it,
and at last it is the id of a session there. At each point one party can go on to
that session, and a step hands the id to the next one or loses it.
-/

/-- Who can have an id on its way to the session of the helper's manager. -/
inductive Claimant where
  | thread (server : ManagerServer) (k : Nat)
  | process (i : Nat)
  | session

/-- A creation that waits for this thread of the leader's manager. -/
structure Process.Creating (process : Process) (k : Nat) : Prop where
  call : ∃ client random, process.call = .createSession client random
  trace : process.trace = []
  pending : process.pending = some k

namespace World

variable {J : Janus} {w w' : World} {id : TrainingSessionId} {c c' c'' : Claimant}

def Claims (w : World) (id : TrainingSessionId) : Claimant → Prop
  | .thread server k => ∃ thread, (w.manager server).threads[k]? = some thread ∧ thread.uses id = true
  | .process i => ∃ process, w.processes[i]? = some process ∧
      (∃ client random, process.call = .createSession client random) ∧
      process.createdId w = some id
  | .session => (w.helper.provisioner.trainingSessions.lookup id).isSome = true

/-- The party `c` can hand an id to the party `c'`. -/
inductive Hands (w : World) : Claimant → Claimant → Prop where
  /-- The leader's manager answers the creation. -/
  | answered {i k : Nat} {process} (hget : w.processes[i]? = some process)
      (hcreating : process.Creating k) : Hands w (.thread .leader k) (.process i)
  /-- The creation asks the helper's manager. -/
  | sent {i : Nat} : Hands w (.process i) (.thread .helper w.helper.threads.length)
  /-- The handler of the helper's manager inserts the session. -/
  | inserted {k : Nat} : Hands w (.thread .helper k) .session

theorem Claims.inUse (h : w.Claims id c) : w.inUse id = true := by
  unfold World.inUse
  simp only [Bool.or_eq_true, List.any_eq_true, decide_eq_true_eq]
  cases c with
  | thread server k =>
      obtain ⟨thread, hk, huses⟩ := h
      have huses : (w.manager server).uses id = true := by
        unfold Manager.uses
        rw [List.any_eq_true.mpr ⟨_, List.mem_of_getElem? hk, huses⟩, Bool.or_true]
      cases server with
      | leader => exact .inl (.inl huses)
      | helper => exact .inl (.inr huses)
  | process i =>
      obtain ⟨process, hget, -, hid⟩ := h
      exact .inr ⟨process, List.mem_of_getElem? hget, .inl hid⟩
  | session =>
      have hlive : (w.helper.provisioner.trainingSessions.lookup id).isSome = true := h
      left
      right
      rw [Manager.uses, hlive, Bool.true_or]

/-! ## One creation waits for a thread -/

/-- No two creations wait for the same thread of the leader's manager. -/
def OneCreating (w : World) : Prop :=
  ∀ (i j : Nat) (process process' : Process) (k : Nat), w.processes[i]? = some process →
    w.processes[j]? = some process' → process.Creating k → process'.Creating k → i = j

/-- A creation that waits for a thread has waited for it before the step, or the
thread has just arrived. -/
theorem Sound.creating_back (hw : w.Sound J) {a : Action} (hmove : w.Moves J a w') {i k : Nat}
    {process : Process} (hget : w'.processes[i]? = some process) (h : process.Creating k) :
    (∃ process₀, w.processes[i]? = some process₀ ∧ process₀.Creating k) ∨
      a = .send i ∧ k = w.leader.threads.length := by
  obtain ⟨⟨client, random, hcall⟩, htrace, hpending⟩ := h
  cases hmove.origin hget with
  | same hget₀ => exact .inl ⟨process, hget₀, ⟨_, _, hcall⟩, htrace, hpending⟩
  | started => cases hpending
  | @sent process₀ server request f hget₀ hpending₀ hrest =>
      obtain ⟨rfl, -⟩ := ((hw.traced i _ hget₀).sends hrest).first_of_createSession hcall htrace
      exact .inr ⟨rfl, (Option.some.inj hpending).symm⟩
  | heard => cases hpending

theorem Sound.creating_lt (hw : w.Sound J) {i k : Nat} {process : Process}
    (hget : w.processes[i]? = some process) (h : process.Creating k) :
    k < w.leader.threads.length := by
  obtain ⟨⟨client, random, hcall⟩, htrace, hpending⟩ := h
  obtain ⟨server, thread, hk, hsends⟩ := (hw.traced i process hget).pending_sends hpending
  obtain ⟨rfl, -⟩ := hsends.first_of_createSession hcall htrace
  exact (List.getElem?_eq_some_iff.mp hk).1

theorem OneCreating.step (hw : w.OneCreating) (hsound : w.Sound J) {a : Action}
    (h : w.step J a = some w') : w'.OneCreating := by
  intro i j process process' k hget hget' hcreating hcreating'
  have hmove := step_moves h
  rcases hsound.creating_back hmove hget hcreating with ⟨p, hp, hk⟩ | ⟨rfl, hk⟩
  · rcases hsound.creating_back hmove hget' hcreating' with ⟨p', hp', hk'⟩ | ⟨-, hk'⟩
    · exact hw i j p p' k hp hp' hk hk'
    · exact absurd (hsound.creating_lt hp hk) (by omega)
  · rcases hsound.creating_back hmove hget' hcreating' with ⟨p', hp', hk'⟩ | ⟨heq, -⟩
    · exact absurd (hsound.creating_lt hp' hk') (by omega)
    · cases heq
      rfl

theorem Hands.unique (hw : w.OneCreating) (h : w.Hands c c') (h' : w.Hands c c'') : c' = c'' := by
  cases h with
  | answered hget hcreating =>
      cases h' with
      | answered hget' hcreating' => rw [hw _ _ _ _ _ hget hget' hcreating hcreating']
  | sent => cases h'; rfl
  | inserted => cases h'; rfl

end World

/-! ## One step back -/

/-- A session that is live after a step was live before it, or has just been inserted. -/
theorem Manager.live_back {J : Janus} {m m' : Manager} {id : TrainingSessionId} {a : Manager.Action}
    (h : m.step J a = some m') (hlive : (m'.provisioner.trainingSessions.lookup id).isSome) :
    (m.provisioner.trainingSessions.lookup id).isSome ∨
      ∃ (k : Nat) (request : CreateTrainingSessionRequest) (session : TrainingSession),
        m.threads[k]? = some (.insert request id session) ∧
        m'.threads[k]? = some (.answered (.createSession request) (.ok (.createSession id))) := by
  cases a with
  | send request => cases h; exact .inl hlive
  | drop i =>
      obtain ⟨t, -, rfl⟩ := step_drop h
      exact .inl hlive
  | restart => cases h; cases hlive
  | resume i ω =>
      obtain ⟨thread, thread', hr⟩ := step_resume h
      have hget := hr.get
      have hget' := hr.get'
      have hres := hr.resumes
      generalize m'.provisioner = p' at hres hlive
      cases hres with
      | @inserted request k session =>
          by_cases hk : id = k
          · subst hk
            exact .inr ⟨i, request, session, hget, hget'⟩
          · rw [AList.lookup_insert_ne hk] at hlive
            exact .inl hlive
      | keypair hsame => rw [hsame.trainingSessions] at hlive; exact .inl hlive
      | built _ _ _ hsame => rw [hsame.trainingSessions] at hlive; exact .inl hlive
      | failed hsame => rw [hsame.trainingSessions] at hlive; exact .inl hlive
      | recorded =>
          rw [TaskProvisioner.lookup_recordTask] at hlive
          split at hlive
          · rename_i hk
            rw [Option.isSome_map] at hlive
            exact .inl (hk ▸ hlive)
          · exact .inl hlive
      | @ended k _ _ _ _ hsessions =>
          rw [hsessions] at hlive
          by_cases hk : id = k
          · rw [hk, AList.lookup_erase] at hlive
            cases hlive
          · rw [AList.lookup_erase_ne hk] at hlive
            exact .inl hlive
      | _ => exact .inl hlive

/-- A thread that is about to create a session was so before the step, was asked to
by this step, or has drawn the id in it. -/
theorem Manager.uses_back {J : Janus} {m m' : Manager} {id : TrainingSessionId} {a : Manager.Action}
    (h : m.step J a = some m') {k : Nat} {thread : Thread} (hk : m'.threads[k]? = some thread)
    (huses : thread.uses id = true) :
    (∃ thread₀, m.threads[k]? = some thread₀ ∧ thread₀.uses id = true) ∨
      (∃ request, a = .send (.createSession request) ∧ request.trainingSessionId = some id ∧
        k = m.threads.length) ∨
      ∃ ω p, a = .resume k ω ∧ m.draw J a = some (id, p) := by
  cases step_origin h hk with
  | same hget => exact .inl ⟨thread, hget, huses⟩
  | @arrived request hlen =>
      cases request with
      | createSession request => exact .inr (.inl ⟨request, rfl, of_decide_eq_true huses, hlen⟩)
      | _ => cases huses
  | dropped => cases huses
  | @resumed ω thread₀ _ hr =>
      have hget := hr.get
      have hres := hr.resumes
      generalize m'.provisioner = p' at hres
      cases hres with
      | @chosen request id' secrets hsecrets hid =>
          obtain rfl : id' = id := of_decide_eq_true huses
          rcases hid with ⟨hsome, -⟩ | ⟨hnone, rfl⟩
          · exact .inl ⟨_, hget, decide_eq_true hsome⟩
          · obtain ⟨p, hterms⟩ : ∃ p, request.terms J = .ok p := by
              unfold CreateTrainingSessionRequest.terms
              rw [hsecrets]
              exact ⟨_, rfl⟩
            refine .inr (.inr ⟨ω, p, rfl, ?_⟩)
            simp only [draw, hget, hnone, hterms]
      | keypair => exact .inl ⟨_, hget, huses⟩
      | _ => cases huses

/-- A live session stays the only use of its id, if the manager is not asked for it. -/
theorem Manager.SoleUse.step {J : Janus} {m m' : Manager} {id : TrainingSessionId}
    (hm : m.SoleUse id) (hone : ∀ (k k' : Nat) (thread thread' : Thread),
      m.threads[k]? = some thread → m.threads[k']? = some thread' → thread.uses id = true →
      thread'.uses id = true → k = k') {a : Manager.Action}
    (hdraw : ∀ p, m.draw J a = some (id, p) → m.uses id = false)
    (hsend : ∀ request, a = .send (.createSession request) → request.trainingSessionId ≠ some id)
    (h : m.step J a = some m') : m'.SoleUse id := by
  intro hlive k thread hk
  by_contra hnot
  have huses : thread.uses id = true := Bool.not_eq_false _ |>.mp hnot
  rcases uses_back h hk huses with ⟨thread₀, hk₀, huses₀⟩ | ⟨request, rfl, hid, -⟩ | ⟨ω, p, -, hdrawn⟩
  · rcases live_back h hlive with hold | ⟨j, request, session, hj, hj'⟩
    · rw [hm hold k thread₀ hk₀] at huses₀
      cases huses₀
    · obtain rfl := hone j k _ thread₀ hj hk₀ (decide_eq_true rfl) huses₀
      rw [hj'] at hk
      cases hk
      cases huses
  · exact hsend request rfl hid
  · -- a drawn id is not in use
    have hfree := hdraw p hdrawn
    rw [Manager.uses, Bool.or_eq_false_iff] at hfree
    rcases live_back h hlive with hold | ⟨j, request, session, hj, -⟩
    · rw [hfree.1] at hold
      cases hold
    · have hany : m.threads.any (·.uses id) = true :=
        List.any_eq_true.mpr ⟨_, List.mem_of_getElem? hj, decide_eq_true rfl⟩
      rw [hfree.2] at hany
      cases hany

namespace World

variable {J : Janus} {w w' : World} {id : TrainingSessionId} {c c' c'' : Claimant}

/-- A process that has sent its request waits for a thread. -/
theorem step_send {i : Nat} (h : w.step J (.send i) = some w') :
    ∃ process k, w.processes[i]? = some process ∧
      w'.processes[i]? = some { process with pending := some k } := by
  simp only [step] at h
  split at h
  · cases h
  · rename_i process hget
    split at h
    · rename_i server request f hpending hrest
      obtain ⟨m, -, rfl⟩ := Option.map_eq_some_iff.mp h
      refine ⟨process, (w.manager server).threads.length, hget, ?_⟩
      rw [processes_setProcess, processes_setManager]
      exact List.getElem?_set_self (List.getElem?_eq_some_iff.mp hget).1
    · cases h

/-- The id is drawn in this step, by the handler that then has it. -/
def Draws (J : Janus) (w : World) (a : Action) (id : TrainingSessionId) (c : Claimant) : Prop :=
  ∃ server k ω p, a = .manager server (.resume k ω) ∧ c = .thread server k ∧
    w.draw J a = some (id, p)

/-- A thread has got the id with its request, or it has drawn it. -/
theorem Claims.thread_back (hw : w.Sound J) {a : Action} (h : w.step J a = some w')
    {server : ManagerServer} {k : Nat} (hc : w'.Claims id (.thread server k)) :
    w.Claims id (.thread server k) ∨
      (∃ c₀, w.Claims id c₀ ∧ ¬ w'.Claims id c₀ ∧ w.Hands c₀ (.thread server k)) ∨
      w.Draws J a id (.thread server k) := by
  have hmove := step_moves h
  obtain ⟨thread, hk, huses⟩ := hc
  have hat := hmove.atManager server
  generalize hm : w'.manager server = m at hat hk
  cases hat with
  | same => exact .inl ⟨thread, hk, huses⟩
  | @sent i process request f _ hget hpending hrest hstep =>
      rcases Manager.uses_back hstep hk huses with hold | ⟨request, heq, hid, rfl⟩ | ⟨ω, p, heq, -⟩
      · exact .inl hold
      · cases heq
        cases (hw.traced i process hget).sends hrest with
        | createLeader => cases hid
        | @createHelper client random request id' hcall htrace =>
            cases hid
            refine .inr (.inl ⟨.process i, ⟨process, hget, ⟨_, _, hcall⟩, ?_⟩, ?_, .sent⟩)
            · simp only [Process.createdId, htrace, hpending]
            · rintro ⟨process', hget', -, hid'⟩
              obtain ⟨process₁, k, hget₁, hsent⟩ := step_send h
              obtain rfl := Option.some.inj (hget.symm.trans hget₁)
              obtain rfl := Option.some.inj (hsent.symm.trans hget')
              simp [Process.createdId, htrace] at hid'
        | query _ hquery => exact hquery.elim
      · cases heq
  | managed haction hstep =>
      rcases Manager.uses_back hstep hk huses with hold | ⟨request, rfl, -⟩ | ⟨ω, p, rfl, hdraw⟩
      · exact .inl hold
      · exact (haction _ rfl).elim
      · exact .inr (.inr ⟨server, k, ω, p, rfl, rfl, hdraw⟩)

/-- A process has got the id from the leader's manager. -/
theorem Claims.process_back (hw : w.Sound J) {a : Action} (h : w.step J a = some w') {i : Nat}
    (hc : w'.Claims id (.process i)) :
    w.Claims id (.process i) ∨
      ∃ c₀, w.Claims id c₀ ∧ ¬ w'.Claims id c₀ ∧ w.Hands c₀ (.process i) := by
  have hmove := step_moves h
  obtain ⟨process, hget, ⟨client, random, hcall⟩, hid⟩ := hc
  rcases Process.createdId_cases hid with ⟨k, request, htrace, hpending, hthread⟩ |
    ⟨server, request, hpending, htrace⟩
  · -- the leader's manager has answered
    obtain ⟨process₀, server, hget₀, hcall₀, htrace₀, hcases⟩ :=
      hw.pending_back hmove hget hpending
    rw [hcall] at hcall₀
    rw [htrace] at htrace₀
    rcases hcases with ⟨hpending₀, thread, hk, hsends⟩ | ⟨-, request', hk, hsends⟩
    · obtain ⟨rfl, -⟩ := hsends.first_of_createSession hcall₀ htrace₀
      rcases hmove.thread_cases hk hthread with rfl | heq | ⟨ω, hr⟩
      · refine .inl ⟨process₀, hget₀, ⟨_, _, hcall₀⟩, ?_⟩
        simp only [Process.createdId, htrace₀, hpending₀]
        rw [show w.leader.threads[k]? = _ from hk]
      · cases heq
      · obtain ⟨request', session, rfl⟩ := hr.resumes.of_createSession
        refine .inr ⟨.thread .leader k, ⟨_, hk, decide_eq_true rfl⟩, ?_,
          .answered hget₀ ⟨⟨_, _, hcall₀⟩, htrace₀, hpending₀⟩⟩
        rintro ⟨thread, hk', huses⟩
        rw [show (w'.manager .leader).threads[k]? = _ from hthread] at hk'
        cases hk'
        cases huses
    · obtain ⟨rfl, -⟩ := hsends.first_of_createSession hcall₀ htrace₀
      rw [show w'.leader.threads[k]? = _ from hk] at hthread
      cases hthread
  · -- its answer has been received
    obtain ⟨process₀, hget₀, hcall₀, hcases⟩ := hw.accepted_back hmove hget [] htrace
    rw [hcall] at hcall₀
    refine .inl ⟨process₀, hget₀, ⟨_, _, hcall₀⟩, ?_⟩
    rcases hcases with ⟨htrace₀, hpending₀⟩ | ⟨htrace₀, hsends, k, request', hpending₀, hk⟩
    · simp only [Process.createdId, htrace₀, htrace, hpending₀ hpending]
    · obtain ⟨rfl, -⟩ := hsends.first_of_createSession hcall₀ htrace₀
      simp only [Process.createdId, htrace₀, hpending₀]
      rw [show w.leader.threads[k]? = _ from hk]

/-- The session of the helper's manager has got the id from a thread that inserted it. -/
theorem Claims.session_back {a : Action} (h : w.step J a = some w') (hc : w'.Claims id .session) :
    w.Claims id .session ∨ ∃ c₀, w.Claims id c₀ ∧ ¬ w'.Claims id c₀ ∧ w.Hands c₀ .session := by
  have hmove := step_moves h
  rcases hmove.manager .helper with heq | ⟨action, hstep⟩
  · have hsame : w'.helper = w.helper := heq
    rw [Claims, hsame] at hc
    exact .inl hc
  · rcases Manager.live_back hstep hc with hold | ⟨k, request, session, hk, hk'⟩
    · exact .inl hold
    · refine .inr ⟨.thread .helper k, ⟨_, hk, decide_eq_true rfl⟩, ?_, .inserted⟩
      rintro ⟨thread, hthread, huses⟩
      rw [hk'] at hthread
      cases hthread
      cases huses

/-- Who has an id after a step has had it before, was handed it, or has drawn it. -/
theorem Claims.back (hw : w.Sound J) {a : Action} (h : w.step J a = some w')
    (hc : w'.Claims id c) :
    w.Claims id c ∨ (∃ c₀, w.Claims id c₀ ∧ ¬ w'.Claims id c₀ ∧ w.Hands c₀ c) ∨
      w.Draws J a id c := by
  cases c with
  | thread server k => exact Claims.thread_back hw h hc
  | process i => exact (Claims.process_back hw h hc).imp_right .inl
  | session => exact (Claims.session_back h hc).imp_right .inl

/-! ## One party for each id -/

/-- No two parties have the same id on the way to a session. -/
def SoleClaims (w : World) : Prop :=
  ∀ id c c', w.Claims id c → w.Claims id c' → c = c'

theorem soleClaims_start (leaderDatastore helperDatastore : Datastore)
    (leaderConfig helperConfig : TaskProvisionerConfig) :
    (start leaderDatastore helperDatastore leaderConfig helperConfig).SoleClaims := by
  intro id c c' h
  have hin := h.inUse
  simp [start, World.inUse, Manager.uses, Manager.new, TaskProvisioner.new] at hin

theorem Draws.unique {a : Action} (h : w.Draws J a id c) (h' : w.Draws J a id c') : c = c' := by
  obtain ⟨server, k, ω, p, rfl, rfl, -⟩ := h
  obtain ⟨server', k', ω', p', heq, rfl, -⟩ := h'
  cases heq
  rfl

theorem SoleClaims.step (hw : w.SoleClaims) (hone : w.OneCreating) (hsound : w.Sound J)
    {a : Action} (h : w.step J a = some w') (ha : a.FreshDraw J w) : w'.SoleClaims := by
  intro id c c' hc hc'
  by_cases hclaims : ∃ c₀, w.Claims id c₀
  · -- the id was with one party, which has kept it or handed it on
    obtain ⟨c₀, hc₀⟩ := hclaims
    have horigin : ∀ c, w'.Claims id c → c = c₀ ∨ ¬ w'.Claims id c₀ ∧ w.Hands c₀ c := by
      intro c hc
      rcases hc.back hsound h with hold | ⟨c₁, hc₁, hgone, hhands⟩ | ⟨_, _, _, p, -, -, hdraw⟩
      · exact .inl (hw id c c₀ hold hc₀)
      · obtain rfl := hw id c₁ c₀ hc₁ hc₀
        exact .inr ⟨hgone, hhands⟩
      · have hfree := ha (id, p) hdraw
        rw [hc₀.inUse] at hfree
        cases hfree
    rcases horigin c hc with rfl | ⟨hgone, hhands⟩
    · rcases horigin c' hc' with rfl | ⟨hgone', -⟩
      · rfl
      · exact (hgone' hc).elim
    · rcases horigin c' hc' with rfl | ⟨-, hhands'⟩
      · exact (hgone hc').elim
      · exact hhands.unique hone hhands'
  · -- the id has just been drawn
    have hdraws : ∀ c, w'.Claims id c → w.Draws J a id c := by
      intro c hc
      rcases hc.back hsound h with hold | ⟨c₁, hc₁, -⟩ | hdraws
      · exact (hclaims ⟨c, hold⟩).elim
      · exact (hclaims ⟨c₁, hc₁⟩).elim
      · exact hdraws
    exact (hdraws c hc).unique (hdraws c' hc')

/-! ## One session for each id -/

/-- A live session of the leader's manager is the only use of its id there. -/
def LeaderSole (w : World) : Prop := ∀ id, w.leader.SoleUse id

theorem leaderSole_start (leaderDatastore helperDatastore : Datastore)
    (leaderConfig helperConfig : TaskProvisionerConfig) :
    (start leaderDatastore helperDatastore leaderConfig helperConfig).LeaderSole := by
  intro id hlive
  simp [start, Manager.new, TaskProvisioner.new] at hlive

theorem LeaderSole.step (hw : w.LeaderSole) (hsole : w.SoleClaims) (hsound : w.Sound J) {a : Action}
    (h : w.step J a = some w') (ha : a.FreshDraw J w) : w'.LeaderSole := by
  intro id
  have hone : ∀ (k k' : Nat) (thread thread' : Thread), w.leader.threads[k]? = some thread →
      w.leader.threads[k']? = some thread' → thread.uses id = true → thread'.uses id = true →
      k = k' := by
    intro k k' thread thread' hk hk' huses huses'
    have hclaim : w.Claims id (.thread .leader k) := ⟨thread, hk, huses⟩
    have hclaim' : w.Claims id (.thread .leader k') := ⟨thread', hk', huses'⟩
    cases hsole id _ _ hclaim hclaim'
    rfl
  have hat := (step_moves h).atManager .leader
  generalize hm : w'.manager .leader = m at hat
  rw [show w'.leader = m from hm]
  cases hat with
  | same => exact hw id
  | @sent i process request f _ hget hpending hrest hstep =>
      refine (hw id).step hone (fun p hdraw => by cases hdraw) ?_ hstep
      rintro request ⟨⟩ hid
      cases (hsound.traced i process hget).sends hrest with
      | createLeader => cases hid
      | query _ hquery => exact hquery.elim
  | managed haction hstep =>
      refine (hw id).step hone (fun p hdraw => ?_) (fun request heq => (haction _ heq).elim) hstep
      have hfree := ha (id, p) hdraw
      rw [World.inUse, Bool.or_eq_false_iff, Bool.or_eq_false_iff] at hfree
      exact hfree.1.1

/-- What holds in every run with fresh task ids in which no session id is drawn while it
is in use: at any time, each session id belongs to one creation. -/
structure Distinct (J : Janus) (w : World) : Prop where
  agreeing : w.Agreeing J
  oneCreating : w.OneCreating
  soleClaims : w.SoleClaims
  leaderSole : w.LeaderSole

theorem distinct_start (J : Janus) (leaderConfig helperConfig : TaskProvisionerConfig) :
    (start ∅ ∅ leaderConfig helperConfig).Distinct J where
  agreeing := agreeing_start J _ _
  oneCreating := by intro i j process process' k hi; cases hi
  soleClaims := soleClaims_start _ _ _ _
  leaderSole := leaderSole_start _ _ _ _

theorem Distinct.step (hJ : J.Faithful) (hw : w.Distinct J) {a : Action}
    (h : w.step J a = some w') (ha : a.Fresh J w) : w'.Distinct J where
  agreeing := hw.agreeing.step hJ h ha.1 ha.2
  oneCreating := hw.oneCreating.step hw.agreeing.regular.sound h
  soleClaims := hw.soleClaims.step hw.oneCreating hw.agreeing.regular.sound h ha.2
  leaderSole := hw.leaderSole.step hw.soleClaims hw.agreeing.regular.sound h ha.2

/-- At either manager, a live session is the only use of its id. -/
theorem Distinct.soleUse (hw : w.Distinct J) (server : ManagerServer) (id : TrainingSessionId) :
    (w.manager server).SoleUse id := by
  cases server with
  | leader => exact hw.leaderSole id
  | helper =>
      intro hlive k thread hk
      by_contra huses
      have hthread : w.Claims id (.thread .helper k) := ⟨thread, hk, Bool.not_eq_false _ |>.mp huses⟩
      have hsession : w.Claims id .session := hlive
      cases hw.soleClaims id _ _ hthread hsession

end World
