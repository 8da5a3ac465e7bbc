-- SUMMARY: Rounds, ends and lookups that run at once have the effect of running one after the other.
import Dpsa4fl.Library.Guard
import Dpsa4fl.JanusManager.AnswerSpecs
import Dpsa4fl.JanusManager.Coherence

/-!
# Serial execution

A handler that runs with no other one in between does what `serve` says,
whatever it awaits. The requests that work on tasks take the guard of the
sessions once each, so every interleaving of them is one of running them in turn,
each with what its own pieces met.
-/

open Handler

/-- Threads of a manager as guarded threads. -/
def Thread.discipline (J : Janus) : Guard.Discipline Thread TaskProvisioner Ambient where
  resume ω thread p := thread.resume J ω p
  finished := finished
  holds := holdsGuard
  awaits := awaitsGuard

/-- Answer the requests with the numbers in `order`, one after the other. -/
def TaskProvisioner.answerAll (J : Janus) (requests : List Request) (p : TaskProvisioner)
    (order : List (Nat × Ambient)) : List (Nat × Except Failure Response) × TaskProvisioner :=
  order.foldl (fun (answers, p) (i, ω) =>
    match requests[i]? with
    | none => (answers, p)
    | some request =>
      let (answer, p') := p.answer J ω request
      (answers ++ [(i, answer)], p')) ([], p)

/-- The requests that only read and change tasks of sessions that exist. -/
def Request.concernsTasks : Request → Bool
  | .startRound _ => true
  | .endSession _ => true
  | .getVdafParameter _ => true
  | _ => false

/-! ## A handler that runs alone -/

namespace Ambient

/-- What a handler meets whose first piece meets `ω` and whose second one meets `ω'`:
the session id is drawn and the clock is read in the first piece, the key pair is
generated and the transaction runs in the second. -/
def next (ω ω' : Ambient) : Ambient :=
  { ω' with sessionId := ω.sessionId, elapsed := ω.elapsed }

/-- What a handler meets whose pieces meet `turns`; there is nothing to meet in the third. -/
def ofTurns : List Ambient → Option Ambient
  | [] => none
  | [ω] => some ω
  | ω :: ω' :: _ => some (ω.next ω')

variable {J : Janus} {ω ω' : Ambient}

@[simp] theorem createSessionStart_next (request : CreateTrainingSessionRequest) :
    createSessionStart J (ω.next ω') request = createSessionStart J ω request := rfl
@[simp] theorem createSessionKeypair_next (request : CreateTrainingSessionRequest)
    (id : TrainingSessionId) (secrets : SessionSecrets) :
    createSessionKeypair J (ω.next ω') request id secrets =
      createSessionKeypair J ω' request id secrets := rfl
@[simp] theorem startRoundTask_next (request : StartRoundRequest) :
    startRoundTask J (ω.next ω') request = startRoundTask J ω request := rfl
@[simp] theorem provisionTask_next (task : AggregatorTask) :
    provisionTask (ω.next ω') task = provisionTask ω' task := rfl

end Ambient

namespace Thread

/-- `Reached J p turns thread p'`: started in the state `p` with no other handler
running, the handler of the thread gets to where it is with pieces that meet
`turns`, and leaves `p'`. -/
inductive Reached (J : Janus) (p : TaskProvisioner) :
    List Ambient → Thread → TaskProvisioner → Prop where
  | arrived {request} : Reached J p [] (arrived request) p
  | keyring {ω request id secrets p'}
      (hstart : (createSessionStart J ω request).run p = .ok (id, secrets) p') :
      Reached J p [ω] (keyring request id secrets) p'
  | insert {ω ω' request id secrets session p₁ p'}
      (hstart : (createSessionStart J ω request).run p = .ok (id, secrets) p₁)
      (hkey : (createSessionKeypair J ω' request id secrets).run p₁ = .ok session p') :
      Reached J p [ω, ω'] (insert request id session) p'
  | transaction {ω request taskId task p'}
      (hstart : (startRoundTask J ω request).run p = .ok (taskId, task) p') :
      Reached J p [ω] (transaction request taskId task) p'
  | record {ω ω' request taskId task p₁ p'}
      (hstart : (startRoundTask J ω request).run p = .ok (taskId, task) p₁)
      (hprovision : (provisionTask ω' task).run p₁ = .ok () p') :
      Reached J p [ω, ω'] (record request taskId) p'
  | lookup {ω request taskId} (hdecode : taskIdFromString request.taskIdEncoded = .ok taskId) :
      Reached J p [ω] (lookup request taskId) p
  | answered {turns ω request answer p'} (hturns : Ambient.ofTurns turns = some ω)
      (hanswer : p.answer J ω request = (answer, p')) :
      Reached J p turns (answered request answer) p'

variable {J : Janus} {p p' : TaskProvisioner} {thread : Thread} {turns : List Ambient}

namespace Reached

theorem resume_arrived (ω : Ambient) (request : Request) :
    Reached J p [ω] ((Thread.arrived request).resume J ω p).1
      ((Thread.arrived request).resume J ω p).2 := by
  cases request with
  | createSession request =>
      rw [resume_of_piece (x := createSessionStart J ω request)
        (f := fun a => Thread.keyring request a.1 a.2) rfl]
      cases h : (createSessionStart J ω request).run p with
      | ok a p' => exact .keyring h
      | error failure p' =>
          refine .answered rfl ?_
          rw [Thread.request, answer_createSession]
          simp only [handleCreateSession, EStateM.run_bind, h]
  | endSession id =>
      rw [resume_of_piece (x := handleEndSession id)
        (f := fun _ => Thread.answered (.endSession id) (.ok .endSession)) rfl]
      cases h : (handleEndSession id).run p <;>
        exact .answered rfl (by rw [Thread.request, answer_endSession, h])
  | startRound request =>
      rw [resume_of_piece (x := startRoundTask J ω request)
        (f := fun a => Thread.transaction request a.1 a.2) rfl]
      cases h : (startRoundTask J ω request).run p with
      | ok a p' => exact .transaction h
      | error failure p' =>
          refine .answered rfl ?_
          rw [Thread.request, answer_startRound]
          simp only [handleStartRound, EStateM.run_bind, h]
  | getVdafParameter request =>
      rw [resume_of_piece (x := orReturn (taskIdFromString request.taskIdEncoded))
        (f := fun taskId => Thread.lookup request taskId) rfl]
      cases h : (orReturn (taskIdFromString request.taskIdEncoded)).run p with
      | ok taskId p' =>
          obtain ⟨hdecode, rfl⟩ := run_orReturn_ok.mp h
          exact .lookup hdecode
      | error failure p' =>
          refine .answered rfl ?_
          rw [Thread.request, answer_getVdafParameter]
          simp only [handleGetVdafParameter, EStateM.run_bind, h]
  | getMainLocations => exact .answered rfl rfl

/-- Handlers that run alone go through the programs that `serve` is made of. -/
theorem resume (h : Reached J p turns thread p') (hrunning : thread.finished = false) (ω : Ambient) :
    Reached J p (turns ++ [ω]) (thread.resume J ω p').1 (thread.resume J ω p').2 := by
  cases h with
  | arrived => exact resume_arrived ω _
  | @keyring ω₀ request id secrets p' hstart =>
      rw [resume_of_piece (x := createSessionKeypair J ω request id secrets)
        (f := fun session => Thread.insert request id session) rfl]
      cases hkey : (createSessionKeypair J ω request id secrets).run p' with
      | ok session p'' => exact .insert hstart hkey
      | error failure p'' =>
          refine .answered (ω := ω₀.next ω) rfl ?_
          rw [Thread.request, answer_createSession]
          simp only [handleCreateSession, EStateM.run_bind, Ambient.createSessionStart_next, hstart,
            Ambient.createSessionKeypair_next, hkey]
  | @insert ω₀ ω₁ request id secrets session p₁ p' hstart hkey =>
      refine .answered (ω := ω₀.next ω₁) rfl ?_
      rw [answer_createSession]
      simp only [handleCreateSession, EStateM.run_bind, Ambient.createSessionStart_next, hstart,
        Ambient.createSessionKeypair_next, hkey]
      rfl
  | @transaction ω₀ request taskId task p' hstart =>
      rw [resume_of_piece (x := provisionTask ω task)
        (f := fun _ => Thread.record request taskId) rfl]
      cases hprovision : (provisionTask ω task).run p' with
      | ok _ p'' => exact .record hstart hprovision
      | error failure p'' =>
          refine .answered (ω := ω₀.next ω) rfl ?_
          rw [Thread.request, answer_startRound]
          simp only [handleStartRound, EStateM.run_bind, Ambient.startRoundTask_next, hstart,
            Ambient.provisionTask_next, hprovision]
  | @record ω₀ ω₁ request taskId task p₁ p' hstart hprovision =>
      refine .answered (ω := ω₀.next ω₁) rfl ?_
      rw [answer_startRound]
      simp only [handleStartRound, EStateM.run_bind, Ambient.startRoundTask_next, hstart,
        Ambient.provisionTask_next, hprovision]
      rfl
  | @lookup ω₀ request taskId hdecode =>
      have hrun : (orReturn (taskIdFromString request.taskIdEncoded)).run p = .ok taskId p :=
        run_orReturn_ok.mpr ⟨hdecode, rfl⟩
      rw [resume_of_piece (x := lookupVdafParameter taskId) (f := fun vdafParameter =>
        Thread.answered (.getVdafParameter request) (.ok (.getVdafParameter vdafParameter))) rfl]
      cases h : (lookupVdafParameter taskId).run p <;>
        exact .answered (ω := ω₀.next ω) rfl (by
          rw [Thread.request, answer_getVdafParameter]
          simp only [handleGetVdafParameter, EStateM.run_bind, hrun, h])
  | answered => cases hrunning

end Reached

end Thread

/-! ## One critical section each -/

namespace Thread

variable {J : Janus} {p p' : TaskProvisioner} {thread : Thread}

theorem reached_of_alone {request : Request} {t : Thread × List Ambient}
    (h : (discipline J).logged.Alone (arrived request, []) p t p') :
    t.1.request = request ∧ Reached J p t.2 t.1 p' := by
  induction h with
  | start => exact ⟨rfl, .arrived⟩
  | @resume t p' ω _ hrunning ih =>
      exact ⟨(resume_spec hrunning rfl).request_eq.trans ih.1, ih.2.resume hrunning ω⟩

/-- The requests that concern tasks have a single critical section: a round from
its lookup of the session on, an end and a lookup in one piece. -/
theorem oneSection (J : Janus) :
    (discipline J).OneSection fun thread => thread.request.concernsTasks = true where
  closed := by
    intro thread ω p hQ hrunning
    have hrequest := (resume_spec hrunning (rfl : thread.resume J ω p = _)).request_eq
    exact (congrArg Request.concernsTasks hrequest).trans hQ
  released := by
    intro thread _ hfinished
    cases thread with
    | answered => rfl
    | dropped => rfl
    | _ => cases hfinished
  inside := by
    intro thread ω p hQ hrunning hsection
    obtain ⟨thread', p', hresume⟩ : ∃ thread' p', thread.resume J ω p = (thread', p') :=
      ⟨_, _, rfl⟩
    simp only [discipline, hresume] at hsection ⊢
    cases resume_spec hrunning hresume with
    | built => exact .inr rfl
    | provisioned => exact .inr rfl
    | chosen => cases hQ
    | keypair => cases hQ
    | decoded => rcases hsection with h | h <;> cases h
    | _ => exact .inl rfl
  outside := by
    intro thread ω p hQ hrunning hawaits hholds
    cases thread with
    | arrived request =>
        cases request with
        | getVdafParameter request =>
            have hresume : ∀ p, (arrived (.getVdafParameter request)).resume J ω p = _ :=
              resume_of_piece (x := orReturn (taskIdFromString request.taskIdEncoded))
                (f := fun taskId => Thread.lookup request taskId) rfl
            simp only [discipline, hresume]
            cases taskIdFromString request.taskIdEncoded with
            | ok taskId => exact ⟨rfl, fun _ => rfl⟩
            | error e => exact ⟨rfl, fun _ => rfl⟩
        | createSession => cases hQ
        | getMainLocations => cases hQ
        | _ => cases hawaits
    | keyring => cases hQ
    | insert => cases hQ
    | lookup => cases hawaits
    | answered => cases hrunning
    | dropped => cases hrunning
    | _ => cases hholds

end Thread

namespace Manager

variable {J : Janus} {m m' : Manager}

/-- A manager as guarded threads. -/
def guarded (m : Manager) : Guard.State Thread TaskProvisioner := ⟨m.threads, m.provisioner⟩

theorem guarded_step {a : Nat × Ambient} (h : m.step J (.resume a.1 a.2) = some m') :
    (Thread.discipline J).step m.guarded a = some m'.guarded := by
  simp only [step] at h
  unfold Guard.Discipline.step
  split at h
  · cases h
  · rename_i thread hget
    rw [show m.guarded.threads[a.1]? = some thread from hget]
    split at h
    · cases h
    · rename_i hguard
      cases h
      exact if_neg hguard

/-- A serial run of threads is one of answering their requests in turn, each with
what its thread met. -/
theorem answerAll_of_serial {requests : List Request} {p p' : TaskProvisioner}
    {done : List (Nat × Thread × List Ambient)}
    (h : (Thread.discipline J).logged.Serial (requests.map fun request => (.arrived request, []))
      p done p') :
    ∃ order : List (Nat × Ambient), order.map Prod.fst = done.map Prod.fst ∧
      (∀ i ω, (i, ω) ∈ order →
        ∃ thread turns, (i, thread, turns) ∈ done ∧ Ambient.ofTurns turns = some ω) ∧
      (p.answerAll J requests order).2 = p' ∧
      ∀ i answer, (i, answer) ∈ (p.answerAll J requests order).1 ↔
        ∃ request turns, (i, Thread.answered request answer, turns) ∈ done := by
  induction h with
  | nil => exact ⟨[], rfl, by simp, rfl, by simp [TaskProvisioner.answerAll]⟩
  | @snoc done s i t₀ t s' _ hi halone hfinished ih =>
      obtain ⟨order, hfst, hmet, hstate, hanswers⟩ := ih
      obtain ⟨thread, turns⟩ := t
      rw [List.getElem?_map, Option.map_eq_some_iff] at hi
      obtain ⟨request, hi, rfl⟩ := hi
      obtain ⟨hrequest, hreached⟩ := Thread.reached_of_alone halone
      cases hreached with
      | @answered _ ω request' answer _ hturns hanswer =>
          have hall : p.answerAll J requests (order ++ [(i, ω)]) =
              ((p.answerAll J requests order).1 ++ [(i, answer)], s') := by
            unfold TaskProvisioner.answerAll at hstate ⊢
            rw [List.foldl_append, List.foldl_cons, List.foldl_nil]
            simp only [hi, hstate, ← hrequest, Thread.request, hanswer]
          refine ⟨order ++ [(i, ω)], by simp [hfst], fun j ω' hmem => ?_, by rw [hall],
            fun j answer' => ?_⟩
          · rcases List.mem_append.mp hmem with hmem | hmem
            · obtain ⟨other, turns', hdone, hω'⟩ := hmet j ω' hmem
              exact ⟨other, turns', List.mem_append_left _ hdone, hω'⟩
            · cases List.mem_singleton.mp hmem
              exact ⟨.answered request' answer, turns, by simp, hturns⟩
          · rw [hall, List.mem_append, List.mem_singleton, hanswers]
            constructor
            · rintro (⟨other, turns', hmem⟩ | heq)
              · exact ⟨other, turns', List.mem_append_left _ hmem⟩
              · cases heq
                exact ⟨request', turns, by simp⟩
            · rintro ⟨other, turns', hmem⟩
              rcases List.mem_append.mp hmem with hmem | hmem
              · exact .inl ⟨other, turns', hmem⟩
              · cases List.mem_singleton.mp hmem
                exact .inr rfl
      | _ => cases hfinished

/-! ## Accepted tasks and ended sessions -/

/-- A request to end the session was answered `Ok`. -/
def Ended (m : Manager) (id : TrainingSessionId) : Prop :=
  ∃ i : Nat, m.threads[i]? = some (.answered (.endSession id) (.ok .endSession))

/-- Every round that is about to record its task finds its session live. -/
def RecordsLive (m : Manager) : Prop :=
  ∀ (i : Nat) request taskId, m.threads[i]? = some (.record request taskId) →
    (m.provisioner.trainingSessions.lookup request.trainingSessionId).isSome

end Manager

/-- While it holds the guard, the handler of a round keeps its session live. -/
def Thread.KeepsLive (p : TaskProvisioner) : Thread → Prop
  | transaction request taskId _ =>
    taskIdFromString request.taskIdEncoded = .ok taskId ∧
      (p.trainingSessions.lookup request.trainingSessionId).isSome
  | record request taskId =>
    taskIdFromString request.taskIdEncoded = .ok taskId ∧
      (p.trainingSessions.lookup request.trainingSessionId).isSome
  | _ => True

/-- The invariant of an interleaving of requests that concern tasks: an accepted
task is listed unless its session was ended, and an ended session stays away. -/
structure Manager.KeepsTasks (m : Manager) : Prop where
  exclusive : m.Exclusive
  kinds : ∀ (i : Nat) (t : Thread), m.threads[i]? = some t → t.request.concernsTasks = true
  live : ∀ (i : Nat) (t : Thread), m.threads[i]? = some t → t.KeepsLive m.provisioner
  accepted : ∀ i id taskId, m.Accepted i id taskId → m.Lists id taskId ∨ m.Ended id
  ended : ∀ id, m.Ended id → m.provisioner.trainingSessions.lookup id = none

namespace Thread

variable {J : Janus} {ω : Ambient} {p p' : TaskProvisioner} {thread thread' : Thread}

theorem KeepsLive.mono (h : thread.KeepsLive p)
    (hsame : thread.holdsGuard = true → p'.trainingSessions = p.trainingSessions) :
    thread.KeepsLive p' := by
  cases thread with
  | transaction => exact ⟨h.1, by rw [hsame rfl]; exact h.2⟩
  | record => exact ⟨h.1, by rw [hsame rfl]; exact h.2⟩
  | _ => trivial

namespace Resumes

theorem keepsLive (h : thread.Resumes J ω p thread' p') (hlive : thread.KeepsLive p) :
    thread'.KeepsLive p' := by
  cases h with
  | built hsession htask _ hsame =>
      exact ⟨htask, by rw [hsame.trainingSessions, hsession]; rfl⟩
  | provisioned => exact hlive
  | _ => trivial

/-- Requests that concern tasks make no session live. -/
theorem stays_ended (h : thread.Resumes J ω p thread' p')
    (hkind : thread.request.concernsTasks = true) {id : TrainingSessionId}
    (hnone : p.trainingSessions.lookup id = none) : p'.trainingSessions.lookup id = none := by
  cases h with
  | keypair => cases hkind
  | inserted => cases hkind
  | built _ _ _ hsame => rw [hsame.trainingSessions]; exact hnone
  | failed hsame => rw [hsame.trainingSessions]; exact hnone
  | @ended k p' _ _ _ hsessions =>
      rw [hsessions]
      by_cases hk : id = k
      · rw [hk, AList.lookup_erase]
      · rw [AList.lookup_erase_ne hk, hnone]
  | recorded =>
      rw [TaskProvisioner.lookup_recordTask]
      split
      · rename_i hid
        rw [← hid, hnone, Option.map_none]
      · exact hnone
  | _ => exact hnone

/-- A listed task stays listed unless its session is ended. -/
theorem stays_listed (h : thread.Resumes J ω p thread' p')
    (hkind : thread.request.concernsTasks = true) {id : TrainingSessionId} {taskId : TaskId}
    {s : TrainingSession} (hs : p.trainingSessions.lookup id = some s) (ht : taskId ∈ s.tasks) :
    (∃ s', p'.trainingSessions.lookup id = some s' ∧ taskId ∈ s'.tasks) ∨
      thread' = .answered (.endSession id) (.ok .endSession) := by
  cases h with
  | keypair => cases hkind
  | inserted => cases hkind
  | built _ _ _ hsame => exact .inl ⟨s, by rw [hsame.trainingSessions]; exact hs, ht⟩
  | failed hsame => exact .inl ⟨s, by rw [hsame.trainingSessions]; exact hs, ht⟩
  | @ended k p' _ _ _ hsessions =>
      by_cases hk : id = k
      · rw [hk]; exact .inr rfl
      · exact .inl ⟨s, by rw [hsessions, AList.lookup_erase_ne hk]; exact hs, ht⟩
  | @recorded request t =>
      left
      rw [TaskProvisioner.lookup_recordTask]
      split
      · rename_i hid
        exact ⟨{ s with tasks := s.tasks ++ [t] }, by rw [← hid, hs, Option.map_some],
          List.mem_append_left _ ht⟩
      · exact ⟨s, hs, ht⟩
  | _ => exact .inl ⟨s, hs, ht⟩

/-- A session that was ended is gone. -/
theorem ends {id : TrainingSessionId}
    (h : thread.Resumes J ω p (.answered (.endSession id) (.ok .endSession)) p') :
    p'.trainingSessions.lookup id = none := by
  generalize hthread : Thread.answered _ _ = thread' at h
  cases h with
  | ended _ _ _ hsessions =>
      cases hthread
      rw [hsessions, AList.lookup_erase]
  | failed =>
      injection hthread with _ hanswer
      cases hanswer
  | _ => cases hthread

/-- A round that was accepted has its task listed. -/
theorem accepts {request : StartRoundRequest} {taskId : TaskId}
    (h : thread.Resumes J ω p (.answered (.startRound request) (.ok .startRound)) p')
    (hlive : thread.KeepsLive p)
    (hdecode : taskIdFromString request.taskIdEncoded = .ok taskId) :
    ∃ s, p'.trainingSessions.lookup request.trainingSessionId = some s ∧ taskId ∈ s.tasks := by
  generalize hthread : Thread.answered _ _ = thread' at h
  cases h with
  | @recorded request' taskId' =>
      cases hthread
      obtain ⟨hdecode', hsome⟩ := hlive
      obtain rfl := Except.ok.inj (hdecode.symm.trans hdecode')
      obtain ⟨s, hs⟩ := Option.isSome_iff_exists.mp hsome
      refine ⟨{ s with tasks := s.tasks ++ [taskId] }, ?_, by simp⟩
      rw [TaskProvisioner.lookup_recordTask, if_pos rfl, hs, Option.map_some]
  | failed =>
      injection hthread with _ hanswer
      cases hanswer
  | _ => cases hthread

end Resumes

end Thread

namespace Manager

variable {J : Janus} {m m' : Manager}

theorem KeepsTasks.step (hm : m.KeepsTasks) {a : Nat × Ambient}
    (h : m.step J (.resume a.1 a.2) = some m') : m'.KeepsTasks := by
  have hexclusive := hm.exclusive.step h
  obtain ⟨thread, thread', hr⟩ := step_resume h
  obtain ⟨k, ω⟩ := a
  have hkind := hm.kinds k thread hr.get
  have hlive := hm.live k thread hr.get
  -- a thread that is not resumed is still where it was
  have hold : ∀ {i : Nat} {t : Thread}, m'.threads[i]? = some t →
      (i = k ∧ t = thread') ∨ m.threads[i]? = some t := by
    intro i t hi
    rw [hr.threads] at hi
    exact (getElem?_set hi).imp id And.right
  have hstill : ∀ {i : Nat} {t : Thread}, m.threads[i]? = some t → t.finished = true →
      m'.threads[i]? = some t := by
    intro i t hi ht
    have hne : k ≠ i := by
      rintro rfl
      obtain rfl := Option.some.inj (hr.get.symm.trans hi)
      have hrunning := hr.running
      rw [ht] at hrunning; cases hrunning
    rw [hr.threads, List.getElem?_set_ne hne]
    exact hi
  constructor
  case exclusive => exact hexclusive
  case kinds =>
    intro i t hi
    rcases hold hi with ⟨-, rfl⟩ | hi
    · rw [hr.resumes.request_eq]; exact hkind
    · exact hm.kinds i t hi
  case live =>
    intro i t hi
    rw [hr.threads] at hi
    rcases getElem?_set hi with ⟨-, rfl⟩ | ⟨hik, hi⟩
    · exact hr.resumes.keepsLive hlive
    · refine (hm.live i t hi).mono fun hholds => ?_
      exact (hr.sameTables hm.exclusive hik hi hholds).trainingSessions
  case ended =>
    rintro id ⟨i, hi⟩
    rcases hold hi with ⟨-, rfl⟩ | hi
    · exact hr.resumes.ends
    · exact hr.resumes.stays_ended hkind (hm.ended id ⟨i, hi⟩)
  case accepted =>
    rintro i id taskId ⟨request, hi, hid, hdecode⟩
    rcases hold hi with ⟨-, rfl⟩ | hi
    · rw [← hid]
      exact .inl (hr.resumes.accepts hlive hdecode)
    · rcases hm.accepted i id taskId ⟨request, hi, hid, hdecode⟩ with ⟨s, hs, ht⟩ | ⟨j, hj⟩
      · rcases hr.resumes.stays_listed hkind hs ht with hlists | rfl
        · exact .inl hlists
        · exact .inr ⟨k, hr.get'⟩
      · exact .inr ⟨j, hstill hj rfl⟩

theorem keepsTasks_start {requests : List Request}
    (hkinds : requests.all Request.concernsTasks = true) (p : TaskProvisioner) :
    KeepsTasks ⟨p, requests.map .arrived⟩ := by
  have harrived : ∀ {i : Nat} {t : Thread}, (requests.map Thread.arrived)[i]? = some t →
      ∃ request ∈ requests, t = .arrived request := by
    intro i t hi
    obtain ⟨request, hmem, rfl⟩ := List.mem_map.mp (List.mem_of_getElem? hi)
    exact ⟨request, hmem, rfl⟩
  constructor
  case exclusive =>
    intro i j ti tj hi _ hti
    obtain ⟨request, -, rfl⟩ := harrived hi
    cases hti
  case kinds =>
    intro i t hi
    obtain ⟨request, hmem, rfl⟩ := harrived hi
    exact List.all_eq_true.mp hkinds request hmem
  case live =>
    intro i t hi
    obtain ⟨request, -, rfl⟩ := harrived hi
    trivial
  case accepted =>
    rintro i id taskId ⟨request, hi, -⟩
    obtain ⟨_, -, heq⟩ := harrived hi
    cases heq
  case ended =>
    rintro id ⟨i, hi⟩
    obtain ⟨_, -, heq⟩ := harrived hi
    cases heq

/-- Any interleaving of rounds, ends and lookups, run until all are answered, has
the answers and the final state of running them in some order, each with what its
own pieces met. No accepted task is lost but with its session, an ended session
stays away, and no round records into one. -/
theorem rounds_serializable {p : TaskProvisioner} {requests : List Request}
    (hkinds : requests.all Request.concernsTasks = true) {as : List (Nat × Ambient)}
    (hrun : Run.after (Manager.step J) ⟨p, requests.map .arrived⟩
      (as.map fun a => .resume a.1 a.2) = some m')
    (hfinished : m'.threads.all Thread.finished = true) :
    (∃ order : List (Nat × Ambient),
      (order.map Prod.fst).Perm (List.range requests.length) ∧
      (∀ i ω, (i, ω) ∈ order → Ambient.ofTurns (Guard.turns as i) = some ω) ∧
      (p.answerAll J requests order).2 = m'.provisioner ∧
      ∀ i answer, (i, answer) ∈ (p.answerAll J requests order).1 ↔
        ∃ request, m'.threads[i]? = some (.answered request answer)) ∧
    (∀ i id taskId, m'.Accepted i id taskId → m'.Lists id taskId ∨ m'.Ended id) ∧
    (∀ id, m'.Ended id → m'.provisioner.trainingSessions.lookup id = none) ∧
    Run.Throughout (Manager.step J) RecordsLive ⟨p, requests.map .arrived⟩
      (as.map fun a => .resume a.1 a.2) := by
  have hguarded : Run.after (Thread.discipline J).step
      (guarded ⟨p, requests.map .arrived⟩) as = some m'.guarded := by
    rw [Run.after_relabel] at hrun
    exact Run.after_image guarded (fun _ _ _ h => guarded_step h) hrun
  have hstart := keepsTasks_start hkinds p
  have hkeeps : ∀ {bs : List (Nat × Ambient)} {m₁ : Manager},
      Run.after (Manager.step J) ⟨p, requests.map .arrived⟩
        (bs.map fun a => .resume a.1 a.2) = some m₁ → m₁.KeepsTasks := by
    intro bs m₁ hrun
    rw [Run.after_relabel] at hrun
    exact Run.invariant (fun _ _ _ h hstep => h.step hstep) hstart hrun
  refine ⟨?_, (hkeeps hrun).accepted, (hkeeps hrun).ended, ?_⟩
  · have hfresh : ∀ t ∈ requests.map Thread.arrived,
        t.finished = false ∧ t.holdsGuard = false := by
      intro t ht
      obtain ⟨request, -, rfl⟩ := List.mem_map.mp ht
      exact ⟨rfl, rfl⟩
    have hgood : ∀ t ∈ requests.map Thread.arrived, t.request.concernsTasks = true := by
      intro t ht
      obtain ⟨i, hi⟩ := List.mem_iff_getElem?.mp ht
      exact hstart.kinds i t hi
    obtain ⟨done, hserial, hperm, hdone⟩ := Guard.Discipline.serializable_logged
      (Thread.oneSection J) hgood hfresh hguarded (List.all_eq_true.mp hfinished)
    rw [guarded, List.map_map] at hserial
    obtain ⟨order, hfst, hmet, hstate, hanswers⟩ := answerAll_of_serial hserial
    refine ⟨order, ?_, fun i ω hmem => ?_, hstate, fun i answer => ?_⟩
    · rw [hfst]
      simpa [guarded] using hperm
    · obtain ⟨thread, turns, hmem, hω⟩ := hmet i ω hmem
      rw [← ((hdone i thread turns).mp hmem).2]
      exact hω
    · rw [hanswers]
      constructor
      · rintro ⟨request, turns, hmem⟩
        exact ⟨request, ((hdone i _ turns).mp hmem).1⟩
      · rintro ⟨request, hget⟩
        exact ⟨request, _, (hdone i _ _).mpr ⟨hget, rfl⟩⟩
  · intro pre post m₁ hsplit hpre i request taskId hi
    obtain ⟨pre', post', rfl, rfl, rfl⟩ := List.map_eq_append_iff.mp hsplit
    exact ((hkeeps hpre).live i _ hi).2

end Manager

namespace Sample

/-- Two rounds, a lookup and the end of the session 5. -/
def taskRequests : List Request :=
  [.startRound (startRequest ⟨5⟩ (taskId 1)), .startRound (startRequest ⟨5⟩ (taskId 2)),
   .getVdafParameter ⟨taskIdToString (taskId 2)⟩, .endSession ⟨5⟩]

/-- The lookup starts during the second round and goes on after it. The transaction
of the first round fails. -/
def interleaving : List (Nat × Ambient) :=
  [1, 2, 1, 1, 0].map (fun i => (i, ambient 0)) ++
    (0, { ambient 0 with transaction := .error (.anyhow "conflict") }) ::
      [2, 3].map fun i => (i, ambient 0)

end Sample

theorem Manager.rounds_serializable_sample :
    ∃ m', Run.after (Manager.step .plain)
        ⟨Sample.provisionerWithSession, Sample.taskRequests.map .arrived⟩
        (Sample.interleaving.map fun a => .resume a.1 a.2) = some m' ∧
      ∃ order : List (Nat × Ambient), (order.map Prod.fst).Perm (List.range 4) ∧
        (∀ i ω, (i, ω) ∈ order → Ambient.ofTurns (Guard.turns Sample.interleaving i) = some ω) ∧
        (Sample.provisionerWithSession.answerAll .plain Sample.taskRequests order).2 =
          m'.provisioner := by
  have hfinished : (Run.after (Manager.step .plain)
      ⟨Sample.provisionerWithSession, Sample.taskRequests.map .arrived⟩
      (Sample.interleaving.map fun a => .resume a.1 a.2)).map
        (fun m' => m'.threads.all Thread.finished) = some true := by
    decide +kernel
  obtain ⟨m', hrun, hall⟩ := Option.map_eq_some_iff.mp hfinished
  obtain ⟨⟨order, hperm, hmet, hstate, -⟩, -⟩ :=
    Manager.rounds_serializable (by decide) hrun hall
  exact ⟨m', hrun, order, hperm, hmet, hstate⟩
