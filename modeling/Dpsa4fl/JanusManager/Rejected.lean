-- SUMMARY: A rejected request leaves no trace: every run is, for all others, the run in which it was never sent.
import Dpsa4fl.JanusManager.Erasing

/-!
# Rejected requests

The handlers have about a dozen failing exits, and all of them lie before the
first write. So a thread that ends in an error has only printed something, and
it can be erased from any run, however the run goes on.
-/

open Handler Relational

/-- The handler of the thread has written nothing so far. If it is answered, then
with an error. -/
def Thread.mayFail : Thread → Bool
  | arrived _ => true
  | keyring _ _ _ => true
  | transaction _ _ _ => true
  | lookup _ _ => true
  | answered _ (.error _) => true
  | _ => false

namespace Thread

variable {J : Janus} {ω : Ambient} {p p' : TaskProvisioner} {thread thread' : Thread}

/-- A thread that has written something never fails. -/
theorem mayFail_of_resume (hrunning : thread.finished = false)
    (h : (thread.resume J ω p).1.mayFail = true) : thread.mayFail = true := by
  cases thread with
  | insert request id session => cases h
  | record request taskId => cases h
  | answered request answer => cases hrunning
  | dropped request => cases hrunning
  | _ => rfl

/-- Up to then, a thread only prints. -/
theorem printed_of_mayFail (h : (thread.resume J ω p).1.mayFail = true) :
    p.Printed (thread.resume J ω p).2 := by
  unfold resume at h ⊢
  cases hpiece : (thread.piece J ω).run p with
  | error e p₁ => exact piece_failed hpiece
  | ok thread₁ p₁ =>
      rw [hpiece] at h
      cases thread with
      | arrived request =>
          cases request with
          | createSession request =>
              exact ((within_createSessionStart J ω request).bind fun _ => .pure _).ok hpiece
          | endSession id =>
              obtain ⟨_, _, -, hret⟩ := run_bind_ok.mp hpiece
              cases hret
              cases h
          | startRound request =>
              exact ((within_startRoundTask J ω request).bind fun _ => .pure _).ok hpiece
          | getVdafParameter request =>
              exact ((within_orReturn _).bind fun _ => .pure _).ok hpiece
          | getMainLocations => cases hpiece; cases h
      | keyring request id secrets =>
          obtain ⟨_, _, -, hret⟩ := run_bind_ok.mp hpiece
          cases hret
          cases h
      | insert request id session => cases hpiece; cases h
      | transaction request taskId task =>
          obtain ⟨_, _, -, hret⟩ := run_bind_ok.mp hpiece
          cases hret
          cases h
      | record request taskId => cases hpiece; cases h
      | lookup request taskId =>
          exact ((within_lookupVdafParameter taskId).bind fun _ => .pure _).ok hpiece
      | answered request answer => cases hpiece; rfl
      | dropped request => cases hpiece; rfl

end Thread

namespace Manager

variable {J : Janus} {m m' : Manager} {rejected : Nat → Bool}

/-- The request with this number was answered with an error. -/
def Rejected (m : Manager) (i : Nat) : Prop :=
  ∃ request failure, m.threads[i]? = some (.answered request (.error failure))

/-- Of these threads, those that exist have written nothing so far. -/
def MayFail (rejected : Nat → Bool) (m : Manager) : Prop :=
  ∀ (i : Nat) (thread : Thread), rejected i = true → m.threads[i]? = some thread →
    thread.mayFail = true

theorem mayFail_of_rejected (h : ∀ i, rejected i = true → m.Rejected i) : m.MayFail rejected := by
  intro i thread hi hget
  obtain ⟨request, failure, hthread⟩ := h i hi
  rw [hthread] at hget
  cases hget
  rfl

/-- What has written nothing after a step had written nothing before it. -/
theorem MayFail.back {a : Action} (h : m.step J a = some m') (hm' : m'.MayFail rejected) :
    m.MayFail rejected := by
  intro i thread hi hget
  obtain ⟨hlt, -⟩ := List.getElem?_eq_some_iff.mp hget
  have hdropped : (dropThread thread).mayFail = true → thread.mayFail = true := by
    rcases dropThread_cases thread with heq | heq
    · rw [heq]; exact id
    · rw [heq]; intro h; cases h
  cases a with
  | send request =>
      cases h
      exact hm' i thread hi ((List.getElem?_append_left hlt).trans hget)
  | resume k ω =>
      obtain ⟨t, hk, hrunning, -, rfl⟩ := step_resume_eq h
      by_cases hik : k = i
      · subst hik
        obtain rfl := Option.some.inj (hk.symm.trans hget)
        exact Thread.mayFail_of_resume hrunning (hm' k _ hi (List.getElem?_set_self hlt))
      · exact hm' i thread hi ((List.getElem?_set_ne hik).trans hget)
  | drop k =>
      obtain ⟨t, hk, rfl⟩ := step_drop h
      by_cases hik : k = i
      · subst hik
        obtain rfl := Option.some.inj (hk.symm.trans hget)
        exact hdropped (hm' k _ hi (List.getElem?_set_self hlt))
      · exact hm' i thread hi ((List.getElem?_set_ne hik).trans hget)
  | restart =>
      cases h
      exact hdropped (hm' i _ hi (by rw [List.getElem?_map, hget, Option.map_some]))

/-- A step of such a thread only prints. -/
theorem MayFail.printed {i : Nat} {ω : Ambient} (h : m.step J (.resume i ω) = some m')
    (hi : rejected i = true) (hm' : m'.MayFail rejected) :
    m.provisioner.Printed m'.provisioner := by
  obtain ⟨thread, hget, -, -, rfl⟩ := step_resume_eq h
  obtain ⟨hlt, -⟩ := List.getElem?_eq_some_iff.mp hget
  exact Thread.printed_of_mayFail (hm' i _ hi (List.getElem?_set_self hlt))

/-- The step, if it is one of these threads, only prints. -/
def PrintsOnly (J : Janus) (rejected : Nat → Bool) (m : Manager) (a : Action) : Prop :=
  ∀ i ω m', a = .resume i ω → rejected i = true → m.step J a = some m' →
    m.provisioner.Printed m'.provisioner

/-- In a run after which the threads have written nothing, each of their steps
only prints. -/
theorem MayFail.printsOnly {as : List Action} (hrun : Run.after (Manager.step J) m as = some m')
    (hm' : m'.MayFail rejected) : Run.Along (Manager.step J) (PrintsOnly J rejected) m as := by
  refine (Run.along_of (P := fun _ => True) (D := fun _ _ => True) (fun _ _ _ _ _ _ => trivial)
    (fun _ _ _ hstep h => h.back hstep) ?_ trivial hrun
    (Run.along_trivial (fun _ _ => trivial) m as) hm').2
  rintro m₁ _ m₂ - - hstep hm₂ i ω m₃ rfl hi hstep'
  obtain rfl := Option.some.inj (hstep.symm.trans hstep')
  exact MayFail.printed hstep hi hm₂

/-- Take any requests that were rejected in a run of a manager. None of their
steps did more than print. The run without them is a run as well, and in it
every other request has the same answer, and the manager the same sessions,
tasks and key pairs. -/
theorem rejection_invisible {datastore : Datastore} {config : TaskProvisionerConfig}
    {as : List Action} (hrun : Run.after (Manager.step J) (.new datastore config) as = some m')
    (hrejected : ∀ i, rejected i = true → m'.Rejected i) :
    Run.Along (Manager.step J) (PrintsOnly J rejected) (.new datastore config) as ∧
    ∃ m₀, Run.after (Manager.step J) (.new datastore config) (Action.without rejected 0 as) =
        some m₀ ∧
      m₀.threads = Erasure.without rejected m'.threads ∧
      m₀.provisioner.datastore = m'.provisioner.datastore ∧
      m₀.provisioner.keyring = m'.provisioner.keyring ∧
      ∀ id, m₀.provisioner.trainingSessions.lookup id =
        m'.provisioner.trainingSessions.lookup id := by
  have hprints := MayFail.printsOnly hrun (mayFail_of_rejected hrejected)
  have htraceless : Run.Along (Manager.step J) (Traceless J Eq rejected) (.new datastore config) as :=
    hprints.mono fun m a h i ω m' ha hi hstep => (h i ω m' ha hi hstep).alike indistinct_eq
  have hstart : Erases Eq rejected (.new datastore config) (.new datastore config) :=
    .refl indistinct_eq fun i hi => by simp [Manager.new] at hi
  obtain ⟨m₀, hrun₀, herases⟩ := hstart.run indistinct_eq hrun htraceless
  exact ⟨hprints, m₀, hrun₀, herases.threads, herases.provisioner.datastore,
    herases.provisioner.keyring, herases.provisioner.lookup_eq⟩

end Manager

namespace Sample

/-- A session is created. Then a round for a session that does not exist is
requested, and interleaved with it an accepted round and its lookup. -/
def runWithRejection : List Manager.Action :=
  [.send (.createSession (createRequest (some ⟨5⟩) [1])), .resume 0 (ambient 0),
   .resume 0 (ambient 0), .resume 0 (ambient 0),
   .send (.startRound (startRequest ⟨6⟩ (taskId 1))),
   .send (.startRound (startRequest ⟨5⟩ (taskId 1))), .resume 2 (ambient 0),
   .resume 2 (ambient 0), .resume 2 (ambient 0), .resume 1 (ambient 0),
   .send (.getVdafParameter ⟨taskIdToString (taskId 1)⟩), .resume 3 (ambient 0),
   .resume 3 (ambient 0)]

def rejectedRequest (i : Nat) : Bool := i == 1

end Sample

theorem Manager.rejection_invisible_sample :
    ∃ m', Run.after (Manager.step .plain) (.new ∅ Sample.config) Sample.runWithRejection = some m' ∧
      m'.threads.length = 4 ∧
      ∃ m₀, Run.after (Manager.step .plain) (.new ∅ Sample.config)
          (Action.without Sample.rejectedRequest 0 Sample.runWithRejection) = some m₀ ∧
        m₀.threads = Erasure.without Sample.rejectedRequest m'.threads := by
  have hruns : (Run.after (Manager.step .plain) (.new ∅ Sample.config)
      Sample.runWithRejection).map (fun m' => (m'.threads.length, m'.threads[1]?)) =
        some (4, some (.answered (.startRound (Sample.startRequest ⟨6⟩ (Sample.taskId 1)))
          (.error (.err (.anyhow "There is no training session with id 6"))))) := by
    decide +kernel
  obtain ⟨m', hrun, hpair⟩ := Option.map_eq_some_iff.mp hruns
  obtain ⟨hlength, hthread⟩ := Prod.mk.inj hpair
  have hrejected : ∀ i, Sample.rejectedRequest i = true → m'.Rejected i := by
    intro i hi
    cases beq_iff_eq.mp hi
    exact ⟨_, _, hthread⟩
  obtain ⟨-, m₀, hrun₀, hthreads, -⟩ := Manager.rejection_invisible hrun hrejected
  exact ⟨m', hrun, hlength, m₀, hrun₀, hthreads⟩
