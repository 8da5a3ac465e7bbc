-- SUMMARY: Which batch intervals a controller asks for, which reports they cover, and when two of them overlap.
import Dpsa4fl.Controller.Collect
import Dpsa4fl.Client.StateMachine
import Dpsa4fl.JanusManager.HandlerSpecs

/-!
# Batch intervals

The interval of a collection depends on its time only: it starts five slots
before the slot of that time and is fifteen slots long, where a slot has the
length of the time precision.
-/

/-- The interval that is asked for by a collection at the time `c`. -/
def batchInterval (T : JanusTime) (build : Build) (c : UInt64) : Except Failure BatchInterval := do
  let realStart ← batchStart build c
  ((T.newInterval realStart batchDuration).mapError Error.janus).mapError .err

/-! ## The start and the end -/

section
variable {T : JanusTime} {build : Build} {c : UInt64}

theorem toNat_roundedStart (c : UInt64) :
    (c / .ofNat TIME_PRECISION * .ofNat TIME_PRECISION).toNat = c.toNat / 3600 * 3600 := by
  have hprecision : (UInt64.ofNat TIME_PRECISION).toNat = 3600 := rfl
  have hc := c.toNat_lt
  rw [UInt64.toNat_mul, UInt64.toNat_div, hprecision]
  omega

theorem toNat_fiveSlots : (UInt64.ofNat TIME_PRECISION * 5).toNat = 18000 := rfl

theorem toNat_batchDuration : batchDuration.toNat = 54000 := rfl

/-- The subtraction does not underflow five hours after the epoch or later. -/
theorem fiveSlots_le_iff : (UInt64.ofNat TIME_PRECISION * 5 ≤
    c / .ofNat TIME_PRECISION * .ofNat TIME_PRECISION) ↔ 5 ≤ c.toNat / 3600 := by
  rw [UInt64.le_iff_toNat_le, toNat_roundedStart, toNat_fiveSlots]
  omega

theorem batchStart_of_le (build : Build) (h : 5 ≤ c.toNat / 3600) :
    ∃ start, batchStart build c = .ok start ∧ start.toNat = (c.toNat / 3600 - 5) * 3600 := by
  have hle := fiveSlots_le_iff.mpr h
  refine ⟨c / .ofNat TIME_PRECISION * .ofNat TIME_PRECISION - .ofNat TIME_PRECISION * 5, ?_, ?_⟩
  · cases build with
    | debug => simp only [batchStart, Build.sub, if_pos hle]
    | release => rfl
  · rw [UInt64.toNat_sub_of_le _ _ hle, toNat_roundedStart, toNat_fiveSlots]
    omega

theorem not_fiveSlots_le (h : c.toNat / 3600 < 5) : ¬ (UInt64.ofNat TIME_PRECISION * 5 ≤
    c / .ofNat TIME_PRECISION * .ofNat TIME_PRECISION) := by
  rw [fiveSlots_le_iff]
  omega

theorem batchStart_debug_of_lt (h : c.toNat / 3600 < 5) :
    batchStart .debug c = .error (.panic "attempt to subtract with overflow") := by
  rw [batchStart, Build.sub, if_neg (not_fiveSlots_le h)]

/-- A start that has wrapped around lies within five hours of the last time. -/
theorem batchStart_of_lt {start : UInt64} (h : c.toNat / 3600 < 5)
    (hstart : batchStart build c = .ok start) : 2 ^ 64 ≤ start.toNat + 18000 := by
  cases build with
  | debug =>
      rw [batchStart_debug_of_lt h] at hstart
      cases hstart
  | release =>
      cases hstart
      rw [UInt64.toNat_sub, toNat_roundedStart, toNat_fiveSlots]
      simp only [Nat.reducePow, Nat.reduceSub]
      rw [Nat.mod_eq_of_lt (by omega)]
      omega

/-- An interval is asked for in all but the first five hours and the last ten. -/
theorem batchInterval_eq_ok (hT : T.Faithful) {interval : BatchInterval} :
    batchInterval T build c = .ok interval ↔
      5 ≤ c.toNat / 3600 ∧ (c.toNat / 3600 + 10) * 3600 < 2 ^ 64 ∧
        interval.start.toNat = (c.toNat / 3600 - 5) * 3600 ∧ interval.duration = batchDuration := by
  constructor
  · intro h
    cases hstart : batchStart build c with
    | error failure =>
        rw [batchInterval, hstart] at h
        cases h
    | ok start =>
        simp only [batchInterval, hstart] at h
        have hnew : T.newInterval start batchDuration = .ok interval :=
          Except.mapError_eq_ok.mp (Except.mapError_eq_ok.mp h)
        obtain ⟨hend, rfl⟩ := hT.newInterval_eq_ok.mp hnew
        rw [toNat_batchDuration] at hend
        by_cases hc : 5 ≤ c.toNat / 3600
        · obtain ⟨start', hstart', hnat⟩ := batchStart_of_le build hc
          obtain rfl : start = start' := Except.ok.inj (hstart.symm.trans hstart')
          exact ⟨hc, by omega, hnat, rfl⟩
        · have := batchStart_of_lt (Nat.not_le.mp hc) hstart
          omega
  · rintro ⟨hc, hend, hinterval, hduration⟩
    obtain ⟨start, hstart, hnat⟩ := batchStart_of_le build hc
    have hsum : start.toNat + batchDuration.toNat < 2 ^ 64 := by
      rw [hnat, toNat_batchDuration]
      omega
    have heq : interval = ⟨start, batchDuration⟩ := by
      cases interval
      simp only [BatchInterval.mk.injEq]
      exact ⟨UInt64.toNat_inj.mp (hinterval.trans hnat.symm), hduration⟩
    have hnew : T.newInterval start batchDuration = .ok interval :=
      hT.newInterval_eq_ok.mpr ⟨hsum, heq⟩
    rw [batchInterval, hstart]
    exact Except.mapError_eq_ok.mpr (Except.mapError_eq_ok.mpr hnew)

end

/-! ## Queries -/

section
variable {κ : Type} {J : Janus} {T : JanusTime} {build : Build}
  {es : List (Script.Exchange CollectOp (CollectAns κ))}

/-- A program that has made an exchange has come past every check before it. -/
theorem follows_lift {α β : Type} {result : Except Failure α} {f : α → Collecting κ β}
    {m' : Collecting κ β} {e : Script.Exchange CollectOp (CollectAns κ)}
    (h : Script.Follows (Collecting.lift result >>= f) es m') (he : e ∈ es) :
    ∃ a, result = .ok a ∧ Script.Follows (f a) es m' := by
  cases result with
  | ok a => exact ⟨a, rfl, h⟩
  | error failure =>
      rw [(Script.Follows.fail_iff.mp h).1] at he
      cases he

theorem follows_orReturn {α β : Type} {result : Except Error α} {f : α → Collecting κ β}
    {m' : Collecting κ β} {e : Script.Exchange CollectOp (CollectAns κ)}
    (h : Script.Follows (Collecting.orReturn result >>= f) es m') (he : e ∈ es) :
    ∃ a, result = .ok a ∧ Script.Follows (f a) es m' := by
  obtain ⟨a, hresult, h⟩ := follows_lift h he
  exact ⟨a, Except.mapError_eq_ok.mp hresult, h⟩

theorem eq_nil_of_follows_orReturn {α : Type} {result : Except Error α} {m' : Collecting κ α}
    (h : Script.Follows (Collecting.orReturn result) es m') : es = [] := by
  cases result with
  | ok a => exact (Script.Follows.ret_iff.mp h).1
  | error e => exact (Script.Follows.fail_iff.mp h).1

/-- A program that starts with an operation has made it first. -/
theorem follows_perform {β : Type} {op : CollectOp} {f : CollectAns κ op → Collecting κ β}
    {m' : Collecting κ β} {e : Script.Exchange CollectOp (CollectAns κ)}
    (h : Script.Follows (Script.perform op >>= f) es m') (he : e ∈ es) :
    ∃ r es', es = ⟨op, r⟩ :: es' ∧ Script.Follows (f r) es' m' ∧ (e = ⟨op, r⟩ ∨ e ∈ es') := by
  rw [Script.perform_bind, Script.Follows.call_iff] at h
  rcases h with ⟨rfl, -⟩ | ⟨r, es', rfl, h⟩
  · cases he
  · exact ⟨r, es', rfl, h, List.mem_cons.mp he⟩

/-- A query is issued once the clock was read, for the interval of that time. -/
theorem follows_collectGeneric {Fx : Type} [CompatibleFloat Fx] {client : JanusManagerClient}
    {taskId : TaskId} {m' : Collecting κ κ} {collector : Collector} {interval : BatchInterval}
    {r : Except Error κ}
    (h : Script.Follows (client.collectGeneric J T build Fx taskId) es m')
    (hmem : ⟨.collect collector interval, r⟩ ∈ es) :
    ∃ c, es = [⟨.newCollector collector, .ok ()⟩, ⟨.elapsed, .ok c⟩,
        ⟨.collect collector interval, r⟩] ∧
      collector.taskId = taskId ∧ batchInterval T build c = .ok interval := by
  unfold JanusManagerClient.collectGeneric at h
  obtain ⟨-, -, h₁⟩ := follows_orReturn h hmem
  obtain ⟨created, es₁, rfl, h₂, heq | hmem₁⟩ := follows_perform h₁ hmem
  · cases heq
  obtain ⟨-, rfl, h₃⟩ := follows_orReturn h₂ hmem₁
  obtain ⟨elapsed, es₂, rfl, h₄, heq | hmem₂⟩ := follows_perform h₃ hmem₁
  · cases heq
  obtain ⟨c, rfl, h₅⟩ := follows_orReturn h₄ hmem₂
  obtain ⟨realStart, hstart, h₆⟩ := follows_lift h₅ hmem₂
  obtain ⟨-, -, h₇⟩ := follows_orReturn h₆ hmem₂
  obtain ⟨-, -, h₈⟩ := follows_orReturn h₇ hmem₂
  obtain ⟨interval', hnew, h₉⟩ := follows_orReturn h₈ hmem₂
  obtain ⟨result, es₃, rfl, hend, hlast⟩ := follows_perform h₉ hmem₂
  obtain rfl := eq_nil_of_follows_orReturn hend
  obtain heq | hnil := hlast
  · cases heq
    refine ⟨c, rfl, rfl, ?_⟩
    rw [batchInterval, hstart]
    exact Except.mapError_eq_ok.mpr hnew
  · cases hnil

/-- A query of `api_collect` is for the recorded task, and for the interval of the
time at which the call was made. -/
theorem follows_apiCollect {istate : ControllerStateImmut} {mstate : ControllerStateMut}
    {m' : Script CollectOp (CollectAns κ) Empty (Except Failure κ × ControllerStateMut)}
    {collector : Collector} {interval : BatchInterval} {r : Except Error κ}
    (h : Script.Follows (apiCollect J T build istate mstate) es m')
    (hmem : ⟨.collect collector interval, r⟩ ∈ es) :
    ∃ c, es = [⟨.newCollector collector, .ok ()⟩, ⟨.elapsed, .ok c⟩,
        ⟨.collect collector interval, r⟩] ∧
      mstate.round.taskId = some collector.taskId ∧ batchInterval T build c = .ok interval := by
  unfold apiCollect at h
  cases htask : mstate.round.taskId with
  | none =>
      rw [htask] at h
      rw [(Script.Follows.ret_iff.mp h).1] at hmem
      cases hmem
  | some taskId =>
      rw [htask] at h
      have hcollect : ∃ m₁, Script.Follows
          (istate.permanent.janusTasksClient.collect J T build taskId) es m₁ := by
        rcases h.of_bind with ⟨m₁, h₁, -⟩ | ⟨es₁, es₂, result, rfl, h₁, h₂⟩
        · obtain ⟨m₂, h₂, -⟩ := h₁.of_attempt
          exact ⟨m₂, h₂⟩
        · obtain ⟨rfl, -⟩ := Script.Follows.ret_iff.mp h₂
          obtain ⟨m₂, h₂, -⟩ := h₁.of_attempt
          exact ⟨m₂, by rwa [List.append_nil]⟩
      obtain ⟨m₁, hcollect⟩ := hcollect
      unfold JanusManagerClient.collect at hcollect
      split at hcollect
      · obtain ⟨c, hes, rfl, hinterval⟩ := follows_collectGeneric hcollect hmem
        exact ⟨c, hes, rfl, hinterval⟩
      · obtain ⟨c, hes, rfl, hinterval⟩ := follows_collectGeneric hcollect hmem
        exact ⟨c, hes, rfl, hinterval⟩

end

/-! ## Which reports are covered -/

/-- The collection at the time `c`, which has exchanged `es`, covers a report with
this timestamp: its start is computed without underflow, and the interval that is
asked for contains the timestamp and is aligned to the time precision of the task. -/
structure Covers {κ : Type} (T : JanusTime) (build : Build) (task : AggregatorTask)
    (timestamp c : UInt64) (es : List (Script.Exchange CollectOp (CollectAns κ))) : Prop where
  underflow : UInt64.ofNat TIME_PRECISION * 5 ≤
    c / .ofNat TIME_PRECISION * .ofNat TIME_PRECISION
  interval : ∃ interval, batchInterval T build c = .ok interval ∧
    (∀ collector i r, ⟨.collect collector i, r⟩ ∈ es → i = interval) ∧
    timestamp.toNat ∈ interval.times ∧ task.timePrecision ∣ interval.start.toNat ∧
    task.timePrecision ∣ interval.duration.toNat

section
variable {κ : Type} {J : Janus} {T : JanusTime} {build : Build} {c : UInt64}

theorem times_batchInterval (hT : T.Faithful) {interval : BatchInterval}
    (h : batchInterval T build c = .ok interval) :
    interval.times = Window.times TIME_PRECISION 5 15 c.toNat := by
  obtain ⟨-, -, hstart, hduration⟩ := (batchInterval_eq_ok hT).mp h
  have hend : (c.toNat / 3600 - 5) * 3600 + 54000 = (c.toNat / 3600 - 5 + 15) * 3600 := by omega
  rw [BatchInterval.times, hstart, hduration, toNat_batchDuration, hend]
  rfl

/-- The only time that a call reads is the one its interval is for. -/
theorem batchInterval_of_query {istate : ControllerStateImmut} {mstate : ControllerStateMut}
    {es : List (Script.Exchange CollectOp (CollectAns κ))}
    {m' : Script CollectOp (CollectAns κ) Empty (Except Failure κ × ControllerStateMut)}
    (h : Script.Follows (apiCollect J T build istate mstate) es m')
    (hclock : ⟨.elapsed, .ok c⟩ ∈ es) {collector : Collector} {interval : BatchInterval}
    {r : Except Error κ} (hmem : ⟨.collect collector interval, r⟩ ∈ es) :
    batchInterval T build c = .ok interval := by
  obtain ⟨c', rfl, -, hinterval⟩ := follows_apiCollect h hmem
  have hc : c = c' := by simpa using hclock
  rw [hc]
  exact hinterval

/-- An interval that reaches back to the time `u` is asked for. -/
theorem covers_iff (hT : T.Faithful) {task : AggregatorTask} {client : JanusClient}
    (htask : task.timePrecision = TIME_PRECISION) (hclient : client.timePrecision = 1)
    {istate : ControllerStateImmut} {mstate : ControllerStateMut}
    {es : List (Script.Exchange CollectOp (CollectAns κ))}
    {m' : Script CollectOp (CollectAns κ) Empty (Except Failure κ × ControllerStateMut)}
    (hcollect : Script.Follows (apiCollect J T build istate mstate) es m')
    (hclock : ⟨.elapsed, .ok c⟩ ∈ es) {u : UInt64} (hle : u ≤ c) :
    Covers T build task (T.reportTime client u) c es ↔
      5 ≤ c.toNat / TIME_PRECISION ∧ (c.toNat / TIME_PRECISION + 10) * TIME_PRECISION < 2 ^ 64 ∧
        (c.toNat / TIME_PRECISION - 5) * TIME_PRECISION ≤ u.toNat := by
  have hreport : (T.reportTime client u).toNat = u.toNat := by
    rw [hT.reportTime_eq, hclient, Nat.div_one, Nat.mul_one]
  have hmem : u.toNat ∈ Window.times TIME_PRECISION 5 15 c.toNat ↔
      (c.toNat / TIME_PRECISION - 5) * TIME_PRECISION ≤ u.toNat :=
    Window.mem_times_iff (by decide) (by decide) (UInt64.le_iff_toNat_le.mp hle)
  constructor
  · rintro ⟨-, interval, hinterval, -, htimes, -⟩
    obtain ⟨hc, hend, -⟩ := (batchInterval_eq_ok hT).mp hinterval
    rw [times_batchInterval hT hinterval, hreport, hmem] at htimes
    exact ⟨hc, hend, htimes⟩
  · rintro ⟨hc, hend, hu⟩
    have hinterval : batchInterval T build c = .ok
        ⟨.ofNat ((c.toNat / 3600 - 5) * 3600), batchDuration⟩ := by
      refine (batchInterval_eq_ok hT).mpr ⟨hc, hend, UInt64.toNat_ofNat_of_lt' ?_, rfl⟩
      have hbound := c.toNat_lt
      simp only [UInt64.size]
      omega
    obtain ⟨-, -, hstart, hduration⟩ := (batchInterval_eq_ok hT).mp hinterval
    refine ⟨fiveSlots_le_iff.mpr hc, _, hinterval, fun collector i r hquery => ?_, ?_, ?_, ?_⟩
    · have := batchInterval_of_query hcollect hclock hquery
      exact (Except.ok.inj (hinterval.symm.trans this)).symm
    · rw [times_batchInterval hT hinterval, hreport, hmem]
      exact hu
    · rw [hstart, htask]
      exact Nat.dvd_mul_left _ _
    · rw [hduration, htask]
      exact ⟨15, rfl⟩

/-- A round that is collected within five hours of its start leaves no report out. -/
theorem covers_of_short_round (hT : T.Faithful) {task : AggregatorTask} {client : JanusClient}
    (htask : task.timePrecision = TIME_PRECISION) (hclient : client.timePrecision = 1)
    {istate : ControllerStateImmut} {mstate : ControllerStateMut}
    {es : List (Script.Exchange CollectOp (CollectAns κ))}
    {m' : Script CollectOp (CollectAns κ) Empty (Except Failure κ × ControllerStateMut)}
    (hcollect : Script.Follows (apiCollect J T build istate mstate) es m')
    (hclock : ⟨.elapsed, .ok c⟩ ∈ es) {start u : UInt64} (hu : start ≤ u) (hle : u ≤ c)
    (hshort : c.toNat ≤ start.toNat + 5 * TIME_PRECISION) (hc : 5 ≤ c.toNat / TIME_PRECISION)
    (hend : (c.toNat / TIME_PRECISION + 10) * TIME_PRECISION < 2 ^ 64) :
    Covers T build task (T.reportTime client u) c es := by
  refine (covers_iff hT htask hclient hcollect hclock hle).mpr ⟨hc, hend, ?_⟩
  have hstart := UInt64.le_iff_toNat_le.mp hu
  simp only [TIME_PRECISION] at hshort hc ⊢
  omega

theorem TrainingSession.Builds.timePrecision (hJ : J.Faithful) {s : TrainingSession}
    {config : TaskProvisionerConfig} {taskId : TaskId} {task : AggregatorTask}
    (h : s.Builds J config taskId task) : task.timePrecision = TIME_PRECISION := by
  obtain ⟨params, -, hnew⟩ := h
  rw [hJ.newAggregatorTask_eq hnew]
  rfl

/-- A report that is uploaded to a round at the time `u` is covered by the collection
at the time `c` if and only if `c` is not in the first five hours of time, the
interval ends before the last time, and `u` is at most five hours before the hour of `c`. -/
theorem report_covered_iff (hJ : J.Faithful) (hT : T.Faithful) {s : TrainingSession}
    {config : TaskProvisionerConfig} {taskId : TaskId} {task : AggregatorTask}
    (htask : s.Builds J config taskId task) {state : ClientState} {data : VecFixedAny}
    {es : List Exchange} {m : Net Unit}
    (hsubmit : Script.Follows (state.getSubmissionResult J data) es m) {client : JanusClient}
    {measurement : VecFixedAny} (hupload : (⟨.upload client measurement, .ok ()⟩ : Exchange) ∈ es)
    {istate : ControllerStateImmut} {mstate : ControllerStateMut}
    {es' : List (Script.Exchange CollectOp (CollectAns κ))}
    {m' : Script CollectOp (CollectAns κ) Empty (Except Failure κ × ControllerStateMut)}
    (hcollect : Script.Follows (apiCollect J T build istate mstate) es' m')
    (hclock : ⟨.elapsed, .ok c⟩ ∈ es') {u : UInt64} (hle : u ≤ c) :
    Covers T build task (T.reportTime client u) c es' ↔
      5 ≤ c.toNat / TIME_PRECISION ∧ (c.toNat / TIME_PRECISION + 10) * TIME_PRECISION < 2 ^ 64 ∧
        (c.toNat / TIME_PRECISION - 5) * TIME_PRECISION ≤ u.toNat := by
  have hclient := (state.getSubmissionResult_uploads data).of_follows hsubmit _ hupload _ _ rfl
  exact covers_iff hT (htask.timePrecision hJ) hclient.timePrecision hcollect hclock hle

end

namespace Sample

/-- A controller whose managers are those of the samples. -/
def collecting : ControllerStateImmut := ⟨⟨⟨⟨url, url⟩, ⟨url, url⟩⟩, vdafParameter⟩, ⟨client⟩⟩

def startedRound : ControllerStateMut := ⟨⟨some (taskId 1), some ⟨5⟩⟩⟩

/-- The exchanges of a collection at the time `c`. -/
def collected (c : UInt64) : List (Script.Exchange CollectOp (CollectAns Unit)) :=
  let collector : Collector :=
    ⟨taskId 1, url, .bearer [97, 98, 99], ⟨hpkeConfig, []⟩, ⟨.fixedType16Bit, 2, 2⟩⟩
  [⟨.newCollector collector, .ok ()⟩, ⟨.elapsed, .ok c⟩,
    ⟨.collect collector ⟨(c / 3600 - 5) * 3600, 54000⟩, .ok ()⟩]

theorem follows_collected {c : UInt64} (hc : c ∈ [100000, 100600, 103600]) :
    Script.Follows (apiCollect .plain .plain .debug collecting startedRound) (collected c)
      (.ret (.ok (), startedRound)) := by
  simp only [List.mem_cons, List.not_mem_nil, or_false] at hc
  rcases hc with rfl | rfl | rfl
  · exact .call (.call (.call (.refl _)))
  · exact .call (.call (.call (.refl _)))
  · exact .call (.call (.call (.refl _)))

def session : TrainingSession :=
  (createRequest (some ⟨5⟩) [1]).session ⟨.bearer [97, 98, 99], .bearer [97], [1]⟩ ⟨hpkeConfig, []⟩

def roundTask : AggregatorTask :=
  session.taskArguments .plain config (taskId 1)
    (.leader (.bearer [97]) ⟨[97, 98, 99]⟩ hpkeConfig)

theorem builds_roundTask : session.Builds .plain config (taskId 1) roundTask := ⟨_, rfl, rfl⟩

def clientState : ClientState :=
  ⟨⟨⟨⟨url, url⟩, ⟨url, url⟩⟩, vdafParameter⟩, ⟨⟨⟨taskId 1, TIME_PRECISION, false⟩⟩⟩⟩

def janusClient : JanusClient := ⟨taskId 1, url, url, 1, ⟨.fixedType16Bit, 2, 2⟩⟩

def gradient : VecFixedAny := .vecFixed16 [⟨0⟩, ⟨0⟩]

def submitted : List Exchange :=
  [⟨.buildClient janusClient, .ok ()⟩, ⟨.upload janusClient gradient, .ok ()⟩]

theorem follows_submitted :
    Script.Follows (clientState.getSubmissionResult .plain gradient) submitted (.ret ()) :=
  .call (.call (.refl _))

end Sample

/-- An upload a quarter of an hour before the collection is covered. -/
theorem report_covered_sample :
    Covers .plain .debug Sample.roundTask (JanusTime.plain.reportTime Sample.janusClient 99100)
      100000 (Sample.collected 100000) :=
  (report_covered_iff Janus.plain_faithful JanusTime.plain_faithful Sample.builds_roundTask
    Sample.follows_submitted (.tail _ (.head _)) (Sample.follows_collected (by decide))
    (.tail _ (.head _)) (by decide)).mpr (by decide)

/-- A day-long round: its first upload is not covered by the collection. -/
theorem report_left_out :
    Sample.session.Builds .plain Sample.config (Sample.taskId 1) Sample.roundTask ∧
      Script.Follows (Sample.clientState.getSubmissionResult .plain Sample.gradient)
        Sample.submitted (.ret ()) ∧
      Sample.janusClient.taskId = Sample.roundTask.id ∧
      (⟨.upload Sample.janusClient Sample.gradient, .ok ()⟩ : Exchange) ∈ Sample.submitted ∧
      Script.Follows (apiCollect .plain .plain .debug Sample.collecting Sample.startedRound)
        (Sample.collected 100000) (.ret (.ok (), Sample.startedRound)) ∧
      ¬ Covers .plain .debug Sample.roundTask
        (JanusTime.plain.reportTime Sample.janusClient 13600) 100000 (Sample.collected 100000) := by
  refine ⟨Sample.builds_roundTask, Sample.follows_submitted, rfl, .tail _ (.head _),
    Sample.follows_collected (by decide), ?_⟩
  rintro ⟨-, interval, hinterval, -, htimes, -⟩
  cases hinterval
  exact absurd htimes.1 (by decide)

/-! ## Collecting again -/

section
variable {κ : Type} {J : Janus} {T : JanusTime} {build : Build} {c₁ c₂ : UInt64}

/-- Two queries ask for the same interval if there are the same times in both. -/
theorem interval_eq_iff (hT : T.Faithful) {interval₁ interval₂ : BatchInterval}
    (h₁ : batchInterval T build c₁ = .ok interval₁)
    (h₂ : batchInterval T build c₂ = .ok interval₂) :
    interval₁ = interval₂ ↔ interval₁.times = interval₂.times := by
  constructor
  · intro h
    rw [h]
  · intro h
    obtain ⟨-, -, hstart₁, hduration₁⟩ := (batchInterval_eq_ok hT).mp h₁
    obtain ⟨-, -, hstart₂, hduration₂⟩ := (batchInterval_eq_ok hT).mp h₂
    have hpos : interval₁.start.toNat < interval₁.start.toNat + interval₁.duration.toNat := by
      rw [hduration₁, toNat_batchDuration]
      omega
    obtain ⟨hstart, -⟩ := (Set.Ico_eq_Ico_iff (.inl hpos)).mp h
    cases interval₁
    cases interval₂
    simp only [BatchInterval.mk.injEq]
    exact ⟨UInt64.toNat_inj.mp hstart, hduration₁.trans hduration₂.symm⟩

/-- The intervals of two queries, of which the second is not issued before the first,
are the same or disjoint if and only if they are issued in the same hour or at least
fifteen hours apart. -/
theorem repeated_query_iff (hT : T.Faithful) {istate : ControllerStateImmut}
    {mstate₁ mstate₂ : ControllerStateMut}
    {es₁ es₂ : List (Script.Exchange CollectOp (CollectAns κ))}
    {m₁ m₂ : Script CollectOp (CollectAns κ) Empty (Except Failure κ × ControllerStateMut)}
    (h₁ : Script.Follows (apiCollect J T build istate mstate₁) es₁ m₁)
    (h₂ : Script.Follows (apiCollect J T build istate mstate₂) es₂ m₂)
    {collector₁ collector₂ : Collector} {interval₁ interval₂ : BatchInterval} {r₁ r₂ : Except Error κ}
    (hquery₁ : ⟨.collect collector₁ interval₁, r₁⟩ ∈ es₁)
    (hquery₂ : ⟨.collect collector₂ interval₂, r₂⟩ ∈ es₂)
    (hclock₁ : ⟨.elapsed, .ok c₁⟩ ∈ es₁) (hclock₂ : ⟨.elapsed, .ok c₂⟩ ∈ es₂) (hle : c₁ ≤ c₂) :
    (interval₁ = interval₂ ∨ Disjoint interval₁.times interval₂.times) ↔
      c₁.toNat / TIME_PRECISION = c₂.toNat / TIME_PRECISION ∨
        c₁.toNat / TIME_PRECISION + 15 ≤ c₂.toNat / TIME_PRECISION := by
  have hinterval₁ := batchInterval_of_query h₁ hclock₁ hquery₁
  have hinterval₂ := batchInterval_of_query h₂ hclock₂ hquery₂
  obtain ⟨hc, -⟩ := (batchInterval_eq_ok hT).mp hinterval₁
  rw [interval_eq_iff hT hinterval₁ hinterval₂, times_batchInterval hT hinterval₁,
    times_batchInterval hT hinterval₂]
  exact Window.eq_or_disjoint_iff (by decide) (by decide) (UInt64.le_iff_toNat_le.mp hle) hc

end

/-- Two queries that are issued ten minutes apart in the same hour. -/
theorem repeated_query_sample :
    (⟨79200, 54000⟩ : BatchInterval) = ⟨79200, 54000⟩ ∨
      Disjoint (BatchInterval.times ⟨79200, 54000⟩) (BatchInterval.times ⟨79200, 54000⟩) :=
  (repeated_query_iff JanusTime.plain_faithful
    (Sample.follows_collected (c := 100000) (by decide))
    (Sample.follows_collected (c := 100600) (by decide))
    (.tail _ (.tail _ (.head _))) (.tail _ (.tail _ (.head _))) (.tail _ (.head _))
    (.tail _ (.head _)) (by decide)).mpr (by decide)

/-- Two queries of a task that are issued an hour apart, for intervals that overlap. -/
theorem repeated_query_overlaps :
    Script.Follows (apiCollect .plain .plain .debug Sample.collecting Sample.startedRound)
        (Sample.collected 100000) (.ret (.ok (), Sample.startedRound)) ∧
      Script.Follows (apiCollect .plain .plain .debug Sample.collecting Sample.startedRound)
        (Sample.collected 103600) (.ret (.ok (), Sample.startedRound)) ∧
      (∃ collector : Collector,
        ⟨.collect collector ⟨79200, 54000⟩, .ok ()⟩ ∈ Sample.collected 100000 ∧
        ⟨.collect collector ⟨82800, 54000⟩, .ok ()⟩ ∈ Sample.collected 103600) ∧
      ¬ ((⟨79200, 54000⟩ : BatchInterval) = ⟨82800, 54000⟩ ∨
        Disjoint (BatchInterval.times ⟨79200, 54000⟩) (BatchInterval.times ⟨82800, 54000⟩)) := by
  refine ⟨Sample.follows_collected (by decide), Sample.follows_collected (by decide),
    ⟨_, .tail _ (.tail _ (.head _)), .tail _ (.tail _ (.head _))⟩, ?_⟩
  rintro (heq | hdisjoint)
  · cases heq
  · have hfirst : 90000 ∈ BatchInterval.times ⟨79200, 54000⟩ := ⟨by decide, by decide⟩
    exact Set.disjoint_left.mp hdisjoint hfirst ⟨by decide, by decide⟩
