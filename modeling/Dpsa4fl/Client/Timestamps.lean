-- SUMMARY: The timestamps of the reports that clients upload, and what they reveal of the time of a submission.
import Dpsa4fl.Client.StateMachine
import Dpsa4fl.Controller.BatchIntervals

/-!
# Timestamps

The manager registers a task with a time precision of an hour, and the settings
that a client makes for a round carry the same precision. The janus client that
uploads is built with a precision of one second, so that its reports are stamped
with the second of their submission.
-/

/-- A submission that uploads when the clock reads `now` stamps its report with `t`. -/
def ClientState.Stamps (J : Janus) (T : JanusTime) (self : ClientState) (data : VecFixedAny)
    (now t : UInt64) : Prop :=
  ∃ es m client measurement r, Script.Follows (self.getSubmissionResult J data) es m ∧
    (⟨.upload client measurement, r⟩ : Exchange) ∈ es ∧ T.reportTime client now = t

section
variable {J : Janus} {T : JanusTime} {c c' : ClientState} {data data' : VecFixedAny}
  {now now' t t' : UInt64}

/-- The client of a submission does not round the time. -/
theorem ClientState.Stamps.eq_now (hT : T.Faithful) (h : c.Stamps J T data now t) : t = now := by
  obtain ⟨es, m, client, measurement, r, hrun, hupload, rfl⟩ := h
  have hclient := (c.getSubmissionResult_uploads data).of_follows hrun _ hupload _ _ rfl
  apply UInt64.toNat_inj.mp
  rw [hT.reportTime_eq, hclient.timePrecision, Nat.div_one, Nat.mul_one]

theorem RoundSettings.timePrecision_of_new {s : String} {settings : RoundSettings}
    (h : RoundSettings.new s = .ok settings) : settings.timePrecision = TIME_PRECISION := by
  unfold RoundSettings.new at h
  cases htask : taskIdFromString s with
  | error e =>
    rw [htask] at h
    cases h
  | ok taskId =>
    rw [htask] at h
    cases h
    rfl

/-- Tasks are registered with the precision that the settings of a round carry.
Two submissions at times of the same window of that length are stamped with the
start of the window exactly when both are made at that very second. -/
theorem stamps_window_iff (hJ : J.Faithful) (hT : T.Faithful) {s s' : String}
    (hnew : RoundSettings.new s = .ok c.round.config.settings)
    (hnew' : RoundSettings.new s' = .ok c'.round.config.settings)
    (hwindow : now.toNat / TIME_PRECISION = now'.toNat / TIME_PRECISION)
    (h : c.Stamps J T data now t) (h' : c'.Stamps J T data' now' t') :
    (∀ (session : TrainingSession) (config : TaskProvisionerConfig) (taskId : TaskId)
      (task : AggregatorTask), session.Builds J config taskId task →
        task.timePrecision = TIME_PRECISION) ∧
    c.round.config.settings.timePrecision = TIME_PRECISION ∧
    c'.round.config.settings.timePrecision = TIME_PRECISION ∧
    ((t = t' ∧ t.toNat = now.toNat / TIME_PRECISION * TIME_PRECISION) ↔
      now.toNat % TIME_PRECISION = 0 ∧ now'.toNat % TIME_PRECISION = 0) := by
  obtain rfl := h.eq_now hT
  obtain rfl := h'.eq_now hT
  refine ⟨fun _ _ _ _ hbuilds => hbuilds.timePrecision hJ, RoundSettings.timePrecision_of_new hnew,
    RoundSettings.timePrecision_of_new hnew', ?_⟩
  rw [← UInt64.toNat_inj]
  simp only [TIME_PRECISION] at hwindow ⊢
  constructor
  · rintro ⟨hsame, hstart⟩
    omega
  · rintro ⟨hzero, hzero'⟩
    omega

end

namespace Sample

theorem clientState_new :
    RoundSettings.new (taskIdToString (taskId 1)) = .ok clientState.round.config.settings := by
  rw [RoundSettings.new, taskIdFromString_toString]
  rfl

theorem clientState_stamps (now : UInt64) :
    clientState.Stamps .plain .plain gradient now (JanusTime.plain.reportTime janusClient now) :=
  ⟨_, _, _, _, _, follows_submitted, .tail _ (.head _), rfl⟩

theorem stamps_window_start :
    JanusTime.plain.reportTime janusClient 7200 = JanusTime.plain.reportTime janusClient 7200 ∧
      (JanusTime.plain.reportTime janusClient 7200).toNat =
        (7200 : UInt64).toNat / TIME_PRECISION * TIME_PRECISION :=
  (stamps_window_iff Janus.plain_faithful JanusTime.plain_faithful clientState_new clientState_new
    rfl (clientState_stamps 7200) (clientState_stamps 7200)).2.2.2.mpr ⟨rfl, rfl⟩

/-- Two submissions of one hour, in the first second of it and in the next. -/
theorem stamps_differ :
    (3600 : UInt64).toNat / TIME_PRECISION = (3601 : UInt64).toNat / TIME_PRECISION ∧
    ∃ t t', clientState.Stamps .plain .plain gradient 3600 t ∧
      clientState.Stamps .plain .plain gradient 3601 t' ∧ t ≠ t' :=
  ⟨rfl, _, _, clientState_stamps 3600, clientState_stamps 3601, by decide⟩

end Sample
