import ExposureBench.Proofs.Collected
import ExposureBench.Proofs.Diagnostics
import ExposureBench.Proofs.Rate

/-!
An experiment passes exactly if all it asked for was granted and what it recorded keeps to its
limits, and it fails otherwise.
-/

namespace ExposureBench

namespace Verdict

/-- A verdict tells what is sound: if it is, nothing has been noted but information, and if not,
some failure has. -/
structure Judged (v : Verdict) (sound : Prop) : Prop where
  pending : sound → ∀ d ∈ v.diagnostics, d.isFailure = false ∧ d.isSkip = false
  lost : ¬ sound → ∃ d ∈ v.diagnostics, d.isFailure

variable {v : Verdict} {sound : Prop}

theorem Judged.status (judged : v.Judged sound) :
    (v.status = .passed ↔ sound) ∧ (v.status ≠ .passed → v.status = .failed) := by
  by_cases holds : sound
  · have clear := judged.pending holds
    have unfailed : v.diagnostics.any (·.isFailure) = false := by
      rw [List.any_eq_false]
      intro d member
      rw [(clear d member).1]
      exact Bool.false_ne_true
    have unskipped : v.diagnostics.any (·.isSkip) = false := by
      rw [List.any_eq_false]
      intro d member
      rw [(clear d member).2]
      exact Bool.false_ne_true
    have passes : v.status = .passed := by
      rw [Verdict.status, unfailed, unskipped]
      rfl
    constructor
    · exact iff_of_true passes holds
    · intro other
      exact absurd passes other
  · obtain ⟨d, member, failure⟩ := judged.lost holds
    have failed : v.status = .failed := by
      rw [Verdict.status, if_pos (List.any_eq_true.mpr ⟨d, member, failure⟩)]
    have unpassed : ¬ v.status = .passed := by
      intro passes
      rw [failed] at passes
      cases passes
    constructor
    · exact iff_of_false unpassed holds
    · intro _
      exact failed

theorem Judged.congr {sound' : Prop} (judged : v.Judged sound) (same : sound ↔ sound') :
    v.Judged sound' := by
  constructor
  · intro holds
    exact judged.pending (same.mpr holds)
  · intro fails
    exact judged.lost (mt same.mp fails)

theorem Judged.of_same (judged : v.Judged sound) {v' : Verdict}
    (told : v'.diagnostics = v.diagnostics) : v'.Judged sound := by
  constructor
  · rw [told]
    exact judged.pending
  · rw [told]
    exact judged.lost

theorem Judged.push_info (judged : v.Judged sound) {d : Diagnostic} (neutral : d.isFailure = false)
    (unskipped : d.isSkip = false) : (v.push d).Judged sound := by
  constructor
  · intro holds d' member
    rcases List.mem_append.mp member with before | last
    · exact judged.pending holds d' before
    · rw [List.mem_singleton.mp last]
      exact ⟨neutral, unskipped⟩
  · intro fails
    obtain ⟨d', member, failure⟩ := judged.lost fails
    exact ⟨d', List.mem_append_left _ member, failure⟩

theorem push_failure (v : Verdict) {d : Diagnostic} (failure : d.isFailure) {sound : Prop}
    (unsound : ¬ sound) : (v.push d).Judged sound := by
  constructor
  · intro holds
    exact absurd holds unsound
  · intro _
    exact ⟨d, List.mem_append_right _ (List.mem_singleton_self d), failure⟩

theorem recordFailure_judged (v : Verdict) {failure : Failure} (plain : failure.isSkip = false)
    {sound : Prop} (unsound : ¬ sound) : (v.recordFailure failure).Judged sound := by
  refine v.push_failure ?_ unsound
  cases failure <;> first | rfl | cases plain

theorem Judged.push_if (judged : v.Judged sound) {d : Diagnostic} (failure : d.isFailure) (p : Prop)
    [Decidable p] :
    (if p then v.push d else v).Judged (sound ∧ ¬ p) := by
  by_cases broken : p
  · rw [if_pos broken]
    apply v.push_failure failure
    intro both
    exact both.2 broken
  · rw [if_neg broken]
    exact judged.congr (and_iff_left broken).symm

theorem Judged.pushMismatches (judged : v.Judged sound) (c : Consistency) :
    (v.pushMismatches c).Judged (sound ∧ c.mismatches = 0) := by
  apply (judged.push_if rfl (0 < c.mismatches)).congr
  apply and_congr_right
  intro _
  omega

theorem Judged.pushRegression (judged : v.Judged sound) {raw adjusted ceiling : Float}
    (given : ceiling.isNaN = false) (measured : adjusted.isNaN = false) :
    (v.pushRegression raw adjusted ceiling).Judged (sound ∧ adjusted < ceiling) :=
  (judged.push_if rfl (ceiling ≤ adjusted)).congr
    (and_congr_right fun _ => Rate.not_le_iff_lt given measured)

end Verdict

theorem Scenario.selectProfile_judged {device : Device} {q : ProfileQuery} {s : Selection}
    (selected : q.select? device.profiles = some s) (name : String) :
    (selectProfile device q { name }).2.Judged True := by
  have fresh : ({ name } : Verdict).Judged True := by
    constructor
    · intro _ d member
      cases member
    · intro fails
      exact absurd trivial fails
  rcases s with ⟨profile, _ | _⟩ <;> rw [selectProfile, selected]
  · exact fresh.push_info rfl rfl
  · exact fresh

/-- The rate of spikes among the frames of a log, in percent. -/
def spikeRate (settings : Settings) (profile : StreamProfile) (log : FrameLog) : Float :=
  ((Scenario.analyzerFor profile settings).summarize log.timestamps).spikeRatePercent

theorem isNaN_spikeRate (settings : Settings) (profile : StreamProfile) {log : FrameLog}
    (counted : log.count < 2 ^ 64) :
    (spikeRate settings profile log).isNaN = false := by
  apply Rate.isNaN_spikeRatePercent
  calc
    (Scenario.analyzerFor profile settings).spikeCount log.timestamps 0 ≤ log.timestamps.size :=
      ExtremeRecovery.spikeCount_le _ _ 0
    _ = log.count := ExtremeRecovery.size_timestampsFrom log 0
    _ < 2 ^ 64 := counted

section Judges

variable {settings : Settings} {profile : StreamProfile} {log : FrameLog} {v : Verdict}
    {granted agrees : Prop}

theorem Baseline.judge_judged {outcome : Except Failure Window} (judged : v.Judged True)
    (answered : Answered granted outcome)
    (given : settings.timing.maxSpikeRatePercent.isNaN = false) (counted : log.count < 2 ^ 64) :
    (judge settings profile outcome log v).Judged
      (granted ∧ spikeRate settings profile log < settings.timing.maxSpikeRatePercent) := by
  cases outcome with
  | error failure => exact v.recordFailure_judged answered.2 fun sound => answered.1 sound.1
  | ok w =>
    have measured := isNaN_spikeRate settings profile counted
    have granted : True ↔ granted := ⟨fun _ => answered, fun _ => trivial⟩
    exact ((judged.pushRegression given measured).congr
      (and_congr_left fun _ => granted)).of_same rfl

theorem SteadyState.judge_judged {outcome : Except Failure Window} (judged : v.Judged True)
    (answered : Answered granted outcome)
    (checked : ∀ w, outcome = .ok w →
      ((Consistency.checkWindow log.all w).mismatches = 0 ↔ agrees)) :
    (judge profile outcome log v).Judged (granted ∧ agrees) := by
  cases outcome with
  | error failure => exact v.recordFailure_judged answered.2 fun sound => answered.1 sound.1
  | ok w =>
    have granted : True ↔ granted := ⟨fun _ => answered, fun _ => trivial⟩
    have counted : Verdict.Judged
        { v with metadataMismatches := (Consistency.checkWindow log.all w).mismatches } True :=
      judged.of_same rfl
    have checks := (counted.pushMismatches (Consistency.checkWindow log.all w)).congr
      (and_congr granted (checked w rfl))
    simp only [judge]
    split
    · exact checks.push_info rfl rfl
    · exact checks

theorem RapidToggle.judgeTiming_judged (baseline : Option BaselineSummary) {summary : TimingSummary}
    {sound : Prop} (judged : v.Judged sound)
    (given : settings.timing.maxSpikeRatePercent.isNaN = false)
    (measured : summary.spikeRatePercent.isNaN = false) :
    (judgeTiming settings baseline summary v).Judged
      (sound ∧ summary.spikeRatePercent < settings.timing.maxSpikeRatePercent) := by
  have timed : ({ v with timing := some summary } : Verdict).Judged sound := judged.of_same rfl
  cases baseline with
  | none => exact timed.pushRegression given measured
  | some b => exact (timed.push_info rfl rfl).pushRegression given measured

theorem RapidToggle.judge_judged {outcome : Except Failure Unit × Consistency}
    (baseline : Option BaselineSummary) (judged : v.Judged True)
    (answered : Answered granted outcome.1) (checked : outcome.2.mismatches = 0 ↔ agrees)
    (enough : outcome.1 = .ok () → requiredFrames settings ≤ v.framesObserved)
    (given : settings.timing.maxSpikeRatePercent.isNaN = false) (counted : log.count < 2 ^ 64) :
    (judge settings baseline profile outcome log v).Judged
      (granted ∧ agrees ∧ spikeRate settings profile log <
        settings.timing.maxSpikeRatePercent) := by
  have counts : ({ v with metadataMismatches := outcome.2.mismatches } : Verdict).Judged True :=
    judged.of_same rfl
  have checks := (counts.pushMismatches outcome.2).congr (and_congr_right fun _ => checked)
  rcases outcome with ⟨failure | _, windows⟩
  · exact Verdict.recordFailure_judged _ answered.2 fun sound => answered.1 sound.1
  · have observed : (Verdict.pushMismatches
        { v with metadataMismatches := windows.mismatches } windows).framesObserved =
          v.framesObserved :=
      Verdict.framesObserved_pushMismatches _ windows
    have sufficient : ¬ v.framesObserved < requiredFrames settings := Nat.not_lt.mpr (enough rfl)
    have measured := isNaN_spikeRate settings profile counted
    have granted : True ↔ granted := ⟨fun _ => answered, fun _ => trivial⟩
    simp only [judge, observed, if_neg sufficient]
    exact (judgeTiming_judged baseline checks given measured).congr
      ((and_congr_left fun _ => and_congr_left fun _ => granted).trans and_assoc)

theorem ExtremeRecovery.judgeTotals_judged (a : TimingAnalyzer) (adjusted : SpikeAdjustment)
    (t : Totals) (log : FrameLog) {sound : Prop} (judged : v.Judged sound) :
    (judgeTotals a adjusted t log v).Judged sound := by
  unfold judgeTotals
  split
  · exact judged
  · refine Verdict.Judged.push_info ?_ rfl rfl
    exact judged.of_same rfl

theorem ExtremeRecovery.judge_judged {outcome : Except Failure Unit × Totals}
    (baseline : Option BaselineSummary) (judged : v.Judged True)
    (answered : Answered granted outcome.1)
    (given : settings.timing.maxSpikeRatePercent.isNaN = false)
    (counted : outcome.2.spikes < 2 ^ 64) :
    (judge settings baseline profile outcome log v).Judged (granted ∧ 0 < v.framesObserved ∧
      (adjustment settings outcome.2).adjustedRatePercent <
        settings.timing.maxSpikeRatePercent) := by
  have measured : (adjustment settings outcome.2).adjustedRatePercent.isNaN = false :=
    Rate.isNaN_spikeRatePercent (Nat.lt_of_le_of_lt (Nat.sub_le _ _) counted) _
  have totalled := judgeTotals_judged (Scenario.analyzerFor profile settings)
    (adjustment settings outcome.2) outcome.2 log judged
  rcases outcome with ⟨failure | _, totals⟩
  · exact Verdict.recordFailure_judged _ answered.2 fun sound => answered.1 sound.1
  · have judges : ∀ told : Verdict, told.Judged True → told.framesObserved = v.framesObserved →
        ((if told.framesObserved = 0 then told.push (.frameShortfall 1 0) else told).pushRegression
          (adjustment settings totals).rawRatePercent
          (adjustment settings totals).adjustedRatePercent
          settings.timing.maxSpikeRatePercent).Judged (granted ∧ 0 < v.framesObserved ∧
            (adjustment settings totals).adjustedRatePercent <
              settings.timing.maxSpikeRatePercent) := by
      intro told pending observed
      have granted : True ↔ granted := ⟨fun _ => answered, fun _ => trivial⟩
      have seen : ¬ told.framesObserved = 0 ↔ 0 < v.framesObserved := by omega
      have fed := (pending.push_if (d := .frameShortfall 1 0) rfl (told.framesObserved = 0)).congr
        (and_congr granted seen)
      exact (fed.pushRegression given measured).congr and_assoc
    cases baseline with
    | none => exact judges _ totalled (framesObserved_judgeTotals _ _ _)
    | some b => exact judges _ (totalled.push_info rfl rfl) (framesObserved_judgeTotals _ _ _)

end Judges

namespace Experiment

/-- The limits of an experiment on what it recorded: no frame of a window contradicts the state
requested for it, and the rate of spikes stays below the ceiling. -/
def WithinLimits (settings : Settings) (c : Controller) (e : Experiment) : Prop :=
  let final := (e.driven settings c).2.finish
  let agrees := ∀ s ∈ e.steps settings c, s.contradictions = 0
  let calm := spikeRate settings c.session.profile (Scenario.recorded final) <
    settings.timing.maxSpikeRatePercent
  match e with
  | .baseline => calm
  | .steadyState .. => agrees
  | .rapidToggle _ => agrees ∧ calm
  | .extremeRecovery =>
    let adjusted := ExtremeRecovery.adjustment settings (ExtremeRecovery.driven settings c).1.2
    0 < final.framesObserved ∧ adjusted.adjustedRatePercent < settings.timing.maxSpikeRatePercent

theorem agrees_iff {settings : Settings} {e : Experiment} {c : Controller} {plan : Plan}
    (made : e.plan settings c.session.profile c.device = .ok plan) :
    (∀ s ∈ e.steps settings c, s.contradictions = 0) ↔ plan.contradictions c = 0 := by
  rw [steps, made]
  exact Plan.contradictions_eq_zero.symm

section Run

variable {settings : Settings} {b : Bench} {s : Selection} {c : Controller}

theorem answered_of_capable {e : Experiment} (set : Scenario.controllerFor b s.profile settings = c)
    (capable : e.Capable c.device) :
    Answered (e.Granted settings c) (e.driven settings c).1 := by
  subst set
  exact driven_answers rfl rfl capable

theorem baseline_judged (selected : settings.profile.select? b.device.profiles = some s)
    (set : Scenario.controllerFor b s.profile settings = c) (capable : baseline.Capable c.device)
    (given : settings.timing.maxSpikeRatePercent.isNaN = false)
    (counted : (baseline.driven settings c).2.finish.framesObserved < 2 ^ 64) :
    (Baseline.run settings b).1.Judged (baseline.Granted settings c ∧
      baseline.WithinLimits settings c) := by
  have chosen := Scenario.selectProfile_judged selected Baseline.name
  have profile : c.session.profile = s.profile := by rw [← set]; rfl
  have answered := answered_of_capable set capable
  have followed : baseline.driven settings c =
      ((Baseline.drive settings c).1.map fun _ => (), (Baseline.drive settings c).2) :=
    (Baseline.drive_follows settings c).symm
  rw [WithinLimits, Baseline.run, Scenario.conduct_verdict Baseline.name settings _ _ selected set]
  rw [followed] at answered counted ⊢
  rw [← Controller.count_recorded] at counted
  rw [profile]
  exact Baseline.judge_judged (chosen.of_same rfl) ((answered_map _).mp answered) given counted

theorem steadyState_judged {on : Bool} {mode : ExposureMode}
    (selected : settings.profile.exactly.select? b.device.profiles = some s)
    (set : Scenario.controllerFor b s.profile settings = c)
    (capable : (steadyState on mode).Capable c.device) :
    (SteadyState.run settings on mode b).1.Judged
      ((steadyState on mode).Granted settings c ∧
        (steadyState on mode).WithinLimits settings c) := by
  have chosen := Scenario.selectProfile_judged selected (SteadyState.name on mode)
  have answered := answered_of_capable set capable
  have followed := SteadyState.driven_eq settings on mode c
  rw [← followed] at answered
  rw [WithinLimits, SteadyState.run,
    Scenario.conduct_verdict (SteadyState.name on mode) settings _ _ selected set]
  refine SteadyState.judge_judged (chosen.of_same rfl) ((answered_map _).mp answered) ?_
  intro w collected
  rcases plan_of_capable settings c.session.profile capable with ⟨plan, made, _⟩ | ⟨_, _, other, _⟩
  · rw [agrees_iff made, SteadyState.contradictions_drive made (Prod.ext collected rfl),
      Controller.recorded_finish, FrameLog.slice_eq, Consistency.checkWindow,
      Consistency.mismatches_check]
  · cases other

theorem rapidToggle_judged {mode : ExposureMode} (baseline : Option BaselineSummary)
    (selected : settings.profile.select? b.device.profiles = some s)
    (set : Scenario.controllerFor b s.profile settings = c)
    (capable : (rapidToggle mode).Capable c.device)
    (given : settings.timing.maxSpikeRatePercent.isNaN = false)
    (counted : ((rapidToggle mode).driven settings c).2.finish.framesObserved < 2 ^ 64) :
    (RapidToggle.run settings mode baseline b).1.Judged
      ((rapidToggle mode).Granted settings c ∧ (rapidToggle mode).WithinLimits settings c) := by
  have chosen := Scenario.selectProfile_judged selected (RapidToggle.name mode)
  have profile : c.session.profile = s.profile := by rw [← set]; rfl
  have answered := answered_of_capable set capable
  have followed := RapidToggle.driven_eq settings mode c
  rw [WithinLimits, RapidToggle.run,
    Scenario.conduct_verdict (RapidToggle.name mode) settings _ _ selected set]
  rw [← followed] at answered counted ⊢
  rw [← Controller.count_recorded] at counted
  rw [profile]
  refine RapidToggle.judge_judged baseline (chosen.of_same rfl) answered ?_ ?_ given counted
  · rcases plan_of_capable settings c.session.profile capable
      with ⟨plan, made, _⟩ | ⟨_, _, other, _⟩
    · rw [agrees_iff made, RapidToggle.mismatches_driven settings made]
    · cases other
  · intro done
    have ended : (rapidToggle mode).driven settings c =
        (.ok (), (RapidToggle.driven settings mode c).2) := by
      rw [← followed, done]
    have required := RapidToggle.requiredFrames_le ended
    change RapidToggle.requiredFrames settings ≤
      (RapidToggle.driven settings mode c).2.finish.framesObserved
    rw [Controller.finish_eq, Controller.framesObserved_tornDown]
    exact required

theorem extremeRecovery_judged (baseline : Option BaselineSummary)
    (selected : settings.profile.select? b.device.profiles = some s)
    (set : Scenario.controllerFor b s.profile settings = c)
    (capable : extremeRecovery.Capable c.device)
    (given : settings.timing.maxSpikeRatePercent.isNaN = false)
    (counted : (extremeRecovery.driven settings c).2.finish.framesObserved < 2 ^ 64) :
    (ExtremeRecovery.run settings baseline b).1.Judged
      (extremeRecovery.Granted settings c ∧ extremeRecovery.WithinLimits settings c) := by
  have chosen := Scenario.selectProfile_judged selected ExtremeRecovery.name
  have answered := answered_of_capable set capable
  have followed := ExtremeRecovery.driven_eq settings c
  have modest := ExtremeRecovery.driven_modest settings c
  rw [WithinLimits, ExtremeRecovery.run,
    Scenario.conduct_verdict ExtremeRecovery.name settings _ _ selected set]
  rw [← followed] at answered counted ⊢
  rw [Controller.finish_eq, Controller.framesObserved_tornDown] at counted
  exact ExtremeRecovery.judge_judged baseline (chosen.of_same rfl) answered given
    (Nat.lt_of_le_of_lt modest counted)

end Run

/-- An experiment that finds a profile on a device capable of it passes exactly if every call, read
and wait of its drive is granted and what it recorded keeps to its limits; else it fails, and is
never told as skipped. The ceiling is a number, and the frames are as many as 64 bits count. -/
theorem status_iff_sound (settings : Settings) (baseline : Option BaselineSummary) (e : Experiment)
    (b : Bench) {s : Selection} (selected : (e.query settings).select? b.device.profiles = some s)
    (capable : e.Capable b.device) (given : settings.timing.maxSpikeRatePercent.isNaN = false)
    (counted : (e.run settings baseline b).1.framesObserved < 2 ^ 64) :
    ((e.run settings baseline b).1.status = .passed ↔
      e.Granted settings (Scenario.controllerFor b s.profile settings) ∧
        e.WithinLimits settings (Scenario.controllerFor b s.profile settings)) ∧
      ((e.run settings baseline b).1.status ≠ .passed →
        (e.run settings baseline b).1.status = .failed) := by
  rw [framesObserved_run settings baseline e selected rfl] at counted
  apply Verdict.Judged.status
  cases e with
  | baseline => exact baseline_judged selected rfl capable given counted
  | steadyState on mode => exact steadyState_judged selected rfl capable
  | rapidToggle mode => exact rapidToggle_judged baseline selected rfl capable given counted
  | extremeRecovery => exact extremeRecovery_judged baseline selected rfl capable given counted

def shortToggling : Settings where
  rapidToggle := { toggles := 2, framesPerState := 2, framesBetweenToggles := 3, warmupMs := 200 }

def defaultBench : Bench := { device := .camera (.ofConfig .default) }

theorem short_toggling_sound :
    (rapidToggle .regular).Granted shortToggling
        (Scenario.controllerFor defaultBench ⟨.depth, .z16, 848, 480, 30⟩ shortToggling) ∧
      (rapidToggle .regular).WithinLimits shortToggling
        (Scenario.controllerFor defaultBench ⟨.depth, .z16, 848, 480, 30⟩ shortToggling) :=
  (status_iff_sound shortToggling none (.rapidToggle .regular) defaultBench
    (s := ⟨⟨.depth, .z16, 848, 480, 30⟩, true⟩) (by decide) (.inl rfl) (by decide)
      (by decide +kernel)).1.mp
    (by decide +kernel)

end Experiment

end ExposureBench
