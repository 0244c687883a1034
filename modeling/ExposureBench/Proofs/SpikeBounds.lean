import ExposureBench.Proofs.Recoveries
import ExposureBench.Proofs.Resettling
import ExposureBench.Proofs.Rounding

namespace ExposureBench

/-- A spike rate in percent, not rounded. -/
def exactRate (spikes gaps : Nat) : ℚ := spikes * 100 / (max gaps 1 : Nat)

theorem exactRate_le {spikes gaps : Nat} (le : spikes ≤ gaps) : exactRate spikes gaps ≤ 100 := by
  have some : (0 : ℚ) < (max gaps 1 : Nat) := by
    exact_mod_cast Nat.le_max_right gaps 1
  have part : (spikes : ℚ) ≤ (max gaps 1 : Nat) := by exact_mod_cast le.trans (Nat.le_max_left _ _)
  rw [exactRate, div_le_iff₀ some, mul_comm]
  exact mul_le_mul_of_nonneg_left part (by norm_num)

/-- Spikes are gaps, gaps are fewer than frames unless there is one gap only, and the frames are all
that were observed. -/
structure TimingSummary.Bounded (t : TimingSummary) (observed : Nat) : Prop where
  frames : t.frames = observed
  spikes : t.spikes ≤ t.gaps
  some : 1 ≤ t.gaps
  gaps : t.gaps ≤ max 1 t.frames
  rate : t.spikeRatePercent = ExposureBench.spikeRatePercent t.spikes t.gaps

theorem TimingAnalyzer.summarize_bounded (a : TimingAnalyzer) (ts : Array Float) :
    (a.summarize ts).Bounded ts.size := by
  refine ⟨rfl, ?_, Nat.le_max_right _ _, ?_, rfl⟩
  · calc
      a.spikeCount ts 0 ≤ (gapEnds ts 0 ts.size).length := List.countP_le_length
      _ = min ts.size ts.size - 1 := List.length_range'
      _ ≤ max (ts.size - 1) 1 := by omega
  · change max (ts.size - 1) 1 ≤ max 1 ts.size
    omega

def Diagnostic.isRate : Diagnostic → Bool
  | .expectedSpikes .. | .timingRegression .. => true
  | _ => false

theorem ProfileQuery.isRate_notes {q : ProfileQuery} {offered : List StreamProfile}
    {d : Diagnostic} (member : d ∈ q.notes offered) : d.isRate = false := by
  rcases mem_notes member with ⟨_, rfl⟩ | ⟨_, rfl⟩ <;> rfl

theorem Diagnostic.isRate_ofFailure (failure : Failure) : (ofFailure failure).isRate = false := by
  cases failure <;> rfl

namespace Verdict

structure TimedWhole (ceiling : Float) (a : TimingAnalyzer) (ts : Array Float) (v : Verdict) :
    Prop where
  timing : ∀ t, v.timing = some t → t = a.summarize ts
  rates : ∀ d ∈ v.diagnostics, d.isRate → ceiling ≤ (a.summarize ts).spikeRatePercent ∧
    ∃ raw adjusted ceiling', d = .timingRegression raw adjusted ceiling'

namespace TimedWhole

variable {ceiling : Float} {a : TimingAnalyzer} {ts : Array Float} {v : Verdict}

theorem of_plain (untimed : v.timing = none) (plain : ∀ d ∈ v.diagnostics, d.isRate = false) :
    TimedWhole ceiling a ts v := by
  constructor
  · intro t timed
    rw [untimed] at timed
    cases timed
  · intro d member rate
    rw [plain d member] at rate
    cases rate

theorem push (whole : TimedWhole ceiling a ts v) {d : Diagnostic} (plain : d.isRate = false) :
    TimedWhole ceiling a ts (v.push d) := by
  refine ⟨whole.timing, fun d' member rate => ?_⟩
  rcases List.mem_append.mp member with before | last
  · exact whole.rates d' before rate
  · rw [List.mem_singleton.mp last, plain] at rate
    cases rate

theorem push_if (whole : TimedWhole ceiling a ts v) {d : Diagnostic} (plain : d.isRate = false)
    (p : Prop) [Decidable p] :
    TimedWhole ceiling a ts (if p then v.push d else v) := by
  split
  · exact whole.push plain
  · exact whole

theorem pushRegression (whole : TimedWhole ceiling a ts v) (raw : Float) :
    TimedWhole ceiling a ts
      (v.pushRegression raw (a.summarize ts).spikeRatePercent ceiling) := by
  unfold Verdict.pushRegression
  split
  next reached =>
    refine ⟨whole.timing, fun d member rate => ?_⟩
    rcases List.mem_append.mp member with before | last
    · exact whole.rates d before rate
    · exact ⟨reached, _, _, _, List.mem_singleton.mp last⟩
  · exact whole

theorem recordFailure (whole : TimedWhole ceiling a ts v) (failure : Failure) :
    TimedWhole ceiling a ts (v.recordFailure failure) :=
  whole.push (Diagnostic.isRate_ofFailure failure)

theorem timed (whole : TimedWhole ceiling a ts v) :
    TimedWhole ceiling a ts { v with timing := some (a.summarize ts) } :=
  ⟨fun _ same => (Option.some.inj same).symm, whole.rates⟩

theorem counted (whole : TimedWhole ceiling a ts v) (mismatches : Nat) :
    TimedWhole ceiling a ts { v with metadataMismatches := mismatches } :=
  ⟨whole.timing, whole.rates⟩

end TimedWhole

/-- All that a verdict tells of spikes is within bounds. -/
structure RatesBounded (ceiling : Float) (v : Verdict) : Prop where
  timing : ∀ t, v.timing = some t → t.Bounded v.framesObserved
  adjusted : ∀ expected unexpected gaps, .expectedSpikes expected unexpected gaps ∈ v.diagnostics →
    ∃ t, v.timing = some t ∧ unexpected ≤ t.spikes ∧ unexpected ≤ gaps ∧ 1 ≤ gaps
  calm : 100.0 < ceiling →
    ∀ raw adjusted ceiling', .timingRegression raw adjusted ceiling' ∉ v.diagnostics

theorem RatesBounded.of_plain {ceiling : Float} {v : Verdict} (untimed : v.timing = none)
    (plain : ∀ d ∈ v.diagnostics, d.isRate = false) : RatesBounded ceiling v := by
  refine ⟨fun t timed => ?_, fun _ _ _ member => ?_, fun _ _ _ _ member => ?_⟩
  · rw [untimed] at timed
    cases timed
  · cases plain _ member
  · cases plain _ member

theorem TimedWhole.bounded {ceiling : Float} {a : TimingAnalyzer} {log : FrameLog} {v : Verdict}
    (whole : TimedWhole ceiling a log.timestamps v) (observed : v.framesObserved = log.count) :
    RatesBounded ceiling v := by
  have summary := a.summarize_bounded log.timestamps
  refine ⟨fun t timed => ?_, fun _ _ _ member => ?_, fun above _ _ _ member => ?_⟩
  · have size : log.timestamps.size = log.count := ExtremeRecovery.size_timestampsFrom log 0
    rw [whole.timing t timed, observed, ← size]
    exact summary
  · obtain ⟨-, _, _, _, ⟨⟩⟩ := whole.rates _ member rfl
  · obtain ⟨reached, -⟩ := whole.rates _ member rfl
    rw [summary.rate] at reached
    exact Rounding.spikeRatePercent_below summary.spikes above reached

end Verdict

section Judges

variable {settings : Settings} {profile : StreamProfile} {log : FrameLog} {v : Verdict}

abbrev Whole (settings : Settings) (profile : StreamProfile) (log : FrameLog) (v : Verdict) :
    Prop :=
  v.TimedWhole settings.timing.maxSpikeRatePercent (Scenario.analyzerFor profile settings)
    log.timestamps

theorem Baseline.judge_whole (whole : Whole settings profile log v)
    (outcome : Except Failure Window) :
    Whole settings profile log (judge settings profile outcome log v) := by
  cases outcome with
  | error failure => exact whole.recordFailure failure
  | ok w => exact (whole.pushRegression _).timed

theorem SteadyState.judge_whole (whole : Whole settings profile log v)
    (outcome : Except Failure Window) :
    Whole settings profile log (judge profile outcome log v) := by
  cases outcome with
  | error failure => exact whole.recordFailure failure
  | ok w => exact ((whole.counted _).push_if rfl _).push_if rfl _

theorem RapidToggle.judge_whole (baseline : Option BaselineSummary)
    (whole : Whole settings profile log v) (outcome : Except Failure Unit × Consistency) :
    Whole settings profile log (judge settings baseline profile outcome log v) := by
  have checked : Whole settings profile log
      ({ v with metadataMismatches := outcome.2.mismatches }.pushMismatches outcome.2) :=
    (whole.counted _).push_if rfl _
  rcases outcome with ⟨failure | _, checks⟩
  · exact checked.recordFailure failure
  · simp only [judge, judgeTiming]
    generalize Verdict.pushMismatches _ checks = told at checked ⊢
    have fed := (checked.push_if (d := .frameShortfall (requiredFrames settings)
      told.framesObserved) rfl (told.framesObserved < requiredFrames settings)).timed
    cases baseline with
    | none => exact fed.pushRegression _
    | some b => exact (fed.push rfl).pushRegression _

end Judges

namespace Scenario

variable (device : Device) (q : ProfileQuery) (name : String)

theorem timing_selectProfile : (selectProfile device q { name }).2.timing = none := by
  rw [selectProfile]
  rcases q.select? device.profiles with _ | ⟨profile, _ | _⟩ <;> rfl

theorem isRate_selectProfile :
    ∀ d ∈ (selectProfile device q { name }).2.diagnostics, d.isRate = false := by
  intro d member
  rw [diagnostics_selectProfile] at member
  exact ProfileQuery.isRate_notes member

theorem conduct_bounded {α : Type} (settings : Settings) (drive : Controller → α × Controller)
    (judge : StreamProfile → α → FrameLog → Verdict → Verdict) (b : Bench)
    (judges : ∀ {profile log v} outcome, Whole settings profile log v →
      Whole settings profile log (judge profile outcome log v))
    (keeps : ∀ {profile log v} outcome,
      (judge profile outcome log v).framesObserved = v.framesObserved) :
    (conduct name q settings drive judge b).1.RatesBounded
      settings.timing.maxSpikeRatePercent := by
  rw [conduct_eq]
  rcases q.select? b.device.profiles with _ | s
  · exact .of_plain (timing_selectProfile ..) (isRate_selectProfile b.device q name)
  · refine (judges _ (.of_plain ?_ ?_)).bounded ?_
    · exact timing_selectProfile b.device q name
    · exact isRate_selectProfile b.device q name
    · rw [keeps, Controller.count_recorded]

end Scenario

namespace Plan

def Step.frames (s : Step) : Nat := s.after.framesObserved - s.before.framesObserved

theorem Later.sum_frames {plan : Plan} (later : plan.Later) (c : Controller) :
    c.framesObserved + ((plan.steps c).map (·.frames)).sum = (plan.run c).2.framesObserved := by
  induction plan generalizing c with
  | nil => rfl
  | cons op rest ih =>
    obtain ⟨here, others⟩ := List.forall_mem_cons.mp later
    have grows := ((Operation.run_sustained here).continues c).framesObserved_le
    have first : Step.frames ⟨op, c⟩ = (op.run c).2.framesObserved - c.framesObserved := rfl
    rcases ran : op.run c with ⟨failure | r, c'⟩ <;> rw [ran] at first grows <;>
      dsimp only at first grows
    · rw [steps_cons_of_error rest ran, run_cons, ran]
      simp only [List.map_cons, List.map_nil, List.sum_cons, List.sum_nil, first]
      omega
    · have following := ih others c'
      rw [steps_cons_of_ok rest ran, run_cons, ran]
      simp only [List.map_cons, List.sum_cons, first]
      omega

end Plan

namespace ExtremeRecovery

theorem frames_of_recovers {s : Plan.Step} (recovers : s.recovers) : 0 < s.frames := by
  rcases s with ⟨op, c⟩
  rw [Plan.Step.recovers, Bool.and_eq_true, Bool.and_eq_true] at recovers
  obtain ⟨⟨hold, done⟩, -⟩ := recovers
  cases op with
  | hold ms =>
    rcases ran : (Operation.hold ms).run c with ⟨failure | r, c'⟩
    · rw [Plan.Step.outcome, ran] at done
      cases done
    · obtain ⟨observed, held, _⟩ := Attempt.ok_of_map ran
      obtain ⟨log, present, some, same, _⟩ := Controller.hold_done held
      have grows := Controller.framesObserved_hold held
      have frames : Plan.Step.frames ⟨.hold ms, c⟩ = c'.framesObserved - c.framesObserved := by
        rw [Plan.Step.frames, Plan.Step.after, ran]
      omega
  | _ => cases hold

variable {settings : Settings} {c : Controller}

theorem sum_frames_recoveries (settings : Settings) (c : Controller) :
    ((Plan.recoveries c (Experiment.extremeRecovery.steps settings c)).map (·.2.frames)).sum ≤
      (driven settings c).2.framesObserved := by
  have followed := congrArg Prod.snd (driven_eq settings c)
  dsimp only at followed
  rw [followed, Experiment.driven, Experiment.steps, Experiment.plan]
  rcases exposure? settings c.session.profile c.device with failure | exposure
  · exact Nat.zero_le _
  · dsimp only [Except.map]
    have listed : ∀ switched steps, (Plan.recoveries switched steps).map (·.2.frames) =
        (steps.filter (·.recovers)).map (·.frames) := by
      intro switched steps
      conv_rhs => rw [← Plan.map_sinceSwitch switched steps, List.filter_map, List.map_map]
      rfl
    have idle : ¬ Plan.Step.recovers ⟨.beginStreaming .autoExposure, c⟩ = true := by
      rw [Plan.Step.recovers_of_idle rfl]
      exact Bool.false_ne_true
    rw [listed]
    rcases ran : (Operation.beginStreaming .autoExposure).run c with ⟨failure | r, c'⟩
    · rw [Plan.steps_cons_of_error _ ran, List.filter_cons_of_neg idle]
      exact Nat.zero_le _
    · have later := iterationsPlan_later settings exposure settings.extremeRecovery.iterations
      rw [Plan.steps_cons_of_ok _ ran, List.filter_cons_of_neg idle, Plan.run_cons, ran]
      dsimp only
      rw [← later.sum_frames c']
      exact Nat.le_add_left_of_le ((List.filter_sublist.map _).sum_le_sum fun _ _ => Nat.zero_le _)

theorem length_recoveryTimes {e : Controller × Plan.Step}
    (member : e ∈ Plan.recoveries c (Experiment.extremeRecovery.steps settings c)) :
    (Plan.recoveryTimes (Scenario.recorded (driven settings c).2) e).length = e.2.frames := by
  have timely := (driven_completed settings c).timely e member
  have inside : e.2.after.framesObserved ≤ (Scenario.recorded (driven settings c).2).count := by
    rw [Controller.count_recorded]
    exact (continues_of_recoveries settings member).framesObserved_le
  rw [Plan.recoveryTimes, List.length_map, FrameLog.slice_eq, List.length_drop, List.length_take,
    FrameLog.length_all, Nat.min_eq_left inside, timely, Plan.Step.frames]

/-- Of windows no gap is lost, and no spike is more than a gap. -/
structure Fed (frames : Nat) (windows : List (List Float)) : Prop where
  some : ∀ times ∈ windows, 0 < times.length
  sum : (windows.map (·.length)).sum ≤ frames

variable {a : TimingAnalyzer} {frames : Nat} {windows : List (List Float)}

theorem spikes_le_gaps (a : TimingAnalyzer) (windows : List (List Float)) :
    (windows.map (spikesOf a)).sum ≤
      (windows.map fun times => max 1 (times.length - 1)).sum := by
  refine List.sum_le_sum fun times _ => ?_
  calc
    spikesOf a times ≤ (gaps times).length := List.countP_le_length
    _ = times.length - 1 := length_gaps times
    _ ≤ max 1 (times.length - 1) := Nat.le_max_right _ _

theorem Fed.gaps_le (fed : Fed frames windows) :
    (windows.map fun times => max 1 (times.length - 1)).sum ≤ frames := by
  refine (List.sum_le_sum fun times member => ?_).trans fed.sum
  have some := fed.some times member
  omega

theorem one_le_gaps (some : windows ≠ []) :
    1 ≤ (windows.map fun times => max 1 (times.length - 1)).sum := by
  cases windows with
  | nil => exact absurd rfl some
  | cons times rest =>
    rw [List.map_cons, List.sum_cons]
    omega

theorem driven_fed (settings : Settings) (c : Controller) :
    Fed (driven settings c).2.framesObserved (recoveredTimes settings c) := by
  constructor
  · intro times member
    obtain ⟨e, recovery, rfl⟩ := List.mem_map.mp member
    rw [length_recoveryTimes recovery]
    exact frames_of_recovers (List.mem_filter.mp recovery).2
  · refine (congrArg List.sum ?_).trans_le (sum_frames_recoveries settings c)
    rw [recoveredTimes, List.map_map]
    exact List.map_congr_left fun e member => length_recoveryTimes member

theorem timingOf_bounded {log : FrameLog} (fed : Fed log.count windows) (some : windows ≠ [])
    (a : TimingAnalyzer) (skip : Nat) : (timingOf a skip windows log).Bounded log.count where
  frames := rfl
  spikes := spikes_le_gaps a windows
  some := one_le_gaps some
  gaps := fed.gaps_le.trans (Nat.le_max_right _ _)
  rate := rfl

theorem diagnostics_run (settings : Settings) (baseline : Option BaselineSummary) {b : Bench}
    {s : Selection} (selected : settings.profile.select? b.device.profiles = some s)
    {c : Controller} (set : Scenario.controllerFor b s.profile settings = c) :
    (run settings baseline b).1.diagnostics = settings.profile.notes b.device.profiles ++
      allowance settings (driven settings c).1.2 ++
      findings settings baseline (adjustment settings (driven settings c).1.2)
        (driven settings c).2.finish.framesObserved (driven settings c).1.1 := by
  rw [run, Scenario.conduct_verdict name settings (driven settings) (judge settings baseline)
    selected set, diagnostics_judge]
  exact congrArg (· ++ _ ++ _) (Scenario.diagnostics_selectProfile b.device settings.profile name)

theorem regression_mem_findings {baseline : Option BaselineSummary} {adjusted : SpikeAdjustment}
    {outcome : Except Failure Unit} {raw rate ceiling : Float}
    (member : .timingRegression raw rate ceiling ∈
      findings settings baseline adjusted frames outcome) :
    settings.timing.maxSpikeRatePercent ≤ adjusted.adjustedRatePercent := by
  rcases outcome with failure | _
  · rw [findings, List.mem_singleton] at member
    have plain := Diagnostic.isRate_ofFailure failure
    rw [← member] at plain
    cases plain
  · simp only [findings, Verdict.compared, List.mem_append] at member
    rcases member with (comparison | shortfall) | regression
    · cases baseline <;> simp at comparison
    · split at shortfall <;> simp at shortfall
    · split at regression
      next reached => exact reached
      · cases regression

theorem adjusted_le (settings : Settings) {t : Totals} (le : t.spikes ≤ t.gaps) :
    (adjustment settings t).unexpectedSpikes ≤ (adjustment settings t).adjustedGaps :=
  (Nat.sub_le_sub_right le _).trans (Nat.le_max_left _ _)

theorem run_fed (settings : Settings) (baseline : Option BaselineSummary) {b : Bench}
    {s : Selection} (selected : settings.profile.select? b.device.profiles = some s) :
    let log := b.recordedSince (run settings baseline b).2
    Fed log.count ((recovered settings b).map (Plan.recoveryTimes log)) := by
  have fed := driven_fed settings (Scenario.controllerFor b s.profile settings)
  rw [recoveredTimes, ← Controller.count_recorded,
    ← recordedSince_run settings baseline selected] at fed
  simpa only [recovered, selected] using fed

theorem run_bounded (settings : Settings) (baseline : Option BaselineSummary) {b : Bench}
    {s : Selection} (selected : settings.profile.select? b.device.profiles = some s) :
    (run settings baseline b).1.RatesBounded settings.timing.maxSpikeRatePercent := by
  have reports := run_reports settings baseline selected
  have fed := run_fed settings baseline selected
  dsimp only at reports fed
  generalize (recovered settings b).map _ = windows at reports fed
  refine ⟨fun t timed => ?_, fun expected unexpected gaps member => ?_,
    fun above _ _ _ member => ?_⟩
  · rw [reports.timing] at timed
    split at timed <;> cases timed
    next some =>
    rw [reports.observed]
    exact timingOf_bounded fed some _ _
  · obtain ⟨findings, told, others, -⟩ := reports.told
    rw [told, List.mem_append, List.mem_append] at member
    rcases member with (note | allowed) | finding
    · cases ProfileQuery.isRate_notes note
    · rw [spikesTold] at allowed
      split at allowed
      · cases allowed
      next some =>
      cases List.mem_singleton.mp allowed
      have spikes := spikes_le_gaps (Scenario.analyzerFor s.profile settings) windows
      refine ⟨_, reports.timing.trans (if_neg some), Nat.sub_le _ _, ?_, Nat.le_max_right _ _⟩
      exact (Nat.sub_le_sub_right spikes _).trans (Nat.le_max_left _ _)
    · exact absurd finding (others _ _ _)
  · rw [diagnostics_run settings baseline selected rfl, List.mem_append, List.mem_append] at member
    rcases member with (note | allowed) | finding
    · cases ProfileQuery.isRate_notes note
    · rw [allowance] at allowed
      split at allowed
      · cases allowed
      · cases List.mem_singleton.mp allowed
    · have spikes : (driven settings (Scenario.controllerFor b s.profile settings)).1.2.spikes ≤
          (driven settings (Scenario.controllerFor b s.profile settings)).1.2.gaps := by
        rw [totals_eq]
        exact spikes_le_gaps _ _
      have reached := regression_mem_findings finding
      exact Rounding.spikeRatePercent_below (adjusted_le settings spikes) above reached

theorem run_skipped (settings : Settings) (baseline : Option BaselineSummary) {b : Bench}
    (unselected : settings.profile.select? b.device.profiles = none) :
    (run settings baseline b).1 =
      (Scenario.selectProfile b.device settings.profile { name }).2 := by
  rw [run, Scenario.conduct_eq, unselected]

theorem told_of_timed {settings : Settings} {baseline : Option BaselineSummary} {b : Bench}
    {t : TimingSummary} (timed : (run settings baseline b).1.timing = some t) :
    ∃ expected unexpected adjusted,
      .expectedSpikes expected unexpected adjusted ∈ (run settings baseline b).1.diagnostics := by
  rcases selected : settings.profile.select? b.device.profiles with _ | s
  · rw [run_skipped settings baseline selected, Scenario.timing_selectProfile] at timed
    cases timed
  · have reports := run_reports settings baseline selected
    apply (reports.expectedSpikes_iff fun _ _ _ => ProfileQuery.expectedSpikes_not_mem_notes).mpr
    rw [reports.timing] at timed
    split at timed
    · cases timed
    next some => exact List.length_pos_iff.mpr some

end ExtremeRecovery

namespace Experiment

theorem run_bounded (settings : Settings) (baseline : Option BaselineSummary) (e : Experiment)
    (b : Bench) :
    (e.run settings baseline b).1.RatesBounded settings.timing.maxSpikeRatePercent := by
  cases e with
  | baseline =>
    exact Scenario.conduct_bounded _ _ settings _ (Baseline.judge settings) b
      (fun o whole => Baseline.judge_whole whole o) Baseline.framesObserved_judge
  | steadyState on mode =>
    exact Scenario.conduct_bounded _ _ settings _ SteadyState.judge b
      (fun o whole => SteadyState.judge_whole whole o) SteadyState.framesObserved_judge
  | rapidToggle mode =>
    exact Scenario.conduct_bounded _ _ settings _ (RapidToggle.judge settings baseline) b
      (fun o whole => RapidToggle.judge_whole baseline whole o)
      (RapidToggle.framesObserved_judge baseline)
  | extremeRecovery =>
    rcases selected : settings.profile.select? b.device.profiles with _ | s
    · change (ExtremeRecovery.run settings baseline b).1.RatesBounded _
      rw [ExtremeRecovery.run_skipped settings baseline selected]
      exact .of_plain (Scenario.timing_selectProfile ..) (Scenario.isRate_selectProfile _ _ _)
    · exact ExtremeRecovery.run_bounded settings baseline selected

/-- In every verdict, spikes are among the gaps, and gaps among the frames observed, save that there
is always one; recoveries that are timed also tell what of their spikes was not expected. So no rate
exceeds a hundred percent, and none is told as a regression against a ceiling above that. -/
theorem rates_bounded (settings : Settings) (baseline : Option BaselineSummary) (e : Experiment)
    (b : Bench) :
    let verdict := (e.run settings baseline b).1
    (∀ t, verdict.timing = some t →
      t.spikes ≤ t.gaps ∧ 1 ≤ t.gaps ∧ t.gaps ≤ max 1 t.frames ∧
        t.frames = verdict.framesObserved ∧
        t.spikeRatePercent = spikeRatePercent t.spikes t.gaps ∧ exactRate t.spikes t.gaps ≤ 100 ∧
        (e = .extremeRecovery → ∃ expected unexpected adjusted,
          .expectedSpikes expected unexpected adjusted ∈ verdict.diagnostics)) ∧
      (∀ expected unexpected adjusted,
        .expectedSpikes expected unexpected adjusted ∈ verdict.diagnostics →
          ∃ t, verdict.timing = some t ∧ unexpected ≤ t.spikes ∧ unexpected ≤ adjusted ∧
            1 ≤ adjusted ∧ exactRate unexpected adjusted ≤ 100) ∧
      (100.0 < settings.timing.maxSpikeRatePercent →
        ∀ raw adjusted ceiling, .timingRegression raw adjusted ceiling ∉ verdict.diagnostics) := by
  have bounded := e.run_bounded settings baseline b
  dsimp only
  refine ⟨fun t timed => ?_, fun expected unexpected adjusted member => ?_, ?_⟩
  · obtain ⟨frames, spikes, some, gaps, rate⟩ := bounded.timing t timed
    refine ⟨spikes, some, gaps, frames, rate, exactRate_le spikes, ?_⟩
    rintro rfl
    exact ExtremeRecovery.told_of_timed timed
  · obtain ⟨t, timed, part, unexpected_le, some⟩ := bounded.adjusted _ _ _ member
    exact ⟨t, timed, part, unexpected_le, some, exactRate_le unexpected_le⟩
  · exact bounded.calm

end Experiment

end ExposureBench
