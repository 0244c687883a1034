import ExposureBench.Proofs.CallOrder
import ExposureBench.Proofs.Skips
import ExposureBench.Proofs.SpikeBounds

namespace ExposureBench

namespace ProfileQuery

/-- A profile has the stream and the rate asked for, and the format if one is named. -/
structure Matches (q : ProfileQuery) (p : StreamProfile) : Prop where
  stream : p.stream = q.stream
  fps : p.fps = q.fps
  format : ∀ format, q.format = some format → p.format = format

def FirstMatch (q : ProfileQuery) (offered : List StreamProfile) (p : StreamProfile) : Prop :=
  ∃ before after, offered = before ++ p :: after ∧ q.Matches p ∧ ∀ p' ∈ before, ¬ q.Matches p'

variable {q : ProfileQuery} {offered : List StreamProfile} {p : StreamProfile}

theorem accepts_iff : q.accepts p ↔ q.Matches p := by
  simp only [accepts, Bool.and_eq_true, beq_iff_eq, Option.all_eq_true]
  constructor
  · rintro ⟨⟨stream, fps⟩, format⟩
    exact ⟨stream, fps, format⟩
  · rintro ⟨stream, fps, format⟩
    exact ⟨⟨stream, fps⟩, format⟩

theorem firstMatch_iff : q.FirstMatch offered p ↔ offered.find? q.accepts = some p := by
  simp only [FirstMatch, List.find?_eq_some_iff_append, ← accepts_iff, Bool.not_eq_true,
    Bool.not_eq_eq_eq_not, Bool.not_true]
  constructor
  · rintro ⟨before, after, split, fits, misfits⟩
    exact ⟨fits, before, after, split, misfits⟩
  · rintro ⟨fits, before, after, split, misfits⟩
    exact ⟨before, after, split, fits, misfits⟩

theorem FirstMatch.append (first : q.FirstMatch offered p) (more : List StreamProfile) :
    q.FirstMatch (offered ++ more) p := by
  obtain ⟨before, after, rfl, fits, misfits⟩ := first
  exact ⟨before, after ++ more, by simp, fits, misfits⟩

theorem select?_of_firstMatch (first : q.FirstMatch offered p) :
    q.select? offered = some ⟨p, true⟩ := by
  rw [select?, firstMatch_iff.mp first]

theorem firstMatch_of_select? (selected : q.select? offered = some ⟨p, true⟩) :
    q.FirstMatch offered p := by
  rw [select?] at selected
  split at selected
  next found =>
    cases selected
    exact firstMatch_iff.mpr found
  · split at selected
    · simp at selected
    · cases selected

theorem select?_of_unmatched (unmatched : ∀ p ∈ offered, ¬ q.Matches p) {s : Selection}
    (selected : q.select? offered = some s) :
    q.allowFallback ∧ offered.head? = some s.profile ∧ s.exact = false := by
  have none : offered.find? q.accepts = none := by
    simpa [List.find?_eq_none, accepts_iff] using unmatched
  rw [select?, none] at selected
  dsimp only at selected
  split at selected
  next falls =>
    obtain ⟨p, first, rfl⟩ := Option.map_eq_some_iff.mp selected
    exact ⟨falls, first, rfl⟩
  · cases selected

end ProfileQuery

namespace Experiment

variable {settings : Settings} {e : Experiment} {offered : List StreamProfile} {p : StreamProfile}

theorem matches_query : (e.query settings).Matches p ↔ settings.profile.Matches p := by
  rw [← ProfileQuery.accepts_iff, ← ProfileQuery.accepts_iff]
  cases e <;> exact Iff.rfl

theorem firstMatch_query :
    (e.query settings).FirstMatch offered p ↔ settings.profile.FirstMatch offered p := by
  simp only [ProfileQuery.FirstMatch, matches_query]

end Experiment

theorem Scenario.selectProfile_append {q : ProfileQuery} {offered more : List StreamProfile}
    {p : StreamProfile} (selected : q.select? offered = some ⟨p, true⟩) {device : Device}
    (offers : device.profiles = offered ++ more) (v : Verdict) :
    selectProfile device q v = (some p, v) := by
  have first := (ProfileQuery.firstMatch_of_select? selected).append more
  rw [selectProfile, offers, ProfileQuery.select?_of_firstMatch first]

namespace Bench

/-- From `b` to `b'` the device is opened with the one profile only; it has been, if it has
streamed. -/
def Opens (p : StreamProfile) (streamed : Prop) (b b' : Bench) : Prop :=
  ∃ calls, b.Made b' calls ∧ (∀ p' accepted, (.openWith p', accepted) ∈ calls → p' = p) ∧
    (streamed → (.openWith p, true) ∈ calls)

variable {p : StreamProfile} {streamed : Prop} {b b' b'' : Bench}

theorem opens_refl (p : StreamProfile) (b : Bench) : b.Opens p False b :=
  ⟨[], b.made_refl, fun _ _ member => (List.not_mem_nil member).elim, False.elim⟩

namespace Opens

theorem evolves (opens : b.Opens p streamed b') (evolves : b'.Evolves b'') :
    b.Opens p streamed b'' := by
  obtain ⟨calls, made, only, was⟩ := opens
  exact ⟨calls, made.evolves evolves, only, was⟩

theorem add (opens : b.Opens p streamed b') {later : List (Call × Bool)}
    (adds : ∀ calls, b.Made b' calls → b.Made b'' (calls ++ later))
    (same : ∀ p' accepted, (.openWith p', accepted) ∈ later → p' = p) : b.Opens p streamed b'' := by
  obtain ⟨calls, made, only, was⟩ := opens
  refine ⟨calls ++ later, adds calls made, fun p' accepted member => ?_, fun streams => ?_⟩
  · exact (List.mem_append.mp member).elim (only p' accepted) (same p' accepted)
  · exact List.mem_append_left _ (was streams)

theorem openWith (opens : b.Opens p streamed b') : b.Opens p streamed (b'.openWith p).2 :=
  opens.add (fun _ made => made.openWith p) (by simp)

theorem start (opens : b.Opens p streamed b') (field : MetadataField) :
    b.Opens p streamed (b'.start field).2 :=
  opens.add (fun _ made => made.start field) (by simp)

theorem stop (opens : b.Opens p streamed b') : b.Opens p streamed b'.stop.2 :=
  opens.add (fun _ made => made.stop) (by simp)

theorem close (opens : b.Opens p streamed b') : b.Opens p streamed b'.close.2 :=
  opens.add (fun _ made => made.close) (by simp)

theorem opened (opens : b.Opens p streamed b') (accepted : b'.openWith p = (.ok (), b'')) :
    b.Opens p True b'' := by
  obtain ⟨calls, made, only, -⟩ := opens
  have opened := made.openWith p
  rw [accepted] at opened
  refine ⟨_, opened, fun p' accepted member => ?_, fun _ => ?_⟩
  · rcases List.mem_append.mp member with before | last
    · exact only p' accepted before
    · cases List.mem_singleton.mp last
      rfl
  · exact List.mem_append_right _ (List.mem_singleton_self _)

end Opens

end Bench

namespace Controller

structure Opens (b : Bench) (p : StreamProfile) (c : Controller) : Prop where
  profile : c.session.profile = p
  bench : b.Opens p c.log.isSome c.bench

variable {b : Bench} {p : StreamProfile} {c : Controller}

theorem Opens.tornDown (opens : c.Opens b p) : c.tornDown.Opens b p := by
  obtain ⟨profile, bench⟩ := opens
  rcases c with ⟨⟨now, _, state, _⟩, _, _, _, _⟩
  cases state with
  | closed => exact ⟨profile, bench⟩
  | opened => exact ⟨profile, bench.close⟩
  | started => exact ⟨profile, bench.stop.close⟩
  | stopped => exact ⟨profile, bench.close⟩

end Controller

theorem Operation.run_opens (op : Operation) {b : Bench} {p : StreamProfile} {c : Controller}
    (opens : c.Opens b p) : (op.run c).2.Opens b p := by
  obtain ⟨rfl, bench⟩ := opens
  by_cases begins : ∃ field, op = .beginStreaming field
  · obtain ⟨field, rfl⟩ := begins
    have begin := run_begins field c
    generalize (beginStreaming field).run c = result at begin
    cases begin with
    | begun _ _ accepted starts =>
      have started := (bench.opened accepted).start field
      rw [starts] at started
      obtain ⟨calls, made, only, was⟩ := started
      exact ⟨rfl, calls, made, only, fun _ => was trivial⟩
    | unopened _ refused =>
      have asked := bench.openWith
      rw [refused] at asked
      exact ⟨rfl, asked⟩
    | unstarted _ accepted fails =>
      have asked := bench.openWith
      rw [accepted] at asked
      have started := asked.start field
      rw [fails] at started
      exact ⟨rfl, started.close⟩
    | reopened _ => exact Controller.Opens.tornDown ⟨rfl, bench⟩
  · have effect := run_sustained (fun field same => begins ⟨field, same⟩) c
    generalize op.run c = result at effect
    cases effect with
    | live _ _ evolves => exact ⟨rfl, bench.evolves evolves⟩
    | @stalled _ _ _ bench' evolves =>
      have lives : (c.withBench bench').Opens b c.session.profile := ⟨rfl, bench.evolves evolves⟩
      exact Controller.Opens.tornDown ⟨lives.profile, lives.bench⟩

theorem Plan.run_opens (plan : Plan) {b : Bench} {p : StreamProfile} {c : Controller}
    (opens : c.Opens b p) : (plan.run c).2.Opens b p := by
  have step : ∀ op ∈ plan, ∀ c, Controller.Opens b p c → ∀ result, op.run c = result →
      result.2.Opens b p := by
    rintro op - c opens _ rfl
    exact op.run_opens opens
  exact plan.run_leaves (K := Controller.Opens b p)
    (fun op member c opens r c' ran => step op member c opens _ ran)
    (fun op member c opens failure c' ran => step op member c opens _ ran) (fun _ => id) c opens

theorem Experiment.run_opens (settings : Settings) (baseline : Option BaselineSummary)
    (e : Experiment) {b : Bench} {s : Selection}
    (selected : (e.query settings).select? b.device.profiles = some s) :
    b.Opens s.profile
      (e.driven settings (Scenario.controllerFor b s.profile settings)).2.log.isSome
      (e.run settings baseline b).2 := by
  have set : (Scenario.controllerFor b s.profile settings).Opens b s.profile :=
    ⟨rfl, by simpa [Scenario.controllerFor, Controller.bench] using b.opens_refl s.profile⟩
  have driven : (e.driven settings (Scenario.controllerFor b s.profile settings)).2.Opens b
      s.profile := by
    rw [Experiment.driven]
    cases e.plan settings _ _ with
    | error failure => exact set
    | ok plan => exact plan.run_opens set
  rw [run_bench, selected]
  dsimp only
  rw [Controller.finish_eq]
  exact driven.tornDown.bench

/-- What is noted of a profile that was taken though it does not match. -/
def Diagnostic.fallback (p : StreamProfile) : Diagnostic :=
  .note s!"no exact profile match, using fallback {p.text}"

theorem Diagnostic.fallback_ne_unmarked (p : StreamProfile) :
    fallback p ≠ .note "no frame in the window carried auto-exposure metadata" := by
  intro same
  have texts := congrArg (fun text => text.toList[3]?) (Diagnostic.note.inj same)
  simp [toString] at texts

namespace Verdict

/-- A verdict tells all that another tells, and then nothing of a fallback. -/
def Adds (v v' : Verdict) : Prop :=
  ∃ later, v'.diagnostics = v.diagnostics ++ later ∧ ∀ p, .fallback p ∉ later

namespace Adds

variable {v v' : Verdict}

theorem of_same (same : v'.diagnostics = v.diagnostics) : v.Adds v' :=
  ⟨[], by rw [same, List.append_nil], fun _ => List.not_mem_nil⟩

theorem push (adds : v.Adds v') {d : Diagnostic} (plain : ∀ p, .fallback p ≠ d) :
    v.Adds (v'.push d) := by
  obtain ⟨later, told, others⟩ := adds
  refine ⟨later ++ [d], by rw [diagnostics_push, told, List.append_assoc], fun p member => ?_⟩
  exact (List.mem_append.mp member).elim (others p) fun last => plain p (List.mem_singleton.mp last)

theorem push_if (adds : v.Adds v') {d : Diagnostic} (plain : ∀ p, .fallback p ≠ d) (c : Prop)
    [Decidable c] : v.Adds (if c then v'.push d else v') := by
  split
  · exact adds.push plain
  · exact adds

theorem timed (adds : v.Adds v') (timing : Option TimingSummary) :
    v.Adds { v' with timing := timing } :=
  adds

theorem recordFailure (adds : v.Adds v') (failure : Failure) : v.Adds (v'.recordFailure failure) :=
  adds.push fun p same => by cases failure <;> cases same

theorem pushMismatches (adds : v.Adds v') (c : Consistency) : v.Adds (v'.pushMismatches c) :=
  adds.push_if (fun _ => Diagnostic.noConfusion) _

theorem pushRegression (adds : v.Adds v') (raw adjusted ceiling : Float) :
    v.Adds (v'.pushRegression raw adjusted ceiling) :=
  adds.push_if (fun _ => Diagnostic.noConfusion) _

end Adds

end Verdict

section Judges

variable {settings : Settings} {baseline : Option BaselineSummary} {profile : StreamProfile}
    {log : FrameLog} {v : Verdict} {t : TimingSummary}

theorem Baseline.judge_adds (outcome : Except Failure Window) :
    v.Adds (judge settings profile outcome log v) := by
  have same : v.Adds v := .of_same rfl
  cases outcome with
  | error failure => exact same.recordFailure failure
  | ok w => exact same.pushRegression _ _ _

theorem SteadyState.judge_adds (outcome : Except Failure Window) :
    v.Adds (judge profile outcome log v) := by
  have same : v.Adds v := .of_same rfl
  cases outcome with
  | error failure => exact same.recordFailure failure
  | ok w =>
    let check := Consistency.checkWindow log.all w
    have counted : v.Adds { v with metadataMismatches := check.mismatches } := .of_same rfl
    exact (counted.pushMismatches check).push_if Diagnostic.fallback_ne_unmarked _

theorem RapidToggle.judge_adds (outcome : Except Failure Unit × Consistency) :
    v.Adds (judge settings baseline profile outcome log v) := by
  have counted : v.Adds { v with metadataMismatches := outcome.2.mismatches } := .of_same rfl
  have checked := counted.pushMismatches outcome.2
  rcases outcome with ⟨failure | _, checks⟩
  · exact checked.recordFailure failure
  · simp only [judge, judgeTiming]
    generalize Verdict.pushMismatches _ checks = told at checked ⊢
    have fed := checked.push_if (d := .frameShortfall (requiredFrames settings) told.framesObserved)
      (fun _ => Diagnostic.noConfusion) (told.framesObserved < requiredFrames settings)
    have timed := fed.timed (some ((Scenario.analyzerFor profile settings).summarize
      log.timestamps))
    cases baseline with
    | none => exact timed.pushRegression _ _ _
    | some b => exact (timed.push fun _ => Diagnostic.noConfusion).pushRegression _ _ _

theorem ExtremeRecovery.judgeTotals_adds (a : TimingAnalyzer) (adjusted : SpikeAdjustment)
    (t : Totals) : v.Adds (judgeTotals a adjusted t log v) := by
  have same : v.Adds v := .of_same rfl
  unfold judgeTotals
  split
  · exact same
  · exact (same.timed _).push fun _ => Diagnostic.noConfusion

theorem ExtremeRecovery.judge_adds (outcome : Except Failure Unit × Totals) :
    v.Adds (judge settings baseline profile outcome log v) := by
  have reported : v.Adds (judgeTotals (Scenario.analyzerFor profile settings)
      (adjustment settings outcome.2) outcome.2 log v) := judgeTotals_adds ..
  rcases outcome with ⟨failure | _, totals⟩
  · exact reported.recordFailure failure
  · simp only [judge]
    generalize judgeTotals _ _ totals log v = told at reported ⊢
    cases baseline with
    | none => exact (reported.push_if (fun _ => Diagnostic.noConfusion) _).pushRegression _ _ _
    | some b =>
      have compared := reported.push (d := .baselineComparison b.spikeCount
        (adjustment settings totals).unexpectedSpikes) fun _ => Diagnostic.noConfusion
      exact (compared.push_if (fun _ => Diagnostic.noConfusion) _).pushRegression _ _ _

theorem Baseline.timing_judge {outcome : Except Failure Window}
    (timed : (judge settings profile outcome log v).timing = some t) (untimed : v.timing = none) :
    (∃ w, outcome = .ok w) ∧
      t = (Scenario.analyzerFor profile settings).summarize log.timestamps := by
  cases outcome with
  | error failure => cases untimed.symm.trans timed
  | ok w => exact ⟨⟨w, rfl⟩, (Option.some.inj timed).symm⟩

theorem SteadyState.timing_judge (outcome : Except Failure Window) :
    (judge profile outcome log v).timing = v.timing := by
  cases outcome with
  | error failure => rfl
  | ok w =>
    simp only [judge, Verdict.pushMismatches]
    split <;> split <;> rfl

theorem RapidToggle.timing_judge {outcome : Except Failure Unit × Consistency}
    (timed : (judge settings baseline profile outcome log v).timing = some t)
    (untimed : v.timing = none) :
    outcome.1 = .ok () ∧
      t = (Scenario.analyzerFor profile settings).summarize log.timestamps := by
  rcases outcome with ⟨failure | _, checks⟩
  · have same : (judge settings baseline profile (.error failure, checks) log v).timing =
        v.timing := by
      simp only [judge, Verdict.recordFailure, Verdict.push, Verdict.pushMismatches]
      split <;> rfl
    cases untimed.symm.trans (same.symm.trans timed)
  · refine ⟨rfl, (Option.some.inj (Eq.trans ?_ timed)).symm⟩
    simp only [judge, judgeTiming, Verdict.pushRegression, Verdict.push]
    cases baseline <;> dsimp only <;> split <;> rfl

end Judges

theorem Scenario.conduct_adds {α : Type} (name : String) (q : ProfileQuery) (settings : Settings)
    (drive : Controller → α × Controller) (judge : StreamProfile → α → FrameLog → Verdict → Verdict)
    (b : Bench)
    (adds : ∀ {profile log} {v : Verdict} outcome, v.Adds (judge profile outcome log v)) :
    (selectProfile b.device q { name }).2.Adds (conduct name q settings drive judge b).1 := by
  rw [conduct_eq]
  cases q.select? b.device.profiles with
  | none => exact .of_same rfl
  | some s =>
    let c := (drive (controllerFor b s.profile settings)).2.finish
    exact adds (v := { (selectProfile b.device q { name }).2 with
      framesObserved := c.framesObserved }) _

theorem Controller.isSome_of_framesObserved {c : Controller} (observed : 0 < c.framesObserved) :
    c.log.isSome := by
  rw [framesObserved] at observed
  cases begun : c.log with
  | none => simp [begun] at observed
  | some id => rfl

theorem Operation.run_streams {op : Operation} {c c' : Controller} {r : Reply}
    (ran : op.run c = (.ok r, c')) (streams : c.log.isSome ∨ ∃ field, op = .beginStreaming field) :
    c'.log.isSome := by
  by_cases begins : ∃ field, op = .beginStreaming field
  · obtain ⟨field, rfl⟩ := begins
    have begun := run_begins field c
    rw [ran] at begun
    cases begun
    rfl
  · have same := (run_sustained fun field same => begins ⟨field, same⟩).log_eq c
    rw [ran] at same
    rw [same]
    exact streams.resolve_right begins

theorem Plan.run_streams {plan : Plan} {c c' : Controller} (ran : plan.run c = (.ok (), c'))
    (streams : c.log.isSome ∨ ∃ field, .beginStreaming field ∈ plan) : c'.log.isSome := by
  induction plan generalizing c with
  | nil =>
    cases ran
    exact streams.resolve_right (by simp)
  | cons op rest ih =>
    rw [run_cons] at ran
    rcases first : op.run c with ⟨failure | r, c₁⟩ <;> rw [first] at ran
    · cases ran
    · refine ih ran ?_
      rcases streams with begun | ⟨field, member⟩
      · exact .inl (Operation.run_streams first (.inl begun))
      · rcases List.mem_cons.mp member with rfl | later
        · exact .inl (Operation.run_streams first (.inr ⟨field, rfl⟩))
        · exact .inr ⟨field, later⟩

namespace Experiment

theorem plan_begins {settings : Settings} {profile : StreamProfile} {device : Device}
    {e : Experiment} {plan : Plan} (made : e.plan settings profile device = .ok plan) :
    .beginStreaming .autoExposure ∈ plan := by
  cases e with
  | baseline =>
    cases made
    exact List.mem_cons_self
  | steadyState on mode =>
    obtain ⟨first, _, rfl⟩ := ok_of_map made
    simp [SteadyState.preludePlan]
  | rapidToggle mode =>
    obtain ⟨first, _, rfl⟩ := ok_of_map made
    simp [RapidToggle.warmUpPlan]
  | extremeRecovery =>
    obtain ⟨exposure, _, rfl⟩ := ok_of_map made
    exact List.mem_cons_self

theorem driven_streams {settings : Settings} {e : Experiment} {c : Controller}
    (done : (e.driven settings c).1 = .ok ()) : (e.driven settings c).2.log.isSome := by
  rw [driven] at done ⊢
  rcases made : e.plan settings c.session.profile c.device with failure | plan <;> rw [made] at done
  · cases done
  · exact Plan.run_streams (Prod.ext done rfl) (.inr ⟨_, plan_begins made⟩)

end Experiment

namespace ExtremeRecovery

theorem Fed.pos {frames : Nat} {windows : List (List Float)} (fed : Fed frames windows)
    (some : windows ≠ []) : 0 < frames := by
  obtain ⟨times, member⟩ := List.exists_mem_of_ne_nil windows some
  calc
    0 < times.length := fed.some times member
    _ ≤ (windows.map (·.length)).sum := List.le_sum_of_mem (List.mem_map_of_mem member)
    _ ≤ frames := fed.sum

theorem summarize_eq_timingOf (a : TimingAnalyzer) (log : FrameLog) :
    a.summarize log.timestamps = timingOf a 0 [log.all.map (·.hostTimestamp)] log := by
  have times := log.toList_timestamps
  have mean : a.filteredAverage log.timestamps 0 =
      (GapMean.ofGaps (calmOf a 0 log.timestamps.toList)).average :=
    GapMean.filteredAverage_eq log.timestamps 0 (some a.threshold)
  have spikes : a.spikeCount log.timestamps 0 = spikesOf a log.timestamps.toList :=
    spikeCount_eq log.timestamps a.threshold 0
  have size : log.timestamps.size = log.count := size_timestampsFrom log 0
  simp only [TimingAnalyzer.summarize, timingOf, mean, spikes, maxGap_eq, times, size, gapCount,
    GapMean.average_ofGaps, List.map_cons, List.map_nil, List.sum_cons, List.sum_nil,
    List.flatMap_cons, List.flatMap_nil, List.append_nil, List.drop_zero, Nat.add_zero,
    List.length_map, FrameLog.length_all, Nat.max_comm]

end ExtremeRecovery

namespace Experiment

/-- The windows in which an experiment looks for spikes: its recoveries, or the whole stream. -/
def timedWindows (settings : Settings) (b : Bench) (log : FrameLog) :
    Experiment → List (List Float)
  | .extremeRecovery => (ExtremeRecovery.recovered settings b).map (Plan.recoveryTimes log)
  | _ => [log.all.map (·.hostTimestamp)]

def timedSkip (settings : Settings) : Experiment → Nat
  | .extremeRecovery => settings.extremeRecovery.transitionFramesToSkip
  | _ => 0

theorem timing_run (settings : Settings) (baseline : Option BaselineSummary) (e : Experiment)
    {b : Bench} {s : Selection} (selected : (e.query settings).select? b.device.profiles = some s)
    {t : TimingSummary} (timed : (e.run settings baseline b).1.timing = some t) :
    (e.driven settings (Scenario.controllerFor b s.profile settings)).2.log.isSome ∧
      t = ExtremeRecovery.timingOf (Scenario.analyzerFor s.profile settings)
        (e.timedSkip settings)
        (e.timedWindows settings b (b.recordedSince (e.run settings baseline b).2))
        (b.recordedSince (e.run settings baseline b).2) := by
  have recorded := recordedSince_run settings baseline e selected
  cases e with
  | baseline =>
    have verdict := Scenario.conduct_verdict (q := settings.profile) Baseline.name settings
      (Baseline.drive settings) (Baseline.judge settings) selected rfl
    have followed := Baseline.drive_follows settings (Scenario.controllerFor b s.profile settings)
    rw [run, Baseline.run, verdict] at timed
    obtain ⟨⟨w, collected⟩, rfl⟩ := Baseline.timing_judge timed (Scenario.timing_selectProfile ..)
    constructor
    · exact driven_streams ((congrArg Prod.fst followed).symm.trans (by rw [collected]; rfl))
    · rw [recorded, Controller.recorded_finish, driven_controller]
      exact ExtremeRecovery.summarize_eq_timingOf _ _
  | steadyState on mode =>
    have verdict := Scenario.conduct_verdict (q := settings.profile.exactly)
      (SteadyState.name on mode) settings (SteadyState.drive settings on mode) SteadyState.judge
      selected rfl
    rw [run, SteadyState.run, verdict, SteadyState.timing_judge] at timed
    cases (Scenario.timing_selectProfile ..).symm.trans timed
  | rapidToggle mode =>
    have verdict := Scenario.conduct_verdict (q := settings.profile) (RapidToggle.name mode)
      settings (RapidToggle.driven settings mode) (RapidToggle.judge settings baseline) selected rfl
    have followed :=
      RapidToggle.driven_eq settings mode (Scenario.controllerFor b s.profile settings)
    rw [run, RapidToggle.run, verdict] at timed
    obtain ⟨done, rfl⟩ := RapidToggle.timing_judge timed (Scenario.timing_selectProfile ..)
    constructor
    · exact driven_streams ((congrArg Prod.fst followed).symm.trans done)
    · rw [recorded, Controller.recorded_finish, driven_controller]
      exact ExtremeRecovery.summarize_eq_timingOf _ _
  | extremeRecovery =>
    have reports := ExtremeRecovery.run_reports settings baseline selected
    have fed := ExtremeRecovery.run_fed settings baseline selected
    dsimp only at reports fed
    have told := reports.timing
    rw [run] at timed
    rw [timed] at told
    split at told
    · cases told
    next some =>
    constructor
    · have observed := fed.pos some
      rw [ExtremeRecovery.recordedSince_run settings baseline selected, Controller.count_recorded]
        at observed
      rw [driven_controller]
      exact Controller.isSome_of_framesObserved observed
    · exact Option.some.inj told

theorem run_adds (settings : Settings) (baseline : Option BaselineSummary) (e : Experiment)
    (b : Bench) :
    ∃ name, (Scenario.selectProfile b.device (e.query settings) { name }).2.Adds
      (e.run settings baseline b).1 := by
  cases e with
  | baseline =>
    exact ⟨Baseline.name, Scenario.conduct_adds _ _ settings _ (Baseline.judge settings) b
      Baseline.judge_adds⟩
  | steadyState on mode =>
    exact ⟨SteadyState.name on mode, Scenario.conduct_adds _ _ settings _ SteadyState.judge b
      SteadyState.judge_adds⟩
  | rapidToggle mode =>
    exact ⟨RapidToggle.name mode, Scenario.conduct_adds _ _ settings _
      (RapidToggle.judge settings baseline) b RapidToggle.judge_adds⟩
  | extremeRecovery =>
    exact ⟨ExtremeRecovery.name, Scenario.conduct_adds _ _ settings _
      (ExtremeRecovery.judge settings baseline) b ExtremeRecovery.judge_adds⟩

theorem notes_run (settings : Settings) (baseline : Option BaselineSummary) (e : Experiment)
    (b : Bench) :
    ∃ later, (e.run settings baseline b).1.diagnostics =
      (e.query settings).notes b.device.profiles ++ later ∧ ∀ p, .fallback p ∉ later := by
  obtain ⟨name, later, told, others⟩ := run_adds settings baseline e b
  exact ⟨later, by rw [told, Scenario.diagnostics_selectProfile], others⟩

/-- The device is opened with the first profile that matches the query, and then no fallback is
noted. If none matches, only experiments other than a steady state open it, with the first profile
offered, if the query falls back; the verdict begins with a note of that. Frames are timed against
the profile that the device was opened with. An exact choice outlasts any profiles offered after. -/
theorem streams_selected_profile (settings : Settings) (baseline : Option BaselineSummary)
    (e : Experiment) (b : Bench) :
    let verdict := (e.run settings baseline b).1
    let after := (e.run settings baseline b).2
    let log := b.recordedSince after
    ∃ made, after.calls.toList = b.calls.toList ++ made ∧
      (∀ p, settings.profile.FirstMatch b.device.profiles p →
        (∀ p' accepted, (.openWith p', accepted) ∈ lifecycle made → p' = p) ∧
          ∀ p', .fallback p' ∉ verdict.diagnostics) ∧
      ((∀ p ∈ b.device.profiles, ¬ settings.profile.Matches p) →
        ∀ p accepted, (.openWith p, accepted) ∈ lifecycle made →
          (∀ on mode, e ≠ .steadyState on mode) ∧ settings.profile.allowFallback ∧
            b.device.profiles.head? = some p ∧
            verdict.diagnostics.head? = some (.fallback p)) ∧
      (∀ t, verdict.timing = some t → ∃ p, (.openWith p, true) ∈ lifecycle made ∧
        t.expectedFrameTimeMs = p.frameTimeMs ∧
        t.spikes = ((e.timedWindows settings b log).map fun times => (gaps times).countP
          (spikeThreshold p.frameTimeMs settings.timing.spikeThresholdPercent < ·)).sum ∧
        t = ExtremeRecovery.timingOf
          ⟨p.frameTimeMs, settings.timing.spikeThresholdPercent⟩ (e.timedSkip settings)
          (e.timedWindows settings b log) log) ∧
      ∀ p, (e.query settings).select? b.device.profiles = some ⟨p, true⟩ →
        ∀ (device : Device) more v, device.profiles = b.device.profiles ++ more →
          Scenario.selectProfile device (e.query settings) v = (some p, v) := by
  intro verdict after log
  obtain ⟨later, told, others⟩ := notes_run settings baseline e b
  have matching : ∀ p, settings.profile.FirstMatch b.device.profiles p →
      (e.query settings).select? b.device.profiles = some ⟨p, true⟩ := fun p first =>
    ProfileQuery.select?_of_firstMatch (firstMatch_query.mpr first)
  rcases selected : (e.query settings).select? b.device.profiles with _ | s
  · have skips : Scenario.Skips b (e.run settings baseline b) :=
      skips_of_unserved (unserved_iff.mpr selected)
    obtain ⟨v, failure, blank, -, ran⟩ := skips
    have same : after = b := congrArg Prod.snd ran
    have untimed : verdict.timing = none := (congrArg (·.1.timing) ran).trans blank.timing
    refine ⟨[], by rw [same, List.append_nil], fun p first => ?_, fun _ _ _ member => ?_,
      fun t timed => ?_, fun p exact => by cases exact⟩
    · cases selected.symm.trans (matching p first)
    · cases member
    · cases untimed.symm.trans timed
  · obtain ⟨_, ⟨made, calls, rfl⟩, only, was⟩ := run_opens settings baseline e selected
    refine ⟨made, calls, fun p first => ?_, fun unmatched p accepted member => ?_,
      fun t timed => ?_, fun p exact device more v offers =>
        Scenario.selectProfile_append (selected.trans exact) offers v⟩
    · have exact := matching p first
      cases selected.symm.trans exact
      refine ⟨only, fun p' member => others p' ?_⟩
      rwa [told, ProfileQuery.notes, exact] at member
    · obtain ⟨falls, first, inexact⟩ := ProfileQuery.select?_of_unmatched
        (fun p member fits => unmatched p member (matches_query.mp fits)) selected
      rcases s with ⟨p', exact⟩
      cases only p accepted member
      cases inexact
      refine ⟨?_, ?_, first, ?_⟩
      · rintro on mode rfl
        cases falls
      · cases e with
        | steadyState => cases falls
        | _ => exact falls
      · rw [told, ProfileQuery.notes, selected]
        rfl
    · obtain ⟨streams, rfl⟩ := timing_run settings baseline e selected timed
      exact ⟨s.profile, was streams, rfl, rfl, rfl⟩

end Experiment

end ExposureBench
