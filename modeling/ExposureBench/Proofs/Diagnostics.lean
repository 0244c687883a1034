import ExposureBench.Proofs.Experiment

namespace ExposureBench

namespace Verdict

variable (v : Verdict)

theorem diagnostics_push (d : Diagnostic) : (v.push d).diagnostics = v.diagnostics ++ [d] := rfl

theorem diagnostics_push_if (d : Diagnostic) (p : Prop) [Decidable p] :
    (if p then v.push d else v).diagnostics = v.diagnostics ++ if p then [d] else [] := by
  split
  · rfl
  · exact (List.append_nil _).symm

theorem diagnostics_pushMismatches (c : Consistency) :
    (v.pushMismatches c).diagnostics = v.diagnostics ++
      if 0 < c.mismatches then [.metadataMismatch c.mismatches c.compared c.firstMismatch]
      else [] :=
  v.diagnostics_push_if _ _

theorem diagnostics_pushRegression (raw adjusted ceiling : Float) :
    (v.pushRegression raw adjusted ceiling).diagnostics = v.diagnostics ++
      if ceiling ≤ adjusted then [.timingRegression raw adjusted ceiling] else [] :=
  v.diagnostics_push_if _ _

theorem framesObserved_push_if (d : Diagnostic) (p : Prop) [Decidable p] :
    (if p then v.push d else v).framesObserved = v.framesObserved := by
  split <;> rfl

theorem framesObserved_pushMismatches (c : Consistency) :
    (v.pushMismatches c).framesObserved = v.framesObserved :=
  v.framesObserved_push_if _ _

theorem framesObserved_pushRegression (raw adjusted ceiling : Float) :
    (v.pushRegression raw adjusted ceiling).framesObserved = v.framesObserved :=
  v.framesObserved_push_if _ _

def compared (baseline : Option BaselineSummary) (spikes : Nat) : List Diagnostic :=
  (baseline.map fun b => .baselineComparison b.spikeCount spikes).toList

end Verdict

def ProfileQuery.notes (q : ProfileQuery) (offered : List StreamProfile) : List Diagnostic :=
  match q.select? offered with
  | none => [.skipped q.missingText]
  | some ⟨_, true⟩ => []
  | some ⟨profile, false⟩ =>
    [.note s!"no exact profile match, using fallback {profile.text}"]

theorem ProfileQuery.mem_notes {q : ProfileQuery} {offered : List StreamProfile} {d : Diagnostic}
    (member : d ∈ q.notes offered) : (∃ reason, d = .skipped reason) ∨ ∃ message, d = .note message := by
  rw [notes] at member
  split at member
  · exact .inl ⟨_, List.mem_singleton.mp member⟩
  · cases member
  · exact .inr ⟨_, List.mem_singleton.mp member⟩

theorem ProfileQuery.expectedSpikes_not_mem_notes {q : ProfileQuery} {offered : List StreamProfile}
    {expected unexpected gaps : Nat} :
    .expectedSpikes expected unexpected gaps ∉ q.notes offered := by
  intro member
  rcases mem_notes member with ⟨_, same⟩ | ⟨_, same⟩ <;> cases same

theorem Scenario.diagnostics_selectProfile (device : Device) (q : ProfileQuery) (name : String) :
    (selectProfile device q { name }).2.diagnostics = q.notes device.profiles := by
  rw [selectProfile, ProfileQuery.notes]
  rcases q.select? device.profiles with _ | ⟨profile, _ | _⟩ <;> rfl

/-- A failure is told as a skip, as a stall, or as a failure of the device. -/
theorem Diagnostic.ofFailure_cases (failure : Failure) :
    (∃ reason, ofFailure failure = .skipped reason) ∨
      (∃ requested observed timeoutMs,
        ofFailure failure = .stalled requested observed timeoutMs) ∨
      ∃ detail, ofFailure failure = .deviceFailure detail := by
  cases failure with
  | unavailable reason => exact .inl ⟨reason, rfl⟩
  | timedOut requested observed limit => exact .inr (.inl ⟨requested, observed, _, rfl⟩)
  | _ => exact .inr (.inr ⟨_, rfl⟩)

variable {settings : Settings} {baseline : Option BaselineSummary} {profile : StreamProfile}
    {log : FrameLog} {v : Verdict}

theorem Baseline.framesObserved_judge (outcome : Except Failure Window) :
    (judge settings profile outcome log v).framesObserved = v.framesObserved := by
  cases outcome with
  | error => rfl
  | ok w => exact v.framesObserved_pushRegression _ _ _

theorem SteadyState.framesObserved_judge (outcome : Except Failure Window) :
    (judge profile outcome log v).framesObserved = v.framesObserved := by
  cases outcome with
  | error => rfl
  | ok w =>
    exact (Verdict.framesObserved_push_if _ _ _).trans (Verdict.framesObserved_pushMismatches _ _)

theorem RapidToggle.framesObserved_judgeTiming (baseline : Option BaselineSummary)
    (summary : TimingSummary) :
    (judgeTiming settings baseline summary v).framesObserved = v.framesObserved := by
  cases baseline <;> exact Verdict.framesObserved_pushRegression _ _ _ _

theorem RapidToggle.framesObserved_judge (baseline : Option BaselineSummary)
    (outcome : Except Failure Unit × Consistency) :
    (judge settings baseline profile outcome log v).framesObserved = v.framesObserved := by
  rcases outcome with ⟨failure | _, checks⟩
  · exact Verdict.framesObserved_pushMismatches _ _
  · simp only [judge]
    rw [framesObserved_judgeTiming]
    exact (Verdict.framesObserved_push_if _ _ _).trans (Verdict.framesObserved_pushMismatches _ _)

theorem ExtremeRecovery.framesObserved_judgeTotals (a : TimingAnalyzer) (adjusted : SpikeAdjustment)
    (t : Totals) :
    (judgeTotals a adjusted t log v).framesObserved = v.framesObserved := by
  unfold judgeTotals
  split <;> rfl

theorem ExtremeRecovery.framesObserved_judge (baseline : Option BaselineSummary)
    (outcome : Except Failure Unit × Totals) :
    (judge settings baseline profile outcome log v).framesObserved = v.framesObserved := by
  rcases outcome with ⟨failure | _, totals⟩
  · exact framesObserved_judgeTotals _ _ _
  · simp only [judge]
    rw [Verdict.framesObserved_pushRegression]
    cases baseline <;>
      exact (Verdict.framesObserved_push_if _ _ _).trans (framesObserved_judgeTotals _ _ _)

namespace RapidToggle

def findings (settings : Settings) (baseline : Option BaselineSummary) (summary : TimingSummary)
    (frames : Nat) : Except Failure Unit → List Diagnostic
  | .error failure => [.ofFailure failure]
  | .ok () =>
    (if frames < requiredFrames settings then [.frameShortfall (requiredFrames settings) frames]
      else []) ++ Verdict.compared baseline summary.spikes ++
      if settings.timing.maxSpikeRatePercent ≤ summary.spikeRatePercent then
        [.timingRegression summary.spikeRatePercent summary.spikeRatePercent
          settings.timing.maxSpikeRatePercent]
      else []

theorem diagnostics_judge (outcome : Except Failure Unit × Consistency) :
    (judge settings baseline profile outcome log v).diagnostics =
      v.diagnostics ++
        (if 0 < outcome.2.mismatches then
          [.metadataMismatch outcome.2.mismatches outcome.2.compared outcome.2.firstMismatch]
        else []) ++
        findings settings baseline
          ((Scenario.analyzerFor profile settings).summarize log.timestamps) v.framesObserved
          outcome.1 := by
  rcases outcome with ⟨failure | _, checks⟩
  · simp only [judge, Verdict.recordFailure, Verdict.diagnostics_push,
      Verdict.diagnostics_pushMismatches, findings]
  · simp only [judge, judgeTiming, findings, Verdict.framesObserved_pushMismatches]
    rw [Verdict.diagnostics_pushRegression]
    cases baseline with
    | none =>
      dsimp only
      rw [Verdict.diagnostics_push_if, Verdict.diagnostics_pushMismatches]
      simp [Verdict.compared]
    | some b =>
      dsimp only
      rw [Verdict.diagnostics_push]
      dsimp only
      rw [Verdict.diagnostics_push_if, Verdict.diagnostics_pushMismatches]
      simp [Verdict.compared]

theorem metadataMismatches_judge (outcome : Except Failure Unit × Consistency) :
    (judge settings baseline profile outcome log v).metadataMismatches =
      outcome.2.mismatches := by
  rcases outcome with ⟨failure | _, checks⟩
  · simp only [judge, Verdict.recordFailure, Verdict.push, Verdict.pushMismatches]
    split <;> rfl
  · simp only [judge, judgeTiming, Verdict.pushRegression, Verdict.pushMismatches, Verdict.push]
    cases baseline <;> dsimp only <;> split <;> split <;> split <;> rfl

theorem shortfall_not_mem_findings {summary : TimingSummary} {frames expected observed : Nat}
    {outcome : Except Failure Unit}
    (enough : outcome = .ok () → requiredFrames settings ≤ frames) :
    .frameShortfall expected observed ∉ findings settings baseline summary frames outcome := by
  rcases outcome with failure | _
  · rw [findings, List.mem_singleton]
    rcases Diagnostic.ofFailure_cases failure with ⟨_, told⟩ | ⟨_, _, _, told⟩ | ⟨_, told⟩ <;>
      rw [told] <;> exact Diagnostic.noConfusion
  · rw [findings, if_neg (Nat.not_lt.mpr (enough rfl))]
    simp only [Verdict.compared, List.mem_append, not_or]
    refine ⟨⟨List.not_mem_nil, ?_⟩, ?_⟩
    · cases baseline <;> simp
    · split <;> simp

theorem mismatch_not_mem_findings {summary : TimingSummary} {frames : Nat}
    {outcome : Except Failure Unit} {mismatches compared : Nat} {first : Option Nat} :
    .metadataMismatch mismatches compared first ∉
      findings settings baseline summary frames outcome := by
  rcases outcome with failure | _
  · rw [findings, List.mem_singleton]
    rcases Diagnostic.ofFailure_cases failure with ⟨_, told⟩ | ⟨_, _, _, told⟩ | ⟨_, told⟩ <;>
      rw [told] <;> exact Diagnostic.noConfusion
  · simp only [findings, Verdict.compared, List.mem_append, not_or]
    refine ⟨⟨?_, ?_⟩, ?_⟩
    · split <;> simp
    · cases baseline <;> simp
    · split <;> simp

theorem mismatch_mem_judge {outcome : Except Failure Unit × Consistency}
    {mismatches compared : Nat} {first : Option Nat}
    (untold : .metadataMismatch mismatches compared first ∉ v.diagnostics) :
    .metadataMismatch mismatches compared first ∈
        (judge settings baseline profile outcome log v).diagnostics ↔
      0 < outcome.2.mismatches ∧ mismatches = outcome.2.mismatches ∧
        compared = outcome.2.compared ∧ first = outcome.2.firstMismatch := by
  rw [diagnostics_judge, List.mem_append, List.mem_append, or_iff_left mismatch_not_mem_findings,
    or_iff_right untold]
  by_cases some : 0 < outcome.2.mismatches
  · rw [if_pos some, List.mem_singleton, Diagnostic.metadataMismatch.injEq]
    exact (and_iff_right some).symm
  · rw [if_neg some]
    exact iff_of_false List.not_mem_nil fun told => some told.1

theorem shortfall_not_mem_judge {outcome : Except Failure Unit × Consistency}
    {expected observed : Nat} (untold : .frameShortfall expected observed ∉ v.diagnostics)
    (enough : outcome.1 = .ok () → requiredFrames settings ≤ v.framesObserved) :
    .frameShortfall expected observed ∉
      (judge settings baseline profile outcome log v).diagnostics := by
  rw [diagnostics_judge, List.mem_append, List.mem_append, not_or, not_or]
  refine ⟨⟨untold, ?_⟩, shortfall_not_mem_findings enough⟩
  split <;> simp

end RapidToggle

namespace ExtremeRecovery

/-- The spikes that the completed iterations account for, if there are any. -/
def allowance (settings : Settings) (t : Totals) : List Diagnostic :=
  if t.iterations = 0 then []
  else [.expectedSpikes (adjustment settings t).expectedSpikes
    (adjustment settings t).unexpectedSpikes (adjustment settings t).adjustedGaps]

/-- What a run of recoveries notes once its iterations have been reported. -/
def findings (settings : Settings) (baseline : Option BaselineSummary) (adjusted : SpikeAdjustment)
    (frames : Nat) : Except Failure Unit → List Diagnostic
  | .error failure => [.ofFailure failure]
  | .ok () =>
    Verdict.compared baseline adjusted.unexpectedSpikes ++
      (if frames = 0 then [.frameShortfall 1 0] else []) ++
      if settings.timing.maxSpikeRatePercent ≤ adjusted.adjustedRatePercent then
        [.timingRegression adjusted.rawRatePercent adjusted.adjustedRatePercent
          settings.timing.maxSpikeRatePercent]
      else []

theorem diagnostics_judgeTotals (a : TimingAnalyzer) (t : Totals) :
    (judgeTotals a (adjustment settings t) t log v).diagnostics =
      v.diagnostics ++ allowance settings t := by
  rw [judgeTotals, allowance]
  split
  · exact (List.append_nil _).symm
  · rfl

theorem diagnostics_judge (outcome : Except Failure Unit × Totals) :
    (judge settings baseline profile outcome log v).diagnostics =
      v.diagnostics ++ allowance settings outcome.2 ++
        findings settings baseline (adjustment settings outcome.2) v.framesObserved outcome.1 := by
  rcases outcome with ⟨failure | _, totals⟩
  · simp only [judge, Verdict.recordFailure, Verdict.diagnostics_push, diagnostics_judgeTotals,
      findings]
  · simp only [judge, findings]
    rw [Verdict.diagnostics_pushRegression]
    cases baseline with
    | none =>
      simp [Verdict.diagnostics_push_if, diagnostics_judgeTotals, framesObserved_judgeTotals,
        Verdict.compared]
    | some b =>
      have observed : ((judgeTotals (Scenario.analyzerFor profile settings)
          (adjustment settings totals) totals log v).push
            (.baselineComparison b.spikeCount (adjustment settings totals).unexpectedSpikes)
          ).framesObserved = v.framesObserved := framesObserved_judgeTotals _ _ _
      simp [Verdict.diagnostics_push_if, Verdict.diagnostics_push, diagnostics_judgeTotals, observed,
        Verdict.compared]

theorem timing_judge (outcome : Except Failure Unit × Totals) :
    (judge settings baseline profile outcome log v).timing =
      (judgeTotals (Scenario.analyzerFor profile settings) (adjustment settings outcome.2)
        outcome.2 log v).timing := by
  rcases outcome with ⟨failure | _, totals⟩
  · rfl
  · simp only [judge, Verdict.pushRegression]
    cases baseline <;> dsimp only <;> split <;> split <;> rfl

theorem expectedSpikes_not_mem_findings {adjusted : SpikeAdjustment} {frames : Nat}
    {outcome : Except Failure Unit} {expected unexpected gaps : Nat} :
    .expectedSpikes expected unexpected gaps ∉
      findings settings baseline adjusted frames outcome := by
  rcases outcome with failure | _
  · rw [findings, List.mem_singleton]
    rcases Diagnostic.ofFailure_cases failure with ⟨_, told⟩ | ⟨_, _, _, told⟩ | ⟨_, told⟩ <;>
      rw [told] <;> exact Diagnostic.noConfusion
  · simp only [findings, Verdict.compared, List.mem_append, not_or]
    refine ⟨⟨?_, ?_⟩, ?_⟩
    · cases baseline <;> simp
    · split <;> simp
    · split <;> simp

end ExtremeRecovery

namespace Experiment

theorem framesObserved_run (settings : Settings) (baseline : Option BaselineSummary)
    (e : Experiment) {b : Bench} {s : Selection}
    (selected : (e.query settings).select? b.device.profiles = some s) {c : Controller}
    (set : Scenario.controllerFor b s.profile settings = c) :
    (e.run settings baseline b).1.framesObserved =
      (e.driven settings c).2.finish.framesObserved := by
  rw [driven_controller]
  cases e with
  | baseline =>
    have verdict := Scenario.conduct_verdict (q := settings.profile) Baseline.name settings
      (Baseline.drive settings)
      (Baseline.judge settings) selected set
    rw [run, Baseline.run, verdict, Baseline.framesObserved_judge]
  | steadyState on mode =>
    have verdict :=
      Scenario.conduct_verdict (q := settings.profile.exactly) (SteadyState.name on mode) settings
      (SteadyState.drive settings on mode) SteadyState.judge selected set
    rw [run, SteadyState.run, verdict, SteadyState.framesObserved_judge]
  | rapidToggle mode =>
    have verdict :=
      Scenario.conduct_verdict (q := settings.profile) (RapidToggle.name mode) settings
      (RapidToggle.driven settings mode) (RapidToggle.judge settings baseline) selected set
    rw [run, RapidToggle.run, verdict, RapidToggle.framesObserved_judge]
  | extremeRecovery =>
    have verdict := Scenario.conduct_verdict (q := settings.profile) ExtremeRecovery.name settings
      (ExtremeRecovery.driven settings) (ExtremeRecovery.judge settings baseline) selected set
    rw [run, ExtremeRecovery.run, verdict, ExtremeRecovery.framesObserved_judge]

end Experiment

end ExposureBench
