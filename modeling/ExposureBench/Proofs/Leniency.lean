import ExposureBench.Proofs.Allowances
import ExposureBench.Proofs.Nearest
import ExposureBench.Proofs.SpikeBounds

namespace ExposureBench

theorem exactRate_mono {spikes gaps spikes' gaps' : Nat} (some : 1 ≤ gaps) (some' : 1 ≤ gaps')
    (le : spikes * gaps' ≤ spikes' * gaps) : exactRate spikes gaps ≤ exactRate spikes' gaps' := by
  have scaled : (spikes * gaps' : ℚ) ≤ spikes' * gaps := by exact_mod_cast le
  rw [exactRate, exactRate, Nat.max_eq_left some, Nat.max_eq_left some',
    div_le_div_iff₀ (by exact_mod_cast some) (by exact_mod_cast some')]
  linarith

namespace SpikeAdjustment

def exactRate (a : SpikeAdjustment) : ℚ :=
  ExposureBench.exactRate a.unexpectedSpikes a.adjustedGaps

variable {raw total e e' per iterations per' iterations' : Nat}

theorem expectedSpikes_of_lt (fits : per * iterations < UInt64.size) :
    (compute raw total per iterations).expectedSpikes = per * iterations :=
  countProduct_of_lt fits

theorem expectedSpikes_le (more : per * iterations ≤ per' * iterations')
    (fits : per' * iterations' < UInt64.size) :
    (compute raw total per iterations).expectedSpikes ≤
      (compute raw total per' iterations').expectedSpikes := by
  rw [expectedSpikes_of_lt fits]
  exact (countProduct_le per iterations).trans more

/-- If a spike is left, so is its gap, and neither count has come to its floor. -/
theorem unexpected_mul_le (part : raw ≤ total) (more : e ≤ e') :
    (raw - e') * max (total - e) 1 ≤ (raw - e) * max (total - e') 1 := by
  rcases Nat.lt_or_ge e' raw with left | none
  · obtain ⟨a, rfl⟩ := Nat.exists_eq_add_of_lt left
    obtain ⟨b, rfl⟩ := Nat.exists_eq_add_of_le part
    obtain ⟨d, rfl⟩ := Nat.exists_eq_add_of_le more
    have spikes : e + d + a + 1 - e = a + 1 + d := by omega
    have spikes' : e + d + a + 1 - (e + d) = a + 1 := by omega
    have gaps : max (e + d + a + 1 + b - e) 1 = a + 1 + b + d := by omega
    have gaps' : max (e + d + a + 1 + b - (e + d)) 1 = a + 1 + b := by omega
    rw [spikes, spikes', gaps, gaps']
    calc
      (a + 1) * (a + 1 + b + d) ≤ (a + 1) * (a + 1 + b + d) + d * b := Nat.le_add_right _ _
      _ = (a + 1 + d) * (a + 1 + b) := by ring
  · rw [Nat.sub_eq_zero_of_le none, Nat.zero_mul]
    exact Nat.zero_le _

theorem exactRate_antitone (part : raw ≤ total)
    (more : (compute raw total per iterations).expectedSpikes ≤
      (compute raw total per' iterations').expectedSpikes) :
    (compute raw total per' iterations').exactRate ≤ (compute raw total per iterations).exactRate :=
  exactRate_mono (Nat.le_max_right _ _) (Nat.le_max_right _ _) (unexpected_mul_le part more)

theorem exactRate_of_none (none : (compute raw total per iterations).expectedSpikes = 0) :
    (compute raw total per iterations).exactRate = ExposureBench.exactRate raw total := by
  dsimp only [compute] at none
  simp only [exactRate, compute, none, Nat.sub_zero, ExposureBench.exactRate, Nat.max_assoc,
    Nat.max_self]

theorem adjustedRatePercent_of_none
    (none : (compute raw total per iterations).expectedSpikes = 0) :
    (compute raw total per iterations).adjustedRatePercent =
      (compute raw total per iterations).rawRatePercent := by
  dsimp only [compute] at none
  simp only [compute, none, Nat.sub_zero, spikeRatePercent, Nat.max_assoc, Nat.max_self]

theorem exactRate_of_all (all : raw ≤ (compute raw total per iterations).expectedSpikes) :
    (compute raw total per iterations).exactRate = 0 := by
  dsimp only [compute] at all
  simp only [exactRate, compute, Nat.sub_eq_zero_of_le all, ExposureBench.exactRate, Nat.cast_zero,
    zero_mul, zero_div]

theorem adjustedRatePercent_of_all
    (all : raw ≤ (compute raw total per iterations).expectedSpikes) :
    (compute raw total per iterations).adjustedRatePercent = 0 := by
  dsimp only [compute] at all
  simp only [compute, Nat.sub_eq_zero_of_le all, Rounding.spikeRatePercent_zero]

theorem exactRate_monotone (total per iterations : Nat) :
    Monotone fun raw => (compute raw total per iterations).exactRate := by
  intro raw raw' le
  exact exactRate_mono (Nat.le_max_right _ _) (Nat.le_max_right _ _)
    (Nat.mul_le_mul_right _ (Nat.sub_le_sub_right le _))

theorem reached_of_lenient (part : raw ≤ total) (counted : total < 2 ^ 53)
    (more : (compute raw total per iterations).expectedSpikes ≤
      (compute raw total per' iterations').expectedSpikes) {ceiling : Float}
    (reached : ceiling ≤ (compute raw total per' iterations').adjustedRatePercent) :
    ceiling ≤ (compute raw total per iterations).adjustedRatePercent := by
  refine Nearest.spikeRatePercent_mono (unexpected_mul_le part more) ?_ ?_ ?_ ?_ ?_ ?_ reached <;>
    omega

/-- Where a count is not converted exactly, expecting a spike can seem to raise the rate. -/
example : (compute (2 ^ 53 + 1) (2 ^ 53 + 2) 0 1).adjustedRatePercent < 100.0 ∧
    100.0 ≤ (compute (2 ^ 53 + 1) (2 ^ 53 + 2) 1 1).adjustedRatePercent := by decide +kernel

end SpikeAdjustment

theorem Verdict.passed_iff (v : Verdict) :
    v.status = .passed ↔ ∀ d ∈ v.diagnostics, d.isFailure = false ∧ d.isSkip = false := by
  rw [status]
  split
  next failed =>
    obtain ⟨d, member, failure⟩ := List.any_eq_true.mp failed
    refine iff_of_false VerdictStatus.noConfusion fun clear => ?_
    rw [(clear d member).1] at failure
    cases failure
  next unfailed =>
    split
    next skipped =>
      obtain ⟨d, member, skip⟩ := List.any_eq_true.mp skipped
      refine iff_of_false VerdictStatus.noConfusion fun clear => ?_
      rw [(clear d member).2] at skip
      cases skip
    next unskipped =>
      refine iff_of_true rfl fun d member => ⟨?_, ?_⟩
      · exact Bool.eq_false_of_not_eq_true fun failure =>
          unfailed (List.any_eq_true.mpr ⟨d, member, failure⟩)
      · exact Bool.eq_false_of_not_eq_true fun skip =>
          unskipped (List.any_eq_true.mpr ⟨d, member, skip⟩)

def Verdict.Regressed (v : Verdict) : Prop :=
  ∃ raw adjusted ceiling, .timingRegression raw adjusted ceiling ∈ v.diagnostics

namespace ExtremeRecovery

section Findings

variable {settings : Settings} {baseline : Option BaselineSummary} {adjusted : SpikeAdjustment}
  {frames : Nat} {outcome : Except Failure Unit}

theorem regression_mem_findings_iff :
    (∃ raw rate ceiling, .timingRegression raw rate ceiling ∈
        findings settings baseline adjusted frames outcome) ↔
      outcome = .ok () ∧ settings.timing.maxSpikeRatePercent ≤ adjusted.adjustedRatePercent := by
  constructor
  · rintro ⟨raw, rate, ceiling, member⟩
    refine ⟨?_, regression_mem_findings member⟩
    rcases outcome with failure | _
    · rw [findings, List.mem_singleton] at member
      have plain := Diagnostic.isRate_ofFailure failure
      rw [← member] at plain
      cases plain
    · rfl
  · rintro ⟨rfl, reached⟩
    refine ⟨adjusted.rawRatePercent, adjusted.adjustedRatePercent,
      settings.timing.maxSpikeRatePercent, List.mem_append_right _ ?_⟩
    rw [if_pos reached]
    exact List.mem_singleton_self _

/-- A run of recoveries adds nothing grave to its verdict if it came to its end, frames were
observed and the adjusted rate is below the ceiling. -/
theorem calm_findings_iff :
    (∀ d ∈ findings settings baseline adjusted frames outcome,
        d.isFailure = false ∧ d.isSkip = false) ↔
      outcome = .ok () ∧ frames ≠ 0 ∧
        ¬ settings.timing.maxSpikeRatePercent ≤ adjusted.adjustedRatePercent := by
  rcases outcome with failure | _
  · refine iff_of_false (fun calm => ?_) (fun passes => nomatch passes.1)
    have told := calm _ (List.mem_singleton_self _)
    rcases Diagnostic.ofFailure_cases failure with ⟨_, same⟩ | ⟨_, _, _, same⟩ | ⟨_, same⟩ <;>
      rw [same] at told
    · cases told.2
    · cases told.1
    · cases told.1
  · have comparison : ∀ d ∈ Verdict.compared baseline adjusted.unexpectedSpikes,
        d.isFailure = false ∧ d.isSkip = false := by
      intro d member
      cases baseline with
      | none => cases member
      | some b =>
        cases List.mem_singleton.mp member
        exact ⟨rfl, rfl⟩
    have only (p : Prop) [Decidable p] {d : Diagnostic} (failure : d.isFailure) :
        (∀ d' ∈ if p then [d] else [], d'.isFailure = false ∧ d'.isSkip = false) ↔ ¬ p := by
      split
      next holds => simp [holds, failure]
      next fails => simp [fails]
    simp only [findings, List.forall_mem_append, true_and]
    rw [only _ rfl, only _ rfl, and_iff_right comparison]

end Findings

section Runs

variable {settings : Settings} {baseline : Option BaselineSummary} {b : Bench} {s : Selection}
  {c : Controller} {skip expected expected' : Nat}

def totalsLeft (settings : Settings) (skip : Nat) (c : Controller) : Totals :=
  .ofWindows (Scenario.analyzerFor c.session.profile settings) skip (recoveredTimes settings c)

theorem spikes_totalsLeft (settings : Settings) (skip : Nat) (c : Controller) :
    (totalsLeft settings skip c).spikes ≤ (totalsLeft settings skip c).gaps :=
  spikes_le_gaps _ _

theorem diagnostics_allowing
    (selected : settings.profile.select? b.device.profiles = some s)
    (set : Scenario.controllerFor b s.profile settings = c) (skip expected : Nat) :
    (run (settings.allowing skip expected) baseline b).1.diagnostics =
      settings.profile.notes b.device.profiles ++
        allowance (settings.allowing skip expected) (totalsLeft settings skip c) ++
        findings (settings.allowing skip expected) baseline
          (adjustment (settings.allowing skip expected) (totalsLeft settings skip c))
          (driven settings c).2.finish.framesObserved (driven settings c).1.1 := by
  have told := diagnostics_run (settings.allowing skip expected) baseline (b := b) selected set
  rwa [driven_allowing] at told

theorem passed_allowing_iff
    (selected : settings.profile.select? b.device.profiles = some s)
    (set : Scenario.controllerFor b s.profile settings = c) :
    (run (settings.allowing skip expected) baseline b).1.status = .passed ↔
      (driven settings c).1.1 = .ok () ∧ (driven settings c).2.finish.framesObserved ≠ 0 ∧
        ¬ settings.timing.maxSpikeRatePercent ≤ (adjustment (settings.allowing skip expected)
          (totalsLeft settings skip c)).adjustedRatePercent := by
  have notes : ∀ d ∈ settings.profile.notes b.device.profiles,
      d.isFailure = false ∧ d.isSkip = false := by
    intro d member
    rw [ProfileQuery.notes, selected] at member
    rcases s with ⟨profile, _ | _⟩
    · cases List.mem_singleton.mp member
      exact ⟨rfl, rfl⟩
    · cases member
  have allowed : ∀ d ∈ allowance (settings.allowing skip expected) (totalsLeft settings skip c),
      d.isFailure = false ∧ d.isSkip = false := by
    intro d member
    rw [allowance] at member
    split at member
    · cases member
    · cases List.mem_singleton.mp member
      exact ⟨rfl, rfl⟩
  rw [Verdict.passed_iff, diagnostics_allowing selected set, List.forall_mem_append,
    List.forall_mem_append, and_iff_right ⟨notes, allowed⟩, calm_findings_iff]
  rfl

theorem regressed_allowing_iff
    (selected : settings.profile.select? b.device.profiles = some s)
    (set : Scenario.controllerFor b s.profile settings = c) :
    (run (settings.allowing skip expected) baseline b).1.Regressed ↔
      (driven settings c).1.1 = .ok () ∧
        settings.timing.maxSpikeRatePercent ≤ (adjustment (settings.allowing skip expected)
          (totalsLeft settings skip c)).adjustedRatePercent := by
  have told (raw adjusted ceiling : Float) :
      .timingRegression raw adjusted ceiling ∈
          (run (settings.allowing skip expected) baseline b).1.diagnostics ↔
        .timingRegression raw adjusted ceiling ∈ findings (settings.allowing skip expected) baseline
          (adjustment (settings.allowing skip expected) (totalsLeft settings skip c))
          (driven settings c).2.finish.framesObserved (driven settings c).1.1 := by
    rw [diagnostics_allowing selected set, List.mem_append, List.mem_append, or_iff_right]
    rintro (note | allowed)
    · cases ProfileQuery.isRate_notes note
    · rw [allowance] at allowed
      split at allowed
      · cases allowed
      · cases List.mem_singleton.mp allowed
  simp only [Verdict.Regressed, told]
  exact regression_mem_findings_iff

theorem expectedSpikes_allowing {e u g : Nat}
    (selected : settings.profile.select? b.device.profiles = some s)
    (set : Scenario.controllerFor b s.profile settings = c)
    (told : .expectedSpikes e u g ∈
      (run (settings.allowing skip expected) baseline b).1.diagnostics) :
    exactRate u g =
      (adjustment (settings.allowing skip expected) (totalsLeft settings skip c)).exactRate := by
  rw [diagnostics_allowing selected set, List.mem_append, List.mem_append] at told
  rcases told with (note | allowed) | finding
  · cases ProfileQuery.isRate_notes note
  · rw [allowance] at allowed
    split at allowed
    · cases allowed
    · cases List.mem_singleton.mp allowed
      rfl
  · exact absurd finding expectedSpikes_not_mem_findings

theorem gaps_totalsLeft
    (selected : settings.profile.select? b.device.profiles = some s)
    (set : Scenario.controllerFor b s.profile settings = c) :
    (totalsLeft settings skip c).gaps ≤
      (run (settings.allowing skip expected) baseline b).1.framesObserved := by
  have observed : (run (settings.allowing skip expected) baseline b).1.framesObserved =
      (driven settings c).2.framesObserved := by
    rw [run_allowing, selected]
    dsimp only
    rw [framesObserved_judge, set, Controller.finish_eq, Controller.framesObserved_tornDown]
  rw [observed]
  exact (driven_fed settings c).gaps_le

theorem expectedSpikes_allowing_le (settings : Settings) (skip : Nat) (c : Controller)
    (more : expected ≤ expected')
    (fits : expected' * settings.extremeRecovery.iterations < UInt64.size) :
    (adjustment (settings.allowing skip expected) (totalsLeft settings skip c)).expectedSpikes ≤
      (adjustment (settings.allowing skip expected')
        (totalsLeft settings skip c)).expectedSpikes := by
  -- No more iterations are completed than are asked for, so what they expect fits as well.
  have completed : (totalsLeft settings skip c).iterations ≤
      settings.extremeRecovery.iterations := by
    change (recoveredTimes settings c).length ≤ _
    rw [recoveredTimes, List.length_map]
    exact (driven_completed settings c).length_le
  exact SpikeAdjustment.expectedSpikes_le (Nat.mul_le_mul_right _ more)
    ((Nat.mul_le_mul_left _ completed).trans_lt fits)

theorem reached_of_expecting_more
    (selected : settings.profile.select? b.device.profiles = some s)
    (set : Scenario.controllerFor b s.profile settings = c) (more : expected ≤ expected')
    (fits : expected' * settings.extremeRecovery.iterations < UInt64.size)
    (countable : (run (settings.allowing skip expected) baseline b).1.framesObserved < 2 ^ 53)
    {ceiling : Float}
    (reached : ceiling ≤ (adjustment (settings.allowing skip expected')
      (totalsLeft settings skip c)).adjustedRatePercent) :
    ceiling ≤ (adjustment (settings.allowing skip expected)
      (totalsLeft settings skip c)).adjustedRatePercent :=
  SpikeAdjustment.reached_of_lenient (spikes_totalsLeft settings skip c)
    ((gaps_totalsLeft selected set).trans_lt countable)
    (expectedSpikes_allowing_le settings skip c more fits) reached

end Runs

/-- What expecting more spikes changes. The exact rate of the others is antitone in the number
expected, from the raw rate down to zero, and monotone in the spikes. A run of recoveries makes the
same calls and leaves the same bench, whatever it expects. Unless what all its iterations may expect
wraps, the exact rate that it tells is no higher if it expects more, nor is the rounded one as long
as its frames are counted exactly. So what has passed still passes, and no regression is told that
has not been told before. -/
theorem leniency_monotone :
    (∀ raw total per iterations per' iterations' : Nat,
      let strict := SpikeAdjustment.compute raw total per iterations
      let lenient := SpikeAdjustment.compute raw total per' iterations'
      raw ≤ total → strict.expectedSpikes ≤ lenient.expectedSpikes →
      lenient.unexpectedSpikes * strict.adjustedGaps ≤
          strict.unexpectedSpikes * lenient.adjustedGaps ∧
        lenient.exactRate ≤ strict.exactRate) ∧
    (∀ raw total per iterations : Nat,
      let adjusted := SpikeAdjustment.compute raw total per iterations
      (per * iterations < UInt64.size → adjusted.expectedSpikes = per * iterations) ∧
      (adjusted.expectedSpikes = 0 → adjusted.exactRate = exactRate raw total ∧
        adjusted.adjustedRatePercent = adjusted.rawRatePercent) ∧
      (raw ≤ total → adjusted.exactRate ≤ exactRate raw total) ∧
      (raw ≤ adjusted.expectedSpikes → adjusted.exactRate = 0 ∧ adjusted.adjustedRatePercent = 0) ∧
      Monotone fun raw => (SpikeAdjustment.compute raw total per iterations).exactRate) ∧
    ∀ (settings : Settings) (baseline : Option BaselineSummary) (b : Bench)
      (skip expected expected' : Nat),
      let strict := run (settings.allowing skip expected) baseline b
      let lenient := run (settings.allowing skip expected') baseline b
      strict.2 = lenient.2 ∧
      (expected ≤ expected' →
        expected' * settings.extremeRecovery.iterations < UInt64.size →
        (∀ e u g e' u' g', .expectedSpikes e u g ∈ strict.1.diagnostics →
          .expectedSpikes e' u' g' ∈ lenient.1.diagnostics → exactRate u' g' ≤ exactRate u g) ∧
        (strict.1.framesObserved < 2 ^ 53 →
          (strict.1.status = .passed → lenient.1.status = .passed) ∧
          (lenient.1.Regressed → strict.1.Regressed))) := by
  refine ⟨?_, ?_, ?_⟩
  · intro raw total per iterations per' iterations' strict lenient part more
    exact ⟨SpikeAdjustment.unexpected_mul_le part more,
      SpikeAdjustment.exactRate_antitone part more⟩
  · intro raw total per iterations adjusted
    refine ⟨SpikeAdjustment.expectedSpikes_of_lt, fun none => ?_, fun part => ?_, fun all => ?_, ?_⟩
    · exact ⟨SpikeAdjustment.exactRate_of_none none,
        SpikeAdjustment.adjustedRatePercent_of_none none⟩
    · have none : (SpikeAdjustment.compute raw total 0 0).expectedSpikes = 0 := rfl
      rw [← SpikeAdjustment.exactRate_of_none none]
      exact SpikeAdjustment.exactRate_antitone part (none ▸ Nat.zero_le _)
    · exact ⟨SpikeAdjustment.exactRate_of_all all, SpikeAdjustment.adjustedRatePercent_of_all all⟩
    · exact SpikeAdjustment.exactRate_monotone total per iterations
  · intro settings baseline b skip expected expected' strict lenient
    rcases selected : settings.profile.select? b.device.profiles with _ | s
    · have skips (expected : Nat) : run (settings.allowing skip expected) baseline b =
          ((Scenario.selectProfile b.device settings.profile { name }).2, b) := by
        rw [run_allowing, selected]
      have same : strict = lenient := (skips expected).trans (skips expected').symm
      rw [← same]
      refine ⟨rfl, fun _ _ => ⟨fun _ _ _ _ _ _ told => ?_, fun _ => ⟨id, id⟩⟩⟩
      simp only [strict, skips] at told
      cases Scenario.isRate_selectProfile _ _ _ _ told
    · obtain ⟨c, set⟩ : ∃ c, Scenario.controllerFor b s.profile settings = c := ⟨_, rfl⟩
      refine ⟨?_, fun more fits => ⟨fun _ _ _ _ _ _ told told' => ?_, fun countable => ?_⟩⟩
      · simp only [strict, lenient, run_allowing, selected]
      · rw [expectedSpikes_allowing selected set told, expectedSpikes_allowing selected set told']
        exact SpikeAdjustment.exactRate_antitone (spikes_totalsLeft settings skip c)
          (expectedSpikes_allowing_le settings skip c more fits)
      · simp only [strict, lenient, passed_allowing_iff selected set,
          regressed_allowing_iff selected set]
        constructor
        · rintro ⟨done, observed, calm⟩
          exact ⟨done, observed, fun reached =>
            calm (reached_of_expecting_more selected set more fits countable reached)⟩
        · rintro ⟨done, reached⟩
          exact ⟨done, reached_of_expecting_more selected set more fits countable reached⟩

def sensitive : Settings where
  timing := { spikeThresholdPercent := -0.000001, maxSpikeRatePercent := 40.0 }
  extremeRecovery := { iterations := 2, manualHoldMs := 200, autoHoldMs := 300 }

/-- Of sixteen gaps seven are spikes, which passes if one of each iteration is expected, and so if
two are. -/
theorem sensitive_lenient :
    let strict := run (sensitive.allowing 2 1) none { device := .camera (.ofConfig .default) }
    let lenient := run (sensitive.allowing 2 2) none { device := .camera (.ofConfig .default) }
    (SpikeAdjustment.compute 7 16 2 2).exactRate ≤ (SpikeAdjustment.compute 7 16 1 2).exactRate ∧
      strict.1.framesObserved < 2 ^ 53 ∧ strict.1.status = .passed ∧
      lenient.1.status = .passed := by
  obtain ⟨exact, -, runs⟩ := leniency_monotone
  obtain ⟨-, keeps⟩ := runs sensitive none { device := .camera (.ofConfig .default) } 2 1 2
  obtain ⟨-, keeps⟩ := keeps (by decide) (by decide)
  have countable : (run (sensitive.allowing 2 1) none
      { device := .camera (.ofConfig .default) }).1.framesObserved < 2 ^ 53 := by decide +kernel
  have passes : (run (sensitive.allowing 2 1) none
      { device := .camera (.ofConfig .default) }).1.status = .passed := by decide +kernel
  exact ⟨(exact 7 16 1 2 2 2 (by decide) (by decide)).2, countable, passes,
    (keeps countable).1 passes⟩

end ExtremeRecovery

end ExposureBench
