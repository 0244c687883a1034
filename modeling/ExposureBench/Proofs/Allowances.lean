import ExposureBench.Proofs.Recoveries

namespace ExposureBench

/-- The settings with other allowances for the switches of an iteration. -/
def Settings.allowing (settings : Settings) (skip expected : Nat) : Settings :=
  { settings with extremeRecovery := { settings.extremeRecovery with
      transitionFramesToSkip := skip, expectedSpikesPerIteration := expected } }

namespace ExtremeRecovery

variable (settings : Settings) (skip expected : Nat)

section Drives

theorem iterationsPlan_allowing (exposure : Float) (left : Nat) :
    iterationsPlan (settings.allowing skip expected) exposure left =
      iterationsPlan settings exposure left := by
  induction left with
  | zero => rfl
  | succ left ih =>
    rw [iterationsPlan, ih]
    rfl

theorem plan_allowing (profile : StreamProfile) (device : Device) :
    Experiment.extremeRecovery.plan (settings.allowing skip expected) profile device =
      Experiment.extremeRecovery.plan settings profile device := by
  simp only [Experiment.plan, iterationsPlan_allowing]
  rfl

theorem driven_allowing (c : Controller) :
    driven (settings.allowing skip expected) c =
      (((driven settings c).1.1,
        .ofWindows (Scenario.analyzerFor c.session.profile settings) skip
          (recoveredTimes settings c)),
        (driven settings c).2) := by
  have steps : Experiment.extremeRecovery.steps (settings.allowing skip expected) c =
      Experiment.extremeRecovery.steps settings c := by
    rw [Experiment.steps, plan_allowing, Experiment.steps]
  have drives : ((driven (settings.allowing skip expected) c).1.1,
      (driven (settings.allowing skip expected) c).2) =
        ((driven settings c).1.1, (driven settings c).2) := by
    rw [driven_eq, driven_eq, Experiment.driven, plan_allowing, Experiment.driven]
  obtain ⟨outcome, left⟩ := Prod.mk.inj drives
  have totals := totals_eq (settings.allowing skip expected) c
  rw [recoveredTimes, steps, left] at totals
  exact Prod.ext (Prod.ext outcome totals) left

end Drives

end ExtremeRecovery

def TimingSummary.unaveraged (t : TimingSummary) : TimingSummary := { t with avgFrameTimeMs := 0 }

def Verdict.unaveraged (v : Verdict) : Verdict := { v with timing := v.timing.map (·.unaveraged) }

namespace ExtremeRecovery

section Judges

variable {settings : Settings} {baseline : Option BaselineSummary} {profile : StreamProfile}
  {log : FrameLog} {v : Verdict}

theorem name_judge (outcome : Except Failure Unit × Totals) :
    (judge settings baseline profile outcome log v).name = v.name := by
  rcases outcome with ⟨failure | _, t⟩
  · simp only [judge, judgeTotals, Verdict.recordFailure, Verdict.push]
    split <;> rfl
  · simp only [judge, judgeTotals, Verdict.pushRegression, Verdict.push]
    cases baseline <;> dsimp only <;> split <;> split <;> split <;> rfl

theorem metadataMismatches_judge (outcome : Except Failure Unit × Totals) :
    (judge settings baseline profile outcome log v).metadataMismatches = v.metadataMismatches := by
  rcases outcome with ⟨failure | _, t⟩
  · simp only [judge, judgeTotals, Verdict.recordFailure, Verdict.push]
    split <;> rfl
  · simp only [judge, judgeTotals, Verdict.pushRegression, Verdict.push]
    cases baseline <;> dsimp only <;> split <;> split <;> split <;> rfl

theorem unaveraged_judge (settings : Settings) (skip skip' expected : Nat)
    (outcome : Except Failure Unit) (t : Totals) (mean : GapMean) :
    (judge (settings.allowing skip expected) baseline profile
        (outcome, { t with mean }) log v).unaveraged =
      (judge (settings.allowing skip' expected) baseline profile (outcome, t) log v).unaveraged := by
  have adjusted : adjustment (settings.allowing skip expected) { t with mean } =
      adjustment (settings.allowing skip' expected) t := rfl
  have timing : (judge (settings.allowing skip expected) baseline profile
      (outcome, { t with mean }) log v).timing.map (·.unaveraged) =
        (judge (settings.allowing skip' expected) baseline profile
          (outcome, t) log v).timing.map (·.unaveraged) := by
    rw [timing_judge, timing_judge, adjusted, judgeTotals, judgeTotals]
    split
    · rfl
    · simp only [Verdict.push, Option.map_some, TimingSummary.unaveraged]
      rfl
  simp only [Verdict.unaveraged, Verdict.mk.injEq]
  refine ⟨?_, ?_, ?_, timing, ?_⟩
  · rw [name_judge, name_judge]
  · rw [framesObserved_judge, framesObserved_judge]
  · rw [metadataMismatches_judge, metadataMismatches_judge]
  · rw [diagnostics_judge, diagnostics_judge, adjusted, allowance, allowance, adjusted]
    rfl

end Judges

theorem run_allowing (settings : Settings) (skip expected : Nat) (baseline : Option BaselineSummary)
    (b : Bench) :
    run (settings.allowing skip expected) baseline b =
      match settings.profile.select? b.device.profiles with
      | none => ((Scenario.selectProfile b.device settings.profile { name }).2, b)
      | some s =>
        let c := Scenario.controllerFor b s.profile settings
        let left := (driven settings c).2.finish
        (judge (settings.allowing skip expected) baseline s.profile
          ((driven settings c).1.1,
            .ofWindows (Scenario.analyzerFor s.profile settings) skip (recoveredTimes settings c))
          (Scenario.recorded left)
          { (Scenario.selectProfile b.device settings.profile { name }).2
            with framesObserved := left.framesObserved },
          left.bench) := by
  have profile : (settings.allowing skip expected).profile = settings.profile := rfl
  rw [run, Scenario.conduct_eq, profile]
  rcases settings.profile.select? b.device.profiles with _ | s
  · rfl
  · have set : Scenario.controllerFor b s.profile (settings.allowing skip expected) =
        Scenario.controllerFor b s.profile settings := rfl
    simp only [set, driven_allowing]
    rfl

theorem counted_measure (a : TimingAnalyzer) (ts : Array Float) (skip : Nat) (mean : GapMean) :
    (RecoveryWindow.measure ts a skip mean).2.count +
        ((gaps ts.toList).drop skip).countP (a.threshold < ·) =
      mean.count + (ts.size - 1 - skip) := by
  have every := countP_add_length_calm a.threshold ((gaps ts.toList).drop skip)
  have length : ((gaps ts.toList).drop skip).length = ts.size - 1 - skip := by
    rw [List.length_drop, length_gaps, Array.length_toList]
  have counted : (RecoveryWindow.measure ts a skip mean).2.count = mean.count +
      (((gaps ts.toList).drop skip).filter fun gap => !decide (a.threshold < gap)).length := by
    rw [RecoveryWindow.measure, GapMean.addRange_to_end]
    rfl
  rw [counted, ← length, ← every]
  omega

theorem antitone_counted (a : TimingAnalyzer) (ts : Array Float) (mean : GapMean) :
    Antitone fun skip => (RecoveryWindow.measure ts a skip mean).2.count := by
  intro skip skip' le
  have fewer : ((gaps ts.toList).drop skip').Sublist ((gaps ts.toList).drop skip) := by
    obtain ⟨more, rfl⟩ := Nat.exists_eq_add_of_le le
    rw [← List.drop_drop]
    exact List.drop_sublist _ _
  simp only [RecoveryWindow.measure, GapMean.addRange_to_end]
  exact Nat.add_le_add_left (fewer.filter _).length_le _

/-- However many frames after a switch are left out of the mean, a run of recoveries makes the same
calls at the same times, leaves the same bench and tells the same, but for the average. Of a window,
the mean takes the gaps that end after the frames left out, without the spikes among them; so it
never takes more if more are left out. -/
theorem skips_only_average (settings : Settings) (baseline : Option BaselineSummary) (b : Bench)
    (expected skip skip' : Nat) :
    let told := run (settings.allowing skip expected) baseline b
    let other := run (settings.allowing skip' expected) baseline b
    (told.2 = other.2 ∧ told.1.name = other.1.name ∧
      told.1.framesObserved = other.1.framesObserved ∧
      told.1.metadataMismatches = other.1.metadataMismatches ∧
      told.1.timing.map (·.unaveraged) = other.1.timing.map (·.unaveraged) ∧
      told.1.diagnostics = other.1.diagnostics) ∧
    ∀ (a : TimingAnalyzer) (window : Array Float) (mean : GapMean),
      (∀ skip, (RecoveryWindow.measure window a skip mean).2.count +
          ((gaps window.toList).drop skip).countP (a.threshold < ·) =
        mean.count + (window.size - 1 - skip)) ∧
      Antitone fun skip => (RecoveryWindow.measure window a skip mean).2.count := by
  intro told other
  have same : told.2 = other.2 ∧ told.1.unaveraged = other.1.unaveraged := by
    simp only [told, other, run_allowing]
    rcases settings.profile.select? b.device.profiles with _ | s
    · exact ⟨rfl, rfl⟩
    · dsimp only
      exact ⟨rfl, unaveraged_judge settings skip skip' expected _ (.ofWindows _ skip' _)
        (Totals.ofWindows _ skip _).mean⟩
  obtain ⟨left, same⟩ := same
  obtain ⟨name, frames, mismatches, timing, diagnostics⟩ := Verdict.mk.inj same
  exact ⟨⟨left, name, frames, mismatches, timing, diagnostics⟩, fun a window mean =>
    ⟨fun skip => counted_measure a window skip mean, antitone_counted a window mean⟩⟩

end ExtremeRecovery

end ExposureBench
