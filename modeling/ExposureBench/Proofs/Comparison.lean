import ExposureBench.Proofs.Experiment

/-! What a baseline can change: the comparisons that verdicts tell, and nothing else. -/

namespace ExposureBench

def Diagnostic.isComparison : Diagnostic → Bool
  | .baselineComparison .. => true
  | _ => false

namespace Verdict

variable (v : Verdict)

/-- A verdict without its comparisons. -/
def uncompared : Verdict :=
  { v with diagnostics := v.diagnostics.filter (!·.isComparison) }

theorem uncompared_push_comparison {d : Diagnostic} (comparison : d.isComparison) :
    (v.push d).uncompared = v.uncompared := by
  rw [uncompared, push, List.filter_append, List.filter_singleton, comparison]
  exact congrArg (Verdict.mk _ _ _ _) (List.append_nil _)

theorem uncompared_push_finding {d : Diagnostic} (finding : d.isComparison = false) :
    (v.push d).uncompared = v.uncompared.push d := by
  rw [uncompared, push, List.filter_append, List.filter_singleton, finding]
  rfl

theorem uncompared_push_if_finding {d : Diagnostic} (finding : d.isComparison = false) (p : Prop)
    [Decidable p] :
    (if p then v.push d else v).uncompared = if p then v.uncompared.push d else v.uncompared := by
  split
  · exact v.uncompared_push_finding finding
  · rfl

theorem uncompared_pushRegression (raw adjusted ceiling : Float) :
    (v.pushRegression raw adjusted ceiling).uncompared =
      v.uncompared.pushRegression raw adjusted ceiling :=
  v.uncompared_push_if_finding rfl _

theorem status_uncompared : v.uncompared.status = v.status := by
  have weightless (p : Diagnostic → Bool)
      (passes : ∀ baselineSpikes spikes, p (.baselineComparison baselineSpikes spikes) = false) :
      v.uncompared.diagnostics.any p = v.diagnostics.any p := by
    rw [uncompared, List.any_filter]
    congr 1
    funext d
    cases d with
    | baselineComparison baselineSpikes spikes => exact (passes baselineSpikes spikes).symm
    | _ => exact Bool.true_and _
  rw [status, status, weightless _ fun _ _ => rfl, weightless _ fun _ _ => rfl]

end Verdict

section Judges

variable (settings : Settings) (baseline : Option BaselineSummary) (profile : StreamProfile)

theorem RapidToggle.uncompared_judgeTiming (summary : TimingSummary) (v : Verdict) :
    (judgeTiming settings baseline summary v).uncompared =
      (judgeTiming settings none summary v).uncompared := by
  cases baseline with
  | none => rfl
  | some b =>
    simp only [judgeTiming, Verdict.uncompared_pushRegression]
    rw [Verdict.uncompared_push_comparison _ rfl]

theorem RapidToggle.uncompared_judge (outcome : Except Failure Unit × Consistency) (log : FrameLog)
    (v : Verdict) :
    (judge settings baseline profile outcome log v).uncompared =
      (judge settings none profile outcome log v).uncompared := by
  rcases outcome with ⟨failure | _, checks⟩
  · rfl
  · exact uncompared_judgeTiming ..

theorem ExtremeRecovery.uncompared_judge (outcome : Except Failure Unit × Totals) (log : FrameLog)
    (v : Verdict) :
    (judge settings baseline profile outcome log v).uncompared =
      (judge settings none profile outcome log v).uncompared := by
  rcases outcome with ⟨failure | _, totals⟩
  · rfl
  · cases baseline with
    | none => rfl
    | some b =>
      -- The comparison stands before the shortfall, which does not look at it.
      simp only [judge, Verdict.uncompared_pushRegression]
      rw [Verdict.uncompared_push_if_finding _ rfl, Verdict.uncompared_push_if_finding _ rfl,
        Verdict.uncompared_push_comparison _ rfl]
      rfl

end Judges

theorem Scenario.conduct_uncompared {α : Type} (name : String) (q : ProfileQuery)
    (settings : Settings) (drive : Controller → α × Controller)
    {judge judge' : StreamProfile → α → FrameLog → Verdict → Verdict}
    (agree : ∀ profile outcome log v,
      (judge profile outcome log v).uncompared = (judge' profile outcome log v).uncompared)
    (b : Bench) :
    (conduct name q settings drive judge b).1.uncompared =
        (conduct name q settings drive judge' b).1.uncompared ∧
      (conduct name q settings drive judge b).2 = (conduct name q settings drive judge' b).2 := by
  rw [conduct_eq, conduct_eq]
  cases q.select? b.device.profiles with
  | none => exact ⟨rfl, rfl⟩
  | some s => exact ⟨agree .., rfl⟩

namespace Experiment

theorem run_uncompared (settings : Settings) (baseline : Option BaselineSummary) (e : Experiment)
    (b : Bench) :
    (e.run settings baseline b).1.uncompared = (e.run settings none b).1.uncompared ∧
      (e.run settings baseline b).2 = (e.run settings none b).2 := by
  cases e with
  | baseline => exact ⟨rfl, rfl⟩
  | steadyState on mode => exact ⟨rfl, rfl⟩
  | rapidToggle mode =>
    rw [run, run, RapidToggle.run, RapidToggle.run]
    exact Scenario.conduct_uncompared _ _ _ _ (RapidToggle.uncompared_judge settings baseline) b
  | extremeRecovery =>
    rw [run, run, ExtremeRecovery.run, ExtremeRecovery.run]
    exact Scenario.conduct_uncompared _ _ _ _ (ExtremeRecovery.uncompared_judge settings baseline) b

/-- Whatever baseline an experiment is told, it makes the same calls at the same times and leaves
the same bench. Its verdict has the same status and the same measurements, and apart from
comparisons the same diagnostics. -/
theorem baseline_informational (settings : Settings) (baseline baseline' : Option BaselineSummary)
    (e : Experiment) (b : Bench) :
    let told := e.run settings baseline b
    let other := e.run settings baseline' b
    told.2 = other.2 ∧
      told.1.name = other.1.name ∧ told.1.status = other.1.status ∧
      told.1.framesObserved = other.1.framesObserved ∧
      told.1.metadataMismatches = other.1.metadataMismatches ∧
      told.1.timing = other.1.timing ∧
      told.1.diagnostics.filter (!·.isComparison) =
        other.1.diagnostics.filter (!·.isComparison) := by
  intro told other
  obtain ⟨alone, left⟩ := run_uncompared settings baseline e b
  obtain ⟨alone', left'⟩ := run_uncompared settings baseline' e b
  have same : told.1.uncompared = other.1.uncompared := alone.trans alone'.symm
  have status : told.1.status = other.1.status := by
    rw [← Verdict.status_uncompared, same, Verdict.status_uncompared]
  obtain ⟨name, frames, mismatches, timing, diagnostics⟩ := Verdict.mk.inj same
  exact ⟨left.trans left'.symm, name, status, frames, mismatches, timing, diagnostics⟩

end Experiment

end ExposureBench
