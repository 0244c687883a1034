import ExposureBench.Proofs.Diagnostics

namespace ExposureBench

namespace Diagnostic

def isCause : Diagnostic → Bool
  | .skipped _ | .stalled .. | .deviceFailure _ => true
  | _ => false

theorem isCause_ofFailure (failure : Failure) : (ofFailure failure).isCause := by
  cases failure <;> rfl

theorem isCause_of_isSkip {d : Diagnostic} (skip : d.isSkip) : d.isCause := by
  cases d with
  | skipped => rfl
  | _ => cases skip

theorem isSkip_ofFailure (failure : Failure) : (ofFailure failure).isSkip = failure.isSkip := by
  cases failure <;> rfl

theorem isFailure_ofFailure (failure : Failure) :
    (ofFailure failure).isFailure = !failure.isSkip := by
  cases failure <;> rfl

end Diagnostic

/-- What is to be told of the end of a drive. -/
def causeOf {α : Type} : Except Failure α → List Diagnostic
  | .ok _ => []
  | .error failure => [.ofFailure failure]

theorem causeOf_map {α β : Type} (f : α → β) (outcome : Except Failure α) :
    causeOf (outcome.map f) = causeOf outcome := by
  cases outcome <;> rfl

namespace Verdict

def causes (v : Verdict) : List Diagnostic := v.diagnostics.filter (·.isCause)

theorem mem_causes {v : Verdict} {d : Diagnostic} :
    d ∈ v.causes ↔ d ∈ v.diagnostics ∧ d.isCause :=
  List.mem_filter

variable (v : Verdict)

theorem causes_push (d : Diagnostic) : (v.push d).causes = v.causes ++ [d].filter (·.isCause) :=
  List.filter_append ..

theorem causes_push_finding {d : Diagnostic} (finding : d.isCause = false) :
    (v.push d).causes = v.causes := by
  rw [causes_push, List.filter_singleton, finding]
  exact List.append_nil _

theorem causes_push_if {d : Diagnostic} (finding : d.isCause = false) (p : Prop) [Decidable p] :
    (if p then v.push d else v).causes = v.causes := by
  split
  · exact v.causes_push_finding finding
  · rfl

theorem causes_recordFailure (failure : Failure) :
    (v.recordFailure failure).causes = v.causes ++ [.ofFailure failure] := by
  rw [recordFailure, causes_push, List.filter_singleton, Diagnostic.isCause_ofFailure]
  rfl

theorem causes_pushMismatches (c : Consistency) : (v.pushMismatches c).causes = v.causes :=
  v.causes_push_if rfl _

theorem causes_pushRegression (raw adjusted ceiling : Float) :
    (v.pushRegression raw adjusted ceiling).causes = v.causes :=
  v.causes_push_if rfl _

end Verdict

theorem Scenario.causes_selectProfile {device : Device} {q : ProfileQuery} {s : Selection}
    (selected : q.select? device.profiles = some s) (name : String) :
    (selectProfile device q { name }).2.causes = [] := by
  rcases s with ⟨profile, _ | _⟩ <;> rw [selectProfile, selected] <;> rfl

section Judges

variable {settings : Settings} {baseline : Option BaselineSummary} {profile : StreamProfile}
    {log : FrameLog} {v : Verdict}

theorem Baseline.causes_judge (outcome : Except Failure Window) :
    (judge settings profile outcome log v).causes = v.causes ++ causeOf outcome := by
  cases outcome with
  | error failure => exact v.causes_recordFailure failure
  | ok w => exact (v.causes_pushRegression _ _ _).trans (List.append_nil _).symm

theorem SteadyState.causes_judge (outcome : Except Failure Window) :
    (judge profile outcome log v).causes = v.causes ++ causeOf outcome := by
  cases outcome with
  | error failure => exact v.causes_recordFailure failure
  | ok w =>
    rw [causeOf, List.append_nil]
    exact (Verdict.causes_push_if _ rfl _).trans (Verdict.causes_pushMismatches _ _)

theorem RapidToggle.causes_judge (outcome : Except Failure Unit × Consistency) :
    (judge settings baseline profile outcome log v).causes = v.causes ++ causeOf outcome.1 := by
  rcases outcome with ⟨failure | _, checks⟩
  · exact (Verdict.causes_recordFailure _ failure).trans
      (congrArg (· ++ _) (Verdict.causes_pushMismatches _ _))
  · have checked : ∀ required, (if v.framesObserved < required then
        (Verdict.pushMismatches { v with metadataMismatches := checks.mismatches } checks).push
          (.frameShortfall required v.framesObserved)
        else Verdict.pushMismatches { v with metadataMismatches := checks.mismatches }
          checks).causes = v.causes := fun _ =>
      (Verdict.causes_push_if _ rfl _).trans (Verdict.causes_pushMismatches _ _)
    rw [causeOf, List.append_nil, judge]
    simp only [judgeTiming, Verdict.framesObserved_pushMismatches]
    rw [Verdict.causes_pushRegression]
    cases baseline with
    | none => exact checked _
    | some b => exact (Verdict.causes_push_finding _ rfl).trans (checked _)

theorem ExtremeRecovery.causes_judgeTotals (a : TimingAnalyzer) (adjusted : SpikeAdjustment)
    (t : Totals) : (judgeTotals a adjusted t log v).causes = v.causes := by
  unfold judgeTotals
  split
  · rfl
  · exact Verdict.causes_push_finding _ rfl

theorem ExtremeRecovery.causes_judge (outcome : Except Failure Unit × Totals) :
    (judge settings baseline profile outcome log v).causes = v.causes ++ causeOf outcome.1 := by
  rcases outcome with ⟨failure | _, totals⟩
  · exact (Verdict.causes_recordFailure _ failure).trans
      (congrArg (· ++ _) (causes_judgeTotals _ _ _))
  · rw [causeOf, List.append_nil]
    simp only [judge]
    rw [Verdict.causes_pushRegression]
    cases baseline with
    | none => exact (Verdict.causes_push_if _ rfl _).trans (causes_judgeTotals _ _ _)
    | some b =>
      exact (Verdict.causes_push_if _ rfl _).trans
        ((Verdict.causes_push_finding _ rfl).trans (causes_judgeTotals _ _ _))

end Judges

namespace Experiment

/-- A verdict tells the failure that the drive ended in, and no other. -/
theorem causes_run (settings : Settings) (baseline : Option BaselineSummary) (e : Experiment)
    {b : Bench} {s : Selection} (selected : (e.query settings).select? b.device.profiles = some s) :
    (e.run settings baseline b).1.causes =
      causeOf (e.driven settings (Scenario.controllerFor b s.profile settings)).1 := by
  have noted := Scenario.causes_selectProfile selected
  cases e with
  | baseline =>
    have verdict := Scenario.conduct_verdict (q := settings.profile) Baseline.name settings
      (Baseline.drive settings) (Baseline.judge settings) selected rfl
    have told := congrArg (causeOf ·.1) (Baseline.drive_follows settings
      (Scenario.controllerFor b s.profile settings))
    rw [run, Baseline.run, verdict, Baseline.causes_judge]
    exact congrArg₂ (· ++ ·) (noted _) ((causeOf_map _ _).symm.trans told)
  | steadyState on mode =>
    have verdict := Scenario.conduct_verdict (q := settings.profile.exactly)
      (SteadyState.name on mode) settings (SteadyState.drive settings on mode) SteadyState.judge
      selected rfl
    rw [run, SteadyState.run, verdict, SteadyState.causes_judge, ← SteadyState.driven_eq]
    exact congrArg₂ (· ++ ·) (noted _) (causeOf_map _ _).symm
  | rapidToggle mode =>
    have verdict := Scenario.conduct_verdict (q := settings.profile) (RapidToggle.name mode)
      settings (RapidToggle.driven settings mode) (RapidToggle.judge settings baseline) selected rfl
    rw [run, RapidToggle.run, verdict, RapidToggle.causes_judge, ← RapidToggle.driven_eq]
    exact congrArg (· ++ _) (noted _)
  | extremeRecovery =>
    have verdict := Scenario.conduct_verdict (q := settings.profile) ExtremeRecovery.name settings
      (ExtremeRecovery.driven settings) (ExtremeRecovery.judge settings baseline) selected rfl
    rw [run, ExtremeRecovery.run, verdict, ExtremeRecovery.causes_judge,
      ← ExtremeRecovery.driven_eq]
    exact congrArg (· ++ _) (noted _)

end Experiment

end ExposureBench
