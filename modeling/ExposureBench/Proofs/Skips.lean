import ExposureBench.Proofs.Causes
import ExposureBench.Proofs.Stages
import ExposureBench.Proofs.Teardown

namespace ExposureBench

namespace ProfileQuery

theorem find?_eq_none_iff {q : ProfileQuery} {offered : List StreamProfile} :
    offered.find? q.accepts = none ↔ ∀ p ∈ offered, q.accepts p = false := by
  simp only [List.find?_eq_none, Bool.not_eq_true]

theorem select?_eq_none_iff {q : ProfileQuery} {offered : List StreamProfile} :
    q.select? offered = none ↔
      (∀ p ∈ offered, q.accepts p = false) ∧ (q.allowFallback = false ∨ offered = []) := by
  rw [← find?_eq_none_iff, select?]
  cases found : offered.find? q.accepts with
  | some p => simp only [reduceCtorEq, false_and]
  | none => cases q.allowFallback <;> simp

end ProfileQuery

namespace Experiment

def fallsBack (settings : Settings) : Experiment → Bool
  | .steadyState .. => false
  | _ => settings.profile.allowFallback

/-- No profile of the device can be selected. -/
def Unserved (settings : Settings) (device : Device) (e : Experiment) : Prop :=
  (∀ p ∈ device.profiles, settings.profile.accepts p = false) ∧
    (e.fallsBack settings = false ∨ device.profiles = [])

/-- The device lacks an option that an experiment cannot do without. -/
def Lacks (device : Device) : Experiment → Prop
  | .steadyState true .accelerated | .rapidToggle .accelerated =>
    device.supports .autoExposureMode = false
  | .extremeRecovery => device.supports .exposure = false
  | _ => False

variable {settings : Settings} {baseline : Option BaselineSummary} {e : Experiment} {b : Bench}
    {device : Device}

theorem unserved_iff :
    e.Unserved settings device ↔ (e.query settings).select? device.profiles = none := by
  rw [ProfileQuery.select?_eq_none_iff]
  cases e <;> exact Iff.rfl

theorem lacks_iff : e.Lacks device ↔ ¬ e.Capable device := by
  cases e with
  | baseline => simp [Lacks, Capable]
  | steadyState on mode => cases on <;> cases mode <;> simp [Lacks, Capable]
  | rapidToggle mode => cases mode <;> simp [Lacks, Capable]
  | extremeRecovery => simp [Lacks, Capable]

end Experiment

namespace Verdict

/-- Nothing has been measured, and nothing noted that fails. -/
structure Blank (v : Verdict) : Prop where
  frames : v.framesObserved = 0
  mismatches : v.metadataMismatches = 0
  timing : v.timing = none
  unfailed : ∀ d ∈ v.diagnostics, d.isFailure = false

variable {v : Verdict}

theorem Blank.new (name : String) : Blank { name } :=
  ⟨rfl, rfl, rfl, fun _ member => nomatch member⟩

theorem Blank.push (blank : v.Blank) {d : Diagnostic} (unfailed : d.isFailure = false) :
    (v.push d).Blank where
  frames := blank.frames
  mismatches := blank.mismatches
  timing := blank.timing
  unfailed := by
    intro other member
    rw [diagnostics_push, List.mem_append, List.mem_singleton] at member
    rcases member with earlier | rfl
    · exact blank.unfailed other earlier
    · exact unfailed

theorem Blank.recordFailure (blank : v.Blank) {failure : Failure} (skip : failure.isSkip) :
    (v.recordFailure failure).Blank := by
  apply blank.push
  rw [Diagnostic.isFailure_ofFailure, skip]
  rfl

theorem status_eq_skipped_iff : v.status = .skipped ↔
    (∀ d ∈ v.diagnostics, d.isFailure = false) ∧ ∃ d ∈ v.diagnostics, d.isSkip := by
  rw [status]
  cases failed : v.diagnostics.any (·.isFailure) with
  | true =>
    obtain ⟨d, member, failure⟩ := List.any_eq_true.mp failed
    have unfailed : ¬ ∀ d ∈ v.diagnostics, d.isFailure = false := fun none => by
      simp [none d member] at failure
    simp only [if_true, unfailed, false_and, reduceCtorEq]
  | false =>
    have unfailed : ∀ d ∈ v.diagnostics, d.isFailure = false := by simpa using failed
    simp only [Bool.false_eq_true, if_false, ← List.any_eq_true, iff_true_intro unfailed,
      true_and]
    cases v.diagnostics.any (·.isSkip) <;> simp

theorem Blank.skipped (blank : v.Blank) {failure : Failure} (skip : failure.isSkip) :
    (v.recordFailure failure).status = .skipped := by
  rw [status_eq_skipped_iff]
  refine ⟨(blank.recordFailure skip).unfailed, .ofFailure failure, ?_, ?_⟩
  · rw [Verdict.recordFailure, diagnostics_push]
    exact List.mem_append_right _ (List.mem_singleton_self _)
  · rw [Diagnostic.isSkip_ofFailure, skip]

end Verdict

namespace Scenario

theorem selectProfile_blank (device : Device) (q : ProfileQuery) (name : String) :
    (selectProfile device q { name }).2.Blank := by
  have new := Verdict.Blank.new name
  rw [selectProfile]
  rcases q.select? device.profiles with _ | ⟨profile, _ | _⟩
  · exact new.recordFailure rfl
  · exact new.push rfl
  · exact new

theorem finish_controllerFor (b : Bench) (profile : StreamProfile) (settings : Settings) :
    (controllerFor b profile settings).finish = controllerFor b profile settings := by
  rw [Controller.finish_eq, Controller.tornDown, Session.tornDown_of_closed rfl]

/-- What an experiment makes of a bench that it skips. -/
def Skips (b : Bench) (result : Verdict × Bench) : Prop :=
  ∃ v : Verdict, ∃ failure : Failure, v.Blank ∧ failure.isSkip ∧
    result = (v.recordFailure failure, b)

section Conduct

variable {α : Type} {name : String} {q : ProfileQuery} {settings : Settings}
    {drive : Controller → α × Controller} {b : Bench}

theorem conduct_of_unselected (unselected : q.select? b.device.profiles = none)
    (judge : StreamProfile → α → FrameLog → Verdict → Verdict) :
    Skips b (conduct name q settings drive judge b) := by
  refine ⟨{ name }, .noProfile q, .new name, rfl, ?_⟩
  rw [conduct_eq, selectProfile, unselected]

theorem conduct_of_undriven {s : Selection} {outcome : α}
    (selected : q.select? b.device.profiles = some s)
    (undriven : drive (controllerFor b s.profile settings) =
      (outcome, controllerFor b s.profile settings))
    {judge : StreamProfile → α → FrameLog → Verdict → Verdict} (option : DeviceOption)
    (judged : ∀ (log : FrameLog) (v : Verdict), v.Blank →
      ∃ v' : Verdict, v'.Blank ∧ judge s.profile outcome log v =
        v'.recordFailure (.lacksOption option b.device.name)) :
    Skips b (conduct name q settings drive judge b) := by
  have blank := selectProfile_blank b.device q name
  rw [conduct_eq, selected]
  dsimp only
  rw [undriven]
  dsimp only
  rw [finish_controllerFor]
  have given : Verdict.Blank { (selectProfile b.device q { name }).2 with framesObserved := 0 } :=
    { blank with frames := rfl }
  obtain ⟨v, blank, judged⟩ := judged _ _ given
  exact ⟨v, .lacksOption option b.device.name, blank, rfl, congrArg (·, b) judged⟩

end Conduct

theorem modePlan_of_unsupported {device : Device}
    (unsupported : device.supports .autoExposureMode = false) :
    modePlan .accelerated device = .error (.lacksOption .autoExposureMode device.name) := by
  rw [modePlan, unsupported]
  rfl

end Scenario

namespace Experiment

variable {settings : Settings} {baseline : Option BaselineSummary} {e : Experiment} {b : Bench}

theorem skips_of_unserved (unserved : e.Unserved settings b.device) :
    Scenario.Skips b (e.run settings baseline b) := by
  have unselected := unserved_iff.mp unserved
  cases e with
  | baseline =>
    rw [run, Baseline.run]
    exact Scenario.conduct_of_unselected unselected _
  | steadyState on mode =>
    rw [run, SteadyState.run]
    exact Scenario.conduct_of_unselected unselected _
  | rapidToggle mode =>
    rw [run, RapidToggle.run]
    exact Scenario.conduct_of_unselected unselected _
  | extremeRecovery =>
    rw [run, ExtremeRecovery.run]
    exact Scenario.conduct_of_unselected unselected _

end Experiment

section Lacking

open Attempt

variable (settings : Settings) {c : Controller}

theorem SteadyState.drive_of_unsupported
    (unsupported : c.device.supports .autoExposureMode = false) :
    drive settings true .accelerated c =
      (.error (.lacksOption .autoExposureMode c.device.name), c) := by
  have refused := Scenario.applyMode_apply .accelerated c
  rw [Scenario.modePlan_of_unsupported unsupported] at refused
  exact bind_of_error refused

theorem RapidToggle.driven_of_unsupported
    (unsupported : c.device.supports .autoExposureMode = false) :
    driven settings .accelerated c =
      ((.error (.lacksOption .autoExposureMode c.device.name), {}), c) := by
  have stops := drive_of_unmoded settings (r := { controller := c })
    (Scenario.modePlan_of_unsupported unsupported)
  rw [driven, stops]

theorem ExtremeRecovery.driven_of_unsupported (unsupported : c.device.supports .exposure = false) :
    driven settings c = ((.error (.lacksOption .exposure c.device.name), {}), c) := by
  have stops := drive_apply settings (Scenario.analyzerFor c.session.profile settings)
    { controller := c }
  rw [exposure?, unsupported] at stops
  simp only [driven, stops]
  rfl

end Lacking

namespace Experiment

variable {settings : Settings} {baseline : Option BaselineSummary} {e : Experiment} {b : Bench}

theorem skips_of_lacks {s : Selection}
    (selected : (e.query settings).select? b.device.profiles = some s) (lacks : e.Lacks b.device) :
    Scenario.Skips b (e.run settings baseline b) := by
  cases e with
  | baseline => exact lacks.elim
  | steadyState on mode =>
    cases on with
    | false => exact lacks.elim
    | true =>
      cases mode with
      | regular => exact lacks.elim
      | accelerated =>
        rw [run, SteadyState.run]
        have undriven := SteadyState.drive_of_unsupported settings
          (c := Scenario.controllerFor b s.profile settings) lacks
        apply Scenario.conduct_of_undriven selected undriven .autoExposureMode
        intro log v blank
        exact ⟨v, blank, rfl⟩
  | rapidToggle mode =>
    cases mode with
    | regular => exact lacks.elim
    | accelerated =>
      rw [run, RapidToggle.run]
      have undriven := RapidToggle.driven_of_unsupported settings
        (c := Scenario.controllerFor b s.profile settings) lacks
      apply Scenario.conduct_of_undriven selected undriven .autoExposureMode
      intro log v blank
      exact ⟨{ v with metadataMismatches := 0 }, { blank with mismatches := rfl }, rfl⟩
  | extremeRecovery =>
    rw [run, ExtremeRecovery.run]
    have undriven := ExtremeRecovery.driven_of_unsupported settings
      (c := Scenario.controllerFor b s.profile settings) lacks
    apply Scenario.conduct_of_undriven selected undriven .exposure
    intro log v blank
    exact ⟨v, blank, rfl⟩

theorem not_skipped {s : Selection}
    (selected : (e.query settings).select? b.device.profiles = some s)
    (capable : e.Capable b.device) : (e.run settings baseline b).1.status ≠ .skipped := by
  intro skipped
  obtain ⟨-, d, member, skip⟩ := Verdict.status_eq_skipped_iff.mp skipped
  have cause := Verdict.mem_causes.mpr ⟨member, Diagnostic.isCause_of_isSkip skip⟩
  rw [causes_run settings baseline e selected] at cause
  have answered : Answered _ (e.driven settings (Scenario.controllerFor b s.profile settings)).1 :=
    driven_answers rfl rfl capable
  generalize (e.driven settings (Scenario.controllerFor b s.profile settings)).1 = outcome
    at answered cause
  cases outcome with
  | ok => cases cause
  | error failure =>
    rw [List.mem_singleton.mp cause, Diagnostic.isSkip_ofFailure, answered.2] at skip
    cases skip

/-- An experiment is skipped exactly if no profile serves it or its device lacks what it needs. A
skip measures nothing and leaves the bench, its device and its record of calls, as it was. -/
theorem skipped_iff (settings : Settings) (baseline : Option BaselineSummary) (e : Experiment)
    (b : Bench) :
    ((e.run settings baseline b).1.status = .skipped ↔
      e.Unserved settings b.device ∨ e.Lacks b.device) ∧
    (e.Unserved settings b.device ∨ e.Lacks b.device →
      (e.run settings baseline b).2 = b ∧
      (e.run settings baseline b).1.framesObserved = 0 ∧
      (e.run settings baseline b).1.metadataMismatches = 0 ∧
      (e.run settings baseline b).1.timing = none) := by
  have skips (unfit : e.Unserved settings b.device ∨ e.Lacks b.device) :
      Scenario.Skips b (e.run settings baseline b) := by
    rcases selected : (e.query settings).select? b.device.profiles with _ | s
    · exact skips_of_unserved (unserved_iff.mpr selected)
    · rcases unfit with unserved | lacks
      · exact skips_of_unserved unserved
      · exact skips_of_lacks selected lacks
  refine ⟨⟨?_, ?_⟩, ?_⟩
  · intro skipped
    rcases selected : (e.query settings).select? b.device.profiles with _ | s
    · exact .inl (unserved_iff.mpr selected)
    · refine .inr (lacks_iff.mpr fun capable => ?_)
      exact not_skipped selected capable skipped
  · intro unfit
    obtain ⟨v, failure, blank, skip, ran⟩ := skips unfit
    rw [ran]
    exact blank.skipped skip
  · intro unfit
    obtain ⟨v, failure, blank, skip, ran⟩ := skips unfit
    rw [ran]
    exact ⟨rfl, blank.frames, blank.mismatches, blank.timing⟩

end Experiment

end ExposureBench
