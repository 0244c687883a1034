import ExposureBench.Scenario.Setup

/-!
Rapid toggle: switch auto-exposure on a live stream again and again. After each switch some frames may pass; the next
ones have to report the new state.
-/

namespace ExposureBench

namespace RapidToggle

def name (mode : ExposureMode) : String :=
  s!"rapid toggle ({mode.name})"

structure Run where
  controller : Controller
  checks : Consistency := {}

def control {α : Type} (act : Attempt Controller α) : Attempt Run α :=
  Attempt.within (·.controller) (fun r controller => { r with controller }) act

def verify (settings : Settings) (log : LogId) (on : Bool) : Attempt Run Unit := do
  let window ← control (Controller.collect settings.rapidToggle.framesPerState on)
  modify fun r =>
    let events := (r.controller.bench.log? log).elim [] (·.slice window.start window.stop)
    { r with checks := r.checks.merge (Consistency.check events 0 events.length on) }

def toggle (settings : Settings) (log : LogId) : (left : Nat) → (on : Bool) → Attempt Run Unit
  | 0, _ => return ()
  | left + 1, on => do
    control (Controller.setAutoExposure on)
    control (Controller.stabilize settings.rapidToggle.framesBetweenToggles)
    verify settings log on
    toggle settings log left (!on)

def drive (settings : Settings) (mode : ExposureMode) : Attempt Run Unit := do
  control (Scenario.applyMode mode)
  let log ← control (Controller.beginStreaming .autoExposure)
  control (Controller.setAutoExposure true)
  let _ ← control (Controller.warmUp settings.rapidToggle.warmupMs)
  match settings.rapidToggle.toggles with
  | 0 => return ()
  | left + 1 =>
    verify settings log true
    toggle settings log left false

def driven (settings : Settings) (mode : ExposureMode) (c : Controller) :
    (Except Failure Unit × Consistency) × Controller :=
  let (outcome, r) := drive settings mode { controller := c }
  ((outcome, r.checks), r.controller)

def requiredFrames (settings : Settings) : Nat :=
  countProduct settings.rapidToggle.toggles settings.rapidToggle.framesPerState

def judgeTiming (settings : Settings) (baseline : Option BaselineSummary) (summary : TimingSummary) (v : Verdict) :
    Verdict :=
  let v := { v with timing := some summary }
  let v := match baseline with
    | some b => v.push (.baselineComparison b.spikeCount summary.spikes)
    | none => v
  v.pushRegression summary.spikeRatePercent summary.spikeRatePercent settings.timing.maxSpikeRatePercent

def judge (settings : Settings) (baseline : Option BaselineSummary) (profile : StreamProfile)
    (outcome : Except Failure Unit × Consistency) (log : FrameLog) (v : Verdict) : Verdict :=
  let v := { v with metadataMismatches := outcome.2.mismatches }.pushMismatches outcome.2
  match outcome.1 with
  | .error failure => v.recordFailure failure
  | .ok () =>
    let required := requiredFrames settings
    let v := if v.framesObserved < required then v.push (.frameShortfall required v.framesObserved) else v
    judgeTiming settings baseline ((Scenario.analyzerFor profile settings).summarize log.timestamps) v

def run (settings : Settings) (mode : ExposureMode) (baseline : Option BaselineSummary) (b : Bench) :
    Verdict × Bench :=
  Scenario.conduct (name mode) settings.profile settings (driven settings mode) (judge settings baseline) b

end RapidToggle

end ExposureBench
