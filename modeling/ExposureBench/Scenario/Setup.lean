import ExposureBench.Control.Controller
import ExposureBench.Scenario.Verdict
import ExposureBench.Settings

namespace ExposureBench

namespace Scenario

/-- A fallback is noted; without any profile the experiment is skipped. -/
def selectProfile (device : Device) (q : ProfileQuery) (v : Verdict) : Option StreamProfile × Verdict :=
  match q.select? device.profiles with
  | none => (none, v.recordFailure (.noProfile q))
  | some ⟨profile, true⟩ => (some profile, v)
  | some ⟨profile, false⟩ =>
    (some profile, v.push (.note s!"no exact profile match, using fallback {profile.text}"))

def controllerFor (b : Bench) (profile : StreamProfile) (settings : Settings) : Controller where
  session := { bench := b, profile }
  barrier := settings.frameBarrier
  timeoutMs := settings.barrier.timeoutMs

def analyzerFor (profile : StreamProfile) (settings : Settings) : TimingAnalyzer where
  frameTimeMs := profile.frameTimeMs
  spikePercent := settings.timing.spikeThresholdPercent

/-- A device without the option runs in regular mode only. -/
def applyMode (mode : ExposureMode) : Attempt Controller Unit := do
  let device := (← get).device
  if device.supports .autoExposureMode then
    Controller.requestConfirmed .autoExposureMode mode.value
  else if mode ≠ .regular then
    throw (.lacksOption .autoExposureMode device.name)

def recorded (c : Controller) : FrameLog :=
  (c.log.bind c.bench.log?).getD { field := .autoExposure, origin := 0 }

/-- Selects a profile, drives the experiment, tears down, and judges what has been recorded. -/
def conduct {α : Type} (name : String) (q : ProfileQuery) (settings : Settings)
    (drive : Controller → α × Controller)
    (judge : StreamProfile → α → FrameLog → Verdict → Verdict) (b : Bench) : Verdict × Bench :=
  match selectProfile b.device q { name } with
  | (none, v) => (v, b)
  | (some profile, v) =>
    let (outcome, c) := drive (controllerFor b profile settings)
    let c := c.finish
    (judge profile outcome (recorded c) { v with framesObserved := c.framesObserved }, c.bench)

end Scenario

end ExposureBench
