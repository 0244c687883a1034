import ExposureBench.Scenario.Setup

namespace ExposureBench

namespace SteadyState

def name (on : Bool) (mode : ExposureMode) : String :=
  if on then s!"steady state: auto-exposure on ({mode.name})" else "steady state: auto-exposure off"

/-- The state is set before the first frame, so nothing has to settle. -/
def drive (settings : Settings) (on : Bool) (mode : ExposureMode) : Attempt Controller Window := do
  if on then Scenario.applyMode mode
  Controller.requestConfirmed .enableAutoExposure (if on then 1 else 0)
  let _ ← Controller.beginStreaming .autoExposure
  Controller.settleNow
  Controller.collectWithin settings.steadyState.frames on settings.steadyState.timeoutMs

def judge (_ : StreamProfile) (outcome : Except Failure Window) (log : FrameLog) (v : Verdict) : Verdict :=
  match outcome with
  | .error failure => v.recordFailure failure
  | .ok window =>
    let check := Consistency.checkWindow log.all window
    let v := { v with metadataMismatches := check.mismatches }.pushMismatches check
    if check.compared = 0 then v.push (.note "no frame in the window carried auto-exposure metadata") else v

def run (settings : Settings) (on : Bool) (mode : ExposureMode) (b : Bench) : Verdict × Bench :=
  Scenario.conduct (name on mode) settings.profile.exactly settings (drive settings on mode) judge b

end SteadyState

end ExposureBench
