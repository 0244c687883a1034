import ExposureBench.Scenario.Setup

namespace ExposureBench

namespace Baseline

def name : String := "baseline streaming"

def drive (settings : Settings) : Attempt Controller Window := do
  let _ ← Controller.beginStreaming .autoExposure
  Controller.setAutoExposure true
  let _ ← Controller.warmUp settings.baseline.warmupMs
  Controller.collectWithin settings.baseline.frames true settings.baseline.timeoutMs

def judge (settings : Settings) (profile : StreamProfile) (outcome : Except Failure Window) (log : FrameLog)
    (v : Verdict) : Verdict :=
  match outcome with
  | .error failure => v.recordFailure failure
  | .ok _ =>
    let summary := (Scenario.analyzerFor profile settings).summarize log.timestamps
    let rate := summary.spikeRatePercent
    { v.pushRegression rate rate settings.timing.maxSpikeRatePercent with timing := some summary }

def run (settings : Settings) (b : Bench) : Verdict × Bench :=
  Scenario.conduct name settings.profile settings (drive settings) (judge settings) b

def summary? (v : Verdict) : Option BaselineSummary :=
  v.timing.map .ofTiming

end Baseline

end ExposureBench
