import ExposureBench.Scenario.Setup
import ExposureBench.Statistics.Recovery

/-!
Extreme recovery: a manual exposure of several frame periods, then auto-exposure again, over and over. The frame rate has
to recover each time; the spikes that the switches themselves cost are allowed for.
-/

namespace ExposureBench

namespace ExtremeRecovery

def name : String := "extreme recovery"

structure Totals where
  iterations : Nat := 0
  spikes : Nat := 0
  gaps : Nat := 0
  mean : GapMean := {}
  deriving BEq, Repr

structure Run where
  controller : Controller
  totals : Totals := {}

def control {α : Type} (act : Attempt Controller α) : Attempt Run α :=
  Attempt.within (·.controller) (fun r controller => { r with controller }) act

def Totals.add (t : Totals) (a : TimingAnalyzer) (skip : Nat) (window : Array Float) : Totals :=
  let (recovery, mean) := RecoveryWindow.measure window a skip t.mean
  ⟨t.iterations + 1, t.spikes + recovery.spikes, t.gaps + recovery.gaps, mean⟩

/-- A manual exposure and the return to auto-exposure. Only the latter's frames are measured. -/
def iterate (settings : Settings) (a : TimingAnalyzer) (log : LogId) (exposure : Float) :
    (left : Nat) → Attempt Run Unit
  | 0 => return ()
  | left + 1 => do
    let s := settings.extremeRecovery
    control (Controller.setAutoExposure false)
    control (Controller.request .exposure exposure)
    let _ ← control (Controller.hold s.manualHoldMs)
    let before := (← get).controller.bench.count log
    control (Controller.setAutoExposure true)
    let _ ← control (Controller.hold s.autoHoldMs)
    modify fun r =>
      let window := (r.controller.bench.log? log).elim #[] (·.timestampsFrom before)
      { r with totals := r.totals.add a s.transitionFramesToSkip window }
    iterate settings a log exposure left

def drive (settings : Settings) (a : TimingAnalyzer) : Attempt Run Unit := do
  let c := (← get).controller
  if !c.device.supports .exposure then throw (.lacksOption .exposure c.device.name)
  let range ← Attempt.ofExcept (c.device.range .exposure)
  let exposure := range.clamp (c.session.profile.frameTimeUs * settings.extremeRecovery.exposureMultiplier)
  let log ← control (Controller.beginStreaming .autoExposure)
  iterate settings a log exposure settings.extremeRecovery.iterations

def driven (settings : Settings) (c : Controller) : (Except Failure Unit × Totals) × Controller :=
  let a := Scenario.analyzerFor c.session.profile settings
  let (outcome, r) := drive settings a { controller := c }
  ((outcome, r.totals), r.controller)

def adjustment (settings : Settings) (t : Totals) : SpikeAdjustment :=
  .compute t.spikes t.gaps settings.extremeRecovery.expectedSpikesPerIteration t.iterations

/-- Completed iterations are reported even if a later one failed. -/
def judgeTotals (a : TimingAnalyzer) (adjusted : SpikeAdjustment) (t : Totals) (log : FrameLog) (v : Verdict) :
    Verdict :=
  if t.iterations = 0 then v
  else
    let timing : TimingSummary := {
      frames := v.framesObserved
      gaps := adjusted.totalGaps
      spikes := adjusted.rawSpikes
      spikeRatePercent := adjusted.rawRatePercent
      avgFrameTimeMs := t.mean.average
      maxGapMs := maxGap log.timestamps 0
      expectedFrameTimeMs := a.frameTimeMs }
    { v with timing := some timing }.push
      (.expectedSpikes adjusted.expectedSpikes adjusted.unexpectedSpikes adjusted.adjustedGaps)

def judge (settings : Settings) (baseline : Option BaselineSummary) (profile : StreamProfile)
    (outcome : Except Failure Unit × Totals) (log : FrameLog) (v : Verdict) : Verdict :=
  let adjusted := adjustment settings outcome.2
  let v := judgeTotals (Scenario.analyzerFor profile settings) adjusted outcome.2 log v
  match outcome.1 with
  | .error failure => v.recordFailure failure
  | .ok () =>
    let v := match baseline with
      | some b => v.push (.baselineComparison b.spikeCount adjusted.unexpectedSpikes)
      | none => v
    let v := if v.framesObserved = 0 then v.push (.frameShortfall 1 0) else v
    v.pushRegression adjusted.rawRatePercent adjusted.adjustedRatePercent settings.timing.maxSpikeRatePercent

def run (settings : Settings) (baseline : Option BaselineSummary) (b : Bench) : Verdict × Bench :=
  Scenario.conduct name settings.profile settings (driven settings) (judge settings baseline) b

end ExtremeRecovery

end ExposureBench
