import ExposureBench.Report
import ExposureBench.Scenario.Baseline
import ExposureBench.Scenario.ExtremeRecovery
import ExposureBench.Scenario.RapidToggle
import ExposureBench.Scenario.SteadyState

namespace ExposureBench

inductive Experiment where
  | baseline
  | steadyState (on : Bool) (mode : ExposureMode)
  | rapidToggle (mode : ExposureMode)
  | extremeRecovery
  deriving DecidableEq, Repr

namespace Experiment

def run (settings : Settings) (baseline : Option BaselineSummary) : Experiment → Bench → Verdict × Bench
  | .baseline => Baseline.run settings
  | .steadyState on mode => SteadyState.run settings on mode
  | .rapidToggle mode => RapidToggle.run settings mode baseline
  | .extremeRecovery => ExtremeRecovery.run settings baseline

end Experiment

namespace Suite

def experiments : List Experiment :=
  [.steadyState true .regular, .steadyState true .accelerated, .steadyState false .regular,
    .rapidToggle .regular, .rapidToggle .accelerated, .extremeRecovery]

def runEach (settings : Settings) (baseline : Option BaselineSummary) :
    List Experiment → Bench → List Verdict × Bench
  | [], b => ([], b)
  | e :: rest, b =>
    let (v, b) := e.run settings baseline b
    let (vs, b) := runEach settings baseline rest b
    (v :: vs, b)

def run (settings : Settings) (b : Bench) : Report × Bench :=
  let (v, b') := Baseline.run settings b
  let (vs, b') := runEach settings (Baseline.summary? v) experiments b'
  ({ device := b.device.name, verdicts := v :: vs }, b')

end Suite

end ExposureBench
