import ExposureBench.Control.Barrier
import ExposureBench.Json.Document
import ExposureBench.Statistics.Timing

namespace ExposureBench

structure BarrierSettings where
  pollIntervalMs : Nat := 10
  timeoutMs : Nat := 10000
  deriving BEq, Repr

structure TimingSettings where
  spikeThresholdPercent : Float := defaultSpikePercent
  /-- The spike rate from which a run is a regression. -/
  maxSpikeRatePercent : Float := 4.0
  deriving BEq, Repr

structure BaselineSettings where
  frames : Nat := 400
  timeoutMs : Nat := 20000
  warmupMs : Nat := 1000
  deriving BEq, Repr

structure SteadyStateSettings where
  frames : Nat := 10
  timeoutMs : Nat := 2000
  deriving BEq, Repr

structure RapidToggleSettings where
  toggles : Nat := 10
  framesPerState : Nat := 10
  framesBetweenToggles : Nat := 30
  warmupMs : Nat := 1000
  deriving BEq, Repr

structure ExtremeRecoverySettings where
  iterations : Nat := 20
  /-- The manual exposure in nominal frame periods. -/
  exposureMultiplier : Float := 2.0
  manualHoldMs : Nat := 1500
  autoHoldMs : Nat := 1500
  expectedSpikesPerIteration : Nat := 2
  /-- Frames after the switch back that still carry the manual exposure. -/
  transitionFramesToSkip : Nat := 2
  deriving BEq, Repr

structure Settings where
  profile : ProfileQuery := {}
  barrier : BarrierSettings := {}
  timing : TimingSettings := {}
  baseline : BaselineSettings := {}
  steadyState : SteadyStateSettings := {}
  rapidToggle : RapidToggleSettings := {}
  extremeRecovery : ExtremeRecoverySettings := {}
  deriving BEq, Repr

namespace BarrierSettings

def fields : List String := ["poll_interval_ms", "timeout_ms"]

def ofJson? (j : Json) : Option BarrierSettings := do
  let r ← j.overlay? fields
  let d : BarrierSettings := {}
  return {
    pollIntervalMs := ← r.fieldD? "poll_interval_ms" d.pollIntervalMs Json.toUInt64?
    timeoutMs := ← r.fieldD? "timeout_ms" d.timeoutMs Json.toUInt64? }

def toJson (s : BarrierSettings) : Json :=
  .ofRecord [("poll_interval_ms", .ofNat s.pollIntervalMs), ("timeout_ms", .ofNat s.timeoutMs)]

end BarrierSettings

namespace TimingSettings

def fields : List String := ["spike_threshold_percent", "max_spike_rate_percent"]

def ofJson? (j : Json) : Option TimingSettings := do
  let r ← j.overlay? fields
  let d : TimingSettings := {}
  return {
    spikeThresholdPercent := ← r.fieldD? "spike_threshold_percent" d.spikeThresholdPercent Json.toFloat?
    maxSpikeRatePercent := ← r.fieldD? "max_spike_rate_percent" d.maxSpikeRatePercent Json.toFloat? }

def toJson (float : Float → Json) (s : TimingSettings) : Json :=
  .ofRecord [("spike_threshold_percent", float s.spikeThresholdPercent),
    ("max_spike_rate_percent", float s.maxSpikeRatePercent)]

end TimingSettings

namespace BaselineSettings

def fields : List String := ["frames", "timeout_ms", "warmup_ms"]

def ofJson? (j : Json) : Option BaselineSettings := do
  let r ← j.overlay? fields
  let d : BaselineSettings := {}
  return {
    frames := ← r.fieldD? "frames" d.frames Json.toUInt64?
    timeoutMs := ← r.fieldD? "timeout_ms" d.timeoutMs Json.toUInt64?
    warmupMs := ← r.fieldD? "warmup_ms" d.warmupMs Json.toUInt64? }

def toJson (s : BaselineSettings) : Json :=
  .ofRecord [("frames", .ofNat s.frames), ("timeout_ms", .ofNat s.timeoutMs), ("warmup_ms", .ofNat s.warmupMs)]

end BaselineSettings

namespace SteadyStateSettings

def fields : List String := ["frames", "timeout_ms"]

def ofJson? (j : Json) : Option SteadyStateSettings := do
  let r ← j.overlay? fields
  let d : SteadyStateSettings := {}
  return {
    frames := ← r.fieldD? "frames" d.frames Json.toUInt64?
    timeoutMs := ← r.fieldD? "timeout_ms" d.timeoutMs Json.toUInt64? }

def toJson (s : SteadyStateSettings) : Json :=
  .ofRecord [("frames", .ofNat s.frames), ("timeout_ms", .ofNat s.timeoutMs)]

end SteadyStateSettings

namespace RapidToggleSettings

def fields : List String := ["toggles", "frames_per_state", "frames_between_toggles", "warmup_ms"]

def ofJson? (j : Json) : Option RapidToggleSettings := do
  let r ← j.overlay? fields
  let d : RapidToggleSettings := {}
  return {
    toggles := ← r.fieldD? "toggles" d.toggles Json.toUInt64?
    framesPerState := ← r.fieldD? "frames_per_state" d.framesPerState Json.toUInt64?
    framesBetweenToggles := ← r.fieldD? "frames_between_toggles" d.framesBetweenToggles Json.toUInt64?
    warmupMs := ← r.fieldD? "warmup_ms" d.warmupMs Json.toUInt64? }

def toJson (s : RapidToggleSettings) : Json :=
  .ofRecord [("toggles", .ofNat s.toggles), ("frames_per_state", .ofNat s.framesPerState),
    ("frames_between_toggles", .ofNat s.framesBetweenToggles), ("warmup_ms", .ofNat s.warmupMs)]

end RapidToggleSettings

namespace ExtremeRecoverySettings

def fields : List String :=
  ["iterations", "exposure_multiplier", "manual_hold_ms", "auto_hold_ms", "expected_spikes_per_iteration",
    "transition_frames_to_skip"]

def ofJson? (j : Json) : Option ExtremeRecoverySettings := do
  let r ← j.overlay? fields
  let d : ExtremeRecoverySettings := {}
  return {
    iterations := ← r.fieldD? "iterations" d.iterations Json.toUInt64?
    exposureMultiplier := ← r.fieldD? "exposure_multiplier" d.exposureMultiplier Json.toFloat?
    manualHoldMs := ← r.fieldD? "manual_hold_ms" d.manualHoldMs Json.toUInt64?
    autoHoldMs := ← r.fieldD? "auto_hold_ms" d.autoHoldMs Json.toUInt64?
    expectedSpikesPerIteration :=
      ← r.fieldD? "expected_spikes_per_iteration" d.expectedSpikesPerIteration Json.toUInt64?
    transitionFramesToSkip := ← r.fieldD? "transition_frames_to_skip" d.transitionFramesToSkip Json.toUInt64? }

def toJson (float : Float → Json) (s : ExtremeRecoverySettings) : Json :=
  .ofRecord [("iterations", .ofNat s.iterations), ("exposure_multiplier", float s.exposureMultiplier),
    ("manual_hold_ms", .ofNat s.manualHoldMs), ("auto_hold_ms", .ofNat s.autoHoldMs),
    ("expected_spikes_per_iteration", .ofNat s.expectedSpikesPerIteration),
    ("transition_frames_to_skip", .ofNat s.transitionFramesToSkip)]

end ExtremeRecoverySettings

namespace Settings

def fields : List String :=
  ["profile", "barrier", "timing", "baseline", "steady_state", "rapid_toggle", "extreme_recovery"]

def ofJson? (j : Json) : Option Settings := do
  let r ← j.overlay? fields
  let d : Settings := {}
  return {
    profile := ← r.fieldD? "profile" d.profile ProfileQuery.ofJson?
    barrier := ← r.fieldD? "barrier" d.barrier BarrierSettings.ofJson?
    timing := ← r.fieldD? "timing" d.timing TimingSettings.ofJson?
    baseline := ← r.fieldD? "baseline" d.baseline BaselineSettings.ofJson?
    steadyState := ← r.fieldD? "steady_state" d.steadyState SteadyStateSettings.ofJson?
    rapidToggle := ← r.fieldD? "rapid_toggle" d.rapidToggle RapidToggleSettings.ofJson?
    extremeRecovery := ← r.fieldD? "extreme_recovery" d.extremeRecovery ExtremeRecoverySettings.ofJson? }

def toJson (float : Float → Json) (s : Settings) : Json :=
  .ofRecord [("profile", s.profile.toJson), ("barrier", s.barrier.toJson), ("timing", s.timing.toJson float),
    ("baseline", s.baseline.toJson), ("steady_state", s.steadyState.toJson),
    ("rapid_toggle", s.rapidToggle.toJson), ("extreme_recovery", s.extremeRecovery.toJson float)]

def ofText? (text : String) : Option Settings :=
  (Json.parse? text).bind ofJson?

def toText (s : Settings) : String :=
  (s.toJson Json.ofFloat).render

def frameBarrier (s : Settings) : Barrier := .polling s.barrier.pollIntervalMs

end Settings

end ExposureBench
