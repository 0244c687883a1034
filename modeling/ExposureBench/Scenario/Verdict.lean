import ExposureBench.Control.Failure
import ExposureBench.Json.Document
import ExposureBench.Statistics.Consistency
import ExposureBench.Statistics.Timing

namespace ExposureBench

inductive VerdictStatus where
  | passed
  | failed
  | skipped
  deriving DecidableEq, Repr

def VerdictStatus.label : VerdictStatus → String
  | .passed => "Passed"
  | .failed => "Failed"
  | .skipped => "Skipped"

inductive Diagnostic where
  | skipped (reason : String)
  | stalled (requested observed timeoutMs : Nat)
  | deviceFailure (detail : String)
  | metadataMismatch (mismatches compared : Nat) (firstMismatch : Option Nat)
  | frameShortfall (expected observed : Nat)
  | timingRegression (rawRatePercent adjustedRatePercent ceilingPercent : Float)
  /-- For information only. -/
  | baselineComparison (baselineSpikes spikes : Nat)
  /-- Spikes that deliberate switches account for. -/
  | expectedSpikes (expected unexpected adjustedGaps : Nat)
  | note (message : String)
  deriving BEq, Repr

namespace Diagnostic

def isFailure : Diagnostic → Bool
  | .stalled .. | .deviceFailure .. | .metadataMismatch .. | .frameShortfall .. | .timingRegression .. => true
  | _ => false

def isSkip : Diagnostic → Bool
  | .skipped _ => true
  | _ => false

/-- The limit of a wait is told in whole milliseconds, as a 64-bit count. -/
def ofFailure : Failure → Diagnostic
  | .unavailable reason => .skipped reason
  | .timedOut requested observed limit => .stalled requested observed (Duration.toMillis limit % UInt64.size)
  | failure => .deviceFailure failure.message

def kind : Diagnostic → String
  | .skipped .. => "skipped"
  | .stalled .. => "stalled"
  | .deviceFailure .. => "device_failure"
  | .metadataMismatch .. => "metadata_mismatch"
  | .frameShortfall .. => "frame_shortfall"
  | .timingRegression .. => "timing_regression"
  | .baselineComparison .. => "baseline_comparison"
  | .expectedSpikes .. => "expected_spikes"
  | .note .. => "note"

def fields : List (String × List String) :=
  [("skipped", ["reason"]),
    ("stalled", ["requested", "observed", "timeout_ms"]),
    ("device_failure", ["detail"]),
    ("metadata_mismatch", ["mismatches", "compared", "first_mismatch"]),
    ("frame_shortfall", ["expected", "observed"]),
    ("timing_regression", ["raw_rate_percent", "adjusted_rate_percent", "ceiling_percent"]),
    ("baseline_comparison", ["baseline_spikes", "spikes"]),
    ("expected_spikes", ["expected", "unexpected", "adjusted_gaps"]),
    ("note", ["message"])]

def ofRecord? (kind : String) (r : Json.Record) : Option Diagnostic := do
  match kind with
  | "skipped" => return .skipped (← r.field? "reason" Json.toString?)
  | "stalled" =>
    return .stalled (← r.field? "requested" Json.toUInt64?) (← r.field? "observed" Json.toUInt64?)
      (← r.field? "timeout_ms" Json.toUInt64?)
  | "device_failure" => return .deviceFailure (← r.field? "detail" Json.toString?)
  | "metadata_mismatch" =>
    return .metadataMismatch (← r.field? "mismatches" Json.toUInt64?) (← r.field? "compared" Json.toUInt64?)
      (← r.optional? "first_mismatch" Json.toUInt64?)
  | "frame_shortfall" =>
    return .frameShortfall (← r.field? "expected" Json.toUInt64?) (← r.field? "observed" Json.toUInt64?)
  | "timing_regression" =>
    return .timingRegression (← r.field? "raw_rate_percent" Json.toFloat?)
      (← r.field? "adjusted_rate_percent" Json.toFloat?) (← r.field? "ceiling_percent" Json.toFloat?)
  | "baseline_comparison" =>
    return .baselineComparison (← r.field? "baseline_spikes" Json.toUInt64?) (← r.field? "spikes" Json.toUInt64?)
  | "expected_spikes" =>
    return .expectedSpikes (← r.field? "expected" Json.toUInt64?) (← r.field? "unexpected" Json.toUInt64?)
      (← r.field? "adjusted_gaps" Json.toUInt64?)
  | "note" => return .note (← r.field? "message" Json.toString?)
  | _ => none

/-- An object that names its kind among its members, or an array of the kind and its fields. It is kept as a whole until
the kind is known, so all of it must have a value. -/
def ofJson? (depth : Nat) (j : Json) : Option Diagnostic := do
  guard (j.isKeepable depth)
  match j with
  | .object members =>
    let kinds := members.filter (·.1 = some "kind")
    let [(_, kind)] := kinds | none
    let kind ← kind.toString?
    let names ← fields.lookup kind
    ofRecord? kind (← Json.members? names members)
  | .array (kind :: items) =>
    let kind ← kind.toString?
    let names ← fields.lookup kind
    ofRecord? kind (← (Json.array items).record? names)
  | _ => none

def toJson (float : Float → Json) (d : Diagnostic) : Json :=
  .ofRecord (("kind", .ofString d.kind) :: match d with
    | .skipped reason => [("reason", .ofString reason)]
    | .stalled requested observed timeoutMs =>
      [("requested", .ofNat requested), ("observed", .ofNat observed), ("timeout_ms", .ofNat timeoutMs)]
    | .deviceFailure detail => [("detail", .ofString detail)]
    | .metadataMismatch mismatches compared firstMismatch =>
      [("mismatches", .ofNat mismatches), ("compared", .ofNat compared),
        ("first_mismatch", .ofOption .ofNat firstMismatch)]
    | .frameShortfall expected observed => [("expected", .ofNat expected), ("observed", .ofNat observed)]
    | .timingRegression raw adjusted ceiling =>
      [("raw_rate_percent", float raw), ("adjusted_rate_percent", float adjusted),
        ("ceiling_percent", float ceiling)]
    | .baselineComparison baselineSpikes spikes =>
      [("baseline_spikes", .ofNat baselineSpikes), ("spikes", .ofNat spikes)]
    | .expectedSpikes expected unexpected adjustedGaps =>
      [("expected", .ofNat expected), ("unexpected", .ofNat unexpected), ("adjusted_gaps", .ofNat adjustedGaps)]
    | .note message => [("message", .ofString message)])

end Diagnostic

structure BaselineSummary where
  frames : Nat
  spikeCount : Nat
  spikeRatePercent : Float
  avgFrameTimeMs : Float
  deriving BEq, Repr

namespace BaselineSummary

def ofTiming (s : TimingSummary) : BaselineSummary where
  frames := s.frames
  spikeCount := s.spikes
  spikeRatePercent := s.spikeRatePercent
  avgFrameTimeMs := s.avgFrameTimeMs

def fields : List String := ["frames", "spike_count", "spike_rate_percent", "avg_frame_time_ms"]

def ofJson? (j : Json) : Option BaselineSummary := do
  let r ← j.record? fields
  return {
    frames := ← r.field? "frames" Json.toUInt64?
    spikeCount := ← r.field? "spike_count" Json.toUInt64?
    spikeRatePercent := ← r.field? "spike_rate_percent" Json.toFloat?
    avgFrameTimeMs := ← r.field? "avg_frame_time_ms" Json.toFloat? }

def toJson (float : Float → Json) (s : BaselineSummary) : Json :=
  .ofRecord [("frames", .ofNat s.frames), ("spike_count", .ofNat s.spikeCount),
    ("spike_rate_percent", float s.spikeRatePercent), ("avg_frame_time_ms", float s.avgFrameTimeMs)]

end BaselineSummary

structure Verdict where
  name : String
  framesObserved : Nat := 0
  metadataMismatches : Nat := 0
  timing : Option TimingSummary := none
  diagnostics : List Diagnostic := []
  deriving BEq, Repr

namespace Verdict

def push (v : Verdict) (d : Diagnostic) : Verdict :=
  { v with diagnostics := v.diagnostics ++ [d] }

def recordFailure (v : Verdict) (failure : Failure) : Verdict :=
  v.push (.ofFailure failure)

/-- One failure fails an experiment; else one skip skips it. -/
def status (v : Verdict) : VerdictStatus :=
  if v.diagnostics.any (·.isFailure) then .failed
  else if v.diagnostics.any (·.isSkip) then .skipped
  else .passed

def failures (v : Verdict) : List Diagnostic :=
  v.diagnostics.filter (·.isFailure)

def pushMismatches (v : Verdict) (c : Consistency) : Verdict :=
  if 0 < c.mismatches then v.push (.metadataMismatch c.mismatches c.compared c.firstMismatch) else v

/-- A rate at the ceiling is already a regression. -/
def pushRegression (v : Verdict) (raw adjusted ceiling : Float) : Verdict :=
  if ceiling ≤ adjusted then v.push (.timingRegression raw adjusted ceiling) else v

def fields : List String := ["name", "frames_observed", "metadata_mismatches", "timing", "diagnostics"]

def ofJson? (depth : Nat) (j : Json) : Option Verdict := do
  let r ← j.record? fields
  return {
    name := ← r.field? "name" Json.toString?
    framesObserved := ← r.field? "frames_observed" Json.toUInt64?
    metadataMismatches := ← r.field? "metadata_mismatches" Json.toUInt64?
    timing := ← r.optional? "timing" TimingSummary.ofJson?
    diagnostics := ← r.field? "diagnostics" (Json.toList? (Diagnostic.ofJson? (depth - 2))) }

def toJson (float : Float → Json) (v : Verdict) : Json :=
  .ofRecord [("name", .ofString v.name), ("frames_observed", .ofNat v.framesObserved),
    ("metadata_mismatches", .ofNat v.metadataMismatches), ("timing", .ofOption (·.toJson float) v.timing),
    ("diagnostics", .ofList (·.toJson float) v.diagnostics)]

end Verdict

end ExposureBench
