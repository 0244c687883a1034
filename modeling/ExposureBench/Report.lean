import ExposureBench.Scenario.Verdict

namespace ExposureBench

structure Report where
  device : String
  verdicts : List Verdict := []
  deriving BEq, Repr

namespace Report

def push (r : Report) (v : Verdict) : Report :=
  { r with verdicts := r.verdicts ++ [v] }

def count (r : Report) (status : VerdictStatus) : Nat :=
  r.verdicts.countP (·.status = status)

def passed (r : Report) : Nat := r.count .passed

def failed (r : Report) : Nat := r.count .failed

def skipped (r : Report) : Nat := r.count .skipped

def index? (r : Report) (name : String) : Option Nat :=
  r.verdicts.findIdx? (·.name = name)

def fields : List String := ["device", "verdicts"]

def ofJson? (j : Json) : Option Report := do
  let r ← j.record? fields
  return {
    device := ← r.field? "device" Json.toString?
    verdicts := ← r.field? "verdicts" (Json.toList? (Verdict.ofJson? (Json.nestingLimit - 2))) }

def ofText? (text : String) : Option Report :=
  (Json.parse? text).bind ofJson?

def toJson (float : Float → Json) (r : Report) : Json :=
  .ofRecord [("device", .ofString r.device), ("verdicts", .ofList (·.toJson float) r.verdicts)]

end Report

def Diagnostic.text : Diagnostic → String
  | .skipped reason => s!"skipped: {reason}"
  | .stalled requested observed timeoutMs => s!"stalled: {observed} of {requested} frames within {timeoutMs}ms"
  | .deviceFailure detail => s!"device failure: {detail}"
  | .metadataMismatch mismatches compared (some frame) =>
    s!"metadata mismatch: {mismatches} of {compared} frames, first at frame {frame}"
  | .metadataMismatch mismatches compared none => s!"metadata mismatch: {mismatches} of {compared} frames"
  | .frameShortfall expected observed => s!"frame shortfall: {observed} observed, {expected} required"
  | .timingRegression raw adjusted ceiling =>
    s!"timing regression: {fixedText adjusted}% spikes (raw {fixedText raw}%), ceiling {fixedText ceiling}%"
  | .baselineComparison baselineSpikes spikes => s!"baseline: {baselineSpikes} spikes, this run: {spikes}"
  | .expectedSpikes expected unexpected adjustedGaps =>
    s!"expected spikes: {expected}, unexpected: {unexpected} over {adjustedGaps} gaps"
  | .note message => message

def TimingSummary.text (t : TimingSummary) : String :=
  let plural := if t.spikes = 1 then "" else "s"
  s!"Timing: {t.spikes} spike{plural} in {t.gaps} gaps ({fixedText t.spikeRatePercent}%), " ++
    s!"avg {fixedText t.avgFrameTimeMs}ms (nominal {fixedText t.expectedFrameTimeMs}ms), " ++
    s!"max gap {fixedText t.maxGapMs}ms"

def Verdict.text (v : Verdict) : String :=
  s!"\n[{v.name}] {v.status.label}\n  Frames: {v.framesObserved}\n  Metadata mismatches: {v.metadataMismatches}\n" ++
    v.timing.elim "" (fun t => s!"  {t.text}\n") ++
    String.join (v.diagnostics.map fun d => s!"  - {d.text}\n")

def Report.text (r : Report) : String :=
  if r.verdicts.isEmpty then "No scenarios run"
  else
    s!"=== Auto-Exposure Harness: {r.device} ===\n" ++ String.join (r.verdicts.map (·.text)) ++
      s!"\nPassed: {r.passed}  Failed: {r.failed}  Skipped: {r.skipped}\n"

end ExposureBench
