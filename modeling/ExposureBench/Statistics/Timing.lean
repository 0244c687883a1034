import ExposureBench.Binary64
import ExposureBench.Json.Writer

/-!
Gaps between arrivals, in milliseconds. A gap belongs to the frame it ends at, so the gaps from frame `start` on are
those that end at frames `start + 1` and later.
-/

namespace ExposureBench

def gaps : List Float → List Float
  | a :: b :: rest => (b - a) :: gaps (b :: rest)
  | _ => []

def gapAt (ts : Array Float) (frame : Nat) : Float :=
  ts.getD frame 0 - ts.getD (frame - 1) 0

/-- The frames before `stop` that a gap from `start` on ends at. -/
def gapEnds (ts : Array Float) (start stop : Nat) : List Nat :=
  List.range' (start + 1) (min stop ts.size - (start + 1))

def defaultSpikePercent : Float := 10.0

def spikeThreshold (frameTimeMs percent : Float) : Float :=
  frameTimeMs * (1.0 + percent / 100.0)

def spikeCount (ts : Array Float) (threshold : Float) (start : Nat) : Nat :=
  (gapEnds ts start ts.size).countP fun i => threshold < gapAt ts i

def maxGap (ts : Array Float) (start : Nat) : Float :=
  (gapEnds ts start ts.size).foldl (fun largest i => larger largest (gapAt ts i)) 0

/-- A product of counts. Counts are 64-bit words, and a product that does not fit wraps. -/
def countProduct (a b : Nat) : Nat :=
  a * b % UInt64.size

theorem countProduct_le (a b : Nat) : countProduct a b ≤ a * b := Nat.mod_le _ _

theorem countProduct_of_lt {a b : Nat} (fits : a * b < UInt64.size) : countProduct a b = a * b :=
  Nat.mod_eq_of_lt fits

example : countProduct (2 ^ 63) 2 = 0 := by decide

def gapCount (frames : Nat) : Nat :=
  max (frames - 1) 1

def spikeRatePercent (spikes gaps : Nat) : Float :=
  Float.ofNat spikes / Float.ofNat (max gaps 1) * 100.0

/-- A mean over gaps that may come from several logs. -/
structure GapMean where
  sum : Float := 0
  count : Nat := 0
  deriving BEq, Repr

namespace GapMean

def add (m : GapMean) (limit : Option Float) (gap : Float) : GapMean :=
  if limit.any (· < gap) then m else ⟨m.sum + gap, m.count + 1⟩

/-- Adds the gaps that end at frames `start < i < stop`, without those above the limit. -/
def addRange (m : GapMean) (ts : Array Float) (start stop : Nat) (limit : Option Float) : GapMean :=
  (gapEnds ts start stop).foldl (fun m i => m.add limit (gapAt ts i)) m

def average (m : GapMean) : Float :=
  if m.count = 0 then 0 else m.sum / Float.ofNat m.count

end GapMean

def filteredAverage (ts : Array Float) (start : Nat) (limit : Option Float) : Float :=
  (GapMean.addRange {} ts start ts.size limit).average

structure TimingSummary where
  frames : Nat
  gaps : Nat
  spikes : Nat
  spikeRatePercent : Float
  avgFrameTimeMs : Float
  maxGapMs : Float
  expectedFrameTimeMs : Float
  deriving BEq, Repr

namespace TimingSummary

def fields : List String :=
  ["frames", "gaps", "spikes", "spike_rate_percent", "avg_frame_time_ms", "max_gap_ms", "expected_frame_time_ms"]

def ofJson? (j : Json) : Option TimingSummary := do
  let r ← j.record? fields
  return {
    frames := ← r.field? "frames" Json.toUInt64?
    gaps := ← r.field? "gaps" Json.toUInt64?
    spikes := ← r.field? "spikes" Json.toUInt64?
    spikeRatePercent := ← r.field? "spike_rate_percent" Json.toFloat?
    avgFrameTimeMs := ← r.field? "avg_frame_time_ms" Json.toFloat?
    maxGapMs := ← r.field? "max_gap_ms" Json.toFloat?
    expectedFrameTimeMs := ← r.field? "expected_frame_time_ms" Json.toFloat? }

def toJson (float : Float → Json) (s : TimingSummary) : Json :=
  .ofRecord [("frames", .ofNat s.frames), ("gaps", .ofNat s.gaps), ("spikes", .ofNat s.spikes),
    ("spike_rate_percent", float s.spikeRatePercent), ("avg_frame_time_ms", float s.avgFrameTimeMs),
    ("max_gap_ms", float s.maxGapMs), ("expected_frame_time_ms", float s.expectedFrameTimeMs)]

end TimingSummary

structure TimingAnalyzer where
  frameTimeMs : Float
  spikePercent : Float := defaultSpikePercent
  deriving BEq, Repr

namespace TimingAnalyzer

def threshold (a : TimingAnalyzer) : Float :=
  spikeThreshold a.frameTimeMs a.spikePercent

def spikeCount (a : TimingAnalyzer) (ts : Array Float) (start : Nat) : Nat :=
  ExposureBench.spikeCount ts a.threshold start

def filteredAverage (a : TimingAnalyzer) (ts : Array Float) (start : Nat) : Float :=
  ExposureBench.filteredAverage ts start (some a.threshold)

def summarize (a : TimingAnalyzer) (ts : Array Float) : TimingSummary :=
  let gaps := gapCount ts.size
  let spikes := a.spikeCount ts 0
  { frames := ts.size
    gaps
    spikes
    spikeRatePercent := ExposureBench.spikeRatePercent spikes gaps
    avgFrameTimeMs := a.filteredAverage ts 0
    maxGapMs := maxGap ts 0
    expectedFrameTimeMs := a.frameTimeMs }

end TimingAnalyzer

end ExposureBench
