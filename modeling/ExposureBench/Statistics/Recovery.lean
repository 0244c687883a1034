import ExposureBench.Statistics.Timing

namespace ExposureBench

structure RecoveryWindow where
  spikes : Nat
  gaps : Nat
  deriving DecidableEq, Repr

/-- Spikes and gaps count over the whole window. The mean leaves out the first `skip` frames, which still carry the old
exposure. -/
def RecoveryWindow.measure (ts : Array Float) (a : TimingAnalyzer) (skip : Nat) (mean : GapMean) :
    RecoveryWindow × GapMean :=
  (⟨a.spikeCount ts 0, gapCount ts.size⟩, mean.addRange ts skip ts.size (some a.threshold))

/-- A spike rate with the spikes of deliberate switches taken out of both counts. -/
structure SpikeAdjustment where
  rawSpikes : Nat
  expectedSpikes : Nat
  unexpectedSpikes : Nat
  totalGaps : Nat
  adjustedGaps : Nat
  rawRatePercent : Float
  adjustedRatePercent : Float
  deriving BEq, Repr

namespace SpikeAdjustment

def compute (rawSpikes totalGaps expectedPerIteration iterations : Nat) : SpikeAdjustment :=
  let expectedSpikes := countProduct expectedPerIteration iterations
  let unexpectedSpikes := rawSpikes - expectedSpikes
  let adjustedGaps := max (totalGaps - expectedSpikes) 1
  { rawSpikes, expectedSpikes, unexpectedSpikes, totalGaps, adjustedGaps
    rawRatePercent := spikeRatePercent rawSpikes totalGaps
    adjustedRatePercent := spikeRatePercent unexpectedSpikes adjustedGaps }

def toJson (float : Float → Json) (a : SpikeAdjustment) : Json :=
  .ofRecord [("raw_spikes", .ofNat a.rawSpikes), ("expected_spikes", .ofNat a.expectedSpikes),
    ("unexpected_spikes", .ofNat a.unexpectedSpikes), ("total_gaps", .ofNat a.totalGaps),
    ("adjusted_gaps", .ofNat a.adjustedGaps), ("raw_rate_percent", float a.rawRatePercent),
    ("adjusted_rate_percent", float a.adjustedRatePercent)]

end SpikeAdjustment

end ExposureBench
