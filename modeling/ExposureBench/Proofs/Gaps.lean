import ExposureBench.Statistics.Recovery
import Mathlib

namespace ExposureBench

@[simp] theorem gaps_nil : gaps [] = [] := rfl

@[simp] theorem gaps_singleton (t : Float) : gaps [t] = [] := rfl

@[simp] theorem gaps_cons_cons (a b : Float) (rest : List Float) :
    gaps (a :: b :: rest) = (b - a) :: gaps (b :: rest) := rfl

theorem length_gaps (ts : List Float) : (gaps ts).length = ts.length - 1 := by
  induction ts with
  | nil => rfl
  | cons a rest ih =>
    cases rest with
    | nil => rfl
    | cons b rest =>
      rw [gaps_cons_cons, List.length_cons, ih]
      rfl

theorem getElem_gaps (ts : List Float) {i : Nat} (inside : i < (gaps ts).length) :
    (gaps ts)[i] = ts.getD (i + 1) 0 - ts.getD i 0 := by
  induction ts generalizing i with
  | nil => cases inside
  | cons a rest ih =>
    cases rest with
    | nil => cases inside
    | cons b rest =>
      cases i with
      | zero => rfl
      | succ i => exact ih (Nat.lt_of_succ_lt_succ inside)

theorem gapAt_succ (ts : Array Float) (i : Nat) :
    gapAt ts (i + 1) = ts.toList.getD (i + 1) 0 - ts.toList.getD i 0 := by
  simp [gapAt]

theorem mem_gapEnds_iff {ts : Array Float} {start stop frame : Nat} :
    frame ∈ gapEnds ts start stop ↔ start < frame ∧ frame < min stop ts.size := by
  rw [gapEnds, List.mem_range'_1]
  omega

theorem map_gapAt_gapEnds (ts : Array Float) (start stop : Nat) :
    (gapEnds ts start stop).map (gapAt ts) =
      ((gaps ts.toList).take (stop - 1)).drop start := by
  have length : ((gapEnds ts start stop).map (gapAt ts)).length =
      (((gaps ts.toList).take (stop - 1)).drop start).length := by
    simp only [gapEnds, List.length_map, List.length_range', List.length_drop, List.length_take,
      length_gaps, Array.length_toList]
    omega
  apply List.ext_getElem length
  intro i inside _
  have place : start + 1 + 1 * i = start + i + 1 := by omega
  simp only [gapEnds, List.getElem_map, List.getElem_range', List.getElem_drop, List.getElem_take,
    getElem_gaps, place, gapAt_succ]

theorem map_gapAt_to_end (ts : Array Float) (start : Nat) :
    (gapEnds ts start ts.size).map (gapAt ts) = (gaps ts.toList).drop start := by
  have whole : (gaps ts.toList).length ≤ ts.size - 1 := Nat.le_of_eq (length_gaps ts.toList)
  rw [map_gapAt_gapEnds, List.take_of_length_le whole]

theorem spikeCount_eq (ts : Array Float) (threshold : Float) (start : Nat) :
    spikeCount ts threshold start =
      ((gaps ts.toList).drop start).countP (threshold < ·) := by
  rw [← map_gapAt_to_end, List.countP_map]
  rfl

theorem maxGap_eq (ts : Array Float) (start : Nat) :
    maxGap ts start = ((gaps ts.toList).drop start).foldl larger 0 := by
  rw [← map_gapAt_to_end, List.foldl_map]
  rfl

namespace GapMean

def addAll (m : GapMean) (gaps : List Float) : GapMean :=
  ⟨gaps.foldl (· + ·) m.sum, m.count + gaps.length⟩

@[simp] theorem addAll_nil (m : GapMean) : m.addAll [] = m := rfl

theorem addAll_append (m : GapMean) (first second : List Float) :
    m.addAll (first ++ second) = (m.addAll first).addAll second := by
  simp only [addAll, List.foldl_append, List.length_append, Nat.add_assoc]

theorem add_eq (m : GapMean) (limit : Option Float) (gap : Float) :
    m.add limit gap = m.addAll ([gap].filter fun gap => !limit.any (· < gap)) := by
  rw [add]
  rcases above : limit.any (· < gap) with _ | _ <;> simp [addAll, above]

theorem foldl_add (limit : Option Float) (gaps : List Float) (m : GapMean) :
    gaps.foldl (fun m gap => m.add limit gap) m =
      m.addAll (gaps.filter fun gap => !limit.any (· < gap)) := by
  induction gaps generalizing m with
  | nil => rfl
  | cons gap rest ih =>
    rw [List.foldl_cons, add_eq, ih, ← addAll_append, ← List.filter_append]
    rfl

theorem addRange_eq (m : GapMean) (ts : Array Float) (start stop : Nat) (limit : Option Float) :
    m.addRange ts start stop limit =
      m.addAll ((((gaps ts.toList).take (stop - 1)).drop start).filter
        fun gap => !limit.any (· < gap)) := by
  rw [← map_gapAt_gapEnds, ← foldl_add, List.foldl_map]
  rfl

theorem addRange_to_end (m : GapMean) (ts : Array Float) (start : Nat) (limit : Option Float) :
    m.addRange ts start ts.size limit =
      m.addAll (((gaps ts.toList).drop start).filter fun gap => !limit.any (· < gap)) := by
  rw [addRange_eq, ← map_gapAt_gapEnds, map_gapAt_to_end]

def ofGaps (gaps : List Float) : GapMean := ⟨gaps.foldl (· + ·) 0, gaps.length⟩

theorem addAll_ofGaps (before gaps : List Float) :
    (ofGaps before).addAll gaps = ofGaps (before ++ gaps) := by
  simp only [addAll, ofGaps, List.foldl_append, List.length_append]

theorem addRange_ofGaps (before : List Float) (ts : Array Float) (start : Nat)
    (limit : Option Float) :
    (ofGaps before).addRange ts start ts.size limit =
      ofGaps (before ++
        ((gaps ts.toList).drop start).filter fun gap => !limit.any (· < gap)) := by
  rw [addRange_to_end, addAll_ofGaps]

theorem average_ofGaps (gaps : List Float) :
    (ofGaps gaps).average =
      if gaps = [] then 0 else gaps.foldl (· + ·) 0 / Float.ofNat gaps.length := by
  simp only [average, ofGaps, List.length_eq_zero_iff]

theorem filteredAverage_eq (ts : Array Float) (start : Nat) (limit : Option Float) :
    filteredAverage ts start limit =
      (ofGaps (((gaps ts.toList).drop start).filter fun gap => !limit.any (· < gap))).average :=
  congrArg average (addRange_ofGaps [] ts start limit)

end GapMean

/-- A gap is either a spike or left for the mean, also where it is no number. -/
theorem countP_add_length_calm (threshold : Float) (gaps : List Float) :
    gaps.countP (threshold < ·) + (gaps.filter fun gap => !decide (threshold < gap)).length =
      gaps.length := by
  rw [← List.countP_eq_length_filter, List.length_eq_countP_add_countP (threshold < ·)]
  simp

theorem gaps_drop (ts : List Float) (start : Nat) :
    gaps (ts.drop start) = (gaps ts).drop start := by
  induction start generalizing ts with
  | zero => rfl
  | succ start ih =>
    rcases ts with _ | ⟨a, _ | ⟨b, rest⟩⟩
    · rfl
    · rw [List.drop_succ_cons, List.drop_nil, gaps_singleton, gaps_nil, List.drop_nil]
    · rw [List.drop_succ_cons, ih, gaps_cons_cons, List.drop_succ_cons]

theorem gaps_extract (ts : Array Float) (start : Nat) :
    (gaps (ts.extract start).toList).drop 0 = (gaps ts.toList).drop start := by
  have tail : (ts.extract start).toList = ts.toList.drop start := by
    rw [Array.toList_extract, List.extract_eq_take_drop, List.take_of_length_le]
    rw [List.length_drop, Array.length_toList]
  rw [List.drop_zero, tail, gaps_drop]

section FromStart

variable (ts : Array Float) (start : Nat)

theorem spikeCount_extract (threshold : Float) :
    spikeCount (ts.extract start) threshold 0 = spikeCount ts threshold start := by
  rw [spikeCount_eq, spikeCount_eq, gaps_extract]

theorem maxGap_extract : maxGap (ts.extract start) 0 = maxGap ts start := by
  rw [maxGap_eq, maxGap_eq, gaps_extract]

theorem GapMean.addRange_extract (m : GapMean) (limit : Option Float) :
    m.addRange (ts.extract start) 0 (ts.extract start).size limit =
      m.addRange ts start ts.size limit := by
  rw [addRange_to_end, addRange_to_end, gaps_extract]

end FromStart

/-- The statistics from a frame on are those of the list of gaps without the ones before it. What is
above the threshold is a spike, what is not enters the mean, in order: no gap is lost, and none is
taken twice. All of them are as if the frames before had never been. -/
theorem statistics_of_gaps (a : TimingAnalyzer) (ts : Array Float) (start : Nat) :
    let later := (gaps ts.toList).drop start
    let threshold := spikeThreshold a.frameTimeMs a.spikePercent
    let calm := later.filter fun gap => ¬ threshold < gap
    let rest := ts.extract start
    (later.length = ts.size - 1 - start ∧
      a.spikeCount ts start = later.countP (threshold < ·) ∧
      (∀ m : GapMean, m.addRange ts start ts.size (some threshold) = m.addAll calm ∧
        (m.addRange ts start ts.size (some threshold)).count + a.spikeCount ts start =
          m.count + later.length) ∧
      maxGap ts start = later.foldl larger 0 ∧
      a.filteredAverage ts start = (GapMean.ofGaps calm).average ∧
      filteredAverage ts start none = (GapMean.ofGaps later).average) ∧
    a.spikeCount ts start = a.spikeCount rest 0 ∧
      (∀ (m : GapMean) (limit : Option Float),
        m.addRange ts start ts.size limit = m.addRange rest 0 rest.size limit) ∧
      maxGap ts start = maxGap rest 0 ∧
      ∀ limit, filteredAverage ts start limit = filteredAverage rest 0 limit := by
  intro later threshold calm rest
  have spikes : a.spikeCount ts start = later.countP (threshold < ·) :=
    spikeCount_eq ts threshold start
  have kept : calm = later.filter fun gap => !decide (threshold < gap) := by
    simp only [calm, decide_not]
  have added (m : GapMean) :
      m.addRange ts start ts.size (some threshold) = m.addAll calm := by
    rw [kept]
    exact m.addRange_to_end ts start (some threshold)
  have all : later.filter (fun gap => !(none : Option Float).any (· < gap)) = later :=
    List.filter_eq_self.mpr fun _ _ => rfl
  refine ⟨⟨?_, spikes, fun m => ⟨added m, ?_⟩, maxGap_eq ts start, ?_, ?_⟩, ?_, ?_, ?_, ?_⟩
  · rw [List.length_drop, length_gaps, Array.length_toList]
  · have every := countP_add_length_calm threshold later
    rw [← kept] at every
    have count : (m.addAll calm).count = m.count + calm.length := rfl
    rw [added, spikes, count, ← every]
    omega
  · rw [kept]
    exact GapMean.filteredAverage_eq ts start (some threshold)
  · rw [GapMean.filteredAverage_eq, all]
  · exact (spikeCount_extract ts start threshold).symm
  · intro m limit
    exact (m.addRange_extract ts start limit).symm
  · exact (maxGap_extract ts start).symm
  · intro limit
    exact congrArg GapMean.average (GapMean.addRange_extract ts start {} limit).symm

end ExposureBench
