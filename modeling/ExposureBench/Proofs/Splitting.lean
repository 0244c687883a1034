import ExposureBench.Proofs.Gaps

namespace ExposureBench

section Ends

variable (ts : Array Float) {start middle stop : Nat}

theorem gapEnds_eq_nil (short : min stop ts.size ≤ start + 1) : gapEnds ts start stop = [] := by
  rw [gapEnds, Nat.sub_eq_zero_of_le short, List.range'_zero]

theorem gapEnds_pred (inside : middle < min stop ts.size) (some : 0 < middle) :
    gapEnds ts (middle - 1) stop = middle :: gapEnds ts middle stop := by
  have next : middle - 1 + 1 = middle := Nat.sub_add_cancel some
  have count : min stop ts.size - middle = min stop ts.size - (middle + 1) + 1 := by omega
  rw [gapEnds, next, count, List.range'_succ, gapEnds]

theorem gapEnds_append (before : start < middle) (after : middle ≤ stop) :
    gapEnds ts start middle ++ gapEnds ts (middle - 1) stop = gapEnds ts start stop := by
  rcases Nat.lt_or_ge middle (min stop ts.size) with inside | beyond
  · have next : middle - 1 + 1 = middle := by omega
    have first : min middle ts.size - (start + 1) = middle - (start + 1) := by omega
    have place : start + 1 + (middle - (start + 1)) = middle := by omega
    have whole : min stop ts.size - (start + 1) =
        middle - (start + 1) + (min stop ts.size - middle) := by omega
    rw [gapEnds, gapEnds, gapEnds, next, first, whole, ← List.range'_append_1, place]
  · -- The first range comes to the end already.
    have same : min middle ts.size = min stop ts.size := by omega
    have second : gapEnds ts (middle - 1) stop = [] := gapEnds_eq_nil ts (by omega)
    rw [second, List.append_nil, gapEnds, same, gapEnds]

theorem filter_ne_gapEnds (apart : stop ≤ middle ∨ middle ≤ start) :
    (gapEnds ts start stop).filter (· ≠ middle) = gapEnds ts start stop := by
  refine List.filter_eq_self.mpr fun frame member => decide_eq_true ?_
  obtain ⟨later, earlier⟩ := mem_gapEnds_iff.mp member
  omega

/-- Two ranges that share a frame, end to end: all gaps of the whole but the one that ends there. -/
theorem gapEnds_append_shared (before : start < middle) (after : middle ≤ stop) :
    gapEnds ts start middle ++ gapEnds ts middle stop =
      (gapEnds ts start stop).filter (· ≠ middle) := by
  have first : (gapEnds ts start middle).filter (· ≠ middle) = gapEnds ts start middle :=
    filter_ne_gapEnds ts (.inl (Nat.le_refl middle))
  have second : (gapEnds ts (middle - 1) stop).filter (· ≠ middle) = gapEnds ts middle stop := by
    rcases Nat.lt_or_ge middle (min stop ts.size) with inside | beyond
    · rw [gapEnds_pred ts inside (by omega), List.filter_cons_of_neg (by simp),
        filter_ne_gapEnds ts (.inr (Nat.le_refl middle))]
    · rw [gapEnds_eq_nil ts (by omega), gapEnds_eq_nil ts (by omega), List.filter_nil]
  rw [← gapEnds_append ts before after, List.filter_append, first, second]

end Ends

/-- The counter after this one. The greatest has none, and stays. -/
def nextCounter (i : UInt64) : UInt64 := if i + 1 = 0 then i else i + 1

theorem toNat_nextCounter (i : UInt64) :
    (nextCounter i).toNat = min (i.toNat + 1) (UInt64.size - 1) := by
  have bounded := i.toNat_lt
  have size : UInt64.size = 2 ^ 64 := rfl
  have sum : (i + 1).toNat = (i.toNat + 1) % 2 ^ 64 := UInt64.toNat_add i 1
  rw [nextCounter]
  split
  next none =>
    have zero : (i + 1).toNat = 0 := congrArg UInt64.toNat none
    omega
  next some =>
    have positive : (i + 1).toNat ≠ 0 := fun zero => some (UInt64.toNat_inj.mp zero)
    omega

theorem toNat_succ_of_lt {i stop : UInt64} (below : i < stop) : (i + 1).toNat = i.toNat + 1 := by
  have less := UInt64.lt_iff_toNat_lt.mp below
  have bounded := stop.toNat_lt
  have sum : (i + 1).toNat = (i.toNat + 1) % 2 ^ 64 := UInt64.toNat_add i 1
  omega

namespace GapMean

def addEnds (m : GapMean) (ts : Array Float) (frames : List Nat) (limit : Option Float) : GapMean :=
  frames.foldl (fun m frame => m.add limit (gapAt ts frame)) m

theorem addRange_addRange (m : GapMean) (ts : Array Float) (start stop start' stop' : Nat)
    (limit : Option Float) :
    (m.addRange ts start stop limit).addRange ts start' stop' limit =
      m.addEnds ts (gapEnds ts start stop ++ gapEnds ts start' stop') limit :=
  List.foldl_append.symm

def gap? (ts : Array Float) (frame : UInt64) : Option Float := do
  return (← ts[frame.toNat]?) - (← ts[(frame - 1).toNat]?)

theorem gap?_eq {ts : Array Float} {frame : UInt64} (positive : 0 < frame.toNat)
    (inside : frame.toNat < ts.size) : gap? ts frame = some (gapAt ts frame.toNat) := by
  have one : 1 ≤ frame := UInt64.le_iff_toNat_le.mpr positive
  have before : (frame - 1).toNat = frame.toNat - 1 := UInt64.toNat_sub_of_le frame 1 one
  have below : frame.toNat - 1 < ts.size := by omega
  simp only [gap?, gapAt, before, Array.getD_eq_getD_getElem?, Array.getElem?_eq_getElem inside,
    Array.getElem?_eq_getElem below]
  rfl

/-- Adds one gap after another while the counter is below its stop. There is no mean if an arrival
is asked for that the list does not have. -/
def walk? (m : GapMean) (ts : Array Float) (frame stop : UInt64) (limit : Option Float) :
    Option GapMean :=
  if frame < stop then
    (gap? ts frame).bind fun gap => (m.add limit gap).walk? ts (frame + 1) stop limit
  else some m
termination_by stop.toNat - frame.toNat
decreasing_by
  next below =>
  have less := UInt64.lt_iff_toNat_lt.mp below
  rw [toNat_succ_of_lt below]
  omega

theorem walk?_eq {ts : Array Float} {frame stop : UInt64} (positive : 0 < frame.toNat)
    (inside : stop.toNat ≤ ts.size) (m : GapMean) (limit : Option Float) :
    m.walk? ts frame stop limit =
      some (m.addEnds ts (List.range' frame.toNat (stop.toNat - frame.toNat)) limit) := by
  -- By induction on the frames that are left: a counter below its stop has a successor.
  induction left : stop.toNat - frame.toNat generalizing frame m with
  | zero =>
    have reached : ¬ frame < stop := by
      rw [UInt64.lt_iff_toNat_lt]
      omega
    rw [walk?, if_neg reached]
    rfl
  | succ left ih =>
    have below : frame < stop := by
      rw [UInt64.lt_iff_toNat_lt]
      omega
    have next := toNat_succ_of_lt below
    rw [walk?, if_pos below, gap?_eq positive (by omega), Option.bind_some,
      ih (by omega) _ (by omega), next, List.range'_succ]
    rfl

/-- The gaps of a range by counters: from the one after the start, which is one at least, to before
the stop or the end of the list. -/
def walkRange? (m : GapMean) (ts : Array Float) (start stop : UInt64) (limit : Option Float) :
    Option GapMean :=
  m.walk? ts (max (nextCounter start) 1) (UInt64.ofNat (min stop.toNat ts.size)) limit

theorem walkRange?_eq (m : GapMean) (ts : Array Float) (start stop : UInt64)
    (limit : Option Float) :
    m.walkRange? ts start stop limit = some (m.addRange ts start.toNat stop.toNat limit) := by
  have bounded := stop.toNat_lt
  have size : UInt64.size = 2 ^ 64 := rfl
  have first : (max (nextCounter start) 1).toNat = min (start.toNat + 1) (UInt64.size - 1) := by
    rw [UInt64.toNat_max, toNat_nextCounter, UInt64.toNat_one]
    omega
  have last : (UInt64.ofNat (min stop.toNat ts.size)).toNat = min stop.toNat ts.size :=
    UInt64.toNat_ofNat_of_lt' (by omega)
  have frames : List.range' (min (start.toNat + 1) (UInt64.size - 1))
      (min stop.toNat ts.size - min (start.toNat + 1) (UInt64.size - 1)) =
        gapEnds ts start.toNat stop.toNat := by
    rcases Nat.lt_or_ge (start.toNat + 1) UInt64.size with counts | greatest
    · rw [Nat.min_eq_left (by omega), gapEnds]
    · -- No frame comes after the greatest counter.
      have none : min stop.toNat ts.size - min (start.toNat + 1) (UInt64.size - 1) = 0 := by omega
      rw [none, List.range'_zero, gapEnds_eq_nil ts (by omega)]
  rw [walkRange?, walk?_eq (by omega) (by omega), first, last, frames]
  rfl

/-- Ranges are cut in two where they overlap by one frame: the gaps of the whole are added in the
same order, which leaves the same mean to the last bit. Two ranges that share a frame add all but
the gap that ends there, if the whole has it. A range that stops no later than one frame after its
start adds nothing. Wherever 64-bit counters start and stop, they add the same gaps and ask for no
arrival beyond the list. -/
theorem ranges_split (m : GapMean) (ts : Array Float) (limit : Option Float) :
    (∀ start middle stop, start < middle → middle ≤ stop →
      gapEnds ts start middle ++ gapEnds ts (middle - 1) stop = gapEnds ts start stop ∧
      (m.addRange ts start middle limit).addRange ts (middle - 1) stop limit =
        m.addRange ts start stop limit ∧
      (m.addRange ts start middle limit).addRange ts middle stop limit =
        m.addEnds ts ((gapEnds ts start stop).filter (· ≠ middle)) limit ∧
      (middle ∈ gapEnds ts start stop ↔ middle < min stop ts.size)) ∧
      (∀ start stop, stop ≤ start + 1 → m.addRange ts start stop limit = m) ∧
      ∀ start stop : UInt64,
        m.walkRange? ts start stop limit = some (m.addRange ts start.toNat stop.toNat limit) := by
  refine ⟨fun start middle stop before after => ⟨?_, ?_, ?_, ?_⟩, fun start stop short => ?_,
    fun start stop => ?_⟩
  · exact gapEnds_append ts before after
  · rw [addRange_addRange, gapEnds_append ts before after]
    rfl
  · rw [addRange_addRange, gapEnds_append_shared ts before after]
  · rw [mem_gapEnds_iff, and_iff_right before]
  · rw [addRange, gapEnds_eq_nil ts (by omega), List.foldl_nil]
  · exact m.walkRange?_eq ts start stop limit

theorem ranges_split_at_fourth :
    let ts : Array Float := #[0.0, 10.0, 20.0, 60.0, 0.0 / 0.0, 80.0]
    let m : GapMean := ⟨5.0, 1⟩
    let whole := m.addRange ts 0 90 none
    let shared := (m.addRange ts 0 3 none).addRange ts 3 90 none
    (m.addRange ts 0 3 none).addRange ts 2 90 none = whole ∧
      shared = m.addEnds ts ((gapEnds ts 0 90).filter (· ≠ 3)) none ∧ 3 ∈ gapEnds ts 0 90 ∧
      whole.count = 6 ∧ shared.count = 5 ∧ m.addRange ts 4 5 none = m := by
  intro ts m whole shared
  obtain ⟨cut, short, -⟩ := ranges_split m ts none
  obtain ⟨-, overlapping, sharing, member⟩ := cut 0 3 90 (by decide) (by decide)
  exact ⟨overlapping, sharing, member.mpr (by decide), rfl, rfl, short 4 5 (by decide)⟩

end GapMean

end ExposureBench
