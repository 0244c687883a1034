import ExposureBench.Proofs.Mismatches
import ExposureBench.Proofs.Recordings

namespace ExposureBench

namespace FrameLog

/-- One record: a frame, whose field the log takes, or a value that has been taken already. -/
inductive Record where
  | frame (now : Nat) (frame : Frame)
  | value (now : Nat) (value : Option Int)

def write (log : FrameLog) : Record → FrameLog
  | .frame now f => log.record now f
  | .value now v => log.recordValue now v

def ofRecords (field : MetadataField) (origin : Nat) (records : List Record) : FrameLog :=
  records.foldl write { field, origin }

variable {log : FrameLog}

theorem Numbered.write (numbered : log.Numbered) (r : Record) : (log.write r).Numbered := by
  cases r with
  | frame now f => exact numbered.record now f
  | value now v => exact numbered.recordValue now v

theorem Numbered.foldl_write (records : List Record) (numbered : log.Numbered) :
    (records.foldl FrameLog.write log).Numbered := by
  induction records generalizing log with
  | nil => exact numbered
  | cons r rest ih => exact ih (numbered.write r)

theorem numbered_ofRecords (field : MetadataField) (origin : Nat) (records : List Record) :
    (ofRecords field origin records).Numbered :=
  (numbered_empty field origin).foldl_write records

theorem Numbered.pairwise_all (numbered : log.Numbered) :
    log.all.Pairwise (·.sequence < ·.sequence) := by
  rw [← List.pairwise_map (f := FrameEvent.sequence), numbered]
  exact List.pairwise_lt_range

theorem Numbered.lt_of_mem_take (numbered : log.Numbered) {n : Nat} {e : FrameEvent}
    (member : e ∈ log.all.take n) : e.sequence < n := by
  have listed := List.mem_map_of_mem (f := FrameEvent.sequence) member
  rw [List.map_take, numbered, List.take_range, List.mem_range] at listed
  omega

theorem Numbered.le_of_mem_drop (numbered : log.Numbered) {n : Nat} {e : FrameEvent}
    (member : e ∈ log.all.drop n) : n ≤ e.sequence := by
  have listed := List.mem_map_of_mem (f := FrameEvent.sequence) member
  rw [List.map_drop, numbered, List.range_eq_range', List.drop_range', List.mem_range'_1] at listed
  omega

end FrameLog

def Window.covers (w : Window) (e : FrameEvent) : Bool :=
  w.start ≤ e.sequence && e.sequence < w.stop

theorem FrameLog.Numbered.filter_covers {log : FrameLog} (numbered : log.Numbered) (w : Window) :
    log.all.filter w.covers = log.slice w.start w.stop := by
  have inside : ∀ e ∈ (log.all.take w.stop).drop w.start, w.covers e = true := by
    intro e member
    have below := numbered.lt_of_mem_take (List.mem_of_mem_drop member)
    rw [List.drop_take] at member
    have above := numbered.le_of_mem_drop (List.mem_of_mem_take member)
    simp [Window.covers, below, above]
  have before : ∀ e ∈ (log.all.take w.stop).take w.start, ¬ w.covers e = true := by
    intro e member
    rw [List.take_take, Nat.min_eq_left w.start_le_stop] at member
    simp [Window.covers, numbered.lt_of_mem_take member]
  have after : ∀ e ∈ log.all.drop w.stop, ¬ w.covers e = true := by
    intro e member
    simp [Window.covers, numbered.le_of_mem_drop member]
  calc
    log.all.filter w.covers
      = (((log.all.take w.stop).take w.start ++ (log.all.take w.stop).drop w.start) ++
          log.all.drop w.stop).filter w.covers := by
        rw [List.take_append_drop, List.take_append_drop]
    _ = (log.all.take w.stop).drop w.start := by
        rw [List.filter_append, List.filter_append, List.filter_eq_nil_iff.mpr before,
          List.filter_eq_nil_iff.mpr after, List.filter_eq_self.mpr inside, List.nil_append,
          List.append_nil]
    _ = log.slice w.start w.stop := (log.slice_eq ..).symm

namespace Consistency

/-- A check of a range finds what a check of a copy of the range finds. -/
theorem check_slice (log : FrameLog) (start stop : Nat) (expected : Bool) :
    check (log.slice start stop) 0 (log.slice start stop).length expected =
      check log.all start stop expected := by
  rw [check_all, check_eq, log.slice_eq]

variable {expected : Bool} {events : List FrameEvent}

theorem compared_add_skipped (expected : Bool) (events : List FrameEvent) :
    (ofEvents expected events).compared + (ofEvents expected events).skipped = events.length := by
  rw [List.length_eq_countP_add_countP (·.flag.isSome), ofEvents, Nat.add_right_inj]
  refine List.countP_congr fun e _ => ?_
  cases e.flag <;> simp

theorem mismatches_le_compared (expected : Bool) (events : List FrameEvent) :
    (ofEvents expected events).mismatches ≤ (ofEvents expected events).compared := by
  refine List.countP_mono_left fun e _ contradicts => ?_
  rw [FrameEvent.contradicts, beq_iff_eq] at contradicts
  rw [contradicts]
  rfl

theorem mismatches_pos_iff (expected : Bool) (events : List FrameEvent) :
    0 < (ofEvents expected events).mismatches ↔
      (ofEvents expected events).firstMismatch.isSome := by
  rw [ofEvents, List.countP_pos_iff, Option.isSome_map, List.find?_isSome]

theorem contradicts_iff (e : FrameEvent) :
    e.contradicts expected ↔ ∃ reported, e.flag = some reported ∧ reported ≠ expected := by
  rw [FrameEvent.contradicts, beq_iff_eq]
  constructor
  · intro same
    exact ⟨!expected, same, by simp⟩
  · rintro ⟨reported, same, other⟩
    rw [same, Bool.eq_not.mpr other]

theorem firstMismatch_eq_some_iff (increasing : events.Pairwise (·.sequence < ·.sequence))
    (n : Nat) :
    (ofEvents expected events).firstMismatch = some n ↔
      IsLeast {n | ∃ e ∈ events, e.sequence = n ∧ e.contradicts expected} n := by
  have first : ∀ e, events.find? (·.contradicts expected) = some e →
      IsLeast {n | ∃ e ∈ events, e.sequence = n ∧ e.contradicts expected} e.sequence := by
    intro e found
    obtain ⟨contradicts, before, after, rfl, agreeing⟩ := List.find?_eq_some_iff_append.mp found
    refine ⟨⟨e, by simp, rfl, contradicts⟩, ?_⟩
    rintro _ ⟨e', member, rfl, contradicts'⟩
    rcases List.mem_append.mp member with among | among
    · have agrees := agreeing e' among
      rw [contradicts'] at agrees
      cases agrees
    · rcases List.mem_cons.mp among with rfl | later
      · exact Nat.le_refl _
      · have ordered := List.pairwise_cons.mp (List.pairwise_append.mp increasing).2.1
        exact Nat.le_of_lt (ordered.1 e' later)
  rw [ofEvents, Option.map_eq_some_iff]
  constructor
  · rintro ⟨e, found, rfl⟩
    exact first e found
  · intro least
    obtain ⟨e, member, -, contradicts⟩ := least.1
    obtain ⟨e', found⟩ := Option.isSome_iff_exists.mp
      (List.find?_isSome.mpr ⟨e, member, contradicts⟩)
    exact ⟨e', found, (first e' found).unique least⟩

end Consistency

/-- Whatever has been recorded and wherever the window lies, a window of the whole log is checked as
a copy of it is. Each recorded frame in the window is either compared or skipped; there is a first
mismatch exactly if there are mismatches, and it is the least of the frames in the window that
report another state than expected. -/
theorem Window.verification_agrees (field : MetadataField) (origin : Nat)
    (records : List FrameLog.Record) (w : Window) :
    let log := FrameLog.ofRecords field origin records
    let copy := log.slice w.start w.stop
    let check := Consistency.checkWindow log.all w
    Consistency.check copy 0 copy.length w.expected = check ∧
      check.compared + check.skipped = log.all.countP w.covers ∧
      check.mismatches ≤ check.compared ∧
      (0 < check.mismatches ↔ check.firstMismatch.isSome) ∧
      ∀ n, check.firstMismatch = some n ↔
        IsLeast {n | ∃ e ∈ log.all, e.sequence = n ∧ w.start ≤ n ∧ n < w.stop ∧
          ∃ reported, e.flag = some reported ∧ reported ≠ w.expected} n := by
  intro log copy check
  have numbered : log.Numbered := FrameLog.numbered_ofRecords field origin records
  have covered : log.all.filter w.covers = copy := numbered.filter_covers w
  have agree : Consistency.check copy 0 copy.length w.expected = check :=
    Consistency.check_slice log w.start w.stop w.expected
  have found : check = .ofEvents w.expected copy := by rw [← agree, Consistency.check_all]
  have increasing : copy.Pairwise (·.sequence < ·.sequence) := by
    rw [← covered]
    exact numbered.pairwise_all.sublist List.filter_sublist
  refine ⟨agree, ?_, ?_, ?_, fun n => ?_⟩
  · rw [found, Consistency.compared_add_skipped, List.countP_eq_length_filter, covered]
  · rw [found]
    exact Consistency.mismatches_le_compared w.expected copy
  · rw [found]
    exact Consistency.mismatches_pos_iff w.expected copy
  · rw [found, Consistency.firstMismatch_eq_some_iff increasing]
    suffices same : {n | ∃ e ∈ copy, e.sequence = n ∧ e.contradicts w.expected} =
        {n | ∃ e ∈ log.all, e.sequence = n ∧ w.start ≤ n ∧ n < w.stop ∧
          ∃ reported, e.flag = some reported ∧ reported ≠ w.expected} by
      rw [same]
    ext n
    simp only [Set.mem_ofPred_eq, ← covered, List.mem_filter, Window.covers, Bool.and_eq_true,
      decide_eq_true_eq, Consistency.contradicts_iff]
    constructor
    · rintro ⟨e, ⟨member, low, high⟩, rfl, reports⟩
      exact ⟨e, member, rfl, low, high, reports⟩
    · rintro ⟨e, member, rfl, low, high, reports⟩
      exact ⟨e, ⟨member, low, high⟩, rfl, reports⟩

end ExposureBench
