import ExposureBench.Proofs.Verification

namespace ExposureBench

namespace Frame

theorem metadata_withMetadata (f : Frame) (put : MetadataField) (value : Int)
    (field : MetadataField) :
    (f.withMetadata put value).metadata field =
      if field = put then some value else f.metadata field := by
  cases put <;> cases field <;> rfl

def carrying (stream : StreamType) (number : Nat) (puts : List (MetadataField × Int)) : Frame :=
  puts.foldl (fun f put => f.withMetadata put.1 put.2) { stream, number }

theorem metadata_carrying (stream : StreamType) (number : Nat) (puts : List (MetadataField × Int))
    (field : MetadataField) :
    (carrying stream number puts).metadata field = puts.reverse.lookup field := by
  induction puts using List.reverseRec with
  | nil => cases field <;> rfl
  | append_singleton puts put ih =>
    rw [carrying] at ih ⊢
    rw [List.foldl_append, List.foldl_cons, List.foldl_nil, metadata_withMetadata, ih,
      List.reverse_append, List.reverse_singleton, List.singleton_append, List.lookup_cons]
    by_cases same : field = put.1
    · rw [if_pos same, same, beq_self_eq_true]
    · rw [if_neg same, beq_false_of_ne same]

end Frame

namespace FrameLog

namespace Record

def now : Record → Nat
  | .frame now _ => now
  | .value now _ => now

def taken (field : MetadataField) : Record → Option Int
  | .frame _ f => f.metadata field
  | .value _ v => v

/-- The event that a record makes at a place of the log. -/
def event (field : MetadataField) (origin place : Nat) (r : Record) : FrameEvent where
  sequence := place
  hostTimestamp := Duration.toSeconds (r.now - origin) * 1000.0
  metadata := r.taken field

end Record

variable {log : FrameLog}

theorem write_eq (log : FrameLog) (r : Record) :
    log.write r = log.append [r.event log.field log.origin log.count] := by
  cases r <;> simp [write, record, recordValue, append, Record.event, Record.taken, Record.now,
    timestampAt]

theorem foldl_write (log : FrameLog) (records : List Record) :
    records.foldl write log =
      log.append (records.mapIdx fun i r => r.event log.field log.origin (log.count + i)) := by
  induction records generalizing log with
  | nil => exact log.append_nil.symm
  | cons r rest ih =>
    rw [List.foldl_cons, ih, write_eq, List.mapIdx_cons, append_append, count_append,
      List.length_singleton, List.singleton_append]
    simp only [append, Nat.add_assoc, Nat.add_comm 1, Nat.add_zero]

theorem all_ofRecords (field : MetadataField) (origin : Nat) (records : List Record) :
    (ofRecords field origin records).all = records.mapIdx (Record.event field origin) := by
  rw [ofRecords, foldl_write, all_append]
  simp [all, count]

theorem ofRecords_append (field : MetadataField) (origin : Nat) (earlier later : List Record) :
    ∃ new, ofRecords field origin (earlier ++ later) =
      (ofRecords field origin earlier).append new := by
  rw [ofRecords, List.foldl_append, foldl_write]
  exact ⟨_, rfl⟩

theorem slice_prefix (log : FrameLog) (new : List FrameEvent) (start stop : Nat) :
    log.slice start stop <+: (log.append new).slice start stop := by
  rw [slice_eq, slice_eq, all_append, List.take_append, List.drop_append]
  exact List.prefix_append _ _

theorem Numbered.slice_eq_filter (numbered : log.Numbered) (start stop : Nat) :
    log.slice start stop = log.all.filter fun e => start ≤ e.sequence && e.sequence < stop := by
  rcases Nat.le_total start stop with ordered | crossed
  · exact (numbered.filter_covers ⟨start, stop, true, ordered⟩).symm
  · have none : ∀ e ∈ log.all, ¬ (start ≤ e.sequence && e.sequence < stop) = true := by
      intro e _
      rw [Bool.and_eq_true, decide_eq_true_eq, decide_eq_true_eq]
      omega
    rw [List.filter_eq_nil_iff.mpr none, slice_eq, List.drop_eq_nil_of_le]
    exact Nat.le_trans (List.length_take_le _ _) crossed

theorem timestampsFrom_eq (log : FrameLog) (start : Nat) :
    (log.timestampsFrom start).toList = (log.slice start log.count).map (·.hostTimestamp) := by
  rw [timestampsFrom_eq_extract, Array.toList_map, slice_eq_extract]

theorem Numbered.sequence_lt (numbered : log.Numbered) {e : FrameEvent} (member : e ∈ log.all) :
    e.sequence < log.count := by
  have listed := List.mem_map_of_mem (f := FrameEvent.sequence) member
  rwa [numbered, List.mem_range] at listed

/-- Whatever is recorded, a log has one event for each record: its place for a number, the record's
time, and the value of the log's field, absent from a frame that has none; of a field put on a frame
more than once the last value stays. A reader gets the events whose places lie between its ends, for
any ends, and their times. Ends clamped to a count that was read earlier lie in order within the log,
and between them are the events that a reader got then. All that a reader got once begins what the
same ends give later. -/
theorem append_only (field : MetadataField) (origin : Nat) (earlier later : List Record) :
    let records := earlier ++ later
    let before := ofRecords field origin earlier
    let log := ofRecords field origin records
    log.count = records.length ∧
      log.all = records.mapIdx (Record.event field origin) ∧
      (∀ stream number puts,
        (Frame.carrying stream number puts).metadata field = puts.reverse.lookup field) ∧
      (∀ start stop, log.slice start stop =
        log.all.filter fun e => start ≤ e.sequence && e.sequence < min stop log.count) ∧
      (∀ start, (log.timestampsFrom start).toList =
        (log.all.filter fun e => start ≤ e.sequence).map (·.hostTimestamp)) ∧
      (∀ start stop,
        let last := min stop before.count
        let first := min start last
        first ≤ last ∧ last ≤ log.events.size ∧
          (log.events.extract first last).toList = before.slice start stop) ∧
      ∀ start stop, before.slice start stop <+: log.slice start stop := by
  intro records before log
  have numbered : log.Numbered := numbered_ofRecords field origin records
  have events : log.all = records.mapIdx (Record.event field origin) :=
    all_ofRecords field origin records
  obtain ⟨new, grown⟩ : ∃ new, log = before.append new :=
    ofRecords_append field origin earlier later
  refine ⟨?_, events, fun stream number puts => Frame.metadata_carrying stream number puts field,
    ?_, ?_, ?_, ?_⟩
  · rw [← length_all, events, List.length_mapIdx]
  · intro start stop
    rw [numbered.slice_eq_filter]
    refine List.filter_congr fun e member => ?_
    simp [numbered.sequence_lt member]
  · intro start
    rw [timestampsFrom_eq, numbered.slice_eq_filter]
    refine congrArg _ (List.filter_congr fun e member => ?_)
    simp [numbered.sequence_lt member]
  · intro start stop last first
    have inside : before.count ≤ log.count := by
      rw [grown, count_append]
      exact Nat.le_add_right _ _
    have kept : log.slice first last = before.slice first last := by
      rw [grown]
      exact before.slice_append_of_le new (Nat.min_le_right _ _)
    rw [slice_eq_extract, slice_eq_extract] at kept
    exact ⟨Nat.min_le_right _ _, Nat.le_trans (Nat.min_le_right _ _) inside, kept⟩
  · intro start stop
    rw [grown]
    exact before.slice_prefix new start stop

end FrameLog

end ExposureBench
