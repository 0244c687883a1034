import ExposureBench.Bench
import Mathlib

namespace ExposureBench

namespace FrameLog

theorem length_all (log : FrameLog) : log.all.length = log.count := Array.length_toList

def append (log : FrameLog) (new : List FrameEvent) : FrameLog :=
  { log with events := log.events ++ new.toArray }

@[simp] theorem append_nil (log : FrameLog) : log.append [] = log := by
  simp [append]

@[simp] theorem append_append (log : FrameLog) (new later : List FrameEvent) :
    (log.append new).append later = log.append (new ++ later) := by
  simp [append]

@[simp] theorem all_append (log : FrameLog) (new : List FrameEvent) :
    (log.append new).all = log.all ++ new := by
  simp [append, all]

@[simp] theorem count_append (log : FrameLog) (new : List FrameEvent) :
    (log.append new).count = log.count + new.length := by
  rw [← length_all, all_append, List.length_append, length_all]

theorem extract_clamped (log : FrameLog) (start stop : Nat) :
    log.events.extract (min start (min stop log.count)) (min stop log.count) =
      log.events.extract start stop := by
  rw [count]
  apply Array.ext
  · simp only [Array.size_extract]
    omega
  · intro i inside _
    simp only [Array.size_extract] at inside
    have first : min start (min stop log.events.size) = start := by omega
    rw [Array.getElem_extract, Array.getElem_extract]
    simp only [first]

theorem slice_eq_extract (log : FrameLog) (start stop : Nat) :
    log.slice start stop = (log.events.extract start stop).toList := by
  rw [slice, extract_clamped]

theorem timestampsFrom_eq_extract (log : FrameLog) (start : Nat) :
    log.timestampsFrom start = (log.events.extract start log.count).map (·.hostTimestamp) := by
  have whole := log.extract_clamped start log.count
  rw [Nat.min_self] at whole
  rw [timestampsFrom, whole]

theorem slice_eq (log : FrameLog) (start stop : Nat) :
    log.slice start stop = (log.all.take stop).drop start := by
  rw [slice_eq_extract, Array.toList_extract, List.extract_eq_take_drop, List.drop_take]
  rfl

theorem toList_timestamps (log : FrameLog) :
    log.timestamps.toList = log.all.map (·.hostTimestamp) := by
  rw [timestamps, timestampsFrom_eq_extract, count, Array.extract_size, Array.toList_map]
  rfl

/-- What comes later is no part of a slice that ends within the log. -/
theorem slice_append_of_le (log : FrameLog) (new : List FrameEvent) {start stop : Nat}
    (inside : stop ≤ log.count) : (log.append new).slice start stop = log.slice start stop := by
  rw [← length_all] at inside
  rw [slice_eq, slice_eq, all_append, List.take_append_of_le_length inside]

theorem slice_append (log : FrameLog) (new later : List FrameEvent) :
    ((log.append new).append later).slice log.count (log.append new).count = new := by
  rw [slice_append_of_le _ _ (Nat.le_refl _), slice_eq, all_append, count_append, ← length_all,
    ← List.length_append, ← all_append, List.take_length, all_append, List.drop_left]

def eventsOf (log : FrameLog) : (count : Nat) → List Arrival → List FrameEvent
  | _, [] => []
  | count, a :: rest =>
    ⟨count, log.timestampAt a.time, a.frame.metadata log.field⟩ :: eventsOf log (count + 1) rest

@[simp] theorem length_eventsOf (log : FrameLog) (count : Nat) (arrivals : List Arrival) :
    (log.eventsOf count arrivals).length = arrivals.length := by
  induction arrivals generalizing count with
  | nil => rfl
  | cons a rest ih => simp only [eventsOf, List.length_cons, ih]

theorem eventsOf_record (log : FrameLog) (now : Nat) (frame : Frame) (count : Nat)
    (arrivals : List Arrival) :
    (log.record now frame).eventsOf count arrivals = log.eventsOf count arrivals := by
  induction arrivals generalizing count with
  | nil => rfl
  | cons a rest ih => exact congrArg _ (ih (count + 1))

theorem map_metadata_eventsOf (log : FrameLog) (count : Nat) (arrivals : List Arrival) :
    (log.eventsOf count arrivals).map (·.metadata) = arrivals.map (·.frame.metadata log.field) := by
  induction arrivals generalizing count with
  | nil => rfl
  | cons a rest ih => exact congrArg _ (ih (count + 1))

theorem map_hostTimestamp_eventsOf (log : FrameLog) (count : Nat) (arrivals : List Arrival) :
    (log.eventsOf count arrivals).map (·.hostTimestamp) =
      arrivals.map fun a => log.timestampAt a.time := by
  induction arrivals generalizing count with
  | nil => rfl
  | cons a rest ih => exact congrArg _ (ih (count + 1))

theorem eventsOf_append (log : FrameLog) (new : List FrameEvent) (count : Nat)
    (arrivals : List Arrival) :
    (log.append new).eventsOf count arrivals = log.eventsOf count arrivals := by
  induction arrivals generalizing count with
  | nil => rfl
  | cons a rest ih => exact congrArg _ (ih (count + 1))

end FrameLog

namespace Bench

theorem recordAll_eq (log : FrameLog) (arrivals : List Arrival) :
    recordAll log arrivals = log.append (log.eventsOf log.count arrivals) := by
  induction arrivals generalizing log with
  | nil => exact log.append_nil.symm
  | cons a rest ih =>
    have later : (log.record a.time a.frame).count = log.count + 1 := Array.size_push _
    rw [show recordAll log (a :: rest) = recordAll (log.record a.time a.frame) rest from rfl, ih,
      FrameLog.eventsOf_record, later]
    simp [FrameLog.record, FrameLog.recordValue, FrameLog.eventsOf, FrameLog.append]

variable (b : Bench) (arrivals : List Arrival)

@[simp] theorem device_deliver : (b.deliver arrivals).device = b.device := by
  unfold deliver
  split <;> rfl

@[simp] theorem feed_deliver : (b.deliver arrivals).feed = b.feed := by
  unfold deliver
  split <;> rfl

@[simp] theorem calls_deliver : (b.deliver arrivals).calls = b.calls := by
  unfold deliver
  split <;> rfl

theorem log?_deliver (id : LogId) :
    (b.deliver arrivals).log? id =
      if b.feed = some id then (b.log? id).map (recordAll · arrivals) else b.log? id := by
  unfold deliver log?
  cases feed : b.feed with
  | none => rfl
  | some fed => simp only [Array.getElem?_modify, Option.some.injEq]

theorem start_accepted {b b' : Bench} {field : MetadataField} {id : LogId}
    (starts : b.start field = (.ok id, b')) :
    b.device.start b.now = (.ok (), b'.device) ∧ id = b.logs.size ∧ b'.feed = some id ∧
      b'.logs = b.logs.push { field, origin := b.now } := by
  rw [start, perform] at starts
  rcases began : b.device.start b.now with ⟨fault | _, device⟩ <;> rw [began] at starts <;>
    cases starts
  exact ⟨rfl, rfl, rfl, rfl⟩

theorem start_refused {b b' : Bench} {field : MetadataField} {fault : DeviceFault}
    (starts : b.start field = (.error fault, b')) :
    b.device.start b.now = (.error fault, b'.device) ∧ b'.logs = b.logs ∧ b'.feed = b.feed := by
  rw [start, perform] at starts
  rcases began : b.device.start b.now with ⟨fault | _, device⟩ <;> rw [began] at starts <;>
    cases starts
  exact ⟨rfl, rfl, rfl⟩

theorem start_done {b b' : Bench} {field : MetadataField} {id : LogId}
    (starts : b.start field = (.ok id, b')) :
    b.device.start b.now = (.ok (), b'.device) ∧ b'.feed = some id ∧
      b'.log? id = some { field, origin := b.now } := by
  obtain ⟨began, rfl, fed, logs⟩ := start_accepted starts
  refine ⟨began, fed, ?_⟩
  rw [log?, logs, Array.getElem?_push_size]

theorem deliver_nil : b.deliver [] = b := by
  rcases b with ⟨device, now, logs, _ | id, calls⟩
  · rfl
  · have same : logs.modify id (recordAll · []) = logs := by
      apply Array.ext_getElem?
      intro i
      rw [Array.getElem?_modify]
      split
      · cases logs[i]? <;> rfl
      · rfl
    simp only [deliver, same]

@[simp] theorem size_logs_deliver : (b.deliver arrivals).logs.size = b.logs.size := by
  unfold deliver
  split
  · rfl
  · exact Array.size_modify

@[simp] theorem sleep_zero : b.sleep 0 = b := if_pos rfl

theorem sleep_of_pos {ms : Nat} (positive : 0 < ms) :
    b.sleep ms =
      ({ b with
        device := (b.device.runUntil (b.now + Duration.ofMillis ms)).1
        now := b.now + Duration.ofMillis ms } : Bench).deliver
        (b.device.runUntil (b.now + Duration.ofMillis ms)).2 := by
  rw [sleep, if_neg (Nat.ne_of_gt positive)]

theorem device_sleep {ms : Nat} (positive : 0 < ms) :
    (b.sleep ms).device = (b.device.runUntil (b.now + Duration.ofMillis ms)).1 := by
  rw [sleep_of_pos _ positive, device_deliver]

theorem log?_sleep {ms : Nat} (positive : 0 < ms) (id : LogId) :
    (b.sleep ms).log? id =
      if b.feed = some id then
        (b.log? id).map (recordAll · (b.device.runUntil (b.now + Duration.ofMillis ms)).2)
      else b.log? id := by
  rw [sleep_of_pos _ positive, log?_deliver]
  rfl

@[simp] theorem feed_sleep (ms : Nat) : (b.sleep ms).feed = b.feed := by
  rcases Nat.eq_zero_or_pos ms with rfl | positive
  · rfl
  · rw [b.sleep_of_pos positive, feed_deliver]

@[simp] theorem calls_sleep (ms : Nat) : (b.sleep ms).calls = b.calls := by
  rcases Nat.eq_zero_or_pos ms with rfl | positive
  · rfl
  · rw [b.sleep_of_pos positive, calls_deliver]

@[simp] theorem size_logs_sleep (ms : Nat) : (b.sleep ms).logs.size = b.logs.size := by
  rcases Nat.eq_zero_or_pos ms with rfl | positive
  · rw [sleep_zero]
  · rw [b.sleep_of_pos positive, size_logs_deliver]

/-- `b'` comes of `b` by writes and sleeps alone. -/
inductive Evolves (b : Bench) : Bench → Prop
  | refl : Evolves b b
  | slept {b' : Bench} (earlier : Evolves b b') (ms : Nat) : Evolves b (b'.sleep ms)
  | written {b' : Bench} (earlier : Evolves b b') (option : DeviceOption) (v : Float) :
      Evolves b (b'.set option v).2

theorem Evolves.trans {b b' b'' : Bench} (first : Evolves b b') (second : Evolves b' b'') :
    Evolves b b'' := by
  induction second with
  | refl => exact first
  | slept _ ms ih => exact ih.slept ms
  | written _ option v ih => exact ih.written option v

theorem Evolves.keeps {P : Bench → Prop} (sleep : ∀ b ms, P b → P (b.sleep ms))
    (set : ∀ b option v, P b → P (b.set option v).2) {b b' : Bench} (evolves : Evolves b b')
    (start : P b) : P b' := by
  induction evolves with
  | refl => exact start
  | slept _ ms ih => exact sleep _ ms ih
  | written _ option v ih => exact set _ option v ih

/-- From `b` to `b'` the log has taken these events, and lost none. -/
def Records (id : LogId) (b b' : Bench) (new : List FrameEvent) : Prop :=
  ∃ log, b.log? id = some log ∧ b'.log? id = some (log.append new)

namespace Records

variable {id : LogId} {b b' b'' : Bench} {new later : List FrameEvent} {log : FrameLog}

theorem refl (present : b.log? id = some log) : Records id b b [] :=
  ⟨log, present, by rw [present, log.append_nil]⟩

theorem trans (first : Records id b b' new) (second : Records id b' b'' later) :
    Records id b b'' (new ++ later) := by
  obtain ⟨log, present, extended⟩ := first
  obtain ⟨log', present', extended'⟩ := second
  cases extended.symm.trans present'
  exact ⟨log, present, by rw [extended', log.append_append]⟩

theorem count (records : Records id b b' new) : b'.count id = b.count id + new.length := by
  obtain ⟨log, present, extended⟩ := records
  simp [Bench.count, present, extended]

theorem slice (records : Records id b b' new) (after : Records id b' b'' later)
    (present : b''.log? id = some log) :
    log.slice (b.count id) (b'.count id) = new := by
  obtain ⟨log₀, present₀, extended₀⟩ := records
  obtain ⟨log₁, present₁, extended₁⟩ := after
  cases extended₀.symm.trans present₁
  cases extended₁.symm.trans present
  simpa [Bench.count, present₀, present₁] using log₀.slice_append new later

theorem window (records : Records id b b' new) (after : Records id b' b'' later)
    (present : b''.log? id = some log) (expected : Bool) :
    log.slice (Window.spanning (b.count id) (b'.count id) expected).start
      (Window.spanning (b.count id) (b'.count id) expected).stop = new := by
  have stop : (Window.spanning (b.count id) (b'.count id) expected).stop = b'.count id := by
    rw [records.count]
    exact Nat.max_eq_left (Nat.le_add_right _ _)
  rw [stop]
  exact records.slice after present

theorem of_sleep (b : Bench) (ms : Nat) (present : b.log? id = some log) :
    ∃ new, Records id b (b.sleep ms) new := by
  rcases Nat.eq_zero_or_pos ms with rfl | positive
  · exact ⟨[], .refl present⟩
  · by_cases fed : b.feed = some id
    · exact ⟨_, log, present, by
        rw [b.log?_sleep positive, if_pos fed, present, Option.map_some, recordAll_eq]⟩
    · exact ⟨[], log, present, by rw [b.log?_sleep positive, if_neg fed, present, log.append_nil]⟩

end Records

theorem Evolves.records {b b' : Bench} (evolves : b.Evolves b') {id : LogId} {log : FrameLog}
    (present : b.log? id = some log) : ∃ new, Records id b b' new := by
  refine evolves.keeps (P := fun b' => ∃ new, Records id b b' new) ?_ ?_ ⟨[], .refl present⟩
  · rintro b' ms ⟨new, taken⟩
    have extended := taken
    obtain ⟨_, _, present'⟩ := extended
    obtain ⟨later, taken'⟩ := Records.of_sleep b' ms present'
    exact ⟨new ++ later, taken.trans taken'⟩
  · rintro b' option v ⟨new, log, present, present'⟩
    exact ⟨new, log, present, present'⟩

theorem Evolves.count_le {b b' : Bench} (evolves : b.Evolves b') (id : LogId) :
    b.count id ≤ b'.count id := by
  rcases present : b.log? id with _ | log
  · have none : b.count id = 0 := by rw [count, present]; rfl
    omega
  · obtain ⟨new, records⟩ := evolves.records present
    rw [records.count]
    exact Nat.le_add_right _ _

end Bench

end ExposureBench
