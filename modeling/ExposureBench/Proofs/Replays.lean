import ExposureBench.Proofs.CameraCalls
import ExposureBench.Proofs.Passage

/-!
A bench that does what another one does, only later. What either held before its camera was
started is left out of account.
-/

namespace ExposureBench

def Arrival.later (t : Nat) (a : Arrival) : Arrival := { a with time := t + a.time }

def CallRecord.later (t : Nat) (r : CallRecord) : CallRecord := { r with time := t + r.time }

namespace Delivery

def later (t : Nat) (d : Delivery) : Delivery := { d with due := t + d.due }

variable (t : Nat) (config : CameraConfig) (d : Delivery)

theorem settle_later : (d.later t).settle config = (d.settle config).later t := by
  rw [settle_eq, settle_eq]
  rfl

theorem arrival_later : (d.later t).arrival config = (d.arrival config).later t := by
  simp only [arrival, settle_later]
  rfl

theorem advance_later (controls : Controls) (period : Nat) :
    (d.later t).advance config controls period = (d.advance config controls period).later t := by
  simp only [advance, settle_later]
  simp only [later, Nat.add_assoc]

theorem idleUntil_later (controls : Controls) (period time : Nat) :
    (d.later t).idleUntil controls period (t + time) =
      (d.idleUntil controls period time).later t := by
  simp only [idleUntil, later, Nat.add_sub_add_left, Nat.add_assoc]

end Delivery

def Worker.later (t : Nat) : Worker → Worker
  | .running d => .running (d.later t)
  | worker => worker

theorem Delivery.runUntil_later (t : Nat) (config : CameraConfig) (controls : Controls)
    (period? : Option Nat) (time : Nat) (d : Delivery) :
    (d.later t).runUntil config controls period? (t + time) =
      ((d.runUntil config controls period? time).1.later t,
        (d.runUntil config controls period? time).2.map (·.later t)) := by
  induction d using frame_induction config controls period? time with
  | early d early =>
    have early' : t + time < (d.later t).due := Nat.add_lt_add_left early t
    rw [runUntil_early early, runUntil_early early']
    rfl
  | failed d due missing =>
    subst missing
    have due' : (d.later t).due ≤ t + time := Nat.add_le_add_left due t
    have number : (d.later t).number = d.number := rfl
    rw [runUntil_failed due, runUntil_failed due', arrival_later, number]
    split <;> rfl
  | stalled d period due found stalled =>
    subst found
    have due' : (d.later t).due ≤ t + time := Nat.add_le_add_left due t
    rw [runUntil_stalled due stalled, runUntil_stalled due' stalled, idleUntil_later]
    rfl
  | next d period due found going ih =>
    subst found
    have due' : (d.later t).due ≤ t + time := Nat.add_le_add_left due t
    rw [runUntil_next due going, runUntil_next due' going, advance_later, ih, arrival_later]
    rfl

namespace FrameLog

def later (t : Nat) (log : FrameLog) : FrameLog := { log with origin := t + log.origin }

theorem record_later (t : Nat) (log : FrameLog) (now : Nat) (frame : Frame) :
    (log.later t).record (t + now) frame = (log.record now frame).later t := by
  simp only [record, recordValue, timestampAt, later, Nat.add_sub_add_left]
  rfl

end FrameLog

theorem Bench.recordAll_later (t : Nat) (log : FrameLog) (arrivals : List Arrival) :
    recordAll (log.later t) (arrivals.map (·.later t)) = (recordAll log arrivals).later t := by
  induction arrivals generalizing log with
  | nil => rfl
  | cons a rest ih =>
    have first : (log.later t).record (a.later t).time (a.later t).frame =
        (log.record a.time a.frame).later t := log.record_later t a.time a.frame
    simp only [recordAll, List.map_cons, List.foldl_cons] at ih ⊢
    rw [first, ih]

namespace Camera

def delivering (c : Camera) (worker : Worker) (delivered : Nat) : Camera :=
  { c with worker, delivered }

variable (c : Camera) (worker : Worker) (delivered : Nat)

theorem openWith_delivering (profile : StreamProfile) :
    (c.delivering worker delivered).openWith profile =
      (c.openWith profile).map id (·.delivering worker delivered) := by
  simp only [openWith, apply_ite (Prod.map _ _)]
  rfl

theorem close_delivering :
    (c.delivering worker delivered).close = c.close.map id (·.delivering worker delivered) := by
  simp only [close, apply_ite (Prod.map _ _)]
  rfl

theorem set_delivering (option : DeviceOption) (v : Float) :
    (c.delivering worker delivered).set option v =
      (c.set option v).map id (·.delivering worker delivered) := by
  have same : (c.delivering worker delivered).controls.write? option v =
      c.controls.write? option v := rfl
  simp only [set, apply_ite (Prod.map _ _), same]
  cases c.controls.write? option v <;> rfl

theorem worker?_delivering (profile : StreamProfile) (t now : Nat) :
    (c.delivering worker delivered).worker? profile (t + now) =
      (c.worker? profile now).later t := by
  have same : (c.delivering worker delivered).controls = c.controls := rfl
  simp only [worker?, same]
  cases c.controls.period? profile with
  | none => rfl
  | some period => simp only [Worker.later, Delivery.later, Nat.add_assoc]

theorem start_delivering (t now : Nat) :
    (c.delivering worker delivered).start (t + now) = match c.start now with
      | (.ok (), c') => (.ok (), c'.delivering (c'.worker.later t) delivered)
      | (.error fault, c') => (.error fault, c'.delivering worker delivered) := by
  have profile : (c.delivering worker delivered).profile = c.profile := rfl
  have streaming : (c.delivering worker delivered).streaming = c.streaming := rfl
  simp only [start, profile, streaming]
  rcases c.profile with _ | profile
  · rfl
  · cases c.streaming
    · simp only [worker?_delivering]
      rfl
    · rfl

theorem stop_delivering (t : Nat) :
    (c.delivering (c.worker.later t) delivered).stop =
      c.stop.map id fun c' => c'.delivering (c'.worker.later t) delivered := by
  rcases c with ⟨_, _, _, _, _, _ | _ | _⟩ <;> rfl

theorem runUntil_delivering (t time : Nat) :
    (c.delivering (c.worker.later t) delivered).runUntil (t + time) =
      (c.runUntil time).map
        (fun c' => c'.delivering (c'.worker.later t) (delivered + (c.runUntil time).2.length))
        (·.map (·.later t)) := by
  rcases c with ⟨config, controls, profile, streaming, _, _ | d | _⟩
  · rfl
  · have same : (d.later t).profile = d.profile := rfl
    simp only [delivering, Worker.later, runUntil, same, d.runUntil_later, List.length_map]
    rfl
  · rfl

theorem runUntil_eq_delivering (time : Nat) :
    (c.runUntil time).1 =
      c.delivering (c.runUntil time).1.worker (c.runUntil time).1.delivered := by
  rcases c with ⟨_, _, _, _, _, _ | _ | _⟩ <;> rfl

/-- `c` has the settings of `r`. Once `r` has begun to stream, `c` delivers what `r` does, later by
`t`. -/
def Replays (t : Nat) (begun : Prop) (r c : Camera) : Prop :=
  ∃ worker delivered, c = r.delivering worker delivered ∧ (begun → worker = r.worker.later t)

namespace Replays

variable {t : Nat} {begun : Prop} {r c : Camera} (replays : r.Replays t begun c)
include replays

theorem openWith (profile : StreamProfile) :
    (c.openWith profile).1 = (r.openWith profile).1 ∧
      (r.openWith profile).2.Replays t begun (c.openWith profile).2 := by
  obtain ⟨worker, delivered, rfl, since⟩ := replays
  rw [openWith_delivering]
  exact ⟨rfl, worker, delivered, rfl, by rwa [worker_openWith]⟩

theorem close : c.close.1 = r.close.1 ∧ r.close.2.Replays t begun c.close.2 := by
  obtain ⟨worker, delivered, rfl, since⟩ := replays
  rw [close_delivering]
  exact ⟨rfl, worker, delivered, rfl, by rwa [worker_close]⟩

theorem set (option : DeviceOption) (v : Float) :
    (c.set option v).1 = (r.set option v).1 ∧
      (r.set option v).2.Replays t begun (c.set option v).2 := by
  obtain ⟨worker, delivered, rfl, since⟩ := replays
  rw [set_delivering]
  exact ⟨rfl, worker, delivered, rfl, by rwa [worker_set]⟩

theorem stop (since : begun) : c.stop.1 = r.stop.1 ∧ r.stop.2.Replays t begun c.stop.2 := by
  obtain ⟨worker, delivered, rfl, same⟩ := replays
  obtain rfl := same since
  rw [stop_delivering]
  exact ⟨rfl, _, delivered, rfl, fun _ => rfl⟩

theorem runUntil (time : Nat) :
    (r.runUntil time).1.Replays t begun (c.runUntil (t + time)).1 ∧
      (begun → (c.runUntil (t + time)).2 = (r.runUntil time).2.map (·.later t)) := by
  obtain ⟨worker, delivered, rfl, same⟩ := replays
  by_cases since : begun
  · obtain rfl := same since
    rw [runUntil_delivering]
    exact ⟨⟨_, _, rfl, fun _ => rfl⟩, fun _ => rfl⟩
  · refine ⟨⟨((r.delivering worker delivered).runUntil (t + time)).1.worker,
      ((r.delivering worker delivered).runUntil (t + time)).1.delivered, ?_,
      fun other => absurd other since⟩, fun other => absurd other since⟩
    rw [r.runUntil_eq_delivering]
    exact runUntil_eq_delivering _ _

end Replays

end Camera

namespace Bench

/-- `b` has gone on from `start` as `r` has gone on from nothing. -/
structure Replays (start r b : Bench) : Prop where
  camera : ∃ c c', r.device = .camera c ∧ b.device = .camera c' ∧
    c.Replays start.now (0 < r.logs.size) c'
  now : b.now = start.now + r.now
  size : b.logs.size = start.logs.size + r.logs.size
  logs : ∀ id, b.logs[start.logs.size + id]? = r.logs[id]?.map (·.later start.now)
  feed : 0 < r.logs.size → b.feed = r.feed.map (start.logs.size + ·)
  calls : b.calls.toList = start.calls.toList ++ r.calls.toList.map (·.later start.now)

/-- A bench with a new camera of the same configuration and controls, on which nothing has been
done. -/
def renewed (c : Camera) : Bench :=
  { device := .camera { config := c.config, controls := c.controls } }

theorem renewed_replays {start : Bench} {c : Camera} (camera : start.device = .camera c)
    (closed : c.isOpen = false) (silent : c.streaming = false) :
    start.Replays (renewed c) start where
  camera := by
    refine ⟨_, c, rfl, camera, c.worker, c.delivered, ?_, nofun⟩
    rcases c with ⟨_, _, _ | _, _, _, _⟩
    · cases silent
      rfl
    · cases closed
  now := rfl
  size := rfl
  logs := by
    intro id
    exact Array.getElem?_eq_none (Nat.le_add_right _ _)
  feed := nofun
  calls := (List.append_nil _).symm

namespace Replays

variable {start r b : Bench} (replays : start.Replays r b)
include replays

theorem log? (id : LogId) :
    b.log? (start.logs.size + id) = (r.log? id).map (·.later start.now) :=
  replays.logs id

theorem reads {α : Type} {read : Device → α} (still : ∀ (c : Camera) worker delivered,
    read (.camera (c.delivering worker delivered)) = read (.camera c)) :
    read b.device = read r.device := by
  obtain ⟨c, _, camera, camera', worker, delivered, rfl, _⟩ := replays.camera
  rw [camera, camera', still]

theorem called (call : Call) {ask : Device → Except DeviceFault Unit × Device}
    {answer : Camera → Except DeviceFault Unit × Camera}
    (asks : ∀ c, ask (.camera c) = (answer c).map id .camera)
    (answers : ∀ c c', c.Replays start.now (0 < r.logs.size) c' → (answer c').1 = (answer c).1 ∧
      (answer c).2.Replays start.now (0 < r.logs.size) (answer c').2) :
    (b.perform call (ask b.device)).1 = (r.perform call (ask r.device)).1 ∧
      start.Replays (r.perform call (ask r.device)).2 (b.perform call (ask b.device)).2 := by
  obtain ⟨c, c', camera, camera', cameras⟩ := replays.camera
  obtain ⟨same, after⟩ := answers c c' cameras
  rw [camera, camera', asks, asks]
  refine ⟨same, { replays with camera := ⟨_, _, rfl, rfl, after⟩, calls := ?_ }⟩
  simp only [perform, Prod.map, id, same, replays.now, Array.toList_push, replays.calls,
    List.map_append, List.append_assoc]
  rfl

theorem openWith (profile : StreamProfile) :
    (b.openWith profile).1 = (r.openWith profile).1 ∧
      start.Replays (r.openWith profile).2 (b.openWith profile).2 :=
  replays.called _ (fun _ => rfl) fun _ _ cameras => cameras.openWith profile

theorem close : b.close.1 = r.close.1 ∧ start.Replays r.close.2 b.close.2 :=
  replays.called _ (fun _ => rfl) fun _ _ cameras => cameras.close

theorem set (option : DeviceOption) (v : Float) :
    (b.set option v).1 = (r.set option v).1 ∧ start.Replays (r.set option v).2 (b.set option v).2 :=
  replays.called _ (fun _ => rfl) fun _ _ cameras => cameras.set option v

theorem stop (begun : 0 < r.logs.size) :
    b.stop.1 = r.stop.1 ∧ start.Replays r.stop.2 b.stop.2 :=
  replays.called _ (fun _ => rfl) fun _ _ cameras => cameras.stop begun

theorem starts (field : MetadataField) :
    (b.start field).1 = (r.start field).1.map (start.logs.size + ·) ∧
      start.Replays (r.start field).2 (b.start field).2 := by
  obtain ⟨c, _, camera, camera', worker, delivered, rfl, since⟩ := replays.camera
  have calls : ∀ accepted, (b.calls.push ⟨.start, accepted, b.now⟩).toList = start.calls.toList ++
      (r.calls.push ⟨.start, accepted, r.now⟩).toList.map (·.later start.now) := by
    intro accepted
    simp [replays.now, replays.calls, CallRecord.later]
  have began' := c.start_delivering worker delivered start.now r.now
  rw [← replays.now] at began'
  rcases began : c.start r.now with ⟨fault | _, c'⟩ <;> rw [began] at began'
  · obtain rfl := Camera.start_refused began
    rw [start_of_refused camera began, start_of_refused camera' began']
    exact ⟨rfl, { replays with calls := calls false }⟩
  · rw [start_of_accepted camera began, start_of_accepted camera' began']
    refine ⟨congrArg Except.ok replays.size, ⟨⟨c', _, rfl, rfl, _, delivered, rfl, fun _ => rfl⟩,
      replays.now, ?_, ?_, ?_, calls true⟩⟩
    · simp only [Array.size_push, replays.size, Nat.add_assoc]
    · intro id
      simp only [Array.getElem?_push, replays.size, replays.logs, Nat.add_left_cancel_iff]
      split
      · simp only [replays.now, Option.map_some, FrameLog.later]
      · rfl
    · intro _
      exact congrArg some replays.size

theorem deliver {arrivals arrivals' : List Arrival}
    (same : 0 < r.logs.size → arrivals' = arrivals.map (·.later start.now)) :
    start.Replays (r.deliver arrivals) (b.deliver arrivals') where
  camera := by simpa only [device_deliver, size_logs_deliver] using replays.camera
  now := by simpa only [now_deliver] using replays.now
  size := by simpa only [size_logs_deliver] using replays.size
  logs := by
    intro id
    rcases Nat.eq_zero_or_pos r.logs.size with none | begun
    · have old : (b.deliver arrivals').logs.size ≤ start.logs.size + id := by
        rw [size_logs_deliver, replays.size, none]
        exact Nat.le_add_right _ _
      have empty : (r.deliver arrivals).logs.size ≤ id := by
        rw [size_logs_deliver, none]
        exact Nat.zero_le id
      rw [Array.getElem?_eq_none old, Array.getElem?_eq_none empty]
      rfl
    · change (b.deliver arrivals').log? _ = ((r.deliver arrivals).log? id).map _
      rw [log?_deliver, log?_deliver, replays.feed begun, same begun, replays.log?]
      have fed : r.feed.map (start.logs.size + ·) = some (start.logs.size + id) ↔
          r.feed = some id := by
        cases r.feed <;> simp
      simp only [fed, Option.map_map, apply_ite (Option.map _)]
      congr 2
      funext log
      exact recordAll_later start.now log arrivals
  feed := by simpa only [feed_deliver, size_logs_deliver] using replays.feed
  calls := by simpa only [calls_deliver] using replays.calls

theorem sleep (ms : Nat) : start.Replays (r.sleep ms) (b.sleep ms) := by
  rcases Nat.eq_zero_or_pos ms with rfl | positive
  · exact replays
  · obtain ⟨c, c', camera, camera', cameras⟩ := replays.camera
    have wakes : b.now + Duration.ofMillis ms = start.now + (r.now + Duration.ofMillis ms) := by
      rw [replays.now, Nat.add_assoc]
    obtain ⟨after, arrivals⟩ := cameras.runUntil (r.now + Duration.ofMillis ms)
    have woken : start.Replays
        { r with
          device := (r.device.runUntil (r.now + Duration.ofMillis ms)).1
          now := r.now + Duration.ofMillis ms }
        { b with
          device := (b.device.runUntil (b.now + Duration.ofMillis ms)).1
          now := b.now + Duration.ofMillis ms } := by
      rw [camera, camera', wakes]
      exact { replays with camera := ⟨_, _, rfl, rfl, after⟩, now := rfl }
    rw [sleep_of_pos _ positive, sleep_of_pos _ positive]
    apply woken.deliver
    rw [camera, camera', wakes]
    exact arrivals

end Replays

end Bench

end ExposureBench
