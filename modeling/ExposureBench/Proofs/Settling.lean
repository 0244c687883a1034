import ExposureBench.Control.Barrier
import ExposureBench.Proofs.CameraCalls
import ExposureBench.Proofs.Delivery

/-!
The lead of a delivery is the number of frames that may still report another state; each frame
takes one from it.
-/

namespace ExposureBench

namespace Delivery

variable {config : CameraConfig} {on : Bool} {d : Delivery}

/-- A frame under way was made with the controls of before; then the lag begins, or goes on. -/
def lead (config : CameraConfig) (on : Bool) (d : Delivery) : Nat :=
  if d.held.autoExposure ≠ on then config.lagFrames + 1
  else if d.reported = on then 0
  else if d.requested = on then d.lagLeft
  else config.lagFrames

theorem lead_le (lagging : d.lagLeft ≤ config.lagFrames) :
    d.lead config on ≤ config.lagFrames + 1 := by
  unfold lead
  split
  · exact Nat.le_refl _
  split
  · exact Nat.zero_le _
  split
  · exact Nat.le_succ_of_le lagging
  · exact Nat.le_succ _

theorem lag_le (lagging : d.lagLeft ≤ config.lagFrames) : d.lag config ≤ config.lagFrames := by
  unfold lag
  split
  · exact lagging
  · exact Nat.le_refl _

theorem reported_of_lead (settled : d.lead config on = 0) : (d.settle config).reported = on := by
  unfold lead at settled
  rw [reported_settle]
  split at settled
  · cases settled
  next held =>
  have held : d.held.autoExposure = on := Decidable.not_not.mp held
  split at settled
  next reported =>
    split
    · exact reported
    · exact held
  -- The old state is reported no longer: neither a lag goes on nor does one begin.
  have caughtUp : d.lag config = 0 := by
    unfold lag
    split at settled
    next requested => rw [if_pos (held.trans requested.symm), settled]
    next requested => rw [if_neg (fun same => requested (same.symm.trans held)), settled]
  rw [caughtUp]
  exact held

theorem lead_advance {controls : Controls} (current : controls.autoExposure = on) (period : Nat) :
    (d.advance config controls period).lead config on ≤ d.lead config on - 1 := by
  have held : ¬ (d.advance config controls period).held.autoExposure ≠ on := not_not_intro current
  by_cases reported : (d.advance config controls period).reported = on
  · rw [lead, if_neg held, if_pos reported]
    exact Nat.zero_le _
  rw [lead, if_neg held, if_neg reported, requested_advance, lagLeft_advance]
  split
  next requested =>
    have old : d.reported ≠ on := by
      intro same
      apply reported
      rw [reported_advance, same, requested]
      exact ite_self on
    have same : d.lead config on = d.lag config := by
      rw [lead, if_neg (not_not_intro requested), if_neg old, lag, requested]
      simp only [eq_comm]
    exact Nat.le_of_eq (congrArg (· - 1) same.symm)
  next requested => exact Nat.le_of_eq (by rw [lead, if_pos requested, Nat.add_sub_cancel])

theorem lead_idleUntil {controls : Controls} (current : controls.autoExposure = on)
    (lagging : d.lagLeft ≤ config.lagFrames) (period time : Nat) :
    (d.idleUntil controls period time).lead config on ≤ d.lead config on := by
  have held : ¬ (d.idleUntil controls period time).held.autoExposure ≠ on := not_not_intro current
  by_cases late : d.held.autoExposure ≠ on
  · rw [lead.eq_def config on d, if_pos late]
    exact lead_le lagging
  · have same : (d.idleUntil controls period time).lead config on = d.lead config on := by
      rw [lead, lead, if_neg held, if_neg late]
      rfl
    exact Nat.le_of_eq same

/-- A delivery that will soon report a state: its lead, and a lag that is none of its own. -/
structure Nears (config : CameraConfig) (on : Bool) (lead : Nat) (d : Delivery) : Prop where
  lagging : d.lagLeft ≤ config.lagFrames
  lead_le : d.lead config on ≤ lead

theorem frame_flag (unstuck : config.stuckValue = none) :
    (d.frame config).autoExposure = none ∨ (d.frame config).autoExposure =
      some (if d.reported then 1 else 0) := by
  unfold frame
  rw [unstuck]
  dsimp only
  split
  · exact .inl rfl
  · exact .inr rfl

theorem Nears.advance {lead : Nat} (nears : d.Nears config on lead) {controls : Controls}
    (current : controls.autoExposure = on) (period : Nat) :
    (d.advance config controls period).Nears config on (lead - 1) where
  lagging := by
    rw [lagLeft_advance]
    exact Nat.le_trans (Nat.sub_le _ 1) (lag_le nears.lagging)
  lead_le :=
    calc
      (d.advance config controls period).lead config on ≤ d.lead config on - 1 :=
        lead_advance current period
      _ ≤ lead - 1 := Nat.sub_le_sub_right nears.lead_le 1

theorem Nears.idleUntil {lead : Nat} (nears : d.Nears config on lead) {controls : Controls}
    (current : controls.autoExposure = on) (period time : Nat) :
    (d.idleUntil controls period time).Nears config on lead where
  lagging := nears.lagging
  lead_le :=
    calc
      (d.idleUntil controls period time).lead config on ≤ d.lead config on :=
        lead_idleUntil current nears.lagging period time
      _ ≤ lead := nears.lead_le

theorem Nears.mono {lead lead' : Nat} (nears : d.Nears config on lead) (le : lead ≤ lead') :
    d.Nears config on lead' :=
  ⟨nears.lagging, Nat.le_trans nears.lead_le le⟩

def Fits (on : Bool) (value : Option Int) : Prop := value = none ∨
    value = some (if on then 1 else 0)

theorem arrival_fits (unstuck : config.stuckValue = none) (nears : d.Nears config on 0) :
    Fits on (d.arrival config).frame.autoExposure := by
  have reported := reported_of_lead (Nat.eq_zero_of_le_zero nears.lead_le)
  rw [← reported]
  exact frame_flag unstuck

theorem runUntil_nears {controls : Controls} (current : controls.autoExposure = on)
    (period? : Option Nat) (time lead : Nat) (nears : d.Nears config on lead) :
    ∀ d', (d.runUntil config controls period? time).1 = .running d' →
      d'.Nears config on (lead - (d.runUntil config controls period? time).2.length) := by
  revert lead
  refine runUntil_induction (motive := fun d result => ∀ lead, d.Nears config on lead →
    ∀ d', result.1 = .running d' → d'.Nears config on (lead - result.2.length)) ?early ?failed
      ?stalled ?next d
  case early =>
    rintro d _ lead nears d' ⟨⟩
    exact nears
  case failed =>
    rintro d _ lead _ d' ⟨⟩
  case stalled =>
    rintro d period _ lead nears d' ⟨⟩
    exact nears.idleUntil current _ time
  case next =>
    intro d period rest _ ih lead nears d' running
    have nears' := ih (lead - 1) (nears.advance current _) d' running
    rwa [Nat.sub_sub, Nat.add_comm 1] at nears'

theorem runUntil_fits {controls : Controls} (current : controls.autoExposure = on)
    (unstuck : config.stuckValue = none) (period? : Option Nat) (time : Nat)
    (nears : d.Nears config on 0) :
    ∀ a ∈ (d.runUntil config controls period? time).2, Fits on a.frame.autoExposure := by
  revert nears
  refine runUntil_induction (motive := fun d result => d.Nears config on 0 →
    ∀ a ∈ result.2, Fits on a.frame.autoExposure) ?early ?failed ?stalled ?next d
  case early =>
    intro d _ _ a member
    cases member
  case failed =>
    intro d _ nears a member
    dsimp only at member
    split at member
    · cases member
    · cases List.mem_singleton.mp member
      exact arrival_fits unstuck nears
  case stalled =>
    intro d _ _ _ a member
    cases member
  case next =>
    intro d period rest _ ih nears a member
    rcases List.mem_cons.mp member with rfl | later
    · exact arrival_fits unstuck nears
    · exact ih (nears.advance current _) a later

end Delivery

theorem Controls.write?_autoExposure (c : Controls) (on : Bool) :
    c.write? .enableAutoExposure (if on then 1 else 0) = some { c with autoExposure := on } := by
  have written : ((if on then 1 else 0 : Float) != 0) = on := by cases on <;> decide
  rw [write?, written]

structure Camera.Nears (config : CameraConfig) (on : Bool) (lead : Nat) (c : Camera) : Prop where
  config_eq : c.config = config
  current : c.controls.autoExposure = on
  nears : ∀ d, c.worker = .running d → d.Nears config on lead

namespace Camera

variable {config : CameraConfig} {on : Bool} {lead : Nat} {c : Camera}

theorem Nears.mono {lead' : Nat} (nears : c.Nears config on lead) (le : lead ≤ lead') :
    c.Nears config on lead' :=
  ⟨nears.config_eq, nears.current, fun d running => (nears.nears d running).mono le⟩

theorem Nears.runUntil (nears : c.Nears config on lead) (time : Nat) :
    (c.runUntil time).1.Nears config on (lead - (c.runUntil time).2.length) := by
  unfold Camera.runUntil
  split
  next d running =>
    refine ⟨nears.config_eq, nears.current, fun d' running' => ?_⟩
    rw [nears.config_eq] at running' ⊢
    exact Delivery.runUntil_nears nears.current _ time lead (nears.nears d running) d' running'
  · exact nears

theorem Nears.fits (nears : c.Nears config on 0) (unstuck : config.stuckValue = none) (time : Nat) :
    ∀ a ∈ (c.runUntil time).2, Delivery.Fits on a.frame.autoExposure := by
  unfold Camera.runUntil
  split
  next d running =>
    rw [nears.config_eq]
    exact Delivery.runUntil_fits nears.current unstuck _ time (nears.nears d running)
  · intro a member
    cases member

theorem Nears.set_autoExposure (nears : c.Nears config on lead) (on' : Bool) {c' : Camera}
    (accepted : c.set .enableAutoExposure (if on' then 1 else 0) = (.ok (), c')) :
    c'.Nears config on' (config.lagFrames + 1) := by
  obtain ⟨controls, written, rfl⟩ := set_accepted accepted
  rw [Controls.write?_autoExposure] at written
  cases written
  exact ⟨nears.config_eq, rfl, fun d running =>
    ⟨(nears.nears d running).lagging, Delivery.lead_le (nears.nears d running).lagging⟩⟩

theorem Nears.set_same (nears : c.Nears config on lead) {c' : Camera}
    (accepted : c.set .enableAutoExposure (if on then 1 else 0) = (.ok (), c')) :
    c'.Nears config on lead := by
  obtain ⟨controls, written, rfl⟩ := set_accepted accepted
  rw [Controls.write?_autoExposure] at written
  cases written
  exact ⟨nears.config_eq, rfl, nears.nears⟩

theorem Nears.of_start {opened started : Camera} {now : Nat}
    (starts : opened.start now = (.ok (), started)) :
    started.Nears opened.config opened.controls.autoExposure 0 := by
  obtain ⟨profile, _, rfl⟩ := start_accepted starts
  refine ⟨rfl, rfl, fun d running => ?_⟩
  dsimp only at running
  unfold worker? at running
  split at running
  · cases running
  · cases running
    exact ⟨Nat.zero_le _, by simp [Delivery.lead]⟩

end Camera

namespace Bench

structure Watches (config : CameraConfig) (on : Bool) (id : LogId) (lead : Nat)
    (b : Bench) : Prop where
  camera : ∃ c, b.device = .camera c ∧ c.Nears config on lead
  fed : b.feed = some id
  log : ∃ log, b.log? id = some log ∧ log.field = .autoExposure

variable {config : CameraConfig} {on : Bool} {id : LogId} {lead : Nat} {b b' b'' : Bench}

/-- From `b` to `b'` frames have come, each of which took one from the lead. If there was none, they
all fit. -/
def Settles (config : CameraConfig) (on : Bool) (id : LogId) (lead : Nat) (b b' : Bench) : Prop :=
  ∃ new, Records id b b' new ∧ b'.Watches config on id (lead - new.length) ∧
    (lead = 0 → ∀ e ∈ new, Delivery.Fits on e.metadata)

theorem Settles.refl (watches : b.Watches config on id lead) : Settles config on id lead b b := by
  obtain ⟨log, present, _⟩ := watches.log
  exact ⟨[], .refl present, watches, fun _ _ member => nomatch member⟩

theorem Settles.after {new : List FrameEvent} (records : Records id b b' new)
    (fits : lead = 0 → ∀ e ∈ new, Delivery.Fits on e.metadata)
    (settles : Settles config on id (lead - new.length) b' b'') :
    Settles config on id lead b b'' := by
  obtain ⟨later, records', watches, fits'⟩ := settles
  refine ⟨new ++ later, records.trans records', ?_, fun settled e member => ?_⟩
  · rwa [List.length_append, ← Nat.sub_sub]
  · rcases List.mem_append.mp member with first | second
    · exact fits settled e first
    · exact fits' (by rw [settled, Nat.zero_sub]) e second

theorem Watches.sleep (watches : b.Watches config on id lead) (unstuck : config.stuckValue = none)
    (ms : Nat) :
    Settles config on id lead b (b.sleep ms) := by
  rcases Nat.eq_zero_or_pos ms with rfl | positive
  · exact .refl watches
  obtain ⟨⟨c, camera, nears⟩, fed, log, present, field⟩ := watches
  have ran : b.device.runUntil (b.now + Duration.ofMillis ms) =
      (.camera (c.runUntil (b.now + Duration.ofMillis ms)).1,
        (c.runUntil (b.now + Duration.ofMillis ms)).2) := by
    rw [camera]
    rfl
  have device := b.device_sleep positive
  have logged := b.log?_sleep positive id
  rw [ran] at device logged
  rw [if_pos fed, present, Option.map_some, recordAll_eq] at logged
  have goes := nears.runUntil (b.now + Duration.ofMillis ms)
  have fits :=
    fun (settled : lead = 0) => (settled ▸ nears).fits unstuck (b.now + Duration.ofMillis ms)
  generalize (c.runUntil (b.now + Duration.ofMillis ms)).1 = c',
    (c.runUntil (b.now + Duration.ofMillis ms)).2 = arrivals
    at *
  have values := log.map_metadata_eventsOf log.count arrivals
  refine ⟨log.eventsOf log.count arrivals, ⟨log, present, logged⟩,
    ⟨⟨c', device, ?_⟩, ?_, ⟨_, logged, field⟩⟩, ?_⟩
  · rwa [FrameLog.length_eventsOf]
  · rw [feed_sleep, fed]
  · intro settled e member
    have value : e.metadata ∈ arrivals.map (·.frame.metadata log.field) :=
      values ▸ List.mem_map_of_mem member
    obtain ⟨a, arrived, same⟩ := List.mem_map.mp value
    rw [← same, field]
    exact fits settled a arrived

theorem waitFrom_settles (unstuck : config.stuckValue = none) (barrier : Barrier)
    (frames timeout base elapsed : Nat) (b : Bench) :
    ∀ lead, b.Watches config on id lead →
      Settles config on id lead b (barrier.waitFrom id frames timeout base elapsed b).2 := by
  fun_induction Barrier.waitFrom barrier id frames timeout base elapsed b with
  | case1 => exact fun _ watches => .refl watches
  | case2 => exact fun _ watches => .refl watches
  | case3 elapsed b _ _ _ pause ih =>
    intro lead watches
    obtain ⟨new, records, watches', fits⟩ := watches.sleep unstuck pause
    exact .after records fits (ih _ watches')

theorem Watches.wait (watches : b.Watches config on id lead) (unstuck : config.stuckValue = none)
    (barrier : Barrier) (frames timeout : Nat) :
    Settles config on id lead b (barrier.wait id frames timeout b).2 :=
  waitFrom_settles unstuck barrier frames timeout (b.count id) 0 b lead watches

theorem Watches.mono {lead' : Nat} (watches : b.Watches config on id lead) (le : lead ≤ lead') :
    b.Watches config on id lead' := by
  obtain ⟨⟨c, camera, nears⟩, fed, log⟩ := watches
  exact ⟨⟨c, camera, nears.mono le⟩, fed, log⟩

theorem Watches.set_autoExposure (watches : b.Watches config on id lead) (on' : Bool)
    (accepted : b.set .enableAutoExposure (if on' then 1 else 0) = (.ok (), b')) :
    b'.Watches config on' id (if on' = on then lead else config.lagFrames + 1) := by
  obtain ⟨⟨c, camera, nears⟩, fed, log, present, field⟩ := watches
  obtain ⟨c', written, camera', fed', logs⟩ := set_camera camera accepted
  refine ⟨⟨c', camera', ?_⟩, fed'.trans fed, log, ?_, field⟩
  · by_cases same : on' = on
    · subst same
      rw [if_pos rfl]
      exact nears.set_same written
    · rw [if_neg same]
      exact nears.set_autoExposure on' written
  · rw [log?, logs]
    exact present

theorem watches_of_start {c : Camera} (camera : b.device = .camera c)
    (starts : b.start .autoExposure = (.ok id, b')) :
    b'.Watches c.config c.controls.autoExposure id 0 ∧ b'.count id = 0 := by
  obtain ⟨_, fed, logged⟩ := start_done starts
  obtain ⟨c', began, camera'⟩ := start_camera camera starts
  refine ⟨⟨⟨c', camera', .of_start began⟩, fed, _, logged, rfl⟩, ?_⟩
  rw [count, logged]
  rfl

end Bench

end ExposureBench
