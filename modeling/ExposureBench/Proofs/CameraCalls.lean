import ExposureBench.Proofs.Operation

namespace ExposureBench

namespace Camera

section Worker

variable (c : Camera)

theorem worker_openWith (profile : StreamProfile) : (c.openWith profile).2.worker = c.worker := by
  unfold openWith
  repeat' split
  all_goals rfl

theorem worker_close : c.close.2.worker = c.worker := by
  unfold close
  repeat' split
  all_goals rfl

theorem worker_set (option : DeviceOption) (v : Float) : (c.set option v).2.worker = c.worker := by
  unfold set
  repeat' split
  all_goals rfl

theorem worker_stop : c.stop.2.worker = .idle := by
  unfold stop
  split
  · assumption
  all_goals rfl

end Worker

section Delivered

variable (c : Camera)

theorem delivered_openWith (profile : StreamProfile) :
    (c.openWith profile).2.delivered = c.delivered := by
  unfold openWith
  repeat' split
  all_goals rfl

theorem delivered_start (now : Nat) : (c.start now).2.delivered = c.delivered := by
  unfold start
  repeat' split
  all_goals rfl

theorem delivered_stop : c.stop.2.delivered = c.delivered := by
  unfold stop
  split <;> rfl

theorem delivered_close : c.close.2.delivered = c.delivered := by
  unfold close
  repeat' split
  all_goals rfl

theorem delivered_set (option : DeviceOption) (v : Float) :
    (c.set option v).2.delivered = c.delivered := by
  unfold set
  repeat' split
  all_goals rfl

theorem delivered_runUntil (time : Nat) :
    (c.runUntil time).1.delivered = c.delivered + (c.runUntil time).2.length := by
  unfold runUntil
  split <;> rfl

theorem runUntil_of_idle {c : Camera} (idle : c.worker = .idle) (time : Nat) :
    c.runUntil time = (c, []) := by
  rw [runUntil, idle]

end Delivered

variable {c c' : Camera}

theorem openWith_accepted {profile : StreamProfile} (opens : c.openWith profile = (.ok (), c')) :
    profile ∈ c.config.profiles ∧ c' = { c with profile := some profile } := by
  unfold openWith at opens
  split at opens
  · cases opens
  split at opens
  next offered =>
    cases opens
    exact ⟨by simpa using offered, rfl⟩
  · cases opens

theorem openWith_refused {profile : StreamProfile} {fault : DeviceFault}
    (opens : c.openWith profile = (.error fault, c')) : c' = c := by
  unfold openWith at opens
  split at opens
  · cases opens
    rfl
  split at opens <;> cases opens
  rfl

theorem openWith_of_isOpen (isOpen : c.isOpen = true) (profile : StreamProfile) :
    c.openWith profile = (.error .alreadyOpen, c) := by
  rw [openWith, if_pos isOpen]

theorem start_accepted {now : Nat} (starts : c.start now = (.ok (), c')) :
    ∃ profile, c.profile = some profile ∧
      c' = { c with streaming := true, worker := c.worker? profile now } := by
  unfold start at starts
  split at starts
  · cases starts
  next profile opened =>
  split at starts <;> cases starts
  exact ⟨profile, opened, rfl⟩

theorem start_refused {now : Nat} {fault : DeviceFault} (starts : c.start now = (.error fault, c')) :
    c' = c := by
  unfold start at starts
  split at starts
  · cases starts
    rfl
  split at starts <;> cases starts
  rfl

theorem set_accepted {option : DeviceOption} {v : Float}
    (accepted : c.set option v = (.ok (), c')) :
    ∃ controls, c.controls.write? option v = some controls ∧ c' = { c with controls } := by
  unfold Camera.set at accepted
  split at accepted
  · cases accepted
  split at accepted
  · cases accepted
  split at accepted
  · cases accepted
  split at accepted
  · cases accepted
  next controls written =>
    cases accepted
    exact ⟨controls, written, rfl⟩

end Camera

namespace Device

def camera? : Device → Option Camera
  | .camera c => some c
  | .scripted _ => none

theorem camera?_eq_some {device : Device} {c : Camera} :
    device.camera? = some c ↔ device = .camera c := by
  cases device with
  | camera => simp [camera?]
  | scripted => simp [camera?]

end Device

namespace Bench

variable {b b' : Bench} {c : Camera} (camera : b.device = .camera c)
include camera

theorem openWith_camera {outcome : Except DeviceFault Unit} {profile : StreamProfile}
    (opens : b.openWith profile = (outcome, b')) :
    ∃ c', c.openWith profile = (outcome, c') ∧ b'.device = .camera c' := by
  rw [openWith, camera] at opens
  cases opens
  exact ⟨_, rfl, rfl⟩

theorem start_camera {outcome : Except DeviceFault LogId} {field : MetadataField}
    (starts : b.start field = (outcome, b')) :
    ∃ c', c.start b.now = (outcome.map fun _ => (), c') ∧ b'.device = .camera c' := by
  have asked : b.device.start b.now = (c.start b.now).map id .camera := by rw [camera]; rfl
  rw [start, perform, asked] at starts
  rcases began : c.start b.now with ⟨fault | _, c'⟩ <;> rw [began] at starts <;> cases starts <;>
    exact ⟨c', rfl, rfl⟩

theorem start_of_accepted {c' : Camera} (starts : c.start b.now = (.ok (), c'))
    (field : MetadataField) :
    b.start field = (.ok b.logs.size, { b with
      device := .camera c'
      calls := b.calls.push ⟨.start, true, b.now⟩
      logs := b.logs.push { field, origin := b.now }
      feed := some b.logs.size }) := by
  have asked : b.device.start b.now = (.ok (), .camera c') := by
    rw [camera]
    exact congrArg (Prod.map id Device.camera) starts
  rw [start, perform, asked]
  rfl

theorem start_of_refused {fault : DeviceFault} (starts : c.start b.now = (.error fault, c))
    (field : MetadataField) :
    b.start field =
      (.error fault, { b with calls := b.calls.push ⟨.start, false, b.now⟩ }) := by
  have asked : b.device.start b.now = (.error fault, b.device) := by
    rw [camera]
    exact congrArg (Prod.map id Device.camera) starts
  rw [start, perform, asked]
  rfl

theorem stop_close_camera :
    b.stop.1 = c.stop.1 ∧ b.stop.2.close.2.device = .camera c.stop.2.close.2 := by
  have stopped : b.device.stop = c.stop.map id .camera := by rw [camera]; rfl
  have closed : b.stop.2.close.2.device = b.device.stop.2.close.2 := rfl
  rw [closed, stop, perform, stopped]
  exact ⟨rfl, rfl⟩

theorem set_camera {option : DeviceOption} {v : Float} (accepted : b.set option v = (.ok (), b')) :
    ∃ c', c.set option v = (.ok (), c') ∧ b'.device = .camera c' ∧ b'.feed = b.feed ∧
      b'.logs = b.logs := by
  rw [set, camera] at accepted
  obtain ⟨granted, rfl⟩ := Prod.mk.inj accepted
  exact ⟨(c.set option v).2, Prod.ext granted rfl, rfl, rfl, rfl⟩

end Bench

theorem Controller.request_camera {c c' : Controller} {camera : Camera}
    (device : c.device = .camera camera) {option : DeviceOption} {v : Float}
    (done : request option v c = (.ok (), c')) :
    ∃ controls, camera.controls.write? option v = some controls ∧
      c'.device = .camera { camera with controls } := by
  obtain ⟨bench, accepted, rfl⟩ := request_done done
  obtain ⟨_, written, device', -, -⟩ := Bench.set_camera device accepted
  obtain ⟨controls, effect, rfl⟩ := Camera.set_accepted written
  exact ⟨controls, effect, device'⟩

end ExposureBench
