import ExposureBench.Device
import ExposureBench.Proofs.CameraCalls
import ExposureBench.Proofs.Delivery

namespace ExposureBench

namespace Delivery

variable (config : CameraConfig)

@[simp] theorem number_settle (d : Delivery) : (d.settle config).number = d.number := by
  rw [settle_eq]

@[simp] theorem number_arrival (d : Delivery) : (d.arrival config).frame.number = d.number :=
  d.number_settle config

theorem runUntil_numbers (controls : Controls) (period? : Option Nat) (time : Nat) (d : Delivery) :
    let result := d.runUntil config controls period? time
    result.2.map (·.frame.number) = List.range' d.number result.2.length ∧
      ∀ d', result.1 = .running d' → d'.number = d.number + result.2.length := by
  refine runUntil_induction (motive := fun d result =>
    result.2.map (·.frame.number) = List.range' d.number result.2.length ∧
      ∀ d', result.1 = .running d' → d'.number = d.number + result.2.length) ?_ ?_ ?_ ?_ d
  · intro d _
    refine ⟨rfl, fun d' running => ?_⟩
    cases running
    rfl
  · intro d _
    refine ⟨?_, fun d' running => nomatch running⟩
    dsimp only
    split
    · rfl
    · exact congrArg (fun number => [number]) (d.number_arrival config)
  · intro d period _
    refine ⟨rfl, fun d' running => ?_⟩
    cases running
    rfl
  · rintro d period rest _ ⟨numbers, next⟩
    constructor
    · rw [List.map_cons, number_arrival, numbers]
      rfl
    · intro d' running
      rw [next d' running, List.length_cons]
      exact Nat.add_right_comm d.number 1 _

end Delivery

theorem Playback.take_numbers (followed : Option Int) (time left : Nat) (p : Playback) :
    (take followed time left p).2.map (·.frame.number) =
        List.range' p.number (take followed time left p).2.length ∧
      (take followed time left p).1.number =
        p.number + (take followed time left p).2.length := by
  induction left generalizing p with
  | zero => exact ⟨rfl, rfl⟩
  | succ left ih =>
    rw [take]
    split
    · exact ⟨rfl, rfl⟩
    next gap flag found =>
    dsimp only
    split
    · obtain ⟨numbers, next⟩ := ih { p with number := p.number + 1, clock := p.clock + gap }
      constructor
      · rw [List.map_cons, numbers]
        rfl
      · rw [next, List.length_cons]
        exact Nat.add_right_comm p.number 1 _
    · exact ⟨rfl, rfl⟩

namespace Device

variable {d d' : Device} {number : Nat}

def Silent : Device → Prop
  | .camera c => c.worker = .idle
  | .scripted d => d.playing = none

/-- The frame to come next, if one is to come, has this number. -/
def Next (number : Nat) : Device → Prop
  | .camera c => ∀ d, c.worker = .running d → d.number = number
  | .scripted d => ∀ p, d.playing = some p → p.number = number

def SameStream : Device → Device → Prop
  | .camera c, .camera c' => c'.worker = c.worker
  | .scripted d, .scripted d' => d'.playing = d.playing
  | _, _ => False

theorem SameStream.refl (d : Device) : d.SameStream d := by
  cases d <;> exact rfl

theorem SameStream.silent (same : d.SameStream d') (silent : d.Silent) : d'.Silent := by
  cases d <;> cases d' <;> first | exact same.elim | exact Eq.trans same silent

theorem SameStream.next (same : d.SameStream d') (next : d.Next number) : d'.Next number := by
  cases d <;> cases d' <;> first
    | exact same.elim
    | exact fun stream running => next stream ((Eq.symm same).trans running)

theorem sameStream_openWith (d : Device) (profile : StreamProfile) :
    d.SameStream (d.openWith profile).2 := by
  cases d with
  | camera c => exact c.worker_openWith profile
  | scripted d => exact rfl

theorem sameStream_close (d : Device) : d.SameStream d.close.2 := by
  cases d with
  | camera c => exact c.worker_close
  | scripted d => exact rfl

theorem sameStream_set (d : Device) (option : DeviceOption) (v : Float) :
    d.SameStream (d.set option v).2 := by
  cases d with
  | camera c => exact c.worker_set option v
  | scripted d =>
    change (d.set option v).2.playing = d.playing
    unfold ScriptedDevice.set
    repeat' split
    all_goals rfl

theorem start_failed {now : Nat} {fault : DeviceFault} (starts : d.start now = (.error fault, d')) :
    d' = d := by
  cases d with
  | camera c =>
    rw [start] at starts
    rcases began : c.start now with ⟨_ | _, c'⟩ <;> rw [began] at starts <;> cases starts
    exact congrArg Device.camera (Camera.start_refused began)
  | scripted d =>
    rw [start, ScriptedDevice.start] at starts
    split at starts <;> cases starts
    rfl

theorem next_start {now : Nat} (starts : d.start now = (.ok (), d')) : d'.Next 0 := by
  cases d with
  | camera c =>
    rw [start] at starts
    rcases began : c.start now with ⟨_ | _, c'⟩ <;> rw [began] at starts <;> cases starts
    obtain ⟨profile, -, rfl⟩ := Camera.start_accepted began
    intro stream running
    change c.worker? profile now = _ at running
    rw [Camera.worker?] at running
    split at running <;> cases running
    rfl
  | scripted d =>
    rw [start, ScriptedDevice.start] at starts
    split at starts <;> cases starts
    intro stream playing
    cases playing
    rfl

theorem silent_stop (d : Device) : d.stop.2.Silent := by
  cases d with
  | camera c => exact c.worker_stop
  | scripted d => exact rfl

theorem runUntil_of_silent (silent : d.Silent) (time : Nat) : d.runUntil time = (d, []) := by
  cases d with
  | camera c => exact congrArg (Prod.map Device.camera id) (Camera.runUntil_of_idle silent time)
  | scripted d =>
    have nothing : d.runUntil time = (d, []) := by
      rw [ScriptedDevice.runUntil, show d.playing = none from silent]
    exact congrArg (Prod.map Device.scripted id) nothing

theorem runUntil_numbers (next : d.Next number) (time : Nat) :
    (d.runUntil time).2.map (·.frame.number) = List.range' number (d.runUntil time).2.length ∧
      (d.runUntil time).1.Next (number + (d.runUntil time).2.length) := by
  cases d with
  | camera c =>
    rcases c with ⟨config, controls, profile, streaming, delivered, _ | d | _⟩
    · exact ⟨rfl, fun _ running => nomatch running⟩
    · obtain rfl : d.number = number := next d rfl
      exact d.runUntil_numbers config controls (controls.period? d.profile) time
    · exact ⟨rfl, fun _ running => nomatch running⟩
  | scripted d =>
    rcases d with ⟨script, options, started, _ | p⟩
    · exact ⟨rfl, fun _ playing => nomatch playing⟩
    · obtain rfl : p.number = number := next p rfl
      obtain ⟨numbers, later⟩ := p.take_numbers
        (ScriptedDevice.followed ⟨script, options, started, some p⟩) time
        (p.schedule.length - p.number)
      refine ⟨numbers, fun p' playing => ?_⟩
      cases playing
      exact later

end Device

end ExposureBench
