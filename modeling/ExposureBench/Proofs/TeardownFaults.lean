import ExposureBench.Proofs.Simulation

namespace ExposureBench

namespace ScriptedDevice

/-- The same device, but for what it says to a stop and to a close. -/
def answering (d : ScriptedDevice) (stop close : Option DeviceFault) : ScriptedDevice :=
  { d with script := { d.script with stopFault := stop, closeFault := close } }

variable (d : ScriptedDevice) (stop close : Option DeviceFault)

theorem start_answering (now : Nat) :
    (d.answering stop close).start now = (d.start now).map id (·.answering stop close) := by
  unfold start
  have fault : (d.answering stop close).script.startFault = d.script.startFault := rfl
  rw [fault]
  cases d.script.startFault <;> rfl

theorem set_answering (option : DeviceOption) (v : Float) :
    (d.answering stop close).set option v = (d.set option v).map id (·.answering stop close) := by
  unfold set
  have stored : (d.answering stop close).option? option = d.option? option := rfl
  rw [stored]
  rcases d.option? option with _ | ⟨_, _, _, _ | ⟨_ | _, _⟩⟩ <;> rfl

theorem runUntil_answering (time : Nat) :
    (d.answering stop close).runUntil time =
      (d.runUntil time).map (·.answering stop close) id := by
  unfold runUntil
  have playing : (d.answering stop close).playing = d.playing := rfl
  rw [playing]
  cases d.playing <;> rfl

end ScriptedDevice

def Call.ends : Call → Bool
  | .stop | .close => true
  | _ => false

/-- The same call at the same time, answered the same unless it ends what another began. -/
structure CallRecord.Echoes (r r' : CallRecord) : Prop where
  call : r'.call = r.call
  time : r'.time = r.time
  accepted : r.call.ends = false → r'.accepted = r.accepted

namespace Bench

/-- Two benches on which all has gone the same, but for what was said to stops and to closes. -/
structure Unheard (stop close : Option DeviceFault) (r b : Bench) : Prop where
  device : ∃ d : ScriptedDevice, r.device = .scripted d ∧
    b.device = .scripted (d.answering stop close)
  now : b.now = r.now
  logs : b.logs = r.logs
  feed : b.feed = r.feed
  calls : r.calls.toList.Forall₂ CallRecord.Echoes b.calls.toList

namespace Unheard

variable {stop close : Option DeviceFault} {r b : Bench} (unheard : r.Unheard stop close b)
include unheard

theorem called {call : Call} {d : ScriptedDevice} {outcome outcome' : Except DeviceFault Unit}
    (same : call.ends = false → outcome' = outcome) :
    (r.perform call (outcome, .scripted d)).2.Unheard stop close
      (b.perform call (outcome', .scripted (d.answering stop close))).2 := by
  refine { unheard with device := ⟨d, rfl, rfl⟩, calls := ?_ }
  simp only [perform, Array.toList_push]
  apply List.rel_append unheard.calls
  exact .cons ⟨rfl, unheard.now, fun answered => by rw [same answered]⟩ .nil

theorem openWith (profile : StreamProfile) :
    (b.openWith profile).1 = (r.openWith profile).1 ∧
      (r.openWith profile).2.Unheard stop close (b.openWith profile).2 := by
  obtain ⟨d, device, device'⟩ := unheard.device
  rw [Bench.openWith, Bench.openWith, device, device']
  exact ⟨rfl, unheard.called fun _ => rfl⟩

theorem stopped : r.stop.2.Unheard stop close b.stop.2 := by
  obtain ⟨d, device, device'⟩ := unheard.device
  rw [Bench.stop, Bench.stop, device, device']
  exact unheard.called (d := d.stop.2) nofun

theorem closed : r.close.2.Unheard stop close b.close.2 := by
  obtain ⟨d, device, device'⟩ := unheard.device
  rw [Bench.close, Bench.close, device, device']
  exact unheard.called (d := d) nofun

theorem set (option : DeviceOption) (v : Float) :
    (b.set option v).1 = (r.set option v).1 ∧
      (r.set option v).2.Unheard stop close (b.set option v).2 := by
  obtain ⟨d, device, device'⟩ := unheard.device
  rw [Bench.set, Bench.set, device, device', Device.set, Device.set, d.set_answering]
  exact ⟨rfl, unheard.called fun _ => rfl⟩

theorem starts (field : MetadataField) :
    (b.start field).1 = (r.start field).1 ∧
      (r.start field).2.Unheard stop close (b.start field).2 := by
  obtain ⟨d, device, device'⟩ := unheard.device
  rw [Bench.start, Bench.start, device, device', Device.start, Device.start, unheard.now,
    d.start_answering]
  rcases d.start r.now with ⟨fault | ⟨⟩, d'⟩
  · exact ⟨rfl, unheard.called fun _ => rfl⟩
  · have after : (r.perform .start (.ok (), .scripted d')).2.Unheard stop close
        (b.perform .start (.ok (), .scripted (d'.answering stop close))).2 :=
      unheard.called fun _ => rfl
    have sizes : b.logs.size = r.logs.size := congrArg Array.size unheard.logs
    refine ⟨congrArg Except.ok sizes, { after with logs := ?_, feed := congrArg some sizes }⟩
    exact congrArg₂ (fun logs origin => logs.push { field, origin }) unheard.logs unheard.now

theorem deliver (arrivals : List Arrival) :
    (r.deliver arrivals).Unheard stop close (b.deliver arrivals) := by
  rw [Bench.deliver, Bench.deliver, unheard.logs, unheard.feed]
  cases r.feed with
  | none => exact unheard
  | some id => exact { unheard with logs := rfl, feed := rfl }

theorem sleep (ms : Nat) : (r.sleep ms).Unheard stop close (b.sleep ms) := by
  rcases Nat.eq_zero_or_pos ms with rfl | positive
  · exact unheard
  · obtain ⟨d, device, device'⟩ := unheard.device
    rw [sleep_of_pos _ positive, sleep_of_pos _ positive, device, device', unheard.now,
      Device.runUntil, Device.runUntil, d.runUntil_answering]
    have woken : Unheard stop close
        { r with
          device := .scripted (d.runUntil (r.now + Duration.ofMillis ms)).1
          now := r.now + Duration.ofMillis ms }
        { b with
          device := .scripted ((d.runUntil (r.now + Duration.ofMillis ms)).1.answering stop close)
          now := r.now + Duration.ofMillis ms } :=
      { unheard with device := ⟨_, rfl, rfl⟩, now := rfl }
    exact woken.deliver _

end Unheard

theorem Unheard.simulation (stop close : Option DeviceFault) :
    Simulation (Unheard stop close) 0 where
  device := by
    intro r b unheard
    obtain ⟨d, device, device'⟩ := unheard.device
    rw [device, device']
    exact ⟨rfl, rfl, fun _ => rfl, fun _ => rfl, fun _ => rfl⟩
  log := by
    intro r b unheard id
    rw [Nat.zero_add, log?, log?, unheard.logs]
  openWith unheard := unheard.openWith
  start := by
    intro r b unheard field
    obtain ⟨same, after⟩ := unheard.starts field
    refine ⟨?_, after⟩
    rw [same]
    cases (r.start field).1 with
    | error fault => rfl
    | ok id => exact congrArg Except.ok (Nat.zero_add id).symm
  set unheard := unheard.set
  sleep unheard := unheard.sleep
  stop unheard _ := unheard.stopped
  close unheard := unheard.closed

end Bench

/-- Whether a device refuses to stop or to close, and in which words, changes nothing that a suite
reports, nothing that it asks of the device and when, and nothing that the device is left with. Only
what the device said to the stops and the closes differs. -/
theorem Suite.run_of_teardown_faults (settings : Settings) (b : Bench) (d : ScriptedDevice)
    (stop close : Option DeviceFault) :
    let plain := run settings { b with device := .scripted d }
    let failing := run settings { b with device := .scripted (d.answering stop close) }
    failing.1 = plain.1 ∧
      plain.2.calls.toList.Forall₂ CallRecord.Echoes failing.2.calls.toList ∧
      ∃ after after' : ScriptedDevice, plain.2.device = .scripted after ∧
        failing.2.device = .scripted after' ∧ after'.options = after.options := by
  have start : Bench.Unheard stop close { b with device := .scripted d }
      { b with device := .scripted (d.answering stop close) } :=
    ⟨⟨d, rfl, rfl⟩, rfl, rfl, rfl, List.forall₂_same.mpr fun _ _ => ⟨rfl, rfl, fun _ => rfl⟩⟩
  obtain ⟨report, after⟩ := run_mirrors (Bench.Unheard.simulation stop close) settings start
  obtain ⟨d', device, device'⟩ := after.device
  exact ⟨report, after.calls, d', _, device, device', rfl⟩

end ExposureBench
