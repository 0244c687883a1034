import ExposureBench.Device

/-!
The bench: a device, a clock that moves only while the bench sleeps, the logs its streams are recorded in, and the calls
that have reached the device.
-/

namespace ExposureBench

inductive Call where
  | openWith (profile : StreamProfile)
  | start
  | stop
  | close
  | set (option : DeviceOption) (value : Float)
  deriving BEq, Repr

structure CallRecord where
  call : Call
  accepted : Bool
  time : Nat
  deriving BEq, Repr

abbrev LogId := Nat

structure Bench where
  device : Device
  now : Nat := 0
  logs : Array FrameLog := #[]
  /-- The log that arriving frames go to. -/
  feed : Option LogId := none
  calls : Array CallRecord := #[]

namespace Bench

def log? (b : Bench) (id : LogId) : Option FrameLog := b.logs[id]?

def count (b : Bench) (id : LogId) : Nat := (b.log? id).elim 0 (·.count)

def recordAll (log : FrameLog) (arrivals : List Arrival) : FrameLog :=
  arrivals.foldl (fun log a => log.record a.time a.frame) log

def deliver (b : Bench) (arrivals : List Arrival) : Bench :=
  match b.feed with
  | none => b
  | some id => { b with logs := b.logs.modify id (recordAll · arrivals) }

/-- Frames due up to the end of the sleep arrive before the bench wakes. No time, no frame. -/
def sleep (b : Bench) (ms : Nat) : Bench :=
  if ms = 0 then b
  else
    let wake := b.now + Duration.ofMillis ms
    let (device, arrivals) := b.device.runUntil wake
    { b with device, now := wake }.deliver arrivals

def perform (b : Bench) (call : Call) (outcome : Except DeviceFault Unit × Device) :
    Except DeviceFault Unit × Bench :=
  (outcome.1, { b with device := outcome.2, calls := b.calls.push ⟨call, outcome.1.isOk, b.now⟩ })

def openWith (b : Bench) (profile : StreamProfile) : Except DeviceFault Unit × Bench :=
  b.perform (.openWith profile) (b.device.openWith profile)

def stop (b : Bench) : Except DeviceFault Unit × Bench :=
  b.perform .stop b.device.stop

def close (b : Bench) : Except DeviceFault Unit × Bench :=
  b.perform .close b.device.close

def set (b : Bench) (option : DeviceOption) (v : Float) : Except DeviceFault Unit × Bench :=
  b.perform (.set option v) (b.device.set option v)

def start (b : Bench) (field : MetadataField) : Except DeviceFault LogId × Bench :=
  match b.perform .start (b.device.start b.now) with
  | (.error fault, b) => (.error fault, b)
  | (.ok (), b) =>
    let id := b.logs.size
    (.ok id, { b with logs := b.logs.push { field, origin := b.now }, feed := some id })

end Bench

end ExposureBench
