import ExposureBench.Device.Camera

/-!
A scripted device for rehearsing what a camera may do wrong: calls that always fail, writes that are refused after a
while, read-backs that differ, and streams with any rhythm.
-/

namespace ExposureBench

/-- What the auto-exposure field of a segment's frames holds. `follow` is the stored value of the option. -/
inductive FlagSource where
  | absent
  | fixed (value : Int)
  | follow
  deriving DecidableEq, Repr

/-- `count` frames; frame `i` comes `gaps[i mod n]` nanoseconds after the one before it. -/
structure Segment where
  count : Nat
  gaps : Array Nat
  flag : FlagSource
  deriving DecidableEq, Repr

abbrev Schedule := List Segment

namespace Schedule

def length : Schedule → Nat
  | [] => 0
  | s :: rest => s.count + length rest

def frame? : Schedule → Nat → Option (Nat × FlagSource)
  | [], _ => none
  | s :: rest, n =>
    if n < s.count then some (s.gaps.getD (n % s.gaps.size) 0, s.flag) else frame? rest (n - s.count)

end Schedule

structure Playback where
  schedule : Schedule
  number : Nat := 0
  clock : Nat
  deriving DecidableEq, Repr

namespace Playback

def frame (p : Playback) (flag : FlagSource) (followed : Option Int) : Frame where
  stream := .depth
  number := p.number
  frameCounter := some p.number
  autoExposure := match flag with
    | .absent => none
    | .fixed value => some value
    | .follow => followed

def take (followed : Option Int) (time : Nat) : (left : Nat) → Playback → Playback × List Arrival
  | 0, p => (p, [])
  | left + 1, p =>
    match p.schedule.frame? p.number with
    | none => (p, [])
    | some (gap, flag) =>
      let due := p.clock + gap
      if due ≤ time then
        let (p', later) := take followed time left { p with number := p.number + 1, clock := due }
        (p', ⟨due, p.frame flag followed⟩ :: later)
      else (p, [])

def runUntil (p : Playback) (followed : Option Int) (time : Nat) : Playback × List Arrival :=
  take followed time (p.schedule.length - p.number) p

end Playback

/-- A refusal lets the first `accepted` writes through. -/
structure Refusal where
  accepted : Nat
  fault : DeviceFault
  deriving BEq, Repr

structure ScriptedOption where
  value : Float
  range : Option OptionRange
  readback : Option Float
  refusal : Option Refusal
  deriving BEq, Repr

structure Script where
  name : String
  profiles : List StreamProfile
  options : List (DeviceOption × ScriptedOption)
  openFault : Option DeviceFault
  startFault : Option DeviceFault
  stopFault : Option DeviceFault
  closeFault : Option DeviceFault
  streams : List Schedule
  deriving BEq, Repr

structure ScriptedDevice where
  script : Script
  options : List (DeviceOption × ScriptedOption)
  started : Nat := 0
  playing : Option Playback := none
  deriving BEq, Repr

namespace ScriptedDevice

def ofScript (script : Script) : ScriptedDevice where
  script
  options := script.options

def outcome : Option DeviceFault → Except DeviceFault Unit
  | none => .ok ()
  | some fault => .error fault

def option? (d : ScriptedDevice) (option : DeviceOption) : Option ScriptedOption :=
  d.options.lookup option

def supports (d : ScriptedDevice) (option : DeviceOption) : Bool :=
  (d.option? option).isSome

def openWith (d : ScriptedDevice) : Except DeviceFault Unit × ScriptedDevice :=
  (outcome d.script.openFault, d)

/-- Starts play the streams one after another, then the last one again. -/
def start (d : ScriptedDevice) (now : Nat) : Except DeviceFault Unit × ScriptedDevice :=
  match d.script.startFault with
  | some fault => (.error fault, d)
  | none =>
    let schedule := (d.script.streams[d.started]?).getD (d.script.streams.getLast?.getD [])
    (.ok (), { d with started := d.started + 1, playing := some { schedule, clock := now } })

def stop (d : ScriptedDevice) : Except DeviceFault Unit × ScriptedDevice :=
  (outcome d.script.stopFault, { d with playing := none })

def close (d : ScriptedDevice) : Except DeviceFault Unit × ScriptedDevice :=
  (outcome d.script.closeFault, d)

def range (d : ScriptedDevice) (option : DeviceOption) : Except DeviceFault OptionRange :=
  match (d.option? option).bind (·.range) with
  | some range => .ok range
  | none => .error (.noRange option)

def get (d : ScriptedDevice) (option : DeviceOption) : Except DeviceFault Float :=
  match d.option? option with
  | some o => .ok (o.readback.getD o.value)
  | none => .error (.noOption option)

def store (d : ScriptedDevice) (option : DeviceOption) (o : ScriptedOption) : ScriptedDevice :=
  { d with options := d.options.map fun (name, old) => if name = option then (name, o) else (name, old) }

def set (d : ScriptedDevice) (option : DeviceOption) (v : Float) : Except DeviceFault Unit × ScriptedDevice :=
  match d.option? option with
  | none => (.error (.noOption option), d)
  | some o =>
    match o.refusal with
    | none => (.ok (), d.store option { o with value := v })
    | some ⟨0, fault⟩ => (.error fault, d)
    | some ⟨left + 1, fault⟩ => (.ok (), d.store option { o with value := v, refusal := some ⟨left, fault⟩ })

def followed (d : ScriptedDevice) : Option Int :=
  (d.option? .enableAutoExposure).map fun o => truncateToInt64 o.value

def runUntil (d : ScriptedDevice) (time : Nat) : ScriptedDevice × List Arrival :=
  match d.playing with
  | none => (d, [])
  | some p =>
    let (p, arrivals) := p.runUntil d.followed time
    ({ d with playing := some p }, arrivals)

end ScriptedDevice

end ExposureBench
