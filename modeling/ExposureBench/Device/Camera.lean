import ExposureBench.Device.Fault
import ExposureBench.Stream.Frame

/-!
A simulated depth camera. Frames come one period apart; a manual exposure longer than the frame period stretches it, and
a change of auto-exposure reaches the metadata only some frames later, as on a sensor that settles.
-/

namespace ExposureBench

structure Arrival where
  time : Nat
  frame : Frame
  deriving DecidableEq, Repr

structure CameraConfig where
  name : String
  profiles : List StreamProfile
  /-- Frames after a change of auto-exposure that still report the old state. -/
  lagFrames : Nat
  /-- Every so many frames, one lacks the auto-exposure field. -/
  dropoutEvery : Option Nat
  /-- Delivery ceases after this many frames; the stream stays started. -/
  stallAfter : Option Nat
  /-- Reported as auto-exposure whatever the control says. -/
  stuckValue : Option Int
  supportsMode : Bool
  readOnly : List DeviceOption
  exposureRange : OptionRange
  deriving BEq, Repr

namespace CameraConfig

def defaultProfiles : List StreamProfile :=
  [6, 15, 30, 60, 90].flatMap fun fps =>
    [⟨.depth, .z16, 848, 480, fps⟩, ⟨.infrared, .y8, 848, 480, fps⟩]

def default : CameraConfig where
  name := "Simulated Depth Camera"
  profiles := defaultProfiles
  lagFrames := 2
  dropoutEvery := none
  stallAfter := none
  stuckValue := none
  supportsMode := true
  readOnly := []
  exposureRange := ⟨1, 165000, 1, 8500⟩

def fields : List String :=
  ["name", "profiles", "metadata_lag_frames", "metadata_dropout_every", "stall_after_frames", "stuck_ae_metadata",
    "supports_ae_mode", "read_only_options", "exposure_range"]

def ofJson? (j : Json) : Option CameraConfig := do
  let r ← j.overlay? fields
  let d := default
  return {
    name := ← r.fieldD? "name" d.name Json.toString?
    profiles := ← r.fieldD? "profiles" d.profiles (Json.toList? StreamProfile.ofJson?)
    lagFrames := ← r.fieldD? "metadata_lag_frames" d.lagFrames Json.toUInt32?
    dropoutEvery := ← r.fieldD? "metadata_dropout_every" d.dropoutEvery (Json.toOption? Json.toUInt64?)
    stallAfter := ← r.fieldD? "stall_after_frames" d.stallAfter (Json.toOption? Json.toUInt64?)
    stuckValue := ← r.fieldD? "stuck_ae_metadata" d.stuckValue (Json.toOption? Json.toInt64?)
    supportsMode := ← r.fieldD? "supports_ae_mode" d.supportsMode Json.toBool?
    readOnly := ← r.fieldD? "read_only_options" d.readOnly (Json.toList? DeviceOption.ofJson?)
    exposureRange := ← r.fieldD? "exposure_range" d.exposureRange OptionRange.ofJson? }

def toJson (float : Float → Json) (c : CameraConfig) : Json :=
  .ofRecord [("name", .ofString c.name), ("profiles", .ofList StreamProfile.toJson c.profiles),
    ("metadata_lag_frames", .ofNat c.lagFrames), ("metadata_dropout_every", .ofOption .ofNat c.dropoutEvery),
    ("stall_after_frames", .ofOption .ofNat c.stallAfter), ("stuck_ae_metadata", .ofOption .ofInt c.stuckValue),
    ("supports_ae_mode", .ofBool c.supportsMode), ("read_only_options", .ofList DeviceOption.toJson c.readOnly),
    ("exposure_range", c.exposureRange.toJson float)]

def supports (c : CameraConfig) : DeviceOption → Bool
  | .autoExposureMode => c.supportsMode
  | .enableAutoExposure | .exposure => true

def range (c : CameraConfig) : DeviceOption → OptionRange
  | .enableAutoExposure => ⟨0, 1, 1, 1⟩
  | .autoExposureMode => ⟨0, 1, 1, 0⟩
  | .exposure => c.exposureRange

def isDropped (c : CameraConfig) (n : Nat) : Bool :=
  c.dropoutEvery.any fun every => 0 < every ∧ (n + 1) % every = 0

def isStalledAt (c : CameraConfig) (n : Nat) : Bool :=
  c.stallAfter.any (· ≤ n)

end CameraConfig

structure Controls where
  autoExposure : Bool
  mode : ExposureMode
  exposureUs : Float
  deriving BEq, Repr

namespace Controls

def initial (config : CameraConfig) : Controls where
  autoExposure := true
  mode := .regular
  exposureUs := config.exposureRange.initial

def value (c : Controls) : DeviceOption → Float
  | .enableAutoExposure => if c.autoExposure then 1 else 0
  | .autoExposureMode => c.mode.value
  | .exposure => c.exposureUs

/-- The time from one frame to the next in nanoseconds. There is none if an exposure is no span of time. -/
def period? (c : Controls) (p : StreamProfile) : Option Nat := do
  let frame ← secondsToNanos? (p.frameTimeMs / 1000.0)
  if c.autoExposure then return frame
  let exposure ← secondsToNanos? (c.exposureUs / 1000000.0)
  return max frame exposure

/-- The effect of an accepted write. Setting a manual exposure ends auto-exposure. -/
def write? (c : Controls) (option : DeviceOption) (v : Float) : Option Controls :=
  match option with
  | .enableAutoExposure => some { c with autoExposure := v != 0 }
  | .autoExposureMode => (ExposureMode.ofValue? v).map fun mode => { c with mode }
  | .exposure => some { c with exposureUs := v, autoExposure := false }

end Controls

/-- A stream being delivered: a frame is made at `due` with the controls held since the frame before it. -/
structure Delivery where
  profile : StreamProfile
  requested : Bool
  reported : Bool
  lagLeft : Nat
  number : Nat
  held : Controls
  due : Nat
  deriving BEq, Repr

inductive Worker where
  | idle
  | running (delivery : Delivery)
  | failed
  deriving BEq, Repr

namespace Delivery

/-- The state of auto-exposure as the frame being made sees it. A change starts the lag anew; while it lasts, the old
state is reported. -/
def settle (config : CameraConfig) (d : Delivery) : Delivery :=
  let lag := if d.held.autoExposure = d.requested then d.lagLeft else config.lagFrames
  let d := { d with requested := d.held.autoExposure }
  if 0 < lag then { d with lagLeft := lag - 1 } else { d with lagLeft := 0, reported := d.requested }

def frame (config : CameraConfig) (d : Delivery) : Frame where
  stream := d.profile.stream
  number := d.number
  frameCounter := some d.number
  autoExposure :=
    if config.isDropped d.number then none
    else some (config.stuckValue.getD (if d.reported then 1 else 0))
  actualExposure :=
    some (truncateToInt64 (if d.reported then d.profile.frameTimeUs / 4.0 else d.held.exposureUs))

def arrival (config : CameraConfig) (d : Delivery) : Arrival :=
  ⟨d.due, (d.settle config).frame config⟩

def advance (config : CameraConfig) (controls : Controls) (period : Nat) (d : Delivery) : Delivery :=
  { d.settle config with number := d.number + 1, held := controls, due := d.due + period }

def idleUntil (controls : Controls) (period time : Nat) (d : Delivery) : Delivery :=
  { d with held := controls, due := d.due + period * ((time - d.due) / period + 1) }

/-- Everything due up to a time. The controls cannot change meanwhile; a stream that finds no period fails, and no period
is shorter than a nanosecond. -/
def runUntil (config : CameraConfig) (controls : Controls) (period? : Option Nat) (time : Nat) (d : Delivery) :
    Worker × List Arrival :=
  if time < d.due then (.running d, [])
  else match period? with
    | none => (.failed, if config.isStalledAt d.number then [] else [d.arrival config])
    | some period =>
      if config.isStalledAt d.number then (.running (d.idleUntil controls (max period 1) time), [])
      else
        let (worker, later) := runUntil config controls period? time (d.advance config controls (max period 1))
        (worker, d.arrival config :: later)
termination_by time + 1 - d.due
decreasing_by
  simp only [advance]
  omega

end Delivery

/-- A worker that failed leaves the camera streaming, even once it has been stopped. -/
structure Camera where
  config : CameraConfig
  controls : Controls
  profile : Option StreamProfile := none
  streaming : Bool := false
  delivered : Nat := 0
  worker : Worker := .idle
  deriving BEq, Repr

namespace Camera

def ofConfig (config : CameraConfig) : Camera where
  config
  controls := .initial config

def isOpen (c : Camera) : Bool := c.profile.isSome

/-- Only a closed camera takes a new configuration, and becomes a new camera by it. -/
def configure (c : Camera) (config : Json) : Except DeviceFault Camera :=
  if c.isOpen then .error .configureWhileOpen
  else match CameraConfig.ofJson? config with
    | none => .error .invalidConfig
    | some config => .ok (ofConfig config)

def openWith (c : Camera) (profile : StreamProfile) : Except DeviceFault Unit × Camera :=
  if c.isOpen then (.error .alreadyOpen, c)
  else if c.config.profiles.contains profile then (.ok (), { c with profile := some profile })
  else (.error (.unsupportedProfile profile), c)

/-- Delivery begins with the controls as they are; the first frame is a period away. -/
def worker? (c : Camera) (profile : StreamProfile) (now : Nat) : Worker :=
  match c.controls.period? profile with
  | none => .failed
  | some period =>
    .running {
      profile
      requested := c.controls.autoExposure
      reported := c.controls.autoExposure
      lagLeft := 0
      number := 0
      held := c.controls
      due := now + max period 1 }

def start (c : Camera) (now : Nat) : Except DeviceFault Unit × Camera :=
  match c.profile with
  | none => (.error .notOpen, c)
  | some profile =>
    if c.streaming then (.error .alreadyStreaming, c)
    else (.ok (), { c with streaming := true, worker := c.worker? profile now })

def stop (c : Camera) : Except DeviceFault Unit × Camera :=
  match c.worker with
  | .idle => (.error .notStarted, c)
  | .running _ => (.ok (), { c with worker := .idle, streaming := false })
  | .failed => (.error .deliveryFailed, { c with worker := .idle })

def close (c : Camera) : Except DeviceFault Unit × Camera :=
  if c.streaming then (.error .closeWhileStreaming, c)
  else if c.isOpen then (.ok (), { c with profile := none })
  else (.error .notOpenToClose, c)

def supports (c : Camera) (option : DeviceOption) : Bool := c.config.supports option

def range (c : Camera) (option : DeviceOption) : Except DeviceFault OptionRange :=
  if c.supports option then .ok (c.config.range option) else .error (.unsupported option)

def get (c : Camera) (option : DeviceOption) : Except DeviceFault Float :=
  if c.supports option then .ok (c.controls.value option) else .error (.unsupported option)

def set (c : Camera) (option : DeviceOption) (v : Float) : Except DeviceFault Unit × Camera :=
  if !c.supports option then (.error (.unsupported option), c)
  else if c.config.readOnly.contains option then (.error (.readOnly option), c)
  else if !(c.config.range option).contains v then (.error (.outOfRange v (c.config.range option) option), c)
  else match c.controls.write? option v with
    | none => (.error (.unknownMode v), c)
    | some controls => (.ok (), { c with controls })

def runUntil (c : Camera) (time : Nat) : Camera × List Arrival :=
  match c.worker with
  | .running d =>
    let (worker, arrivals) := d.runUntil c.config c.controls (c.controls.period? d.profile) time
    ({ c with worker, delivered := c.delivered + arrivals.length }, arrivals)
  | _ => (c, [])

end Camera

end ExposureBench
