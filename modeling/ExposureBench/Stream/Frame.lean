import ExposureBench.Duration
import ExposureBench.Stream.Profile

namespace ExposureBench

inductive MetadataField where
  | autoExposure
  | actualExposure
  | frameCounter
  deriving DecidableEq, Repr

namespace MetadataField

def name : MetadataField → String
  | .autoExposure => "auto_exposure"
  | .actualExposure => "actual_exposure"
  | .frameCounter => "frame_counter"

def names : List (String × MetadataField) :=
  [.autoExposure, .actualExposure, .frameCounter].map fun f => (f.name, f)

end MetadataField

structure Frame where
  stream : StreamType
  number : Nat
  autoExposure : Option Int := none
  actualExposure : Option Int := none
  frameCounter : Option Int := none
  deriving DecidableEq, Repr

namespace Frame

def metadata (f : Frame) : MetadataField → Option Int
  | .autoExposure => f.autoExposure
  | .actualExposure => f.actualExposure
  | .frameCounter => f.frameCounter

def withMetadata (f : Frame) (field : MetadataField) (value : Int) : Frame :=
  match field with
  | .autoExposure => { f with autoExposure := some value }
  | .actualExposure => { f with actualExposure := some value }
  | .frameCounter => { f with frameCounter := some value }

end Frame

/-- A recorded frame: its place in the log, its arrival in milliseconds, and the field that the log tracks. -/
structure FrameEvent where
  sequence : Nat
  hostTimestamp : Float
  metadata : Option Int
  deriving BEq, Repr

def FrameEvent.flag (e : FrameEvent) : Option Bool :=
  e.metadata.map (· != 0)

/-- The frames of one stream, in order of arrival. Times count from `origin`. -/
structure FrameLog where
  field : MetadataField
  origin : Nat
  events : Array FrameEvent := #[]

namespace FrameLog

def count (log : FrameLog) : Nat := log.events.size

def timestampAt (log : FrameLog) (now : Nat) : Float :=
  Duration.toSeconds (now - log.origin) * 1000.0

def recordValue (log : FrameLog) (now : Nat) (value : Option Int) : FrameLog :=
  { log with events := log.events.push ⟨log.count, log.timestampAt now, value⟩ }

def record (log : FrameLog) (now : Nat) (frame : Frame) : FrameLog :=
  log.recordValue now (frame.metadata log.field)

/-- The events from `start` up to but not including `stop`. Both ends are clamped to the count first, so that nothing is
read outside the log. -/
def slice (log : FrameLog) (start stop : Nat) : List FrameEvent :=
  let last := min stop log.count
  let first := min start last
  (log.events.extract first last).toList

def all (log : FrameLog) : List FrameEvent := log.events.toList

def timestampsFrom (log : FrameLog) (start : Nat) : Array Float :=
  let last := log.count
  let first := min start last
  (log.events.extract first last).map (·.hostTimestamp)

def timestamps (log : FrameLog) : Array Float := log.timestampsFrom 0

end FrameLog

/-- The frames `start ≤ i < stop` of a log, with the state requested for them. -/
structure Window where
  start : Nat
  stop : Nat
  expected : Bool
  start_le_stop : start ≤ stop
  deriving DecidableEq, Repr

namespace Window

def spanning (start stop : Nat) (expected : Bool) : Window :=
  ⟨start, max stop start, expected, Nat.le_max_right ..⟩

def length (w : Window) : Nat := w.stop - w.start

end Window

end ExposureBench
