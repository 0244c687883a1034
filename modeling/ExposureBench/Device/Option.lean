import ExposureBench.Json.Writer

namespace ExposureBench

/-- Auto-exposure off or on (0 or 1), its algorithm, and the manual exposure in microseconds. -/
inductive DeviceOption where
  | enableAutoExposure
  | autoExposureMode
  | exposure
  deriving DecidableEq, Repr

namespace DeviceOption

def name : DeviceOption → String
  | .enableAutoExposure => "enable_auto_exposure"
  | .autoExposureMode => "auto_exposure_mode"
  | .exposure => "exposure"

def all : List DeviceOption := [.enableAutoExposure, .autoExposureMode, .exposure]

def names : List (String × DeviceOption) :=
  all.map fun o => (o.name, o)

def ofJson? : Json → Option DeviceOption := Json.toEnum? names

def toJson (o : DeviceOption) : Json := .ofString o.name

end DeviceOption

inductive ExposureMode where
  | regular
  | accelerated
  deriving DecidableEq, Repr

namespace ExposureMode

def name : ExposureMode → String
  | .regular => "regular"
  | .accelerated => "accelerated"

def names : List (String × ExposureMode) :=
  [.regular, .accelerated].map fun m => (m.name, m)

def value : ExposureMode → Float
  | .regular => 0
  | .accelerated => 1

def ofValue? (v : Float) : Option ExposureMode :=
  match roundToInt64 v with
  | 0 => some .regular
  | 1 => some .accelerated
  | _ => none

end ExposureMode

structure OptionRange where
  min : Float
  max : Float
  step : Float
  initial : Float
  deriving BEq, Repr

namespace OptionRange

def clamp (r : OptionRange) (v : Float) : Float :=
  smaller (larger v r.min) r.max

def contains (r : OptionRange) (v : Float) : Bool :=
  r.min ≤ v ∧ v ≤ r.max

def fields : List String := ["min", "max", "step", "default"]

def ofJson? (j : Json) : Option OptionRange := do
  let r ← j.record? fields
  return {
    min := ← r.field? "min" Json.toFloat?
    max := ← r.field? "max" Json.toFloat?
    step := ← r.field? "step" Json.toFloat?
    initial := ← r.field? "default" Json.toFloat? }

def toJson (float : Float → Json) (r : OptionRange) : Json :=
  .ofRecord [("min", float r.min), ("max", float r.max), ("step", float r.step), ("default", float r.initial)]

end OptionRange

end ExposureBench
