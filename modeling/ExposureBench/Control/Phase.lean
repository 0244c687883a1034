import ExposureBench.Device.Option

namespace ExposureBench

inductive Phase where
  | idle
  | requested (option : DeviceOption) (value : Float)
  /-- Frames seen now speak for no state. -/
  | stabilizing (frames : Nat)
  /-- Frames from `sinceFrame` on reflect the requested state. -/
  | settled (sinceFrame : Nat)
  /-- A wait ran out; nothing follows. -/
  | stalled (requested observed : Nat)
  deriving BEq, Repr

namespace Phase

def name : Phase → String
  | .idle => "Idle"
  | .requested .. => "Requested"
  | .stabilizing .. => "Stabilizing"
  | .settled .. => "Settled"
  | .stalled .. => "Stalled"

def canTransition : Phase → Phase → Bool
  | .idle, .requested .. | .idle, .settled .. => true
  | .requested .., .requested .. | .requested .., .stabilizing .. => true
  | .requested .., .settled .. | .requested .., .stalled .. => true
  | .stabilizing .., .settled .. | .stabilizing .., .stalled .. => true
  | .settled .., .requested .. | .settled .., .settled .. | .settled .., .stalled .. => true
  | _, _ => false

def isStalled : Phase → Bool
  | .stalled .. => true
  | _ => false

def isSettled : Phase → Bool
  | .settled .. => true
  | _ => false

end Phase

end ExposureBench
