import ExposureBench.Control.Phase
import ExposureBench.Device.Fault
import ExposureBench.Duration

namespace ExposureBench

inductive SessionState where
  | closed
  | opened
  | started
  | stopped
  deriving DecidableEq, Repr

namespace SessionState

def label : SessionState → String
  | .closed => "Closed"
  | .opened => "Open"
  | .started => "Started"
  | .stopped => "Stopped"

end SessionState

/-- A step that the bench itself refuses, before any device is asked. -/
inductive Refused where
  | openIn (state : SessionState)
  | startIn (state : SessionState)
  | transition (current next : Phase)
  | collectIn (phase : Phase)
  | noStream
  deriving BEq, Repr

namespace Refused

def message : Refused → String
  | .openIn s => s!"Cannot open session in state {s.label}"
  | .startIn s => s!"Cannot start session in state {s.label}"
  | .transition p q => s!"Invalid control transition: {p.name} -> {q.name}"
  | .collectIn p => s!"Cannot collect frames in phase {p.name}"
  | .noStream => "No active stream"

end Refused

inductive Failure where
  /-- The device lacks what the experiment needs. -/
  | unavailable (reason : String)
  /-- A wait ran out; the limit is in nanoseconds. -/
  | timedOut (requested observed limit : Nat)
  | rejected (option : DeviceOption) (value : Float) (reason : String)
  /-- A control did not read back as written. -/
  | mismatch (option : DeviceOption) (requested actual : Float)
  | device (fault : DeviceFault)
  | refused (step : Refused)
  deriving BEq, Repr

namespace Failure

def message : Failure → String
  | .unavailable reason => s!"configuration unavailable: {reason}"
  | .timedOut requested observed limit =>
    s!"timed out after {Duration.text limit} waiting for {requested} frames, observed {observed}"
  | .rejected option value reason => s!"device rejected {option.name} = {floatText value}: {reason}"
  | .mismatch option requested actual =>
    s!"{option.name} read back as {floatText actual}, requested {floatText requested}"
  | .device fault => fault.message
  | .refused step => step.message

def isSkip : Failure → Bool
  | .unavailable _ => true
  | _ => false

def ofRejection (option : DeviceOption) (value : Float) (fault : DeviceFault) : Failure :=
  .rejected option value (": ".intercalate fault.chain)

def noProfile (q : ProfileQuery) : Failure :=
  .unavailable q.missingText

def lacksOption (option : DeviceOption) (device : String) : Failure :=
  .unavailable s!"{option.name} not supported by {device}"

end Failure

/-- Steps on a state that may fail. What was done before a failure stays done. -/
abbrev Attempt (σ α : Type) := ExceptT Failure (StateM σ) α

namespace Attempt

variable {σ τ α : Type}

def within (part : σ → τ) (replace : σ → τ → σ) (act : Attempt τ α) : Attempt σ α := fun s =>
  let (outcome, t) := act (part s)
  (outcome, replace s t)

def ofCall (call : σ → Except DeviceFault α × σ) : Attempt σ α := fun s =>
  let (outcome, s) := call s
  (outcome.mapError .device, s)

def ofExcept (outcome : Except DeviceFault α) : Attempt σ α := fun s =>
  (outcome.mapError .device, s)

def refuse (step : Refused) : Attempt σ α :=
  throw (.refused step)

def quietly (act : Attempt σ Unit) : Attempt σ Unit := fun s =>
  (.ok (), (act s).2)

end Attempt

end ExposureBench
