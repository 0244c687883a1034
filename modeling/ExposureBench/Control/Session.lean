import ExposureBench.Bench
import ExposureBench.Control.Failure

/-!
One streaming session on the bench's device. Whatever fails, an opened device is closed once and a started stream is
stopped once, the stop before the close.
-/

namespace ExposureBench

structure Session where
  bench : Bench
  profile : StreamProfile
  state : SessionState := .closed
  /-- The log of the latest start that succeeded. -/
  log : Option LogId := none

namespace Session

def onBench {α : Type} (call : Bench → Except DeviceFault α × Bench) : Attempt Session α :=
  Attempt.within (·.bench) (fun s bench => { s with bench }) (Attempt.ofCall call)

def enter (state : SessionState) : Attempt Session Unit :=
  modify fun s => { s with state }

def openDevice : Attempt Session Unit := do
  let s ← get
  if s.state ≠ .closed then Attempt.refuse (.openIn s.state)
  onBench (·.openWith s.profile)
  enter .opened

def start (field : MetadataField) : Attempt Session LogId := do
  let s ← get
  if s.state ≠ .opened ∧ s.state ≠ .stopped then Attempt.refuse (.startIn s.state)
  let id ← onBench (·.start field)
  modify fun s => { s with state := .started, log := some id }
  return id

/-- Stopped even when the device complains: no frames are expected of it any more. -/
def stop : Attempt Session Unit := do
  if (← get).state = .started then
    enter .stopped
    onBench (·.stop)

def close : Attempt Session Unit := do
  stop
  if (← get).state ≠ .closed then
    enter .closed
    onBench (·.close)

/-- Stop and close as far as they go. -/
def teardown : Attempt Session Unit := do
  Attempt.quietly stop
  Attempt.quietly close

end Session

end ExposureBench
