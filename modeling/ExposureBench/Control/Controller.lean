import ExposureBench.Control.Barrier
import ExposureBench.Control.Session

/-!
The controller: one change of state after another on a session. Frames may be judged once it is settled, that is, after
a barrier, a hold, or at once where nothing streamed during the change. A wait that runs out stalls it for good.
-/

namespace ExposureBench

structure Controller where
  session : Session
  barrier : Barrier
  /-- Bounds every wait, in milliseconds. -/
  timeoutMs : Nat
  phase : Phase := .idle
  /-- The log of the stream begun last. -/
  log : Option LogId := none

namespace Controller

/-- Two values this close count as equal on read-back. -/
def tolerance : Float := 1e-3

def bench (c : Controller) : Bench := c.session.bench

def device (c : Controller) : Device := c.bench.device

def framesObserved (c : Controller) : Nat := c.log.elim 0 c.bench.count

def withBench (c : Controller) (bench : Bench) : Controller :=
  { c with session := { c.session with bench } }

def onSession {α : Type} (act : Attempt Session α) : Attempt Controller α :=
  Attempt.within (·.session) (fun c session => { c with session }) act

def onBench {α : Type} (act : Bench → α × Bench) : Attempt Controller α := fun c =>
  let (result, bench) := act c.bench
  (.ok result, c.withBench bench)

def sleep (ms : Nat) : Attempt Controller Unit :=
  onBench fun b => ((), b.sleep ms)

def transition (next : Phase) : Attempt Controller Unit := do
  let c ← get
  if c.phase.canTransition next then set { c with phase := next }
  else Attempt.refuse (.transition c.phase next)

def activeLog : Attempt Controller LogId := do
  match (← get).log with
  | some id => return id
  | none => Attempt.refuse .noStream

/-- Opens and starts the session; if either fails, nothing is left open. -/
def beginStreaming (field : MetadataField) : Attempt Controller LogId := do
  try
    let id ← onSession (do Session.openDevice; Session.start field)
    modify fun c => { c with log := some id }
    return id
  catch failure =>
    onSession Session.teardown
    throw failure

/-- One write, never repeated. The phase moves before the device is asked. -/
def request (option : DeviceOption) (value : Float) : Attempt Controller Unit := do
  transition (.requested option value)
  match ← onBench (·.set option value) with
  | .ok () => return ()
  | .error fault => throw (.ofRejection option value fault)

def confirm (option : DeviceOption) (requested : Float) : Attempt Controller Float := do
  let actual ← Attempt.ofExcept ((← get).device.get option)
  if tolerance < (actual - requested).abs then throw (.mismatch option requested actual)
  return actual

def requestConfirmed (option : DeviceOption) (value : Float) : Attempt Controller Unit := do
  request option value
  let _ ← confirm option value

def setAutoExposure (on : Bool) : Attempt Controller Unit :=
  request .enableAutoExposure (if on then 1 else 0)

def settleNow : Attempt Controller Unit := do
  transition (.settled (← get).framesObserved)

def warmUp (ms : Nat) : Attempt Controller Nat := do
  sleep ms
  let frames := (← get).framesObserved
  transition (.settled frames)
  return frames

/-- The failure of a wait: the controller is stalled and its session torn down. -/
def stall {α : Type} (requested observed limitMs : Nat) : Attempt Controller α := do
  modify fun c => { c with phase := .stalled requested observed }
  onSession Session.teardown
  throw (.timedOut requested observed (Duration.ofMillis limitMs))

def await (log : LogId) (frames timeoutMs : Nat) : Attempt Controller Unit := do
  let barrier := (← get).barrier
  let outcome ← onBench (barrier.wait log frames timeoutMs)
  if !outcome.isSatisfied then stall outcome.requested outcome.observed timeoutMs

def stabilize (frames : Nat) : Attempt Controller Unit := do
  let log ← activeLog
  transition (.stabilizing frames)
  await log frames (← get).timeoutMs
  transition (.settled ((← get).bench.count log))

def collectWithin (frames : Nat) (expected : Bool) (timeoutMs : Nat) : Attempt Controller Window := do
  let c ← get
  if !c.phase.isSettled then Attempt.refuse (.collectIn c.phase)
  let log ← activeLog
  let start := c.bench.count log
  await log frames timeoutMs
  return .spanning start ((← get).bench.count log) expected

def collect (frames : Nat) (expected : Bool) : Attempt Controller Window := do
  collectWithin frames expected (← get).timeoutMs

/-- Lets the stream run after a change. Without a single frame it has stalled. -/
def hold (ms : Nat) : Attempt Controller Nat := do
  let log ← activeLog
  let before := (← get).bench.count log
  sleep ms
  let after := (← get).bench.count log
  let observed := after - before
  if observed = 0 then stall 1 0 ms
  transition (.settled after)
  return observed

def finish (c : Controller) : Controller :=
  (onSession Session.teardown c).2

end Controller

end ExposureBench
