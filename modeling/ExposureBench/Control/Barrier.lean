import ExposureBench.Bench

namespace ExposureBench

structure BarrierOutcome where
  requested : Nat
  observed : Nat
  elapsedMs : Nat
  deriving DecidableEq, Repr

def BarrierOutcome.isSatisfied (o : BarrierOutcome) : Bool := o.requested ≤ o.observed

structure Barrier where
  pollMs : Nat
  poll_pos : 0 < pollMs
  deriving DecidableEq, Repr

namespace Barrier

def polling (ms : Nat) : Barrier := ⟨max ms 1, by omega⟩

def default : Barrier := polling 10

def waitFrom (barrier : Barrier) (log : LogId) (frames timeout base elapsed : Nat) (b : Bench) :
    BarrierOutcome × Bench :=
  let outcome : BarrierOutcome := ⟨frames, b.count log - base, elapsed⟩
  if outcome.isSatisfied then (outcome, b)
  else if timeout ≤ elapsed then (outcome, b)
  else
    let pause := min barrier.pollMs (timeout - elapsed)
    waitFrom barrier log frames timeout base (elapsed + pause) (b.sleep pause)
termination_by timeout - elapsed
decreasing_by
  have := barrier.poll_pos
  omega

/-- Waits for `frames` more frames than the log holds now. Success is looked at before the time. -/
def wait (barrier : Barrier) (log : LogId) (frames timeout : Nat) (b : Bench) : BarrierOutcome × Bench :=
  barrier.waitFrom log frames timeout (b.count log) 0 b

end Barrier

end ExposureBench
