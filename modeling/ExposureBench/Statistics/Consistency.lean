import ExposureBench.Stream.Frame

namespace ExposureBench

/-- Frames that report a state are compared; the others are skipped, neither for nor against. -/
structure Consistency where
  compared : Nat := 0
  skipped : Nat := 0
  mismatches : Nat := 0
  firstMismatch : Option Nat := none
  deriving DecidableEq, Repr

namespace Consistency

def observe (expected : Bool) (c : Consistency) (e : FrameEvent) : Consistency :=
  match e.flag with
  | none => { c with skipped := c.skipped + 1 }
  | some observed =>
    if observed = expected then { c with compared := c.compared + 1 }
    else { c with
      compared := c.compared + 1
      mismatches := c.mismatches + 1
      firstMismatch := c.firstMismatch.or (some e.sequence) }

def check (events : List FrameEvent) (start stop : Nat) (expected : Bool) : Consistency :=
  ((events.take stop).drop start).foldl (observe expected) {}

def checkWindow (events : List FrameEvent) (w : Window) : Consistency :=
  check events w.start w.stop w.expected

def merge (a b : Consistency) : Consistency where
  compared := a.compared + b.compared
  skipped := a.skipped + b.skipped
  mismatches := a.mismatches + b.mismatches
  firstMismatch := a.firstMismatch.or b.firstMismatch

end Consistency

end ExposureBench
