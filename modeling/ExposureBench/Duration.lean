import ExposureBench.Decimal.Text

namespace ExposureBench

namespace Duration

def ofMillis (ms : Nat) : Nat := ms * 1_000_000

def toMillis (nanos : Nat) : Nat := nanos / 1_000_000

/-- Seconds as a number: whole seconds and the rest are converted apart. -/
def toSeconds (nanos : Nat) : Float :=
  Float.ofNat (nanos / 1_000_000_000) + Float.ofNat (nanos % 1_000_000_000) / 1e9

def withUnit (nanos places : Nat) (unit : String) : String :=
  Decimal.positional (Decimal.trim ⟨nanos, -places⟩) ++ unit

def text (nanos : Nat) : String :=
  if 1_000_000_000 ≤ nanos then withUnit nanos 9 "s"
  else if 1_000_000 ≤ nanos then withUnit nanos 6 "ms"
  else if 1_000 ≤ nanos then withUnit nanos 3 "µs"
  else withUnit nanos 0 "ns"

end Duration

end ExposureBench
