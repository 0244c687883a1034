import ExposureBench.Binary64

/-!
The fewest decimal digits that single out a binary64 number.

The reals that round to `mantissa · 2 ^ exponent` form an interval around it, its ends included iff the mantissa is
even. `shortest` looks at coarser decimal grids first and takes the first grid with a point in the interval: such a
point is one of the number's two neighbours on that grid. Of two the nearer one is taken; where both are equally near,
the written form decides.
-/

namespace ExposureBench

structure Decimal where
  digits : Nat
  exponent : Int
  deriving DecidableEq, Repr

namespace Decimal

/-- A finite number between the ends of its rounding interval, all four over `unit`: `point` times the grid's step is
compared with them as a natural number. -/
structure Bracket where
  low : Nat
  value : Nat
  high : Nat
  closed : Bool

namespace Bracket

/-- Quarters of the last place: the upper end is two of them away, and so is the lower one, except below a power of
two, where the numbers lie twice as dense. -/
def ofBinary (mantissa : Nat) (exponent : Int) : Bracket where
  low := 4 * mantissa - (if mantissa = Nat.pow 2 52 ∧ exponent ≠ -1074 then 1 else 2)
  value := 4 * mantissa
  high := 4 * mantissa + 2
  closed := mantissa % 2 = 0

def scale (b : Bracket) (factor : Nat) : Bracket where
  low := b.low * factor
  value := b.value * factor
  high := b.high * factor
  closed := b.closed

def contains (b : Bracket) (x : Nat) : Bool :=
  if b.closed then b.low ≤ x ∧ x ≤ b.high else b.low < x ∧ x < b.high

def nearest? (tie : Tie) (b : Bracket) (step : Nat) : Option Nat :=
  let below := b.value / step
  let above := below + 1
  match b.contains (below * step), b.contains (above * step) with
  | true, true => some (roundDiv tie b.value step)
  | true, false => some below
  | false, true => some above
  | false, false => none

end Bracket

def onGrid? (tie : Tie) (mantissa : Nat) (exponent place : Int) : Option Decimal :=
  let quarters := exponent - 2
  let bracket := (Bracket.ofBinary mantissa exponent).scale (Nat.pow 2 quarters.toNat * Nat.pow 10 (-place).toNat)
  let step := Nat.pow 2 (-quarters).toNat * Nat.pow 10 place.toNat
  (bracket.nearest? tie step).map (⟨·, place⟩)

/-- The least power of ten above `mantissa · 2 ^ exponent`: an estimate from its binary size, put right by one test. -/
def magnitude (mantissa : Nat) (exponent : Int) : Int :=
  let estimate := ((mantissa.log2 : Int) + exponent) * 30103 / 100000 + 1
  let power := Nat.pow 10 estimate.toNat * Nat.pow 2 (-exponent).toNat
  let number := mantissa * Nat.pow 2 exponent.toNat * Nat.pow 10 (-estimate).toNat
  if power ≤ number then estimate + 1 else estimate

def trim (d : Decimal) : Decimal :=
  go 17 d
where
  go : Nat → Decimal → Decimal
    | 0, d => d
    | n + 1, d =>
      if d.digits ≠ 0 ∧ d.digits % 10 = 0 then go n ⟨d.digits / 10, d.exponent + 1⟩ else d

def shortest (tie : Tie) (mantissa : Nat) (exponent : Int) : Decimal :=
  if mantissa = 0 then ⟨0, 0⟩
  else
    let top := magnitude mantissa exponent
    let points := (List.range 17).findSome? fun (i : Nat) => onGrid? tie mantissa exponent (top - 1 - i)
    (points.getD ⟨0, 0⟩).trim

end Decimal

end ExposureBench
