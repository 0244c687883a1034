namespace ExposureBench

inductive Tie where
  | even
  | away
  deriving DecidableEq, Repr

def roundDiv (tie : Tie) (num den : Nat) : Nat :=
  let quotient := num / den
  let twice := 2 * (num % den)
  if twice < den then quotient
  else if den < twice then quotient + 1
  else match tie with
    | .away => quotient + 1
    | .even => quotient + quotient % 2

/-- A binary64 number: `± mantissa · 2 ^ exponent`, an infinity, or no number. -/
inductive Binary64 where
  | nan
  | infinite (negative : Bool)
  | finite (negative : Bool) (mantissa : Nat) (exponent : Int)
  deriving DecidableEq, Repr

namespace Binary64

/-- Mantissas of normal numbers lie in `[2 ^ 52, 2 ^ 53)`; the subnormal ones share the least exponent. -/
def ofFloat (x : Float) : Binary64 :=
  let bits := x.toBits.toNat
  let negative := decide (Nat.pow 2 63 ≤ bits)
  let biased : Nat := bits / Nat.pow 2 52 % Nat.pow 2 11
  let fraction : Nat := bits % Nat.pow 2 52
  if biased = 2047 then
    if fraction = 0 then .infinite negative else .nan
  else if biased = 0 then
    .finite negative fraction (-1074)
  else
    .finite negative (Nat.pow 2 52 + fraction) ((biased : Int) - 1075)

def ratio (mantissa : Nat) (exponent : Int) (scale : Nat) : Nat × Nat :=
  (mantissa * Nat.pow 2 exponent.toNat * scale, Nat.pow 2 (-exponent).toNat)

def minInt64 : Int := -Nat.pow 2 63

def maxInt64 : Int := Nat.pow 2 63 - 1

/-- A signed 64-bit integer by the given rounding of magnitudes; what lies beyond the range goes to its end, and what
is no number to zero. -/
def toInt64 (round : Nat → Nat → Nat) : Binary64 → Int
  | .nan => 0
  | .infinite true => minInt64
  | .infinite false => maxInt64
  | .finite negative mantissa exponent =>
    let (num, den) := ratio mantissa exponent 1
    let magnitude : Int := round num den
    max minInt64 (min maxInt64 (if negative then -magnitude else magnitude))

end Binary64

def truncateToInt64 (x : Float) : Int :=
  (Binary64.ofFloat x).toInt64 (· / ·)

def roundToInt64 (x : Float) : Int :=
  (Binary64.ofFloat x).toInt64 (roundDiv .away)

/-- A span of time in nanoseconds. There is none for a negative number of seconds or for one of 2^64 and more. -/
def secondsToNanos? (seconds : Float) : Option Nat :=
  match Binary64.ofFloat seconds with
  | .finite negative mantissa exponent =>
    let (num, den) := Binary64.ratio mantissa exponent 1_000_000_000
    if negative && mantissa != 0 then none
    else if UInt64.size * 1_000_000_000 * den ≤ num then none
    else some (roundDiv .even num den)
  | _ => none

/-- The larger of two numbers; an operand that is no number gives way to the other. -/
def larger (a b : Float) : Float :=
  if a.isNaN then b else if a < b then b else a

def smaller (a b : Float) : Float :=
  if a.isNaN then b else if b < a then b else a

end ExposureBench
