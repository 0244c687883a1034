import ExposureBench.Decimal.Text

/-! JSON values as they are written: numerals keep their digits, objects their members in order. -/

namespace ExposureBench

/-- `± whole . fraction e exponent`. The fraction is empty iff it was not written. -/
structure Numeral where
  negative : Bool
  whole : List Nat
  fraction : List Nat
  exponent : Option Int
  deriving DecidableEq, Repr

/-- `none` where an escape names half of a surrogate pair: such a literal spells no text. -/
abbrev Json.Text := Option String

inductive Json where
  | null
  | bool (value : Bool)
  | number (numeral : Numeral)
  | string (text : Json.Text)
  | array (items : List Json)
  | object (members : List (Json.Text × Json))
  deriving Inhabited

inductive Number where
  | integer (value : Int)
  | float (value : Float)

namespace Numeral

def maxUInt64 : Nat := UInt64.size - 1

/-- Appends digits as long as the result fits 64 bits. What does not fit is handed back. -/
def absorb (significand : Nat) : List Nat → Nat × List Nat
  | [] => (significand, [])
  | d :: rest =>
    if significand * 10 + d ≤ maxUInt64 then absorb (significand * 10 + d) rest
    else (significand, d :: rest)

def powerOfTen (n : Nat) : Float :=
  Float.ofScientific 1 false n

def divide (x : Float) (places : Nat) : Float :=
  if places ≤ 308 then x / powerOfTen places
  else if places ≤ 616 then x / powerOfTen 308 / powerOfTen (places - 308)
  else 0

def scale? (significand : Nat) (exponent : Int) : Option Float :=
  let x := Float.ofNat significand
  if significand = 0 then some x
  else if exponent < 0 then some (divide x (-exponent).toNat)
  else if 308 < exponent then none
  else
    let scaled := x * powerOfTen exponent.toNat
    if scaled.isInf then none else some scaled

/-- The leading digits, as many as fit 64 bits, scaled by the power of ten that remains. -/
def toFloat? (n : Numeral) : Option Float :=
  let (significand, beyond) := absorb 0 n.whole
  let (significand, unread) := absorb significand n.fraction
  let places := n.fraction.length - unread.length
  let exponent := (beyond.length : Int) - places + n.exponent.getD 0
  (scale? significand exponent).map fun x => if n.negative then -x else x

def isInteger (n : Numeral) : Bool :=
  n.fraction.isEmpty && n.exponent.isNone

def magnitude (n : Numeral) : Nat :=
  n.whole.foldl (· * 10 + ·) 0

/-- Integers beyond the 64-bit types are read as floats, and so is `-0`. -/
def value? (n : Numeral) : Option Number :=
  if n.isInteger && !n.negative && n.magnitude ≤ maxUInt64 then
    some (.integer n.magnitude)
  else if n.isInteger && n.negative && n.magnitude != 0 && n.magnitude ≤ UInt64.size / 2 then
    some (.integer (-n.magnitude))
  else n.toFloat?.map .float

end Numeral

end ExposureBench
