import ExposureBench.Decimal.Shortest

namespace ExposureBench

namespace Decimal

def digitsText (n : Nat) : String :=
  String.ofList (Nat.toDigits 10 n)

def zeros (n : Nat) : String :=
  String.ofList (List.replicate n '0')

def split (d : Decimal) : String × String :=
  if 0 ≤ d.exponent then
    (digitsText (d.digits * Nat.pow 10 d.exponent.toNat), "")
  else
    let places := (-d.exponent).toNat
    let fraction := digitsText (d.digits % Nat.pow 10 places)
    (digitsText (d.digits / Nat.pow 10 places), zeros (places - fraction.length) ++ fraction)

def positional (d : Decimal) : String :=
  match d.split with
  | (whole, "") => whole
  | (whole, fraction) => whole ++ "." ++ fraction

end Decimal

namespace Binary64

def signText (negative : Bool) : String :=
  if negative then "-" else ""

def render (finite : Nat → Int → String) : Binary64 → String
  | .nan => "NaN"
  | .infinite negative => signText negative ++ "inf"
  | .finite negative mantissa exponent => signText negative ++ finite mantissa exponent

def twoPlaces (mantissa : Nat) (exponent : Int) : String :=
  let (num, den) := ratio mantissa exponent 100
  let hundredths := roundDiv .even num den
  let fraction := Decimal.digitsText (hundredths % 100)
  Decimal.digitsText (hundredths / 100) ++ "." ++ Decimal.zeros (2 - fraction.length) ++ fraction

end Binary64

/-- The fewest digits that read back, never with an exponent and without a fraction where there is none. Of two equally
near the one farther from zero is written. -/
def floatText (x : Float) : String :=
  (Binary64.ofFloat x).render fun mantissa exponent => (Decimal.shortest .away mantissa exponent).positional

def fixedText (x : Float) : String :=
  (Binary64.ofFloat x).render Binary64.twoPlaces

end ExposureBench
