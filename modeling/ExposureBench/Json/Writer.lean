import ExposureBench.Json.Decode

namespace ExposureBench

namespace Numeral

def ofNat (n : Nat) : Numeral where
  negative := false
  whole := (Nat.toDigits 10 n).map fun c => c.toNat - '0'.toNat
  fraction := []
  exponent := none

def ofInt (i : Int) : Numeral :=
  { ofNat i.natAbs with negative := i < 0 }

/-- Digits with the point after the first `point` of them. It is written in place, a digit on either side, if that takes
at most sixteen digits before it or four zeros after it; else after the first digit, and an exponent moves it. -/
def ofDigits (negative : Bool) (digits : List Nat) (point : Int) : Numeral :=
  if 0 < point ∧ point ≤ 16 then
    let padded := digits.rightpad (point.toNat + 1) 0
    { negative, whole := padded.take point.toNat, fraction := padded.drop point.toNat, exponent := none }
  else if -5 < point ∧ point ≤ 0 then
    { negative, whole := [0], fraction := List.replicate (-point).toNat 0 ++ digits, exponent := none }
  else
    { negative, whole := digits.take 1, fraction := digits.drop 1, exponent := some (point - 1) }

/-- The shortest digits of a finite number, of two equally near the even one. -/
def ofFloat? (x : Float) : Option Numeral :=
  match Binary64.ofFloat x with
  | .finite negative mantissa exponent =>
    let d := Decimal.shortest .even mantissa exponent
    let digits := (ofNat d.digits).whole
    some (ofDigits negative digits (digits.length + d.exponent))
  | _ => none

def digitChars (digits : List Nat) : List Char :=
  digits.map Nat.digitChar

def render (n : Numeral) : List Char :=
  (if n.negative then ['-'] else []) ++ digitChars n.whole ++
    (if n.fraction.isEmpty then [] else '.' :: digitChars n.fraction) ++
    match n.exponent with
    | none => []
    | some e => 'e' :: (if e < 0 then ['-'] else []) ++ Nat.toDigits 10 e.natAbs

end Numeral

namespace Json

def ofNat (n : Nat) : Json := .number (.ofNat n)

def ofInt (i : Int) : Json := .number (.ofInt i)

def ofBool (b : Bool) : Json := .bool b

def ofString (s : String) : Json := .string (some s)

def ofFloat (x : Float) : Json :=
  match Numeral.ofFloat? x with
  | some n => .number n
  | none => .null

def ofOption {α : Type} (inner : α → Json) : Option α → Json
  | none => .null
  | some a => inner a

def ofList {α : Type} (item : α → Json) (items : List α) : Json :=
  .array (items.map item)

def ofRecord (members : List (String × Json)) : Json :=
  .object (members.map fun (name, j) => (some name, j))

def escapeLetter? : Char → Option Char
  | '"' => some '"'
  | '\\' => some '\\'
  | '\x08' => some 'b'
  | '\x0c' => some 'f'
  | '\n' => some 'n'
  | '\r' => some 'r'
  | '\t' => some 't'
  | _ => none

def escape (c : Char) : List Char :=
  match escapeLetter? c with
  | some letter => ['\\', letter]
  | none =>
    if c.toNat < 0x20 then
      ['\\', 'u', '0', '0', Nat.digitChar (c.toNat / 16), Nat.digitChar (c.toNat % 16)]
    else [c]

def quote (s : String) : List Char :=
  '"' :: (s.toList.flatMap escape ++ ['"'])

/-- What spells no text is written as the escape of a lone surrogate. -/
def quoteText : Text → List Char
  | some s => quote s
  | none => ['"', '\\', 'u', 'd', '8', '0', '0', '"']

def Token.render : Token → List Char
  | .openBrace => ['\x7b']
  | .closeBrace => ['\x7d']
  | .openBracket => ['[']
  | .closeBracket => [']']
  | .comma => [',']
  | .colon => [':']
  | .null => ['n', 'u', 'l', 'l']
  | .bool true => ['t', 'r', 'u', 'e']
  | .bool false => ['f', 'a', 'l', 's', 'e']
  | .number n => n.render
  | .string text => quoteText text

mutual

def tokens : Json → List Token
  | .null => [.null]
  | .bool b => [.bool b]
  | .number n => [.number n]
  | .string text => [.string text]
  | .array [] => [.openBracket, .closeBracket]
  | .array (j :: rest) => .openBracket :: tokens j ++ itemTokens rest
  | .object [] => [.openBrace, .closeBrace]
  | .object ((name, j) :: rest) => .openBrace :: .string name :: .colon :: tokens j ++ memberTokens rest

def itemTokens : List Json → List Token
  | [] => [.closeBracket]
  | j :: rest => .comma :: tokens j ++ itemTokens rest

def memberTokens : List (Text × Json) → List Token
  | [] => [.closeBrace]
  | (name, j) :: rest => .comma :: .string name :: .colon :: tokens j ++ memberTokens rest

end

def render (j : Json) : String :=
  String.ofList (j.tokens.flatMap Token.render)

end Json

end ExposureBench
