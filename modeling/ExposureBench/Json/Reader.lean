import ExposureBench.Json.Basic

/-!
Reading JSON text: a scanner for tokens, then a machine that takes one token at a time and keeps the open containers on
a stack, so that depth of nesting costs nothing.
-/

namespace ExposureBench

namespace Json

inductive Token where
  | openBrace
  | closeBrace
  | openBracket
  | closeBracket
  | comma
  | colon
  | null
  | bool (value : Bool)
  | number (numeral : Numeral)
  | string (text : Text)

/-! Strings -/

/-- What a string literal is made of: characters, and the 16-bit units of its numeric escapes. -/
inductive Piece where
  | char (c : Char)
  | unit (n : Nat)
  deriving DecidableEq, Repr

def hexDigit? (c : Char) : Option Nat :=
  if '0' ≤ c ∧ c ≤ '9' then some (c.toNat - '0'.toNat)
  else if 'a' ≤ c ∧ c ≤ 'f' then some (c.toNat - 'a'.toNat + 10)
  else if 'A' ≤ c ∧ c ≤ 'F' then some (c.toNat - 'A'.toNat + 10)
  else none

def unit? (a b c d : Char) : Option Nat := do
  return (((← hexDigit? a) * 16 + (← hexDigit? b)) * 16 + (← hexDigit? c)) * 16 + (← hexDigit? d)

def escaped? : Char → Option Char
  | '"' => some '"'
  | '\\' => some '\\'
  | '/' => some '/'
  | 'b' => some '\x08'
  | 'f' => some '\x0c'
  | 'n' => some '\n'
  | 'r' => some '\r'
  | 't' => some '\t'
  | _ => none

def scanString? : List Char → Option (List Piece × List Char)
  | [] => none
  | '"' :: rest => some ([], rest)
  | '\\' :: 'u' :: a :: b :: c :: d :: rest => do
    let n ← unit? a b c d
    let (pieces, rest) ← scanString? rest
    return (.unit n :: pieces, rest)
  | '\\' :: c :: rest => do
    let c ← escaped? c
    let (pieces, rest) ← scanString? rest
    return (.char c :: pieces, rest)
  | c :: rest =>
    if c.toNat < 0x20 then none
    else (scanString? rest).map fun (pieces, rest) => (.char c :: pieces, rest)

def isHighSurrogate (n : Nat) : Bool := 0xd800 ≤ n ∧ n < 0xdc00

def isLowSurrogate (n : Nat) : Bool := 0xdc00 ≤ n ∧ n < 0xe000

/-- A high surrogate takes the low one right after it; alone, neither is a character. -/
def assemble? : List Piece → Option (List Char)
  | [] => some []
  | .char c :: rest => (assemble? rest).map (c :: ·)
  | .unit high :: .unit low :: rest =>
    if isHighSurrogate high then
      if isLowSurrogate low then
        (assemble? rest).map (Char.ofNat (0x10000 + (high - 0xd800) * 0x400 + (low - 0xdc00)) :: ·)
      else none
    else if isLowSurrogate high then none
    else (assemble? (.unit low :: rest)).map (Char.ofNat high :: ·)
  | .unit n :: rest =>
    if isHighSurrogate n || isLowSurrogate n then none else (assemble? rest).map (Char.ofNat n :: ·)

/-! Numerals -/

def takeDigits (s : List Char) : List Nat × List Char :=
  ((s.takeWhile Char.isDigit).map (fun c => c.toNat - '0'.toNat), s.dropWhile Char.isDigit)

def digits? (s : List Char) : Option (List Nat × List Char) :=
  match takeDigits s with
  | ([], _) => none
  | found => some found

def scanWhole? (s : List Char) : Option (List Nat × List Char) :=
  match digits? s with
  | some (0 :: _ :: _, _) => none
  | found => found

def scanFraction? : List Char → Option (List Nat × List Char)
  | '.' :: rest => digits? rest
  | s => some ([], s)

def scanSign : List Char → Bool × List Char
  | '-' :: rest => (true, rest)
  | '+' :: rest => (false, rest)
  | s => (false, s)

def scanExponent? : List Char → Option (Option Int × List Char)
  | c :: rest =>
    if c = 'e' ∨ c = 'E' then do
      let (negative, rest) := scanSign rest
      let (digits, rest) ← digits? rest
      let magnitude : Nat := digits.foldl (· * 10 + ·) 0
      return (some (if negative then -(magnitude : Int) else magnitude), rest)
    else some (none, c :: rest)
  | [] => some (none, [])

def scanMinus : List Char → Bool × List Char
  | '-' :: rest => (true, rest)
  | s => (false, s)

def scanNumeral? (s : List Char) : Option (Numeral × List Char) := do
  let (negative, s) := scanMinus s
  let (whole, s) ← scanWhole? s
  let (fraction, s) ← scanFraction? s
  let (exponent, s) ← scanExponent? s
  return ({ negative, whole, fraction, exponent }, s)

/-! Tokens -/

def isBlank (c : Char) : Bool :=
  c = ' ' ∨ c = '\t' ∨ c = '\n' ∨ c = '\r'

def scanToken? : List Char → Option (Token × List Char)
  | '\x7b' :: rest => some (.openBrace, rest)
  | '\x7d' :: rest => some (.closeBrace, rest)
  | '[' :: rest => some (.openBracket, rest)
  | ']' :: rest => some (.closeBracket, rest)
  | ',' :: rest => some (.comma, rest)
  | ':' :: rest => some (.colon, rest)
  | '"' :: rest =>
    (scanString? rest).map fun (pieces, rest) => (.string ((assemble? pieces).map String.ofList), rest)
  | 'n' :: 'u' :: 'l' :: 'l' :: rest => some (.null, rest)
  | 't' :: 'r' :: 'u' :: 'e' :: rest => some (.bool true, rest)
  | 'f' :: 'a' :: 'l' :: 's' :: 'e' :: rest => some (.bool false, rest)
  | s => (scanNumeral? s).map fun (numeral, rest) => (.number numeral, rest)

theorem length_of_scanString? {s rest : List Char} {pieces : List Piece}
    (scanned : scanString? s = some (pieces, rest)) : rest.length < s.length := by
  fun_induction scanString? s generalizing pieces with
  | case1 => simp at scanned
  | case2 => simp_all
  | case3 a b c d s ih =>
    obtain ⟨_, _, _, found, _⟩ := by simpa [Option.bind_eq_some_iff] using scanned
    have := ih found
    simp only [List.length_cons]
    omega
  | case4 c s _ ih =>
    obtain ⟨_, _, _, found, _⟩ := by simpa [Option.bind_eq_some_iff] using scanned
    have := ih found
    simp only [List.length_cons]
    omega
  | case5 => simp at scanned
  | case6 c s _ _ _ _ ih =>
    obtain ⟨⟨_, rest⟩, found, last⟩ := Option.map_eq_some_iff.mp scanned
    simp only [Prod.mk.injEq] at last
    have := ih (last.2 ▸ found)
    simp only [List.length_cons]
    omega

theorem length_of_digits? {s rest : List Char} {found : List Nat}
    (scanned : digits? s = some (found, rest)) : rest.length < s.length := by
  cases s with
  | nil => simp [digits?, takeDigits] at scanned
  | cons c s =>
    have : (s.dropWhile Char.isDigit).length ≤ s.length := (List.dropWhile_suffix _).length_le
    by_cases digit : c.isDigit
    · simp [digits?, takeDigits, digit] at scanned
      simp only [List.length_cons, ← scanned.2]
      omega
    · simp [digits?, takeDigits, digit] at scanned

theorem length_of_scanWhole? {s rest : List Char} {found : List Nat}
    (scanned : scanWhole? s = some (found, rest)) : rest.length < s.length := by
  unfold scanWhole? at scanned
  split at scanned
  · simp at scanned
  · exact length_of_digits? scanned

theorem length_of_scanFraction? {s rest : List Char} {found : List Nat}
    (scanned : scanFraction? s = some (found, rest)) : rest.length ≤ s.length := by
  unfold scanFraction? at scanned
  split at scanned
  · have := length_of_digits? scanned
    simp only [List.length_cons]
    omega
  · simp_all

theorem length_scanSign (s : List Char) : (scanSign s).2.length ≤ s.length := by
  unfold scanSign
  split <;> simp

theorem length_of_scanExponent? {s rest : List Char} {found : Option Int}
    (scanned : scanExponent? s = some (found, rest)) : rest.length ≤ s.length := by
  unfold scanExponent? at scanned
  split at scanned
  · rename_i c s
    split at scanned
    · obtain ⟨_, read, _⟩ := by simpa [Option.bind_eq_some_iff] using scanned
      have := length_of_digits? read
      have := length_scanSign s
      simp only [List.length_cons]
      omega
    · simp_all
  · simp_all

theorem length_scanMinus (s : List Char) : (scanMinus s).2.length ≤ s.length := by
  unfold scanMinus
  split <;> simp

theorem length_of_scanNumeral? {s rest : List Char} {numeral : Numeral}
    (scanned : scanNumeral? s = some (numeral, rest)) : rest.length < s.length := by
  simp only [scanNumeral?, Option.bind_eq_bind, Option.bind_eq_some_iff, Prod.exists] at scanned
  obtain ⟨_, _, whole, _, _, fraction, _, _, exponent, last⟩ := scanned
  simp only [Option.pure_def, Option.some.injEq, Prod.mk.injEq] at last
  have := length_scanMinus s
  have := length_of_scanWhole? whole
  have := length_of_scanFraction? fraction
  have := length_of_scanExponent? exponent
  simp only [← last.2]
  omega

theorem length_of_scanToken? {s rest : List Char} {token : Token}
    (scanned : scanToken? s = some (token, rest)) : rest.length < s.length := by
  unfold scanToken? at scanned
  split at scanned
  case h_7 =>
    obtain ⟨⟨_, after⟩, found, last⟩ := Option.map_eq_some_iff.mp scanned
    have := length_of_scanString? found
    simp only [Prod.mk.injEq] at last
    simp only [List.length_cons, ← last.2]
    omega
  case h_11 =>
    obtain ⟨⟨_, after⟩, found, last⟩ := Option.map_eq_some_iff.mp scanned
    simp only [Prod.mk.injEq] at last
    exact last.2 ▸ length_of_scanNumeral? found
  all_goals
    simp only [Option.some.injEq, Prod.mk.injEq] at scanned
    simp only [List.length_cons, ← scanned.2]
    omega

def tokens? (s : List Char) : Option (List Token) :=
  match trimmed : s.dropWhile isBlank with
  | [] => some []
  | c :: cs =>
    match scanned : scanToken? (c :: cs) with
    | none => none
    | some (token, rest) =>
      have : rest.length < s.length :=
        calc rest.length < (c :: cs).length := length_of_scanToken? scanned
          _ ≤ s.length := trimmed ▸ (List.dropWhile_suffix _).length_le
      (tokens? rest).map (token :: ·)
termination_by s.length

/-! Values -/

inductive Pending where
  | array (items : List Json)
  | object (members : List (Text × Json)) (name : Text)

/-- What may come next: a value; an item or the end of an array; a member or the end of an object; a member; a colon;
or what may follow a value. -/
inductive State where
  | value (stack : List Pending)
  | firstItem (stack : List Pending)
  | firstMember (stack : List Pending)
  | member (members : List (Text × Json)) (stack : List Pending)
  | colon (members : List (Text × Json)) (name : Text) (stack : List Pending)
  | after (value : Json) (stack : List Pending)

namespace State

def begin? (stack : List Pending) : Token → Option State
  | .null => some (.after .null stack)
  | .bool b => some (.after (.bool b) stack)
  | .number n => some (.after (.number n) stack)
  | .string s => some (.after (.string s) stack)
  | .openBracket => some (.firstItem stack)
  | .openBrace => some (.firstMember stack)
  | _ => none

def step? : State → Token → Option State
  | .value stack, t => begin? stack t
  | .firstItem stack, .closeBracket => some (.after (.array []) stack)
  | .firstItem stack, t => begin? (.array [] :: stack) t
  | .firstMember stack, .closeBrace => some (.after (.object []) stack)
  | .firstMember stack, .string name => some (.colon [] name stack)
  | .member members stack, .string name => some (.colon members name stack)
  | .colon members name stack, .colon => some (.value (.object members name :: stack))
  | .after j (.array items :: stack), .comma => some (.value (.array (j :: items) :: stack))
  | .after j (.array items :: stack), .closeBracket => some (.after (.array (j :: items).reverse) stack)
  | .after j (.object members name :: stack), .comma => some (.member ((name, j) :: members) stack)
  | .after j (.object members name :: stack), .closeBrace =>
    some (.after (.object ((name, j) :: members).reverse) stack)
  | _, _ => none

end State

def ofTokens? (tokens : List Token) : Option Json :=
  match tokens.foldlM State.step? (.value []) with
  | some (.after j []) => some j
  | _ => none

def parse? (s : String) : Option Json :=
  (tokens? s.toList).bind ofTokens?

end Json

end ExposureBench
