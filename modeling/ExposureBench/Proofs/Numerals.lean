import ExposureBench.Json.Writer
import Mathlib

namespace ExposureBench

namespace Numeral

/-! Digits -/

theorem digitChar_of_isDigit {c : Char} (digit : c.isDigit) :
    c.toNat - '0'.toNat < 10 ∧ Nat.digitChar (c.toNat - '0'.toNat) = c := by
  obtain ⟨low, high⟩ := Char.isDigit_iff_toNat.mp digit
  have below : c.toNat - '0'.toNat < 10 := Nat.sub_lt_right_of_lt_add low (Nat.lt_succ_of_le high)
  refine ⟨below, Char.toNat_inj.mp ?_⟩
  rw [Nat.toNat_digitChar_of_lt_ten below]
  exact Nat.add_sub_cancel' low

theorem digits_ofNat (n : Nat) : ∀ d ∈ (ofNat n).whole, d < 10 := by
  intro d member
  obtain ⟨c, digit, rfl⟩ := List.mem_map.mp member
  exact (digitChar_of_isDigit (Nat.isDigit_of_mem_toDigits (by decide) (by decide) digit)).1

theorem digitChars_ofNat (n : Nat) : digitChars (ofNat n).whole = Nat.toDigits 10 n := by
  rw [digitChars, ofNat, List.map_map]
  refine (List.map_congr_left fun c member => ?_).trans (List.map_id _)
  exact (digitChar_of_isDigit (Nat.isDigit_of_mem_toDigits (by decide) (by decide) member)).2

theorem magnitude_ofNat (n : Nat) : (ofNat n).magnitude = n := by
  have read : Nat.ofDigitChars 10 (Nat.toDigits 10 n) 0 = n := Nat.ofDigitChars_ten_toDigits
  rw [Nat.ofDigitChars_eq_foldl] at read
  simpa only [magnitude, ofNat, List.foldl_map, Nat.mul_comm] using read

theorem whole_ofNat_ne_nil (n : Nat) : (ofNat n).whole ≠ [] := by
  rw [ofNat, Ne, List.map_eq_nil_iff]
  exact Nat.toDigits_ne_nil

theorem whole_ofNat_small {n : Nat} (small : n < 10) : (ofNat n).whole = [n] := by
  rw [ofNat, Nat.toDigits_of_lt_base small, List.map_singleton, Nat.toNat_digitChar_of_lt_ten small]
  simp

theorem whole_ofNat_large {n : Nat} (large : 10 ≤ n) :
    (ofNat n).whole = (ofNat (n / 10)).whole ++ [n % 10] := by
  have last : n % 10 < 10 := Nat.mod_lt n (by decide)
  rw [← whole_ofNat_small last]
  simp only [ofNat, ← List.map_append]
  rw [Nat.toDigits_eq_if (by decide), if_neg (Nat.not_lt.mpr large), Nat.toDigits_of_lt_base last]

theorem head?_whole_ofNat {n : Nat} (positive : 0 < n) : (ofNat n).whole.head? ≠ some 0 := by
  induction n using Nat.strongRecOn with
  | _ n ih =>
    rcases Nat.lt_or_ge n 10 with small | large
    · rw [whole_ofNat_small small, List.head?_cons, Ne, Option.some.injEq]
      exact Nat.ne_of_gt positive
    · rw [whole_ofNat_large large, List.head?_append_of_ne_nil _ (whole_ofNat_ne_nil (n / 10))]
      exact ih (n / 10) (Nat.div_lt_self positive (by decide)) (Nat.div_pos large (by decide))

/-! The parts of a written numeral -/

def fractionChars (digits : List Nat) : List Char :=
  if digits.isEmpty then [] else '.' :: digitChars digits

def exponentChars : Option Int → List Char
  | none => []
  | some e => 'e' :: ((if e < 0 then ['-'] else []) ++ digitChars (ofNat e.natAbs).whole)

theorem render_eq (n : Numeral) :
    n.render = (if n.negative then ['-'] else []) ++
      (digitChars n.whole ++ (fractionChars n.fraction ++ exponentChars n.exponent)) := by
  rw [render, fractionChars]
  cases n.exponent <;> simp [exponentChars, digitChars_ofNat]

/-- Fit to be written: digits of the decimal system, one at least before the point, and no zero before
others. -/
structure Legible (n : Numeral) : Prop where
  nonempty : n.whole ≠ []
  unpadded : n.whole.head? = some 0 → n.whole.length = 1
  whole : ∀ d ∈ n.whole, d < 10
  fraction : ∀ d ∈ n.fraction, d < 10

theorem legible_ofNat (n : Nat) : (ofNat n).Legible where
  nonempty := whole_ofNat_ne_nil n
  unpadded := by
    intro zero
    rcases Nat.eq_zero_or_pos n with rfl | positive
    · rfl
    · exact absurd zero (head?_whole_ofNat positive)
  whole := digits_ofNat n
  fraction := List.forall_mem_nil _

theorem legible_ofInt (i : Int) : (ofInt i).Legible :=
  ⟨(legible_ofNat i.natAbs).nonempty, (legible_ofNat i.natAbs).unpadded,
    (legible_ofNat i.natAbs).whole, (legible_ofNat i.natAbs).fraction⟩

end Numeral

/-! The numerals of numbers -/

namespace Decimal

theorem Bracket.contains_zero (b : Bracket) (positive : 0 < b.low) : b.contains 0 = false := by
  unfold Bracket.contains
  split
  · simp only [nonpos_iff_eq_zero, Nat.ne_of_gt positive, false_and, decide_false]
  · simp only [Nat.not_lt_zero, false_and, decide_false]

theorem Bracket.pos_of_nearest? {tie : Tie} {b : Bracket} (positive : 0 < b.low) {step k : Nat}
    (found : b.nearest? tie step = some k) : 0 < k := by
  have inside : ∀ k, b.contains (k * step) = true → 0 < k := by
    intro k contained
    rcases Nat.eq_zero_or_pos k with rfl | positive'
    · rw [Nat.zero_mul, b.contains_zero positive] at contained
      cases contained
    · exact positive'
  unfold Bracket.nearest? at found
  dsimp only at found
  split at found
  · next below _ =>
    have least := inside _ below
    cases found
    unfold roundDiv
    dsimp only
    split
    · exact least
    · split
      · exact Nat.succ_pos _
      · cases tie
        · exact Nat.add_pos_left least _
        · exact Nat.succ_pos _
  · next below _ =>
    cases found
    exact inside _ below
  · cases found
    exact Nat.succ_pos _
  · cases found

theorem pos_of_onGrid? {tie : Tie} {mantissa : Nat} {exponent place : Int} {d : Decimal}
    (positive : 0 < mantissa) (found : onGrid? tie mantissa exponent place = some d) :
    0 < d.digits := by
  obtain ⟨k, nearest, rfl⟩ := Option.map_eq_some_iff.mp found
  refine Bracket.pos_of_nearest? ?_ nearest
  have low : 0 < (Bracket.ofBinary mantissa exponent).low := by
    unfold Bracket.ofBinary
    dsimp only
    split <;> omega
  exact Nat.mul_pos low (Nat.mul_pos (Nat.pow_pos (by decide)) (Nat.pow_pos (by decide)))

theorem pos_trim {d : Decimal} (positive : 0 < d.digits) : 0 < d.trim.digits := by
  unfold trim
  generalize 17 = n
  induction n generalizing d with
  | zero => exact positive
  | succ n ih =>
    unfold trim.go
    split
    · next even => exact ih (Nat.div_pos (Nat.le_of_dvd positive (Nat.dvd_of_mod_eq_zero even.2)) (by decide))
    · exact positive

theorem exponent_of_shortest {tie : Tie} {mantissa : Nat} {exponent : Int}
    (zero : (shortest tie mantissa exponent).digits = 0) :
    (shortest tie mantissa exponent).exponent = 0 := by
  unfold shortest at zero ⊢
  split at zero
  · next none => rw [if_pos none]
  · next some =>
    rw [if_neg some]
    dsimp only at zero ⊢
    rcases found : (List.range 17).findSome? fun i : Nat =>
        onGrid? tie mantissa exponent (magnitude mantissa exponent - 1 - i) with _ | d
    · rfl
    · rw [found] at zero
      obtain ⟨i, -, on_grid⟩ := List.exists_of_findSome?_eq_some found
      have := pos_trim (pos_of_onGrid? (Nat.pos_of_ne_zero some) on_grid)
      exact absurd zero (Nat.ne_of_gt this)

end Decimal

namespace Numeral

theorem legible_ofDigits (negative : Bool) {digits : List Nat} {point : Int}
    (nonempty : digits ≠ []) (decimal : ∀ d ∈ digits, d < 10)
    (unpadded : digits.head? = some 0 → point ≤ 1) : (ofDigits negative digits point).Legible := by
  unfold ofDigits
  split
  · next within =>
    have padded : ∀ d ∈ digits.rightpad (point.toNat + 1) 0, d < 10 := by
      intro d member
      rcases List.mem_append.mp member with digit | zero
      · exact decimal d digit
      · rw [(List.mem_replicate.mp zero).2]
        decide
    have long : point.toNat ≤ (digits.rightpad (point.toNat + 1) 0).length := by
      rw [List.length_rightpad]
      omega
    refine ⟨?_, ?_, fun d member => padded d (List.mem_of_mem_take member),
      fun d member => padded d (List.mem_of_mem_drop member)⟩
    · rw [Ne, ← List.length_eq_zero_iff, List.length_take_of_le long]
      omega
    · intro zero
      rw [List.head?_take, if_neg (by omega), List.rightpad, List.head?_append_of_ne_nil _ nonempty]
        at zero
      have single := unpadded zero
      rw [List.length_take_of_le long]
      omega
  · split
    · next within =>
      refine ⟨List.cons_ne_nil 0 [], fun _ => rfl, by simp, ?_⟩
      intro d member
      rcases List.mem_append.mp member with zero | digit
      · rw [(List.mem_replicate.mp zero).2]
        decide
      · exact decimal d digit
    · cases digits with
      | nil => exact absurd rfl nonempty
      | cons d digits =>
        refine ⟨List.cons_ne_nil d [], fun _ => rfl, ?_, ?_⟩
        · intro d' member
          exact decimal d' (List.mem_of_mem_take member)
        · intro d' member
          exact decimal d' (List.mem_of_mem_drop member)

theorem legible_of_ofFloat? {x : Float} {n : Numeral} (written : ofFloat? x = some n) :
    n.Legible := by
  unfold ofFloat? at written
  split at written
  · next negative mantissa exponent _ =>
    cases written
    refine legible_ofDigits negative (whole_ofNat_ne_nil _) (digits_ofNat _) ?_
    intro zero
    have none : (Decimal.shortest .even mantissa exponent).digits = 0 := by
      by_contra some
      exact head?_whole_ofNat (Nat.pos_of_ne_zero some) zero
    rw [Decimal.exponent_of_shortest none, none]
    decide
  · cases written

/-! What numerals stand for -/

theorem value?_ofNat {n : Nat} (fits : n < UInt64.size) :
    (ofNat n).value? = some (.integer n) := by
  have whole : (ofNat n).isInteger = true := rfl
  have sign : (ofNat n).negative = false := rfl
  have within : n ≤ maxUInt64 := Nat.le_pred_of_lt fits
  rw [value?, whole, sign, magnitude_ofNat, if_pos (by simpa using within)]

theorem value?_ofInt {i : Int} (least : Binary64.minInt64 ≤ i) (most : i ≤ Binary64.maxInt64) :
    (ofInt i).value? = some (.integer i) := by
  have whole : (ofInt i).isInteger = true := rfl
  have sign : (ofInt i).negative = decide (i < 0) := rfl
  have size : (ofInt i).magnitude = i.natAbs := magnitude_ofNat i.natAbs
  have low : i.natAbs ≤ UInt64.size / 2 := by
    have : UInt64.size / 2 = 2 ^ 63 := rfl
    have : Binary64.minInt64 = -2 ^ 63 := rfl
    have : Binary64.maxInt64 = 2 ^ 63 - 1 := rfl
    omega
  have high : i.natAbs ≤ maxUInt64 := low.trans (by decide)
  by_cases negative : i < 0
  · have same : -(i.natAbs : Int) = i := by omega
    rw [value?, whole, sign, size, decide_eq_true negative, if_neg (by simp),
      if_pos (by simpa [Int.ne_of_lt negative] using low), same]
  · have same : (i.natAbs : Int) = i := by omega
    rw [value?, whole, sign, size, decide_eq_false negative, if_pos (by simpa using high), same]

end Numeral

namespace Json

open Numeral

/-! Reading digits -/

def DigitsEnd (rest : List Char) : Prop := ∀ c ∈ rest.head?, c.isDigit = false

variable {digits : List Nat} {rest : List Char}

theorem takeDigits_of_end (ends : DigitsEnd rest) : takeDigits rest = ([], rest) := by
  cases rest with
  | nil => rfl
  | cons c rest => simp [takeDigits, ends c rfl]

theorem takeDigits_digitChars (decimal : ∀ d ∈ digits, d < 10) (ends : DigitsEnd rest) :
    takeDigits (digitChars digits ++ rest) = (digits, rest) := by
  induction digits with
  | nil => exact takeDigits_of_end ends
  | cons d digits ih =>
    have small : d < 10 := decimal d List.mem_cons_self
    have digit : (Nat.digitChar d).isDigit := by
      rw [Nat.isDigit_digitChar, decide_eq_true small]
    have later := ih fun d member => decimal d (List.mem_cons_of_mem _ member)
    rw [takeDigits, Prod.mk.injEq] at later ⊢
    rw [digitChars, List.map_cons, List.cons_append, List.takeWhile_cons_of_pos digit,
      List.dropWhile_cons_of_pos digit, List.map_cons, Nat.toNat_digitChar_of_lt_ten small]
    refine ⟨?_, later.2⟩
    rw [← digitChars, later.1]
    simp

theorem digits?_digitChars (nonempty : digits ≠ []) (decimal : ∀ d ∈ digits, d < 10)
    (ends : DigitsEnd rest) : digits? (digitChars digits ++ rest) = some (digits, rest) := by
  rw [digits?, takeDigits_digitChars decimal ends]
  cases digits with
  | nil => exact absurd rfl nonempty
  | cons d digits => rfl

theorem scanMinus_of_digit (negative : Bool) {c : Char} (digit : c.isDigit) (rest : List Char) :
    scanMinus ((if negative then ['-'] else []) ++ c :: rest) = (negative, c :: rest) := by
  cases negative with
  | true => rfl
  | false =>
    unfold scanMinus
    split
    · next same => cases same; exact absurd digit (by decide)
    · rfl

theorem scanSign_of_digit (negative : Bool) {c : Char} (digit : c.isDigit) (rest : List Char) :
    scanSign ((if negative then ['-'] else []) ++ c :: rest) = (negative, c :: rest) := by
  cases negative with
  | true => rfl
  | false =>
    unfold scanSign
    split
    · next same => cases same; exact absurd digit (by decide)
    · next same => cases same; exact absurd digit (by decide)
    · rfl

theorem digitChars_eq_cons (nonempty : digits ≠ []) (decimal : ∀ d ∈ digits, d < 10) :
    ∃ c chars, c.isDigit = true ∧ digitChars digits = c :: chars := by
  cases digits with
  | nil => exact absurd rfl nonempty
  | cons d digits =>
    refine ⟨Nat.digitChar d, digitChars digits, ?_, rfl⟩
    rw [Nat.isDigit_digitChar, decide_eq_true (decimal d List.mem_cons_self)]

/-- What stands behind a numeral and is no part of it. -/
def NumeralEnd (rest : List Char) : Prop :=
  ∀ c ∈ rest.head?, c.isDigit = false ∧ c ≠ '.' ∧ c ≠ 'e' ∧ c ≠ 'E'

theorem NumeralEnd.digitsEnd (ends : NumeralEnd rest) : DigitsEnd rest :=
  fun c head => (ends c head).1

theorem scanExponent?_render (exponent : Option Int) (ends : NumeralEnd rest) :
    scanExponent? (exponentChars exponent ++ rest) = some (exponent, rest) := by
  cases exponent with
  | none =>
    cases rest with
    | nil => rfl
    | cons c rest =>
      obtain ⟨-, -, small, large⟩ := ends c rfl
      simp [exponentChars, scanExponent?, small, large]
  | some e =>
    have nonempty := whole_ofNat_ne_nil e.natAbs
    have decimal := digits_ofNat e.natAbs
    obtain ⟨c, chars, digit, begins⟩ := digitChars_eq_cons nonempty decimal
    have sign := scanSign_of_digit (e < 0) digit (chars ++ rest)
    rw [← List.cons_append, ← begins] at sign
    have read := digits?_digitChars nonempty decimal ends.digitsEnd
    have size := magnitude_ofNat e.natAbs
    rw [magnitude] at size
    simp only [decide_eq_true_eq] at sign
    simp only [exponentChars, scanExponent?, List.cons_append, List.append_assoc, true_or, if_true,
      sign, read, size, Option.bind_eq_bind, Option.bind_some, Option.pure_def, decide_eq_true_eq]
    refine congrArg (fun value => some (some value, rest)) ?_
    split <;> omega

theorem scanFraction?_render (decimal : ∀ d ∈ digits, d < 10) (ends : DigitsEnd rest)
    (pointless : rest.head? ≠ some '.') :
    scanFraction? (fractionChars digits ++ rest) = some (digits, rest) := by
  cases digits with
  | nil =>
    unfold scanFraction?
    split
    · next same => exact absurd (congrArg List.head? same) pointless
    · rfl
  | cons d digits => exact digits?_digitChars (List.cons_ne_nil d digits) decimal ends

theorem scanWhole?_render {n : Numeral} (legible : n.Legible) (ends : DigitsEnd rest) :
    scanWhole? (digitChars n.whole ++ rest) = some (n.whole, rest) := by
  rw [scanWhole?, digits?_digitChars legible.nonempty legible.whole ends]
  split
  · next second others _ padded =>
    have same := (Prod.mk.inj (Option.some.inj padded)).1
    have alone := legible.unpadded (by rw [same]; rfl)
    rw [same] at alone
    cases alone
  · rfl

theorem exponentChars_ends (exponent : Option Int) (ends : NumeralEnd rest) :
    DigitsEnd (exponentChars exponent ++ rest) ∧
      (exponentChars exponent ++ rest).head? ≠ some '.' := by
  cases exponent with
  | none => exact ⟨ends.digitsEnd, fun point => (ends '.' point).2.1 rfl⟩
  | some e =>
    refine ⟨fun c head => ?_, by simp [exponentChars]⟩
    cases head
    rfl

theorem fractionChars_ends (ends : DigitsEnd rest) :
    DigitsEnd (fractionChars digits ++ rest) := by
  cases digits with
  | nil => exact ends
  | cons d digits =>
    intro c head
    cases head
    rfl

theorem scanNumeral?_render {n : Numeral} (legible : n.Legible) (ends : NumeralEnd rest) :
    scanNumeral? (n.render ++ rest) = some (n, rest) := by
  obtain ⟨c, chars, digit, begins⟩ := digitChars_eq_cons legible.nonempty legible.whole
  obtain ⟨ended, pointless⟩ := exponentChars_ends n.exponent ends
  have minus := scanMinus_of_digit n.negative digit
    (chars ++ (fractionChars n.fraction ++ (exponentChars n.exponent ++ rest)))
  rw [← List.cons_append, ← begins] at minus
  simp only [scanNumeral?, render_eq, List.append_assoc, minus,
    scanWhole?_render legible (fractionChars_ends ended),
    scanFraction?_render legible.fraction ended pointless, scanExponent?_render n.exponent ends,
    Option.bind_eq_bind, Option.bind_some, Option.pure_def]

end Json

end ExposureBench
