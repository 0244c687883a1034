import ExposureBench.Binary64
import ExposureBench.Device.Option
import ExposureBench.Proofs.Rate
import ExposureBench.Stream.Profile

/-! A quotient of bounded numbers is bounded, and rounding costs it one power of two at most. -/

namespace ExposureBench.Magnitude

open Float.Model Float.Model.UnpackedFloat Rate

/-- Neither negative nor infinite, and below `2 ^ k`. -/
def Within (k : Int) : UnpackedFloat → Prop
  | .zero _ => True
  | .finite .positive m e _ => m.log2 + e < k
  | _ => False

variable {k : Int} {x y : UnpackedFloat}

theorem Within.mono {l : Int} (within : Within k x) (le : k ≤ l) : Within l x := by
  rcases x with _ | _ | sign | ⟨_ | _, m, e, pos⟩
  · exact within.elim
  · exact within.elim
  · trivial
  · exact within.elim
  · change m.log2 + e < k at within
    change m.log2 + e < l
    omega

theorem within_finite {sign : Sign} {m : Nat} {e : Int} {pos : 0 < m} :
    Within k (.finite sign m e pos) ↔ sign = .positive ∧ m.log2 + e < k := by
  cases sign <;> simp [Within]

section Rounding

theorem log2_le_succ {m n : Nat} (le : n ≤ m + 1) : n.log2 ≤ m.log2 + 1 := by
  rcases Nat.eq_zero_or_pos n with rfl | positive
  · simp
  · have high : m < 2 ^ (m.log2 + 1) := Nat.lt_log2_self
    have wider : 2 ^ (m.log2 + 1) < 2 ^ (m.log2 + 2) :=
      Nat.pow_lt_pow_right (by decide) (Nat.lt_succ_self _)
    have below : n.log2 < m.log2 + 2 := (Nat.log2_lt (Nat.ne_of_gt positive)).mpr (by omega)
    omega

theorem shiftToTargetExponent_within {m : Nat} {e : Int} (accuracy : Accuracy)
    (below : m.log2 + e < k) (above : -1074 < k) :
    (shiftToTargetExponent format m e accuracy).1.mantissa.log2 +
      (shiftToTargetExponent format m e accuracy).2 < k := by
  simp only [shiftToTargetExponent, shiftToExponent, mantissa_shiftRight,
    mantissa_ofMantissaAndAccuracy, log2_div_two_pow, Format.targetExponent, totalExponent,
    Format.mantissaBits, Format.minExponent]
  omega

theorem roundWithAccuracy_within {m : Nat} {e : Int} (accuracy : Accuracy)
    (below : m.log2 + e < k) (above : -1074 < k) :
    Within (k + 1) (roundWithAccuracy format .positive m e accuracy) := by
  have first := shiftToTargetExponent_within accuracy below above
  simp only [roundWithAccuracy]
  generalize shiftToTargetExponent format m e accuracy = shifted at first
  have rounded := log2_le_succ (roundedMantissa_bounds shifted.1).2
  have second := shiftToTargetExponent_within (m := shifted.1.roundedMantissa) (e := shifted.2)
    (k := k + 1) .exact (by omega) (by omega)
  split
  · trivial
  · exact second

end Rounding

section Packing

theorem log2_toNat_le (width : Nat) (bits : BitVec (width + 1)) : bits.toNat.log2 ≤ width := by
  rcases Nat.eq_zero_or_pos bits.toNat with none | positive
  · simp [none]
  · have less := (Nat.log2_lt (Nat.ne_of_gt positive)).mpr bits.isLt
    omega

theorem log2_le_of_unpack {bits : BitVec 64} {sign : Sign} {m : Nat} {e : Int} {pos : 0 < m}
    (read : UnpackedFloat.unpack format bits = .finite sign m e pos) : m.log2 ≤ 52 := by
  unfold UnpackedFloat.unpack at read
  dsimp only at read
  split at read
  · split at read <;> cases read
  split at read
  · split at read
    · cases read
    · cases read
      exact Nat.le_trans (log2_toNat_le 51 _) (by decide)
  · cases read
    exact log2_toNat_le 52 _

theorem unpack_packComponents_within {exponent : BitVec 11} (m : BitVec 52)
    (small : exponent.toNat < k + 1023) (above : 0 ≤ k) (finite : k ≤ 1024) :
    Within k (UnpackedFloat.unpack format (packComponents format .positive exponent m)) := by
  have sign : Sign.ofBitVec Sign.positive.toBitVec = .positive := rfl
  have bias : (format.exponentBias : Int) + format.mantissaBitsWithoutImplicit = 1075 := by decide
  have ones : exponent ≠ -1#11 := by
    rintro rfl
    have : (-1#11).toNat = 2047 := by decide
    omega
  rw [UnpackedFloat.unpack]
  simp only [unpackMantissa_packComponents, unpackExponent_packComponents,
    unpackSign_packComponents, sign, if_neg ones, bias]
  split
  · next subnormal =>
    split
    · trivial
    · have bits := log2_toNat_le 51 m
      have none : exponent.toNat = 0 := by rw [subnormal]; rfl
      simp only [Within]
      omega
  · have bits := log2_toNat_le 52 (1#1 ++ m)
    simp only [Within]
    omega

theorem pack_within (within : Within k x) (above : 0 ≤ k) (finite : k ≤ 972) :
    Within k (pack x).unpack := by
  have bias : (format.exponentBias : Int) + format.mantissaBitsWithoutImplicit = 1075 := by decide
  have full : format.mantissaBits = 53 := rfl
  change Within k (UnpackedFloat.unpack format (UnpackedFloat.pack format x))
  fun_cases UnpackedFloat.pack format x with
  | case1 => exact within.elim
  | case2 => exact within.elim
  | case3 sign => cases sign <;> trivial
  | case4 sign m e pos biased large =>
    cases sign with
    | negative => exact within.elim
    | positive =>
      change m.log2 + e < k at within
      have top : 2 ^ format.exponentBits = 2048 := by decide
      omega
  | case5 sign m e pos bits biased fits normal =>
    cases sign with
    | negative => exact within.elim
    | positive =>
      change m.log2 + e < k at within
      apply unpack_packComponents_within _ _ above (by omega)
      have read : (BitVec.ofNat 11 biased).toNat ≤ biased := Nat.mod_le _ _
      change (BitVec.ofNat 11 biased).toNat < k + 1023
      omega
  | case6 sign m e pos =>
    cases sign with
    | negative => exact within.elim
    | positive => exact unpack_packComponents_within _ (by simp; omega) above (by omega)

end Packing

section Arithmetic

theorem log2_div_le {m n : Nat} (some : 0 < m / n) : (m / n).log2 + n.log2 ≤ m.log2 := by
  have divisor : 0 < n := by
    rcases Nat.eq_zero_or_pos n with rfl | positive
    · simp at some
    · exact positive
  have whole : m / n * n ≤ m := Nat.div_mul_le_self m n
  have dividend : m ≠ 0 := by
    rintro rfl
    simp at some
  rw [Nat.le_log2 dividend, Nat.pow_add]
  calc
    2 ^ (m / n).log2 * 2 ^ n.log2 ≤ m / n * n :=
      Nat.mul_le_mul (Nat.log2_self_le (Nat.ne_of_gt some))
        (Nat.log2_self_le (Nat.ne_of_gt divisor))
    _ ≤ m := whole

theorem div_within {l e : Int} {m : Nat} {pos : 0 < m} (within : Within k x)
    (least : l ≤ m.log2 + e) (above : -1074 < k - l) :
    Within (k - l + 1) (UnpackedFloat.div format x (.finite .positive m e pos)) := by
  rcases x with _ | _ | sign | ⟨_ | _, m₁, e₁, pos₁⟩
  · exact within.elim
  · exact within.elim
  · trivial
  · exact within.elim
  · change m₁.log2 + e₁ < k at within
    change Within _ (roundWithAccuracy format .positive _ _ _)
    apply roundWithAccuracy_within _ _ above
    simp only [Format.targetExponent, totalExponent, Format.mantissaBits,
      Format.minExponent]
    generalize lowered : (e₁ - e - min (e₁ - e) _).toNat = s
    rcases Nat.eq_zero_or_pos (m₁ <<< s / m) with none | some
    · rw [none]
      simp
      omega
    · have bits := log2_div_le some
      rw [log2_shiftLeft pos₁] at bits
      omega

theorem mul_one_within (within : Within k x) (above : -1074 < k) (pos) :
    Within (k + 1) (UnpackedFloat.mul format x (.finite .positive (2 ^ 52) (-52) pos)) := by
  rcases x with _ | _ | sign | ⟨_ | _, m, e, pos'⟩
  · exact within.elim
  · exact within.elim
  · trivial
  · exact within.elim
  · change m.log2 + e < k at within
    apply roundWithAccuracy_within _ _ above
    rw [log2_mul_two_pow pos']
    omega

theorem round_within {n : Nat} (positive : 0 < n) (small : n.log2 < k) :
    Within (k + 1) (UnpackedFloat.round format .positive n 0) := by
  simp only [UnpackedFloat.round, decreaseExponent]
  apply roundWithAccuracy_within _ _ (by omega)
  rw [log2_shiftLeft positive]
  omega

theorem ofNat_positive {n : Nat} (positive : 0 < n) (small : n < 2 ^ 53) :
    ∃ m e pos, (Float.ofNat n).toModel.unpack = .finite .positive m e pos ∧
      n.log2 ≤ m.log2 + e := by
  have bits : n.log2 < 53 := (Nat.log2_lt (Nat.ne_of_gt positive)).mpr small
  have rounded := round_within (k := 53) positive (by omega)
  have packed := pack_within rounded (by decide) (by decide)
  have within := pack_within (mul_one_within packed (by decide) (by decide)) (by decide) (by decide)
  rw [← toModel_ofNat positive small] at within
  rcases ofNat_normal positive with ⟨sign, m, e, pos, same, full, least, _⟩ | ⟨large, _⟩
  · rw [same] at within
    cases sign with
    | negative => exact within.elim
    | positive => exact ⟨m, e, pos, same, by omega⟩
  · omega

end Arithmetic

section Fields

variable (bits : BitVec 64)

theorem toNat_unpackExponent :
    (@unpackExponent format bits).toNat = bits.toNat / 2 ^ 52 % 2 ^ 11 := by
  simp [unpackExponent, Nat.shiftRight_eq_div_pow]

theorem unpackExponent_eq_ones_iff :
    @unpackExponent format bits = -1#11 ↔ bits.toNat / 2 ^ 52 % 2 ^ 11 = 2047 := by
  rw [← BitVec.toNat_inj, toNat_unpackExponent]
  rfl

theorem unpackExponent_eq_zero_iff :
    @unpackExponent format bits = 0#11 ↔ bits.toNat / 2 ^ 52 % 2 ^ 11 = 0 := by
  rw [← BitVec.toNat_inj, toNat_unpackExponent]
  rfl

theorem toNat_unpackMantissa :
    (@unpackMantissa format bits).toNat = bits.toNat % 2 ^ 52 := by
  simp [unpackMantissa]

theorem toNat_append_unpackMantissa :
    (1#1 ++ @unpackMantissa format bits).toNat = 2 ^ 52 + bits.toNat % 2 ^ 52 := by
  rw [BitVec.toNat_append, ← Nat.shiftLeft_add_eq_or_of_lt (BitVec.isLt _), toNat_unpackMantissa]
  rfl

theorem unpackMantissa_eq_zero_iff :
    @unpackMantissa format bits = 0#52 ↔ bits.toNat % 2 ^ 52 = 0 := by
  rw [← BitVec.toNat_inj, toNat_unpackMantissa]
  rfl

def isNegative : Sign → Bool
  | .negative => true
  | .positive => false

theorem isNegative_unpackSign :
    isNegative (Sign.ofBitVec (@unpackSign format bits)) = decide (2 ^ 63 ≤ bits.toNat) := by
  have read : (@unpackSign format bits).toNat = bits.toNat / 2 ^ 63 % 2 := by
    change (bits.toNat >>> 63) % 2 ^ 1 = _
    rw [Nat.shiftRight_eq_div_pow]
  have wide := bits.isLt
  have zero : @unpackSign format bits = 0#1 ↔ bits.toNat / 2 ^ 63 % 2 = 0 := by
    rw [← BitVec.toNat_inj, read]
    rfl
  rw [Sign.ofBitVec]
  split
  · next positive =>
    rw [zero] at positive
    exact (decide_eq_false (by omega)).symm
  · next negative =>
    rw [zero] at negative
    exact (decide_eq_true (by omega)).symm

end Fields

section Seconds

def parts : UnpackedFloat → Binary64
  | .notANumber => .nan
  | .infinity sign => .infinite (isNegative sign)
  | .zero sign => .finite (isNegative sign) 0 (-1074)
  | .finite sign m e _ => .finite (isNegative sign) m e

theorem ofFloat_eq (x : Float) : Binary64.ofFloat x = parts x.toModel.unpack := by
  rcases x with ⟨⟨⟨bits⟩, valid⟩⟩
  have word : (Float.toBits ⟨⟨⟨bits⟩, valid⟩⟩).toNat = bits.toNat := rfl
  have bias : (format.exponentBias : Int) + format.mantissaBitsWithoutImplicit = 1075 := by decide
  have sign := isNegative_unpackSign bits
  change _ = parts (UnpackedFloat.unpack format bits)
  unfold UnpackedFloat.unpack
  simp only [Binary64.ofFloat, word, Nat.pow_eq, unpackExponent_eq_ones_iff bits,
    unpackExponent_eq_zero_iff bits, unpackMantissa_eq_zero_iff bits, toNat_unpackExponent bits,
    bias]
  split
  · split <;> simp only [parts, sign]
  split
  · next subnormal =>
    split
    · next zero => simp only [parts, sign, zero]
    · simp only [parts, sign, toNat_unpackMantissa bits, subnormal]
      rfl
  · simp only [parts, sign, toNat_append_unpackMantissa bits]

theorem ofFloat_within {x : Float} (within : Within k x.toModel.unpack) :
    ∃ negative m e, Binary64.ofFloat x = .finite negative m e ∧ (negative = true → m = 0) ∧
      (0 < m → m.log2 + e < k) := by
  rw [ofFloat_eq]
  generalize x.toModel.unpack = y at *
  rcases y with _ | _ | sign | ⟨_ | _, m, e, pos⟩
  · exact within.elim
  · exact within.elim
  · exact ⟨_, 0, -1074, rfl, fun _ => rfl, fun some => absurd some (Nat.lt_irrefl 0)⟩
  · exact within.elim
  · exact ⟨false, m, e, rfl, nofun, fun _ => within⟩

theorem mul_two_pow_lt {m : Nat} {e : Int} (bits : Nat) (below : 0 < m → m.log2 + e < bits) :
    m * 2 ^ e.toNat < 2 ^ bits * 2 ^ (-e).toNat := by
  rcases Nat.eq_zero_or_pos m with rfl | positive
  · rw [Nat.zero_mul]
    exact Nat.mul_pos (Nat.two_pow_pos _) (Nat.two_pow_pos _)
  · have exponent : m.log2 + 1 + e.toNat ≤ bits + (-e).toNat := by
      have := below positive
      omega
    calc
      m * 2 ^ e.toNat < 2 ^ (m.log2 + 1) * 2 ^ e.toNat :=
        Nat.mul_lt_mul_of_pos_right Nat.lt_log2_self (Nat.two_pow_pos _)
      _ = 2 ^ (m.log2 + 1 + e.toNat) := (Nat.pow_add ..).symm
      _ ≤ 2 ^ (bits + (-e).toNat) := Nat.pow_le_pow_right (by decide) exponent
      _ = 2 ^ bits * 2 ^ (-e).toNat := Nat.pow_add ..

theorem secondsToNanos?_isSome {x : Float} (within : Within 64 x.toModel.unpack) :
    (secondsToNanos? x).isSome := by
  obtain ⟨negative, m, e, read, sign, below⟩ := ofFloat_within within
  have nonneg : ¬ (negative && m != 0) = true := by
    cases negative with
    | false => exact Bool.noConfusion
    | true => simp [sign rfl]
  have fits : ¬ UInt64.size * 1_000_000_000 * Nat.pow 2 (-e).toNat ≤
      m * Nat.pow 2 e.toNat * 1_000_000_000 := by
    have least : m * Nat.pow 2 e.toNat < UInt64.size * Nat.pow 2 (-e).toNat :=
      mul_two_pow_lt 64 below
    rw [Nat.mul_right_comm, Nat.not_le]
    exact Nat.mul_lt_mul_of_pos_right least (by decide)
  rw [secondsToNanos?, read]
  dsimp only [Binary64.ratio]
  rw [if_neg nonneg]
  split
  · contradiction
  · rfl

end Seconds

section Order

theorem le_iff {a b : Float} : a ≤ b ↔ a.toModel.unpack.le b.toModel.unpack = true := by
  change decide (_ = true) = true ↔ _
  exact decide_eq_true_iff

theorem nonneg_trans {a b : Float} (nonneg : 0 ≤ a) (le : a ≤ b) : 0 ≤ b := by
  rw [le_iff] at *
  change (UnpackedFloat.zero .positive).le _ = true at nonneg ⊢
  generalize a.toModel.unpack = x at *
  generalize b.toModel.unpack = y at *
  rcases x with (_ | _) | _ | _ | ⟨_ | _, m, e, _⟩ <;>
    rcases y with (_ | _) | _ | _ | ⟨_ | _, m', e', _⟩ <;>
    first | rfl | exact Bool.noConfusion nonneg | exact Bool.noConfusion le

/-- Neither negative nor infinite, and with a last bit of weight at most `2 ^ top`. -/
def UpTo (top : Int) : UnpackedFloat → Prop
  | .zero _ => True
  | .finite .positive _ e _ => e ≤ top
  | _ => False

theorem UpTo.of_le {top : Int} {a b : Float} (upTo : UpTo top b.toModel.unpack) (nonneg : 0 ≤ a)
    (le : a ≤ b) : UpTo top a.toModel.unpack := by
  rw [le_iff] at *
  change (UnpackedFloat.zero .positive).le _ = true at nonneg
  generalize a.toModel.unpack = x at *
  generalize b.toModel.unpack = y at *
  rcases x with (_ | _) | _ | _ | ⟨_ | _, m, e, _⟩ <;>
    rcases y with (_ | _) | _ | _ | ⟨_ | _, m', e', _⟩ <;>
    first
      | trivial
      | exact upTo.elim
      | exact Bool.noConfusion nonneg
      | exact Bool.noConfusion le
      | skip
  -- Both are positive, and the exponents are compared first.
  have lighter : e ≤ e' := by
    change ((compare e e').then (compare m m')).isLE = true at le
    rcases Ordering.isLE_then_iff_or.mp le with less | ⟨same, _⟩
    · exact Int.le_of_lt (Int.compare_eq_lt.mp less)
    · exact Int.le_of_eq (Int.compare_eq_eq.mp same)
  exact Int.le_trans lighter upTo

theorem UpTo.within {top : Int} {a : Float} (upTo : UpTo top a.toModel.unpack) :
    Within (top + 53) a.toModel.unpack := by
  rcases read : a.toModel.unpack with _ | _ | sign | ⟨_ | _, m, e, pos⟩ <;> rw [read] at upTo
  · exact upTo.elim
  · exact upTo.elim
  · trivial
  · exact upTo.elim
  · have bits := log2_le_of_unpack read
    change e ≤ top at upTo
    change m.log2 + e < top + 53
    omega

theorem not_nan_of_le {a b : Float} (le : a ≤ b) : a.isNaN = false ∧ b.isNaN = false := by
  rw [le_iff] at le
  change a.toModel.unpack.isNaN = false ∧ b.toModel.unpack.isNaN = false
  generalize a.toModel.unpack = x at *
  generalize b.toModel.unpack = y at *
  rcases x with (_ | _) | _ | _ | ⟨_ | _, m, e, _⟩ <;>
    rcases y with (_ | _) | _ | _ | ⟨_ | _, m', e', _⟩ <;>
    first | exact ⟨rfl, rfl⟩ | exact Bool.noConfusion le

theorem le_self {a : Float} (number : a.isNaN = false) : a ≤ a := by
  rw [le_iff]
  change a.toModel.unpack.isNaN = false at number
  generalize a.toModel.unpack = x at *
  rcases x with (_ | _) | _ | _ | ⟨_ | _, m, e, _⟩ <;>
    first | rfl | exact Bool.noConfusion number | skip
  all_goals simp [UnpackedFloat.le, UnpackedFloat.compare]

theorem le_of_not_lt {a b : Float} (left : a.isNaN = false) (right : b.isNaN = false)
    (notLess : ¬ b < a) : a ≤ b :=
  Decidable.byContradiction fun beyond => notLess ((not_le_iff_lt left right).mp beyond)

theorem le_larger {b : Float} (number : b.isNaN = false) (a : Float) : b ≤ larger a b := by
  unfold larger
  split
  · exact le_self number
  next known =>
  split
  · exact le_self number
  next notLess => exact le_of_not_lt number (Bool.eq_false_of_not_eq_true known) notLess

theorem smaller_le {b : Float} (number : b.isNaN = false) (a : Float) : smaller a b ≤ b := by
  unfold smaller
  split
  · exact le_self number
  next known =>
  split
  · exact le_self number
  next notLess => exact le_of_not_lt (Bool.eq_false_of_not_eq_true known) number notLess

theorem le_smaller {a b c : Float} (left : c ≤ a) (right : c ≤ b) : c ≤ smaller a b := by
  unfold smaller
  split
  · exact right
  split
  · exact right
  · exact left

/-- Whatever is clamped to a range comes to lie in it, and be it no number. -/
theorem contains_clamp {r : OptionRange} (ordered : r.min ≤ r.max) (v : Float) :
    r.contains (r.clamp v) := by
  obtain ⟨low, high⟩ := not_nan_of_le ordered
  have least : r.min ≤ r.clamp v := le_smaller (le_larger low v) ordered
  have most : r.clamp v ≤ r.max := smaller_le high (larger v r.min)
  exact decide_eq_true ⟨least, most⟩

end Order

section Spans

theorem unpack_thousand :
    (1000.0 : Float).toModel.unpack = .finite .positive (125 * 2 ^ 46) (-43) (by decide) := rfl

theorem unpack_million :
    (1000000.0 : Float).toModel.unpack = .finite .positive (15625 * 2 ^ 39) (-33) (by decide) := rfl

theorem upTo_trillion : UpTo (-13) (1e12 : Float).toModel.unpack := Int.le_refl (-13)

theorem Within.div {l e : Int} {m : Nat} {pos : 0 < m} {a b : Float}
    (within : Within k a.toModel.unpack) (read : b.toModel.unpack = .finite .positive m e pos)
    (least : l ≤ m.log2 + e) (above : l ≤ k) (finite : k ≤ l + 971) :
    Within (k - l + 1) (a / b).toModel.unpack := by
  refine pack_within (x := UnpackedFloat.div format a.toModel.unpack b.toModel.unpack) ?_
    (by omega) (by omega)
  rw [read]
  exact div_within within least (by omega)

theorem isSome_of_micros {v : Float} (upTo : UpTo (-13) v.toModel.unpack) :
    (secondsToNanos? (v / 1000000.0)).isSome := by
  have seconds := upTo.within.div (l := 19) unpack_million (by decide) (by decide) (by decide)
  exact secondsToNanos?_isSome (seconds.mono (by decide))

theorem isSome_of_rate {profile : StreamProfile} (rate : profile.fps ≤ 10 ^ 9) :
    (secondsToNanos? (profile.frameTimeMs / 1000.0)).isSome := by
  obtain ⟨m, e, pos, read, least⟩ :=
    ofNat_positive (n := max profile.fps 1) (by omega) (by omega)
  have thousand : Within 10 (1000.0 : Float).toModel.unpack := by
    rw [unpack_thousand, within_finite]
    exact ⟨rfl, by decide⟩
  have millis : Within 11 profile.frameTimeMs.toModel.unpack :=
    thousand.div (l := 0) read (by omega) (by decide) (by decide)
  have seconds := millis.div (l := 9) unpack_thousand (by decide) (by decide) (by decide)
  exact secondsToNanos?_isSome (seconds.mono (by decide))

end Spans

end ExposureBench.Magnitude
