import ExposureBench.Statistics.Timing
import Mathlib

/-!
Rates of 64-bit counts are numbers: the counts are converted without overflow, and the divisor is
never zero.
-/

namespace ExposureBench.Rate

open Float.Model Float.Model.UnpackedFloat

abbrev format : Format := .binary64

theorem log2_mul_two_pow {m : Nat} (positive : 0 < m) (k : Nat) :
    (m * 2 ^ k).log2 = m.log2 + k := by
  have low : 2 ^ m.log2 ≤ m := Nat.log2_self_le (Nat.ne_of_gt positive)
  have high : m < 2 ^ (m.log2 + 1) := Nat.lt_log2_self
  have scaled : m * 2 ^ k ≠ 0 := Nat.ne_of_gt (Nat.mul_pos positive (Nat.two_pow_pos k))
  rw [Nat.log2_eq_iff scaled]
  constructor
  · calc
      2 ^ (m.log2 + k) = 2 ^ m.log2 * 2 ^ k := Nat.pow_add ..
      _ ≤ m * 2 ^ k := Nat.mul_le_mul_right _ low
  · calc
      m * 2 ^ k < 2 ^ (m.log2 + 1) * 2 ^ k :=
        Nat.mul_lt_mul_of_pos_right high (Nat.two_pow_pos k)
      _ = 2 ^ (m.log2 + k + 1) := by rw [← Nat.pow_add, Nat.add_right_comm]

theorem pos_of_log2 {m : Nat} (bits : 0 < m.log2) : 0 < m := by
  rcases Nat.eq_zero_or_pos m with rfl | positive
  · simp at bits
  · exact positive

theorem log2_shiftLeft {m : Nat} (positive : 0 < m) (k : Nat) : (m <<< k).log2 = m.log2 + k := by
  rw [Nat.shiftLeft_eq, log2_mul_two_pow positive]

theorem log2_div_two_pow (m k : Nat) : (m / 2 ^ k).log2 = m.log2 - k := by
  rw [Nat.log2_eq_log_two, Nat.log2_eq_log_two, Nat.log_div_base_pow]

theorem mantissa_shiftRight (em : ExtendedMantissa) (n : Nat) :
    (em >>> n).mantissa = em.mantissa / 2 ^ n := by
  change (n.repeat ExtendedMantissa.shiftRightOne em).mantissa = _
  induction n with
  | zero => exact (Nat.div_one _).symm
  | succ n ih =>
    rw [Nat.repeat, Nat.pow_succ, ← Nat.div_div_eq_div_mul, ← ih]
    rfl

theorem mantissa_ofMantissaAndAccuracy (m : Nat) (accuracy : Accuracy) :
    (ExtendedMantissa.ofMantissaAndAccuracy m accuracy).mantissa = m := by
  unfold ExtendedMantissa.ofMantissaAndAccuracy
  split <;> rfl

theorem roundedMantissa_bounds (em : ExtendedMantissa) :
    em.mantissa ≤ em.roundedMantissa ∧ em.roundedMantissa ≤ em.mantissa + 1 := by
  rcases em with ⟨m, _ | _, _ | _⟩ <;>
    simp only [ExtendedMantissa.roundedMantissa, ExtendedMantissa.accuracy,
      Accuracy.roundToNearestEven] <;> omega

theorem shiftToTargetExponent_normal {m : Nat} {e : Int} (accuracy : Accuracy) (wide : 52 ≤ m.log2)
    (normal : -1022 ≤ m.log2 + e) :
    (shiftToTargetExponent format m e accuracy).1.mantissa = m / 2 ^ (m.log2 - 52) ∧
      (shiftToTargetExponent format m e accuracy).2 = m.log2 + e - 52 := by
  have target : format.targetExponent (totalExponent m e) = m.log2 + e - 52 := by
    simp only [Format.targetExponent, totalExponent, Format.mantissaBits, Format.minExponent]
    omega
  have amount : ((m.log2 : Int) + e - 52 - e).toNat = m.log2 - 52 := by omega
  simp only [shiftToTargetExponent, shiftToExponent, target, amount, mantissa_shiftRight,
    mantissa_ofMantissaAndAccuracy, true_and]
  omega

/-- Finite and of 53 significant bits, the last of them of weight `2 ^ e` for an `e` from `low` to
`high`. -/
def Normal (low high : Int) (x : UnpackedFloat) : Prop :=
  ∃ sign m e pos, x = .finite sign m e pos ∧ m.log2 = 52 ∧ low ≤ e ∧ e ≤ high

theorem Normal.mono {low high low' high' : Int} {x : UnpackedFloat} (normal : Normal low high x)
    (lower : low' ≤ low) (higher : high ≤ high') :
    Normal low' high' x := by
  obtain ⟨sign, m, e, pos, same, bits, least, most⟩ := normal
  exact ⟨sign, m, e, pos, same, bits, by omega, by omega⟩

theorem roundWithAccuracy_finite {m : Nat} {e : Int} (sign : Sign) (accuracy : Accuracy)
    (wide : 52 ≤ m.log2) (normal : -1022 ≤ m.log2 + e) :
    ∃ m' e' pos, roundWithAccuracy format sign m e accuracy = .finite sign m' e' pos ∧
      m'.log2 = 52 ∧ m.log2 + e - 52 ≤ e' ∧ e' ≤ m.log2 + e - 51 ∧
      (shiftToTargetExponent format m e accuracy).1.roundedMantissa =
        m' * 2 ^ (e' - (m.log2 + e - 52)).toNat := by
  obtain ⟨first, exponent⟩ := shiftToTargetExponent_normal accuracy wide normal
  rcases shifted : shiftToTargetExponent format m e accuracy with ⟨em, e₁⟩
  rw [shifted] at first exponent
  dsimp only at first exponent ⊢
  have cut : em.mantissa.log2 = 52 := by
    rw [first, log2_div_two_pow]
    omega
  obtain ⟨low, high⟩ := (Nat.log2_eq_iff (Nat.ne_of_gt (pos_of_log2 (by omega)))).mp cut
  obtain ⟨least, most⟩ := roundedMantissa_bounds em
  -- Rounding up can take a bit more, which the second shift cuts again: all cut bits are zero.
  have rounded : em.roundedMantissa.log2 = 52 ∨
      em.roundedMantissa.log2 = 53 ∧ em.roundedMantissa = 2 ^ 52 * 2 := by
    have nonzero : em.roundedMantissa ≠ 0 := by omega
    rcases Nat.lt_or_ge em.roundedMantissa (2 ^ 53) with below | above
    · exact .inl ((Nat.log2_eq_iff nonzero).mpr ⟨by omega, below⟩)
    · exact .inr ⟨(Nat.log2_eq_iff nonzero).mpr ⟨above, by omega⟩, by omega⟩
  have wide' : 52 ≤ em.roundedMantissa.log2 := by omega
  have normal' : -1022 ≤ em.roundedMantissa.log2 + e₁ := by omega
  obtain ⟨second, exponent'⟩ := shiftToTargetExponent_normal .exact wide' normal'
  have final : (em.roundedMantissa / 2 ^ (em.roundedMantissa.log2 - 52)).log2 = 52 := by
    rw [log2_div_two_pow]
    omega
  have pos :=
    pos_of_log2 (by omega : 0 < (em.roundedMantissa / 2 ^ (em.roundedMantissa.log2 - 52)).log2)
  have amount : (em.roundedMantissa.log2 + e₁ - 52 - (m.log2 + e - 52)).toNat =
      em.roundedMantissa.log2 - 52 := by
    omega
  refine ⟨_, em.roundedMantissa.log2 + e₁ - 52, pos, ?_, final, by omega, by omega, ?_⟩
  · simp only [roundWithAccuracy, shifted, second, exponent', dif_neg (Nat.ne_of_gt pos)]
  · rw [amount]
    rcases rounded with kept | ⟨carried, rounded⟩
    · simp [kept]
    · rw [carried, rounded]
      norm_num

theorem roundWithAccuracy_normal {m : Nat} {e : Int} (sign : Sign) (accuracy : Accuracy)
    (wide : 52 ≤ m.log2) (normal : -1022 ≤ m.log2 + e) :
    Normal (m.log2 + e - 52) (m.log2 + e - 51)
      (roundWithAccuracy format sign m e accuracy) := by
  obtain ⟨m', e', pos, same, bits, least, most, -⟩ :=
    roundWithAccuracy_finite sign accuracy wide normal
  exact ⟨sign, m', e', pos, same, bits, least, most⟩

theorem exponent_ne_ones {biased : Nat} (fits : biased < 2047) :
    BitVec.ofNat 11 biased ≠ -1#11 := by
  intro same
  have read := congrArg BitVec.toNat same
  rw [BitVec.toNat_ofNat, Nat.mod_eq_of_lt (by omega)] at read
  have ones : (-1#11).toNat = 2047 := by decide
  omega

theorem toNat_append_one {m : Nat} (bits : m.log2 = 52) : (1#1 ++ BitVec.ofNat 52 m).toNat = m := by
  obtain ⟨low, high⟩ := (Nat.log2_eq_iff (Nat.ne_of_gt (pos_of_log2 (by omega)))).mp bits
  have rest : (BitVec.ofNat 52 m).toNat = m - 2 ^ 52 := by
    rw [BitVec.toNat_ofNat]
    omega
  rw [BitVec.toNat_append, ← Nat.shiftLeft_add_eq_or_of_lt (BitVec.isLt _), rest]
  change 1 <<< 52 + _ = m
  omega

section Packing

variable {sign : Sign} {m : Nat} {e : Int} {pos : 0 < m}

theorem biased_eq {biased : Nat} (weight : (biased : Int) = e + 1075) :
    (e + format.exponentBias + format.mantissaBitsWithoutImplicit).toNat = biased := by
  change (e + (1023 : Nat) + (52 : Nat)).toNat = biased
  omega

theorem unpack_pack_finite (bits : m.log2 = 52) (least : -1074 ≤ e) (most : e ≤ 971) :
    (pack (.finite sign m e pos)).unpack = .finite sign m e pos := by
  change UnpackedFloat.unpack format (UnpackedFloat.pack format _) = _
  obtain ⟨biased, weight⟩ : ∃ biased : Nat, (biased : Int) = e + 1075 :=
    ⟨(e + 1075).toNat, by omega⟩
  have packed : UnpackedFloat.pack format (.finite sign m e pos) =
      packComponents format sign (.ofNat 11 biased) (.ofNat 52 m) := by
    have within : ¬ 2 ^ format.exponentBits ≤ biased + 1 := by
      change ¬ 2 ^ 11 ≤ biased + 1
      omega
    have full : m.log2 + 1 = format.mantissaBits := by rw [bits]; rfl
    simp only [UnpackedFloat.pack, biased_eq weight, if_neg within, if_pos full]
  have read : (BitVec.ofNat 11 biased).toNat = biased := by
    rw [BitVec.toNat_ofNat, Nat.mod_eq_of_lt (by omega)]
  have some : BitVec.ofNat 11 biased ≠ 0#11 := by
    intro none
    have := congrArg BitVec.toNat none
    have : (0#11).toNat = 0 := rfl
    omega
  have bias : (format.exponentBias : Int) + format.mantissaBitsWithoutImplicit = 1075 := by decide
  have kept : Sign.ofBitVec sign.toBitVec = sign := by cases sign <;> rfl
  have exponent : (biased : Int) - 1075 = e := by omega
  rw [packed, UnpackedFloat.unpack]
  simp only [unpackMantissa_packComponents, unpackExponent_packComponents,
    unpackSign_packComponents, if_neg (exponent_ne_ones (by omega : biased < 2047)), if_neg some,
    toNat_append_one bits, read, bias, kept, exponent]

theorem unpack_pack_large (large : 971 < e) :
    (pack (.finite sign m e pos)).unpack = .infinity sign := by
  change UnpackedFloat.unpack format (UnpackedFloat.pack format _) = _
  obtain ⟨biased, weight⟩ : ∃ biased : Nat, (biased : Int) = e + 1075 :=
    ⟨(e + 1075).toNat, by omega⟩
  have packed : UnpackedFloat.pack format (.finite sign m e pos) = packedInfinity format sign := by
    have beyond : 2 ^ format.exponentBits ≤ biased + 1 := by
      change 2 ^ 11 ≤ biased + 1
      omega
    simp only [UnpackedFloat.pack, biased_eq weight, if_pos beyond]
  have kept : Sign.ofBitVec sign.toBitVec = sign := by cases sign <;> rfl
  rw [packed, packedInfinity, UnpackedFloat.unpack]
  simp only [unpackMantissa_packComponents, unpackExponent_packComponents,
    unpackSign_packComponents, if_true, kept]
  rfl

end Packing

theorem unpack_pack_normal {low high : Int} {x : UnpackedFloat} (normal : Normal low high x)
    (small : -1074 ≤ low) :
    Normal low high (pack x).unpack ∨ 971 < high ∧ ∃ sign, (pack x).unpack = .infinity sign := by
  obtain ⟨sign, m, e, pos, rfl, bits, least, most⟩ := normal
  rcases lt_or_ge 971 e with large | fits
  · exact .inr ⟨by omega, sign, unpack_pack_large large⟩
  · rw [unpack_pack_finite bits (by omega) fits]
    exact .inl ⟨sign, m, e, pos, rfl, bits, least, most⟩

theorem isNaN_unpack_packComponents (sign : Sign) {exponent : BitVec 11} (m : BitVec 52)
    (finite : exponent ≠ -1#11) :
    (UnpackedFloat.unpack format (packComponents format sign exponent m)).isNaN = false := by
  rw [UnpackedFloat.unpack]
  simp only [unpackMantissa_packComponents, unpackExponent_packComponents, if_neg finite]
  split
  · split <;> rfl
  · rfl

theorem isNaN_pack (x : UnpackedFloat) : (pack x).isNaN = x.isNaN := by
  change (UnpackedFloat.unpack format (UnpackedFloat.pack format x)).isNaN = _
  fun_cases UnpackedFloat.pack format x with
  | case1 => decide
  | case2 sign => cases sign <;> decide
  | case3 sign => cases sign <;> decide
  | case4 sign =>
    change _ = false
    cases sign <;> decide
  | case5 sign m e pos bits biased fits full =>
    have small : biased < 2047 := by
      have top : 2 ^ format.exponentBits = 2048 := by decide
      omega
    exact isNaN_unpack_packComponents sign _ (exponent_ne_ones small)
  | case6 sign m e pos => exact isNaN_unpack_packComponents sign _ (by decide)

theorem compare_swap (x y : UnpackedFloat) : y.compare x = (x.compare y).map Ordering.swap := by
  have weighed : ∀ (e e' : Int) (m m' : Nat),
      (compare e' e).then (compare m' m) = ((compare e e').then (compare m m')).swap := by
    intro e e' m m'
    rw [Ordering.swap_then, ← Std.OrientedCmp.eq_swap, ← Std.OrientedCmp.eq_swap]
  rcases x with (_ | _) | _ | _ | ⟨_ | _, m, e, _⟩ <;>
    rcases y with (_ | _) | _ | _ | ⟨_ | _, m', e', _⟩ <;>
    first
      | rfl
      | exact congrArg some (weighed _ _ _ _)
      | exact congrArg (fun o => some o.swap) (weighed _ _ _ _)

theorem compare_isSome {x y : UnpackedFloat} (left : x.isNaN = false) (right : y.isNaN = false) :
    ∃ order, x.compare y = some order := by
  rcases x with (_ | _) | _ | _ | ⟨_ | _, m, e, _⟩ <;>
    rcases y with (_ | _) | _ | _ | ⟨_ | _, m', e', _⟩ <;>
    first | exact ⟨_, rfl⟩ | exact Bool.noConfusion left | exact Bool.noConfusion right

theorem not_le_iff_lt {a b : Float} (left : a.isNaN = false) (right : b.isNaN = false) :
    ¬ a ≤ b ↔ b < a := by
  obtain ⟨order, compared⟩ :=
    compare_isSome (x := a.toModel.unpack) (y := b.toModel.unpack) left right
  have le : a ≤ b ↔ order.isLE := by
    change decide (a.toModel.unpack.le b.toModel.unpack = true) = true ↔ _
    simp [UnpackedFloat.le, compared]
  have lt : b < a ↔ order.swap = .lt := by
    change decide (b.toModel.unpack.lt a.toModel.unpack = true) = true ↔ _
    simp [UnpackedFloat.lt, compare_swap a.toModel.unpack, compared]
  rw [le, lt]
  cases order <;> decide

theorem isNaN_abs (x : Float) : x.abs.isNaN = x.isNaN := by
  change (pack x.toModel.unpack.abs).isNaN = x.toModel.unpack.isNaN
  rw [isNaN_pack]
  cases x.toModel.unpack <;> rfl

theorem not_lt_iff {a b : Float} (known : b.isNaN = false) : ¬ b < a ↔ a ≤ b ∨ a.isNaN := by
  rcases number : a.isNaN with _ | _
  · rw [← not_le_iff_lt number known]
    simp
  · have unordered : ¬ b < a := by
      change ¬ decide (b.toModel.unpack.lt a.toModel.unpack = true) = true
      change a.toModel.unpack.isNaN = true at number
      generalize a.toModel.unpack = x at *
      rcases x with _ | _ | _ | _ <;> cases number
      rcases b.toModel.unpack with _ | _ | _ | _ <;> simp [UnpackedFloat.lt, UnpackedFloat.compare]
    simp [unordered]

theorem round_ofNat {n : Nat} (positive : 0 < n) (small : n < 2 ^ 53) :
    UnpackedFloat.round format .positive n 0 =
      roundWithAccuracy format .positive (n <<< (52 - n.log2)) (n.log2 - 52) .exact := by
  have bits : n.log2 < 53 := (Nat.log2_lt (Nat.ne_of_gt positive)).mpr small
  have target : format.targetExponent (totalExponent n 0) = n.log2 - 52 := by
    simp only [Format.targetExponent, totalExponent, Format.mantissaBits, Format.minExponent]
    omega
  have amount : (0 - ((n.log2 : Int) - 52)).toNat = 52 - n.log2 := by omega
  have exponent : 0 - ((52 - n.log2 : Nat) : Int) = n.log2 - 52 := by omega
  simp only [UnpackedFloat.round, decreaseExponent, target, amount, exponent]

theorem log2_filled {n : Nat} (positive : 0 < n) (small : n < 2 ^ 53) :
    (n <<< (52 - n.log2)).log2 = 52 := by
  have bits : n.log2 < 53 := (Nat.log2_lt (Nat.ne_of_gt positive)).mpr small
  rw [log2_shiftLeft positive]
  omega

theorem round_normal {n : Nat} (positive : 0 < n) (small : n < 2 ^ 53) :
    Normal (n.log2 - 52) (n.log2 - 51) (UnpackedFloat.round format .positive n 0) := by
  have wide := log2_filled positive small
  rw [round_ofNat positive small]
  apply (roundWithAccuracy_normal .positive .exact (by omega) (by omega)).mono <;> omega

theorem mul_one_normal {low high : Int} {x : UnpackedFloat} (normal : Normal low high x)
    (above : -1074 ≤ low) {pos} :
    Normal low (high + 1) (UnpackedFloat.mul format x (.finite .positive (2 ^ 52) (-52) pos)) := by
  obtain ⟨sign, m, e, pos', rfl, bits, least, most⟩ := normal
  have product : (m * 2 ^ 52).log2 = 104 := by rw [log2_mul_two_pow pos', bits]
  apply (roundWithAccuracy_normal _ .exact (by omega) (by omega)).mono <;> omega

theorem unpack_one : (Float.ofBits 0x3FF0000000000000).toModel.unpack = .finite .positive (2 ^ 52)
    (-52) (by decide) :=
  rfl

theorem ofUInt64_eq {n : Nat} (positive : 0 < n) (small : n < 2 ^ 53) :
    UnpackedFloat.ofUInt64 format n.toUInt64 = UnpackedFloat.round format .positive n 0 := by
  have word : n.toUInt64.toNat = n := UInt64.toNat_ofNat_of_lt' (Nat.lt_trans small (by decide))
  have above : compare (n : Int) 0 = .gt := Int.compare_eq_gt.mpr (by omega)
  simp only [UnpackedFloat.ofUInt64, UnpackedFloat.ofNat, UnpackedFloat.ofInt,
    UnpackedFloat.normalize, word, above, Int.toNat_natCast]

theorem toModel_ofNat {n : Nat} (positive : 0 < n) (small : n < 2 ^ 53) :
    (Float.ofNat n).toModel =
      pack (UnpackedFloat.mul format (pack (UnpackedFloat.round format .positive n 0)).unpack
        (.finite .positive (2 ^ 52) (-52) (by decide))) := by
  change (Float.ofScientific n false 0).toModel = _
  rw [← ofUInt64_eq positive small, ← unpack_one]
  simp only [Float.ofScientific, small, Nat.zero_le, and_self, dif_pos]
  rfl

theorem toModel_ofNat_of_wide {n : Nat} (wide : ¬ n < 2 ^ 53) :
    (Float.ofNat n).toModel = pack (roundWithAccuracy format .positive (n <<< 53) (-53) .exact) := by
  have nonzero : n ≠ 0 := by omega
  have exponent : ¬ (0 : Int) > 2 ^ format.exponentBits := by decide
  have above : ¬ (0 : Int) < -((2 ^ format.exponentBits : Int) + n.log2) := by
    have : (2 ^ format.exponentBits : Int) = 2048 := by decide
    omega
  change (Float.ofScientific n false 0).toModel = _
  simp only [Float.ofScientific, wide, false_and, dif_neg, not_false_iff]
  change pack (UnpackedFloat.ofScientific format n 0) = _
  rw [UnpackedFloat.ofScientific, dif_neg nonzero, if_neg exponent, if_neg above,
    if_pos (Int.le_refl 0), ← Nat.mul_one (n <<< 53)]
  rfl

/-- A count is converted to a normal float, or to an infinity from far above any 64-bit count. -/
theorem ofNat_normal {n : Nat} (positive : 0 < n) :
    Normal (n.log2 - 52) (n.log2 - 50) (Float.ofNat n).toModel.unpack ∨
      971 < (n.log2 : Int) - 50 ∧ ∃ sign, (Float.ofNat n).toModel.unpack = .infinity sign := by
  by_cases small : n < 2 ^ 53
  · have bits : n.log2 < 53 := (Nat.log2_lt (Nat.ne_of_gt positive)).mpr small
    rw [toModel_ofNat positive small]
    rcases unpack_pack_normal (round_normal positive small) (by omega) with kept | ⟨large, _⟩
    · apply unpack_pack_normal _ (by omega)
      exact (mul_one_normal kept (by omega)).mono (by omega) (by omega)
    · omega
  · have wide : (n <<< 53).log2 = n.log2 + 53 := log2_shiftLeft positive 53
    rw [toModel_ofNat_of_wide small]
    apply unpack_pack_normal _ (by omega)
    apply (roundWithAccuracy_normal .positive .exact (by omega) (by omega)).mono <;> omega

theorem isFinite_ofNat {n : Nat} (counted : n < 2 ^ 64) : (Float.ofNat n).isFinite := by
  change (Float.ofNat n).toModel.unpack.isFinite
  rcases Nat.eq_zero_or_pos n with rfl | positive
  · rfl
  · have bits : n.log2 < 64 := (Nat.log2_lt (Nat.ne_of_gt positive)).mpr counted
    rcases ofNat_normal positive with ⟨sign, m, e, pos, same, _⟩ | ⟨large, _⟩
    · rw [same]
      rfl
    · omega

theorem unpack_hundred :
    (100.0 : Float).toModel.unpack = .finite .positive (25 * 2 ^ 48) (-46) (by decide) := rfl

theorem isNaN_roundWithAccuracy (sign : Sign) (m : Nat) (e : Int) (accuracy : Accuracy) :
    (roundWithAccuracy format sign m e accuracy).isNaN = false := by
  simp only [roundWithAccuracy]
  split <;> rfl

theorem isNaN_mul_finite (x : UnpackedFloat) (sign : Sign) (m : Nat) (e : Int) (pos : 0 < m) :
    (UnpackedFloat.mul format x (.finite sign m e pos)).isNaN = x.isNaN := by
  cases x with
  | finite => exact isNaN_roundWithAccuracy ..
  | _ => rfl

theorem isNaN_normalize (m : Int) (e : Int) (sign : Sign) :
    (UnpackedFloat.normalize format m e sign).isNaN = false := by
  rw [UnpackedFloat.normalize]
  split
  · exact isNaN_roundWithAccuracy ..
  · rfl
  · exact isNaN_roundWithAccuracy ..

theorem isNaN_sub_iff (a b : Float) :
    (a - b).isNaN ↔ a.isNaN ∨ b.isNaN ∨ (a.isInf ∧ a == b) := by
  change (pack (UnpackedFloat.sub format a.toModel.unpack b.toModel.unpack)).isNaN = true ↔
    a.toModel.unpack.isNaN = true ∨ b.toModel.unpack.isNaN = true ∨
      (a.toModel.unpack.isInf = true ∧ a.toModel.unpack.beq b.toModel.unpack = true)
  rw [isNaN_pack]
  rcases a.toModel.unpack with (_ | _) | _ | (_ | _) | ⟨sign, m, e, pos⟩ <;>
    rcases b.toModel.unpack with (_ | _) | _ | (_ | _) | ⟨sign', m', e', pos'⟩
  case finite.finite =>
    have number : (UnpackedFloat.sub format (.finite sign m e pos)
        (.finite sign' m' e' pos')).isNaN = false := isNaN_normalize ..
    rw [number]
    simp [UnpackedFloat.isNaN, UnpackedFloat.isInf]
  all_goals
    first
      | decide
      | simp [UnpackedFloat.sub, UnpackedFloat.isNaN, UnpackedFloat.isInf, UnpackedFloat.beq,
          UnpackedFloat.compare]

theorem isNaN_div {x y : UnpackedFloat} (finite : x.isFinite)
    (nonzero : (∃ low high, Normal low high y) ∨ ∃ sign, y = .infinity sign) :
    (UnpackedFloat.div format x y).isNaN = false := by
  rcases nonzero with ⟨_, _, sign, m, e, pos, rfl, _⟩ | ⟨sign, rfl⟩
  · cases x with
    | finite => exact isNaN_roundWithAccuracy ..
    | zero => rfl
    | infinity => cases finite
    | notANumber => cases finite
  · cases x with
    | finite => rfl
    | zero => rfl
    | infinity => cases finite
    | notANumber => cases finite

/-- A rate of 64-bit counts is a number. -/
theorem isNaN_spikeRatePercent {spikes : Nat} (counted : spikes < 2 ^ 64) (gaps : Nat) :
    (spikeRatePercent spikes gaps).isNaN = false := by
  have divisor : 0 < max gaps 1 := by omega
  have quotient : (Float.ofNat spikes / Float.ofNat (max gaps 1)).isNaN = false := by
    change (pack (UnpackedFloat.div format _ _)).isNaN = false
    rw [isNaN_pack]
    apply isNaN_div (isFinite_ofNat counted)
    rcases ofNat_normal divisor with normal | ⟨_, infinite⟩
    · exact .inl ⟨_, _, normal⟩
    · exact .inr infinite
  change (pack (UnpackedFloat.mul format _ (100.0 : Float).toModel.unpack)).isNaN = false
  rw [isNaN_pack, unpack_hundred, isNaN_mul_finite]
  exact quotient

end ExposureBench.Rate
