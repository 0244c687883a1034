import ExposureBench.Proofs.Magnitude

/-! Rounding does not pass a number that is kept by it, and it keeps the order of counts. -/

namespace ExposureBench.Rounding

open Float.Model Float.Model.UnpackedFloat Rate Magnitude

/-- A mantissa whose last bit weighs `2 ^ e` makes no more than `limit * 2 ^ top`. -/
structure Fits (limit : Nat) (top : Int) (m : Nat) (e : Int) : Prop where
  least : -1074 ≤ e
  most : e ≤ top
  le : m ≤ limit * 2 ^ (top - e).toNat

/-- Neither negative nor above `limit * 2 ^ top`. -/
inductive AtMost (limit : Nat) (top : Int) : UnpackedFloat → Prop where
  | zero (sign : Sign) : AtMost limit top (.zero sign)
  | finite {m : Nat} {e : Int} (pos : 0 < m) (fits : Fits limit top m e) :
    AtMost limit top (.finite .positive m e pos)

variable {limit : Nat} {top : Int} {m : Nat} {e : Int}

theorem log2_mono {m n : Nat} (le : m ≤ n) : m.log2 ≤ n.log2 := by
  simpa only [Nat.log2_eq_log_two] using Nat.log_mono_right le

section Shifting

theorem shiftRight_exact (m n : Nat) :
    (ExtendedMantissa.mk (m * 2 ^ n) false false) >>> n = ⟨m, false, false⟩ := by
  change n.repeat ExtendedMantissa.shiftRightOne _ = _
  induction n generalizing m with
  | zero => simp [Nat.repeat]
  | succ n ih =>
    have twice : m * 2 ^ (n + 1) = m * 2 * 2 ^ n := by ring
    rw [Nat.repeat, twice, ih]
    simp [ExtendedMantissa.shiftRightOne]

/-- A mantissa with the two bits that follow it, in quarters of its last bit. -/
def quarters (em : ExtendedMantissa) : Nat :=
  4 * em.mantissa + 2 * em.roundBit.toNat + em.stickyBit.toNat

theorem quarters_halved (em : ExtendedMantissa) :
    quarters em.shiftRightOne = 2 * (quarters em / 4) + min 1 (quarters em % 4) := by
  rcases em with ⟨m, _ | _, _ | _⟩ <;> rcases Nat.mod_two_eq_zero_or_one m with even | odd <;>
    simp [quarters, ExtendedMantissa.shiftRightOne, *] <;> omega

theorem quarters_shiftRightOne {em em' : ExtendedMantissa} (le : quarters em ≤ quarters em') :
    quarters em.shiftRightOne ≤ quarters em'.shiftRightOne := by
  rw [quarters_halved, quarters_halved]
  omega

theorem quarters_shiftRight {em em' : ExtendedMantissa} (le : quarters em ≤ quarters em')
    (n : Nat) :
    quarters (em >>> n) ≤ quarters (em' >>> n) := by
  change quarters (n.repeat ExtendedMantissa.shiftRightOne em) ≤
    quarters (n.repeat ExtendedMantissa.shiftRightOne em')
  induction n with
  | zero => exact le
  | succ n ih => exact quarters_shiftRightOne ih

theorem roundedMantissa_mono {em em' : ExtendedMantissa} (le : quarters em ≤ quarters em') :
    em.roundedMantissa ≤ em'.roundedMantissa := by
  rcases em with ⟨m, _ | _, _ | _⟩ <;> rcases em' with ⟨m', _ | _, _ | _⟩ <;>
    simp only [quarters, ExtendedMantissa.roundedMantissa, ExtendedMantissa.accuracy,
      Accuracy.roundToNearestEven, Bool.toNat_false, Bool.toNat_true] at le ⊢ <;> omega

end Shifting

section Rounding

theorem fits_shiftToTargetExponent {accuracy : Accuracy} (most : e ≤ top)
    (below : m < limit * 2 ^ (top - e).toNat ∨
      m = limit * 2 ^ (top - e).toNat ∧ accuracy = .exact)
    (bits : limit.log2 ≤ 52) (least : -1074 ≤ top) :
    Fits limit top (shiftToTargetExponent format m e accuracy).1.roundedMantissa
      (shiftToTargetExponent format m e accuracy).2 := by
  have le : m ≤ limit * 2 ^ (top - e).toNat := by
    rcases below with less | ⟨same, -⟩ <;> omega
  have wide : m.log2 ≤ 52 + (top - e).toNat := by
    rcases Nat.eq_zero_or_pos limit with rfl | positive
    · simp [Nat.le_zero.mp (Nat.zero_mul _ ▸ le)]
    · have := log2_mono le
      rw [log2_mul_two_pow positive] at this
      omega
  have target : format.targetExponent (totalExponent m e) = max (m.log2 + e - 52) (-1074) := by
    simp only [Format.targetExponent, totalExponent, Format.mantissaBits, Format.minExponent]
    omega
  simp only [shiftToTargetExponent, shiftToExponent, target]
  generalize cut : (max ((m.log2 : Int) + e - 52) (-1074) - e).toNat = d
  have split : limit * 2 ^ (top - e).toNat = limit * 2 ^ (top - (e + d)).toNat * 2 ^ d := by
    rw [Nat.mul_assoc, ← Nat.pow_add]
    congr 2
    omega
  refine ⟨by omega, by omega, ?_⟩
  rw [split] at below
  rcases below with less | ⟨rfl, rfl⟩
  · refine (roundedMantissa_bounds _).2.trans ?_
    rw [mantissa_shiftRight, mantissa_ofMantissaAndAccuracy]
    exact (Nat.div_lt_iff_lt_mul (Nat.two_pow_pos d)).mpr less
  · rw [ExtendedMantissa.ofMantissaAndAccuracy, shiftRight_exact]
    exact Nat.le_refl _

theorem atMost_of_fits {sign : Sign} {accuracy : Accuracy} (positive : sign = .positive)
    (fits : Fits limit top (shiftToTargetExponent format m e accuracy).1.roundedMantissa
      (shiftToTargetExponent format m e accuracy).2)
    (bits : limit.log2 ≤ 52) :
    AtMost limit top (roundWithAccuracy format sign m e accuracy) := by
  subst positive
  simp only [roundWithAccuracy]
  obtain ⟨least, most, le⟩ := fits
  have final := fits_shiftToTargetExponent most
    ((Nat.lt_or_eq_of_le le).imp_right fun same => ⟨same, rfl⟩) bits (least.trans most)
  split
  · exact .zero _
  · exact .finite _ ⟨final.least, final.most, (roundedMantissa_bounds _).1.trans final.le⟩

theorem roundWithAccuracy_atMost {accuracy : Accuracy} (most : e ≤ top)
    (below : m < limit * 2 ^ (top - e).toNat ∨
      m = limit * 2 ^ (top - e).toNat ∧ accuracy = .exact)
    (bits : limit.log2 ≤ 52) (least : -1074 ≤ top) :
    AtMost limit top (roundWithAccuracy format .positive m e accuracy) :=
  atMost_of_fits rfl (fits_shiftToTargetExponent most below bits least) bits

theorem AtMost.trans {limit' : Nat} {top' : Int} {x : UnpackedFloat} (atMost : AtMost limit top x)
    (higher : top ≤ top') (larger : limit ≤ limit' * 2 ^ (top' - top).toNat) :
    AtMost limit' top' x := by
  rcases atMost with sign | ⟨pos, least, most, le⟩
  · exact .zero sign
  · next m e =>
    have split : (top' - e).toNat = (top' - top).toNat + (top - e).toNat := by omega
    refine .finite pos ⟨least, most.trans higher, ?_⟩
    calc
      m ≤ limit * 2 ^ (top - e).toNat := le
      _ ≤ limit' * 2 ^ (top' - top).toNat * 2 ^ (top - e).toNat := Nat.mul_le_mul_right _ larger
      _ = limit' * 2 ^ (top' - e).toNat := by rw [split, Nat.pow_add, Nat.mul_assoc]

theorem roundedMantissa_shiftToTargetExponent {m m' : Nat} (le : m ≤ m')
    (level : m.log2 = m'.log2) (e : Int) :
    (shiftToTargetExponent format m e .exact).1.roundedMantissa ≤
      (shiftToTargetExponent format m' e .exact).1.roundedMantissa := by
  simp only [shiftToTargetExponent, shiftToExponent, totalExponent, level]
  apply roundedMantissa_mono (quarters_shiftRight _ _)
  simp only [ExtendedMantissa.ofMantissaAndAccuracy, quarters]
  omega

theorem roundWithAccuracy_mono {m m' : Nat} (le : m ≤ m') (wide : 52 ≤ m'.log2)
    (normal : -1022 ≤ m'.log2 + e) :
    ∃ limit top pos, roundWithAccuracy format .positive m' e .exact =
        .finite .positive limit top pos ∧ limit.log2 = 52 ∧ m'.log2 + e - 52 ≤ top ∧
      AtMost limit top (roundWithAccuracy format .positive m e .exact) := by
  obtain ⟨limit, top, pos, same, bits, least, most, rounded⟩ :=
    roundWithAccuracy_finite .positive .exact wide normal
  refine ⟨limit, top, pos, same, bits, least, ?_⟩
  have full : 2 ^ 52 ≤ limit := bits ▸ Nat.log2_self_le (Nat.ne_of_gt pos)
  rcases Nat.lt_or_eq_of_le (log2_mono le) with shorter | level
  · -- What takes fewer bits lies below the power of two that the larger one reaches.
    have below : m < 2 ^ 52 * 2 ^ ((m'.log2 : Int) + e - 52 - e).toNat := by
      have amount : 52 + ((m'.log2 : Int) + e - 52 - e).toNat = m'.log2 := by omega
      rw [← Nat.pow_add, amount]
      exact Nat.lt_log2_self.trans_le (Nat.pow_le_pow_right (by decide) shorter)
    have atMost : AtMost (2 ^ 52) (m'.log2 + e - 52)
        (roundWithAccuracy format .positive m e .exact) :=
      roundWithAccuracy_atMost (by omega) (.inl below) (by rw [Nat.log2_two_pow]) (by omega)
    exact atMost.trans least (full.trans (Nat.le_mul_of_pos_right _ (Nat.two_pow_pos _)))
  · -- What takes as many is cut at the same place.
    have exponent := (shiftToTargetExponent_normal (m := m) (e := e) .exact (by omega) (by omega)).2
    have mantissa := roundedMantissa_shiftToTargetExponent le level e
    refine atMost_of_fits rfl ⟨by omega, by omega, ?_⟩ (Nat.le_of_eq bits)
    rwa [exponent, level, ← rounded]

theorem roundWithAccuracy_exact (sign : Sign) (bits : m.log2 = 52) (n : Nat)
    (least : -1074 ≤ e + n) :
    ∃ pos, roundWithAccuracy format sign (m * 2 ^ n) e .exact = .finite sign m (e + n) pos := by
  have pos : 0 < m := pos_of_log2 (by omega)
  have cut : shiftToTargetExponent format (m * 2 ^ n) e .exact = (⟨m, false, false⟩, e + n) := by
    have target : format.targetExponent (totalExponent (m * 2 ^ n) e) = e + n := by
      simp only [Format.targetExponent, totalExponent, Format.mantissaBits, Format.minExponent,
        log2_mul_two_pow pos, bits]
      omega
    have amount : (e + n - e).toNat = n := by omega
    simp only [shiftToTargetExponent, shiftToExponent, target, amount,
      ExtendedMantissa.ofMantissaAndAccuracy, shiftRight_exact]
  have kept : shiftToTargetExponent format m (e + n) .exact = (⟨m, false, false⟩, e + n) := by
    have target : format.targetExponent (totalExponent m (e + n)) = e + n := by
      simp only [Format.targetExponent, totalExponent, Format.mantissaBits, Format.minExponent,
        bits]
      omega
    simp only [shiftToTargetExponent, shiftToExponent, target, Int.sub_self, Int.toNat_zero,
      ExtendedMantissa.ofMantissaAndAccuracy]
    exact congrArg₂ Prod.mk rfl (by simp)
  refine ⟨pos, ?_⟩
  simp only [roundWithAccuracy, cut, ExtendedMantissa.roundedMantissa, ExtendedMantissa.accuracy,
    Accuracy.roundToNearestEven, kept, dif_neg (Nat.ne_of_gt pos)]

end Rounding

section Packing

theorem pack_atMost {x : UnpackedFloat} (atMost : AtMost limit top x) (bounded : top ≤ 971) :
    AtMost limit top (pack x).unpack := by
  rcases atMost with sign | ⟨pos, least, most, le⟩
  · cases sign <;> exact .zero _
  · next m e =>
    by_cases bits : m.log2 = 52
    · rw [unpack_pack_finite bits least (most.trans bounded)]
      exact .finite pos ⟨least, most, le⟩
    · have packed : UnpackedFloat.pack format (.finite .positive m e pos) =
          packComponents format .positive 0#11 (.ofNat 52 m) := by
        have within : ¬ 2 ^ format.exponentBits ≤ (e + 1075).toNat + 1 := by
          change ¬ 2 ^ 11 ≤ (e + 1075).toNat + 1
          omega
        have short : ¬ m.log2 + 1 = format.mantissaBits := by
          change ¬ m.log2 + 1 = 53
          omega
        have biased : (e + format.exponentBias + format.mantissaBitsWithoutImplicit).toNat =
            (e + 1075).toNat := biased_eq (by omega)
        simp only [UnpackedFloat.pack, biased, if_neg within, if_neg short]
      have bias : (format.exponentBias : Int) + format.mantissaBitsWithoutImplicit = 1075 := by
        decide
      change AtMost limit top (UnpackedFloat.unpack format (UnpackedFloat.pack format _))
      rw [packed, UnpackedFloat.unpack]
      simp only [unpackMantissa_packComponents, unpackExponent_packComponents,
        unpackSign_packComponents, if_neg (by decide : 0#11 ≠ -1#11), if_true, bias]
      split
      · exact .zero _
      · -- A subnormal mantissa is read at the least exponent.
        refine .finite _ ⟨Int.le_refl (-1074), least.trans most, ?_⟩
        calc
          m % 2 ^ 52 ≤ m := Nat.mod_le _ _
          _ ≤ limit * 2 ^ (top - e).toNat := le
          _ ≤ limit * 2 ^ (top - -1074).toNat :=
            Nat.mul_le_mul_left _ (Nat.pow_le_pow_right (by decide) (by omega))

end Packing

section Counts

theorem unpack_zero : (Float.ofNat 0).toModel.unpack = .zero .positive := rfl

theorem unpack_ofNat_small {n : Nat} (positive : 0 < n) (small : n < 2 ^ 53) :
    ∃ pos, (Float.ofNat n).toModel.unpack =
      .finite .positive (n <<< (52 - n.log2)) (n.log2 - 52) pos := by
  have shorter : n.log2 < 53 := (Nat.log2_lt (Nat.ne_of_gt positive)).mpr small
  have bits := log2_filled positive small
  have once := round_ofNat positive small
  generalize n <<< (52 - n.log2) = m at bits once
  obtain ⟨pos, first⟩ := roundWithAccuracy_exact (e := n.log2 - 52) .positive bits 0 (by omega)
  obtain ⟨_, second⟩ := roundWithAccuracy_exact (e := n.log2 - 52 + -52) .positive bits 52
    (by omega)
  have exponent : (n.log2 : Int) - 52 + -52 + (52 : Nat) = n.log2 - 52 := by omega
  rw [Nat.pow_zero, Nat.mul_one, Int.natCast_zero, Int.add_zero] at first
  simp only [exponent] at second
  have product : UnpackedFloat.mul format (.finite .positive m (n.log2 - 52) pos)
      (.finite .positive (2 ^ 52) (-52) (by decide)) = .finite .positive m (n.log2 - 52) pos :=
    second
  refine ⟨pos, ?_⟩
  rw [toModel_ofNat positive small, once, first, unpack_pack_finite bits (by omega) (by omega),
    product, unpack_pack_finite bits (by omega) (by omega)]

theorem unpack_ofNat {n : Nat} (positive : 0 < n) :
    (Float.ofNat n).toModel.unpack =
      (pack (roundWithAccuracy format .positive (n <<< 53) (-53) .exact)).unpack := by
  by_cases small : n < 2 ^ 53
  · have shorter : n.log2 < 53 := (Nat.log2_lt (Nat.ne_of_gt positive)).mpr small
    have bits := log2_filled positive small
    have shifted : n <<< 53 = n <<< (52 - n.log2) * 2 ^ (n.log2 + 1) := by
      rw [← Nat.shiftLeft_eq, ← Nat.shiftLeft_add]
      congr 1
      omega
    obtain ⟨pos, converted⟩ := unpack_ofNat_small positive small
    obtain ⟨_, direct⟩ := roundWithAccuracy_exact (e := -53) .positive bits (n.log2 + 1) (by omega)
    have exponent : (-53 : Int) + (n.log2 + 1 : Nat) = n.log2 - 52 := by omega
    simp only [exponent] at direct
    rw [converted, shifted, direct, unpack_pack_finite bits (by omega) (by omega)]
  · rw [toModel_ofNat_of_wide small]

theorem unpack_ofNat_positive {n : Nat} (positive : 0 < n) :
    (∃ m e pos, (Float.ofNat n).toModel.unpack = .finite .positive m e pos ∧
      n.log2 ≤ m.log2 + e) ∨ (Float.ofNat n).toModel.unpack = .infinity .positive := by
  have wide : (n <<< 53).log2 = n.log2 + 53 := log2_shiftLeft positive 53
  obtain ⟨m, e, pos, rounded, bits, least, -, -⟩ :=
    roundWithAccuracy_finite (m := n <<< 53) (e := -53) .positive .exact (by omega) (by omega)
  rw [unpack_ofNat positive, rounded]
  rcases lt_or_ge 971 e with large | fits
  · exact .inr (unpack_pack_large large)
  · exact .inl ⟨m, e, pos, unpack_pack_finite bits (by omega) fits, by omega⟩

/-- A part of a count is converted to a number that is not above the whole's, unless the whole is
too large to be converted. -/
theorem ofNat_mono {n n' : Nat} (le : n ≤ n') (positive : 0 < n') :
    (∃ sign, (Float.ofNat n').toModel.unpack = .infinity sign) ∨
      ∃ limit top pos, (Float.ofNat n').toModel.unpack = .finite .positive limit top pos ∧
        AtMost limit top (Float.ofNat n).toModel.unpack := by
  have shifted : n <<< 53 ≤ n' <<< 53 := by
    rw [Nat.shiftLeft_eq, Nat.shiftLeft_eq]
    exact Nat.mul_le_mul_right _ le
  have wide : (n' <<< 53).log2 = n'.log2 + 53 := log2_shiftLeft positive 53
  obtain ⟨limit, top, pos, same, bits, least, atMost⟩ :=
    roundWithAccuracy_mono (e := -53) shifted (by omega) (by omega)
  rw [unpack_ofNat positive, same]
  rcases lt_or_ge 971 top with large | fits
  · exact .inl ⟨_, unpack_pack_large large⟩
  · refine .inr ⟨limit, top, pos, ?_, ?_⟩
    · exact unpack_pack_finite bits (by omega) fits
    · rcases Nat.eq_zero_or_pos n with rfl | some
      · rw [unpack_zero]
        exact .zero _
      · rw [unpack_ofNat some]
        exact pack_atMost atMost fits

end Counts

section Shares

variable {x : UnpackedFloat} {pos : 0 < m}

theorem quotient_below {num den bound : Nat} (le : num ≤ bound * den) :
    num / den < bound ∨ num / den = bound ∧ accuracyOfFraction (num % den) den = .exact := by
  rcases Nat.lt_or_eq_of_le (Nat.div_le_of_le_mul (Nat.mul_comm _ _ ▸ le)) with less | reached
  · exact .inl less
  · have whole := Nat.div_add_mod' num den
    rw [reached] at whole
    have rest : num % den = 0 := by omega
    exact .inr ⟨reached, if_pos rest⟩

theorem div_atMost (atMost : AtMost m e x) :
    AtMost (2 ^ 52) (-52) (UnpackedFloat.div format x (.finite .positive m e pos)) := by
  rcases atMost with sign | ⟨pos₁, -, most, le⟩
  · exact .zero _
  · next m₁ e₁ =>
    have lighter : m₁.log2 + e₁ ≤ m.log2 + e := by
      have := log2_mono le
      rw [log2_mul_two_pow pos] at this
      omega
    have low : min (e₁ - e) (format.targetExponent (totalExponent m₁ e₁ - totalExponent m e)) ≤
        -52 := by
      simp only [Format.targetExponent, totalExponent, Format.mantissaBits, Format.minExponent]
      omega
    change AtMost _ _ (roundWithAccuracy format .positive _ _ _)
    have lower := Int.min_le_left (e₁ - e)
      (format.targetExponent (totalExponent m₁ e₁ - totalExponent m e))
    generalize min (e₁ - e) (format.targetExponent (totalExponent m₁ e₁ - totalExponent m e)) = t
      at low lower ⊢
    have one : 2 ^ 52 * 2 ^ (-52 - t).toNat = 2 ^ (-t).toNat := by
      rw [← Nat.pow_add]
      congr 1
      omega
    refine roundWithAccuracy_atMost low ?_ (by rw [Nat.log2_two_pow]) (by decide)
    rw [one]
    apply quotient_below
    have amount : (e - e₁).toNat + (e₁ - e - t).toNat = (-t).toNat := by omega
    calc
      m₁ <<< (e₁ - e - t).toNat = m₁ * 2 ^ (e₁ - e - t).toNat := Nat.shiftLeft_eq ..
      _ ≤ m * 2 ^ (e - e₁).toNat * 2 ^ (e₁ - e - t).toNat := Nat.mul_le_mul_right _ le
      _ = 2 ^ (-t).toNat * m := by rw [Nat.mul_assoc, ← Nat.pow_add, amount, Nat.mul_comm]

theorem mul_atMost (atMost : AtMost (2 ^ 52) (-52) x) (bits : m.log2 ≤ 52) (least : -1074 ≤ e) :
    AtMost m e (UnpackedFloat.mul format x (.finite .positive m e pos)) := by
  rcases atMost with sign | ⟨pos₁, -, most, le⟩
  · exact .zero _
  · next m₁ e₁ =>
    have one : 2 ^ 52 * 2 ^ (-52 - e₁).toNat = 2 ^ (e - (e₁ + e)).toNat := by
      rw [← Nat.pow_add]
      congr 1
      omega
    have product : m₁ * m ≤ m * 2 ^ (e - (e₁ + e)).toNat := by
      rw [Nat.mul_comm, ← one]
      exact Nat.mul_le_mul_left _ le
    exact roundWithAccuracy_atMost (by omega)
      ((Nat.lt_or_eq_of_le product).imp_right fun same => ⟨same, rfl⟩) bits least

theorem div_infinity (x : UnpackedFloat) (sign : Sign) :
    (UnpackedFloat.div format x (.infinity sign)).isNaN ∨
      ∃ sign', UnpackedFloat.div format x (.infinity sign) = .zero sign' := by
  cases x with
  | notANumber => exact .inl rfl
  | infinity => exact .inl rfl
  | zero => exact .inr ⟨_, rfl⟩
  | finite => exact .inr ⟨_, rfl⟩

theorem le_of_atMost {a b c : Float} (atMost : AtMost m e a.toModel.unpack) (le : b ≤ a)
    (read : c.toModel.unpack = .finite .positive m e pos) :
    b ≤ c := by
  rw [le_iff] at *
  rw [read]
  generalize a.toModel.unpack = x at *
  generalize b.toModel.unpack = y at *
  cases atMost with
  | zero sign =>
    rcases y with (_ | _) | _ | _ | ⟨_ | _, m₂, e₂, _⟩ <;>
      first | rfl | exact Bool.noConfusion le
  | @finite m₁ e₁ pos₁ fits =>
    rcases y with (_ | _) | _ | _ | ⟨_ | _, m₂, e₂, _⟩ <;>
      first | rfl | exact Bool.noConfusion le | skip
    -- Both are positive, and the exponents are compared first.
    change ((compare e₂ e₁).then (compare m₂ m₁)).isLE = true at le
    change ((compare e₂ e).then (compare m₂ m)).isLE = true
    rw [Ordering.isLE_then_iff_or, Int.compare_eq_lt, Int.compare_eq_eq, Nat.isLE_compare] at le ⊢
    obtain ⟨-, most, less⟩ := fits
    rcases le with lighter | ⟨rfl, le⟩
    · exact .inl (by omega)
    · rcases Int.lt_or_eq_of_le most with lighter | rfl
      · exact .inl lighter
      · exact .inr ⟨rfl, le.trans (by simpa using less)⟩

theorem unpack_spikeRatePercent (spikes gaps : Nat) :
    (spikeRatePercent spikes gaps).toModel.unpack =
      (pack (UnpackedFloat.mul format
        (pack (UnpackedFloat.div format (Float.ofNat spikes).toModel.unpack
          (Float.ofNat (max gaps 1)).toModel.unpack)).unpack
        (.finite .positive (25 * 2 ^ 48) (-46) (by decide)))).unpack :=
  rfl

theorem spikeRatePercent_zero (gaps : Nat) : spikeRatePercent 0 gaps = 0 := by
  have share : UnpackedFloat.div format (Float.ofNat 0).toModel.unpack
      (Float.ofNat (max gaps 1)).toModel.unpack = .zero .positive := by
    rw [unpack_zero]
    rcases unpack_ofNat_positive (n := max gaps 1) (by omega) with ⟨m, e, pos, read, -⟩ | infinite
    · rw [read]
      rfl
    · rw [infinite]
      rfl
  change Float.ofModel (pack (UnpackedFloat.mul format (pack (UnpackedFloat.div format _ _)).unpack
    (100.0 : Float).toModel.unpack)) = 0
  rw [share]
  rfl

theorem spikeRatePercent_atMost {spikes gaps : Nat} (le : spikes ≤ gaps) :
    (spikeRatePercent spikes gaps).isNaN ∨
      AtMost (25 * 2 ^ 48) (-46) (spikeRatePercent spikes gaps).toModel.unpack := by
  have percent : ∀ {share : UnpackedFloat}, AtMost (2 ^ 52) (-52) share →
      AtMost (25 * 2 ^ 48) (-46) (pack (UnpackedFloat.mul format (pack share).unpack
        (.finite .positive (25 * 2 ^ 48) (-46) (by decide)))).unpack := fun atMost =>
    pack_atMost (mul_atMost (pack_atMost atMost (by decide)) (by decide) (by decide)) (by decide)
  change (spikeRatePercent spikes gaps).toModel.unpack.isNaN ∨ _
  rw [unpack_spikeRatePercent]
  rcases ofNat_mono (le.trans (Nat.le_max_left gaps 1)) (by omega) with
    ⟨sign, large⟩ | ⟨limit, top, pos, same, atMost⟩
  · rw [large]
    rcases div_infinity (Float.ofNat spikes).toModel.unpack sign with undefined | ⟨sign', zero⟩
    · refine .inl ((isNaN_pack _).trans ?_)
      rw [isNaN_mul_finite]
      exact (isNaN_pack _).trans undefined
    · exact .inr (percent (zero ▸ .zero sign'))
  · rw [same]
    exact .inr (percent (div_atMost atMost))

/-- No ceiling above a hundred percent is reached by the rate of a part of the gaps. -/
theorem spikeRatePercent_below {spikes gaps : Nat} (le : spikes ≤ gaps) {ceiling : Float}
    (above : 100.0 < ceiling) :
    ¬ ceiling ≤ spikeRatePercent spikes gaps := by
  intro reached
  obtain ⟨known, number⟩ := not_nan_of_le reached
  rcases spikeRatePercent_atMost le with none | atMost
  · rw [number] at none
    cases none
  · exact (not_le_iff_lt known rfl).mpr above (le_of_atMost atMost reached unpack_hundred)

end Shares

end ExposureBench.Rounding
