import ExposureBench.Proofs.Periods

/-!
A positive number that is neither too small nor too large is rounded by its first 53 bits and the
two that follow them, which keeps the order of numbers.
-/

namespace ExposureBench.Nearest

open Float.Model Float.Model.UnpackedFloat Rate Magnitude Rounding

section Cutting

/-- A mantissa with the two bits that follow it, where `x` is cut off after the first of them and
the second tells whether anything has been. -/
def Cut (em : ExtendedMantissa) (x : ℚ) : Prop := (quarters em : ℤ) = ⌊2 * x⌋ + ⌈2 * x⌉

variable {em em' : ExtendedMantissa} {x x' : ℚ}

theorem Cut.mono (cut : Cut em x) (cut' : Cut em' x') (le : x ≤ x') :
    em.roundedMantissa ≤ em'.roundedMantissa := by
  apply roundedMantissa_mono
  have double : 2 * x ≤ 2 * x' := by linarith
  have floor := Int.floor_mono double
  have ceil := Int.ceil_mono double
  rw [Cut] at cut cut'
  omega

theorem Cut.mantissa_le (cut : Cut em x) : (em.mantissa : ℚ) ≤ x := by
  have near := Int.ceil_le_floor_add_one (2 * x)
  have least : (2 * em.mantissa : ℤ) ≤ ⌊2 * x⌋ := by
    rw [Cut, quarters] at cut
    omega
  have double : ((2 * em.mantissa : ℤ) : ℚ) ≤ 2 * x := Int.le_floor.mp least
  push_cast at double
  linarith

theorem Cut.lt_mantissa (cut : Cut em x) : x < em.mantissa + 1 := by
  have bits : quarters em ≤ 4 * em.mantissa + 3 := by
    have round := Bool.toNat_le em.roundBit
    have sticky := Bool.toNat_le em.stickyBit
    rw [quarters]
    omega
  have near := Int.floor_le_ceil (2 * x)
  have most : ⌊2 * x⌋ < (2 * em.mantissa + 2 : ℤ) := by
    rw [Cut] at cut
    omega
  have double : 2 * x < ((2 * em.mantissa + 2 : ℤ) : ℚ) := Int.floor_lt.mp most
  push_cast at double
  linarith

theorem cut_at {k : ℤ} (double : 2 * x = k) (bits : (quarters em : ℤ) = 2 * k) : Cut em x := by
  rw [Cut, bits, double, Int.floor_intCast, Int.ceil_intCast]
  ring

theorem cut_between {k : ℤ} (above : k < 2 * x) (below : 2 * x < k + 1)
    (bits : (quarters em : ℤ) = 2 * k + 1) : Cut em x := by
  have floor : ⌊2 * x⌋ = k := Int.floor_eq_iff.mpr ⟨above.le, below⟩
  have ceil : ⌈2 * x⌉ = k + 1 := by
    rw [Int.ceil_eq_iff]
    push_cast
    exact ⟨by linarith, below.le⟩
  rw [Cut, bits, floor, ceil]
  ring

theorem cut_natCast (m : Nat) : Cut ⟨m, false, false⟩ m := by
  refine cut_at (k := 2 * m) (by push_cast; rfl) ?_
  simp [quarters]
  ring

theorem cut_div (num : Nat) {den : Nat} (pos : 0 < den) :
    Cut (.ofMantissaAndAccuracy (num / den) (accuracyOfFraction (num % den) den)) (num / den) := by
  have some : (0 : ℚ) < den := by exact_mod_cast pos
  have whole : (num : ℚ) / den = (num / den : ℕ) + (num % den : ℕ) / (den : ℚ) := by
    field_simp
    exact_mod_cast (Nat.div_add_mod num den).symm
  have rest := Nat.mod_lt num pos
  rw [whole, accuracyOfFraction]
  generalize num / den = q, num % den = r at rest
  split
  next none =>
    rw [none, Nat.cast_zero, zero_div, add_zero]
    exact cut_natCast q
  next more =>
    have above : (0 : ℚ) < r / den := div_pos (by exact_mod_cast Nat.pos_of_ne_zero more) some
    have below : (r : ℚ) / den < 1 := by
      rw [div_lt_one some]
      exact_mod_cast rest
    have twice : 2 * ((r : ℚ) / den) = (2 * r : ℕ) / den := by
      push_cast
      ring
    rcases Nat.lt_trichotomy (2 * r) den with less | half | greater
    · have side : 2 * ((r : ℚ) / den) < 1 := by
        rw [twice, div_lt_one some]
        exact_mod_cast less
      rw [Nat.compare_eq_lt.mpr less]
      refine cut_between (k := 2 * q) (by push_cast; linarith) (by push_cast; linarith) ?_
      simp [quarters, ExtendedMantissa.ofMantissaAndAccuracy]
      ring
    · have side : 2 * ((r : ℚ) / den) = 1 := by
        rw [twice, half, div_self some.ne']
      rw [Nat.compare_eq_eq.mpr half]
      refine cut_at (k := 2 * q + 1) (by push_cast; linarith) ?_
      simp [quarters, ExtendedMantissa.ofMantissaAndAccuracy]
      ring
    · have side : 1 < 2 * ((r : ℚ) / den) := by
        rw [twice, one_lt_div some]
        exact_mod_cast greater
      rw [Nat.compare_eq_gt.mpr greater]
      refine cut_between (k := 2 * q + 1) (by push_cast; linarith) (by push_cast; linarith) ?_
      simp [quarters, ExtendedMantissa.ofMantissaAndAccuracy]
      ring

theorem Cut.shiftRightOne (cut : Cut em x) : Cut em.shiftRightOne (x / 2) := by
  have half : 2 * (x / 2) = x := by ring
  have double : x = 2 * x / (2 : ℕ) := by
    push_cast
    ring
  have floor : ⌊x⌋ = ⌊2 * x⌋ / 2 := by
    conv_lhs => rw [double, Int.floor_div_natCast]
    rfl
  have ceil : ⌈x⌉ = -(-⌈2 * x⌉ / 2) := by
    conv_lhs => rw [double, ← neg_neg (2 * x / (2 : ℕ)), Int.ceil_neg, ← neg_div,
      Int.floor_div_natCast, Int.floor_neg]
    rfl
  have near : ⌊2 * x⌋ ≤ ⌈2 * x⌉ ∧ ⌈2 * x⌉ ≤ ⌊2 * x⌋ + 1 :=
    ⟨Int.floor_le_ceil _, Int.ceil_le_floor_add_one _⟩
  rw [Cut] at cut ⊢
  rw [half, quarters_halved, floor, ceil]
  omega

theorem Cut.shiftRight (cut : Cut em x) (n : Nat) : Cut (em >>> n) (x / 2 ^ n) := by
  change Cut (n.repeat ExtendedMantissa.shiftRightOne em) _
  induction n with
  | zero => simpa [Nat.repeat] using cut
  | succ n ih =>
    rw [pow_succ, ← div_div]
    exact ih.shiftRightOne

end Cutting

section Powers

theorem two_pow_mul_zpow (n : Nat) (k : ℤ) : (2 : ℚ) ^ n * 2 ^ k = 2 ^ (n + k) := by
  rw [← zpow_natCast, ← zpow_add₀ two_ne_zero]

theorem zpow_le_iff {v : ℚ} (positive : 0 < v) (k : ℤ) : 2 ^ k ≤ v ↔ k ≤ Int.log 2 v := by
  exact_mod_cast Int.zpow_le_iff_le_log one_lt_two positive

theorem lt_zpow_iff {v : ℚ} (positive : 0 < v) (k : ℤ) : v < 2 ^ k ↔ Int.log 2 v < k := by
  exact_mod_cast Int.lt_zpow_iff_log_lt one_lt_two positive

theorem log_eq {v : ℚ} {m : Nat} {e : Int} (some : 0 < m) (low : (m : ℚ) ≤ v / 2 ^ e)
    (high : v / 2 ^ e < m + 1) : Int.log 2 v = m.log2 + e := by
  have weight : (0 : ℚ) < 2 ^ e := zpow_pos two_pos e
  have least : (2 : ℚ) ^ m.log2 ≤ m := by
    exact_mod_cast Nat.log2_self_le (Nat.ne_of_gt some)
  have most : (m : ℚ) + 1 ≤ 2 ^ (m.log2 + 1) := by
    exact_mod_cast Nat.lt_log2_self
  rw [le_div_iff₀ weight] at low
  rw [div_lt_iff₀ weight] at high
  have positive : 0 < v := lt_of_lt_of_le (mul_pos (by exact_mod_cast some) weight) low
  apply le_antisymm
  · rw [← Int.lt_add_one_iff, ← lt_zpow_iff positive]
    calc
      v < (m + 1) * 2 ^ e := high
      _ ≤ 2 ^ (m.log2 + 1) * 2 ^ e := mul_le_mul_of_nonneg_right most weight.le
      _ = 2 ^ ((m.log2 : ℤ) + e + 1) := by
        rw [two_pow_mul_zpow]
        congr 1
        push_cast
        ring
  · rw [← zpow_le_iff positive]
    calc
      (2 : ℚ) ^ ((m.log2 : ℤ) + e) = 2 ^ m.log2 * 2 ^ e := (two_pow_mul_zpow _ _).symm
      _ ≤ m * 2 ^ e := mul_le_mul_of_nonneg_right least weight.le
      _ ≤ v := low

end Powers

section Rounding

def unit (v : ℚ) : ℚ := 2 ^ (Int.log 2 v - 52)

theorem unit_pos (v : ℚ) : 0 < unit v := zpow_pos two_pos _

def value : UnpackedFloat → ℚ
  | .finite .positive m e _ => m * 2 ^ e
  | _ => 0

/-- `x` is what `v` is rounded to. -/
def Rounds (v : ℚ) (x : UnpackedFloat) : Prop :=
  ∃ m e pos em, x = .finite .positive m e pos ∧ m.log2 = 52 ∧
    Int.log 2 v ≤ e + 52 ∧ e + 51 ≤ Int.log 2 v ∧
    Cut em (v / unit v) ∧ (m : ℚ) * 2 ^ e = em.roundedMantissa * unit v

variable {v v' : ℚ} {x x' : UnpackedFloat}

theorem roundWithAccuracy_rounds {m : Nat} {e : Int} {accuracy : Accuracy}
    (cut : Cut (.ofMantissaAndAccuracy m accuracy) (v / 2 ^ e)) (wide : 52 ≤ m.log2)
    (normal : -1022 ≤ m.log2 + e) :
    Rounds v (roundWithAccuracy format .positive m e accuracy) := by
  obtain ⟨m', e', pos, same, full, low, high, rounded⟩ :=
    roundWithAccuracy_finite .positive accuracy wide normal
  have least := cut.mantissa_le
  have most := cut.lt_mantissa
  rw [mantissa_ofMantissaAndAccuracy] at least most
  have log : Int.log 2 v = m.log2 + e := log_eq (pos_of_log2 (by omega)) least most
  have target : format.targetExponent (totalExponent m e) = m.log2 + e - 52 := by
    simp only [Format.targetExponent, totalExponent, Format.mantissaBits, Format.minExponent]
    omega
  have amount : ((m.log2 : Int) + e - 52 - e).toNat = m.log2 - 52 := by omega
  have shifted : (shiftToTargetExponent format m e accuracy).1 =
      ExtendedMantissa.ofMantissaAndAccuracy m accuracy >>> (m.log2 - 52) := by
    simp only [shiftToTargetExponent, shiftToExponent, target, amount]
  have unit_eq : unit v = 2 ^ e * 2 ^ (m.log2 - 52) := by
    rw [unit, log, mul_comm, two_pow_mul_zpow]
    congr 1
    omega
  refine ⟨m', e', pos, (shiftToTargetExponent format m e accuracy).1, same, full, by omega,
    by omega, ?_, ?_⟩
  · rw [shifted, unit_eq, ← div_div]
    exact cut.shiftRight _
  · rw [rounded, unit, log, Nat.cast_mul, mul_assoc, Nat.cast_pow, Nat.cast_ofNat,
      two_pow_mul_zpow]
    congr 2
    omega

theorem unit_bounds (positive : 0 < v) : 2 ^ 52 ≤ v / unit v ∧ v / unit v < 2 ^ 53 := by
  have low : (52 : ℕ) + (Int.log 2 v - 52) = Int.log 2 v := by omega
  have high : (53 : ℕ) + (Int.log 2 v - 52) = Int.log 2 v + 1 := by omega
  rw [le_div_iff₀ (unit_pos v), div_lt_iff₀ (unit_pos v), unit, two_pow_mul_zpow,
    two_pow_mul_zpow, low, high, zpow_le_iff positive, lt_zpow_iff positive]
  exact ⟨Int.le_refl _, Int.lt_add_one_iff.mpr (Int.le_refl _)⟩

theorem rounded_mono {em em' : ExtendedMantissa} (cut : Cut em (v / unit v))
    (cut' : Cut em' (v' / unit v')) (positive : 0 < v) (le : v ≤ v') :
    em.roundedMantissa * unit v ≤ em'.roundedMantissa * unit v' := by
  rcases (Int.log_mono_right positive le : Int.log 2 v ≤ Int.log 2 v').lt_or_eq with
    shorter | level
  · -- Between the two lies the power of two that the larger one reaches.
    have most : (em.roundedMantissa : ℚ) ≤ 2 ^ 53 := by
      have below := cut.mantissa_le.trans_lt (unit_bounds positive).2
      have : em.mantissa < 2 ^ 53 := by exact_mod_cast below
      have := (roundedMantissa_bounds em).2
      exact_mod_cast (by omega : em.roundedMantissa ≤ 2 ^ 53)
    have least : (2 ^ 52 : ℚ) ≤ em'.roundedMantissa := by
      have above := (unit_bounds (positive.trans_le le)).1.trans_lt cut'.lt_mantissa
      have : 2 ^ 52 < em'.mantissa + 1 := by exact_mod_cast above
      have := (roundedMantissa_bounds em').1
      exact_mod_cast (by omega : 2 ^ 52 ≤ em'.roundedMantissa)
    have twice : 2 * unit v ≤ unit v' := by
      rw [unit, unit, ← zpow_one_add₀ two_ne_zero]
      exact zpow_le_zpow_right₀ one_le_two (by omega)
    calc
      em.roundedMantissa * unit v ≤ 2 ^ 53 * unit v :=
        mul_le_mul_of_nonneg_right most (unit_pos v).le
      _ = 2 ^ 52 * (2 * unit v) := by ring
      _ ≤ 2 ^ 52 * unit v' := mul_le_mul_of_nonneg_left twice (by norm_num)
      _ ≤ em'.roundedMantissa * unit v' := mul_le_mul_of_nonneg_right least (unit_pos v').le
  · have same : unit v = unit v' := by rw [unit, level, unit]
    rw [same] at cut ⊢
    have ordered := cut.mono cut' (div_le_div_of_nonneg_right le (unit_pos v').le)
    exact mul_le_mul_of_nonneg_right (by exact_mod_cast ordered) (unit_pos v').le

theorem fits_of_le {m m' : Nat} {e e' : Int} (full : m.log2 = 52) (full' : m'.log2 = 52)
    (least : -1074 ≤ e) (le : (m : ℚ) * 2 ^ e ≤ m' * 2 ^ e') : Fits m' e' m e := by
  have low : ((2 ^ 52 : ℕ) : ℚ) ≤ m := by
    exact_mod_cast full ▸ Nat.log2_self_le (Nat.ne_of_gt (pos_of_log2 (by omega)))
  have high : (m' : ℚ) < (2 ^ 53 : ℕ) := by
    exact_mod_cast (Nat.log2_lt (Nat.ne_of_gt (pos_of_log2 (by omega)))).mp
      (by omega : m'.log2 < 53)
  have most : e ≤ e' := by
    by_contra heavier
    have twice : (2 : ℚ) * 2 ^ e' ≤ 2 ^ e := by
      rw [← zpow_one_add₀ two_ne_zero]
      exact zpow_le_zpow_right₀ one_le_two (by omega)
    have weight : (0 : ℚ) < 2 ^ e' := zpow_pos two_pos e'
    have above : (m' : ℚ) * 2 ^ e' < m * 2 ^ e := by
      calc
        (m' : ℚ) * 2 ^ e' < (2 ^ 53 : ℕ) * 2 ^ e' := mul_lt_mul_of_pos_right high weight
        _ = (2 ^ 52 : ℕ) * (2 * 2 ^ e') := by
          push_cast
          ring
        _ ≤ m * 2 ^ e := mul_le_mul low twice (by positivity) (by positivity)
    exact absurd le (not_le.mpr above)
  refine ⟨least, most, ?_⟩
  have weight : (0 : ℚ) < 2 ^ e := zpow_pos two_pos e
  have split : (2 : ℚ) ^ e' = 2 ^ (e' - e).toNat * 2 ^ e := by
    rw [two_pow_mul_zpow]
    congr 1
    omega
  rw [split, ← mul_assoc, mul_le_mul_iff_left₀ weight] at le
  exact_mod_cast le

theorem Rounds.value_mono (rounds : Rounds v x) (rounds' : Rounds v' x') (positive : 0 < v)
    (le : v ≤ v') : value x ≤ value x' := by
  obtain ⟨m, e, pos, em, rfl, -, -, -, cut, same⟩ := rounds
  obtain ⟨m', e', pos', em', rfl, -, -, -, cut', same'⟩ := rounds'
  have ordered := rounded_mono cut cut' positive le
  rwa [← same, ← same'] at ordered

theorem Rounds.atMost (rounds : Rounds v x) (rounds' : Rounds v' x') (positive : 0 < v)
    (le : v ≤ v') (normal : -1022 ≤ Int.log 2 v) :
    ∃ m e pos, x' = .finite .positive m e pos ∧ AtMost m e x := by
  have ordered := rounds.value_mono rounds' positive le
  obtain ⟨m, e, pos, -, rfl, full, low, -⟩ := rounds
  obtain ⟨m', e', pos', -, rfl, full', -⟩ := rounds'
  exact ⟨m', e', pos', rfl, .finite pos (fits_of_le full full' (by omega) ordered)⟩

theorem Rounds.unpack_pack (rounds : Rounds v x) (low : -1022 ≤ Int.log 2 v)
    (high : Int.log 2 v ≤ 1022) : (pack x).unpack = x := by
  obtain ⟨m, e, pos, em, rfl, full, least, most, -, -⟩ := rounds
  exact unpack_pack_finite full (by omega) (by omega)

end Rounding

section Rates

variable {v v' : ℚ} {x x' : UnpackedFloat}

theorem Rounds.value_pos (rounds : Rounds v x) : 0 < value x := by
  obtain ⟨m, e, pos, -, rfl, -⟩ := rounds
  exact mul_pos (by exact_mod_cast pos) (zpow_pos two_pos e)

theorem Rounds.log_value (rounds : Rounds v x) :
    Int.log 2 v ≤ Int.log 2 (value x) ∧ Int.log 2 (value x) ≤ Int.log 2 v + 1 := by
  obtain ⟨m, e, pos, -, rfl, full, low, high, -⟩ := rounds
  have whole : value (.finite .positive m e pos) / 2 ^ e = m :=
    mul_div_cancel_right₀ _ (zpow_ne_zero e two_ne_zero)
  have log : Int.log 2 (value (.finite .positive m e pos)) = m.log2 + e :=
    log_eq pos whole.ge (by rw [whole]; exact lt_add_one _)
  omega

theorem div_rounds {m₁ m : Nat} {e₁ e : Int} (pos₁ : 0 < m₁) (pos : 0 < m) (full₁ : m₁.log2 = 52)
    (full : m.log2 = 52) (normal : -1021 ≤ e₁ - e) :
    Rounds (m₁ * 2 ^ e₁ / (m * 2 ^ e)) (UnpackedFloat.div format (.finite .positive m₁ e₁ pos₁)
      (.finite .positive m e pos)) := by
  have wide := (log2_quotient full₁ full).1
  have scaled : (m₁ * 2 ^ e₁ / (m * 2 ^ e) : ℚ) / (2 : ℚ) ^ (e₁ - e - 53) =
      (m₁ <<< 53 : ℕ) / (m : ℚ) := by
    have divisor : (m : ℚ) ≠ 0 := by exact_mod_cast Nat.ne_of_gt pos
    rw [zpow_sub₀ two_ne_zero, zpow_sub₀ two_ne_zero, Nat.shiftLeft_eq]
    push_cast
    field_simp
  rw [div_full pos₁ pos full₁ full normal]
  refine roundWithAccuracy_rounds ?_ wide (by omega)
  rw [scaled]
  exact cut_div _ pos

theorem Rounds.mul_hundred (rounds : Rounds v x) (normal : -1022 ≤ Int.log 2 v) :
    Rounds (value x * 100) (UnpackedFloat.mul format x
      (.finite .positive (25 * 2 ^ 48) (-46) (by decide))) := by
  obtain ⟨m, e, pos, -, rfl, full, low, -⟩ := rounds
  have least : 2 ^ 52 ≤ m := full ▸ Nat.log2_self_le (Nat.ne_of_gt pos)
  have wide : 104 ≤ (m * (25 * 2 ^ 48)).log2 := by
    rw [Nat.le_log2 (by omega)]
    omega
  have scaled : (m * 2 ^ e * 100 : ℚ) / (2 : ℚ) ^ (e + -46) = (m * (25 * 2 ^ 48) : ℕ) := by
    rw [zpow_add₀ two_ne_zero]
    push_cast
    field_simp
    norm_num
  change Rounds (m * 2 ^ e * 100)
    (roundWithAccuracy format .positive (m * (25 * 2 ^ 48)) (e + -46) .exact)
  refine roundWithAccuracy_rounds ?_ (by omega) (by omega)
  rw [scaled]
  exact cut_natCast _

theorem filled_value {n : Nat} (positive : 0 < n) (small : n < 2 ^ 53) :
    ((n <<< (52 - n.log2) : ℕ) : ℚ) * 2 ^ ((n.log2 : ℤ) - 52) = n := by
  have bits : n.log2 < 53 := (Nat.log2_lt (Nat.ne_of_gt positive)).mpr small
  have cancel : (52 - n.log2 : ℕ) + ((n.log2 : ℤ) - 52) = 0 := by omega
  rw [Nat.shiftLeft_eq, Nat.cast_mul, mul_assoc, Nat.cast_pow, Nat.cast_ofNat, two_pow_mul_zpow,
    cancel, zpow_zero, mul_one]

theorem log_quotient {n d : Nat} (some : 0 < n) (small : n < 2 ^ 53) (divisor : 0 < d)
    (small' : d < 2 ^ 53) :
    -53 ≤ Int.log 2 ((n : ℚ) / d) ∧ Int.log 2 ((n : ℚ) / d) < 53 := by
  have least : (1 : ℚ) ≤ n := by exact_mod_cast some
  have most : (n : ℚ) < 2 ^ 53 := by exact_mod_cast small
  have least' : (1 : ℚ) ≤ d := by exact_mod_cast divisor
  have most' : (d : ℚ) < 2 ^ 53 := by exact_mod_cast small'
  have positive : (0 : ℚ) < n / d := div_pos (by linarith) (by linarith)
  rw [← zpow_le_iff positive, ← lt_zpow_iff positive, le_div_iff₀ (by linarith),
    div_lt_iff₀ (by linarith)]
  have low : (2 : ℚ) ^ (-53 : ℤ) = 1 / 2 ^ 53 := by norm_num
  have high : (2 : ℚ) ^ (53 : ℤ) = 2 ^ 53 := by norm_num
  rw [low, high]
  constructor <;> linarith

theorem log_hundredfold (positive : 0 < v) :
    Int.log 2 v < Int.log 2 (v * 100) ∧ Int.log 2 (v * 100) ≤ Int.log 2 v + 7 := by
  have low : 2 ^ Int.log 2 v ≤ v := (zpow_le_iff positive _).mpr (Int.le_refl _)
  have high : v < 2 ^ (1 + Int.log 2 v) := (lt_zpow_iff positive _).mpr (by omega)
  have positive' : 0 < v * 100 := by linarith
  rw [zpow_add₀ two_ne_zero, zpow_one] at high
  constructor
  · rw [← Int.add_one_le_iff, ← zpow_le_iff positive', add_comm, zpow_add₀ two_ne_zero, zpow_one]
    linarith
  · have times : (8 : ℕ) + Int.log 2 v = Int.log 2 v + 7 + 1 := by omega
    rw [← Int.lt_add_one_iff, ← lt_zpow_iff positive', ← times, ← two_pow_mul_zpow]
    linarith

theorem rate_rounds {spikes gaps : Nat} (some : 0 < spikes) (few : spikes < 2 ^ 53)
    (divisor : 0 < gaps) (few' : gaps < 2 ^ 53) :
    ∃ share, Rounds (spikes / gaps) share ∧
      Rounds (value share * 100) (spikeRatePercent spikes gaps).toModel.unpack := by
  obtain ⟨pos, dividend⟩ := unpack_ofNat_small some few
  obtain ⟨pos', divided⟩ := unpack_ofNat_small divisor few'
  have bits : spikes.log2 < 53 := (Nat.log2_lt (Nat.ne_of_gt some)).mpr few
  have bits' : gaps.log2 < 53 := (Nat.log2_lt (Nat.ne_of_gt divisor)).mpr few'
  have quotient := div_rounds pos pos' (log2_filled some few) (log2_filled divisor few')
    (by omega : -1021 ≤ (spikes.log2 : ℤ) - 52 - (gaps.log2 - 52))
  rw [filled_value some few, filled_value divisor few'] at quotient
  have near := log_quotient some few divisor few'
  rw [unpack_spikeRatePercent, Nat.max_eq_left (by omega : 1 ≤ gaps), dividend, divided,
    quotient.unpack_pack (by omega) (by omega)]
  refine ⟨_, quotient, ?_⟩
  have log := quotient.log_value
  have hundredfold := log_hundredfold quotient.value_pos
  have product := quotient.mul_hundred (by omega)
  rwa [product.unpack_pack (by omega) (by omega)]

/-- Among counts that are converted exactly, what is not the smaller quotient has not the smaller
rate. -/
theorem spikeRatePercent_mono {spikes gaps spikes' gaps' : Nat}
    (le : spikes * gaps' ≤ spikes' * gaps) (few : spikes < 2 ^ 53) (few' : spikes' < 2 ^ 53)
    (divisor : 0 < gaps) (counted : gaps < 2 ^ 53)
    (divisor' : 0 < gaps') (counted' : gaps' < 2 ^ 53)
    {ceiling : Float} (reached : ceiling ≤ spikeRatePercent spikes gaps) :
    ceiling ≤ spikeRatePercent spikes' gaps' := by
  rcases Nat.eq_zero_or_pos spikes' with rfl | some'
  · have none : spikes = 0 := by
      rw [Nat.zero_mul, Nat.le_zero, Nat.mul_eq_zero] at le
      omega
    rwa [none, spikeRatePercent_zero, ← spikeRatePercent_zero gaps'] at reached
  obtain ⟨share', near', rate'⟩ := rate_rounds some' few' divisor' counted'
  rcases Nat.eq_zero_or_pos spikes with rfl | some
  · obtain ⟨m, e, pos, -, read, -⟩ := rate'
    rw [spikeRatePercent_zero] at reached
    exact le_of_atMost (AtMost.zero .positive) reached read
  obtain ⟨share, near, rate⟩ := rate_rounds some few divisor counted
  have positive : (0 : ℚ) < spikes / gaps :=
    div_pos (by exact_mod_cast some) (by exact_mod_cast divisor)
  have quotients : (spikes / gaps : ℚ) ≤ spikes' / gaps' := by
    rw [div_le_div_iff₀ (by exact_mod_cast divisor) (by exact_mod_cast divisor')]
    exact_mod_cast le
  have shares := near.value_mono near' positive quotients
  have log := log_quotient some few divisor counted
  have kept := near.log_value
  have hundredfold := log_hundredfold near.value_pos
  obtain ⟨m, e, pos, read, atMost⟩ := rate.atMost rate' (mul_pos near.value_pos (by norm_num))
    (mul_le_mul_of_nonneg_right shares (by norm_num)) (by omega)
  exact le_of_atMost atMost reached read

end Rates

end ExposureBench.Nearest
