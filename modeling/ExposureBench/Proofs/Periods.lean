import ExposureBench.Proofs.Rounding

namespace ExposureBench.Magnitude

open Float.Model Float.Model.UnpackedFloat Rate Rounding

section Quotients

variable {m₁ m : Nat} {e₁ e k : Int}

theorem log2_quotient (full₁ : m₁.log2 = 52) (full : m.log2 = 52) :
    52 ≤ (m₁ <<< 53 / m).log2 ∧ (m₁ <<< 53 / m).log2 ≤ 53 ∧
      (m ≤ m₁ → (m₁ <<< 53 / m).log2 = 53) := by
  have pos₁ : 0 < m₁ := pos_of_log2 (by omega)
  have pos : 0 < m := pos_of_log2 (by omega)
  have low₁ : 2 ^ 52 ≤ m₁ := full₁ ▸ Nat.log2_self_le (Nat.ne_of_gt pos₁)
  have high : m < 2 ^ 53 := (Nat.log2_lt (Nat.ne_of_gt pos)).mp (by omega)
  have least : 2 ^ 52 ≤ m₁ <<< 53 / m := by
    rw [Nat.le_div_iff_mul_le pos, Nat.shiftLeft_eq]
    omega
  have some : m₁ <<< 53 / m ≠ 0 := by omega
  have most : (m₁ <<< 53 / m).log2 ≤ 53 := by
    have bits := log2_div_le (Nat.pos_of_ne_zero some)
    rw [log2_shiftLeft pos₁] at bits
    omega
  refine ⟨(Nat.le_log2 some).mpr least, most, fun le => Nat.le_antisymm most ?_⟩
  rw [Nat.le_log2 some, Nat.le_div_iff_mul_le pos, Nat.shiftLeft_eq, Nat.mul_comm]
  exact Nat.mul_le_mul_right _ le

theorem div_full (pos₁ : 0 < m₁) (pos : 0 < m) (full₁ : m₁.log2 = 52) (full : m.log2 = 52)
    (normal : -1021 ≤ e₁ - e) :
    UnpackedFloat.div format (.finite .positive m₁ e₁ pos₁) (.finite .positive m e pos) =
      roundWithAccuracy format .positive (m₁ <<< 53 / m) (e₁ - e - 53)
        (accuracyOfFraction (m₁ <<< 53 % m) m) := by
  have target : format.targetExponent (totalExponent m₁ e₁ - totalExponent m e) =
      e₁ - e - 53 := by
    simp only [Format.targetExponent, totalExponent, Format.mantissaBits, Format.minExponent, full₁,
      full]
    omega
  have lowest : min (e₁ - e) (e₁ - e - 53) = e₁ - e - 53 := by omega
  have amount : (e₁ - e - (e₁ - e - 53)).toNat = 53 := by omega
  simp only [UnpackedFloat.div, UnpackedFloat.divCore, target, lowest, amount]
  rfl

theorem div_least {a b : Float} {pos₁ : 0 < m₁} {pos : 0 < m}
    (dividend : a.toModel.unpack = .finite .positive m₁ e₁ pos₁)
    (divisor : b.toModel.unpack = .finite .positive m e pos)
    (full₁ : m₁.log2 = 52) (full : m.log2 = 52)
    (ratio : k < e₁ - e ∨ k = e₁ - e ∧ m ≤ m₁) (above : -1021 ≤ k) (below : e₁ - e ≤ 971) :
    ∃ m' e' pos', (a / b).toModel.unpack = .finite .positive m' e' pos' ∧ m'.log2 = 52 ∧
      k ≤ e' + 52 ∧ e' + 51 ≤ e₁ - e := by
  obtain ⟨wide, most, exact⟩ := log2_quotient full₁ full
  obtain ⟨m', e', pos', same, full', low, high, -⟩ :=
    roundWithAccuracy_finite .positive (accuracyOfFraction (m₁ <<< 53 % m) m) wide
      (e := e₁ - e - 53) (by omega)
  have reached : k ≤ (m₁ <<< 53 / m).log2 + (e₁ - e - 53) := by
    rcases ratio with more | ⟨rfl, le⟩
    · omega
    · have := exact le
      omega
  refine ⟨m', e', pos', ?_, full', by omega, by omega⟩
  change (pack (UnpackedFloat.div format _ _)).unpack = _
  rw [dividend, divisor, div_full pos₁ pos full₁ full (by omega), same,
    unpack_pack_finite full' (by omega) (by omega)]

end Quotients

section Spans

theorem roundDiv_pos {num den : Nat} (half : den < 2 * num) (tie : Tie) :
    0 < roundDiv tie num den := by
  have whole := Nat.div_add_mod num den
  simp only [roundDiv]
  rcases Nat.eq_zero_or_pos (num / den) with none | some
  · have rest : num % den = num := by rwa [none, Nat.mul_zero, Nat.zero_add] at whole
    rw [rest, if_neg (by omega), if_pos half]
    exact Nat.succ_pos _
  · split
    · exact some
    split
    · exact Nat.succ_pos _
    cases tie
    · exact Nat.add_pos_left some _
    · exact Nat.succ_pos _

theorem secondsToNanos?_pos {x : Float} {m : Nat} {e : Int} {pos : 0 < m}
    (read : x.toModel.unpack = .finite .positive m e pos) (full : m.log2 = 52) (least : -82 ≤ e)
    {nanos : Nat} (span : secondsToNanos? x = some nanos) : 0 < nanos := by
  have taken : secondsToNanos? x =
      if UInt64.size * 1_000_000_000 * 2 ^ (-e).toNat ≤ m * 2 ^ e.toNat * 1_000_000_000 then none
      else some (roundDiv .even (m * 2 ^ e.toNat * 1_000_000_000) (2 ^ (-e).toNat)) := by
    rw [secondsToNanos?, ofFloat_eq, read]
    rfl
  rw [taken, Option.ite_none_left_eq_some, Option.some.injEq] at span
  obtain ⟨-, rfl⟩ := span
  apply roundDiv_pos
  have low : 2 ^ 52 ≤ m := full ▸ Nat.log2_self_le (Nat.ne_of_gt pos)
  have den : 2 ^ (-e).toNat ≤ 2 ^ 82 := Nat.pow_le_pow_right (by decide) (by omega)
  have scaled : m * 1 ≤ m * 2 ^ e.toNat := Nat.mul_le_mul_left m (Nat.two_pow_pos _)
  omega

/-- No rate of up to a billion a second has an empty frame period. -/
theorem period_of_rate {profile : StreamProfile} (rate : profile.fps ≤ 10 ^ 9) :
    ∃ nominal, secondsToNanos? (profile.frameTimeMs / 1000.0) = some nominal ∧ 0 < nominal := by
  obtain ⟨nominal, span⟩ := Option.isSome_iff_exists.mp (isSome_of_rate rate)
  refine ⟨nominal, span, ?_⟩
  have positive : 0 < max profile.fps 1 := by omega
  have small : max profile.fps 1 < 2 ^ 53 := by omega
  have short : (max profile.fps 1).log2 < 30 :=
    (Nat.log2_lt (Nat.ne_of_gt positive)).mpr (by omega)
  have thousand : (125 * 2 ^ 46).log2 = 52 := by decide
  obtain ⟨pos, divisor⟩ := unpack_ofNat_small positive small
  obtain ⟨m, e, pos', millis, full, least, most⟩ := div_least (k := -20) unpack_thousand divisor
    thousand (log2_filled positive small) (by
      rcases Nat.lt_or_eq_of_le (Nat.le_of_lt_succ short) with shorter | longest
      · exact .inl (by omega)
      · rw [longest, Nat.shiftLeft_eq]
        exact .inr ⟨by decide, by omega⟩)
    (by decide) (by omega)
  obtain ⟨m', e', pos'', seconds, full', least', -⟩ := div_least (k := -30) millis unpack_thousand
    full thousand (.inl (by omega)) (by decide) (by omega)
  exact secondsToNanos?_pos seconds full' (by omega) span

end Spans

end ExposureBench.Magnitude
