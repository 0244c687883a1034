import ExposureBench.Device.Camera
import ExposureBench.Proofs.Rounding

namespace ExposureBench.Conversion

open Float.Model Float.Model.UnpackedFloat Rate Magnitude Rounding

variable {k : Int}

section Reading

theorem canonical_of_unpack {bits : BitVec 64} {sign : Sign} {m : Nat} {e : Int} {pos : 0 < m}
    (read : UnpackedFloat.unpack format bits = .finite sign m e pos) :
    -1074 ≤ e ∧ (e = -1074 ∨ m.log2 = 52) := by
  have bias : (format.exponentBias : Int) + format.mantissaBitsWithoutImplicit = 1075 := by decide
  unfold UnpackedFloat.unpack at read
  simp only [bias] at read
  split at read
  · split at read <;> cases read
  split at read
  next none =>
    have unbiased : (@unpackExponent format bits).toNat = 0 := congrArg BitVec.toNat none
    split at read
    · cases read
    · cases read
      omega
  next some =>
    have biased : (@unpackExponent format bits).toNat ≠ 0 :=
      fun none => some (BitVec.toNat_inj.mp none)
    cases read
    refine ⟨by omega, .inr ?_⟩
    rw [toNat_append_unpackMantissa]
    exact (Nat.log2_eq_iff (by omega)).mpr ⟨by omega, by omega⟩

theorem lt_of_unpack {bits : BitVec 64} {sign : Sign} {m : Nat} {e : Int} {pos : 0 < m}
    (read : UnpackedFloat.unpack format bits = .finite sign m e pos) : m < 2 ^ 53 :=
  (Nat.log2_lt (Nat.ne_of_gt pos)).mp (Nat.lt_succ_of_le (log2_le_of_unpack read))

theorem unpack_of_nonneg {v : Float} (nonneg : 0 ≤ v) :
    (∃ sign, v.toModel.unpack = .zero sign) ∨
      (∃ m e pos, v.toModel.unpack = .finite .positive m e pos) ∨
        v.toModel.unpack = .infinity .positive := by
  rw [le_iff] at nonneg
  change (UnpackedFloat.zero .positive).le _ = true at nonneg
  generalize v.toModel.unpack = x at *
  rcases x with (_ | _) | _ | sign | ⟨_ | _, m, e, pos⟩
  · exact Bool.noConfusion nonneg
  · exact .inr (.inr rfl)
  · exact Bool.noConfusion nonneg
  · exact .inl ⟨sign, rfl⟩
  · exact Bool.noConfusion nonneg
  · exact .inr (.inl ⟨m, e, pos, rfl⟩)

theorem lt_iff {a b : Float} : a < b ↔ a.toModel.unpack.lt b.toModel.unpack = true := by
  change decide (_ = true) = true ↔ _
  exact decide_eq_true_iff

section Positive

variable {m m' : Nat} {e e' : Int} {pos : 0 < m} {pos' : 0 < m'}

theorem lt_positive_iff :
    (UnpackedFloat.finite .positive m e pos).lt (.finite .positive m' e' pos') = true ↔
      e < e' ∨ e = e' ∧ m < m' := by
  have compared : (UnpackedFloat.finite .positive m e pos).lt (.finite .positive m' e' pos') =
      (some ((compare e e').then (compare m m')) == some .lt) := rfl
  rw [compared, beq_iff_eq, Option.some.injEq, Ordering.then_eq_lt, Int.compare_eq_lt,
    Int.compare_eq_eq, Nat.compare_eq_lt]

theorem le_positive_iff :
    (UnpackedFloat.finite .positive m e pos).le (.finite .positive m' e' pos') = true ↔
      e < e' ∨ e = e' ∧ m ≤ m' := by
  change ((compare e e').then (compare m m')).isLE = true ↔ _
  rw [Ordering.isLE_then_iff_or, Int.compare_eq_lt, Int.compare_eq_eq, Nat.isLE_compare]

end Positive

end Reading

section Seconds

theorem atMost_of_lt {a b : Float} {m : Nat} {e : Int} {pos : 0 < m}
    (read : b.toModel.unpack = .finite .positive m e pos) (full : 2 ^ 52 < m) (nonneg : 0 ≤ a)
    (less : a < b) :
    AtMost (m - 1) e a.toModel.unpack := by
  rw [lt_iff, read] at less
  rcases unpack_of_nonneg nonneg with ⟨sign, zero⟩ | ⟨m₁, e₁, pos₁, same⟩ | infinite
  · rw [zero]
    exact .zero sign
  · have bits := lt_of_unpack same
    have least := (canonical_of_unpack same).1
    rw [same, lt_positive_iff] at less
    rw [same]
    rcases less with lighter | ⟨rfl, below⟩
    · refine .finite pos₁ ⟨least, Int.le_of_lt lighter, ?_⟩
      have twice : 2 ^ 1 ≤ 2 ^ (e - e₁).toNat := Nat.pow_le_pow_right (by decide) (by omega)
      calc
        m₁ ≤ (m - 1) * 2 ^ 1 := by omega
        _ ≤ (m - 1) * 2 ^ (e - e₁).toNat := Nat.mul_le_mul_left _ twice
    · refine .finite pos₁ ⟨least, Int.le_refl _, ?_⟩
      rw [Int.sub_self, Int.toNat_zero, Nat.pow_zero, Nat.mul_one]
      omega
  · rw [infinite] at less
    cases less

/-- Divided by what it stays below `2 ^ k` times, a number stays below `2 ^ k`, rounding
included. -/
theorem div_below {x : UnpackedFloat} {m : Nat} {e : Int} {pos : 0 < m}
    (atMost : AtMost (m - 1) (e + k) x) (bits : m < 2 ^ 53) (least : -1021 ≤ k) :
    AtMost (2 ^ 53 - 1) (k - 53) (UnpackedFloat.div format x (.finite .positive m e pos)) := by
  rcases atMost with sign | ⟨pos₁, -, most, le⟩
  · exact .zero _
  · next m₁ e₁ =>
    have lighter : m₁.log2 + e₁ ≤ m.log2 + e + k := by
      have wider := log2_mono (le.trans (Nat.mul_le_mul_right _ (Nat.sub_le m 1)))
      rw [log2_mul_two_pow pos] at wider
      omega
    have low : min (e₁ - e) (format.targetExponent (totalExponent m₁ e₁ - totalExponent m e)) ≤
        k - 53 := by
      simp only [Format.targetExponent, totalExponent, Format.mantissaBits, Format.minExponent]
      omega
    change AtMost _ _ (roundWithAccuracy format .positive _ _ _)
    have lower := Int.min_le_left (e₁ - e)
      (format.targetExponent (totalExponent m₁ e₁ - totalExponent m e))
    generalize min (e₁ - e) (format.targetExponent (totalExponent m₁ e₁ - totalExponent m e)) = t
      at low lower ⊢
    refine roundWithAccuracy_atMost low (.inl ?_) (by decide) (by omega)
    rw [Nat.div_lt_iff_lt_mul pos]
    generalize amount : (k - 53 - t).toNat = n
    have shift : (e + k - e₁).toNat + (e₁ - e - t).toNat = n + 53 := by omega
    -- The last of 53 bits is what the divisor, of no more bits, leaves.
    have room : (m - 1) * 2 ^ 53 < (2 ^ 53 - 1) * m := by omega
    calc
      m₁ <<< (e₁ - e - t).toNat = m₁ * 2 ^ (e₁ - e - t).toNat := Nat.shiftLeft_eq ..
      _ ≤ (m - 1) * 2 ^ (e + k - e₁).toNat * 2 ^ (e₁ - e - t).toNat := Nat.mul_le_mul_right _ le
      _ = (m - 1) * 2 ^ 53 * 2 ^ n := by
        rw [Nat.mul_assoc, ← Nat.pow_add, shift, Nat.pow_add, Nat.mul_comm (2 ^ n), Nat.mul_assoc]
      _ < (2 ^ 53 - 1) * m * 2 ^ n := Nat.mul_lt_mul_of_pos_right room (Nat.two_pow_pos n)
      _ = (2 ^ 53 - 1) * 2 ^ n * m := Nat.mul_right_comm ..

theorem within_of_atMost {x : UnpackedFloat} {limit : Nat} {top : Int} (atMost : AtMost limit top x)
    (positive : 0 < limit) (below : limit.log2 + top < k) : Within k x := by
  rcases atMost with sign | ⟨pos, -, most, le⟩
  · trivial
  · next m e =>
    have wider := log2_mono le
    rw [log2_mul_two_pow positive] at wider
    rw [within_finite]
    exact ⟨rfl, by omega⟩

def limitUs : Float := 18446744073709551616000000.0

theorem unpack_limitUs :
    limitUs.toModel.unpack = .finite .positive (15625 * 2 ^ 39) 31 (by decide) := rfl

/-- Any exposure below `2 ^ 64` seconds is a span of time. -/
theorem isSome_of_exposure {v : Float} (nonneg : 0 ≤ v) (less : v < limitUs) :
    (secondsToNanos? (v / 1000000.0)).isSome := by
  have micros := atMost_of_lt unpack_limitUs (by decide) nonneg less
  have seconds : AtMost (2 ^ 53 - 1) 11 (v / 1000000.0).toModel.unpack := by
    change AtMost _ _ (pack (UnpackedFloat.div format _ (1000000.0 : Float).toModel.unpack)).unpack
    rw [unpack_million]
    exact pack_atMost (div_below (k := 64) micros (by decide) (by decide)) (by decide)
  exact secondsToNanos?_isSome (within_of_atMost seconds (by decide) (by decide))

end Seconds

section Periods

theorem div_infinity_of_within {a b : Float} {sign : Sign} (within : Within k a.toModel.unpack)
    (infinite : b.toModel.unpack = .infinity sign) (l : Int) :
    Within l (a / b).toModel.unpack := by
  change Within l (pack (UnpackedFloat.div format a.toModel.unpack b.toModel.unpack)).unpack
  have zero : ∃ sign',
      UnpackedFloat.div format a.toModel.unpack b.toModel.unpack = .zero sign' := by
    rw [infinite]
    generalize a.toModel.unpack = x at *
    rcases x with _ | _ | _ | _
    · exact within.elim
    · exact within.elim
    · exact ⟨_, rfl⟩
    · exact ⟨_, rfl⟩
  obtain ⟨sign', zero⟩ := zero
  rw [zero]
  cases sign' <;> trivial

theorem isSome_of_period (profile : StreamProfile) :
    (secondsToNanos? (profile.frameTimeMs / 1000.0)).isSome := by
  have thousand : Within 10 (1000.0 : Float).toModel.unpack := by
    rw [unpack_thousand, within_finite]
    exact ⟨rfl, by decide⟩
  have millis : Within 11 profile.frameTimeMs.toModel.unpack := by
    rcases unpack_ofNat_positive (n := max profile.fps 1) (by omega) with
      ⟨m, e, pos, read, least⟩ | infinite
    · exact thousand.div (l := 0) read (by omega) (by decide) (by decide)
    · exact div_infinity_of_within thousand infinite 11
  have seconds := millis.div (l := 9) unpack_thousand (by decide) (by decide) (by decide)
  exact secondsToNanos?_isSome (seconds.mono (by decide))

end Periods

section Modes

theorem roundDiv_of_le_one {num den : Nat} (positive : 0 < den) (le : num ≤ den) :
    roundDiv .away num den = if 2 * num < den then 0 else 1 := by
  rcases Nat.lt_or_eq_of_le le with less | rfl
  · simp only [roundDiv, Nat.div_eq_of_lt less, Nat.mod_eq_of_lt less]
    split
    · rfl
    · split <;> rfl
  · have whole : ¬ 2 * num < num := by omega
    simp [roundDiv, Nat.div_self positive, positive, whole]

theorem unpack_half :
    (0.5 : Float).toModel.unpack = .finite .positive (2 ^ 52) (-53) (by decide) := rfl

theorem unpack_unit :
    (1 : Float).toModel.unpack = .finite .positive (2 ^ 52) (-52) (by decide) := rfl

theorem toInt64_of_le_one (negative : Bool) {m : Nat} {e : Int} (sign : negative = true → m = 0)
    (fraction : e ≤ 0) (le : m ≤ 2 ^ (-e).toNat) :
    (Binary64.finite negative m e).toInt64 (roundDiv .away) =
      if 2 * m < 2 ^ (-e).toNat then 0 else 1 := by
  have whole : e.toNat = 0 := by omega
  have rounded := roundDiv_of_le_one (Nat.two_pow_pos _) le
  simp only [Binary64.toInt64, Binary64.ratio, whole, Nat.pow_eq, Nat.pow_zero, Nat.mul_one,
    rounded]
  by_cases half : 2 * m < 2 ^ (-e).toNat
  · rw [if_pos half, if_pos half]
    cases negative <;> rfl
  · rw [if_neg half, if_neg half]
    cases negative with
    | false => rfl
    | true =>
      have : 0 < 2 ^ (-e).toNat := Nat.two_pow_pos _
      rw [sign rfl] at half
      omega

theorem fraction_of_unit {m : Nat} {e : Int} (short : m < 2 ^ 53)
    (full : e = -1074 ∨ m.log2 = 52) (le : e < -52 ∨ e = -52 ∧ m ≤ 2 ^ 52) :
    m ≤ 2 ^ (-e).toNat ∧ ((e < -53 ∨ e = -53 ∧ m < 2 ^ 52) ↔ 2 * m < 2 ^ (-e).toNat) := by
  have cases : e < -53 ∨ e = -53 ∨ e = -52 := by omega
  rcases cases with light | rfl | rfl
  · have wide : 2 ^ 54 ≤ 2 ^ (-e).toNat := Nat.pow_le_pow_right (by decide) (by omega)
    exact ⟨by omega, iff_of_true (.inl light) (by omega)⟩
  · change m ≤ 2 ^ 53 ∧ (_ ↔ 2 * m < 2 ^ 53)
    omega
  · -- One itself: its mantissa has all bits, and so it is no less than a half.
    have least : 2 ^ 52 ≤ m := by
      have bits : m.log2 = 52 := full.resolve_left (by decide)
      exact bits ▸ Nat.log2_self_le fun none => by simp [none] at bits
    change m ≤ 2 ^ 52 ∧ (_ ↔ 2 * m < 2 ^ 52)
    omega

theorem roundToInt64_of_unit {v : Float} (nonneg : 0 ≤ v) (le : v ≤ 1) :
    roundToInt64 v = if v < 0.5 then 0 else 1 := by
  rw [le_iff, unpack_unit] at le
  rw [roundToInt64, ofFloat_eq]
  rcases unpack_of_nonneg nonneg with ⟨sign, zero⟩ | ⟨m, e, pos, same⟩ | infinite
  · have below : v < 0.5 := by
      rw [lt_iff, zero, unpack_half]
      cases sign <;> rfl
    rw [if_pos below, zero]
    exact (toInt64_of_le_one _ (fun _ => rfl) (by decide) (Nat.zero_le _)).trans
      (if_pos (Nat.two_pow_pos _))
  · have short := lt_of_unpack same
    have full := (canonical_of_unpack same).2
    rw [same, le_positive_iff] at le
    obtain ⟨atMost, half⟩ := fraction_of_unit short full le
    have below : v < 0.5 ↔ 2 * m < 2 ^ (-e).toNat := by
      rw [lt_iff, same, unpack_half, lt_positive_iff, half]
    rw [same]
    have rounded := toInt64_of_le_one false Bool.noConfusion (by omega) atMost
    exact rounded.trans (by simp only [below])
  · rw [infinite] at le
    cases le

theorem ofValue?_of_unit {v : Float} (nonneg : 0 ≤ v) (le : v ≤ 1) :
    ExposureMode.ofValue? v = some (if v < 0.5 then .regular else .accelerated) := by
  rw [ExposureMode.ofValue?, roundToInt64_of_unit nonneg le]
  by_cases below : v < 0.5
  · simp only [if_pos below]
  · simp only [if_neg below]

end Modes

end ExposureBench.Conversion
