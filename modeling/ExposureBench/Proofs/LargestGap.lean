import ExposureBench.Proofs.Conversion
import ExposureBench.Proofs.Gaps

/-!
Numbers have ranks, and what is no number ranks below them all; so the larger of two is the one of
the higher rank.
-/

namespace ExposureBench

namespace Ranking

open Float.Model

abbrev Place := ℤ ×ₗ ℤ ×ₗ ℤ

def place (kind exponent mantissa : ℤ) : WithBot Place :=
  ↑(toLex (kind, toLex (exponent, mantissa)) : Place)

theorem place_lt_place_iff {kind exponent mantissa kind' exponent' mantissa' : ℤ} :
    place kind exponent mantissa < place kind' exponent' mantissa' ↔
      kind < kind' ∨ kind = kind' ∧
        (exponent < exponent' ∨ exponent = exponent' ∧ mantissa < mantissa') := by
  simp only [place, WithBot.coe_lt_coe, Prod.Lex.toLex_lt_toLex]

theorem bot_lt_place (kind exponent mantissa : ℤ) : ⊥ < place kind exponent mantissa :=
  WithBot.bot_lt_coe _

/-- Negative numbers are the lower, the larger their magnitude, and the two zeros are one. -/
def rankOf : UnpackedFloat → WithBot Place
  | .notANumber => ⊥
  | .infinity .negative => place (-2) 0 0
  | .finite .negative m e _ => place (-1) (-e) (-m)
  | .zero _ => place 0 0 0
  | .finite .positive m e _ => place 1 e m
  | .infinity .positive => place 2 0 0

theorem rankOf_eq_bot_iff (x : UnpackedFloat) : rankOf x = ⊥ ↔ x.isNaN = true := by
  rcases x with (_ | _) | _ | _ | ⟨_ | _, m, e, _⟩
  case notANumber => exact iff_of_true rfl rfl
  all_goals exact iff_of_false (bot_lt_place ..).ne' Bool.false_ne_true

theorem lt_iff_rankOf (x y : UnpackedFloat) :
    x.lt y = true ↔ ⊥ < rankOf x ∧ rankOf x < rankOf y := by
  have signs : compare UnpackedFloat.Sign.negative .positive = Ordering.lt := rfl
  rcases x with (_ | _) | _ | _ | ⟨_ | _, m, e, _⟩ <;>
    rcases y with (_ | _) | _ | _ | ⟨_ | _, m', e', _⟩ <;>
    simp only [UnpackedFloat.lt, UnpackedFloat.compare, signs, beq_iff_eq, Option.some.injEq,
      reduceCtorEq, Ordering.swap_eq_lt, Ordering.then_eq_lt, Ordering.then_eq_gt,
      Int.compare_eq_lt, Int.compare_eq_gt, Int.compare_eq_eq, Nat.compare_eq_lt,
      Nat.compare_eq_gt, rankOf, place_lt_place_iff, bot_lt_place, lt_self_iff_false, not_lt_bot,
      true_and, false_and, and_false, or_false, false_or, true_iff, false_iff]
  -- Left are the kinds that differ, and two magnitudes of one sign.
  all_goals omega

def rank (x : Float) : WithBot Place := rankOf x.toModel.unpack

theorem rank_eq_bot_iff {x : Float} : rank x = ⊥ ↔ x.isNaN = true :=
  rankOf_eq_bot_iff x.toModel.unpack

theorem lt_iff_rank {a b : Float} : a < b ↔ ⊥ < rank a ∧ rank a < rank b :=
  Conversion.lt_iff.trans (lt_iff_rankOf _ _)

theorem rank_larger (a b : Float) : rank (larger a b) = max (rank a) (rank b) := by
  unfold larger
  split
  next none => rw [rank_eq_bot_iff.mpr none, max_bot_left]
  next number =>
  split
  next less => exact (max_eq_right (lt_iff_rank.mp less).2.le).symm
  next notLess =>
    have known : ⊥ < rank a := bot_lt_iff_ne_bot.mpr (mt rank_eq_bot_iff.mp number)
    have le : rank b ≤ rank a := not_lt.mp fun less => notLess (lt_iff_rank.mpr ⟨known, less⟩)
    exact (max_eq_left le).symm

theorem lt_larger_iff {t a b : Float} : t < larger a b ↔ t < a ∨ t < b := by
  simp only [lt_iff_rank, rank_larger, lt_max_iff, and_or_left]

theorem lt_foldl_larger_iff {t : Float} (first : Float) (others : List Float) :
    t < others.foldl larger first ↔ t < first ∨ ∃ x ∈ others, t < x := by
  induction others generalizing first with
  | nil => simp
  | cons x rest ih => rw [List.foldl_cons, ih, lt_larger_iff, or_assoc, List.exists_mem_cons_iff]

theorem not_lt_zero {t : Float} (nonneg : 0 ≤ t) : ¬ t < 0 := by
  obtain ⟨zero, number⟩ := Magnitude.not_nan_of_le nonneg
  intro below
  exact (Rate.not_le_iff_lt zero number).mpr below nonneg

end Ranking

section Threshold

variable {threshold : Float} (ts : Array Float) (start : Nat)

theorem spikeCount_pos_iff :
    0 < spikeCount ts threshold start ↔
      ∃ i, start < i ∧ i < ts.size ∧ threshold < gapAt ts i := by
  simp only [spikeCount, List.countP_pos_iff, mem_gapEnds_iff, min_self, decide_eq_true_eq,
    and_assoc]

/-- The fold begins at zero, which no threshold that is not negative lies below. -/
theorem lt_maxGap_iff (nonneg : 0 ≤ threshold) :
    threshold < maxGap ts start ↔ ∃ i, start < i ∧ i < ts.size ∧ threshold < gapAt ts i := by
  have gaps : maxGap ts start = ((gapEnds ts start ts.size).map (gapAt ts)).foldl larger 0 :=
    List.foldl_map.symm
  rw [gaps, Ranking.lt_foldl_larger_iff, or_iff_right (Ranking.not_lt_zero nonneg)]
  simp only [List.mem_map, exists_exists_and_eq_and]
  simp only [mem_gapEnds_iff, min_self, and_assoc]

end Threshold

/-- The largest gap and the spikes tell the same. From any frame on there is a spike exactly if the
largest gap is above the threshold, that is if the gap at some later frame is; so a summary is
without spikes exactly if its largest gap is not above the threshold of its analyzer. Arrivals may
be infinite or no numbers, as long as the threshold is one that is not negative. -/
theorem spikes_iff_largest_gap_above :
    (∀ (ts : Array Float) (start : Nat) (frameTimeMs percent : Float),
      let threshold := spikeThreshold frameTimeMs percent
      0 ≤ threshold →
        (0 < spikeCount ts threshold start ↔ threshold < maxGap ts start) ∧
        (threshold < maxGap ts start ↔
          ∃ i, start < i ∧ i < ts.size ∧ threshold < gapAt ts i)) ∧
      ∀ (a : TimingAnalyzer) (ts : Array Float),
        let summary := a.summarize ts
        0 ≤ a.threshold →
          (summary.spikes = 0 ↔ ¬ a.threshold < summary.maxGapMs) ∧
          (a.threshold < summary.maxGapMs ↔
            ∃ i, 0 < i ∧ i < ts.size ∧ a.threshold < gapAt ts i) := by
  have agree {threshold : Float} (ts : Array Float) (start : Nat) (nonneg : 0 ≤ threshold) :
      0 < spikeCount ts threshold start ↔ threshold < maxGap ts start :=
    (spikeCount_pos_iff ts start).trans (lt_maxGap_iff ts start nonneg).symm
  refine ⟨fun ts start frameTimeMs percent => ?_, fun a ts => ?_⟩
  · intro threshold nonneg
    exact ⟨agree ts start nonneg, lt_maxGap_iff ts start nonneg⟩
  · intro summary nonneg
    have same : 0 < summary.spikes ↔ a.threshold < summary.maxGapMs := agree ts 0 nonneg
    refine ⟨?_, lt_maxGap_iff ts 0 nonneg⟩
    rw [← same, Nat.pos_iff_ne_zero, not_not]

theorem spikes_among_unreadable_arrivals :
    let threshold := spikeThreshold 10.0 10.0
    let late : Array Float := #[0.0, 10.0, 0.0 / 0.0, 20.0, 45.0, 1.0 / 0.0]
    let early : Array Float := #[0.0, 11.0, 0.0 / 0.0, 20.0, -1.0 / 0.0]
    0 ≤ threshold ∧ threshold < maxGap late 2 ∧
      (∃ i, 2 < i ∧ i < late.size ∧ threshold < gapAt late i) ∧
      ((TimingAnalyzer.mk 10.0 10.0).summarize early).spikes = 0 := by
  intro threshold late early
  have nonneg : 0 ≤ threshold := by decide
  have above := spikes_iff_largest_gap_above.1 late 2 10.0 10.0 nonneg
  have largest : threshold < maxGap late 2 := above.1.mp (by decide +kernel)
  have calm := spikes_iff_largest_gap_above.2 (TimingAnalyzer.mk 10.0 10.0) early nonneg
  exact ⟨nonneg, largest, above.2.mp largest, calm.1.mpr (by decide +kernel)⟩

end ExposureBench
