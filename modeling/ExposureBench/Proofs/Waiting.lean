import ExposureBench.Proofs.Operation
import ExposureBench.Proofs.Passage

/-!
A wait looks at its log at fixed instants, and returns at the first of them at which enough frames
have come, or else at its deadline.
-/

namespace ExposureBench

namespace Bench

/-- The frames that a log takes within so many milliseconds of sleep. -/
def recordedWithin (b : Bench) (log : LogId) (ms : Nat) : Nat :=
  (b.sleep ms).count log - b.count log

variable (b : Bench) (log : LogId)

theorem recordedWithin_mono {ms later : Nat} (le : ms ≤ later) :
    b.recordedWithin log ms ≤ b.recordedWithin log later := by
  have parts : b.sleep later = (b.sleep ms).sleep (later - ms) := by
    rw [sleep_sleep, Nat.add_sub_cancel' le]
  have grows : (b.sleep ms).count log ≤ (b.sleep later).count log := by
    rw [parts]
    exact (Evolves.refl.slept _).count_le log
  exact Nat.sub_le_sub_right grows _

theorem recordedWithin_eq (ms : Nat) {horizon : Nat}
    (ahead : b.now + Duration.ofMillis ms ≤ horizon) :
    b.recordedWithin log ms =
      if 0 < ms ∧ b.feed = some log ∧ (b.log? log).isSome then
        ((b.device.runUntil horizon).2.filter (·.time ≤ b.now + Duration.ofMillis ms)).length
      else 0 := by
  rw [← b.device.runUntil_filter ahead, recordedWithin]
  rcases Nat.eq_zero_or_pos ms with rfl | positive
  · simp [sleep]
  rw [count, log?_sleep _ positive]
  by_cases fed : b.feed = some log
  · rw [if_pos fed, count]
    cases present : b.log? log with
    | none => simp
    | some recorded => simp [positive, fed, recordAll_eq]
  · simp [fed, count]

end Bench

namespace Barrier

/-- When a wait looks at its log: every so often, and at its deadline. -/
def instant (barrier : Barrier) (timeout k : Nat) : Nat := min (k * barrier.pollMs) timeout

theorem instant_succ {barrier : Barrier} {timeout k : Nat}
    (early : barrier.instant timeout k < timeout) :
    barrier.instant timeout k + min barrier.pollMs (timeout - barrier.instant timeout k) =
      barrier.instant timeout (k + 1) := by
  simp only [instant, Nat.succ_mul] at early ⊢
  omega

/-- How a wait ends, if so many frames have been recorded at each time since it began. -/
structure Ends (barrier : Barrier) (frames timeout : Nat) (recorded : Nat → Nat)
    (outcome : BarrierOutcome) : Prop where
  requested : outcome.requested = frames
  observed : outcome.observed = recorded outcome.elapsedMs
  elapsed :
    (∃ k, outcome.elapsedMs = barrier.instant timeout k ∧
      frames ≤ recorded (barrier.instant timeout k) ∧
      ∀ j < k, recorded (barrier.instant timeout j) < frames) ∨
    (outcome.elapsedMs = timeout ∧ ∀ k, recorded (barrier.instant timeout k) < frames)

variable {barrier : Barrier} {frames timeout : Nat} {recorded : Nat → Nat}
    {outcome outcome' : BarrierOutcome}

theorem Ends.elapsed_le (ends : barrier.Ends frames timeout recorded outcome) :
    outcome.elapsedMs ≤ timeout := by
  rcases ends.elapsed with ⟨k, elapsed, _⟩ | ⟨elapsed, _⟩
  · rw [elapsed]
    exact Nat.min_le_right _ _
  · exact Nat.le_of_eq elapsed

theorem Ends.isSatisfied_iff (ends : barrier.Ends frames timeout recorded outcome)
    (grows : ∀ ms later, ms ≤ later → recorded ms ≤ recorded later) :
    outcome.isSatisfied ↔ frames ≤ recorded timeout := by
  rw [BarrierOutcome.isSatisfied, ends.requested, ends.observed, decide_eq_true_iff]
  constructor
  · intro enough
    exact Nat.le_trans enough (grows _ _ ends.elapsed_le)
  · intro enough
    rcases ends.elapsed with ⟨k, elapsed, satisfied, _⟩ | ⟨elapsed, _⟩
    · rw [elapsed]
      exact satisfied
    · rw [elapsed]
      exact enough

theorem Ends.unique (ends : barrier.Ends frames timeout recorded outcome)
    (ends' : barrier.Ends frames timeout recorded outcome') : outcome = outcome' := by
  have elapsed : outcome.elapsedMs = outcome'.elapsedMs := by
    rcases ends.elapsed with ⟨k, at_k, enough, first⟩ | ⟨late, never⟩ <;>
      rcases ends'.elapsed with ⟨k', at_k', enough', first'⟩ | ⟨late', never'⟩
    · have same : k = k' := by
        apply Nat.le_antisymm
        · exact Nat.le_of_not_lt fun before => Nat.not_lt.mpr enough' (first k' before)
        · exact Nat.le_of_not_lt fun before => Nat.not_lt.mpr enough (first' k before)
      rw [at_k, at_k', same]
    · exact absurd enough (Nat.not_le.mpr (never' k))
    · exact absurd enough' (Nat.not_le.mpr (never k'))
    · rw [late, late']
  have observed : outcome.observed = outcome'.observed := by
    rw [ends.observed, ends'.observed, elapsed]
  have requested := ends.requested.trans ends'.requested.symm
  rcases outcome with ⟨_, _, _⟩
  rcases outcome' with ⟨_, _, _⟩
  cases elapsed
  cases observed
  cases requested
  rfl

theorem waitFrom_ends (barrier : Barrier) (log : LogId) (frames timeout base elapsed : Nat)
    (b b₀ : Bench) (k : Nat) (began : base = b₀.count log)
    (now : elapsed = barrier.instant timeout k) (slept : b = b₀.sleep elapsed)
    (before : ∀ j < k, b₀.recordedWithin log (barrier.instant timeout j) < frames) :
    barrier.Ends frames timeout (b₀.recordedWithin log)
        (barrier.waitFrom log frames timeout base elapsed b).1 ∧
      (barrier.waitFrom log frames timeout base elapsed b).2 =
        b₀.sleep (barrier.waitFrom log frames timeout base elapsed b).1.elapsedMs := by
  fun_induction waitFrom barrier log frames timeout base elapsed b generalizing k with
  | case1 elapsed b outcome satisfied =>
    have observed : outcome.observed = b₀.recordedWithin log elapsed := by
      rw [Bench.recordedWithin, ← slept, ← began]
    have enough : frames ≤ b₀.recordedWithin log elapsed := by
      rw [← observed]
      exact of_decide_eq_true satisfied
    rw [now] at enough
    exact ⟨⟨rfl, observed, .inl ⟨k, now, enough, before⟩⟩, slept⟩
  | case2 elapsed b outcome unsatisfied late =>
    have observed : outcome.observed = b₀.recordedWithin log elapsed := by
      rw [Bench.recordedWithin, ← slept, ← began]
    have last : elapsed = timeout := by
      apply Nat.le_antisymm _ late
      rw [now]
      exact Nat.min_le_right _ _
    have few : b₀.recordedWithin log timeout < frames := by
      rw [← last, ← observed]
      exact Nat.not_le.mp fun enough => unsatisfied (decide_eq_true enough)
    have never : ∀ j, b₀.recordedWithin log (barrier.instant timeout j) < frames := by
      intro j
      exact Nat.lt_of_le_of_lt (b₀.recordedWithin_mono log (Nat.min_le_right _ _)) few
    exact ⟨⟨rfl, observed, .inr ⟨last, never⟩⟩, slept⟩
  | case3 elapsed b outcome unsatisfied early pause ih =>
    have few : b₀.recordedWithin log elapsed < frames := by
      rw [Bench.recordedWithin, ← slept, ← began]
      exact Nat.not_le.mp fun enough => unsatisfied (decide_eq_true enough)
    have early : barrier.instant timeout k < timeout := now ▸ Nat.not_le.mp early
    have next : elapsed + pause = barrier.instant timeout (k + 1) := by
      rw [← instant_succ early, ← now]
    apply ih (k + 1) next
    · rw [slept, Bench.sleep_sleep]
    · intro j earlier
      rcases Nat.lt_succ_iff_lt_or_eq.mp earlier with lt | rfl
      · exact before j lt
      · rw [← now]
        exact few

theorem wait_ends (barrier : Barrier) (log : LogId) (frames timeout : Nat) (b : Bench) :
    barrier.Ends frames timeout (b.recordedWithin log) (barrier.wait log frames timeout b).1 ∧
      (barrier.wait log frames timeout b).2 =
        b.sleep (barrier.wait log frames timeout b).1.elapsedMs := by
  have start : 0 = barrier.instant timeout 0 := by
    rw [instant, Nat.zero_mul, Nat.zero_min]
  exact barrier.waitFrom_ends log frames timeout _ 0 b b 0 rfl start rfl fun j before =>
    absurd before (Nat.not_lt_zero j)

theorem isSatisfied_wait_iff (barrier : Barrier) (log : LogId) (frames timeout : Nat) (b : Bench) :
    (barrier.wait log frames timeout b).1.isSatisfied ↔ frames ≤ b.recordedWithin log timeout :=
  (barrier.wait_ends log frames timeout b).1.isSatisfied_iff fun _ _ => b.recordedWithin_mono log

/-- A wait returns at the first instant at which enough frames have been recorded since it began,
else at its deadline, and sleeps till then. So how often it looks does not decide whether it is
satisfied; a frame due at the deadline counts, frames recorded earlier do not, and neither more time
nor fewer frames turn a success into a failure. -/
theorem wait_exact (poll frames timeout : Nat) (log : LogId) (b : Bench) :
    let recorded := b.recordedWithin log
    let outcome := ((polling poll).wait log frames timeout b).1
    (polling poll).pollMs = max poll 1 ∧
      (polling poll).Ends frames timeout recorded outcome ∧
      ((polling poll).wait log frames timeout b).2 = b.sleep outcome.elapsedMs ∧
      outcome.elapsedMs ≤ timeout ∧
      (outcome.isSatisfied ↔ frames ≤ recorded timeout) ∧
      (∀ poll', ((polling poll').wait log frames timeout b).1.isSatisfied = outcome.isSatisfied) ∧
      (∀ ms horizon, b.now + Duration.ofMillis ms ≤ horizon → recorded ms =
        if 0 < ms ∧ b.feed = some log ∧ (b.log? log).isSome then
          ((b.device.runUntil horizon).2.filter (·.time ≤ b.now + Duration.ofMillis ms)).length
        else 0) ∧
      (∀ logs : Array FrameLog, (logs[log]?).isSome = (b.log? log).isSome →
        ((polling poll).wait log frames timeout { b with logs }).1 = outcome) ∧
      ∀ poll' frames' timeout', timeout ≤ timeout' → frames' ≤ frames → outcome.isSatisfied →
        ((polling poll').wait log frames' timeout' b).1.isSatisfied := by
  intro recorded outcome
  have waited := (polling poll).wait_ends log frames timeout b
  have satisfied := (polling poll).isSatisfied_wait_iff log frames timeout b
  refine ⟨rfl, waited.1, waited.2, waited.1.elapsed_le, satisfied, ?_, ?_, ?_, ?_⟩
  · intro poll'
    rw [Bool.eq_iff_iff]
    exact ((polling poll').isSatisfied_wait_iff log frames timeout b).trans satisfied.symm
  · intro ms horizon
    exact b.recordedWithin_eq log ms
  · intro logs present
    have same : ({ b with logs } : Bench).recordedWithin log = recorded := by
      funext ms
      have sees : ({ b with logs } : Bench).log? log = logs[log]? := rfl
      rw [Bench.recordedWithin_eq _ log ms (Nat.le_refl _), sees, present]
      exact (b.recordedWithin_eq log ms (Nat.le_refl _)).symm
    have other := ((polling poll).wait_ends log frames timeout { b with logs }).1
    rw [same] at other
    exact other.unique waited.1
  · intro poll' frames' timeout' longer fewer granted
    rw [isSatisfied_wait_iff]
    calc
      frames' ≤ frames := fewer
      _ ≤ b.recordedWithin log timeout := satisfied.mp granted
      _ ≤ b.recordedWithin log timeout' := b.recordedWithin_mono log longer

end Barrier

end ExposureBench
