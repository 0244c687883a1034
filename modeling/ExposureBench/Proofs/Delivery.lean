import ExposureBench.Device.Camera
import Mathlib

namespace ExposureBench

namespace Delivery

/-- The lagging frames left when a frame is made. -/
def lag (config : CameraConfig) (d : Delivery) : Nat :=
  if d.held.autoExposure = d.requested then d.lagLeft else config.lagFrames

variable (config : CameraConfig) (d : Delivery)

theorem settle_eq :
    d.settle config = { d with
      requested := d.held.autoExposure
      reported := if 0 < d.lag config then d.reported else d.held.autoExposure
      lagLeft := d.lag config - 1 } := by
  by_cases lagging : 0 < d.lag config
  · rw [if_pos lagging]
    exact if_pos lagging
  · rw [if_neg lagging, Nat.eq_zero_of_not_pos lagging]
    exact if_neg lagging

@[simp] theorem profile_settle : (d.settle config).profile = d.profile := by rw [settle_eq]

@[simp] theorem requested_settle : (d.settle config).requested =
    d.held.autoExposure := by rw [settle_eq]

@[simp] theorem lagLeft_settle : (d.settle config).lagLeft = d.lag config - 1 := by rw [settle_eq]

@[simp] theorem reported_settle :
    (d.settle config).reported = if 0 < d.lag config then d.reported else d.held.autoExposure := by
      rw [settle_eq]

variable (controls : Controls) (period time : Nat)

@[simp] theorem profile_advance : (d.advance config controls period).profile =
    d.profile := d.profile_settle config

@[simp] theorem requested_advance : (d.advance config controls period).requested =
    d.held.autoExposure :=
  d.requested_settle config

@[simp] theorem lagLeft_advance : (d.advance config controls period).lagLeft = d.lag config - 1 :=
  d.lagLeft_settle config

@[simp] theorem reported_advance :
    (d.advance config controls period).reported =
      if 0 < d.lag config then d.reported else d.held.autoExposure :=
  d.reported_settle config

section RunUntil

variable {config : CameraConfig} {controls : Controls} {period? : Option Nat} {time period : Nat}

section

variable {d : Delivery}

theorem runUntil_early (early : time < d.due) :
    d.runUntil config controls period? time = (.running d, []) := by
  rw [runUntil.eq_def, if_pos early]

theorem runUntil_failed (due : d.due ≤ time) :
    d.runUntil config controls none time =
      (.failed, if config.isStalledAt d.number then [] else [d.arrival config]) := by
  rw [runUntil.eq_def, if_neg (Nat.not_lt.mpr due)]

theorem runUntil_stalled (due : d.due ≤ time) (stalled : config.isStalledAt d.number) :
    d.runUntil config controls (some period) time =
      (.running (d.idleUntil controls (max period 1) time), []) := by
  rw [runUntil.eq_def, if_neg (Nat.not_lt.mpr due)]
  dsimp only
  rw [if_pos stalled]

theorem runUntil_next (due : d.due ≤ time) (going : ¬ config.isStalledAt d.number) :
    d.runUntil config controls (some period) time =
      (((d.advance config controls (max period 1)).runUntil config controls (some period) time).1,
        d.arrival config ::
          ((d.advance config controls (max period 1)).runUntil config controls (some period) time).2)
      := by
  rw [runUntil.eq_def, if_neg (Nat.not_lt.mpr due)]
  dsimp only
  rw [if_neg going]

end

variable (config controls period? time) in
theorem frame_induction {motive : Delivery → Prop}
    (early : ∀ d : Delivery, time < d.due → motive d)
    (failed : ∀ d : Delivery, d.due ≤ time → period? = none → motive d)
    (stalled : ∀ (d : Delivery) (period : Nat), d.due ≤ time → period? = some period →
      config.isStalledAt d.number → motive d)
    (next : ∀ (d : Delivery) (period : Nat), d.due ≤ time → period? = some period →
      ¬ config.isStalledAt d.number → motive (d.advance config controls (max period 1)) → motive d)
    (d : Delivery) : motive d := by
  generalize left : time + 1 - d.due = n
  induction n using Nat.strongRecOn generalizing d with
  | ind n ih =>
    rcases Nat.lt_or_ge time d.due with waiting | due
    · exact early d waiting
    rcases found : period? with _ | period
    · exact failed d due found
    by_cases still : config.isStalledAt d.number
    · exact stalled d period due found still
    · refine next d period due found still
        (ih (time + 1 - (d.advance config controls (max period 1)).due) ?_ _ rfl)
      simp only [advance]
      omega

/-- A delivery runs frame by frame: till it is early, fails for want of a period, or stalls. -/
theorem runUntil_induction {motive : Delivery → Worker × List Arrival → Prop}
    (early : ∀ d : Delivery, time < d.due → motive d (.running d, []))
    (failed : ∀ d : Delivery, period? = none →
      motive d (.failed, if config.isStalledAt d.number then [] else [d.arrival config]))
    (stalled : ∀ (d : Delivery) (period : Nat), period? = some period →
      motive d (.running (d.idleUntil controls (max period 1) time), []))
    (next : ∀ (d : Delivery) (period : Nat) (rest : Worker × List Arrival), period? = some period →
      motive (d.advance config controls (max period 1)) rest →
        motive d (rest.1, d.arrival config :: rest.2))
    (d : Delivery) : motive d (d.runUntil config controls period? time) := by
  induction d using frame_induction config controls period? time with
  | early d waiting =>
    rw [runUntil_early waiting]
    exact early d waiting
  | failed d due missing =>
    subst missing
    rw [runUntil_failed due]
    exact failed d rfl
  | stalled d period due found still =>
    subst found
    rw [runUntil_stalled due still]
    exact stalled d period rfl
  | next d period due found going ih =>
    subst found
    rw [runUntil_next due going]
    exact next d period _ rfl ih

end RunUntil

theorem runUntil_not_idle (period? : Option Nat) :
    (d.runUntil config controls period? time).1 ≠ .idle := by
  refine runUntil_induction (motive := fun _ result => result.1 ≠ .idle) ?_ ?_ ?_ ?_ d
  · intro d _
    exact Worker.noConfusion
  · intro d _
    exact Worker.noConfusion
  · intro d period _
    exact Worker.noConfusion
  · intro d period rest _ ih
    exact ih

theorem runUntil_running :
    ∃ d', (d.runUntil config controls (some period) time).1 = .running d' ∧
      d'.profile = d.profile := by
  refine runUntil_induction (motive := fun d result => ∃ d', result.1 = .running d' ∧
    d'.profile = d.profile) ?_ ?_ ?_ ?_ d
  · intro d _
    exact ⟨d, rfl, rfl⟩
  · intro d missing
    cases missing
  · intro d period _
    exact ⟨_, rfl, rfl⟩
  · intro d period rest _ ih
    obtain ⟨d', running, profile⟩ := ih
    exact ⟨d', running, profile.trans (d.profile_advance config controls _)⟩

end Delivery

end ExposureBench
