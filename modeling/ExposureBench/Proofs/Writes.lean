import ExposureBench.Proofs.Lifecycle

namespace ExposureBench

namespace Camera

/-- What is read after a granted write: the value or what it stands for, and the other controls as
before. A manual exposure ends auto-exposure. -/
def ReadsBack (c c' : Camera) (v : Float) : DeviceOption → Prop
  | .exposure => c'.get .exposure = .ok v ∧ c'.get .enableAutoExposure = .ok 0 ∧
      c'.get .autoExposureMode = c.get .autoExposureMode
  | .enableAutoExposure => c'.get .enableAutoExposure = .ok (if v != 0 then 1 else 0) ∧
      c'.get .exposure = c.get .exposure ∧ c'.get .autoExposureMode = c.get .autoExposureMode
  | .autoExposureMode => c'.get .autoExposureMode = .ok (if v < 0.5 then 0 else 1) ∧
      c'.get .exposure = c.get .exposure ∧ c'.get .enableAutoExposure = c.get .enableAutoExposure

def InRange (c : Camera) : Prop :=
  ∃ us, c.get .exposure = .ok us ∧ c.config.exposureRange.min ≤ us ∧ us ≤ c.config.exposureRange.max

/-- How the write of a value to an option goes. -/
structure Writes (c : Camera) (option : DeviceOption) (v : Float) : Prop where
  granted : (c.set option v).1 = .ok () ↔ c.supports option = true ∧
    option ∉ c.config.readOnly ∧ ∃ range, c.range option = .ok range ∧ range.min ≤ v ∧ v ≤ range.max
  known : ∀ w, (c.set option v).1 ≠ .error (.unknownMode w)
  refused : ∀ fault, (c.set option v).1 = .error fault → (c.set option v).2 = c
  readBack : (c.set option v).1 = .ok () → c.ReadsBack (c.set option v).2 v option

section Set

variable {c c' : Camera} {option : DeviceOption} {v : Float}

theorem range_eq (supported : c.supports option = true) :
    c.range option = .ok (c.config.range option) :=
  if_pos supported

theorem set_granted_iff :
    (c.set option v).1 = .ok () ↔ c.supports option = true ∧ option ∉ c.config.readOnly ∧
      ∃ range, c.range option = .ok range ∧ range.min ≤ v ∧ v ≤ range.max := by
  constructor
  · intro granted
    obtain ⟨supported, writable, inside, -⟩ := set_ok_iff.mp (Prod.ext granted rfl)
    exact ⟨supported, writable, _, range_eq supported, of_decide_eq_true inside⟩
  · rintro ⟨supported, writable, range, read, inside⟩
    rw [range_eq supported] at read
    cases read
    have inside : (c.config.range option).contains v = true := decide_eq_true inside
    obtain ⟨controls, effect⟩ := write?_of_contains inside c.controls
    rw [set_ok_iff.mpr ⟨supported, writable, inside, controls, effect, rfl⟩]

theorem set_known (w : Float) : (c.set option v).1 ≠ .error (.unknownMode w) := by
  intro unknown
  unfold Camera.set at unknown
  split at unknown
  · cases unknown
  split at unknown
  · cases unknown
  split at unknown
  · cases unknown
  next inside =>
  have inside : (c.config.range option).contains v = true := by simpa using inside
  obtain ⟨controls, effect⟩ := write?_of_contains inside c.controls
  rw [effect] at unknown
  cases unknown

theorem readsBack_of_set (granted : c.set option v = (.ok (), c')) : c.ReadsBack c' v option := by
  obtain ⟨supported, -, inside, controls, effect, rfl⟩ := set_ok_iff.mp granted
  cases option with
  | enableAutoExposure =>
    cases effect
    exact ⟨rfl, rfl, rfl⟩
  | autoExposureMode =>
    obtain ⟨least, most⟩ := of_decide_eq_true inside
    rw [Controls.write?, Conversion.ofValue?_of_unit least most] at effect
    cases effect
    refine ⟨(if_pos supported).trans ?_, rfl, rfl⟩
    change Except.ok (ExposureMode.value _) = _
    split <;> rfl
  | exposure =>
    cases effect
    exact ⟨rfl, rfl, rfl⟩

theorem ReadsBack.keeps {written : DeviceOption} (reads : c.ReadsBack c' v written)
    (other : option ≠ written) (ends : written = .exposure → option ≠ .enableAutoExposure) :
    c'.get option = c.get option := by
  cases written with
  | exposure =>
    cases option with
    | exposure => exact absurd rfl other
    | enableAutoExposure => exact absurd rfl (ends rfl)
    | autoExposureMode => exact reads.2.2
  | enableAutoExposure =>
    cases option with
    | exposure => exact reads.2.1
    | enableAutoExposure => exact absurd rfl other
    | autoExposureMode => exact reads.2.2
  | autoExposureMode =>
    cases option with
    | exposure => exact reads.2.1
    | enableAutoExposure => exact reads.2.2
    | autoExposureMode => exact absurd rfl other

theorem writes_set (c : Camera) (option : DeviceOption) (v : Float) : c.Writes option v where
  granted := set_granted_iff
  known := set_known
  refused _ refused := set_refused (Prod.ext refused rfl)
  readBack granted := readsBack_of_set (Prod.ext granted rfl)

theorem inRange_of_exposure (granted : (c.set .exposure v).1 = .ok ()) :
    (c.set .exposure v).2.InRange := by
  obtain ⟨-, -, range, read, inside⟩ := set_granted_iff.mp granted
  have reads := readsBack_of_set (Prod.ext granted rfl)
  rw [InRange, (c.kept_set .exposure v).config]
  cases read
  exact ⟨v, reads.1, inside⟩

theorem controls_runUntil (c : Camera) (time : Nat) :
    (c.runUntil time).1.controls = c.controls := by
  unfold runUntil
  split <;> rfl

theorem config_stop (c : Camera) : c.stop.2.config = c.config := by
  unfold stop
  split <;> rfl

theorem controls_stop (c : Camera) : c.stop.2.controls = c.controls := by
  unfold stop
  split <;> rfl

theorem get_congr (config : c'.config = c.config) (controls : c'.controls = c.controls)
    (option : DeviceOption) :
    c'.get option = c.get option := by
  rw [get, get, supports, supports, config, controls]

end Set

namespace Moment

variable {m m' : Moment} {act : Act} {acts : List Act}

def WritesExposure (m : Moment) (acts : List Act) : Prop :=
  ∃ before v, before ++ [.call (.set .exposure v)] <+: acts ∧
    ((m.after before).camera.set .exposure v).1 = .ok ()

theorem configure_not_mem_cons :
    (∀ json, Act.configure json ∉ act :: acts) ↔
      (∀ json, act ≠ .configure json) ∧ ∀ json, .configure json ∉ acts := by
  simp only [List.mem_cons, not_or, forall_and, ne_comm (a := act)]

theorem controls_sleep (m : Moment) (ms : Nat) :
    (m.sleep ms).camera.controls = m.camera.controls := by
  unfold sleep
  split
  · rfl
  · exact m.camera.controls_runUntil _

theorem act_controls (same : ∀ json, act ≠ .configure json) :
    (m.act act).2.camera.config = m.camera.config ∧
      ((m.act act).2.camera.controls = m.camera.controls ∨
        ∃ option v, act = .call (.set option v) ∧ (m.camera.set option v).1 = .ok ()) := by
  rcases answer : m.act act with ⟨fault | _, m'⟩
  · by_cases stop : act = .call .stop
    · -- Even a refused stop gives up a failed delivery, and nothing else.
      subst stop
      obtain ⟨c', stops, rfl⟩ := call_eq_iff.mp answer
      have left : c' = m.camera.stop.2 := (congrArg Prod.snd stops).symm
      rw [left]
      exact ⟨config_stop _, .inl (controls_stop _)⟩
    · rw [act_refused (fun stops => absurd stops stop) answer]
      exact ⟨rfl, .inl rfl⟩
  · have granted := grants_iff.mp answer
    refine ⟨(granted.keeps same).1, ?_⟩
    cases granted with
    | written => exact .inr ⟨_, _, rfl, congrArg Prod.fst answer⟩
    | configured => exact absurd rfl (same _)
    | slept ms => exact .inl (m.controls_sleep ms)
    | _ => exact .inl rfl

theorem act_readOnly (same : ∀ json, act ≠ .configure json) {option : DeviceOption}
    (listed : option ∈ m.camera.config.readOnly) :
    (m.act act).2.camera.get option = m.camera.get option ∨ option = .enableAutoExposure ∧
      ∃ v, act = .call (.set .exposure v) ∧ (m.camera.set .exposure v).1 = .ok () := by
  obtain ⟨config, controls | ⟨written, v, rfl, granted⟩⟩ := act_controls (m := m) same
  · exact .inl (get_congr config controls option)
  · by_cases ends : written = .exposure ∧ option = .enableAutoExposure
    · obtain ⟨rfl, rfl⟩ := ends
      exact .inr ⟨rfl, v, rfl, granted⟩
    · have other : option ≠ written := fun same =>
        (set_granted_iff.mp granted).2.1 (same ▸ listed)
      have reads := readsBack_of_set (Prod.ext granted rfl)
      exact .inl (reads.keeps other fun exposes auto => ends ⟨exposes, auto⟩)

theorem after_readOnly (same : ∀ json, Act.configure json ∉ acts) {option : DeviceOption}
    (listed : option ∈ m.camera.config.readOnly) :
    (m.after acts).camera.get option = m.camera.get option ∨
      option = .enableAutoExposure ∧ m.WritesExposure acts := by
  induction acts generalizing m with
  | nil => exact .inl rfl
  | cons act acts ih =>
    obtain ⟨here, later⟩ := configure_not_mem_cons.mp same
    rcases act_readOnly here listed with kept | ⟨rfl, v, rfl, granted⟩
    · rw [← (act_controls here).1] at listed
      rcases ih later listed with kept' | ⟨rfl, before, v, within, granted⟩
      · exact .inl (kept'.trans kept)
      · exact .inr ⟨rfl, act :: before, v, (List.prefix_cons_inj act).mpr within, granted⟩
    · exact .inr ⟨rfl, [], v, (List.prefix_cons_inj _).mpr List.nil_prefix, granted⟩

theorem act_inRange (same : ∀ json, act ≠ .configure json) (inRange : InRange m.camera) :
    InRange (m.act act).2.camera := by
  obtain ⟨config, controls | ⟨written, v, rfl, granted⟩⟩ := act_controls (m := m) same
  · rwa [InRange, get_congr config controls, config]
  · by_cases exposes : written = .exposure
    · subst exposes
      exact inRange_of_exposure granted
    · obtain ⟨us, before, inside⟩ := inRange
      have reads := readsBack_of_set (Prod.ext granted rfl)
      have same := reads.keeps (Ne.symm exposes) fun exposed => absurd exposed exposes
      rw [InRange, config]
      exact ⟨us, same.trans before, inside⟩

theorem inRange_throughout (same : ∀ json, Act.configure json ∉ acts) (inRange : InRange m.camera) :
    m.Throughout acts InRange := by
  induction acts generalizing m with
  | nil => exact throughout_nil_iff.mpr inRange
  | cons act acts ih =>
    obtain ⟨here, later⟩ := configure_not_mem_cons.mp same
    exact throughout_cons_iff.mpr ⟨inRange, ih later (act_inRange here inRange)⟩

/-- Whatever has been done to a camera: how its controls are written, and what becomes of them as
long as the configuration stays. -/
theorem writes_controls (m : Moment) :
    (∀ option v, m.camera.Writes option v) ∧
      (∀ acts, (∀ json, Act.configure json ∉ acts) → ∀ option ∈ m.camera.config.readOnly,
        (m.after acts).camera.get option ≠ m.camera.get option →
          option = .enableAutoExposure ∧ m.WritesExposure acts) ∧
      ∀ v, (m.camera.set .exposure v).1 = .ok () → ∀ acts, (∀ json, Act.configure json ∉ acts) →
        Throughout { m with camera := (m.camera.set .exposure v).2 } acts InRange := by
  refine ⟨m.camera.writes_set, fun acts same option listed changed => ?_,
    fun v granted acts same => ?_⟩
  · exact (after_readOnly same listed).resolve_left changed
  · exact inRange_throughout same (inRange_of_exposure granted)

/-- A camera whose auto-exposure cannot be written. A manual exposure ends it all the same. -/
def locked : Moment := fresh { CameraConfig.default with readOnly := [.enableAutoExposure] }

theorem writes_controls_locked :
    (locked.camera.set .enableAutoExposure 0).1 ≠ .ok () ∧
      locked.WritesExposure [.call (.set .exposure 66000)] ∧
        Throughout { locked with camera := (locked.camera.set .exposure 66000).2 } [.sleep 200]
          InRange := by
  obtain ⟨writes, readOnly, inRange⟩ := writes_controls locked
  refine ⟨fun granted => ?_, (readOnly _ (by simp) .enableAutoExposure (by decide) ?_).2,
    inRange 66000 rfl [.sleep 200] (by simp)⟩
  · exact ((writes .enableAutoExposure 0).granted.mp granted).2.1 (by decide)
  · intro same
    have ended : (0 : Float) = 1 := Except.ok.inj same
    exact absurd ended (by decide)

end Moment

end Camera

end ExposureBench
