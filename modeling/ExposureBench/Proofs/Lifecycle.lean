import ExposureBench.Proofs.Conversion
import ExposureBench.Proofs.Release

/-!
As long as no delivery fails, whether the camera is open and whether it streams decide which calls
are granted.
-/

namespace ExposureBench

namespace Camera

section Calls

variable {c c' : Camera}

theorem openWith_ok_iff {profile : StreamProfile} :
    c.openWith profile = (.ok (), c') ↔
      c.isOpen = false ∧ profile ∈ c.config.profiles ∧ c' = { c with profile := some profile } := by
  constructor
  · intro opens
    obtain ⟨offered, same⟩ := openWith_accepted opens
    refine ⟨Bool.eq_false_iff.mpr fun busy => ?_, offered, same⟩
    rw [openWith_of_isOpen busy] at opens
    cases opens
  · rintro ⟨closed, offered, rfl⟩
    have listed : c.config.profiles.contains profile = true := by simpa using offered
    rw [openWith, if_neg (Bool.eq_false_iff.mp closed), if_pos listed]

theorem start_ok_iff {now : Nat} :
    c.start now = (.ok (), c') ↔ ∃ profile, c.profile = some profile ∧ c.streaming = false ∧
      c' = { c with streaming := true, worker := c.worker? profile now } := by
  constructor
  · intro starts
    obtain ⟨profile, opened, same⟩ := start_accepted starts
    refine ⟨profile, opened, Bool.eq_false_iff.mpr fun busy => ?_, same⟩
    simp [start, opened, busy] at starts
  · rintro ⟨profile, opened, silent, rfl⟩
    simp [start, opened, silent]

theorem stop_ok_iff :
    c.stop = (.ok (), c') ↔
      ∃ d, c.worker = .running d ∧ c' = { c with worker := .idle, streaming := false } := by
  unfold stop
  split <;> simp [*, eq_comm]

theorem close_ok_iff :
    c.close = (.ok (), c') ↔
      c.isOpen = true ∧ c.streaming = false ∧ c' = { c with profile := none } := by
  unfold close
  split
  · simp [*]
  split <;> simp [*, eq_comm]

theorem configure_ok_iff {json : Json} :
    c.configure json = .ok c' ↔ c.isOpen = false ∧
      ∃ config, CameraConfig.ofJson? json = some config ∧ c' = ofConfig config := by
  unfold configure
  split
  · simp [*]
  split <;> simp [*, eq_comm]

theorem set_ok_iff {option : DeviceOption} {v : Float} :
    c.set option v = (.ok (), c') ↔
      c.supports option = true ∧ option ∉ c.config.readOnly ∧
        (c.config.range option).contains v = true ∧
          ∃ controls, c.controls.write? option v = some controls ∧ c' = { c with controls } := by
  unfold set
  rcases supported : c.supports option with _ | _
  · simp
  by_cases listed : option ∈ c.config.readOnly
  · simp [listed]
  rcases inside : (c.config.range option).contains v with _ | _
  · simp [listed]
  rcases written : c.controls.write? option v with _ | controls <;> simp [listed, eq_comm]

theorem stop_refused {fault : DeviceFault} (going : c.worker ≠ .failed)
    (stops : c.stop = (.error fault, c')) :
    c' = c := by
  unfold stop at stops
  split at stops
  · cases stops
    rfl
  · cases stops
  · next failed => exact absurd failed going

theorem close_refused {fault : DeviceFault} (closes : c.close = (.error fault, c')) : c' = c := by
  unfold close at closes
  split at closes
  · cases closes
    rfl
  split at closes <;> cases closes
  rfl

theorem set_refused {option : DeviceOption} {v : Float} {fault : DeviceFault}
    (refused : c.set option v = (.error fault, c')) : c' = c := by
  unfold set at refused
  split at refused
  · cases refused
    rfl
  split at refused
  · cases refused
    rfl
  split at refused
  · cases refused
    rfl
  split at refused <;> cases refused
  rfl

end Calls

theorem write?_of_contains {config : CameraConfig} {option : DeviceOption} {v : Float}
    (inside : (config.range option).contains v = true) (controls : Controls) :
    ∃ written, controls.write? option v = some written := by
  cases option with
  | enableAutoExposure => exact ⟨_, rfl⟩
  | autoExposureMode =>
    -- A number from zero to one is the value of the mode that it is nearer to.
    obtain ⟨least, most⟩ := of_decide_eq_true inside
    rw [Controls.write?, Conversion.ofValue?_of_unit least most]
    exact ⟨_, rfl⟩
  | exposure => exact ⟨_, rfl⟩

/-- What can be done to a camera. -/
inductive Act where
  | call (call : Call)
  | configure (config : Json)
  | sleep (ms : Nat)

def perform (c : Camera) (now : Nat) : Call → Except DeviceFault Unit × Camera
  | .openWith profile => c.openWith profile
  | .start => c.start now
  | .stop => c.stop
  | .close => c.close
  | .set option v => c.set option v

structure Moment where
  camera : Camera
  now : Nat := 0

namespace Moment

def sleep (m : Moment) (ms : Nat) : Moment :=
  if ms = 0 then m
  else
    let wake := m.now + Duration.ofMillis ms
    { camera := (m.camera.runUntil wake).1, now := wake }

def act (m : Moment) : Act → Except DeviceFault Unit × Moment
  | .call call => (m.camera.perform m.now call).map id ({ m with camera := · })
  | .configure config => match m.camera.configure config with
    | .error fault => (.error fault, m)
    | .ok camera => (.ok (), { m with camera })
  | .sleep ms => (.ok (), m.sleep ms)

def after (m : Moment) (acts : List Act) : Moment :=
  acts.foldl (fun m act => (m.act act).2) m

/-- The bench holds the camera at that time. -/
def OnBench (m : Moment) (b : Bench) : Prop := b.device = .camera m.camera ∧ b.now = m.now

theorem OnBench.acts {m : Moment} {b : Bench} (on : m.OnBench b) :
    (∀ profile, (m.act (.call (.openWith profile))).2.OnBench (b.openWith profile).2) ∧
      (∀ field, (m.act (.call .start)).2.OnBench (b.start field).2) ∧
      (m.act (.call .stop)).2.OnBench b.stop.2 ∧
      (m.act (.call .close)).2.OnBench b.close.2 ∧
      (∀ option v, (m.act (.call (.set option v))).2.OnBench (b.set option v).2) ∧
      ∀ ms, (m.act (.sleep ms)).2.OnBench (b.sleep ms) := by
  rcases m with ⟨c, now⟩
  rcases b with ⟨device, clock, logs, feed, calls⟩
  obtain ⟨camera, same⟩ := on
  cases camera
  cases same
  refine ⟨fun _ => ⟨rfl, rfl⟩, fun field => ?_, ⟨rfl, rfl⟩, ⟨rfl, rfl⟩, fun _ _ => ⟨rfl, rfl⟩,
    fun ms => ?_⟩
  · rcases starts : c.start now with ⟨fault | _, c'⟩ <;>
      simp [OnBench, Moment.act, perform, Bench.start, Bench.perform, Device.start, starts]
  · simp only [Moment.act, sleep, Bench.sleep]
    split
    · exact ⟨rfl, rfl⟩
    · rw [Bench.deliver]
      split <;> exact ⟨rfl, rfl⟩

def fresh (config : CameraConfig) : Moment := { camera := .ofConfig config }

/-- All that an act which is granted can do. -/
inductive Grants (m : Moment) : Act → Moment → Prop where
  | opened {profile : StreamProfile} (closed : m.camera.isOpen = false)
    (offered : profile ∈ m.camera.config.profiles) :
    Grants m (.call (.openWith profile))
      { m with camera := { m.camera with profile := some profile } }
  | started {profile : StreamProfile} (opened : m.camera.profile = some profile)
    (silent : m.camera.streaming = false) :
    Grants m (.call .start) { m with camera :=
      { m.camera with streaming := true, worker := m.camera.worker? profile m.now } }
  | stopped {d : Delivery} (running : m.camera.worker = .running d) :
    Grants m (.call .stop) { m with camera :=
      { m.camera with worker := .idle, streaming := false } }
  | closed (opened : m.camera.isOpen = true) (silent : m.camera.streaming = false) :
    Grants m (.call .close) { m with camera := { m.camera with profile := none } }
  | written {option : DeviceOption} {v : Float} {controls : Controls}
    (supported : m.camera.supports option = true) (writable : option ∉ m.camera.config.readOnly)
    (inside : (m.camera.config.range option).contains v = true)
    (effect : m.camera.controls.write? option v = some controls) :
    Grants m (.call (.set option v)) { m with camera := { m.camera with controls } }
  | configured {json : Json} {config : CameraConfig} (closed : m.camera.isOpen = false)
    (read : CameraConfig.ofJson? json = some config) :
    Grants m (.configure json) { m with camera := .ofConfig config }
  | slept (ms : Nat) : Grants m (.sleep ms) (m.sleep ms)

variable {m m' : Moment} {act : Act}

theorem call_eq_iff {call : Call} {answer : Except DeviceFault Unit} :
    m.act (.call call) = (answer, m') ↔
      ∃ c', m.camera.perform m.now call = (answer, c') ∧ m' = { m with camera := c' } := by
  rcases performed : m.camera.perform m.now call with ⟨given, c'⟩
  rw [Moment.act, performed]
  constructor
  · rintro ⟨⟩
    exact ⟨c', rfl, rfl⟩
  · rintro ⟨_, ⟨⟩, rfl⟩
    rfl

theorem grants_iff : m.act act = (.ok (), m') ↔ m.Grants act m' := by
  constructor
  · intro granted
    cases act with
    | call call =>
      obtain ⟨c', performed, rfl⟩ := call_eq_iff.mp granted
      cases call with
      | openWith profile =>
        obtain ⟨closed, offered, rfl⟩ := openWith_ok_iff.mp performed
        exact .opened closed offered
      | start =>
        obtain ⟨profile, opened, silent, rfl⟩ := start_ok_iff.mp performed
        exact .started opened silent
      | stop =>
        obtain ⟨d, running, rfl⟩ := stop_ok_iff.mp performed
        exact .stopped running
      | close =>
        obtain ⟨opened, silent, rfl⟩ := close_ok_iff.mp performed
        exact .closed opened silent
      | set option v =>
        obtain ⟨supported, writable, inside, controls, effect, rfl⟩ := set_ok_iff.mp performed
        exact .written supported writable inside effect
    | configure json =>
      rcases taken : m.camera.configure json with fault | c' <;>
        simp only [Moment.act, taken] at granted <;> cases granted
      obtain ⟨closed, config, read, rfl⟩ := configure_ok_iff.mp taken
      exact .configured closed read
    | sleep ms =>
      cases granted
      exact .slept ms
  · intro granted
    cases granted with
    | opened closed offered =>
      exact call_eq_iff.mpr ⟨_, openWith_ok_iff.mpr ⟨closed, offered, rfl⟩, rfl⟩
    | started opened silent =>
      exact call_eq_iff.mpr ⟨_, start_ok_iff.mpr ⟨_, opened, silent, rfl⟩, rfl⟩
    | stopped running => exact call_eq_iff.mpr ⟨_, stop_ok_iff.mpr ⟨_, running, rfl⟩, rfl⟩
    | closed opened silent => exact call_eq_iff.mpr ⟨_, close_ok_iff.mpr ⟨opened, silent, rfl⟩, rfl⟩
    | written supported writable inside effect =>
      exact call_eq_iff.mpr
        ⟨_, set_ok_iff.mpr ⟨supported, writable, inside, _, effect, rfl⟩, rfl⟩
    | configured closed read =>
      have taken := configure_ok_iff.mpr ⟨closed, _, read, rfl⟩
      simp only [Moment.act, taken]
    | slept ms => rfl

theorem act_refused {fault : DeviceFault} (going : act = .call .stop → m.camera.worker ≠ .failed)
    (refused : m.act act = (.error fault, m')) :
    m' = m := by
  cases act with
  | call call =>
    obtain ⟨c', performed, rfl⟩ := call_eq_iff.mp refused
    have same : c' = m.camera := by
      cases call with
      | openWith profile => exact openWith_refused performed
      | start => exact start_refused performed
      | stop => exact stop_refused (going rfl) performed
      | close => exact close_refused performed
      | set option v => exact set_refused performed
    rw [same]
  | configure json =>
    rcases taken : m.camera.configure json with fault | c' <;>
      simp only [Moment.act, taken] at refused <;> cases refused
    rfl
  | sleep ms => cases refused

end Moment

/-- What streams is open and is delivered to, and nothing else is delivered to. -/
structure Linked (c : Camera) : Prop where
  opened : c.streaming = true → c.isOpen = true
  working : c.streaming = true ↔ c.worker ≠ .idle

/-- No delivery has failed that is not stopped yet. -/
def Going (c : Camera) : Prop := c.worker ≠ .failed

/-- A manual exposure that is in force while the camera streams is not negative and below `2 ^ 64`
seconds. -/
def Exposable (c : Camera) : Prop :=
  c.streaming = true → c.controls.autoExposure = false →
    0 ≤ c.controls.exposureUs ∧ c.controls.exposureUs < Conversion.limitUs

/-- When an act is granted. -/
def Admits (c : Camera) : Act → Prop
  | .call (.openWith profile) => c.isOpen = false ∧ profile ∈ c.config.profiles
  | .call .start => c.isOpen = true ∧ c.streaming = false
  | .call .stop => c.streaming = true
  | .call .close => c.isOpen = true ∧ c.streaming = false
  | .call (.set option v) => c.supports option = true ∧ option ∉ c.config.readOnly ∧
      (c.config.range option).contains v = true
  | .configure config => c.isOpen = false ∧ (CameraConfig.ofJson? config).isSome
  | .sleep _ => True

theorem Linked.ofConfig (config : CameraConfig) : (Camera.ofConfig config).Linked :=
  ⟨Bool.noConfusion, by simp [Camera.ofConfig]⟩

theorem Linked.kept {c c' : Camera} (linked : c.Linked) (kept : Kept c c') : c'.Linked where
  opened streaming := by
    rw [kept.isOpen]
    exact linked.opened (kept.streaming ▸ streaming)
  working := by rw [kept.streaming, linked.working, ne_eq, ne_eq, kept.idle]

theorem worker?_not_idle (c : Camera) (profile : StreamProfile) (now : Nat) :
    c.worker? profile now ≠ .idle := by
  unfold worker?
  split <;> exact Worker.noConfusion

theorem period?_isSome {controls : Controls}
    (exposable : controls.autoExposure = false →
      0 ≤ controls.exposureUs ∧ controls.exposureUs < Conversion.limitUs)
    (profile : StreamProfile) :
    ∃ period, controls.period? profile = some period := by
  obtain ⟨frame, framed⟩ := Option.isSome_iff_exists.mp (Conversion.isSome_of_period profile)
  rcases auto : controls.autoExposure with _ | _
  · obtain ⟨nonneg, less⟩ := exposable auto
    obtain ⟨exposure, exposed⟩ :=
      Option.isSome_iff_exists.mp (Conversion.isSome_of_exposure nonneg less)
    exact ⟨max frame exposure, by simp [Controls.period?, framed, exposed, auto]⟩
  · exact ⟨frame, by simp [Controls.period?, framed, auto]⟩

theorem going_runUntil {c : Camera} (linked : c.Linked) (going : c.Going)
    (exposable : c.Exposable) (time : Nat) :
    (c.runUntil time).1.Going := by
  rcases worker : c.worker with _ | d | _
  · rw [runUntil_of_idle worker]
    exact going
  · have streaming : c.streaming = true := linked.working.mpr (by simp [worker])
    obtain ⟨period, found⟩ := period?_isSome (exposable streaming) d.profile
    obtain ⟨d', running, -⟩ := d.runUntil_running c.config c.controls period time
    have goesOn : (c.runUntil time).1.worker = .running d' := by
      simp only [Camera.runUntil, worker, found]
      exact running
    rw [Going, goesOn]
    exact Worker.noConfusion
  · exact absurd worker going

namespace Moment

variable {m m' : Moment} {act : Act} {acts : List Act}

theorem kept_sleep (m : Moment) (ms : Nat) : Kept m.camera (m.sleep ms).camera := by
  unfold sleep
  split
  · exact .refl _
  · exact m.camera.kept_runUntil _

theorem Grants.linked (granted : m.Grants act m') (linked : m.camera.Linked) :
    m'.camera.Linked := by
  cases granted with
  | opened => exact ⟨fun _ => rfl, linked.working⟩
  | started opened =>
    refine ⟨fun _ => ?_, iff_of_true rfl (worker?_not_idle _ _ _)⟩
    simp [isOpen, opened]
  | stopped => exact ⟨Bool.noConfusion, by simp⟩
  | closed _ silent => exact ⟨fun busy => absurd busy (by simp [silent]), linked.working⟩
  | written => exact ⟨linked.opened, linked.working⟩
  | configured => exact .ofConfig _
  | slept ms => exact linked.kept (m.kept_sleep ms)

theorem going_sleep (linked : m.camera.Linked) (going : m.camera.Going)
    (exposable : m.camera.Exposable) (ms : Nat) :
    (m.sleep ms).camera.Going := by
  unfold sleep
  split
  · exact going
  · exact going_runUntil linked going exposable _

theorem Grants.going (granted : m.Grants act m') (linked : m.camera.Linked)
    (going : m.camera.Going) (exposable : m.camera.Exposable) (later : m'.camera.Exposable) :
    m'.camera.Going := by
  cases granted with
  | opened => exact going
  | @started profile =>
    -- The first frame is waited for with the controls that the start finds.
    obtain ⟨period, found⟩ := period?_isSome (later rfl) profile
    simp only [Going, worker?, found]
    exact Worker.noConfusion
  | stopped => exact Worker.noConfusion
  | closed => exact going
  | written => exact going
  | configured => exact Worker.noConfusion
  | slept ms => exact going_sleep linked going exposable ms

theorem granted_or_refused (going : m.camera.Going) (act : Act) :
    m.Grants act (m.act act).2 ∨ (m.act act).2 = m := by
  rcases answer : m.act act with ⟨fault | _, m'⟩
  · exact .inr (act_refused (fun _ => going) answer)
  · exact .inl (grants_iff.mp answer)

theorem act_linked (linked : m.camera.Linked) (going : m.camera.Going) (act : Act) :
    (m.act act).2.camera.Linked := by
  rcases granted_or_refused going act with granted | same
  · exact granted.linked linked
  · rwa [same]

theorem act_going (linked : m.camera.Linked) (going : m.camera.Going) {act : Act}
    (exposable : m.camera.Exposable) (later : (m.act act).2.camera.Exposable) :
    (m.act act).2.camera.Going := by
  rcases granted_or_refused going act with granted | same
  · exact granted.going linked going exposable later
  · rwa [same]

def Throughout (m : Moment) (acts : List Act) (P : Camera → Prop) : Prop :=
  ∀ before, before <+: acts → P (m.after before).camera

theorem Throughout.start {P : Camera → Prop} (along : m.Throughout acts P) : P m.camera :=
  along [] List.nil_prefix

theorem Throughout.final {P : Camera → Prop} (along : m.Throughout acts P) :
    P (m.after acts).camera :=
  along acts (List.prefix_refl acts)

theorem throughout_nil_iff {P : Camera → Prop} : m.Throughout [] P ↔ P m.camera := by
  simp [Throughout, after]

theorem throughout_cons_iff {P : Camera → Prop} :
    m.Throughout (act :: acts) P ↔ P m.camera ∧ (m.act act).2.Throughout acts P := by
  constructor
  · intro along
    exact ⟨along.start, fun before shorter =>
      along (act :: before) ((List.prefix_cons_inj act).mpr shorter)⟩
  · rintro ⟨start, along⟩ before shorter
    rcases List.prefix_cons_iff.mp shorter with rfl | ⟨rest, rfl, within⟩
    · exact start
    · exact along rest within

/-- What each act keeps, as long as something else holds, is kept by all of them. -/
theorem Throughout.induction {P Q : Camera → Prop}
    (step : ∀ (m : Moment) (act : Act), P m.camera → Q m.camera → Q (m.act act).2.camera →
      P (m.act act).2.camera)
    (along : m.Throughout acts Q) (start : P m.camera) : m.Throughout acts P := by
  induction acts generalizing m with
  | nil => exact throughout_nil_iff.mpr start
  | cons act acts ih =>
    obtain ⟨here, later⟩ := throughout_cons_iff.mp along
    exact throughout_cons_iff.mpr ⟨start, ih later (step m act start here later.start)⟩

theorem linked_throughout (linked : m.camera.Linked) (going : m.Throughout acts Going) :
    m.Throughout acts Linked :=
  going.induction (fun _ act linked going _ => act_linked linked going act) linked

theorem going_throughout (linked : m.camera.Linked) (going : m.camera.Going)
    (exposable : m.Throughout acts Exposable) :
    m.Throughout acts Going := by
  have both : m.Throughout acts fun c => c.Linked ∧ c.Going :=
    exposable.induction (fun _ act before exposable later =>
      ⟨act_linked before.1 before.2 act, act_going before.1 before.2 exposable later⟩)
      ⟨linked, going⟩
  exact fun before shorter => (both before shorter).2

theorem Grants.admits (granted : m.Grants act m') (linked : m.camera.Linked) :
    m.camera.Admits act := by
  cases granted with
  | opened closed offered => exact ⟨closed, offered⟩
  | started opened silent => exact ⟨by simp [isOpen, opened], silent⟩
  | stopped running => exact linked.working.mpr (by simp [running])
  | closed opened silent => exact ⟨opened, silent⟩
  | written supported writable inside => exact ⟨supported, writable, inside⟩
  | configured closed read => exact ⟨closed, by simp [read]⟩
  | slept => trivial

theorem granted_of_admits (linked : m.camera.Linked) (going : m.camera.Going)
    (admits : m.camera.Admits act) :
    ∃ m', m.Grants act m' := by
  cases act with
  | call call =>
    cases call with
    | openWith profile => exact ⟨_, .opened admits.1 admits.2⟩
    | start =>
      obtain ⟨profile, opened⟩ := Option.isSome_iff_exists.mp admits.1
      exact ⟨_, .started opened admits.2⟩
    | stop =>
      rcases worker : m.camera.worker with _ | d | _
      · exact absurd worker (linked.working.mp admits)
      · exact ⟨_, .stopped worker⟩
      · exact absurd worker going
    | close => exact ⟨_, .closed admits.1 admits.2⟩
    | set option v =>
      obtain ⟨supported, writable, inside⟩ := admits
      obtain ⟨controls, effect⟩ := write?_of_contains inside m.camera.controls
      exact ⟨_, .written supported writable inside effect⟩
  | configure json =>
    obtain ⟨config, read⟩ := Option.isSome_iff_exists.mp admits.2
    exact ⟨_, .configured admits.1 read⟩
  | sleep ms => exact ⟨_, .slept ms⟩

theorem Grants.keeps (granted : m.Grants act m') (same : ∀ json, act ≠ .configure json) :
    m'.camera.config = m.camera.config ∧ m.camera.delivered ≤ m'.camera.delivered := by
  cases granted with
  | configured => exact absurd rfl (same _)
  | slept ms =>
    refine ⟨(m.kept_sleep ms).config, ?_⟩
    unfold sleep
    split
    · exact Nat.le_refl _
    · rw [delivered_runUntil]
      exact Nat.le_add_right _ _
  | _ => exact ⟨rfl, Nat.le_refl _⟩

theorem Grants.renewed {json : Json} (granted : m.Grants (.configure json) m') :
    ∃ config, CameraConfig.ofJson? json = some config ∧ m'.camera = .ofConfig config := by
  cases granted with
  | configured closed read => exact ⟨_, read, rfl⟩

/-- How a camera answers an act by its state, and what the act can change. -/
structure Orderly (m : Moment) (act : Act) : Prop where
  opened : m.camera.streaming = true → m.camera.isOpen = true
  granted : (m.act act).1 = .ok () ↔ m.camera.Admits act
  refused : ∀ fault, (m.act act).1 = .error fault → (m.act act).2 = m
  configured : ∀ json, act = .configure json → (m.act act).1 = .ok () →
    ∃ config, CameraConfig.ofJson? json = some config ∧ (m.act act).2.camera = .ofConfig config
  kept : (∀ json, act ≠ .configure json) → (m.act act).2.camera.config = m.camera.config ∧
    m.camera.delivered ≤ (m.act act).2.camera.delivered

theorem orderly (linked : m.camera.Linked) (going : m.camera.Going) (act : Act) :
    m.Orderly act where
  opened := linked.opened
  granted := by
    constructor
    · intro granted
      exact Grants.admits (grants_iff.mp (Prod.ext granted rfl)) linked
    · intro admits
      obtain ⟨m', granted⟩ := granted_of_admits linked going admits
      rw [grants_iff.mpr granted]
  refused fault refused := act_refused (fun _ => going) (Prod.ext refused rfl)
  configured := by
    rintro json rfl granted
    exact Grants.renewed (grants_iff.mp (Prod.ext granted rfl))
  kept same := by
    rcases granted_or_refused going act with granted | unchanged
    · exact granted.keeps same
    · rw [unchanged]
      exact ⟨rfl, Nat.le_refl _⟩

/-- From a new camera on, whatever is done to it: if no exposure in force is out of bounds, no
delivery fails; and as long as none does, every act finds the camera in good order. -/
theorem orderly_after (config : CameraConfig) (acts : List Act) :
    ((fresh config).Throughout acts Exposable → (fresh config).Throughout acts Going) ∧
      ((fresh config).Throughout acts Going → ∀ act, ((fresh config).after acts).Orderly act) := by
  have linked : (fresh config).camera.Linked := .ofConfig config
  refine ⟨going_throughout linked Worker.noConfusion, fun going act => ?_⟩
  exact orderly (linked_throughout linked going).final going.final act

instance : DecidablePred Exposable := fun c =>
  inferInstanceAs (Decidable (c.streaming = true → c.controls.autoExposure = false →
    0 ≤ c.controls.exposureUs ∧ c.controls.exposureUs < Conversion.limitUs))

instance {P : Camera → Prop} [DecidablePred P] : Decidable (m.Throughout acts P) :=
  decidable_of_iff (∀ before ∈ acts.inits, P (m.after before).camera) (by simp [Throughout])

def slowed : List Act :=
  [.call (.openWith ⟨.depth, .z16, 848, 480, 30⟩), .call .start, .call (.set .exposure 66000),
    .sleep 200, .call .stop]

theorem orderly_after_slowed :
    (fresh .default).Throughout slowed Exposable ∧
      ((fresh .default).after slowed).camera.delivered = 3 ∧
        ((fresh .default).after slowed).Orderly (.call .close) := by
  have exposable : (fresh .default).Throughout slowed Exposable := by decide +kernel
  have going := (orderly_after .default slowed).1 exposable
  exact ⟨exposable, by decide +kernel, (orderly_after .default slowed).2 going _⟩

end Moment

end Camera

end ExposureBench
