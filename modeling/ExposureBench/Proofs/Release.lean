import ExposureBench.Proofs.CallOrder
import ExposureBench.Proofs.CameraCalls
import ExposureBench.Proofs.Delivery

/-!
A camera's stop is refused only after a failed delivery, and then leaves it streaming: no close
and no later open is granted.
-/

namespace ExposureBench

namespace Camera

def Released (c : Camera) : Prop := c.isOpen = false ∧ c.streaming = false

/-- Open and streaming, delivered to by a worker. -/
def Delivers (c : Camera) : Prop := c.isOpen = true ∧ c.streaming = true ∧ c.worker ≠ .idle

/-- Open and streaming, with nothing left to stop. -/
def Held (c : Camera) : Prop := c.isOpen = true ∧ c.streaming = true ∧ c.worker = .idle

structure Kept (c c' : Camera) : Prop where
  config : c'.config = c.config
  profile : c'.profile = c.profile
  streaming : c'.streaming = c.streaming
  idle : c'.worker = .idle ↔ c.worker = .idle

theorem Kept.refl (c : Camera) : Kept c c := ⟨rfl, rfl, rfl, .rfl⟩

theorem kept_set (c : Camera) (option : DeviceOption) (v : Float) : Kept c (c.set option v).2 := by
  unfold set
  split
  · exact .refl c
  split
  · exact .refl c
  split
  · exact .refl c
  split
  · exact .refl c
  · exact ⟨rfl, rfl, rfl, .rfl⟩

theorem kept_runUntil (c : Camera) (time : Nat) : Kept c (c.runUntil time).1 := by
  unfold runUntil
  split
  · next d running => exact ⟨rfl, rfl, rfl, by simp [running, Delivery.runUntil_not_idle]⟩
  · exact .refl c

theorem Kept.isOpen {c c' : Camera} (kept : Kept c c') : c'.isOpen = c.isOpen := by
  rw [Camera.isOpen, kept.profile, Camera.isOpen]

theorem Released.kept {c c' : Camera} (released : c.Released) (kept : Kept c c') : c'.Released :=
  ⟨kept.isOpen.trans released.1, kept.streaming.trans released.2⟩

theorem Delivers.kept {c c' : Camera} (delivers : c.Delivers) (kept : Kept c c') : c'.Delivers :=
  ⟨kept.isOpen.trans delivers.1, kept.streaming.trans delivers.2.1,
    fun idle => delivers.2.2 (kept.idle.mp idle)⟩

theorem Held.kept {c c' : Camera} (held : c.Held) (kept : Kept c c') : c'.Held :=
  ⟨kept.isOpen.trans held.1, kept.streaming.trans held.2.1, kept.idle.mpr held.2.2⟩

theorem Released.start {c opened : Camera} {profile : StreamProfile} (released : c.Released)
    (opens : c.openWith profile = (.ok (), opened)) (now : Nat) :
    profile ∈ c.config.profiles ∧ opened.start now = (.ok (),
      { c with profile := some profile, streaming := true, worker := c.worker? profile now }) := by
  obtain ⟨offered, rfl⟩ := openWith_accepted opens
  have silent : ¬ c.streaming = true := by simp [released.2]
  exact ⟨offered, if_neg silent⟩

theorem Released.delivers {c opened : Camera} {profile : StreamProfile} (released : c.Released)
    (opens : c.openWith profile = (.ok (), opened)) (now : Nat) :
    (opened.start now).2.Delivers := by
  rw [(released.start opens now).2]
  refine ⟨rfl, rfl, ?_⟩
  change c.worker? profile now ≠ .idle
  unfold worker?
  split <;> simp

theorem stop_close_running {c : Camera} {d : Delivery} (worker : c.worker = .running d)
    (isOpen : c.isOpen = true) :
    c.stop.1 = .ok () ∧ c.stop.2.close =
      (.ok (), { c with worker := .idle, streaming := false, profile := none }) := by
  have stops : c.stop = (.ok (), { c with worker := .idle, streaming := false }) := by
    rw [stop, worker]
  rw [stops]
  exact ⟨rfl, if_pos isOpen⟩

theorem stop_close_failed {c : Camera} (worker : c.worker = .failed)
    (streaming : c.streaming = true) :
    c.stop.1 = .error .deliveryFailed ∧ c.stop.2.close =
      (.error .closeWhileStreaming, { c with worker := .idle }) := by
  have stops : c.stop = (.error .deliveryFailed, { c with worker := .idle }) := by rw [stop, worker]
  rw [stops]
  exact ⟨rfl, if_pos streaming⟩

theorem Delivers.stop_close {c : Camera} (delivers : c.Delivers) :
    (c.stop.1 = .ok () ∧ c.stop.2.close.2.Released) ∨
      (c.stop.1 = .error .deliveryFailed ∧ c.stop.2.close.2.Held) := by
  obtain ⟨isOpen, streaming, working⟩ := delivers
  rcases worker : c.worker with _ | d | _
  · exact absurd worker working
  · obtain ⟨stops, closes⟩ := stop_close_running worker isOpen
    rw [closes]
    exact .inl ⟨stops, rfl, rfl⟩
  · obtain ⟨stops, closes⟩ := stop_close_failed worker streaming
    rw [closes]
    exact .inr ⟨stops, isOpen, streaming, rfl⟩

/-- Every exposure that the camera has or can be given, and every frame period it offers, is a span
of time. -/
structure Timed (c : Camera) : Prop where
  period : ∀ profile ∈ c.config.profiles, (secondsToNanos? (profile.frameTimeMs / 1000.0)).isSome
  range : ∀ v, c.config.exposureRange.contains v → (secondsToNanos? (v / 1000000.0)).isSome
  exposure : (secondsToNanos? (c.controls.exposureUs / 1000000.0)).isSome

theorem Timed.period?_isSome {c : Camera} (timed : c.Timed) {profile : StreamProfile}
    (offered : profile ∈ c.config.profiles) : (c.controls.period? profile).isSome := by
  obtain ⟨frame, framed⟩ := Option.isSome_iff_exists.mp (timed.period profile offered)
  obtain ⟨exposure, exposed⟩ := Option.isSome_iff_exists.mp timed.exposure
  cases auto : c.controls.autoExposure <;> simp [Controls.period?, framed, exposed, auto]

theorem Timed.set {c : Camera} (timed : c.Timed) (option : DeviceOption) (v : Float) :
    (c.set option v).2.Timed := by
  unfold Camera.set
  split
  · exact timed
  split
  · exact timed
  split
  · exact timed
  next inside =>
  split
  · exact timed
  next controls written =>
  refine ⟨timed.period, timed.range, ?_⟩
  cases option with
  | enableAutoExposure =>
    cases written
    exact timed.exposure
  | autoExposureMode =>
    obtain ⟨mode, _, rfl⟩ := Option.map_eq_some_iff.mp written
    exact timed.exposure
  | exposure =>
    cases written
    exact timed.range v (by simpa [CameraConfig.range] using inside)

theorem Timed.runUntil {c : Camera} (timed : c.Timed) (time : Nat) : (c.runUntil time).1.Timed := by
  unfold Camera.runUntil
  split
  · exact ⟨timed.period, timed.range, timed.exposure⟩
  · exact timed

/-- The camera streams, and its delivery can go on. -/
structure Streams (c : Camera) : Prop where
  delivers : c.Delivers
  timed : c.Timed
  running : ∃ d, c.worker = .running d ∧ d.profile ∈ c.config.profiles

theorem Timed.start {c opened : Camera} {profile : StreamProfile} (timed : c.Timed)
    (released : c.Released) (opens : c.openWith profile = (.ok (), opened)) (now : Nat) :
    (opened.start now).2.Streams := by
  have delivers := released.delivers opens now
  obtain ⟨offered, starts⟩ := released.start opens now
  obtain ⟨period, found⟩ := Option.isSome_iff_exists.mp (timed.period?_isSome offered)
  rw [starts] at delivers ⊢
  refine ⟨delivers, ⟨timed.period, timed.range, timed.exposure⟩, ?_⟩
  simp only [worker?, found]
  exact ⟨_, rfl, offered⟩

theorem Streams.stop_close {c : Camera} (streams : c.Streams) :
    c.stop.2.close.2.Released ∧ c.stop.2.close.2.Timed := by
  obtain ⟨⟨isOpen, _, _⟩, ⟨period, range, exposure⟩, d, running, _⟩ := streams
  rw [(stop_close_running running isOpen).2]
  exact ⟨⟨rfl, rfl⟩, period, range, exposure⟩

theorem Streams.set {c : Camera} (streams : c.Streams) (option : DeviceOption) (v : Float) :
    (c.set option v).2.Streams := by
  have kept := c.kept_set option v
  refine ⟨streams.delivers.kept kept, streams.timed.set option v, ?_⟩
  rw [c.worker_set, kept.config]
  exact streams.running

theorem Streams.runUntil {c : Camera} (streams : c.Streams) (time : Nat) :
    (c.runUntil time).1.Streams := by
  have kept := c.kept_runUntil time
  obtain ⟨delivers, timed, d, running, offered⟩ := streams
  obtain ⟨period, found⟩ := Option.isSome_iff_exists.mp (timed.period?_isSome offered)
  obtain ⟨d', goes, same⟩ := d.runUntil_running c.config c.controls period time
  have ran : (c.runUntil time).1 = { c with
      worker := .running d'
      delivered :=
        c.delivered + (d.runUntil c.config c.controls (some period) time).2.length } := by
    simp only [Camera.runUntil, running, found]
    rw [← goes]
  rw [ran] at kept ⊢
  exact ⟨delivers.kept kept, ⟨timed.period, timed.range, timed.exposure⟩, d', rfl, same ▸ offered⟩

end Camera

namespace Bench

def Holds (P : Camera → Prop) (b : Bench) : Prop := ∃ c, b.device = .camera c ∧ P c

variable {P : Camera → Prop} {b b' : Bench}

theorem Holds.evolves (written : ∀ c option v, P c → P (c.set option v).2)
    (elapsed : ∀ c time, P c → P (c.runUntil time).1) (evolves : b.Evolves b') (holds : b.Holds P) :
    b'.Holds P := by
  refine evolves.keeps (P := Holds P) ?_ ?_ holds
  · rintro b ms ⟨c, camera, held⟩
    rcases Nat.eq_zero_or_pos ms with rfl | positive
    · exact ⟨c, camera, held⟩
    · refine ⟨(c.runUntil (b.now + Duration.ofMillis ms)).1, ?_, elapsed c _ held⟩
      rw [b.sleep_of_pos positive, device_deliver, camera]
      rfl
  · rintro b option v ⟨c, camera, held⟩
    refine ⟨(c.set option v).2, ?_, written c option v held⟩
    change (b.device.set option v).2 = _
    rw [camera]
    rfl

theorem Holds.kept (keeps : ∀ {c c' : Camera}, P c → Camera.Kept c c' → P c')
    (evolves : b.Evolves b') (holds : b.Holds P) :
    b'.Holds P :=
  holds.evolves (fun c option v held => keeps held (c.kept_set option v))
    (fun c time held => keeps held (c.kept_runUntil time)) evolves

theorem Holds.begins {opened started : Bench} {profile : StreamProfile} {field : MetadataField}
    {outcome : Except DeviceFault LogId} (released : b.Holds Camera.Released)
    (opens : b.openWith profile = (.ok (), opened))
    (starts : opened.start field = (outcome, started)) :
    (outcome.map fun _ => ()) = .ok () ∧ started.Holds Camera.Delivers := by
  obtain ⟨c, camera, released⟩ := released
  obtain ⟨c', opens, camera'⟩ := openWith_camera camera opens
  obtain ⟨c'', starts, camera''⟩ := start_camera camera' starts
  have delivers := released.delivers opens opened.now
  rw [starts] at delivers
  rw [(released.start opens _).2] at starts
  exact ⟨(congrArg Prod.fst starts).symm, c'', camera'', delivers⟩

theorem Holds.refused {profile : StreamProfile} {fault : DeviceFault} (holds : b.Holds P)
    (opens : b.openWith profile = (.error fault, b')) : b'.Holds P := by
  obtain ⟨c, camera, held⟩ := holds
  obtain ⟨c', refused, camera'⟩ := openWith_camera camera opens
  cases Camera.openWith_refused refused
  exact ⟨c, camera', held⟩

theorem Holds.stop_close (delivers : b.Holds Camera.Delivers) :
    b.stop.1.isOk = true ∧ b.stop.2.close.2.Holds Camera.Released ∨
      b.stop.1.isOk = false ∧ b.stop.2.close.2.Holds Camera.Held := by
  obtain ⟨c, camera, delivers⟩ := delivers
  obtain ⟨answered, kept⟩ := stop_close_camera camera
  rw [answered]
  rcases delivers.stop_close with ⟨granted, released⟩ | ⟨refused, held⟩
  · exact .inl ⟨by rw [granted]; rfl, _, kept, released⟩
  · exact .inr ⟨by rw [refused]; rfl, _, kept, held⟩

theorem Holds.not_opens {opened : Bench} {profile : StreamProfile} (held : b.Holds Camera.Held) :
    b.openWith profile ≠ (.ok (), opened) := by
  intro opens
  obtain ⟨c, camera, isOpen, _⟩ := held
  obtain ⟨c', granted, _⟩ := openWith_camera camera opens
  rw [Camera.openWith_of_isOpen isOpen] at granted
  cases granted

/-- Since `b` no stop has been refused and the camera is free, or one has and the camera is held. -/
def Accounts (b b' : Bench) : Prop :=
  ∃ calls, b.Made b' calls ∧
    ((.stop, false) ∉ calls ∧ b'.Holds Camera.Released ∨ (.stop, false) ∈ calls ∧
      b'.Holds Camera.Held)

private def Granted (b : Bench) (P : Camera → Prop) (b' : Bench) : Prop :=
  ∃ calls, b.Made b' calls ∧ (.stop, false) ∉ calls ∧ b'.Holds P

private theorem granted_course (b : Bench) :
    Course (b.Granted Camera.Released) (b.Granted Camera.Delivers) where
  before evolves := fun ⟨calls, made, granted, released⟩ =>
    ⟨calls, made.evolves evolves, granted, released.kept Camera.Released.kept evolves⟩
  during evolves := fun ⟨calls, made, granted, delivers⟩ =>
    ⟨calls, made.evolves evolves, granted, delivers.kept Camera.Delivers.kept evolves⟩
  begins :=
    fun {b' opened started profile field id} ⟨calls, made, granted, released⟩ opens starts => by
    have began := (made.openWith profile)
    rw [opens] at began
    have begun := began.start field
    rw [starts] at begun
    exact ⟨_, begun, by simpa using granted, (released.begins opens starts).2⟩

private theorem held_course (b : Bench) :
    Course (fun b' => ∃ calls, b.Made b' calls ∧ (.stop, false) ∈ calls ∧ b'.Holds Camera.Held)
      fun _ => False where
  before evolves := fun ⟨calls, made, refused, held⟩ =>
    ⟨calls, made.evolves evolves, refused, held.kept Camera.Held.kept evolves⟩
  during _ never := never
  begins := fun ⟨_, _, _, held⟩ opens _ => held.not_opens opens

private theorem timed_course :
    Course (Holds fun c => c.Released ∧ c.Timed) (Holds Camera.Streams) where
  before evolves ready := ready.evolves
    (fun c option v ⟨released, timed⟩ => ⟨released.kept (c.kept_set option v), timed.set option v⟩)
    (fun c time ⟨released, timed⟩ => ⟨released.kept (c.kept_runUntil time), timed.runUntil time⟩)
    evolves
  during evolves streams := streams.evolves (fun _ option v streams => streams.set option v)
    (fun _ time streams => streams.runUntil time) evolves
  begins := fun {_ opened _ _ _ _} ⟨c, camera, released, timed⟩ opens starts => by
    obtain ⟨c', opens, camera'⟩ := openWith_camera camera opens
    obtain ⟨c'', starts, camera''⟩ := start_camera camera' starts
    have streams := timed.start released opens opened.now
    rw [starts] at streams
    exact ⟨c'', camera'', streams⟩

end Bench

namespace Experiment

open Bench

theorem run_accounts (settings : Settings) (baseline : Option BaselineSummary) (e : Experiment)
    {b b' : Bench} (accounts : b.Accounts b') :
    b.Accounts (e.run settings baseline b').2 := by
  obtain ⟨calls, made, ⟨granted, released⟩ | ⟨refused, held⟩⟩ := accounts
  · have leaves :=
      b.granted_course.run_leaves settings baseline e b' ⟨calls, made, granted, released⟩
    generalize (e.run settings baseline b').2 = after at leaves
    cases leaves with
    | unopened before =>
      obtain ⟨calls, made, granted, released⟩ := before
      exact ⟨calls, made, .inl ⟨granted, released⟩⟩
    | @refused _ _ profile _ before opens =>
      obtain ⟨calls, made, granted, released⟩ := before
      have unopened := made.openWith profile
      rw [opens] at unopened
      exact ⟨_, unopened, .inl ⟨by simpa using granted, released.refused opens⟩⟩
    | unstarted before opens starts =>
      obtain ⟨_, _, _, released⟩ := before
      have started := (released.begins opens starts).1
      cases started
    | streamed during =>
      obtain ⟨calls, made, granted, delivers⟩ := during
      have torn := made.stop.close
      rcases delivers.stop_close with ⟨stopped, released⟩ | ⟨refused, held⟩
      · rw [stopped] at torn
        exact ⟨_, torn, .inl ⟨by simpa using granted, released⟩⟩
      · rw [refused] at torn
        exact ⟨_, torn, .inr ⟨by simp, held⟩⟩
  · have leaves := b.held_course.run_leaves settings baseline e b' ⟨calls, made, refused, held⟩
    generalize (e.run settings baseline b').2 = after at leaves
    cases leaves with
    | unopened before =>
      obtain ⟨calls, made, refused, held⟩ := before
      exact ⟨calls, made, .inr ⟨refused, held⟩⟩
    | @refused _ _ profile _ before opens =>
      obtain ⟨calls, made, refused, held⟩ := before
      have unopened := made.openWith profile
      rw [opens] at unopened
      exact ⟨_, unopened, .inr ⟨List.mem_append_left _ refused, held.refused opens⟩⟩
    | unstarted before opens starts =>
      obtain ⟨_, _, _, held⟩ := before
      exact absurd opens held.not_opens
    | streamed never => exact never.elim

theorem run_timed (settings : Settings) (baseline : Option BaselineSummary) (e : Experiment)
    {b : Bench} (ready : b.Holds fun c => c.Released ∧ c.Timed) :
    (e.run settings baseline b).2.Holds fun c => c.Released ∧ c.Timed := by
  have leaves := Bench.timed_course.run_leaves settings baseline e b ready
  generalize (e.run settings baseline b).2 = after at leaves
  cases leaves with
  | unopened before => exact before
  | refused before opens => exact before.refused opens
  | unstarted before opens starts =>
    obtain ⟨c, camera, released, _⟩ := before
    have started := (Holds.begins ⟨c, camera, released⟩ opens starts).1
    cases started
  | streamed during =>
    obtain ⟨c, camera, streams⟩ := during
    exact ⟨_, (stop_close_camera camera).2, streams.stop_close⟩

end Experiment

namespace Suite

def afterFirst (settings : Settings) (b : Bench) (count : Nat) : Bench :=
  ((.baseline :: experiments).take count).foldl (fun b e => (e.run settings none b).2) b

theorem runEach_bench (settings : Settings) (baseline : Option BaselineSummary)
    (rest : List Experiment) (b : Bench) :
    (runEach settings baseline rest b).2 = rest.foldl (fun b e => (e.run settings none b).2) b := by
  induction rest generalizing b with
  | nil => rfl
  | cons e rest ih =>
    have same : (e.run settings baseline b).2 = (e.run settings none b).2 := by
      rw [Experiment.run_bench, Experiment.run_bench]
    rw [List.foldl_cons, ← same, ← ih]
    rfl

theorem run_bench (settings : Settings) (b : Bench) :
    (run settings b).2 = afterFirst settings b 7 := by
  have all : (.baseline :: experiments).take 7 = .baseline :: experiments := rfl
  have first : Experiment.baseline.run settings none b = Baseline.run settings b := rfl
  rw [afterFirst, all, List.foldl_cons, first, run]
  rcases Baseline.run settings b with ⟨v, b'⟩
  dsimp only
  exact runEach_bench settings (Baseline.summary? v) experiments b'

theorem afterFirst_keeps {P : Bench → Prop} {settings : Settings}
    (each : ∀ (e : Experiment) b, P b → P (e.run settings none b).2) (b : Bench) (start : P b)
    (count : Nat) :
    P (afterFirst settings b count) := by
  unfold afterFirst
  generalize (.baseline :: experiments).take count = rest
  induction rest generalizing b with
  | nil => exact start
  | cons e rest ih => exact ih _ (each e b start)

/-- After any number of its experiments the suite has given the camera back exactly if no stop has
been refused. Once one has, no open is granted any more. -/
theorem released_iff (settings : Settings) (b : Bench) {c : Camera} (camera : b.device = .camera c)
    (closed : c.isOpen = false) (silent : c.streaming = false) (count : Nat) :
    ∃ c' made, (afterFirst settings b count).device = .camera c' ∧
      (afterFirst settings b count).calls.toList = b.calls.toList ++ made ∧
      (c'.isOpen = false ∧ c'.streaming = false ↔ (.stop, false) ∉ lifecycle made) ∧
      ∀ profile, (c'.openWith profile).1 = .error .alreadyOpen ↔
        (.stop, false) ∈ lifecycle made := by
  have start : b.Accounts b := ⟨[], b.made_refl, .inl ⟨List.not_mem_nil, c, camera, closed, silent⟩⟩
  obtain ⟨_, ⟨made, appended, rfl⟩, ⟨granted, c', camera', released⟩ |
    ⟨refused, c', camera', held⟩⟩ :=
    afterFirst_keeps (fun e _ accounts => e.run_accounts settings none accounts) b start count
  · refine ⟨c', made, camera', appended, iff_of_true released granted,
      fun profile => iff_of_false ?_ granted⟩
    intro busy
    rw [Camera.openWith, if_neg (by simp [released.1])] at busy
    split at busy <;> cases busy
  · refine ⟨c', made, camera', appended, iff_of_false ?_ (fun granted => granted refused),
      fun profile =>
      iff_of_true ?_ refused⟩
    · intro released
      rw [held.1] at released
      cases released.1
    · rw [Camera.openWith_of_isOpen held.1]

theorem default_released_iff :
    ∃ c' made, (afterFirst {} { device := .camera (.ofConfig .default) } 7).device = .camera c' ∧
      (afterFirst {} { device := .camera (.ofConfig .default) } 7).calls.toList = [] ++ made ∧
      (c'.isOpen = false ∧ c'.streaming = false ↔ (.stop, false) ∉ lifecycle made) ∧
      ∀ profile, (c'.openWith profile).1 = .error .alreadyOpen ↔ (.stop, false) ∈ lifecycle made :=
  released_iff {} { device := .camera (.ofConfig .default) } rfl rfl rfl 7

theorem released_of_timed (settings : Settings) (b : Bench) {c : Camera}
    (camera : b.device = .camera c) (closed : c.isOpen = false) (silent : c.streaming = false)
    (timed : c.Timed) (count : Nat) :
    ∃ c', (afterFirst settings b count).device = .camera c' ∧ c'.isOpen = false ∧
      c'.streaming = false := by
  obtain ⟨c', camera', released, _⟩ :=
    afterFirst_keeps (fun e _ ready => e.run_timed settings none ready) b
      ⟨c, camera, ⟨closed, silent⟩, timed⟩ count
  exact ⟨c', camera', released⟩

/-- A camera whose manual exposure is no span of time: it fails to deliver once auto-exposure is
off. -/
def untimedCamera : Camera :=
  .ofConfig { CameraConfig.default with exposureRange := ⟨-10, 165000, 1, -10⟩ }

def briefSettings : Settings where
  baseline := { frames := 1, warmupMs := 0 }
  steadyState := { frames := 1 }

theorem untimed_camera_held :
    ∃ c, (run briefSettings { device := .camera untimedCamera }).2.device = .camera c ∧
      c.isOpen = true ∧ c.streaming = true := by
  have held : (run briefSettings { device := .camera untimedCamera }).2.device.camera?.any
      (fun c => c.isOpen && c.streaming) := by
    decide +kernel
  obtain ⟨c, camera, busy⟩ := Option.any_eq_true _ _ |>.mp held
  exact ⟨c, Device.camera?_eq_some.mp camera, Bool.and_eq_true_iff.mp busy⟩

end Suite

end ExposureBench
