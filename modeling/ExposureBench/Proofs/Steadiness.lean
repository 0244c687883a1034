import ExposureBench.Proofs.Conservation
import ExposureBench.Proofs.Reporting
import ExposureBench.Proofs.Soundness
import ExposureBench.Proofs.Toggling
import ExposureBench.Proofs.Waiting

/-! What is set before a stream begins is what all its frames are made with, whatever their lag. -/

namespace ExposureBench

namespace CameraConfig

variable (config : CameraConfig)

/-- What frame `n` tells of auto-exposure in a stream made with one state. -/
def steadyMetadata (on : Bool) (n : Nat) : Option Int :=
  if config.isDropped n then none else some (config.stuckValue.getD (if on then 1 else 0))

def reporting (stop : Nat) : List Nat := (List.range stop).filter fun n => !config.isDropped n

theorem mem_reporting {stop n : Nat} : n ∈ config.reporting stop ↔
    n < stop ∧ ¬ ∃ every, config.dropoutEvery = some every ∧ 0 < every ∧ every ∣ n + 1 := by
  rw [reporting, List.mem_filter, List.mem_range, ← config.isDropped_iff]
  simp

theorem reporting_increases (stop : Nat) : (config.reporting stop).Pairwise (· < ·) :=
  List.pairwise_lt_range.filter _

theorem reported_steady (on : Bool) (lag n : Nat) :
    ControlTrace.reported (fun _ => on) lag n = on := rfl

theorem metadata_of_tells {config : CameraConfig} {on : Bool} {n : Nat} {f : Frame}
    (tells : f.Tells config (fun _ => on) n) :
    f.metadata .autoExposure = config.steadyMetadata on n := by
  rw [steadyMetadata]
  split
  next dropped => exact tells.dropped.mpr ((config.isDropped_iff n).mp dropped)
  next carried =>
    rcases told : f.metadata .autoExposure with _ | value
    · exact absurd ((config.isDropped_iff n).mpr (tells.dropped.mp told)) carried
    · rw [tells.flag value told, reported_steady]

end CameraConfig

def FrameEvent.observation (e : FrameEvent) : Nat × Option Int := (e.sequence, e.metadata)

theorem FrameLog.observation_eventsOf {log : FrameLog} (field : log.field = .autoExposure)
    {config : CameraConfig} {on : Bool} {count : Nat} {arrivals : List Arrival}
    (tell : ∀ f ∈ (arrivals.map (·.frame)).zipIdx count, f.1.Tells config (fun _ => on) f.2) :
    (log.eventsOf count arrivals).map (·.observation) =
      (List.range' count arrivals.length).map fun n => (n, config.steadyMetadata on n) := by
  induction arrivals generalizing count with
  | nil => rfl
  | cons a rest ih =>
    rw [List.map_cons, List.zipIdx_cons] at tell
    obtain ⟨first, others⟩ := List.forall_mem_cons.mp tell
    rw [eventsOf, List.map_cons, ih others, FrameEvent.observation, field,
      CameraConfig.metadata_of_tells first]
    rfl

namespace Consistency

theorem ofEvents_of_observations (expected : Bool) {events : List FrameEvent} {stop : Nat}
    {told : Nat → Option Int}
    (observed : events.map (·.observation) = (List.range stop).map fun n => (n, told n)) :
    (ofEvents expected events).compared = (List.range stop).countP (fun n => (told n).isSome) ∧
      (ofEvents expected events).mismatches =
        (List.range stop).countP (fun n => (told n).map (· != 0) == some (!expected)) ∧
      (ofEvents expected events).firstMismatch =
        (List.range stop).find? (fun n => (told n).map (· != 0) == some (!expected)) := by
  have counts : ∀ p : Option Int → Bool, events.countP (fun e => p e.metadata) =
      (List.range stop).countP fun n => p (told n) := by
    intro p
    have both := congrArg (List.countP fun o : Nat × Option Int => p o.2) observed
    rwa [List.countP_map, List.countP_map] at both
  have finds : ∀ p : Option Int → Bool,
      (events.find? fun e => p e.metadata).map (·.sequence) =
        (List.range stop).find? fun n => p (told n) := by
    intro p
    have both := congrArg (fun os => (os.find? fun o : Nat × Option Int => p o.2).map (·.1))
      observed
    simp only [List.find?_map, Option.map_map] at both
    exact both.trans Option.map_id'
  refine ⟨?_, counts fun m => m.map (· != 0) == some (!expected),
    finds fun m => m.map (· != 0) == some (!expected)⟩
  refine (counts fun m => (m.map (· != 0)).isSome).trans ?_
  simp only [Option.isSome_map]

end Consistency

namespace Controller

/-- A camera's stream has just begun with a state of auto-exposure, and nothing has come of it. -/
structure Begins (config : CameraConfig) (on : Bool) (id : LogId) (c : Controller) : Prop where
  log : c.log = some id
  fed : c.bench.feed = some id
  empty : ∃ origin, c.bench.log? id = some { field := .autoExposure, origin }
  camera : ∃ started, c.bench.device = .camera started ∧ started.controls.autoExposure = on ∧
    started.Follows config (fun _ => on) 0

variable {config : CameraConfig} {on : Bool} {id : LogId} {c c' : Controller}

theorem Begins.count (begins : c.Begins config on id) : c.bench.count id = 0 := by
  obtain ⟨origin, empty⟩ := begins.empty
  rw [Bench.count, empty]
  rfl

theorem Begins.arrivals (begins : c.Begins config on id) (ms : Nat) :
    ∀ f ∈ ((c.bench.arrivals ms).map (·.frame)).zipIdx 0,
      f.1.Tells config (fun _ => on) f.2 := by
  obtain ⟨started, camera, current, follows⟩ := begins.camera
  rw [Bench.arrivals]
  split
  · exact List.forall_mem_nil _
  · rw [camera]
    intro f member
    exact ((follows.runUntil _ fun _ _ => current.symm).1 f member).1

theorem Begins.sleep (begins : c.Begins config on id) (ms : Nat) :
    ∃ log, (c.bench.sleep ms).log? id = some log ∧
      log.all.map (·.observation) =
        (List.range log.count).map fun n => (n, config.steadyMetadata on n) := by
  obtain ⟨origin, empty⟩ := begins.empty
  have slept := c.bench.log?_sleep_arrivals ms id
  rw [if_pos begins.fed, empty, Option.map_some, Bench.recordAll_eq] at slept
  refine ⟨_, slept, ?_⟩
  rw [FrameLog.all_append, FrameLog.count_append, FrameLog.length_eventsOf, List.range_eq_range']
  change ([] ++ _).map _ = (List.range' 0 (0 + _)).map _
  rw [Nat.zero_add, List.nil_append]
  exact FrameLog.observation_eventsOf rfl (begins.arrivals ms)

end Controller

namespace SteadyState

variable {on : Bool} {mode : ExposureMode} {c c' : Controller} {camera : Camera}

theorem begins_of_requested (device : c.device = .camera camera)
    (done : (do
      Controller.requestConfirmed .enableAutoExposure (if on then 1 else 0)
      let _ ← Controller.beginStreaming .autoExposure
      Controller.settleNow : Attempt Controller Unit) c = (.ok (), c')) :
    ∃ id, c'.Begins camera.config on id := by
  obtain ⟨_, c₁, requested, done⟩ := Attempt.ok_of_bind done
  obtain ⟨id, c₂, began, settled⟩ := Attempt.ok_of_bind done
  obtain ⟨controls, effect, device₁⟩ :=
    Controller.request_camera device (Controller.requestConfirmed_done requested)
  rw [Controls.write?_autoExposure] at effect
  cases effect
  obtain ⟨opened, started, opens, starts, rfl, present, _⟩ := Controller.beginStreaming_done began
  obtain ⟨camera₂, opens, device₂⟩ := Bench.openWith_camera device₁ opens
  obtain ⟨_, rfl⟩ := Camera.openWith_accepted opens
  obtain ⟨_, fed, logged⟩ := Bench.start_done starts
  obtain ⟨camera₃, begins, device₃⟩ := Bench.start_camera device₂ starts
  have follows : camera₃.Follows _ (fun _ => on) 0 := Camera.Follows.of_start begins rfl
  obtain ⟨_, _, rfl⟩ := Camera.start_accepted begins
  rw [Controller.settleNow_apply] at settled
  obtain ⟨_, rfl⟩ := Controller.transition_done settled
  exact ⟨id, present, fed, ⟨_, logged⟩, _, device₃, rfl, follows⟩

theorem prelude_begins (device : c.device = .camera camera)
    (done : prelude on mode c = (.ok (), c')) : ∃ id, c'.Begins camera.config on id := by
  cases on with
  | false => exact begins_of_requested device done
  | true =>
    obtain ⟨_, c₁, chosen, done⟩ := Attempt.ok_of_bind done
    obtain ⟨camera₁, device₁, config, _⟩ := Controller.applyMode_camera device chosen
    rw [← config]
    exact begins_of_requested device₁ done

theorem drive_collects {settings : Settings} (device : c.device = .camera camera) {w : Window}
    (done : drive settings on mode c = (.ok w, c')) :
    w.start = 0 ∧ w.stop = c'.framesObserved ∧ w.expected = on ∧
      (Scenario.recorded c').all.map (·.observation) =
        (List.range w.stop).map fun n => (n, camera.config.steadyMetadata on n) := by
  rw [drive_eq] at done
  obtain ⟨_, c₁, prepared, collected⟩ := Attempt.ok_of_bind done
  obtain ⟨id, begins⟩ := prelude_begins device prepared
  obtain ⟨log, present, _, rfl, same⟩ := Controller.collectWithin_done collected
  cases begins.log.symm.trans present
  obtain ⟨ms, slept⟩ : ∃ ms, (c₁.barrier.wait id settings.steadyState.frames
      settings.steadyState.timeoutMs c₁.bench).2 = c₁.bench.sleep ms :=
    ⟨_, (c₁.barrier.wait_ends id _ _ c₁.bench).2⟩
  obtain ⟨log, logged, observed⟩ := begins.sleep ms
  rw [slept] at same
  have bench : c'.bench = c₁.bench.sleep ms := congrArg Controller.bench same
  have streams : c'.log = some id := (congrArg Controller.log same).trans begins.log
  have recorded : Scenario.recorded c' = log := by
    rw [Scenario.recorded, streams, bench]
    exact congrArg (Option.getD · _) logged
  have counted : c'.bench.count id = log.count := by
    rw [bench, Bench.count, logged]
    rfl
  have observes : c'.framesObserved = log.count := by
    rw [← Controller.count_recorded, recorded]
  have stop : (Window.spanning (c₁.bench.count id) (c'.bench.count id) on).stop = log.count := by
    rw [begins.count, counted]
    exact Nat.max_zero log.count
  rw [stop, observes, recorded]
  exact ⟨begins.count, rfl, rfl, observed⟩

/-- The camera reports the state that it is set to, if it reports any. -/
def Agrees (config : CameraConfig) (on : Bool) : Prop :=
  ∀ value, config.stuckValue = some value → (value ≠ 0 ↔ on = true)

instance (config : CameraConfig) (on : Bool) : Decidable (Agrees config on) :=
  inferInstanceAs (Decidable (∀ value ∈ config.stuckValue, (value ≠ 0 ↔ on = true)))

theorem contradicts_steady (config : CameraConfig) (on : Bool) (n : Nat) :
    ((config.steadyMetadata on n).map (· != 0) == some (!on)) =
      (!config.isDropped n && !decide (Agrees config on)) := by
  rw [CameraConfig.steadyMetadata]
  cases config.isDropped n with
  | true => rfl
  | false =>
    rcases stuck : config.stuckValue with _ | value
    · have agrees : Agrees config on := by simp [Agrees, stuck]
      cases on <;> simp [agrees]
    · have agrees : Agrees config on ↔ (value ≠ 0 ↔ on = true) := by simp [Agrees, stuck]
      by_cases zero : value = 0 <;> cases on <;> simp [agrees, zero]

theorem ofEvents_steady {config : CameraConfig} {on : Bool} {events : List FrameEvent} {stop : Nat}
    (observed : events.map (·.observation) =
      (List.range stop).map fun n => (n, config.steadyMetadata on n)) :
    let check := Consistency.ofEvents on events
    check.compared = (config.reporting stop).length ∧
      check.mismatches = (if Agrees config on then 0 else (config.reporting stop).length) ∧
      check.firstMismatch =
        if Agrees config on then none else (config.reporting stop).head? := by
  obtain ⟨compared, mismatches, first⟩ := Consistency.ofEvents_of_observations on observed
  have carried : ∀ n, (config.steadyMetadata on n).isSome = !config.isDropped n := by
    intro n
    rw [CameraConfig.steadyMetadata]
    cases config.isDropped n <;> rfl
  simp only [contradicts_steady] at mismatches first
  simp only [carried] at compared
  dsimp only
  rw [compared, mismatches, first, CameraConfig.reporting, List.head?_filter,
    ← List.countP_eq_length_filter]
  by_cases agrees : Agrees config on <;> simp [agrees]

def unreported : Diagnostic := .note "no frame in the window carried auto-exposure metadata"

theorem judge_ok (profile : StreamProfile) (w : Window) (log : FrameLog) (v : Verdict) :
    (judge profile (.ok w) log v).metadataMismatches =
        (Consistency.checkWindow log.all w).mismatches ∧
      (judge profile (.ok w) log v).diagnostics = v.diagnostics ++
        (if 0 < (Consistency.checkWindow log.all w).mismatches then
          [.metadataMismatch (Consistency.checkWindow log.all w).mismatches
            (Consistency.checkWindow log.all w).compared
            (Consistency.checkWindow log.all w).firstMismatch] else []) ++
        if (Consistency.checkWindow log.all w).compared = 0 then [unreported] else [] := by
  simp only [judge]
  constructor
  · unfold Verdict.pushMismatches
    split <;> split <;> rfl
  · rw [Verdict.diagnostics_push_if, Verdict.diagnostics_pushMismatches]
    rfl

/-- The window that a run collects, if it comes to that. -/
def collected? (settings : Settings) (on : Bool) (mode : ExposureMode) (b : Bench) :
    Option Window :=
  (settings.profile.exactly.select? b.device.profiles).bind fun s =>
    (drive settings on mode (Scenario.controllerFor b s.profile settings)).1.toOption

/-- What a verdict makes of a window that holds the frames of a stream so far. -/
structure Exact (config : CameraConfig) (on : Bool) (w : Window) (verdict : Verdict) : Prop where
  start : w.start = 0
  stop : w.stop = verdict.framesObserved
  expected : w.expected = on
  mismatches : verdict.metadataMismatches =
    if Agrees config on then 0 else (config.reporting w.stop).length
  told : ∀ mismatches compared first,
    .metadataMismatch mismatches compared first ∈ verdict.diagnostics ↔
      0 < verdict.metadataMismatches ∧ mismatches = verdict.metadataMismatches ∧
        compared = mismatches ∧ first = (config.reporting w.stop).head?
  unheard : config.reporting w.stop = [] →
    verdict.status = .passed ∧ unreported ∈ verdict.diagnostics

theorem judge_exact {config : CameraConfig} {on : Bool} {w : Window} {log : FrameLog} {v : Verdict}
    (profile : StreamProfile) (start : w.start = 0) (stop : w.stop = log.count)
    (expected : w.expected = on) (observed : log.all.map (·.observation) =
      (List.range w.stop).map fun n => (n, config.steadyMetadata on n))
    (counted : v.framesObserved = log.count) (calm : v.Calm) (judged : v.Judged True) :
    Exact config on w (judge profile (.ok w) log v) := by
  have whole : Consistency.checkWindow log.all w = Consistency.ofEvents on log.all := by
    rw [Consistency.checkWindow, Consistency.check_eq, expected, start, stop, ← log.length_all,
      List.take_length, List.drop_zero]
  obtain ⟨compared, mismatches, first⟩ := ofEvents_steady observed
  obtain ⟨counts, told⟩ := judge_ok profile w log v
  rw [whole] at counts told
  refine ⟨start, ?_, expected, counts.trans mismatches, ?_, ?_⟩
  · rw [framesObserved_judge, stop, counted]
  · intro n compared' first'
    rw [told, List.mem_append, List.mem_append, or_iff_right (calm.unreported _ _ _), counts,
      compared, mismatches, first]
    have other : Diagnostic.metadataMismatch n compared' first' ∉
        if (config.reporting w.stop).length = 0 then [unreported] else [] := by
      split <;> simp [unreported]
    rw [or_iff_left other]
    by_cases agrees : Agrees config on
    · simp [agrees]
    · rw [if_neg agrees, if_neg agrees]
      split
      next some =>
        rw [List.mem_singleton, Diagnostic.metadataMismatch.injEq, and_iff_right some]
        constructor
        · rintro ⟨rfl, rfl, rfl⟩
          exact ⟨rfl, rfl, rfl⟩
        · rintro ⟨rfl, rfl, rfl⟩
          exact ⟨rfl, rfl, rfl⟩
      next none => exact iff_of_false List.not_mem_nil fun told => none told.1
  · intro none
    have silent : (Consistency.ofEvents on log.all).mismatches = 0 := by
      rw [mismatches, none]
      exact ite_self 0
    have empty : (Consistency.ofEvents on log.all).compared = 0 := by rw [compared, none]; rfl
    have sound : (judge profile (.ok w) log v).Judged (True ∧ True) :=
      judge_judged judged trivial fun w' same => by
        cases same
        rw [whole]
        exact iff_of_true silent trivial
    refine ⟨sound.status.1.mpr ⟨trivial, trivial⟩, ?_⟩
    rw [told, if_pos empty]
    exact List.mem_append_right _ (List.mem_singleton_self _)

theorem run_exact (settings : Settings) (on : Bool) (mode : ExposureMode) {b : Bench}
    {camera : Camera} (device : b.device = .camera camera) {w : Window}
    (collected : collected? settings on mode b = some w) :
    Exact camera.config on w (run settings on mode b).1 := by
  obtain ⟨s, selected, ended⟩ := Option.bind_eq_some_iff.mp collected
  rcases ran : drive settings on mode (Scenario.controllerFor b s.profile settings) with
    ⟨failure | w', c⟩ <;> rw [ran] at ended <;> cases ended
  obtain ⟨start, stop, expected, observed⟩ :=
    drive_collects (c := Scenario.controllerFor b s.profile settings) device ran
  rw [run, Scenario.conduct_verdict (name on mode) settings _ _ selected rfl, ran]
  apply judge_exact s.profile start _ expected
  · rw [Controller.recorded_finish]
    exact observed
  · rw [Controller.count_recorded]
  · exact (Scenario.selectProfile_calm b.device settings.profile.exactly (name on mode)).of_same
      rfl rfl
  · exact (Scenario.selectProfile_judged selected (name on mode)).of_same rfl
  · rw [Controller.recorded_finish, Controller.count_recorded]
    exact stop

theorem uncounted_of_uncollected (settings : Settings) (on : Bool) (mode : ExposureMode) {b : Bench}
    (uncollected : collected? settings on mode b = none) :
    (run settings on mode b).1.metadataMismatches = 0 := by
  have calm := Scenario.selectProfile_calm b.device settings.profile.exactly (name on mode)
  rcases selected : settings.profile.exactly.select? b.device.profiles with _ | s
  · rw [run, Scenario.conduct_eq, selected]
    exact calm.uncounted
  · rw [collected?, selected] at uncollected
    rcases ran : drive settings on mode (Scenario.controllerFor b s.profile settings) with
      ⟨failure | w, c⟩
    · rw [run, Scenario.conduct_verdict (name on mode) settings _ _ selected rfl, ran]
      exact calm.uncounted
    · rw [Option.bind_some, ran] at uncollected
      cases uncollected

/-- A steady state is exact on a camera, whatever its settings and whatever its controls were
before. The window, if it is collected, is the stream from its first frame on. A camera that is not
stuck, or stuck at what is requested, never contradicts it; one that is stuck otherwise contradicts
it with every frame that carries the field, of which the first is named. If none does, the run
passes and says so. -/
theorem exact_on_camera (settings : Settings) (on : Bool) (mode : ExposureMode) (camera : Camera)
    (b : Bench) :
    let b := { b with device := .camera camera }
    let verdict := (run settings on mode b).1
    (collected? settings on mode b = none → verdict.metadataMismatches = 0) ∧
      ∀ w, collected? settings on mode b = some w →
        w.start = 0 ∧ w.stop = verdict.framesObserved ∧
        ∃ reporting : List Nat,
          reporting.Pairwise (· < ·) ∧
          (∀ n, n ∈ reporting ↔ n < w.stop ∧
            ¬ ∃ every, camera.config.dropoutEvery = some every ∧ 0 < every ∧ every ∣ n + 1) ∧
          (camera.config.stuckValue = none → verdict.metadataMismatches = 0) ∧
          (∀ value, camera.config.stuckValue = some value →
            if value ≠ 0 ↔ on then verdict.metadataMismatches = 0
            else verdict.metadataMismatches = reporting.length) ∧
          (∀ mismatches compared first,
            .metadataMismatch mismatches compared first ∈ verdict.diagnostics ↔
              0 < verdict.metadataMismatches ∧ mismatches = verdict.metadataMismatches ∧
                compared = mismatches ∧ first = reporting.head?) ∧
          (reporting = [] → verdict.status = .passed ∧
            .note "no frame in the window carried auto-exposure metadata" ∈
              verdict.diagnostics) := by
  dsimp only
  refine ⟨uncounted_of_uncollected settings on mode, fun w collected => ?_⟩
  obtain ⟨start, stop, -, mismatches, told, unheard⟩ := run_exact settings on mode rfl collected
  refine ⟨start, stop, camera.config.reporting w.stop, camera.config.reporting_increases w.stop,
    fun n => camera.config.mem_reporting, fun unstuck => ?_, fun value stuck => ?_, told, unheard⟩
  · have agrees : Agrees camera.config on := by simp [Agrees, unstuck]
    rw [mismatches, if_pos agrees]
  · have agrees : Agrees camera.config on ↔ (value ≠ 0 ↔ on = true) := by simp [Agrees, stuck]
    split
    next same => rw [mismatches, if_pos (agrees.mpr same)]
    next other => rw [mismatches, if_neg (mt agrees.mp other)]

end SteadyState

end ExposureBench
