import ExposureBench.Proofs.Magnitude
import ExposureBench.Proofs.Release
import ExposureBench.Proofs.Skips
import ExposureBench.Proofs.Waiting

/-!
If every frame period and every exposure is a span of time and nothing is read-only, all that can
go wrong is that the frames do not come.
-/

namespace ExposureBench

theorem ExposureMode.ofValue?_value (mode : ExposureMode) : ofValue? mode.value = some mode := by
  cases mode <;> decide +kernel

namespace CameraConfig

/-- Rates of up to a billion frames a second, exposures from zero to a trillion microseconds, and
nothing read-only. -/
structure Usable (config : CameraConfig) : Prop where
  rates : ∀ profile ∈ config.profiles, profile.fps ≤ 10 ^ 9
  writable : config.readOnly = []
  min_nonneg : 0 ≤ config.exposureRange.min
  ordered : config.exposureRange.min ≤ config.exposureRange.max
  max_le : config.exposureRange.max ≤ 1e12
  initial_nonneg : 0 ≤ config.exposureRange.initial
  initial_le : config.exposureRange.initial ≤ 1e12

structure Grants (config : CameraConfig) (option : DeviceOption) (v : Float) : Prop where
  supported : config.supports option
  writable : option ∉ config.readOnly
  contained : (config.range option).contains v
  known : ∀ controls : Controls, (controls.write? option v).isSome

namespace Usable

variable {config : CameraConfig}

theorem grants_autoExposure (usable : config.Usable) (on : Bool) :
    config.Grants .enableAutoExposure (if on then 1 else 0) where
  supported := rfl
  writable := by simp [usable.writable]
  contained := by
    change (OptionRange.mk 0 1 1 1).contains _
    cases on <;> decide
  known _ := rfl

theorem grants_mode (usable : config.Usable) (supported : config.supportsMode)
    (mode : ExposureMode) : config.Grants .autoExposureMode mode.value where
  supported := supported
  writable := by simp [usable.writable]
  contained := by
    change (OptionRange.mk 0 1 1 0).contains _
    cases mode <;> decide
  known _ := by rw [Controls.write?, mode.ofValue?_value]; rfl

theorem grants_exposure (usable : config.Usable) (v : Float) :
    config.Grants .exposure (config.exposureRange.clamp v) where
  supported := rfl
  writable := by simp [usable.writable]
  contained := Magnitude.contains_clamp usable.ordered v
  known _ := rfl

theorem timed (usable : config.Usable) : (Camera.ofConfig config).Timed where
  period profile offered := Magnitude.isSome_of_rate (usable.rates profile offered)
  range v contained := by
    obtain ⟨least, most⟩ := of_decide_eq_true contained
    have bounded := (Magnitude.upTo_trillion.of_le
      (Magnitude.nonneg_trans usable.min_nonneg usable.ordered) usable.max_le).of_le
        (Magnitude.nonneg_trans usable.min_nonneg least) most
    exact Magnitude.isSome_of_micros bounded
  exposure := Magnitude.isSome_of_micros
    (Magnitude.upTo_trillion.of_le usable.initial_nonneg usable.initial_le)

end Usable

end CameraConfig

def DeviceOption.ReadsBack (option : DeviceOption) (v : Float) : Prop :=
  ∀ controls controls' : Controls, controls.write? option v = some controls' →
    ¬ Controller.tolerance < (controls'.value option - v).abs

theorem DeviceOption.readsBack_autoExposure (on : Bool) :
    ReadsBack .enableAutoExposure (if on then 1 else 0) := by
  intro controls controls' written
  cases written
  have read : ((if on then 1 else 0 : Float) != 0) = on := by cases on <;> decide
  simp only [Controls.value, read]
  cases on <;> decide +kernel

theorem DeviceOption.readsBack_mode (mode : ExposureMode) :
    ReadsBack .autoExposureMode mode.value := by
  intro controls controls' written
  rw [Controls.write?, mode.ofValue?_value] at written
  cases written
  simp only [Controls.value]
  cases mode <;> decide +kernel

namespace Camera

/-- A camera of the configuration that can deliver, and does so if it is to stream. -/
structure Healthy (config : CameraConfig) (streaming : Bool) (c : Camera) : Prop where
  config : c.config = config
  state : if streaming then c.Streams else c.Released ∧ c.Timed

variable {config : CameraConfig} {streaming : Bool} {c : Camera}

theorem Healthy.set (healthy : c.Healthy config streaming) (option : DeviceOption) (v : Float) :
    (c.set option v).2.Healthy config streaming := by
  have kept := c.kept_set option v
  refine ⟨kept.config.trans healthy.config, ?_⟩
  have state := healthy.state
  cases streaming with
  | true => exact state.set option v
  | false => exact ⟨state.1.kept kept, state.2.set option v⟩

theorem Healthy.runUntil (healthy : c.Healthy config streaming) (time : Nat) :
    (c.runUntil time).1.Healthy config streaming := by
  have kept := c.kept_runUntil time
  refine ⟨kept.config.trans healthy.config, ?_⟩
  have state := healthy.state
  cases streaming with
  | true => exact state.runUntil time
  | false => exact ⟨state.1.kept kept, state.2.runUntil time⟩

theorem set_granted {option : DeviceOption} {v : Float} (grants : c.config.Grants option v) :
    ∃ controls, c.controls.write? option v = some controls ∧
      c.set option v = (.ok (), { c with controls }) := by
  obtain ⟨controls, written⟩ := Option.isSome_iff_exists.mp (grants.known c.controls)
  refine ⟨controls, written, ?_⟩
  simp [Camera.set, Camera.supports, grants.supported, grants.writable, grants.contained, written]

theorem Healthy.begins {profile : StreamProfile} (healthy : c.Healthy config false)
    (offered : profile ∈ config.profiles) (now : Nat) :
    ∃ opened started, c.openWith profile = (.ok (), opened) ∧
      opened.start now = (.ok (), started) ∧ started.Healthy config true := by
  obtain ⟨same, released, timed⟩ := healthy
  have closed : ¬ c.isOpen = true := by simp [released.1]
  have listed : c.config.profiles.contains profile := by simpa [same] using offered
  have opens : c.openWith profile = (.ok (), { c with profile := some profile }) := by
    rw [openWith, if_neg closed, if_pos listed]
  have starts := (released.start opens now).2
  have streams := timed.start released opens now
  rw [starts] at streams
  exact ⟨_, _, opens, starts, same, streams⟩

theorem Healthy.ends (healthy : c.Healthy config true) :
    c.stop.1 = .ok () ∧ c.stop.2.close.1 = .ok () ∧ c.stop.2.close.2.Healthy config false := by
  obtain ⟨same, streams⟩ := healthy
  have freed := Streams.stop_close streams
  obtain ⟨⟨isOpen, _⟩, _, d, running, _⟩ := streams
  obtain ⟨stops, closes⟩ := stop_close_running running isOpen
  rw [closes] at freed ⊢
  exact ⟨stops, rfl, same, freed⟩

end Camera

namespace Bench

def Unrefused (b : Bench) : Prop := ∀ record ∈ b.calls.toList, record.accepted

/-- The bench holds a healthy camera that has not refused a call. -/
structure Serves (config : CameraConfig) (streaming : Bool) (b : Bench) : Prop where
  camera : b.Holds (Camera.Healthy config streaming)
  unrefused : b.Unrefused

variable {config : CameraConfig} {streaming : Bool} {b b' : Bench}

theorem Unrefused.push (unrefused : b.Unrefused) (record : CallRecord) (accepted : record.accepted)
    (pushed : b'.calls = b.calls.push record) : b'.Unrefused := by
  intro made member
  rw [pushed, Array.toList_push, List.mem_append, List.mem_singleton] at member
  rcases member with earlier | rfl
  · exact unrefused made earlier
  · exact accepted

theorem Unrefused.perform (unrefused : b.Unrefused) (call : Call)
    (result : Except DeviceFault Unit × Device) (granted : result.1 = .ok ()) :
    (b.perform call result).2.Unrefused :=
  unrefused.push ⟨call, result.1.isOk, b.now⟩ (by rw [granted]; rfl) rfl

theorem Serves.sleep (serves : b.Serves config streaming) (ms : Nat) :
    (b.sleep ms).Serves config streaming where
  camera := serves.camera.evolves (fun _ option v healthy => healthy.set option v)
    (fun _ time healthy => healthy.runUntil time) (Evolves.refl.slept ms)
  unrefused := by
    rw [Unrefused, calls_sleep]
    exact serves.unrefused

theorem Serves.set {option : DeviceOption} {v : Float} (serves : b.Serves config streaming)
    (grants : config.Grants option v) :
    ∃ b' controls controls', b.set option v = (.ok (), b') ∧ b'.Serves config streaming ∧
      Controls.write? controls option v = some controls' ∧
      b'.device.get option = .ok (controls'.value option) := by
  obtain ⟨⟨c, camera, healthy⟩, unrefused⟩ := serves
  have granted := grants
  rw [← healthy.config] at granted
  obtain ⟨controls, written, accepted⟩ := Camera.set_granted granted
  have after := healthy.set option v
  rw [accepted] at after
  have sets : b.set option v =
      b.perform (.set option v) (.ok (), .camera { c with controls }) := by
    rw [Bench.set, camera]
    exact congrArg (b.perform _) (congrArg (Prod.map id Device.camera) accepted)
  exact ⟨_, _, controls, sets, ⟨⟨_, rfl, after⟩, unrefused.perform _ _ rfl⟩, written,
    if_pos granted.supported⟩

theorem Serves.begins {profile : StreamProfile} (serves : b.Serves config false)
    (offered : profile ∈ config.profiles) (field : MetadataField) :
    ∃ opened started id, b.openWith profile = (.ok (), opened) ∧
      opened.start field = (.ok id, started) ∧ started.Serves config true := by
  obtain ⟨⟨c, camera, healthy⟩, unrefused⟩ := serves
  obtain ⟨opened, started, opens, starts, live⟩ := healthy.begins offered b.now
  have opening : b.openWith profile = b.perform (.openWith profile) (.ok (), .camera opened) := by
    rw [openWith, camera]
    exact congrArg (b.perform _) (congrArg (Prod.map id Device.camera) opens)
  have starting := start_of_accepted
    (b := (b.perform (.openWith profile) (.ok (), .camera opened)).2) rfl starts field
  have allowed := unrefused.perform (.openWith profile) (.ok (), .camera opened) rfl
  exact ⟨_, _, _, opening, starting, ⟨started, rfl, live⟩,
    allowed.push ⟨.start, true, b.now⟩ rfl rfl⟩

theorem Serves.ends (serves : b.Serves config true) : b.stop.2.close.2.Serves config false := by
  obtain ⟨⟨c, camera, healthy⟩, unrefused⟩ := serves
  obtain ⟨stops, closes, freed⟩ := healthy.ends
  have stopping : b.stop = b.perform .stop (c.stop.map id .camera) := by rw [stop, camera]; rfl
  refine ⟨⟨_, (stop_close_camera camera).2, freed⟩, ?_⟩
  rw [stopping]
  exact (unrefused.perform .stop _ stops).perform .close _ closes

end Bench

/-- A skip or a stall: nothing that a device refused. -/
def Failure.Blameless : Failure → Prop
  | .unavailable _ | .timedOut .. => True
  | _ => False

theorem Failure.Blameless.diagnostic {failure : Failure} (blameless : failure.Blameless)
    (detail : String) : Diagnostic.ofFailure failure ≠ .deviceFailure detail := by
  cases failure with
  | unavailable => exact Diagnostic.noConfusion
  | timedOut => exact Diagnostic.noConfusion
  | _ => exact blameless.elim

structure Controller.Serves (config : CameraConfig) (stage : Stage) (c : Controller) : Prop where
  holds : stage.Holds c
  session : c.session.state = if stage.streaming then .started else .closed
  bench : c.bench.Serves config stage.streaming
  profile : c.session.profile ∈ config.profiles

/-- How an operation ends that is refused nothing: at its stage, or in a wait that ran out, after
which the camera has been given back. -/
def Controller.Ends {α : Type} (config : CameraConfig) (stage : Stage) :
    Except Failure α × Controller → Prop
  | (.ok _, c) => c.Serves config stage
  | (.error failure, c) =>
    failure.Blameless ∧ c.session.state = .closed ∧ c.bench.Serves config false

namespace Controller

variable {config : CameraConfig} {stage : Stage} {c : Controller}

theorem Ends.map {α β : Type} {result : Except Failure α × Controller}
    (ends : Ends config stage result) (f : α → β) :
    Ends config stage (result.1.map f, result.2) := by
  rcases result with ⟨_ | _, _⟩ <;> exact ends

theorem Serves.moves (serves : c.Serves config stage) {phase : Phase} {progress : Progress}
    (reached : phase.progress? = some progress) {bench : Bench}
    (kept : bench.Serves config stage.streaming) :
    ((c.withBench bench).inPhase phase).Serves config { stage with progress } :=
  ⟨serves.holds.moves reached bench, serves.session, kept, serves.profile⟩

theorem beginStreaming_ends {progress : Progress} (serves : c.Serves config ⟨false, progress⟩)
    (field : MetadataField) : Ends config ⟨true, progress⟩ (beginStreaming field c) := by
  obtain ⟨opened, started, id, opens, starts, live⟩ := serves.bench.begins serves.profile field
  have begins : beginStreaming field c = (.ok id, { c with
      session := { c.session with bench := started, state := .started, log := some id }
      log := some id }) := by
    have opens : c.session.bench.openWith c.session.profile = (.ok (), opened) := opens
    rw [beginStreaming_apply, Session.openDevice_start_apply serves.session, opens]
    simp only [starts]
  rw [begins]
  exact ⟨⟨rfl, serves.holds.progress⟩, rfl, live, serves.profile⟩

theorem request_of_set {progress : Progress} (reached : c.phase.progress? = some progress)
    {option : DeviceOption} {value : Float} {bench : Bench}
    (written : c.bench.set option value = (.ok (), bench)) :
    request option value c = (.ok (), (c.inPhase (.requested option value)).withBench bench) := by
  rw [request_apply, if_pos (Phase.canTransition_requested reached option value), written]
  rfl

theorem request_ends (serves : c.Serves config stage) {option : DeviceOption} {value : Float}
    (grants : config.Grants option value) :
    Ends config { stage with progress := .requested } (request option value c) := by
  obtain ⟨bench, _, _, written, kept, _⟩ := serves.bench.set grants
  rw [request_of_set serves.holds.progress written]
  exact serves.moves rfl kept

theorem requestConfirmed_ends (serves : c.Serves config stage) {option : DeviceOption}
    {value : Float} (grants : config.Grants option value) (readsBack : option.ReadsBack value) :
    Ends config { stage with progress := .requested } (requestConfirmed option value c) := by
  obtain ⟨bench, _, _, written, kept, effect, read⟩ := serves.bench.set grants
  have near := readsBack _ _ effect
  have answers : ((c.inPhase (.requested option value)).withBench bench).device.get option = _ :=
    read
  rw [requestConfirmed_apply, request_of_set serves.holds.progress written]
  simp only [confirm_apply, answers, if_neg near]
  exact serves.moves rfl kept

inductive Rests {α : Type} (stage : Stage) (c : Controller) : Except Failure α × Controller → Prop
  | settled (a : α) (ms frames : Nat) :
      Rests stage c (.ok a, (c.withBench (c.bench.sleep ms)).inPhase (.settled frames))
  | stalled (streaming : stage.streaming) (requested observed limit ms : Nat) :
      Rests stage c (.error (.timedOut requested observed limit),
        (c.withBench (c.bench.sleep ms)).stalledAt requested observed)

theorem Rests.ends {α : Type} {result : Except Failure α × Controller}
    (rests : Rests stage c result) (serves : c.Serves config stage) :
    Ends config { stage with progress := .settled } result := by
  cases rests with
  | settled a ms frames => exact serves.moves rfl (serves.bench.sleep ms)
  | stalled streaming requested observed limit ms =>
    have live := serves.bench.sleep ms
    have started := serves.session
    rw [streaming] at live started
    have torn := Session.tornDown_of_started (s := (c.withBench (c.bench.sleep ms)).session) started
    refine ⟨trivial, Session.tornDown_state _, ?_⟩
    change Bench.Serves config false (c.withBench (c.bench.sleep ms)).session.tornDown.bench
    rw [torn]
    exact live.ends

theorem settleNow_rests (holds : stage.Holds c) : Rests stage c (settleNow c) := by
  have can := Phase.canTransition_settled holds.progress c.framesObserved
  rw [settleNow_apply, transition_apply, if_pos can]
  exact .settled () 0 c.framesObserved

theorem warmUp_rests (holds : stage.Holds c) (ms : Nat) : Rests stage c (warmUp ms c) := by
  have can :=
    Phase.canTransition_settled holds.progress (c.withBench (c.bench.sleep ms)).framesObserved
  rw [warmUp_apply]
  dsimp only
  rw [if_pos can]
  exact .settled _ ms _

theorem await_slept (log : LogId) (frames timeoutMs : Nat) (c : Controller) :
    ∃ ms, await log frames timeoutMs c = (.ok (), c.withBench (c.bench.sleep ms)) ∨
      ∃ requested observed limit, await log frames timeoutMs c =
        (.error (.timedOut requested observed limit),
          (c.withBench (c.bench.sleep ms)).stalledAt requested observed) := by
  have slept := (c.barrier.wait_ends log frames timeoutMs c.bench).2
  refine ⟨(c.barrier.wait log frames timeoutMs c.bench).1.elapsedMs, ?_⟩
  rw [await_apply, ← slept]
  dsimp only
  split
  · exact .inl rfl
  · exact .inr ⟨_, _, _, rfl⟩

theorem stabilize_rests (holds : Stage.Holds ⟨true, .requested⟩ c) (frames : Nat) :
    Rests ⟨true, .requested⟩ c (stabilize frames c) := by
  obtain ⟨log, present⟩ := Option.isSome_iff_exists.mp holds.session
  have can := Phase.canTransition_stabilizing holds.progress frames
  rw [stabilize_apply, present]
  dsimp only
  rw [if_pos can]
  obtain ⟨ms, done | ⟨requested, observed, limit, stalled⟩⟩ :=
    await_slept log frames c.timeoutMs (c.inPhase (.stabilizing frames))
  · rw [done]
    exact .settled () ms _
  · rw [stalled]
    exact .stalled rfl requested observed limit ms

theorem collectWithin_rests (holds : Stage.Holds ⟨true, .settled⟩ c) (frames : Nat)
    (expected : Bool) (timeoutMs : Nat) :
    Rests ⟨true, .settled⟩ c (collectWithin frames expected timeoutMs c) := by
  obtain ⟨log, present⟩ := Option.isSome_iff_exists.mp holds.session
  rw [collectWithin_apply, if_pos (Phase.isSettled_of_progress holds.progress), present]
  dsimp only
  obtain ⟨ms, done | ⟨requested, observed, limit, stalled⟩⟩ := await_slept log frames timeoutMs c
  · obtain ⟨since, settled⟩ : ∃ since, c.phase = .settled since := by
      have reached := holds.progress
      cases phase : c.phase with
      | settled since => exact ⟨since, rfl⟩
      | _ => rw [phase] at reached; cases reached
    have same : c.withBench (c.bench.sleep ms) =
        (c.withBench (c.bench.sleep ms)).inPhase (.settled since) := by
      rw [← settled]
      rfl
    rw [done, same]
    exact .settled _ ms since
  · rw [stalled]
    exact .stalled rfl requested observed limit ms

theorem hold_rests {progress : Progress} (holds : Stage.Holds ⟨true, progress⟩ c) (ms : Nat) :
    Rests ⟨true, progress⟩ c (hold ms c) := by
  obtain ⟨log, present⟩ := Option.isSome_iff_exists.mp holds.session
  have can := Phase.canTransition_settled holds.progress ((c.bench.sleep ms).count log)
  rw [hold_apply, present]
  dsimp only
  split
  · exact .stalled rfl 1 0 _ ms
  · rw [transition_apply, phase_withBench, bench_withBench, if_pos can]
    exact .settled _ ms _

end Controller

def Operation.Fits (config : CameraConfig) : Operation → Prop
  | .request option value => config.Grants option value
  | .requestConfirmed option value => config.Grants option value ∧ option.ReadsBack value
  | _ => True

theorem Operation.run_ends {config : CameraConfig} {op : Operation} {stage stage' : Stage}
    {c : Controller} (next : op.next? stage = some stage') (fits : op.Fits config)
    (serves : c.Serves config stage) : Controller.Ends config stage' (op.run c) := by
  rcases stage with ⟨streaming, progress⟩
  cases op with
  | beginStreaming field =>
    cases streaming <;> cases next
    rw [run, Attempt.map_apply]
    exact (Controller.beginStreaming_ends serves field).map _
  | request option value =>
    cases next
    rw [run, Attempt.map_apply]
    exact (Controller.request_ends serves fits).map _
  | requestConfirmed option value =>
    cases next
    rw [run, Attempt.map_apply]
    exact (Controller.requestConfirmed_ends serves fits.1 fits.2).map _
  | settleNow =>
    cases next
    rw [run, Attempt.map_apply]
    exact ((Controller.settleNow_rests serves.holds).ends serves).map _
  | warmUp ms =>
    cases next
    rw [run, Attempt.map_apply]
    exact ((Controller.warmUp_rests serves.holds ms).ends serves).map _
  | stabilize frames =>
    cases streaming <;> cases progress <;> cases next
    rw [run, Attempt.map_apply]
    exact ((Controller.stabilize_rests serves.holds frames).ends serves).map _
  | collect frames expected =>
    cases streaming <;> cases progress <;> cases next
    have rests := Controller.collectWithin_rests serves.holds frames expected c.timeoutMs
    rw [run, Attempt.map_apply, Controller.collect_apply]
    exact (rests.ends serves).map _
  | collectWithin frames expected timeoutMs =>
    cases streaming <;> cases progress <;> cases next
    have rests := Controller.collectWithin_rests serves.holds frames expected timeoutMs
    rw [run, Attempt.map_apply]
    exact (rests.ends serves).map _
  | hold ms =>
    cases streaming <;> cases next
    rw [run, Attempt.map_apply]
    exact ((Controller.hold_rests serves.holds ms).ends serves).map _

theorem Plan.run_ends {config : CameraConfig} {plan : Plan} {stage stage' : Stage} {c : Controller}
    (ends : plan.end? stage = some stage') (fits : ∀ op ∈ plan, op.Fits config)
    (serves : c.Serves config stage) : Controller.Ends config stage' (plan.run c) := by
  induction plan generalizing stage c with
  | nil =>
    cases ends
    exact serves
  | cons op rest ih =>
    obtain ⟨middle, next, ends⟩ := Option.bind_eq_some_iff.mp ends
    obtain ⟨here, others⟩ := List.forall_mem_cons.mp fits
    have first := Operation.run_ends next here serves
    rw [run_cons]
    rcases ran : op.run c with ⟨failure | r, c'⟩ <;> rw [ran] at first
    · exact first
    · exact ih ends others first

theorem Controller.Ends.finish {α : Type} {config : CameraConfig} {stage : Stage}
    {result : Except Failure α × Controller} (ends : Ends config stage result) :
    result.2.finish.bench.Serves config false := by
  rcases result with ⟨failure | a, c⟩
  · obtain ⟨_, closed, serves⟩ := ends
    rw [finish_bench_of_closed closed]
    exact serves
  · obtain ⟨_, session, serves, _⟩ := ends
    rcases stage with ⟨_ | _, _⟩
    · rw [finish_bench_of_closed session]
      exact serves
    · rw [finish_bench_of_started session]
      exact serves.ends

theorem ProfileQuery.mem_of_select? {q : ProfileQuery} {offered : List StreamProfile}
    {s : Selection} (selected : q.select? offered = some s) : s.profile ∈ offered := by
  unfold select? at selected
  split at selected
  next found =>
    cases selected
    exact List.mem_of_find?_eq_some found
  · split at selected
    · obtain ⟨p, first, rfl⟩ := Option.map_eq_some_iff.mp selected
      exact List.mem_of_head? first
    · cases selected

section Plans

variable {config : CameraConfig} (usable : config.Usable) {c : Camera} (same : c.config = config)
    (settings : Settings)
include usable

theorem CameraConfig.Usable.fits_setAutoExposure (on : Bool) :
    (Operation.setAutoExposure on).Fits config :=
  usable.grants_autoExposure on

theorem RapidToggle.togglePlan_fits (left : Nat) (on : Bool) :
    ∀ op ∈ togglePlan settings left on, op.Fits config := by
  induction left generalizing on with
  | zero => exact List.forall_mem_nil _
  | succ left ih =>
    simp only [togglePlan, windowPlan, List.cons_append, List.nil_append, List.forall_mem_cons]
    exact ⟨usable.fits_setAutoExposure on, trivial, trivial, ih (!on)⟩

theorem RapidToggle.windowsPlan_fits (toggles : Nat) :
    ∀ op ∈ windowsPlan settings toggles, op.Fits config := by
  cases toggles with
  | zero => exact List.forall_mem_nil _
  | succ left =>
    simp only [windowsPlan, windowPlan, List.cons_append, List.nil_append, List.forall_mem_cons]
    exact ⟨trivial, togglePlan_fits usable settings left false⟩

theorem ExtremeRecovery.iterationsPlan_fits {exposure : Float}
    (granted : config.Grants .exposure exposure) (left : Nat) :
    ∀ op ∈ iterationsPlan settings exposure left, op.Fits config := by
  induction left with
  | zero => exact List.forall_mem_nil _
  | succ left ih =>
    simp only [iterationsPlan, iterationPlan, List.cons_append, List.nil_append,
      List.forall_mem_cons]
    exact ⟨usable.fits_setAutoExposure false, granted, trivial, usable.fits_setAutoExposure true,
      trivial, ih⟩

include same

theorem Scenario.modePlan_fits {mode : ExposureMode} {plan : Plan}
    (chosen : modePlan mode (.camera c) = .ok plan) : ∀ op ∈ plan, op.Fits config := by
  rw [modePlan] at chosen
  split at chosen
  next supported =>
    cases chosen
    rw [List.forall_mem_singleton]
    have supported : config.supportsMode := same ▸ supported
    exact ⟨usable.grants_mode supported mode, DeviceOption.readsBack_mode mode⟩
  · split at chosen <;> cases chosen
    exact List.forall_mem_nil _

theorem Experiment.plan_fits {e : Experiment} {profile : StreamProfile} {plan : Plan}
    (made : e.plan settings profile (.camera c) = .ok plan) : ∀ op ∈ plan, op.Fits config := by
  cases e with
  | baseline =>
    cases made
    simp only [baselinePlan, List.forall_mem_cons]
    exact ⟨trivial, usable.fits_setAutoExposure true, trivial, trivial, List.forall_mem_nil _⟩
  | steadyState on mode =>
    obtain ⟨first, chosen, rfl⟩ := ok_of_map made
    have moded : ∀ op ∈ first, op.Fits config := by
      split at chosen
      · exact Scenario.modePlan_fits usable same chosen
      · cases chosen
        exact List.forall_mem_nil _
    simp only [SteadyState.preludePlan, SteadyState.windowPlan, List.cons_append, List.nil_append,
      List.forall_mem_append, List.forall_mem_cons]
    have readable := DeviceOption.readsBack_autoExposure on
    exact ⟨moded, ⟨usable.grants_autoExposure on, readable⟩, trivial, trivial, trivial,
      List.forall_mem_nil _⟩
  | rapidToggle mode =>
    obtain ⟨first, chosen, rfl⟩ := ok_of_map made
    simp only [RapidToggle.warmUpPlan, List.cons_append, List.nil_append, List.forall_mem_append,
      List.forall_mem_cons]
    exact ⟨Scenario.modePlan_fits usable same chosen, trivial, usable.fits_setAutoExposure true,
      trivial, RapidToggle.windowsPlan_fits usable settings _⟩
  | extremeRecovery =>
    change Except.ok (.beginStreaming .autoExposure :: ExtremeRecovery.iterationsPlan settings
      (c.config.exposureRange.clamp _) settings.extremeRecovery.iterations) = _ at made
    cases made
    rw [same, List.forall_mem_cons]
    exact ⟨trivial,
      ExtremeRecovery.iterationsPlan_fits usable settings (usable.grants_exposure _) _⟩

omit usable same

theorem Scenario.modePlan_blameless {mode : ExposureMode} {device : Device} {failure : Failure}
    (failed : modePlan mode device = .error failure) : failure.Blameless := by
  rw [modePlan] at failed
  split at failed
  · cases failed
  · split at failed <;> cases failed
    trivial

theorem Experiment.plan_blameless {e : Experiment} {profile : StreamProfile} {failure : Failure}
    (failed : e.plan settings profile (.camera c) = .error failure) : failure.Blameless := by
  cases e with
  | baseline => cases failed
  | steadyState on mode =>
    rw [plan] at failed
    cases on with
    | false => cases failed
    | true =>
      rcases chosen : Scenario.modePlan mode (.camera c) with other | first <;>
        rw [if_pos rfl, chosen] at failed <;> cases failed
      exact Scenario.modePlan_blameless chosen
  | rapidToggle mode =>
    rw [plan] at failed
    rcases chosen : Scenario.modePlan mode (.camera c) with other | first <;>
      rw [chosen] at failed <;> cases failed
    exact Scenario.modePlan_blameless chosen
  | extremeRecovery =>
    change Except.ok _ = _ at failed
    cases failed

end Plans

namespace Experiment

variable {config : CameraConfig} (usable : config.Usable) (settings : Settings)
    (baseline : Option BaselineSummary) (e : Experiment) {b : Bench}
include usable

theorem driven_serves {profile : StreamProfile} (offered : profile ∈ config.profiles)
    (serves : b.Serves config false) {outcome : Except Failure Unit} {c : Controller}
    (driven : e.driven settings (Scenario.controllerFor b profile settings) = (outcome, c)) :
    c.finish.bench.Serves config false ∧
      ∀ failure, outcome = .error failure → failure.Blameless := by
  have fresh : (Scenario.controllerFor b profile settings).Serves config ⟨false, .idle⟩ :=
    ⟨⟨rfl, rfl⟩, rfl, serves, offered⟩
  obtain ⟨camera, held, healthy⟩ := serves.camera
  have device : (Scenario.controllerFor b profile settings).device = .camera camera := held
  have asked : (Scenario.controllerFor b profile settings).session.profile = profile := rfl
  rw [Experiment.driven, device, asked] at driven
  rcases made : e.plan settings profile (.camera camera) with failure | plan
  · rw [made] at driven
    cases driven
    rw [Scenario.finish_controllerFor]
    refine ⟨serves, fun failure failed => ?_⟩
    cases failed
    exact plan_blameless settings made
  · rw [made] at driven
    obtain ⟨stage, ends⟩ := plan_end made
    have ended := Plan.run_ends ends (plan_fits usable healthy.config settings made) fresh
    dsimp only at driven
    rw [driven] at ended
    refine ⟨ended.finish, fun failure failed => ?_⟩
    cases failed
    exact ended.1

theorem run_serves (serves : b.Serves config false) :
    (e.run settings baseline b).2.Serves config false ∧
      ∀ detail, .deviceFailure detail ∉ (e.run settings baseline b).1.diagnostics := by
  rcases selected : (e.query settings).select? b.device.profiles with _ | s
  · have skips : Scenario.Skips b (e.run settings baseline b) :=
      skips_of_unserved (unserved_iff.mpr selected)
    obtain ⟨v, failure, blank, skip, ran⟩ := skips
    rw [ran]
    exact ⟨serves, fun detail member =>
      Bool.noConfusion ((blank.recordFailure skip).unfailed _ member)⟩
  · have offered : s.profile ∈ config.profiles := by
      obtain ⟨c, camera, healthy⟩ := serves.camera
      have member := ProfileQuery.mem_of_select? selected
      rw [camera] at member
      exact healthy.config ▸ member
    rcases driven : e.driven settings (Scenario.controllerFor b s.profile settings)
      with ⟨outcome, c⟩
    obtain ⟨freed, blameless⟩ := driven_serves usable settings e offered serves driven
    constructor
    · rw [run_bench, selected]
      simp only [driven]
      exact freed
    · intro detail member
      have cause := Verdict.mem_causes.mpr ⟨member, rfl⟩
      rw [causes_run settings baseline e selected, driven] at cause
      cases outcome with
      | ok => cases cause
      | error failure =>
        exact (blameless failure rfl).diagnostic detail (List.mem_singleton.mp cause).symm

end Experiment

namespace Suite

theorem runEach_serves {config : CameraConfig} (usable : config.Usable) (settings : Settings)
    (baseline : Option BaselineSummary) (rest : List Experiment) {b : Bench}
    (serves : b.Serves config false) :
    (runEach settings baseline rest b).2.Serves config false ∧
      ∀ v ∈ (runEach settings baseline rest b).1, ∀ detail,
        .deviceFailure detail ∉ v.diagnostics := by
  induction rest generalizing b with
  | nil => exact ⟨serves, List.forall_mem_nil _⟩
  | cons e rest ih =>
    obtain ⟨kept, first⟩ := e.run_serves usable settings baseline serves
    obtain ⟨last, others⟩ := ih kept
    exact ⟨last, List.forall_mem_cons.mpr ⟨first, others⟩⟩

theorem run_serves {config : CameraConfig} (usable : config.Usable) (settings : Settings)
    {b : Bench} (serves : b.Serves config false) :
    (run settings b).2.Serves config false ∧
      ∀ v ∈ (run settings b).1.verdicts, ∀ detail, .deviceFailure detail ∉ v.diagnostics := by
  have first : (Baseline.run settings b).2.Serves config false ∧
      ∀ detail, .deviceFailure detail ∉ (Baseline.run settings b).1.diagnostics :=
    Experiment.baseline.run_serves usable settings none serves
  rw [run]
  generalize Baseline.run settings b = told at first ⊢
  rcases told with ⟨v, b'⟩
  have rest := runEach_serves usable settings (Baseline.summary? v) experiments first.1
  dsimp only at rest ⊢
  generalize runEach settings (Baseline.summary? v) experiments b' = told at rest ⊢
  rcases told with ⟨vs, b''⟩
  exact ⟨rest.1, List.forall_mem_cons.mpr ⟨first.2, rest.2⟩⟩

/-- On a fresh camera that is usable no experiment of the suite tells a failure of the device, and
every call that has reached the camera was accepted. -/
theorem usable_camera_unrefused {config : CameraConfig} (usable : config.Usable)
    (settings : Settings) :
    (∀ v ∈ (run settings { device := .camera (.ofConfig config) }).1.verdicts,
      ∀ detail, .deviceFailure detail ∉ v.diagnostics) ∧
    ∀ record ∈ (run settings { device := .camera (.ofConfig config) }).2.calls.toList,
      record.accepted := by
  have fresh : Bench.Serves config false { device := .camera (.ofConfig config) } :=
    ⟨⟨_, rfl, rfl, ⟨rfl, rfl⟩, usable.timed⟩, List.forall_mem_nil _⟩
  obtain ⟨last, blameless⟩ := run_serves usable settings fresh
  exact ⟨blameless, last.unrefused⟩

theorem default_camera_unrefused :
    CameraConfig.default.Usable ∧
    (∀ v ∈ (run {} { device := .camera (.ofConfig .default) }).1.verdicts,
      ∀ detail, .deviceFailure detail ∉ v.diagnostics) ∧
    ∀ record ∈ (run {} { device := .camera (.ofConfig .default) }).2.calls.toList,
      record.accepted := by
  have usable : CameraConfig.default.Usable :=
    ⟨by decide, rfl, by decide, by decide, by decide, by decide, by decide⟩
  exact ⟨usable, usable_camera_unrefused usable {}⟩

end Suite

end ExposureBench
