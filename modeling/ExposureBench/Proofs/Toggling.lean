import ExposureBench.Proofs.Experiment
import ExposureBench.Proofs.Mismatches
import ExposureBench.Proofs.Settling

namespace ExposureBench

namespace Controller

/-- The controller's stream is watched through the log it was given. -/
def Watches (config : CameraConfig) (on : Bool) (id : LogId) (lead : Nat) (c : Controller) : Prop :=
  c.log = some id ∧ c.bench.Watches config on id lead

variable {config : CameraConfig} {on : Bool} {id : LogId} {lead : Nat} {c c' : Controller}

theorem Watches.setAutoExposure (watches : c.Watches config on id lead) (on' : Bool)
    (done : setAutoExposure on' c = (.ok (), c')) :
    c'.Watches config on' id (if on' = on then lead else config.lagFrames + 1) := by
  obtain ⟨bench, accepted, rfl⟩ := request_done done
  exact ⟨watches.1, watches.2.set_autoExposure on' accepted⟩

theorem Watches.stabilize (watches : c.Watches config on id lead)
    (unstuck : config.stuckValue = none) {frames : Nat} (done : stabilize frames c = (.ok (), c')) :
    c'.Watches config on id (lead - frames) := by
  obtain ⟨log, present, waited, same⟩ := stabilize_done done
  cases watches.1.symm.trans present
  obtain ⟨new, records, watches', _⟩ := watches.2.wait unstuck c.barrier frames c.timeoutMs
  have count := records.count
  have bench : c'.bench = (c.barrier.wait id frames c.timeoutMs c.bench).2 :=
    congrArg Controller.bench same
  refine ⟨by rw [same]; exact present, ?_⟩
  rw [← bench] at count watches'
  exact watches'.mono (by omega)

theorem Watches.collect (watches : c.Watches config on id 0) (unstuck : config.stuckValue = none)
    {frames : Nat} {expected : Bool} {w : Window} (done : collect frames expected c = (.ok w, c')) :
    c'.Watches config on id 0 ∧
      ∀ log, c'.bench.log? id = some log → ∀ e ∈ log.slice w.start w.stop,
        Delivery.Fits on e.metadata := by
  rw [collect_apply] at done
  obtain ⟨log, present, _, rfl, same⟩ := collectWithin_done done
  cases watches.1.symm.trans present
  obtain ⟨new, records, watches', fits⟩ := watches.2.wait unstuck c.barrier frames c.timeoutMs
  have bench : c'.bench = (c.barrier.wait id frames c.timeoutMs c.bench).2 :=
    congrArg Controller.bench same
  rw [← bench] at records watches'
  rw [Nat.zero_sub] at watches'
  refine ⟨⟨by rw [same]; exact present, watches'⟩, fun log present' e member => ?_⟩
  rw [records.window (.refl present') present'] at member
  exact fits rfl e member

theorem Watches.warmUp (watches : c.Watches config on id lead) (unstuck : config.stuckValue = none)
    {ms frames : Nat} (done : warmUp ms c = (.ok frames, c')) :
    c'.Watches config on id (lead - (c'.bench.count id - c.bench.count id)) := by
  have same := warmUp_done done
  obtain ⟨new, records, watches', _⟩ := watches.2.sleep unstuck ms
  have count := records.count
  have bench : c'.bench = c.bench.sleep ms := congrArg Controller.bench same
  refine ⟨by rw [same]; exact watches.1, ?_⟩
  rw [← bench] at count watches'
  exact watches'.mono (by omega)

theorem applyMode_camera {mode : ExposureMode} {cam : Camera} (camera : c.device = .camera cam)
    (done : Scenario.applyMode mode c = (.ok (), c')) :
    ∃ cam', c'.device = .camera cam' ∧ cam'.config = cam.config ∧
      cam'.controls.autoExposure = cam.controls.autoExposure := by
  rw [Scenario.applyMode, Attempt.bind_apply, Attempt.get_apply] at done
  dsimp only at done
  split at done
  · obtain ⟨controls, effect, camera'⟩ := request_camera camera (requestConfirmed_done done)
    obtain ⟨mode', _, rfl⟩ := Option.map_eq_some_iff.mp effect
    exact ⟨_, camera', rfl, rfl⟩
  · split at done
    · cases done
    · cases done
      exact ⟨cam, camera, rfl, rfl⟩

end Controller

theorem FrameEvent.not_contradicts {on : Bool} {e : FrameEvent}
    (fits : Delivery.Fits on e.metadata) :
    e.contradicts on = false := by
  rcases fits with absent | present
  · simp [contradicts, flag, absent]
  · cases on <;> simp [contradicts, flag, present]

structure Verdict.Calm (v : Verdict) : Prop where
  uncounted : v.metadataMismatches = 0
  unreported : ∀ mismatches compared first,
    .metadataMismatch mismatches compared first ∉ v.diagnostics

namespace Verdict.Calm

variable {v : Verdict}

theorem push (calm : v.Calm) {d : Diagnostic}
    (other : ∀ mismatches compared first, d ≠ .metadataMismatch mismatches compared first) :
    (v.push d).Calm := by
  refine ⟨calm.uncounted, fun mismatches compared first member => ?_⟩
  rcases List.mem_append.mp member with before | last
  · exact calm.unreported _ _ _ before
  · exact other _ _ _ (List.mem_singleton.mp last).symm

theorem recordFailure (calm : v.Calm) (failure : Failure) : (v.recordFailure failure).Calm := by
  apply calm.push
  intro _ _ _ same
  cases failure <;> cases same

theorem pushRegression (calm : v.Calm) (raw adjusted ceiling : Float) :
    (v.pushRegression raw adjusted ceiling).Calm := by
  unfold Verdict.pushRegression
  split
  · exact calm.push fun _ _ _ => Diagnostic.noConfusion
  · exact calm

theorem of_same (calm : v.Calm) {v' : Verdict}
    (counted : v'.metadataMismatches = v.metadataMismatches)
    (told : v'.diagnostics = v.diagnostics) : v'.Calm :=
  ⟨counted.trans calm.uncounted, by rw [told]; exact calm.unreported⟩

end Verdict.Calm

theorem Scenario.selectProfile_calm (device : Device) (q : ProfileQuery) (name : String) :
    (selectProfile device q { name }).2.Calm := by
  have fresh : ({ name } : Verdict).Calm := ⟨rfl, fun _ _ _ => List.not_mem_nil⟩
  unfold selectProfile
  split
  · exact fresh.recordFailure _
  · exact fresh
  · exact fresh.push fun _ _ _ => Diagnostic.noConfusion

namespace RapidToggle

open Attempt (Triple)

/-- When the warm-up ends, auto-exposure has been requested; its lead is over if it was on before,
or if enough frames have come. -/
theorem prelude_watches {settings : Settings} {mode : ExposureMode} {c c' : Controller}
    {log : LogId} {cam : Camera} (camera : c.device = .camera cam)
    (unstuck : cam.config.stuckValue = none) (done : prelude settings mode c = (.ok log, c')) :
    ∃ lead, c'.Watches cam.config true log lead ∧
      (cam.controls.autoExposure = true ∨ cam.config.lagFrames + 1 ≤ c'.framesObserved →
        lead = 0) := by
  obtain ⟨_, c₁, moded, done⟩ := Attempt.ok_of_bind done
  obtain ⟨log, c₂, began, done⟩ := Attempt.ok_of_bind done
  obtain ⟨_, c₃, requested, done⟩ := Attempt.ok_of_bind done
  obtain ⟨frames, c₄, warmed, done⟩ := Attempt.ok_of_bind done
  cases done
  obtain ⟨cam₁, camera₁, config, auto⟩ := Controller.applyMode_camera camera moded
  obtain ⟨opened, started, opens, starts, bench, present, _⟩ := Controller.beginStreaming_done began
  obtain ⟨cam₂, opens, camera₂⟩ := Bench.openWith_camera camera₁ opens
  obtain ⟨_, rfl⟩ := Camera.openWith_accepted opens
  obtain ⟨watches, empty⟩ := Bench.watches_of_start camera₂ starts
  dsimp only at watches
  rw [config, auto, ← bench] at watches
  rw [← bench] at empty
  have streaming : c₂.Watches cam.config cam.controls.autoExposure log 0 := ⟨present, watches⟩
  have watched := (streaming.setAutoExposure true requested).warmUp unstuck warmed
  have unheard : c₃.bench.count log = 0 := by
    obtain ⟨bench₃, accepted, rfl⟩ := Controller.request_done requested
    have same : bench₃ = (c₂.bench.set .enableAutoExposure 1).2 := (congrArg Prod.snd accepted).symm
    rw [Controller.bench_withBench, same]
    exact empty
  have frames : c'.framesObserved = c'.bench.count log := by
    rw [Controller.framesObserved, watched.1]
    rfl
  refine ⟨_, watched, ?_⟩
  rw [unheard, frames]
  rintro (on | enough)
  · rw [on, if_pos rfl, Nat.zero_sub]
  · split <;> omega

def Clean (r : Run) : Prop := r.checks.mismatches = 0

theorem control_triple {α : Type} {act : Attempt Controller α} {P : Controller → Prop}
    {Q : α → Controller → Prop} (spec : ∀ c a c', P c → act c = (.ok a, c') → Q a c') :
    Triple (fun r => P r.controller ∧ Clean r) (control act) (fun a r => Q a r.controller ∧ Clean r)
      Clean := by
  rintro r ⟨start, clean⟩
  rw [control, Attempt.within_apply]
  rcases ran : act r.controller with ⟨failure | a, c'⟩
  · exact clean
  · exact ⟨spec r.controller a c' start ran, clean⟩

variable {config : CameraConfig} {settings : Settings} {log : LogId}

theorem verify_triple (unstuck : config.stuckValue = none) (on : Bool) :
    Triple (fun r => r.controller.Watches config on log 0 ∧ Clean r) (verify settings log on)
      (fun _ r => r.controller.Watches config on log 0 ∧ Clean r) Clean := by
  apply (control_triple fun c w c' watches done => watches.collect unstuck done).bind
  intro w
  rintro r ⟨⟨watches, fits⟩, clean⟩
  obtain ⟨_, _, _, recorded, present, _⟩ := id watches
  refine ⟨watches, ?_⟩
  have none : (recorded.slice w.start w.stop).countP (·.contradicts on) = 0 := by
    rw [List.countP_eq_zero]
    intro e member
    rw [FrameEvent.not_contradicts (fits recorded present e member)]
    exact Bool.false_ne_true
  change r.checks.mismatches + (Consistency.check _ 0 _ on).mismatches = 0
  rw [clean, Consistency.mismatches_check_all, present, Nat.zero_add]
  exact none

theorem toggle_triple (unstuck : config.stuckValue = none)
    (spaced : config.lagFrames + 1 ≤ settings.rapidToggle.framesBetweenToggles) (left : Nat)
    (before on : Bool) :
    Triple (fun r => r.controller.Watches config before log 0 ∧ Clean r)
      (toggle settings log left on)
      (fun _ => Clean) Clean := by
  induction left generalizing before on with
  | zero => exact .pure fun _ start => start.2
  | succ left ih =>
    apply (control_triple fun c _ c' watches done => watches.setAutoExposure on done).bind
    intro _
    apply (control_triple fun c _ c' watches done => watches.stabilize unstuck done).bind
    intro _
    have settled : (if on = before then 0 else config.lagFrames + 1) -
        settings.rapidToggle.framesBetweenToggles = 0 := by
      split <;> omega
    rw [settled]
    exact (verify_triple unstuck on).bind fun _ => ih on (!on)

theorem windows_triple (unstuck : config.stuckValue = none)
    (spaced : config.lagFrames + 1 ≤ settings.rapidToggle.framesBetweenToggles) (toggles : Nat) :
    Triple (fun r => r.controller.Watches config true log 0 ∧ Clean r)
      (windows settings log toggles)
      (fun _ => Clean) Clean := by
  cases toggles with
  | zero => exact .pure fun _ start => start.2
  | succ left => exact (verify_triple unstuck true).bind fun _ =>
    toggle_triple unstuck spaced left true false

/-- The frames recorded when the warm-up ends, if it is come to. -/
def warmedUp? (settings : Settings) (mode : ExposureMode) (b : Bench) : Option Nat := do
  let s ← settings.profile.select? b.device.profiles
  match prelude settings mode (Scenario.controllerFor b s.profile settings) with
  | (.ok _, c) => some c.framesObserved
  | (.error _, _) => none

theorem driven_clean {mode : ExposureMode} {c : Controller} {cam : Camera}
    (camera : c.device = .camera cam) (unstuck : cam.config.stuckValue = none)
    (spaced : cam.config.lagFrames + 1 ≤ settings.rapidToggle.framesBetweenToggles)
    (warm : cam.controls.autoExposure = true ∨
      ∀ log c', prelude settings mode c = (.ok log, c') →
        cam.config.lagFrames + 1 ≤ c'.framesObserved) :
    (driven settings mode c).1.2.mismatches = 0 := by
  change (drive settings mode { controller := c }).2.checks.mismatches = 0
  rw [drive_eq, Attempt.bind_apply, control, Attempt.within_apply]
  rcases warmed : prelude settings mode c with ⟨failure | log, c'⟩
  · rfl
  · obtain ⟨lead, watches, settles⟩ := prelude_watches camera unstuck warmed
    have settled : lead = 0 := settles (warm.imp_right fun enough => enough log c' warmed)
    rw [settled] at watches
    have clean := windows_triple unstuck spaced settings.rapidToggle.toggles
      { controller := c', checks := {} } ⟨watches, rfl⟩
    dsimp only
    generalize windows settings log _ _ = result at clean ⊢
    rcases result with ⟨failure | _, r⟩ <;> exact clean

theorem judgeTiming_calm (settings : Settings) (baseline : Option BaselineSummary)
    (summary : TimingSummary) {v : Verdict} (calm : v.Calm) :
    (judgeTiming settings baseline summary v).Calm := by
  have timed : ({ v with timing := some summary } : Verdict).Calm := calm.of_same rfl rfl
  unfold judgeTiming
  cases baseline with
  | none => exact timed.pushRegression _ _ _
  | some b => exact (timed.push fun _ _ _ => Diagnostic.noConfusion).pushRegression _ _ _

theorem judge_calm (settings : Settings) (baseline : Option BaselineSummary)
    (profile : StreamProfile) {outcome : Except Failure Unit × Consistency} (log : FrameLog)
    (clean : outcome.2.mismatches = 0) {v : Verdict} (calm : v.Calm) :
    (judge settings baseline profile outcome log v).Calm := by
  have counted :
      ({ v with metadataMismatches := outcome.2.mismatches }.pushMismatches outcome.2).Calm := by
    rw [Verdict.pushMismatches, clean, if_neg (Nat.lt_irrefl 0)]
    exact ⟨rfl, calm.unreported⟩
  rcases outcome with ⟨failure | _, checks⟩
  · exact counted.recordFailure failure
  · apply judgeTiming_calm settings baseline _
    split
    · exact counted.push fun _ _ _ => Diagnostic.noConfusion
    · exact counted

/-- Toggling raises no false alarm: if more frames pass between a switch and its window than the
camera's metadata lag behind, and the first window too is one of a settled state, then no frame of
any window contradicts what was requested. -/
theorem no_false_alarm (settings : Settings) (mode : ExposureMode)
    (baseline : Option BaselineSummary) (b : Bench) {cam : Camera} (camera : b.device = .camera cam)
    (unstuck : cam.config.stuckValue = none)
    (spaced : cam.config.lagFrames + 1 ≤ settings.rapidToggle.framesBetweenToggles)
    (warm : cam.controls.autoExposure = true ∨
      ∀ frames ∈ warmedUp? settings mode b, cam.config.lagFrames + 1 ≤ frames) :
    (run settings mode baseline b).1.metadataMismatches = 0 ∧
      ∀ mismatches compared first,
        .metadataMismatch mismatches compared first ∉
          (run settings mode baseline b).1.diagnostics := by
  suffices calm : (run settings mode baseline b).1.Calm from ⟨calm.uncounted, calm.unreported⟩
  have chosen := Scenario.selectProfile_calm b.device settings.profile (name mode)
  rw [run, Scenario.conduct_eq]
  rcases selected : settings.profile.select? b.device.profiles with _ | s
  · exact chosen
  · have clean : (driven settings mode
        (Scenario.controllerFor b s.profile settings)).1.2.mismatches = 0 := by
      refine driven_clean camera unstuck spaced
        (warm.imp_right fun enough log c' warmed => enough _ ?_)
      simp only [warmedUp?, selected, Option.bind_eq_bind, Option.bind_some, warmed]
      rfl
    exact judge_calm settings baseline s.profile _ clean (chosen.of_same rfl rfl)

theorem default_camera_no_false_alarm :
    (run {} .accelerated none { device := .camera (.ofConfig .default) }).1.metadataMismatches = 0 ∧
      ∀ mismatches compared first, .metadataMismatch mismatches compared first ∉
        (run {} .accelerated none { device := .camera (.ofConfig .default) }).1.diagnostics :=
  no_false_alarm {} .accelerated none { device := .camera (.ofConfig .default) } rfl rfl (by decide)
    (.inl rfl)

end RapidToggle

end ExposureBench
