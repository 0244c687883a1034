import ExposureBench.Proofs.Plan
import ExposureBench.Scenario.Suite

/-!
The experiments as plans: what each asks of its controller is known once its profile and its
device are.
-/

namespace ExposureBench

namespace Scenario

def modePlan (mode : ExposureMode) (device : Device) : Except Failure Plan :=
  if device.supports .autoExposureMode then .ok [.requestConfirmed .autoExposureMode mode.value]
  else if mode = .regular then .ok []
  else .error (.lacksOption .autoExposureMode device.name)

end Scenario

namespace RapidToggle

def windowPlan (settings : Settings) (on : Bool) : Plan :=
  [.collect settings.rapidToggle.framesPerState on]

def togglePlan (settings : Settings) : (left : Nat) → (on : Bool) → Plan
  | 0, _ => []
  | left + 1, on =>
    .setAutoExposure on :: .stabilize settings.rapidToggle.framesBetweenToggles ::
      (windowPlan settings on ++ togglePlan settings left (!on))

def warmUpPlan (settings : Settings) : Plan :=
  [.beginStreaming .autoExposure, .setAutoExposure true, .warmUp settings.rapidToggle.warmupMs]

def windowsPlan (settings : Settings) : (toggles : Nat) → Plan
  | 0 => []
  | left + 1 => windowPlan settings true ++ togglePlan settings left false

end RapidToggle

namespace ExtremeRecovery

def exposure? (settings : Settings) (profile : StreamProfile) (device : Device) :
    Except Failure Float :=
  if device.supports .exposure then match device.range .exposure with
    | .ok range =>
      .ok (range.clamp (profile.frameTimeUs * settings.extremeRecovery.exposureMultiplier))
    | .error fault => .error (.device fault)
  else .error (.lacksOption .exposure device.name)

def iterationPlan (settings : Settings) (exposure : Float) : Plan :=
  [.setAutoExposure false, .request .exposure exposure, .hold settings.extremeRecovery.manualHoldMs,
    .setAutoExposure true, .hold settings.extremeRecovery.autoHoldMs]

def iterationsPlan (settings : Settings) (exposure : Float) : (left : Nat) → Plan
  | 0 => []
  | left + 1 => iterationPlan settings exposure ++ iterationsPlan settings exposure left

end ExtremeRecovery

namespace SteadyState

def preludePlan (on : Bool) : Plan :=
  [.requestConfirmed .enableAutoExposure (if on then 1 else 0), .beginStreaming .autoExposure,
    .settleNow]

def windowPlan (settings : Settings) (on : Bool) : Plan :=
  [.collectWithin settings.steadyState.frames on settings.steadyState.timeoutMs]

end SteadyState

namespace Experiment

def query (settings : Settings) : Experiment → ProfileQuery
  | .steadyState .. => settings.profile.exactly
  | _ => settings.profile

def baselinePlan (settings : Settings) : Plan :=
  [.beginStreaming .autoExposure, .setAutoExposure true, .warmUp settings.baseline.warmupMs,
    .collectWithin settings.baseline.frames true settings.baseline.timeoutMs]

def plan (settings : Settings) (profile : StreamProfile) (device : Device) :
    Experiment → Except Failure Plan
  | .baseline => .ok (baselinePlan settings)
  | .steadyState on mode =>
    (if on then Scenario.modePlan mode device else .ok []).map
      (· ++ (SteadyState.preludePlan on ++ SteadyState.windowPlan settings on))
  | .rapidToggle mode =>
    (Scenario.modePlan mode device).map fun first =>
      first ++ (RapidToggle.warmUpPlan settings ++ RapidToggle.windowsPlan settings
        settings.rapidToggle.toggles)
  | .extremeRecovery =>
    (ExtremeRecovery.exposure? settings profile device).map fun exposure =>
      .beginStreaming .autoExposure ::
        ExtremeRecovery.iterationsPlan settings exposure settings.extremeRecovery.iterations

/-- How an experiment goes on a controller, and the controller it leaves to be torn down. -/
def driven (settings : Settings) (e : Experiment) (c : Controller) :
    Except Failure Unit × Controller :=
  match e.plan settings c.session.profile c.device with
  | .ok plan => plan.run c
  | .error failure => (.error failure, c)

end Experiment

open Attempt

theorem Scenario.applyMode_apply (mode : ExposureMode) (c : Controller) :
    applyMode mode c = match modePlan mode c.device with
      | .ok plan => plan.run c
      | .error failure => (.error failure, c) := by
  rcases supported : c.device.supports .autoExposureMode with _ | _
  · by_cases regular : mode = .regular
    · simp [applyMode, modePlan, supported, regular, bind_apply, Plan.run]
    · simp [applyMode, modePlan, supported, regular, bind_apply]
  · simp only [applyMode, modePlan, supported, bind_apply, get_apply, if_true, Plan.run_cons,
      Operation.run, map_apply]
    rcases Controller.requestConfirmed .autoExposureMode mode.value c with ⟨_ | _, _⟩ <;> rfl

theorem Scenario.applyMode_follows {mode : ExposureMode} {c : Controller} {first : Plan}
    (chosen : modePlan mode c.device = .ok first) : Follows id (applyMode mode) first c := by
  rw [Follows, applyMode_apply, chosen]
  dsimp only [id]
  rcases first.run c with ⟨_ | _, _⟩ <;> rfl

private theorem follows_op {α : Type} {act : Attempt Controller α} {f : α → Operation.Reply}
    (op : Operation) (runs : op.run = f <$> act) (c : Controller) : Follows id act [op] c :=
  have replaced : ∀ c c' : Controller, id ((fun _ c => c) c c') = c' := fun _ _ => rfl
  Follows.op op runs replaced c

theorem Baseline.drive_follows (settings : Settings) (c : Controller) :
    Follows id (drive settings) (Experiment.baselinePlan settings) c :=
  (follows_op (.beginStreaming .autoExposure) rfl c).bind fun _ c _ =>
    (follows_op (.setAutoExposure true) rfl c).bind fun _ c _ =>
      (follows_op (.warmUp settings.baseline.warmupMs) rfl c).bind fun _ c _ =>
        follows_op (.collectWithin ..) rfl c

namespace RapidToggle

theorem verify_follows (settings : Settings) (log : LogId) (on : Bool) (r : Run) :
    Follows (·.controller) (verify settings log on) (windowPlan settings on) r :=
  (Follows.op (.collect ..) rfl (fun _ _ => rfl) r).bind fun _ r _ => Follows.modify r rfl

theorem toggle_follows (settings : Settings) (log : LogId) (left : Nat) (on : Bool) (r : Run) :
    Follows (·.controller) (toggle settings log left on) (togglePlan settings left on) r := by
  induction left generalizing on r with
  | zero => exact Follows.pure () r
  | succ left ih =>
    exact (Follows.op (.setAutoExposure on) rfl (fun _ _ => rfl) r).bind fun _ r _ =>
      (Follows.op (.stabilize _) rfl (fun _ _ => rfl) r).bind fun _ r _ =>
        (verify_follows settings log on r).bind fun _ r _ => ih (!on) r

def prelude (settings : Settings) (mode : ExposureMode) : Attempt Controller LogId := do
  Scenario.applyMode mode
  let log ← Controller.beginStreaming .autoExposure
  Controller.setAutoExposure true
  let _ ← Controller.warmUp settings.rapidToggle.warmupMs
  return log

def windows (settings : Settings) (log : LogId) : (toggles : Nat) → Attempt Run Unit
  | 0 => return ()
  | left + 1 => do
    verify settings log true
    toggle settings log left false

theorem control_bind {α β : Type} (act : Attempt Controller α) (next : α → Attempt Controller β) :
    control (act >>= next) = control act >>= fun a => control (next a) := by
  refine Attempt.within_bind _ _ ?_ ?_ act next
  · intro _ _
    rfl
  · intro _ _ _
    rfl

theorem drive_eq (settings : Settings) (mode : ExposureMode) :
    drive settings mode = (do
      let log ← control (prelude settings mode)
      windows settings log settings.rapidToggle.toggles) := by
  have last : ∀ log : LogId, control (Pure.pure log) = Pure.pure log := fun _ => rfl
  simp only [prelude, control_bind, last, bind_assoc, pure_bind]
  unfold drive
  cases settings.rapidToggle.toggles <;> rfl

theorem prelude_follows (settings : Settings) (mode : ExposureMode) (c : Controller) {first : Plan}
    (chosen : Scenario.modePlan mode c.device = .ok first) :
    Follows id (prelude settings mode) (first ++ warmUpPlan settings) c := by
  apply (Scenario.applyMode_follows chosen).bind
  intro _ c _
  apply (follows_op (.beginStreaming .autoExposure) rfl c).bind
  intro log c _
  apply (follows_op (.setAutoExposure true) rfl c).bind
  intro _ c _
  exact (follows_op (.warmUp settings.rapidToggle.warmupMs) rfl c).bind fun _ c _ =>
    Follows.pure log c

theorem windows_follows (settings : Settings) (log : LogId) (toggles : Nat) (r : Run) :
    Follows (·.controller) (windows settings log toggles) (windowsPlan settings toggles) r := by
  cases toggles with
  | zero => exact Follows.pure () r
  | succ left => exact (verify_follows settings log true r).bind fun _ r _ =>
    toggle_follows settings log left false r

theorem drive_follows (settings : Settings) (mode : ExposureMode) (r : Run) {first : Plan}
    (chosen : Scenario.modePlan mode r.controller.device = .ok first) :
    Follows (·.controller) (drive settings mode)
      (first ++ (warmUpPlan settings ++ windowsPlan settings settings.rapidToggle.toggles)) r := by
  have warmed : Follows (·.controller) (control (prelude settings mode))
      (first ++ warmUpPlan settings) r :=
    prelude_follows settings mode r.controller chosen
  rw [drive_eq, ← List.append_assoc]
  exact warmed.bind fun log r _ => windows_follows settings log _ r

theorem drive_of_unmoded (settings : Settings) {mode : ExposureMode} {r : Run} {failure : Failure}
    (failed : Scenario.modePlan mode r.controller.device = .error failure) :
    drive settings mode r = (.error failure, r) :=
  bind_of_error (by rw [control, within_apply, Scenario.applyMode_apply, failed])

theorem driven_eq (settings : Settings) (mode : ExposureMode) (c : Controller) :
    ((driven settings mode c).1.1, (driven settings mode c).2) =
      (Experiment.rapidToggle mode).driven settings c := by
  simp only [driven, Experiment.driven, Experiment.plan]
  rcases chosen : Scenario.modePlan mode c.device with failure | first
  · have stops := drive_of_unmoded settings (r := { controller := c }) chosen
    simp only [stops, Except.map]
  · exact (drive_follows settings mode { controller := c } chosen).unit

end RapidToggle

namespace ExtremeRecovery

theorem iterate_follows (settings : Settings) (a : TimingAnalyzer) (log : LogId) (exposure : Float)
    (left : Nat) (r : Run) :
    Follows (·.controller) (iterate settings a log exposure left)
      (iterationsPlan settings exposure left) r := by
  induction left generalizing r with
  | zero => exact Follows.pure () r
  | succ left ih =>
    apply (Follows.op (.setAutoExposure false) rfl (fun _ _ => rfl) r).bind
    intro _ r _
    apply (Follows.op (.request .exposure exposure) rfl (fun _ _ => rfl) r).bind
    intro _ r _
    apply (Follows.op (.hold settings.extremeRecovery.manualHoldMs) rfl (fun _ _ => rfl) r).bind
    intro _ r _
    apply (Follows.get r).bind
    intro before r _
    apply (Follows.op (.setAutoExposure true) rfl (fun _ _ => rfl) r).bind
    intro _ r _
    apply (Follows.op (.hold settings.extremeRecovery.autoHoldMs) rfl (fun _ _ => rfl) r).bind
    intro _ r _
    exact (Follows.modify r rfl).bind fun _ r _ => ih r

theorem drive_apply (settings : Settings) (a : TimingAnalyzer) (r : Run) :
    drive settings a r =
      match exposure? settings r.controller.session.profile r.controller.device with
      | .error failure => (.error failure, r)
      | .ok exposure =>
        (control (Controller.beginStreaming .autoExposure) >>= fun log =>
          iterate settings a log exposure settings.extremeRecovery.iterations) r := by
  rcases supported : r.controller.device.supports .exposure with _ | _
  · simp [drive, exposure?, supported, bind_apply]
  · simp only [drive, exposure?, supported, bind_apply, get_apply, ofExcept_apply, Bool.not_true,
      Bool.false_eq_true, if_false, if_true]
    rcases r.controller.device.range .exposure with _ | _ <;> rfl

theorem driven_eq (settings : Settings) (c : Controller) :
    ((driven settings c).1.1, (driven settings c).2) =
      Experiment.extremeRecovery.driven settings c := by
  simp only [driven, Experiment.driven, Experiment.plan, drive_apply]
  rcases exposure? settings c.session.profile c.device with failure | exposure
  · rfl
  · have follows : Follows (·.controller) (do
        let log ← control (Controller.beginStreaming .autoExposure)
        iterate settings (Scenario.analyzerFor c.session.profile settings) log exposure
          settings.extremeRecovery.iterations)
        (.beginStreaming .autoExposure :: iterationsPlan settings exposure
          settings.extremeRecovery.iterations)
        { controller := c } :=
      (Follows.op (.beginStreaming .autoExposure) rfl (fun _ _ => rfl) _).bind fun log r _ =>
        iterate_follows settings _ log exposure _ r
    exact follows.unit

end ExtremeRecovery

namespace SteadyState

def prelude (on : Bool) (mode : ExposureMode) : Attempt Controller Unit := do
  if on then Scenario.applyMode mode
  Controller.requestConfirmed .enableAutoExposure (if on then 1 else 0)
  let _ ← Controller.beginStreaming .autoExposure
  Controller.settleNow

theorem drive_eq (settings : Settings) (on : Bool) (mode : ExposureMode) :
    drive settings on mode = (do
      prelude on mode
      Controller.collectWithin settings.steadyState.frames on settings.steadyState.timeoutMs) := by
  cases on <;> simp only [drive, prelude, bind_assoc, if_true, Bool.false_eq_true, if_false]

theorem prelude_follows (on : Bool) (mode : ExposureMode) (c : Controller) {first : Plan}
    (chosen : (if on then Scenario.modePlan mode c.device else .ok []) = .ok first) :
    Follows id (prelude on mode) (first ++ preludePlan on) c := by
  have streams : ∀ c, Follows id (do
      Controller.requestConfirmed .enableAutoExposure (if on then 1 else 0)
      let _ ← Controller.beginStreaming .autoExposure
      Controller.settleNow) (preludePlan on) c := fun c =>
    (follows_op (.requestConfirmed .enableAutoExposure (if on then 1 else 0)) rfl c).bind
      fun _ c _ =>
      (follows_op (.beginStreaming .autoExposure) rfl c).bind fun _ c _ =>
        follows_op .settleNow rfl c
  cases on with
  | false =>
    cases chosen
    exact streams c
  | true =>
    rw [if_pos rfl] at chosen
    exact (Scenario.applyMode_follows chosen).bind fun _ c _ => streams c

theorem drive_follows (settings : Settings) (on : Bool) (mode : ExposureMode) (c : Controller)
    {first : Plan} (chosen : (if on then Scenario.modePlan mode c.device else .ok []) = .ok first) :
    Follows id (drive settings on mode)
      (first ++ (preludePlan on ++ windowPlan settings on)) c := by
  rw [drive_eq, ← List.append_assoc]
  exact (prelude_follows on mode c chosen).bind fun _ c _ => follows_op (.collectWithin ..) rfl c

theorem driven_eq (settings : Settings) (on : Bool) (mode : ExposureMode) (c : Controller) :
    ((drive settings on mode c).1.map fun _ => (), (drive settings on mode c).2) =
      (Experiment.steadyState on mode).driven settings c := by
  simp only [Experiment.driven, Experiment.plan]
  rcases chosen : (if on then Scenario.modePlan mode c.device else .ok []) with failure | first
  · cases on with
    | false => cases chosen
    | true =>
      rw [if_pos rfl] at chosen
      have stops : drive settings true mode c = (.error failure, c) :=
        bind_of_error (by rw [Scenario.applyMode_apply, chosen])
      simp only [stops, Except.map]
  · exact drive_follows settings on mode c chosen

end SteadyState

namespace Scenario

theorem conduct_eq {α : Type} (name : String) (q : ProfileQuery) (settings : Settings)
    (drive : Controller → α × Controller) (judge : StreamProfile → α → FrameLog → Verdict → Verdict)
    (b : Bench) :
    conduct name q settings drive judge b = match q.select? b.device.profiles with
      | none => ((selectProfile b.device q { name }).2, b)
      | some s =>
        let driven := drive (controllerFor b s.profile settings)
        (judge s.profile driven.1 (recorded driven.2.finish)
          { (selectProfile b.device q { name }).2
            with framesObserved := driven.2.finish.framesObserved },
          driven.2.finish.bench) := by
  rcases chosen : q.select? b.device.profiles with _ | ⟨profile, _ | _⟩ <;>
    simp only [conduct, selectProfile, chosen]

theorem conduct_bench {α : Type} (name : String) (q : ProfileQuery) (settings : Settings)
    (drive : Controller → α × Controller) (judge : StreamProfile → α → FrameLog → Verdict → Verdict)
    (b : Bench) :
    (conduct name q settings drive judge b).2 = match q.select? b.device.profiles with
      | none => b
      | some s => (drive (controllerFor b s.profile settings)).2.finish.bench := by
  rw [conduct_eq]
  cases q.select? b.device.profiles <;> rfl

theorem conduct_verdict {α : Type} (name : String) {q : ProfileQuery} (settings : Settings)
    (drive : Controller → α × Controller) (judge : StreamProfile → α → FrameLog → Verdict → Verdict)
    {b : Bench} {s : Selection} (selected : q.select? b.device.profiles = some s) {c : Controller}
    (set : controllerFor b s.profile settings = c) :
    (conduct name q settings drive judge b).1 =
      judge s.profile (drive c).1 (recorded (drive c).2.finish)
      { (selectProfile b.device q { name }).2
        with framesObserved := (drive c).2.finish.framesObserved } := by
  rw [conduct_eq, selected, ← set]

end Scenario

namespace Experiment

theorem driven_controller (settings : Settings) (e : Experiment) (c : Controller) :
    (e.driven settings c).2 = match e with
      | .baseline => (Baseline.drive settings c).2
      | .steadyState on mode => (SteadyState.drive settings on mode c).2
      | .rapidToggle mode => (RapidToggle.driven settings mode c).2
      | .extremeRecovery => (ExtremeRecovery.driven settings c).2 := by
  cases e with
  | baseline => exact congrArg Prod.snd (Baseline.drive_follows settings c).symm
  | steadyState on mode => exact congrArg Prod.snd (SteadyState.driven_eq settings on mode c).symm
  | rapidToggle mode => exact congrArg Prod.snd (RapidToggle.driven_eq settings mode c).symm
  | extremeRecovery => exact congrArg Prod.snd (ExtremeRecovery.driven_eq settings c).symm

/-- The bench after an experiment is that of its controller, torn down. -/
theorem run_bench (settings : Settings) (baseline : Option BaselineSummary) (e : Experiment)
    (b : Bench) :
    (e.run settings baseline b).2 = match (e.query settings).select? b.device.profiles with
      | none => b
      | some s =>
        (e.driven settings (Scenario.controllerFor b s.profile settings)).2.finish.bench := by
  simp only [driven_controller]
  cases e with
  | baseline => simp only [run, Baseline.run, Scenario.conduct_bench, query]
  | steadyState on mode => simp only [run, SteadyState.run, Scenario.conduct_bench, query]
  | rapidToggle mode => simp only [run, RapidToggle.run, Scenario.conduct_bench, query]
  | extremeRecovery => simp only [run, ExtremeRecovery.run, Scenario.conduct_bench, query]

end Experiment

end ExposureBench
