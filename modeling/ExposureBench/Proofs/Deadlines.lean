import ExposureBench.Proofs.Stages
import ExposureBench.Proofs.Teardown
import ExposureBench.Proofs.Waiting

/-!
The clock moves only in warm-ups, holds and barriers, each of which is bounded by its setting.
-/

namespace ExposureBench

namespace Bench

variable (b : Bench)

@[simp] theorem now_sleep (ms : Nat) : (b.sleep ms).now = b.now + Duration.ofMillis ms := by
  rcases Nat.eq_zero_or_pos ms with rfl | positive
  · simp [Duration.ofMillis]
  · rw [b.sleep_of_pos positive, now_deliver]

@[simp] theorem now_start (field : MetadataField) : (b.start field).2.now = b.now := by
  rw [start, perform]
  rcases b.device.start b.now with ⟨_ | _, _⟩ <;> rfl

end Bench

namespace Controller

@[simp] theorem now_tornDown (c : Controller) : c.tornDown.bench.now = c.bench.now := by
  change c.session.tornDown.bench.now = c.session.bench.now
  unfold Session.tornDown
  split <;> rfl

/-- `c'` has come of `c` after a number of milliseconds within a limit. -/
structure Reaches (limit : Nat) (c c' : Controller) : Prop where
  timeout : c'.timeoutMs = c.timeoutMs
  within : ∃ ms ≤ limit, c'.bench.now = c.bench.now + Duration.ofMillis ms

namespace Reaches

variable {limit limit' : Nat} {c c' c'' : Controller}

theorem of_now (timeout : c'.timeoutMs = c.timeoutMs) (now : c'.bench.now = c.bench.now) :
    c.Reaches 0 c' :=
  ⟨timeout, 0, Nat.le_refl 0, by simp [now, Duration.ofMillis]⟩

theorem trans (first : c.Reaches limit c') (second : c'.Reaches limit' c'') :
    c.Reaches (limit + limit') c'' := by
  obtain ⟨ms, within, now⟩ := first.within
  obtain ⟨ms', within', now'⟩ := second.within
  refine ⟨second.timeout.trans first.timeout, ms + ms', Nat.add_le_add within within', ?_⟩
  rw [now', now, Duration.ofMillis, Duration.ofMillis, Duration.ofMillis, Nat.add_mul,
    Nat.add_assoc]

theorem mono (reaches : c.Reaches limit c') (le : limit ≤ limit') : c.Reaches limit' c' := by
  obtain ⟨ms, within, now⟩ := reaches.within
  exact ⟨reaches.timeout, ms, Nat.le_trans within le, now⟩

end Reaches

/-- Given the controller's timeout, a step takes no longer than a limit, however it ends. -/
def Takes {α : Type} (timeoutMs limit : Nat) (act : Attempt Controller α) : Prop :=
  ∀ c : Controller, c.timeoutMs = timeoutMs → c.Reaches limit (act c).2

namespace Takes

variable {α β : Type} {timeoutMs limit limit' : Nat}

theorem of_now {act : Attempt Controller α} (timeout : ∀ c, (act c).2.timeoutMs = c.timeoutMs)
    (now : ∀ c, (act c).2.bench.now = c.bench.now) : Takes timeoutMs 0 act :=
  fun c _ => .of_now (timeout c) (now c)

theorem pure (a : α) : Takes timeoutMs 0 (Pure.pure a : Attempt Controller α) :=
  of_now (fun _ => rfl) fun _ => rfl

theorem throw (failure : Failure) :
    Takes timeoutMs 0 (MonadExcept.throw failure : Attempt Controller α) :=
  of_now (fun _ => rfl) fun _ => rfl

theorem get : Takes timeoutMs 0 (MonadState.get : Attempt Controller Controller) :=
  of_now (fun _ => rfl) fun _ => rfl

theorem mono {act : Attempt Controller α} (takes : Takes timeoutMs limit act)
    (le : limit ≤ limit') : Takes timeoutMs limit' act :=
  fun c timeout => (takes c timeout).mono le

theorem bind {act : Attempt Controller α} {next : α → Attempt Controller β}
    (first : Takes timeoutMs limit act) (rest : ∀ a, Takes timeoutMs limit' (next a)) :
    Takes timeoutMs (limit + limit') (act >>= next) := by
  intro c timeout
  have reaches := first c timeout
  rw [Attempt.bind_apply]
  generalize act c = result at reaches
  rcases result with ⟨failure | a, c'⟩
  · exact reaches.mono (Nat.le_add_right _ _)
  · exact reaches.trans (rest a c' (reaches.timeout.trans timeout))

theorem read {next : Controller → Attempt Controller β}
    (rest : ∀ c : Controller, c.timeoutMs = timeoutMs → Takes timeoutMs limit (next c)) :
    Takes timeoutMs limit (MonadState.get >>= next) := by
  intro c timeout
  rw [Attempt.bind_apply, Attempt.get_apply]
  exact rest c timeout c timeout

theorem ite {p : Prop} [Decidable p] {act act' : Attempt Controller α}
    (pos : Takes timeoutMs limit act) (neg : Takes timeoutMs limit act') :
    Takes timeoutMs limit (if p then act else act') := by
  split
  · exact pos
  · exact neg

theorem map (f : α → β) {act : Attempt Controller α} (takes : Takes timeoutMs limit act) :
    Takes timeoutMs limit (f <$> act) := by
  rw [map_eq_pure_bind]
  exact takes.bind fun a => pure (f a)

theorem onBench {act : Bench → α × Bench}
    (within : ∀ b : Bench, ∃ ms ≤ limit, (act b).2.now = b.now + Duration.ofMillis ms) :
    Takes timeoutMs limit (Controller.onBench act) :=
  fun c _ => ⟨rfl, within c.bench⟩

theorem transition (next : Phase) : Takes timeoutMs 0 (Controller.transition next) := by
  apply of_now <;> intro c <;> rw [transition_apply] <;> split <;> rfl

theorem activeLog : Takes timeoutMs 0 Controller.activeLog := by
  apply of_now <;> intro c <;> rw [activeLog_apply] <;> split <;> rfl

theorem stall (requested observed limitMs : Nat) :
    Takes timeoutMs 0 (Controller.stall requested observed limitMs : Attempt Controller α) := by
  apply of_now <;> intro c <;> rw [stall_apply]
  · rfl
  · exact now_tornDown _

theorem sleep (ms : Nat) : Takes timeoutMs ms (Controller.sleep ms) :=
  onBench fun b => ⟨ms, Nat.le_refl ms, b.now_sleep ms⟩

theorem request (option : DeviceOption) (value : Float) :
    Takes timeoutMs 0 (Controller.request option value) := by
  apply of_now <;> intro c <;> rw [request_apply] <;> split <;> rfl

theorem requestConfirmed (option : DeviceOption) (value : Float) :
    Takes timeoutMs 0 (Controller.requestConfirmed option value) := by
  have confirms : Takes timeoutMs 0 (Controller.confirm option value) := by
    apply of_now <;> intro c <;> rw [confirm_apply] <;> split <;> try rfl
    all_goals split <;> rfl
  exact (request option value).bind fun _ => confirms.bind fun _ => pure ()

theorem settleNow : Takes timeoutMs 0 Controller.settleNow :=
  get.bind fun _ => transition _

theorem warmUp (ms : Nat) : Takes timeoutMs ms (Controller.warmUp ms) :=
  (sleep ms).bind fun _ => get.bind fun _ => (transition _).bind fun _ => pure _

theorem await (log : LogId) (frames limitMs : Nat) :
    Takes timeoutMs limitMs (Controller.await log frames limitMs) := by
  have waits : ∀ barrier : Barrier,
      Takes timeoutMs limitMs (Controller.onBench (barrier.wait log frames limitMs)) := by
    refine fun barrier => onBench fun b => ?_
    obtain ⟨ends, slept⟩ := barrier.wait_ends log frames limitMs b
    exact ⟨_, ends.elapsed_le, by rw [slept, b.now_sleep]⟩
  exact read fun c _ => (waits c.barrier).bind fun _ => ite (stall _ _ _) (pure ())

theorem stabilize (frames : Nat) : Takes timeoutMs timeoutMs (Controller.stabilize frames) := by
  have waits : ∀ log : LogId, Takes timeoutMs timeoutMs (do
      Controller.await log frames (← MonadState.get).timeoutMs
      Controller.transition (.settled ((← MonadState.get).bench.count log))) :=
    fun log => read fun c timeout => timeout ▸ (await log frames c.timeoutMs).bind fun _ =>
      get.bind fun _ => transition _
  refine (activeLog.bind fun log => (transition _).bind fun _ => waits log).mono ?_
  omega

theorem collectWithin (frames : Nat) (expected : Bool) (limitMs : Nat) :
    Takes timeoutMs limitMs (Controller.collectWithin frames expected limitMs) := by
  have collects : ∀ c : Controller, Takes timeoutMs limitMs (do
      let log ← Controller.activeLog
      Controller.await log frames limitMs
      return Window.spanning (c.bench.count log) ((← MonadState.get).bench.count log) expected) :=
    fun _ => (activeLog.bind fun _ => (await _ _ _).bind fun _ =>
      get.bind fun _ => pure _).mono (by omega)
  exact read fun c _ => ite (((throw _).bind fun _ => collects c).mono (by omega)) (collects c)

theorem collect (frames : Nat) (expected : Bool) :
    Takes timeoutMs timeoutMs (Controller.collect frames expected) :=
  read fun c timeout => timeout ▸ collectWithin frames expected c.timeoutMs

theorem hold (ms : Nat) : Takes timeoutMs ms (Controller.hold ms) := by
  have settles : ∀ (log : LogId) (before after : Controller), Takes timeoutMs 0 (do
      Controller.transition (.settled (after.bench.count log))
      return after.bench.count log - before.bench.count log) :=
    fun _ _ _ => (transition _).bind fun _ => pure _
  refine (activeLog.bind fun log => get.bind fun before => (sleep ms).bind fun _ =>
    get.bind fun after => ite ?_ (settles log before after)).mono (by omega)
  exact ((stall _ _ _).bind fun _ => settles log before after).mono (by omega)

theorem beginStreaming (field : MetadataField) :
    Takes timeoutMs 0 (Controller.beginStreaming field) := by
  intro c _
  have begin := beginStreaming_begins field c
  generalize Controller.beginStreaming field c = result at begin
  have opened : ∀ {outcome : Except DeviceFault Unit} {b : Bench},
      c.bench.openWith c.session.profile = (outcome, b) → b.now = c.bench.now := by
    rintro _ _ opens
    exact (congrArg (·.2.now) opens).symm
  have started : ∀ {outcome : Except DeviceFault LogId} {b b' : Bench},
      b.start field = (outcome, b') → b'.now = b.now := by
    rintro _ b b' starts
    rw [← b.now_start field, starts]
  cases begin with
  | begun id _ opens starts => exact .of_now rfl ((started starts).trans (opened opens))
  | unopened _ opens => exact .of_now rfl (opened opens)
  | unstarted _ opens starts => exact .of_now rfl ((started starts).trans (opened opens))
  | reopened => exact .of_now rfl c.now_tornDown

end Takes

end Controller

def Operation.limitMs (timeoutMs : Nat) : Operation → Nat
  | .warmUp ms | .hold ms | .collectWithin _ _ ms => ms
  | .stabilize _ | .collect .. => timeoutMs
  | .beginStreaming _ | .request .. | .requestConfirmed .. | .settleNow => 0

theorem Operation.run_takes (op : Operation) (timeoutMs : Nat) :
    Controller.Takes timeoutMs (op.limitMs timeoutMs) op.run := by
  cases op with
  | beginStreaming field => exact .map _ (.beginStreaming field)
  | request option value => exact .map _ (.request option value)
  | requestConfirmed option value => exact .map _ (.requestConfirmed option value)
  | settleNow => exact .map _ .settleNow
  | warmUp ms => exact .map _ (.warmUp ms)
  | stabilize frames => exact .map _ (.stabilize frames)
  | collect frames expected => exact .map _ (.collect frames expected)
  | collectWithin frames expected limitMs => exact .map _ (.collectWithin frames expected limitMs)
  | hold ms => exact .map _ (.hold ms)

namespace Plan

def limitMs (timeoutMs : Nat) (plan : Plan) : Nat :=
  (plan.map (·.limitMs timeoutMs)).sum

variable (timeoutMs : Nat)

@[simp] theorem limitMs_nil : limitMs timeoutMs [] = 0 := rfl

@[simp] theorem limitMs_cons (op : Operation) (rest : Plan) :
    limitMs timeoutMs (op :: rest) = op.limitMs timeoutMs + limitMs timeoutMs rest := by
  simp [limitMs]

@[simp] theorem limitMs_append (first second : Plan) :
    limitMs timeoutMs (first ++ second) = limitMs timeoutMs first + limitMs timeoutMs second := by
  simp [limitMs]

theorem run_takes (plan : Plan) : Controller.Takes timeoutMs (plan.limitMs timeoutMs) plan.run := by
  induction plan with
  | nil => exact .pure ()
  | cons op rest ih =>
    rw [limitMs_cons]
    exact (op.run_takes timeoutMs).bind fun _ => ih

theorem limitMs_modePlan {mode : ExposureMode} {device : Device} {first : Plan}
    (chosen : Scenario.modePlan mode device = .ok first) : first.limitMs timeoutMs = 0 := by
  rw [Scenario.modePlan] at chosen
  split at chosen
  · cases chosen
    rfl
  · split at chosen <;> cases chosen
    rfl

end Plan

theorem RapidToggle.limitMs_togglePlan (settings : Settings) (timeoutMs left : Nat) (on : Bool) :
    Plan.limitMs timeoutMs (togglePlan settings left on) = 2 * left * timeoutMs := by
  induction left generalizing on with
  | zero => simp [togglePlan]
  | succ left ih =>
    simp only [togglePlan, windowPlan, Plan.limitMs_cons, Plan.limitMs_append, Plan.limitMs_nil, ih,
      Operation.setAutoExposure, Operation.limitMs]
    ring

theorem RapidToggle.limitMs_windowsPlan (settings : Settings) (timeoutMs toggles : Nat) :
    Plan.limitMs timeoutMs (windowsPlan settings toggles) = (2 * toggles - 1) * timeoutMs := by
  cases toggles with
  | zero => simp [windowsPlan]
  | succ left =>
    -- The first window comes without a switch, so it is waited for once.
    have waits : 2 * (left + 1) - 1 = 1 + 2 * left := by omega
    simp only [windowsPlan, windowPlan, Plan.limitMs_append, Plan.limitMs_cons, Plan.limitMs_nil,
      limitMs_togglePlan, Operation.limitMs, waits]
    ring

theorem ExtremeRecovery.limitMs_iterationsPlan (settings : Settings) (exposure : Float)
    (timeoutMs left : Nat) :
    Plan.limitMs timeoutMs (iterationsPlan settings exposure left) =
      left * (settings.extremeRecovery.manualHoldMs + settings.extremeRecovery.autoHoldMs) := by
  induction left with
  | zero => simp [iterationsPlan]
  | succ left ih =>
    simp only [iterationsPlan, iterationPlan, Plan.limitMs_append, Plan.limitMs_cons,
      Plan.limitMs_nil, ih, Operation.setAutoExposure, Operation.limitMs]
    ring

namespace Experiment

/-- The longest that an experiment waits, in milliseconds. -/
def waitsMs (settings : Settings) : Experiment → Nat
  | .baseline => settings.baseline.warmupMs + settings.baseline.timeoutMs
  | .steadyState .. => settings.steadyState.timeoutMs
  | .rapidToggle _ =>
    settings.rapidToggle.warmupMs +
      (2 * settings.rapidToggle.toggles - 1) * settings.barrier.timeoutMs
  | .extremeRecovery =>
    settings.extremeRecovery.iterations *
      (settings.extremeRecovery.manualHoldMs + settings.extremeRecovery.autoHoldMs)

theorem limitMs_plan {settings : Settings} {profile : StreamProfile} {device : Device}
    {e : Experiment} {plan : Plan} (made : e.plan settings profile device = .ok plan) :
    plan.limitMs settings.barrier.timeoutMs = e.waitsMs settings := by
  cases e with
  | baseline =>
    cases made
    simp [baselinePlan, waitsMs, Operation.setAutoExposure, Operation.limitMs]
  | steadyState on mode =>
    obtain ⟨first, chosen, rfl⟩ := ok_of_map made
    have moded : first.limitMs settings.barrier.timeoutMs = 0 := by
      split at chosen
      · exact Plan.limitMs_modePlan _ chosen
      · cases chosen
        rfl
    simp [moded, waitsMs, SteadyState.preludePlan, SteadyState.windowPlan, Operation.limitMs]
  | rapidToggle mode =>
    obtain ⟨first, chosen, rfl⟩ := ok_of_map made
    simp [Plan.limitMs_modePlan _ chosen, RapidToggle.limitMs_windowsPlan, waitsMs,
      RapidToggle.warmUpPlan, Operation.setAutoExposure, Operation.limitMs]
  | extremeRecovery =>
    obtain ⟨exposure, -, rfl⟩ := ok_of_map made
    simp [ExtremeRecovery.limitMs_iterationsPlan, waitsMs, Operation.limitMs]

theorem driven_takes (settings : Settings) (e : Experiment) (c : Controller)
    (timeout : c.timeoutMs = settings.barrier.timeoutMs) :
    c.Reaches (e.waitsMs settings) (e.driven settings c).2 := by
  rw [driven]
  rcases made : e.plan settings c.session.profile c.device with failure | plan
  · exact (Controller.Reaches.of_now rfl rfl).mono (Nat.zero_le _)
  · rw [← limitMs_plan made]
    exact plan.run_takes _ c timeout

/-- Whatever becomes of an experiment, it ends within its configured waits: the timeout of a steady
state, the warm-up and the timeout of a baseline, the warm-up of a run of toggles and the barriers
of all its windows and switches, the holds of all iterations of a recovery. -/
theorem ends_in_time (settings : Settings) (baseline : Option BaselineSummary) (e : Experiment)
    (b : Bench) :
    ∃ ms ≤ e.waitsMs settings,
      (e.run settings baseline b).2.now = b.now + Duration.ofMillis ms := by
  rw [run_bench]
  rcases (e.query settings).select? b.device.profiles with _ | s
  · exact ⟨0, Nat.zero_le _, by simp [Duration.ofMillis]⟩
  · obtain ⟨ms, within, now⟩ :=
      (e.driven_takes settings (Scenario.controllerFor b s.profile settings) rfl).within
    refine ⟨ms, within, ?_⟩
    dsimp only
    rw [Controller.finish_eq, Controller.now_tornDown, now]
    rfl

end Experiment

end ExposureBench
