import ExposureBench.Proofs.Diagnostics
import ExposureBench.Proofs.Gaps
import ExposureBench.Proofs.Windows

namespace ExposureBench

def Operation.isHold : Operation → Bool
  | .hold _ => true
  | _ => false

/-- A hold during which frames came, with auto-exposure accepted last as on. -/
def Plan.Step.recovers (s : Step) : Bool :=
  s.operation.isHold && s.outcome.isOk &&
    (s.before.bench.accepted? .enableAutoExposure).any (· != 0)

theorem Plan.Step.recovers_of_idle {op : Operation} (idle : op.isHold = false) (c : Controller) :
    recovers ⟨op, c⟩ = false := by
  rw [recovers, idle, Bool.false_and, Bool.false_and]

theorem Plan.Step.isHold_of_recovers {s : Step} (recovers : s.recovers) :
    s.operation.isHold := by
  rw [Step.recovers, Bool.and_eq_true, Bool.and_eq_true] at recovers
  exact recovers.1.1

theorem Plan.Step.recovers_hold (ms : Nat) (c : Controller) :
    recovers ⟨.hold ms, c⟩ = (((Operation.hold ms).run c).1.isOk &&
      (c.bench.accepted? .enableAutoExposure).any (· != 0)) := by
  rw [recovers, Operation.isHold, Bool.true_and]
  rfl

def Plan.recoveries (switched : Controller) (steps : List Step) : List (Controller × Step) :=
  (sinceSwitch switched steps).filter (·.2.recovers)

/-- The times at which frames came from the switch to the end of the hold. -/
def Plan.recoveryTimes (log : FrameLog) (entry : Controller × Step) : List Float :=
  (log.slice entry.1.framesObserved entry.2.after.framesObserved).map (·.hostTimestamp)

namespace ExtremeRecovery

def spikesOf (a : TimingAnalyzer) (times : List Float) : Nat :=
  (gaps times).countP (a.threshold < ·)

/-- The gaps of a window that enter the mean: those that end after the frames to skip, spikes left
out. -/
def calmOf (a : TimingAnalyzer) (skip : Nat) (times : List Float) : List Float :=
  ((gaps times).drop skip).filter fun gap => !decide (a.threshold < gap)

def Totals.ofWindows (a : TimingAnalyzer) (skip : Nat) (windows : List (List Float)) : Totals where
  iterations := windows.length
  spikes := (windows.map (spikesOf a)).sum
  gaps := (windows.map fun times => max 1 (times.length - 1)).sum
  mean := .ofGaps (windows.flatMap (calmOf a skip))

theorem Totals.add_ofWindows (a : TimingAnalyzer) (skip : Nat) (windows : List (List Float))
    (times : Array Float) :
    (ofWindows a skip windows).add a skip times = ofWindows a skip (windows ++ [times.toList]) := by
  have spikes : a.spikeCount times 0 = spikesOf a times.toList := spikeCount_eq times a.threshold 0
  have mean : (GapMean.ofGaps (windows.flatMap (calmOf a skip))).addRange times skip times.size
      (some a.threshold) = .ofGaps (windows.flatMap (calmOf a skip) ++ calmOf a skip times.toList) :=
    GapMean.addRange_ofGaps _ times skip (some a.threshold)
  simp [add, RecoveryWindow.measure, ofWindows, spikes, mean, gapCount, Nat.max_comm]

theorem Totals.foldl_add (a : TimingAnalyzer) (skip : Nat) (windows : List (Array Float))
    (before : List (List Float)) :
    windows.foldl (fun t times => t.add a skip times) (ofWindows a skip before) =
      ofWindows a skip (before ++ windows.map (·.toList)) := by
  induction windows generalizing before with
  | nil => rw [List.foldl_nil, List.map_nil, List.append_nil]
  | cons times rest ih =>
    rw [List.foldl_cons, add_ofWindows, ih, List.append_assoc]
    rfl

def recover (settings : Settings) (a : TimingAnalyzer) (log : LogId) : Attempt Run Unit := do
  let before := (← get).controller.bench.count log
  control (Controller.setAutoExposure true)
  let _ ← control (Controller.hold settings.extremeRecovery.autoHoldMs)
  modify fun r =>
    let window := (r.controller.bench.log? log).elim #[] (·.timestampsFrom before)
    { r with totals := r.totals.add a settings.extremeRecovery.transitionFramesToSkip window }

theorem iterate_succ (settings : Settings) (a : TimingAnalyzer) (log : LogId) (exposure : Float)
    (left : Nat) :
    iterate settings a log exposure (left + 1) = (do
      control (Controller.setAutoExposure false)
      control (Controller.request .exposure exposure)
      let _ ← control (Controller.hold settings.extremeRecovery.manualHoldMs)
      recover settings a log
      iterate settings a log exposure left) := by
  simp only [iterate, recover, bind_assoc]

open Attempt (Notes)

def measured (s : Plan.Step) : Array Float :=
  (Scenario.recorded s.after).timestampsFrom s.before.framesObserved

def note (a : TimingAnalyzer) (skip : Nat) (t : Totals) (s : Plan.Step) : Totals :=
  if s.recovers then t.add a skip (measured s) else t

theorem note_of_idle (a : TimingAnalyzer) (skip : Nat) (t : Totals) (op : Operation)
    (c : Controller) (idle : op.isHold = false) : note a skip t ⟨op, c⟩ = t := by
  rw [note, Plan.Step.recovers_of_idle idle, if_neg Bool.false_ne_true]

abbrev Sums {α : Type} (settings : Settings) (a : TimingAnalyzer) (log : LogId)
    (act : Attempt Run α) (plan : Plan) (r : Run) : Prop :=
  Notes (·.controller) (·.totals) (note a settings.extremeRecovery.transitionFramesToSkip)
    (·.log = some log) act plan r

variable {settings : Settings} {a : TimingAnalyzer} {log : LogId}

theorem control_sums {α : Type} {act : Attempt Controller α} {f : α → Operation.Reply}
    (op : Operation) (runs : op.run = f <$> act) (sustained : Controller.Sustained act) {r : Run}
    (idle : Plan.Step.recovers ⟨op, r.controller⟩ = false) (streams : r.controller.log = some log) :
    Sums settings a log (control act) [op] r := by
  apply Notes.op op runs
  · intro _ _
    rfl
  · intro _ _
    rfl
  · rw [note, idle, if_neg Bool.false_ne_true]
  · exact (sustained.log_eq r.controller).trans streams

theorem recover_follows (r : Run) :
    Attempt.Follows (·.controller) (recover settings a log)
      [.setAutoExposure true, .hold settings.extremeRecovery.autoHoldMs] r := by
  apply (Attempt.Follows.get r).bind
  intro before r _
  apply (Attempt.Follows.op (.setAutoExposure true) rfl (fun _ _ => rfl) r).bind
  intro _ r _
  exact (Attempt.Follows.op (.hold _) rfl (fun _ _ => rfl) r).bind fun _ r _ =>
    Attempt.Follows.modify r rfl

theorem control_done {α : Type} {act : Attempt Controller α} {r r' : Run} {x : α}
    (done : control act r = (.ok x, r')) : act r.controller = (.ok x, r'.controller) := by
  rw [control, Attempt.within_apply] at done
  generalize act r.controller = result at done ⊢
  rcases result with ⟨failure | x', c'⟩ <;> cases done
  rfl

theorem recover_apply (settings : Settings) (a : TimingAnalyzer) (log : LogId) (r : Run) :
    recover settings a log r =
      match Controller.setAutoExposure true r.controller with
      | (.error failure, c) => (.error failure, { r with controller := c })
      | (.ok (), c) =>
        match Controller.hold settings.extremeRecovery.autoHoldMs c with
        | (.error failure, c) => (.error failure, { r with controller := c })
        | (.ok _, c) => (.ok (), {
            controller := c
            totals := r.totals.add a settings.extremeRecovery.transitionFramesToSkip
              ((c.bench.log? log).elim #[]
                (·.timestampsFrom (r.controller.bench.count log))) }) := by
  rw [recover, Attempt.bind_apply, Attempt.get_apply]
  dsimp only
  rw [Attempt.bind_apply, control, Attempt.within_apply]
  rcases Controller.setAutoExposure true r.controller with ⟨failure | _, c⟩
  · rfl
  · dsimp only
    rw [Attempt.bind_apply, control, Attempt.within_apply]
    dsimp only
    rcases Controller.hold settings.extremeRecovery.autoHoldMs c with ⟨failure | _, c'⟩ <;> rfl

theorem measured_eq {op : Operation} {c c' : Controller} {reply : Operation.Reply}
    (ran : op.run c = (.ok reply, c')) (streams : c'.log = some log) :
    measured ⟨op, c⟩ =
      (c'.bench.log? log).elim #[] (·.timestampsFrom c.framesObserved) := by
  rw [measured, Plan.Step.after, ran, Scenario.recorded, streams]
  change FrameLog.timestampsFrom ((c'.bench.log? log).getD _) _ = _
  cases c'.bench.log? log with
  | none => simp [FrameLog.timestampsFrom]
  | some recorded => rfl

theorem recover_sums {r : Run} (streams : r.controller.log = some log) :
    Sums settings a log (recover settings a log)
      [.setAutoExposure true, .hold settings.extremeRecovery.autoHoldMs] r := by
  have idle := note_of_idle a settings.extremeRecovery.transitionFramesToSkip r.totals
    (.setAutoExposure true) r.controller rfl
  have switched :=
    (Controller.Sustained.request .enableAutoExposure (if true then 1 else 0)).log_eq r.controller
  have switches : (Operation.setAutoExposure true).run r.controller =
      ((Controller.setAutoExposure true r.controller).1.map fun _ => .done,
        (Controller.setAutoExposure true r.controller).2) := Attempt.map_apply _ _ _
  suffices ends : (recover settings a log r).2.controller.log = some log ∧
      (recover settings a log r).2.totals =
        (Plan.steps [.setAutoExposure true, .hold settings.extremeRecovery.autoHoldMs]
          r.controller).foldl (note a settings.extremeRecovery.transitionFramesToSkip) r.totals from
    ⟨recover_follows r, ends.1, ends.2⟩
  rw [← Controller.setAutoExposure] at switched
  rw [recover_apply]
  rcases requested : Controller.setAutoExposure true r.controller with ⟨failure | _, c⟩ <;>
    rw [requested] at switched switches <;> dsimp only
  · rw [Plan.steps_cons_of_error _ switches, List.foldl_cons, List.foldl_nil, idle]
    exact ⟨switched.trans streams, rfl⟩
  have held := (Controller.Sustained.hold settings.extremeRecovery.autoHoldMs).log_eq c
  have holds : (Operation.hold settings.extremeRecovery.autoHoldMs).run c =
      ((Controller.hold settings.extremeRecovery.autoHoldMs c).1.map .frames,
        (Controller.hold settings.extremeRecovery.autoHoldMs c).2) := Attempt.map_apply _ _ _
  -- A write takes no time, so no frame comes between the switch and the hold.
  have before : c.framesObserved = r.controller.bench.count log := by
    rw [Controller.framesObserved_of_request requested, Controller.framesObserved, streams]
    rfl
  have on : ((some (if true then 1 else 0) : Option Float).any (· != 0)) = true := by decide
  rw [Plan.steps_cons_of_ok _ switches, Plan.steps_singleton, List.foldl_cons, idle,
    List.foldl_cons, List.foldl_nil, note, Plan.Step.recovers_hold, holds,
    Controller.accepted?_of_request requested, on]
  rcases hold : Controller.hold settings.extremeRecovery.autoHoldMs c with ⟨failure | n, c'⟩ <;>
    rw [hold] at held holds
  · exact ⟨(held.trans switched).trans streams, rfl⟩
  · have streams' : c'.log = some log := (held.trans switched).trans streams
    rw [measured_eq holds streams', before]
    exact ⟨streams', rfl⟩

theorem manual_idle {exposure : Float} {c c₁ c₂ : Controller}
    (switches : Controller.setAutoExposure false c = (.ok (), c₁))
    (exposes : Controller.request .exposure exposure c₁ = (.ok (), c₂)) (ms : Nat) :
    Plan.Step.recovers ⟨.hold ms, c₂⟩ = false := by
  have off : ((some (if false then 1 else 0) : Option Float).any (· != 0)) = false := by decide
  rw [Plan.Step.recovers_hold, Controller.accepted?_of_other_request (by decide) exposes,
    Controller.accepted?_of_request switches, off, Bool.and_false]

theorem iterate_sums (exposure : Float) (left : Nat) {r : Run}
    (streams : r.controller.log = some log) :
    Sums settings a log (iterate settings a log exposure left)
      (iterationsPlan settings exposure left) r := by
  induction left generalizing r with
  | zero => exact .pure streams ()
  | succ left ih =>
    rw [iterate_succ]
    apply (control_sums (.setAutoExposure false) rfl (Controller.Sustained.request _ _)
      (Plan.Step.recovers_of_idle rfl _) streams).bind
    intro _ r₁ switched streams
    apply (control_sums (.request .exposure exposure) rfl (Controller.Sustained.request _ _)
      (Plan.Step.recovers_of_idle rfl _) streams).bind
    intro _ r₂ exposed streams
    have manual := manual_idle (control_done switched) (control_done exposed)
      settings.extremeRecovery.manualHoldMs
    apply (control_sums (.hold _) rfl (Controller.Sustained.hold _) manual streams).bind
    intro _ r₃ _ streams
    exact (recover_sums streams).bind fun _ _ _ streams => ih streams

theorem totals_driven (settings : Settings) (c : Controller) :
    (driven settings c).1.2 = (Experiment.extremeRecovery.steps settings c).foldl
      (note (Scenario.analyzerFor c.session.profile settings)
        settings.extremeRecovery.transitionFramesToSkip) {} := by
  rw [Experiment.steps, Experiment.plan]
  change (drive settings _ { controller := c }).2.totals = _
  rw [drive_apply]
  rcases exposure? settings c.session.profile c.device with failure | exposure
  · rfl
  · have begins : (Operation.beginStreaming .autoExposure).run c =
        ((Controller.beginStreaming .autoExposure c).1.map .stream,
          (Controller.beginStreaming .autoExposure c).2) := Attempt.map_apply _ _ _
    have idle := note_of_idle (Scenario.analyzerFor c.session.profile settings)
      settings.extremeRecovery.transitionFramesToSkip {} (.beginStreaming .autoExposure) c rfl
    dsimp only [Except.map]
    rw [Attempt.bind_apply, control, Attempt.within_apply]
    rcases began : Controller.beginStreaming .autoExposure c with ⟨failure | log, c'⟩ <;>
      rw [began] at begins
    · rw [Plan.steps_cons_of_error _ begins, List.foldl_cons, List.foldl_nil, idle]
    · obtain ⟨_, _, _, _, _, streams, _⟩ := Controller.beginStreaming_done began
      have summed : Sums settings (Scenario.analyzerFor c.session.profile settings) log
          (iterate settings (Scenario.analyzerFor c.session.profile settings) log exposure
            settings.extremeRecovery.iterations)
          (iterationsPlan settings exposure settings.extremeRecovery.iterations)
          { controller := c' } :=
        iterate_sums exposure _ streams
      rw [Plan.steps_cons_of_ok _ begins, List.foldl_cons, idle]
      exact summed.noted

/-- The recoveries that so many iterations leave, however they end. Between the switch and the hold
no frame comes. -/
structure Completed (left : Nat) (outcome : Except Failure Unit)
    (entries : List (Controller × Plan.Step)) : Prop where
  timely : ∀ e ∈ entries, e.1.framesObserved = e.2.before.framesObserved
  length_le : entries.length ≤ left
  complete : outcome = .ok () → entries.length = left

theorem Completed.failed (left : Nat) (failure : Failure) : Completed left (.error failure) [] where
  timely := List.forall_mem_nil _
  length_le := Nat.zero_le left
  complete := by rintro ⟨⟩

theorem Completed.idle {left : Nat} {op : Operation} {rest : Plan} {switched c : Controller}
    (idle : Plan.Step.recovers ⟨op, c⟩ = false)
    (next : ∀ reply c', op.run c = (.ok reply, c') → Completed left (Plan.run rest c').1
      (Plan.recoveries (if op.isSwitch then c else switched) (Plan.steps rest c'))) :
    Completed left (Plan.run (op :: rest) c).1
      (Plan.recoveries switched (Plan.steps (op :: rest) c)) := by
  rw [Plan.run_cons]
  rcases ran : op.run c with ⟨failure | reply, c'⟩
  · have none : Plan.recoveries switched [⟨op, c⟩] = [] := by
      simp [Plan.recoveries, Plan.sinceSwitch, idle]
    rw [Plan.steps_cons_of_error rest ran, none]
    exact .failed _ failure
  · have later : Plan.recoveries switched (⟨op, c⟩ :: Plan.steps rest c') =
        Plan.recoveries (if op.isSwitch then c else switched) (Plan.steps rest c') := by
      rw [Plan.recoveries, Plan.sinceSwitch, List.filter_cons_of_neg (by simp [idle])]
      rfl
    rw [Plan.steps_cons_of_ok rest ran, later]
    exact next reply c' ran

theorem Completed.recovery {left : Nat} {ms : Nat} {rest : Plan} {switched c : Controller}
    (on : (c.bench.accepted? .enableAutoExposure).any (· != 0))
    (timely : switched.framesObserved = c.framesObserved)
    (next : ∀ c', Completed left (Plan.run rest c').1
      (Plan.recoveries switched (Plan.steps rest c'))) :
    Completed (left + 1) (Plan.run (.hold ms :: rest) c).1
      (Plan.recoveries switched (Plan.steps (.hold ms :: rest) c)) := by
  have recovers := Plan.Step.recovers_hold ms c
  rw [on, Bool.and_true] at recovers
  rw [Plan.run_cons]
  rcases ran : (Operation.hold ms).run c with ⟨failure | reply, c'⟩ <;> rw [ran] at recovers
  · have none : Plan.recoveries switched [⟨.hold ms, c⟩] = [] := by
      simp [Plan.recoveries, Plan.sinceSwitch, recovers, Except.isOk, Except.toBool]
    rw [Plan.steps_cons_of_error rest ran, none]
    exact .failed _ failure
  · obtain ⟨others, fewer, complete⟩ := next c'
    have first : Plan.recoveries switched (⟨.hold ms, c⟩ :: Plan.steps rest c') =
        (switched, ⟨.hold ms, c⟩) :: Plan.recoveries switched (Plan.steps rest c') := by
      rw [Plan.recoveries, Plan.sinceSwitch, List.filter_cons_of_pos (by simp [recovers, Except.isOk,
        Except.toBool])]
      rfl
    rw [Plan.steps_cons_of_ok rest ran, first]
    refine ⟨List.forall_mem_cons.mpr ⟨timely, others⟩, Nat.succ_le_succ fewer, ?_⟩
    intro done
    rw [List.length_cons, complete done]

theorem iterationsPlan_completed (exposure : Float) (left : Nat) (switched c : Controller) :
    Completed left (Plan.run (iterationsPlan settings exposure left) c).1
      (Plan.recoveries switched (Plan.steps (iterationsPlan settings exposure left) c)) := by
  induction left generalizing switched c with
  | zero => exact ⟨List.forall_mem_nil _, Nat.le_refl 0, fun _ => rfl⟩
  | succ left ih =>
    rw [iterationsPlan, iterationPlan]
    apply Completed.idle (Plan.Step.recovers_of_idle rfl c)
    intro _ c₁ switches
    apply Completed.idle (Plan.Step.recovers_of_idle rfl c₁)
    intro _ c₂ exposes
    obtain ⟨_, switches, _⟩ := Attempt.ok_of_map switches
    obtain ⟨_, exposes, _⟩ := Attempt.ok_of_map exposes
    apply Completed.idle (manual_idle switches exposes _)
    intro _ c₃ _
    apply Completed.idle (Plan.Step.recovers_of_idle rfl c₃)
    intro _ c₄ switches
    obtain ⟨_, switches, _⟩ := Attempt.ok_of_map switches
    have on : (c₄.bench.accepted? .enableAutoExposure).any (· != 0) := by
      rw [Controller.accepted?_of_request switches]
      decide
    apply Completed.recovery on (Controller.framesObserved_of_request switches).symm
    intro c₅
    exact ih _ c₅

theorem driven_completed (settings : Settings) (c : Controller) :
    Completed settings.extremeRecovery.iterations (driven settings c).1.1
      (Plan.recoveries c (Experiment.extremeRecovery.steps settings c)) := by
  have followed := congrArg Prod.fst (driven_eq settings c)
  dsimp only at followed
  rw [followed, Experiment.driven, Experiment.steps, Experiment.plan]
  rcases exposure? settings c.session.profile c.device with failure | exposure
  · exact .failed _ failure
  · exact Completed.idle (Plan.Step.recovers_of_idle rfl c) fun _ c' _ =>
      iterationsPlan_completed exposure _ _ c'

theorem continues_of_hold (settings : Settings) {c : Controller} {h : Plan.Step}
    (member : h ∈ Experiment.extremeRecovery.steps settings c) (hold : h.operation.isHold) :
    h.after.Continues (driven settings c).2 := by
  have followed := congrArg Prod.snd (driven_eq settings c)
  dsimp only at followed
  rw [Experiment.steps, Experiment.plan] at member
  rw [followed, Experiment.driven, Experiment.plan]
  rcases chosen : exposure? settings c.session.profile c.device with failure | exposure <;>
    rw [chosen] at member
  · cases member
  · dsimp only [Except.map] at member ⊢
    have later := iterationsPlan_later settings exposure settings.extremeRecovery.iterations
    rcases began : (Operation.beginStreaming .autoExposure).run c with ⟨failure | r, c'⟩
    · rw [Plan.steps_cons_of_error _ began] at member
      cases List.mem_singleton.mp member
      cases hold
    · rw [Plan.steps_cons_of_ok _ began] at member
      rw [Plan.run_cons, began]
      rcases List.mem_cons.mp member with rfl | among
      · cases hold
      · exact (later.continues c').after h among

theorem continues_of_recoveries (settings : Settings) {c : Controller}
    {e : Controller × Plan.Step}
    (member : e ∈ Plan.recoveries c (Experiment.extremeRecovery.steps settings c)) :
    e.2.after.Continues (driven settings c).2 := by
  obtain ⟨listed, recovers⟩ := List.mem_filter.mp member
  exact continues_of_hold settings (Plan.step_mem_of_sinceSwitch listed)
    (Plan.Step.isHold_of_recovers recovers)

theorem toList_measured (s : Plan.Step) :
    (measured s).toList = ((Scenario.recorded s.after).slice s.before.framesObserved
      s.after.framesObserved).map (·.hostTimestamp) := by
  rw [measured, FrameLog.timestampsFrom_eq_extract, Controller.count_recorded,
    FrameLog.slice_eq_extract, Array.toList_map]

theorem foldl_note (a : TimingAnalyzer) (skip : Nat) (switched : Controller)
    (steps : List Plan.Step) (t : Totals) :
    steps.foldl (note a skip) t = ((Plan.recoveries switched steps).map (measured ·.2)).foldl
      (fun t times => t.add a skip times) t := by
  rw [List.foldl_map, Plan.recoveries, List.foldl_filter]
  conv_lhs => rw [← Plan.map_sinceSwitch switched steps, List.foldl_map]
  rfl

def recoveredTimes (settings : Settings) (c : Controller) : List (List Float) :=
  (Plan.recoveries c (Experiment.extremeRecovery.steps settings c)).map
    (Plan.recoveryTimes (Scenario.recorded (driven settings c).2))

theorem totals_eq (settings : Settings) (c : Controller) :
    (driven settings c).1.2 = .ofWindows (Scenario.analyzerFor c.session.profile settings)
      settings.extremeRecovery.transitionFramesToSkip (recoveredTimes settings c) := by
  have timely := (driven_completed settings c).timely
  rw [totals_driven, foldl_note _ _ c]
  refine (Totals.foldl_add _ _ _ []).trans (congrArg _ ?_)
  rw [List.nil_append, List.map_map]
  refine List.map_congr_left fun e member => ?_
  have continues := continues_of_recoveries settings member
  rw [Function.comp_apply, toList_measured, Plan.recoveryTimes, timely e member,
    continues.slice_recorded (Nat.le_refl _)]

/-- What is told of some windows. The frames and the largest gap are those of the whole stream. -/
def timingOf (a : TimingAnalyzer) (skip : Nat) (windows : List (List Float)) (log : FrameLog) :
    TimingSummary :=
  let spikes := (windows.map (spikesOf a)).sum
  let total := (windows.map fun times => max 1 (times.length - 1)).sum
  let calm := windows.flatMap (calmOf a skip)
  { frames := log.count
    gaps := total
    spikes
    spikeRatePercent := spikeRatePercent spikes total
    avgFrameTimeMs := if calm = [] then 0 else calm.foldl (· + ·) 0 / Float.ofNat calm.length
    maxGapMs := (gaps (log.all.map (·.hostTimestamp))).foldl larger 0
    expectedFrameTimeMs := a.frameTimeMs }

/-- The spikes that the iterations account for, and those they do not. -/
def spikesTold (settings : Settings) (a : TimingAnalyzer) (windows : List (List Float)) :
    List Diagnostic :=
  let spikes := (windows.map (spikesOf a)).sum
  let total := (windows.map fun times => max 1 (times.length - 1)).sum
  let expected := countProduct settings.extremeRecovery.expectedSpikesPerIteration windows.length
  if windows = [] then []
  else [.expectedSpikes expected (spikes - expected) (max (total - expected) 1)]

/-- A verdict that reports the iterations completed, however the drive ended. -/
structure Reports (settings : Settings) (notes : List Diagnostic) (a : TimingAnalyzer)
    (outcome : Except Failure Unit) (windows : List (List Float)) (log : FrameLog)
    (verdict : Verdict) : Prop where
  bounded : windows.length ≤ settings.extremeRecovery.iterations
  complete : outcome = .ok () → windows.length = settings.extremeRecovery.iterations
  observed : verdict.framesObserved = log.count
  timing : verdict.timing =
    if windows = [] then none
    else some (timingOf a settings.extremeRecovery.transitionFramesToSkip windows log)
  told : ∃ findings, verdict.diagnostics = notes ++ spikesTold settings a windows ++ findings ∧
    (∀ expected unexpected adjusted, .expectedSpikes expected unexpected adjusted ∉ findings) ∧
    ∀ failure, outcome = .error failure → findings = [.ofFailure failure]
  unwrapped : settings.extremeRecovery.expectedSpikesPerIteration * windows.length < UInt64.size →
    ∀ expected unexpected gaps, .expectedSpikes expected unexpected gaps ∈ verdict.diagnostics →
      expected = settings.extremeRecovery.expectedSpikesPerIteration * windows.length
  aborted : ∀ failure, outcome = .error failure →
    (∀ raw adjusted ceiling, .timingRegression raw adjusted ceiling ∉ verdict.diagnostics) ∧
    (∀ expected observed, .frameShortfall expected observed ∉ verdict.diagnostics) ∧
    ∀ baseline spikes, .baselineComparison baseline spikes ∉ verdict.diagnostics

theorem timing_ofWindows (settings : Settings) (a : TimingAnalyzer) (windows : List (List Float))
    (log : FrameLog) {v : Verdict} (untimed : v.timing = none)
    (observed : v.framesObserved = log.count) :
    (judgeTotals a
        (adjustment settings (.ofWindows a settings.extremeRecovery.transitionFramesToSkip windows))
        (.ofWindows a settings.extremeRecovery.transitionFramesToSkip windows) log v).timing =
      if windows = [] then none
      else some (timingOf a settings.extremeRecovery.transitionFramesToSkip windows log) := by
  have largest : maxGap log.timestamps 0 =
      (gaps (log.all.map (·.hostTimestamp))).foldl larger 0 := by
    rw [maxGap_eq, List.drop_zero, FrameLog.toList_timestamps]
  rw [judgeTotals]
  by_cases none : windows = []
  · rw [if_pos none, if_pos (by rw [none]; rfl)]
    exact untimed
  · rw [if_neg none, if_neg (by simpa [Totals.ofWindows] using none)]
    simp only [timingOf, Verdict.push, adjustment, SpikeAdjustment.compute, Totals.ofWindows,
      GapMean.average_ofGaps, observed, largest]

theorem allowance_ofWindows (settings : Settings) (a : TimingAnalyzer)
    (windows : List (List Float)) :
    allowance settings
        (.ofWindows a settings.extremeRecovery.transitionFramesToSkip windows) =
      spikesTold settings a windows := by
  rw [allowance, spikesTold]
  by_cases none : windows = []
  · rw [if_pos none, if_pos (by rw [none]; rfl)]
  · rw [if_neg none, if_neg (by simpa [Totals.ofWindows] using none)]
    rfl

theorem mem_spikesTold {windows : List (List Float)} {d : Diagnostic}
    (member : d ∈ spikesTold settings a windows) :
    ∃ expected unexpected gaps, d = .expectedSpikes expected unexpected gaps := by
  rw [spikesTold] at member
  split at member
  · cases member
  · exact ⟨_, _, _, List.mem_singleton.mp member⟩

theorem expected_of_mem_spikesTold {windows : List (List Float)} {expected unexpected gaps : Nat}
    (fits : settings.extremeRecovery.expectedSpikesPerIteration * windows.length < UInt64.size)
    (member : .expectedSpikes expected unexpected gaps ∈ spikesTold settings a windows) :
    expected = settings.extremeRecovery.expectedSpikesPerIteration * windows.length := by
  rw [spikesTold] at member
  split at member
  · cases member
  · cases List.mem_singleton.mp member
    exact countProduct_of_lt fits

theorem judge_reports (settings : Settings) (baseline : Option BaselineSummary)
    (profile : StreamProfile) {offered : List StreamProfile} {outcome : Except Failure Unit}
    {windows : List (List Float)} {log : FrameLog} {v : Verdict}
    (bounded : windows.length ≤ settings.extremeRecovery.iterations)
    (complete : outcome = .ok () → windows.length = settings.extremeRecovery.iterations)
    (untimed : v.timing = none) (observed : v.framesObserved = log.count)
    (noted : v.diagnostics = settings.profile.notes offered) :
    Reports settings (settings.profile.notes offered) (Scenario.analyzerFor profile settings)
      outcome windows log (judge settings baseline profile
        (outcome, .ofWindows (Scenario.analyzerFor profile settings)
          settings.extremeRecovery.transitionFramesToSkip windows) log v) := by
  generalize totals : Totals.ofWindows (Scenario.analyzerFor profile settings)
    settings.extremeRecovery.transitionFramesToSkip windows = t
  have allowed : allowance settings t =
      spikesTold settings (Scenario.analyzerFor profile settings) windows := by
    rw [← totals]
    exact allowance_ofWindows settings _ windows
  have diagnostics : (judge settings baseline profile (outcome, t) log v).diagnostics =
      settings.profile.notes offered ++
        spikesTold settings (Scenario.analyzerFor profile settings) windows ++
        findings settings baseline (adjustment settings t) v.framesObserved outcome := by
    rw [diagnostics_judge, noted, allowed]
  refine ⟨bounded, complete, ?_, ?_, ⟨_, diagnostics, ?_, ?_⟩, ?_, ?_⟩
  · rw [framesObserved_judge, observed]
  · rw [timing_judge, ← totals]
    exact timing_ofWindows settings _ windows log untimed observed
  · intro _ _ _
    exact expectedSpikes_not_mem_findings
  · rintro failure rfl
    rfl
  · intro fits _ _ _ member
    rw [diagnostics, List.mem_append, List.mem_append] at member
    rcases member with (note | told) | finding
    · exact absurd note ProfileQuery.expectedSpikes_not_mem_notes
    · exact expected_of_mem_spikesTold fits told
    · exact absurd finding expectedSpikes_not_mem_findings
  · rintro failure rfl
    rw [diagnostics, findings]
    have plain : ∀ d ∈ settings.profile.notes offered ++
        spikesTold settings (Scenario.analyzerFor profile settings) windows ++
        [Diagnostic.ofFailure failure],
        (∀ raw adjusted ceiling, d ≠ .timingRegression raw adjusted ceiling) ∧
          (∀ expected seen, d ≠ .frameShortfall expected seen) ∧
          ∀ before spikes, d ≠ .baselineComparison before spikes := by
      intro d member
      rw [List.mem_append, List.mem_append, List.mem_singleton] at member
      rcases member with (note | told) | rfl
      · rcases ProfileQuery.mem_notes note with ⟨_, rfl⟩ | ⟨_, rfl⟩ <;> simp
      · obtain ⟨_, _, _, rfl⟩ := mem_spikesTold told
        simp
      · rcases Diagnostic.ofFailure_cases failure with ⟨_, told⟩ | ⟨_, _, _, told⟩ | ⟨_, told⟩ <;>
          rw [told] <;> simp
    exact ⟨fun _ _ _ member => (plain _ member).1 _ _ _ rfl,
      fun _ _ member => (plain _ member).2.1 _ _ rfl,
      fun _ _ member => (plain _ member).2.2 _ _ rfl⟩

theorem Reports.expectedSpikes_iff {settings : Settings} {notes : List Diagnostic}
    {a : TimingAnalyzer} {outcome : Except Failure Unit} {windows : List (List Float)}
    {log : FrameLog} {verdict : Verdict}
    (reports : Reports settings notes a outcome windows log verdict)
    (unnoted : ∀ expected unexpected gaps, .expectedSpikes expected unexpected gaps ∉ notes) :
    (∃ expected unexpected gaps, .expectedSpikes expected unexpected gaps ∈ verdict.diagnostics) ↔
      0 < windows.length := by
  obtain ⟨findings, diagnostics, others, _⟩ := reports.told
  rw [diagnostics, List.length_pos_iff]
  constructor
  · rintro ⟨_, _, _, member⟩ none
    rw [spikesTold, if_pos none, List.append_nil, List.mem_append] at member
    exact member.elim (unnoted _ _ _) (others _ _ _)
  · intro some
    rw [spikesTold, if_neg some]
    exact ⟨_, _, _, List.mem_append_left _ (List.mem_append_right _ (List.mem_singleton_self _))⟩

/-- The recoveries that a run completes. -/
def recovered (settings : Settings) (b : Bench) : List (Controller × Plan.Step) :=
  match settings.profile.select? b.device.profiles with
  | none => []
  | some s =>
    let c := Scenario.controllerFor b s.profile settings
    Plan.recoveries c (Experiment.extremeRecovery.steps settings c)

theorem recordedSince_run (settings : Settings) (baseline : Option BaselineSummary) {b : Bench}
    {s : Selection} (selected : settings.profile.select? b.device.profiles = some s) :
    b.recordedSince (run settings baseline b).2 = Scenario.recorded
      (driven settings (Scenario.controllerFor b s.profile settings)).2 := by
  rw [congrArg Prod.snd (driven_eq settings (Scenario.controllerFor b s.profile settings))]
  exact Experiment.recordedSince_run settings baseline .extremeRecovery selected

theorem run_reports (settings : Settings) (baseline : Option BaselineSummary) {b : Bench}
    {s : Selection} (selected : settings.profile.select? b.device.profiles = some s) :
    let log := b.recordedSince (run settings baseline b).2
    Reports settings (settings.profile.notes b.device.profiles)
      (Scenario.analyzerFor s.profile settings)
      (driven settings (Scenario.controllerFor b s.profile settings)).1.1
      ((recovered settings b).map (Plan.recoveryTimes log)) log (run settings baseline b).1 := by
  intro log
  obtain ⟨c, set⟩ : ∃ c, Scenario.controllerFor b s.profile settings = c := ⟨_, rfl⟩
  have profile : c.session.profile = s.profile := by
    rw [← set]
    rfl
  have recorded : log = Scenario.recorded (driven settings c).2 := by
    rw [← set]
    exact recordedSince_run settings baseline selected
  have recoveries : recovered settings b =
      Plan.recoveries c (Experiment.extremeRecovery.steps settings c) := by
    simp only [recovered, selected, set]
  have completed := driven_completed settings c
  have totals := totals_eq settings c
  rw [recoveredTimes, ← recorded, ← recoveries, profile] at totals
  rw [← recoveries] at completed
  have outcome : (driven settings c).1 = ((driven settings c).1.1,
      .ofWindows (Scenario.analyzerFor s.profile settings)
        settings.extremeRecovery.transitionFramesToSkip
        ((recovered settings b).map (Plan.recoveryTimes log))) := Prod.ext rfl totals
  have judged := Scenario.conduct_verdict name settings (driven settings) (judge settings baseline)
    selected set
  rw [Controller.recorded_finish, ← recorded, outcome] at judged
  have counted : (driven settings c).2.finish.framesObserved = log.count := by
    rw [Controller.finish_eq, Controller.framesObserved_tornDown, recorded,
      Controller.count_recorded]
  have untimed : ({ (Scenario.selectProfile b.device settings.profile { name }).2 with
      framesObserved := (driven settings c).2.finish.framesObserved } : Verdict).timing = none := by
    rw [Scenario.selectProfile, selected]
    rcases s with ⟨profile, _ | _⟩ <;> rfl
  rw [set, run, judged]
  refine judge_reports settings baseline s.profile ?_ ?_ untimed counted
    (Scenario.diagnostics_selectProfile b.device settings.profile name)
  · rw [List.length_map]
    exact completed.length_le
  · rw [List.length_map]
    exact completed.complete

/-- A run of recoveries reports exactly the iterations that it completed, however it ends: timing and
expected spikes are told if there are any, and are summed over their windows; so many spikes are
expected of each, unless their product wraps. An aborted iteration enters the frames observed and the
largest gap alone, and its failure is the last thing told. -/
theorem partial_results (settings : Settings) (baseline : Option BaselineSummary) (b : Bench) :
    let verdict := (run settings baseline b).1
    let log := b.recordedSince (run settings baseline b).2
    let windows := (recovered settings b).map (Plan.recoveryTimes log)
    (verdict.timing.isSome ↔ 0 < windows.length) ∧
      ((∃ expected unexpected gaps,
        .expectedSpikes expected unexpected gaps ∈ verdict.diagnostics) ↔ 0 < windows.length) ∧
      ∀ s, settings.profile.select? b.device.profiles = some s →
        Reports settings (settings.profile.notes b.device.profiles)
          (Scenario.analyzerFor s.profile settings)
          (driven settings (Scenario.controllerFor b s.profile settings)).1.1 windows log
          verdict := by
  intro verdict log windows
  rcases selected : settings.profile.select? b.device.profiles with _ | s
  · have none : windows = [] := by
      simp only [windows, recovered, selected, List.map_nil]
    have skipped : verdict = ({ name } : Verdict).recordFailure (.noProfile settings.profile) := by
      simp only [verdict, run, Scenario.conduct_eq, selected, Scenario.selectProfile]
    rw [none, skipped]
    refine ⟨by simp [Verdict.recordFailure, Verdict.push], ?_, ?_⟩
    · simp [Verdict.recordFailure, Verdict.push, Diagnostic.ofFailure, Failure.noProfile]
    · rintro s ⟨⟩
  · have reports : Reports settings (settings.profile.notes b.device.profiles)
        (Scenario.analyzerFor s.profile settings)
        (driven settings (Scenario.controllerFor b s.profile settings)).1.1 windows log verdict :=
      run_reports settings baseline selected
    have told := reports.expectedSpikes_iff fun _ _ _ => ProfileQuery.expectedSpikes_not_mem_notes
    refine ⟨?_, told, ?_⟩
    · rw [reports.timing, List.length_pos_iff]
      split
      next none => simp [none]
      next some => simp [some]
    · intro s' same
      cases same
      exact reports

end ExtremeRecovery

end ExposureBench
