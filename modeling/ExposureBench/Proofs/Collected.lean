import ExposureBench.Proofs.Mismatches
import ExposureBench.Proofs.Stages
import ExposureBench.Proofs.Teardown

namespace ExposureBench

namespace Controller

@[simp] theorem log_tornDown (c : Controller) : c.tornDown.log = c.log := rfl

@[simp] theorem logs_tornDown (c : Controller) : c.tornDown.bench.logs = c.bench.logs := by
  change c.session.tornDown.bench.logs = c.session.bench.logs
  unfold Session.tornDown
  split <;> rfl

theorem count_tornDown (c : Controller) (id : LogId) :
    c.tornDown.bench.count id = c.bench.count id := by
  rw [Bench.count, Bench.log?, logs_tornDown]
  rfl

theorem framesObserved_tornDown (c : Controller) :
    c.tornDown.framesObserved = c.framesObserved := by
  rw [framesObserved, framesObserved, log_tornDown]
  cases c.log with
  | none => rfl
  | some id => exact c.count_tornDown id

theorem recorded_finish (c : Controller) : Scenario.recorded c.finish = Scenario.recorded c := by
  have logs : c.tornDown.bench.log? = c.bench.log? := by
    funext id
    rw [Bench.log?, logs_tornDown]
    rfl
  rw [finish_eq, Scenario.recorded, Scenario.recorded, log_tornDown, logs]

theorem count_recorded (c : Controller) : (Scenario.recorded c).count = c.framesObserved := by
  rw [Scenario.recorded, framesObserved]
  cases c.log with
  | none => rfl
  | some id =>
    change ((c.bench.log? id).getD _).count = (c.bench.log? id).elim 0 _
    cases c.bench.log? id <;> rfl

namespace Sustained

variable {α : Type} {act : Attempt Controller α}

theorem log_eq (sustained : Sustained act) (c : Controller) : (act c).2.log = c.log := by
  have effect := sustained c
  generalize act c = result at effect
  cases effect with
  | live => rfl
  | stalled => rfl

theorem count_le (sustained : Sustained act) (c : Controller) (id : LogId) :
    c.bench.count id ≤ (act c).2.bench.count id := by
  have effect := sustained c
  generalize act c = result at effect
  cases effect with
  | live outcome phase evolves => exact evolves.count_le id
  | @stalled requested observed limit bench evolves =>
    rw [stalledAt, count_tornDown]
    exact evolves.count_le id

theorem framesObserved_le (sustained : Sustained act) (c : Controller) :
    c.framesObserved ≤ (act c).2.framesObserved := by
  rw [framesObserved, framesObserved, sustained.log_eq]
  cases c.log with
  | none => exact Nat.le_refl 0
  | some id => exact sustained.count_le c id

end Sustained

end Controller

namespace Operation

def frames : Operation → Nat
  | .collect frames _ | .collectWithin frames _ _ => frames
  | _ => 0

theorem framesObserved_collectWithin {frames timeoutMs : Nat} {expected : Bool} {w : Window}
    {c c' : Controller}
    (done : Controller.collectWithin frames expected timeoutMs c = (.ok w, c')) :
    c.framesObserved + frames ≤ c'.framesObserved := by
  have grows := (Controller.Sustained.collectWithin frames expected timeoutMs).framesObserved_le c
  have kept := (Controller.Sustained.collectWithin frames expected timeoutMs).log_eq c
  rw [done] at grows kept
  obtain ⟨log, present, waited, _⟩ := Controller.collectWithin_done done
  rw [Controller.framesObserved, Controller.framesObserved, kept, present] at grows ⊢
  dsimp only [Option.elim] at grows ⊢
  omega

theorem framesObserved_run {op : Operation} (later : ∀ field, op ≠ .beginStreaming field)
    {c c' : Controller} {r : Reply} (done : op.run c = (.ok r, c')) :
    c.framesObserved + op.frames ≤ c'.framesObserved := by
  have grows := (run_sustained later).framesObserved_le c
  rw [done] at grows
  cases op with
  | collect frames expected =>
    obtain ⟨w, collected, _⟩ := Attempt.ok_of_map done
    rw [Controller.collect_apply] at collected
    exact framesObserved_collectWithin collected
  | collectWithin frames expected timeoutMs =>
    obtain ⟨w, collected, _⟩ := Attempt.ok_of_map done
    exact framesObserved_collectWithin collected
  | _ => exact grows

end Operation

namespace Plan

def Later (plan : Plan) : Prop := ∀ op ∈ plan, ∀ field, op ≠ .beginStreaming field

theorem framesObserved_run {plan : Plan} (later : plan.Later) {c c' : Controller}
    (done : plan.run c = (.ok (), c')) :
    c.framesObserved + (plan.map (·.frames)).sum ≤ c'.framesObserved := by
  induction plan generalizing c with
  | nil =>
    cases done
    exact Nat.le_refl _
  | cons op rest ih =>
    have first := later op List.mem_cons_self
    have others : Later rest := fun op' member => later op' (List.mem_cons_of_mem op member)
    rw [run_cons] at done
    rcases ran : op.run c with ⟨failure | r, c₁⟩ <;> rw [ran] at done
    · cases done
    · have here := Operation.framesObserved_run first ran
      have there := ih others done
      rw [List.map_cons, List.sum_cons]
      omega

end Plan

namespace RapidToggle

theorem togglePlan_later (settings : Settings) (left : Nat) (on : Bool) :
    Plan.Later (togglePlan settings left on) := by
  induction left generalizing on with
  | zero =>
    intro op member
    cases member
  | succ left ih =>
    intro op member field same
    rw [togglePlan, windowPlan, List.mem_cons, List.mem_cons, List.mem_append, List.mem_singleton]
      at member
    rcases member with rfl | rfl | rfl | rest
    · cases same
    · cases same
    · cases same
    · exact ih (!on) op rest field same

theorem sum_frames_togglePlan (settings : Settings) (left : Nat) (on : Bool) :
    ((togglePlan settings left on).map (·.frames)).sum =
      left * settings.rapidToggle.framesPerState := by
  induction left generalizing on with
  | zero => rw [Nat.zero_mul]; rfl
  | succ left ih =>
    simp only [togglePlan, windowPlan, List.map_cons, List.map_append, List.sum_cons,
      List.sum_append, List.map_nil, List.sum_nil, ih, Nat.succ_mul]
    change 0 + (0 + (settings.rapidToggle.framesPerState + 0 + _)) = _
    omega

theorem windowsPlan_later (settings : Settings) (toggles : Nat) :
    Plan.Later (windowsPlan settings toggles) := by
  cases toggles with
  | zero =>
    intro op member
    cases member
  | succ left =>
    intro op member field same
    rw [windowsPlan, windowPlan, List.mem_append, List.mem_singleton] at member
    rcases member with rfl | rest
    · cases same
    · exact togglePlan_later settings left false op rest field same

theorem sum_frames_windowsPlan (settings : Settings) (toggles : Nat) :
    ((windowsPlan settings toggles).map (·.frames)).sum =
      toggles * settings.rapidToggle.framesPerState := by
  cases toggles with
  | zero => rw [Nat.zero_mul]; rfl
  | succ left =>
    rw [windowsPlan, List.map_append, List.sum_append, sum_frames_togglePlan, Nat.succ_mul,
      Nat.add_comm]
    rfl

theorem toggledFrames_le {settings : Settings} {mode : ExposureMode} {c c' : Controller}
    (done : (Experiment.rapidToggle mode).driven settings c = (.ok (), c')) :
    settings.rapidToggle.toggles * settings.rapidToggle.framesPerState ≤ c'.framesObserved := by
  rw [Experiment.driven] at done
  split at done
  next plan made =>
    obtain ⟨first, _, rfl⟩ := ok_of_map made
    rw [Plan.run_append] at done
    split at done
    next c₁ _ =>
      rw [Plan.run_append] at done
      split at done
      next c₂ _ =>
        have collected := Plan.framesObserved_run (windowsPlan_later settings _) done
        rw [sum_frames_windowsPlan] at collected
        exact Nat.le_trans (Nat.le_add_left _ _) collected
      · cases done
    · cases done
  · cases done

/-- What is required may have wrapped, and is then less than the frames of all the windows. -/
theorem requiredFrames_le {settings : Settings} {mode : ExposureMode} {c c' : Controller}
    (done : (Experiment.rapidToggle mode).driven settings c = (.ok (), c')) :
    requiredFrames settings ≤ c'.framesObserved :=
  (countProduct_le _ _).trans (toggledFrames_le done)

end RapidToggle

namespace Plan.Step

/-- The frames of an operation's window that contradict the state expected of them. -/
def contradictions (s : Step) : Nat :=
  s.window?.elim 0 fun w => ((Scenario.recorded s.after).slice w.start w.stop).countP
    (·.contradicts w.expected)

def check (s : Step) : Consistency :=
  s.window?.elim {} fun w =>
    .ofEvents w.expected ((Scenario.recorded s.after).slice w.start w.stop)

theorem mismatches_check (s : Step) : s.check.mismatches = s.contradictions := by
  rw [check, contradictions]
  cases s.window? <;> rfl

end Plan.Step

namespace Plan

def contradictions (plan : Plan) (c : Controller) : Nat :=
  ((plan.steps c).map (·.contradictions)).sum

theorem contradictions_append (first second : Plan) (c : Controller) :
    (first ++ second).contradictions c = first.contradictions c + match first.run c with
      | (.ok _, c') => second.contradictions c'
      | (.error _, _) => 0 := by
  rw [contradictions, steps_append, List.map_append, List.sum_append]
  rcases first.run c with ⟨_ | _, _⟩ <;> rfl

theorem contradictions_eq_zero {plan : Plan} {c : Controller} :
    plan.contradictions c = 0 ↔ ∀ s ∈ plan.steps c, s.contradictions = 0 := by
  rw [contradictions, List.sum_eq_zero_iff_forall_eq_nat]
  exact List.forall_mem_map

theorem contradictions_singleton (op : Operation) (c : Controller) :
    contradictions [op] c = Step.contradictions ⟨op, c⟩ := by
  rw [contradictions, steps_singleton, List.map_singleton, List.sum_singleton]

theorem operation_mem {plan : Plan} {c : Controller} {s : Step} (member : s ∈ plan.steps c) :
    s.operation ∈ plan := by
  induction plan generalizing c with
  | nil => cases member
  | cons op rest ih =>
    rcases ran : op.run c with ⟨failure | r, c'⟩
    · rw [steps_cons_of_error rest ran, List.mem_singleton] at member
      rw [member]
      exact List.mem_cons_self
    · rw [steps_cons_of_ok rest ran, List.mem_cons] at member
      rcases member with rfl | later
      · exact List.mem_cons_self
      · exact List.mem_cons_of_mem op (ih later)

end Plan

def Operation.Quiet : Operation → Prop
  | .collect .. | .collectWithin .. => False
  | _ => True

theorem Plan.Step.window?_of_quiet {s : Step} (quiet : s.operation.Quiet) : s.window? = none := by
  rcases s with ⟨op, c⟩
  rw [window?, outcome]
  cases op with
  | collect => cases quiet
  | collectWithin => cases quiet
  | _ =>
    rw [Operation.run, Attempt.map_apply]
    split
    next w answered =>
      obtain ⟨_, _, same⟩ := ok_of_map answered
      cases same
    · rfl

theorem Plan.Step.contradictions_of_quiet {s : Step} (quiet : s.operation.Quiet) :
    s.contradictions = 0 := by
  rw [contradictions, window?_of_quiet quiet]
  rfl

theorem Plan.Step.check_of_quiet {s : Step} (quiet : s.operation.Quiet) : s.check = {} := by
  rw [check, window?_of_quiet quiet]
  rfl

theorem Plan.contradictions_of_quiet {plan : Plan} (quiet : ∀ op ∈ plan, op.Quiet)
    (c : Controller) :
    plan.contradictions c = 0 :=
  contradictions_eq_zero.mpr fun _ member => Step.contradictions_of_quiet
    (quiet _ (operation_mem member))

theorem Plan.mergeAll_of_quiet {plan : Plan} (quiet : ∀ op ∈ plan, op.Quiet) (c : Controller) :
    Consistency.mergeAll ((plan.steps c).map (·.check)) = {} := by
  have unchecked : ∀ s ∈ plan.steps c, s.check = {} := fun s member =>
    Step.check_of_quiet (quiet _ (operation_mem member))
  generalize plan.steps c = steps at unchecked
  induction steps with
  | nil => rfl
  | cons s rest ih =>
    obtain ⟨first, others⟩ := List.forall_mem_cons.mp unchecked
    rw [List.map_cons, Consistency.mergeAll_cons, first, ih others, Consistency.empty_merge]

theorem Scenario.modePlan_quiet {mode : ExposureMode} {device : Device} {plan : Plan}
    (chosen : modePlan mode device = .ok plan) : ∀ op ∈ plan, op.Quiet := by
  rw [modePlan] at chosen
  split at chosen
  · cases chosen
    exact List.forall_mem_singleton.mpr trivial
  · split at chosen
    · cases chosen
      exact List.forall_mem_nil _
    · cases chosen

namespace RapidToggle

open Attempt (Notes)

/-- A run of toggles on a stream that follows a plan and merges the checks of its windows. -/
abbrev Tallies {α : Type} (log : LogId) (act : Attempt Run α) (plan : Plan) (r : Run) : Prop :=
  Notes (·.controller) (·.checks) (fun checks s => checks.merge s.check) (·.log = some log) act
    plan r

variable {settings : Settings} {log : LogId}

theorem control_tallies {α : Type} {act : Attempt Controller α} {f : α → Operation.Reply}
    (op : Operation) (runs : op.run = f <$> act) (quiet : op.Quiet)
    (sustained : Controller.Sustained act) {r : Run} (streams : r.controller.log = some log) :
    Tallies log (control act) [op] r := by
  apply Notes.op op runs
  · intro _ _
    rfl
  · intro _ _
    rfl
  · have silent : Plan.Step.check ⟨op, r.controller⟩ = {} := Plan.Step.check_of_quiet quiet
    simp only [silent, Consistency.merge_empty]
  · exact (sustained.log_eq r.controller).trans streams

theorem verify_tallies (on : Bool) {r : Run} (streams : r.controller.log = some log) :
    Tallies log (verify settings log on) (windowPlan settings on) r := by
  have kept :=
    (Controller.Sustained.collect settings.rapidToggle.framesPerState on).log_eq r.controller
  refine ⟨verify_follows settings log on r, ?_, ?_⟩
  · rw [verify, Attempt.bind_apply, control, Attempt.within_apply]
    rcases ran : Controller.collect settings.rapidToggle.framesPerState on r.controller
      with ⟨failure | w, c'⟩ <;>
      rw [ran] at kept <;> exact kept.trans streams
  · rw [windowPlan, Plan.steps_singleton, List.foldl_cons, List.foldl_nil, Plan.Step.check,
      Plan.Step.window?, Plan.Step.outcome, Plan.Step.after, Operation.run, Attempt.map_apply,
      verify, Attempt.bind_apply, control, Attempt.within_apply]
    rcases ran : Controller.collect settings.rapidToggle.framesPerState on r.controller
      with ⟨failure | w, c'⟩ <;>
      rw [ran] at kept
    · exact (Consistency.merge_empty _).symm
    · have expected : w.expected = on := by
        rw [Controller.collect_apply] at ran
        obtain ⟨_, _, _, rfl, _⟩ := Controller.collectWithin_done ran
        rfl
      have recorded : (Scenario.recorded c').slice w.start w.stop =
          (c'.bench.log? log).elim [] (·.slice w.start w.stop) := by
        rw [Scenario.recorded, kept.trans streams]
        change ((c'.bench.log? log).getD _).slice w.start w.stop = _
        cases c'.bench.log? log with
        | none => simp [FrameLog.slice]
        | some recorded => rfl
      change r.checks.merge (Consistency.check _ 0 _ on) =
        r.checks.merge (.ofEvents w.expected ((Scenario.recorded c').slice w.start w.stop))
      rw [Consistency.check_all, recorded, expected]

theorem toggle_tallies (left : Nat) (on : Bool) {r : Run} (streams : r.controller.log = some log) :
    Tallies log (toggle settings log left on) (togglePlan settings left on) r := by
  induction left generalizing on r with
  | zero => exact .pure streams ()
  | succ left ih =>
    have switches : ∀ {r : Run}, r.controller.log = some log →
        Tallies log (control (Controller.setAutoExposure on)) [.setAutoExposure on] r :=
      control_tallies (.setAutoExposure on) rfl trivial (Controller.Sustained.request _ _)
    have settles : ∀ {r : Run}, r.controller.log = some log →
        Tallies log (control (Controller.stabilize settings.rapidToggle.framesBetweenToggles))
          [.stabilize settings.rapidToggle.framesBetweenToggles] r :=
      control_tallies (.stabilize _) rfl trivial (Controller.Sustained.stabilize _)
    exact (switches streams).bind fun _ _ _ streams => (settles streams).bind fun _ _ _ streams =>
      (verify_tallies on streams).bind fun _ _ _ streams => ih (!on) streams

theorem windows_tallies (toggles : Nat) {r : Run} (streams : r.controller.log = some log) :
    Tallies log (windows settings log toggles) (windowsPlan settings toggles) r := by
  cases toggles with
  | zero => exact .pure streams ()
  | succ left => exact (verify_tallies true streams).bind fun _ _ _ streams =>
    toggle_tallies left false streams

theorem prelude_streams {mode : ExposureMode} {c c' : Controller}
    (done : prelude settings mode c = (.ok log, c')) : c'.log = some log := by
  obtain ⟨_, c₁, _, done⟩ := Attempt.ok_of_bind done
  obtain ⟨id, c₂, began, done⟩ := Attempt.ok_of_bind done
  obtain ⟨_, c₃, requested, done⟩ := Attempt.ok_of_bind done
  obtain ⟨_, c₄, warmed, done⟩ := Attempt.ok_of_bind done
  cases done
  obtain ⟨_, _, _, _, _, present, _⟩ := Controller.beginStreaming_done began
  have switched :=
    (Controller.Sustained.request .enableAutoExposure (if true then 1 else 0)).log_eq c₂
  have slept := (Controller.Sustained.warmUp settings.rapidToggle.warmupMs).log_eq c₃
  rw [show Controller.request .enableAutoExposure (if true then 1 else 0) c₂ = _ from requested]
    at switched
  rw [warmed] at slept
  rw [slept, switched, present]

/-- A run of toggles merges the checks of the windows of its plan. -/
theorem checks_driven (settings : Settings) {mode : ExposureMode} {c : Controller} {plan : Plan}
    (made : (Experiment.rapidToggle mode).plan settings c.session.profile c.device = .ok plan) :
    (driven settings mode c).1.2 = .mergeAll ((plan.steps c).map (·.check)) := by
  obtain ⟨first, chosen, rfl⟩ := ok_of_map made
  have followed : ((prelude settings mode c).1.map fun _ => (), (prelude settings mode c).2) =
      (first ++ warmUpPlan settings).run c := prelude_follows settings mode c chosen
  have quiet : ∀ op ∈ first ++ warmUpPlan settings, op.Quiet := by
    refine List.forall_mem_append.mpr ⟨Scenario.modePlan_quiet chosen, ?_⟩
    simp [warmUpPlan, Operation.setAutoExposure, Operation.Quiet]
  have unchecked := Plan.mergeAll_of_quiet quiet c
  change (drive settings mode { controller := c }).2.checks = _
  rw [drive_eq, Attempt.bind_apply, control, Attempt.within_apply, ← List.append_assoc,
    Plan.steps_append, List.map_append, Consistency.mergeAll_append, unchecked,
    Consistency.empty_merge, ← followed]
  rcases warmed : prelude settings mode c with ⟨failure | log, c'⟩
  · rfl
  · have tallied : Tallies log (windows settings log settings.rapidToggle.toggles)
        (windowsPlan settings settings.rapidToggle.toggles) { controller := c' } :=
      windows_tallies _ (prelude_streams warmed)
    exact tallied.noted.trans List.foldl_map.symm

theorem mismatches_driven (settings : Settings) {mode : ExposureMode} {c : Controller} {plan : Plan}
    (made : (Experiment.rapidToggle mode).plan settings c.session.profile c.device = .ok plan) :
    (driven settings mode c).1.2.mismatches = plan.contradictions c := by
  rw [checks_driven settings made, Consistency.mismatches_mergeAll, List.map_map]
  exact congrArg List.sum (List.map_congr_left fun s _ => s.mismatches_check)

end RapidToggle

theorem SteadyState.contradictions_drive {settings : Settings} {on : Bool} {mode : ExposureMode}
    {c c' : Controller} {w : Window} {plan : Plan}
    (made : (Experiment.steadyState on mode).plan settings c.session.profile c.device = .ok plan)
    (done : drive settings on mode c = (.ok w, c')) :
    plan.contradictions c = ((Scenario.recorded c').slice w.start w.stop).countP
      (·.contradicts w.expected) := by
  obtain ⟨first, chosen, rfl⟩ := ok_of_map made
  have followed : ((prelude on mode c).1.map fun _ => (), (prelude on mode c).2) =
      (first ++ preludePlan on).run c :=
    prelude_follows on mode c chosen
  have quiet : ∀ op ∈ first ++ preludePlan on, op.Quiet := by
    refine List.forall_mem_append.mpr ⟨?_, by simp [preludePlan, Operation.Quiet]⟩
    split at chosen
    · exact Scenario.modePlan_quiet chosen
    · cases chosen
      exact List.forall_mem_nil _
  have uncounted := Plan.contradictions_of_quiet quiet c
  rw [drive_eq] at done
  obtain ⟨_, c₁, prepared, collected⟩ := Attempt.ok_of_bind done
  rw [prepared] at followed
  have answered : Operation.run
      (.collectWithin settings.steadyState.frames on settings.steadyState.timeoutMs) c₁ =
        (.ok (.window w), c') := by
    rw [Operation.run, Attempt.map_apply, collected]
    rfl
  rw [← List.append_assoc, Plan.contradictions_append, uncounted, ← followed, Nat.zero_add]
  change Plan.contradictions (windowPlan settings on) c₁ = _
  rw [windowPlan, Plan.contradictions_singleton, Plan.Step.contradictions, Plan.Step.window?,
    Plan.Step.outcome, Plan.Step.after, answered]
  rfl

namespace ExtremeRecovery

open Attempt (Triple)

theorem spikeCount_le (a : TimingAnalyzer) (ts : Array Float) (start : Nat) :
    a.spikeCount ts start ≤ ts.size := by
  calc
    a.spikeCount ts start ≤ (gapEnds ts start ts.size).length := List.countP_le_length
    _ = min ts.size ts.size - (start + 1) := List.length_range'
    _ ≤ ts.size := by omega

theorem size_timestampsFrom (log : FrameLog) (start : Nat) :
    (log.timestampsFrom start).size = log.count - start := by
  rw [FrameLog.timestampsFrom_eq_extract, Array.size_map, Array.size_extract]
  exact congrArg (· - start) (Nat.min_self _)

def Bounded (log : LogId) (frames : Nat) (r : Run) : Prop :=
  r.controller.log = some log ∧ r.totals.spikes ≤ frames ∧ frames ≤ r.controller.bench.count log

def Modest (r : Run) : Prop := r.totals.spikes ≤ r.controller.framesObserved

theorem Bounded.modest {log : LogId} {frames : Nat} {r : Run} (bounded : Bounded log frames r) :
    Modest r := by
  obtain ⟨streams, spikes, grown⟩ := bounded
  rw [Modest, Controller.framesObserved, streams]
  exact Nat.le_trans spikes grown

theorem control_bounded {α : Type} {act : Attempt Controller α}
    (sustained : Controller.Sustained act) (log : LogId) (frames : Nat) :
    Triple (Bounded log frames) (control act) (fun _ => Bounded log frames) Modest := by
  rintro r ⟨streams, spikes, grown⟩
  have kept := sustained.log_eq r.controller
  have grows := sustained.count_le r.controller log
  have bounded : Bounded log frames { r with controller := (act r.controller).2 } :=
    ⟨kept.trans streams, spikes, Nat.le_trans grown grows⟩
  rw [control, Attempt.within_apply]
  generalize act r.controller = result at bounded ⊢
  rcases result with ⟨failure | a, c'⟩
  · exact bounded.modest
  · exact bounded

theorem iterate_modest (settings : Settings) (a : TimingAnalyzer) (log : LogId) (exposure : Float)
    (left : Nat) :
    Triple (fun r => ∃ frames, Bounded log frames r) (iterate settings a log exposure left)
      (fun _ => Modest)
      Modest := by
  induction left with
  | zero =>
    rintro r ⟨frames, bounded⟩
    exact bounded.modest
  | succ left ih =>
    rintro r ⟨frames, bounded⟩
    suffices triple : Triple (Bounded log frames) (iterate settings a log exposure (left + 1))
      (fun _ => Modest)
      Modest from triple r bounded
    apply (control_bounded (Controller.Sustained.request _ _) log frames).bind
    intro _
    apply (control_bounded (Controller.Sustained.request _ _) log frames).bind
    intro _
    apply (control_bounded (Controller.Sustained.hold _) log frames).bind
    intro _
    have noted : Triple (Bounded log frames) get
        (fun before r => Bounded log (before.controller.bench.count log) r) Modest := by
      rintro r ⟨streams, spikes, grown⟩
      exact ⟨streams, Nat.le_trans spikes grown, Nat.le_refl _⟩
    apply noted.bind
    intro before
    apply (control_bounded (Controller.Sustained.request _ _) log _).bind
    intro _
    apply (control_bounded (Controller.Sustained.hold _) log _).bind
    intro _
    refine Triple.bind (Q := fun _ r => ∃ frames, Bounded log frames r) ?_ fun _ => ih
    rintro r ⟨streams, spikes, grown⟩
    refine ⟨r.controller.bench.count log, streams, ?_, Nat.le_refl _⟩
    generalize before.controller.bench.count log = start at spikes grown ⊢
    have measured :
        a.spikeCount ((r.controller.bench.log? log).elim #[] (·.timestampsFrom start)) 0 ≤
          r.controller.bench.count log - start := by
      rw [Bench.count]
      cases r.controller.bench.log? log with
      | none => exact Nat.le_trans (spikeCount_le a #[] 0) (Nat.zero_le _)
      | some recorded =>
        calc
          a.spikeCount (recorded.timestampsFrom start) 0 ≤ (recorded.timestampsFrom start).size :=
            spikeCount_le a _ 0
          _ = recorded.count - start := size_timestampsFrom recorded start
    change r.totals.spikes + a.spikeCount _ 0 ≤ _
    omega

theorem driven_modest (settings : Settings) (c : Controller) :
    (driven settings c).1.2.spikes ≤ (driven settings c).2.framesObserved := by
  change Modest (drive settings _ { controller := c }).2
  rw [drive_apply]
  rcases exposure? settings c.session.profile c.device with failure | exposure
  · exact Nat.zero_le _
  · dsimp only
    rw [Attempt.bind_apply, control, Attempt.within_apply]
    rcases began : Controller.beginStreaming .autoExposure c with ⟨failure | log, c'⟩
    · exact Nat.zero_le _
    · obtain ⟨_, _, _, _, _, streams, _⟩ := Controller.beginStreaming_done began
      have modest :=
        iterate_modest settings (Scenario.analyzerFor c.session.profile settings) log exposure
        settings.extremeRecovery.iterations { controller := c' }
          ⟨0, streams, Nat.le_refl 0, Nat.zero_le _⟩
      dsimp only
      generalize iterate settings _ log exposure _ _ = result at modest ⊢
      rcases result with ⟨failure | _, r⟩
      · exact modest
      · exact modest

end ExtremeRecovery

end ExposureBench
