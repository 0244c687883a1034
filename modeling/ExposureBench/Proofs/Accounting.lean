import ExposureBench.Proofs.Diagnostics
import ExposureBench.Proofs.Waiting
import ExposureBench.Proofs.Windows

namespace ExposureBench

namespace Controller

variable {c c' : Controller}

theorem accepted?_of_warmUp {option : DeviceOption} {ms frames : Nat}
    (done : warmUp ms c = (.ok frames, c')) :
    c'.bench.accepted? option = c.bench.accepted? option := by
  rw [warmUp_done done]
  exact Bench.accepted?_of_calls (c.bench.calls_sleep ms)

theorem accepted?_of_stabilize {option : DeviceOption} {frames : Nat}
    (done : stabilize frames c = (.ok (), c')) :
    c'.bench.accepted? option = c.bench.accepted? option := by
  obtain ⟨log, _, _, same⟩ := stabilize_done done
  rw [same]
  apply Bench.accepted?_of_calls
  rw [bench_inPhase, bench_withBench, (c.barrier.wait_ends log frames c.timeoutMs c.bench).2,
    Bench.calls_sleep]

theorem framesObserved_stabilize {frames : Nat} (done : stabilize frames c = (.ok (), c')) :
    c.framesObserved + frames ≤ c'.framesObserved := by
  have grows := (Sustained.stabilize frames).framesObserved_le c
  have kept := (Sustained.stabilize frames).log_eq c
  rw [done] at grows kept
  obtain ⟨log, present, waited, _⟩ := stabilize_done done
  rw [framesObserved, framesObserved, kept, present] at grows ⊢
  dsimp only [Option.elim] at grows ⊢
  omega

end Controller

namespace RapidToggle

/-- A window of enough frames for the state that the device accepted last. -/
structure Verifies (settings : Settings) (v : Plan.Collection) : Prop where
  frames : settings.rapidToggle.framesPerState ≤ v.window.length
  expected : ∃ value, v.step.before.bench.accepted? .enableAutoExposure = some value ∧
    v.window.expected = (value != 0)

variable {settings : Settings}

theorem verifies_of_collect {v : Plan.Collection} {on : Bool} {c : Controller}
    (step : v.step = ⟨.collect settings.rapidToggle.framesPerState on, c⟩)
    (accepted : c.bench.accepted? .enableAutoExposure = some (if on then 1 else 0)) :
    Verifies settings v := by
  have frames := v.frames_le_length
  have expected := v.expected_eq
  rw [step] at frames expected
  have found : v.step.before = c := by rw [step]
  refine ⟨frames, _, found ▸ accepted, ?_⟩
  cases expected
  cases v.window.expected <;> decide

theorem togglePlan_verifies (settings : Settings) (left : Nat) (on : Bool)
    (switched c : Controller) :
    ∀ v ∈ Plan.collections switched (Plan.steps (togglePlan settings left on) c),
      Verifies settings v ∧
        v.switched.framesObserved + settings.rapidToggle.framesBetweenToggles ≤
          v.window.start := by
  induction left generalizing on switched c with
  | zero =>
    intro v member
    cases member
  | succ left ih =>
    intro v member
    rw [togglePlan, windowPlan, List.singleton_append] at member
    rcases Plan.mem_collections_cons member with ⟨_, step⟩ | ⟨_, c₁, requested, member⟩
    · exact absurd step (v.step_ne (.setAutoExposure on) trivial c)
    rcases Plan.mem_collections_cons member with ⟨_, step⟩ | ⟨_, c₂, stabilized, member⟩
    · exact absurd step (v.step_ne (.stabilize _) trivial c₁)
    rcases Plan.mem_collections_cons member with ⟨switch, step⟩ | ⟨_, c₃, _, member⟩
    · obtain ⟨_, requested, _⟩ := Attempt.ok_of_map requested
      obtain ⟨_, stabilized, _⟩ := Attempt.ok_of_map stabilized
      have grows := (Controller.Sustained.request .enableAutoExposure
        (if on then 1 else 0)).framesObserved_le c
      have passed := Controller.framesObserved_stabilize stabilized
      rw [requested] at grows
      constructor
      · apply verifies_of_collect step
        rw [Controller.accepted?_of_stabilize stabilized,
          Controller.accepted?_of_request requested]
      · rw [v.start_eq, step, switch]
        exact Nat.le_trans (Nat.add_le_add_right grows _) passed
    · exact ih (!on) _ c₃ v member

theorem windowsPlan_verifies (toggles : Nat) (switched : Controller) {c : Controller}
    (accepted : c.bench.accepted? .enableAutoExposure = some 1) :
    (∀ v ∈ Plan.collections switched (Plan.steps (windowsPlan settings toggles) c),
      Verifies settings v) ∧
      ∀ v ∈ (Plan.collections switched (Plan.steps (windowsPlan settings toggles) c)).tail,
        v.switched.framesObserved + settings.rapidToggle.framesBetweenToggles ≤
          v.window.start := by
  cases toggles with
  | zero => exact ⟨List.forall_mem_nil _, List.forall_mem_nil _⟩
  | succ left =>
    rw [windowsPlan, windowPlan, List.singleton_append]
    rcases ran : Operation.run (.collect settings.rapidToggle.framesPerState true) c
      with ⟨failure | r, c₁⟩
    · have uncollected : Plan.Step.window?
          ⟨.collect settings.rapidToggle.framesPerState true, c⟩ = none := by
        rw [Plan.Step.window?, Plan.Step.outcome]
        simp only [ran]
      have none := Plan.Collection.of?_of_none switched uncollected
      rw [Plan.steps_cons_of_error _ ran, Plan.collections, Plan.sinceSwitch,
        List.filterMap_cons_none none]
      exact ⟨List.forall_mem_nil _, List.forall_mem_nil _⟩
    · obtain ⟨w, collected⟩ := Option.isSome_iff_exists.mp (Plan.Step.window?_isSome rfl ran)
      have later := togglePlan_verifies settings left false switched c₁
      rw [Plan.steps_cons_of_ok _ ran, Plan.collections_cons_of_some collected]
      constructor
      · exact List.forall_mem_cons.mpr
          ⟨verifies_of_collect rfl accepted, fun v member => (later v member).1⟩
      · exact fun v member => (later v member).2

theorem prelude_accepted {mode : ExposureMode} {log : LogId} {c c' : Controller}
    (done : prelude settings mode c = (.ok log, c')) :
    c'.bench.accepted? .enableAutoExposure = some 1 := by
  obtain ⟨_, c₁, _, done⟩ := Attempt.ok_of_bind done
  obtain ⟨_, c₂, _, done⟩ := Attempt.ok_of_bind done
  obtain ⟨_, c₃, requested, done⟩ := Attempt.ok_of_bind done
  obtain ⟨_, c₄, warmed, done⟩ := Attempt.ok_of_bind done
  cases done
  rw [Controller.accepted?_of_warmUp warmed]
  exact Controller.accepted?_of_request requested

theorem countP_togglePlan (left : Nat) (on : Bool) :
    (togglePlan settings left on).countP (·.expected?.isSome) = left := by
  induction left generalizing on with
  | zero => rfl
  | succ left ih =>
    rw [togglePlan, windowPlan, List.singleton_append, List.countP_cons, List.countP_cons,
      List.countP_cons, ih]
    rfl

theorem countP_windowsPlan (toggles : Nat) :
    (windowsPlan settings toggles).countP (·.expected?.isSome) = toggles := by
  cases toggles with
  | zero => rfl
  | succ left =>
    rw [windowsPlan, windowPlan, List.singleton_append, List.countP_cons, countP_togglePlan]
    rfl

/-- The windows account for what a drive has checked. -/
structure Accounts (settings : Settings) (windows : List Plan.Collection)
    (driven : (Except Failure Unit × Consistency) × Controller) : Prop where
  ordered : windows.Pairwise fun v w => v.window.stop ≤ w.window.start
  inside : ∀ v ∈ windows, v.window.stop ≤ driven.2.framesObserved
  verifies : ∀ v ∈ windows, Verifies settings v
  spaced : ∀ v ∈ windows.tail,
    v.switched.framesObserved + settings.rapidToggle.framesBetweenToggles ≤ v.window.start
  checks : driven.1.2 = .mergeAll (windows.map fun v =>
    .ofEvents v.window.expected (v.events (Scenario.recorded driven.2)))
  complete : driven.1.1 = .ok () → windows.length = settings.rapidToggle.toggles

theorem accounts_nil {failure : Failure} {c : Controller} :
    Accounts settings [] ((.error failure, {}), c) where
  ordered := .nil
  inside := List.forall_mem_nil _
  verifies := List.forall_mem_nil _
  spaced := List.forall_mem_nil _
  checks := rfl
  complete := fun done => nomatch done

theorem accepted_of_warmed {mode : ExposureMode} {first : Plan} {c c' : Controller}
    (chosen : Scenario.modePlan mode c.device = .ok first)
    (warmed : (first ++ warmUpPlan settings).run c = (.ok (), c')) :
    c'.bench.accepted? .enableAutoExposure = some 1 := by
  have follows := prelude_follows settings mode c chosen
  unfold Attempt.Follows at follows
  dsimp only [id] at follows
  rcases ran : prelude settings mode c with ⟨failure | log, c₁⟩ <;>
    rw [ran, warmed] at follows <;> cases follows
  exact prelude_accepted ran

theorem windowsPlan_accounts (settings : Settings) (switched : Controller) {c : Controller}
    (accepted : c.bench.accepted? .enableAutoExposure = some 1) :
    let plan := windowsPlan settings settings.rapidToggle.toggles
    Accounts settings (Plan.collections switched (plan.steps c))
      (((plan.run c).1, .mergeAll ((plan.steps c).map (·.check))), (plan.run c).2) := by
  intro plan
  have later : plan.Later := windowsPlan_later settings settings.rapidToggle.toggles
  obtain ⟨verifies, spaced⟩ :=
    windowsPlan_verifies settings.rapidToggle.toggles switched accepted
  refine ⟨later.collections_ordered switched c, ?_, verifies, spaced, ?_, ?_⟩
  · intro v member
    exact later.stop_le switched c member
  · exact later.mergeAll_checks switched c
  · intro done
    have ran : plan.run c = (.ok (), (plan.run c).2) := Prod.ext done rfl
    rw [Plan.length_collections ran, countP_windowsPlan]

theorem driven_accounts (settings : Settings) (mode : ExposureMode) (c : Controller) :
    Accounts settings (Plan.collections c ((Experiment.rapidToggle mode).steps settings c))
      (driven settings mode c) := by
  rcases chosen : Scenario.modePlan mode c.device with failure | first
  · have stops := drive_of_unmoded settings (r := { controller := c }) chosen
    have none : (Experiment.rapidToggle mode).steps settings c = [] := by
      rw [Experiment.steps, Experiment.plan, chosen]
      rfl
    rw [none, driven, stops]
    exact accounts_nil
  · have made : (Experiment.rapidToggle mode).plan settings c.session.profile c.device =
        .ok (first ++ warmUpPlan settings ++
          windowsPlan settings settings.rapidToggle.toggles) := by
      rw [Experiment.plan, chosen, List.append_assoc]
      rfl
    have followed := driven_eq settings mode c
    have checks := checks_driven settings made
    have quiet : ∀ op ∈ first ++ warmUpPlan settings, op.Quiet := by
      refine List.forall_mem_append.mpr ⟨Scenario.modePlan_quiet chosen, ?_⟩
      simp [warmUpPlan, Operation.setAutoExposure, Operation.Quiet]
    have unasked : ∀ s ∈ Plan.steps (first ++ warmUpPlan settings) c, s.operation.Quiet :=
      fun s member => quiet _ (Plan.operation_mem member)
    have result : driven settings mode c = (((driven settings mode c).1.1,
        (driven settings mode c).1.2), (driven settings mode c).2) := rfl
    rw [Experiment.driven, made] at followed
    dsimp only at followed
    rw [Plan.steps_append, List.map_append, Consistency.mergeAll_append,
      Plan.mergeAll_of_quiet quiet, Consistency.empty_merge] at checks
    rw [Plan.run_append] at followed
    rw [Experiment.steps, made]
    dsimp only
    rw [Plan.steps_append, result, checks]
    rcases ran : (first ++ warmUpPlan settings).run c with ⟨failure | _, c₁⟩ <;>
      rw [ran] at followed <;> obtain ⟨outcome, final⟩ := Prod.mk.inj followed <;>
      rw [outcome, final]
    · obtain ⟨_, none⟩ := Plan.collections_append_of_quiet c [] unasked
      rw [none]
      exact accounts_nil
    · obtain ⟨switched, same⟩ := Plan.collections_append_of_quiet c
        (Plan.steps (windowsPlan settings settings.rapidToggle.toggles) c₁) unasked
      rw [same]
      exact windowsPlan_accounts settings switched (accepted_of_warmed chosen ran)

section Accounts

variable {windows : List Plan.Collection} {driven : (Except Failure Unit × Consistency) × Controller}
    (accounts : Accounts settings windows driven)
    (numbered : (Scenario.recorded driven.2).Numbered)

include accounts

theorem Accounts.windows_ordered :
    (windows.map (·.window)).Pairwise fun v w => v.stop ≤ w.start :=
  List.pairwise_map.mpr accounts.ordered

include numbered

theorem Accounts.length_events_le :
    (windows.flatMap (·.events (Scenario.recorded driven.2))).length ≤
      driven.2.framesObserved := by
  have inside := numbered.length_flatMap_slice accounts.windows_ordered
  rw [List.flatMap_map, Controller.count_recorded] at inside
  exact inside

theorem Accounts.firstMismatch_eq :
    driven.1.2.firstMismatch = ((Consistency.contradicting (·.window.expected)
      (·.events (Scenario.recorded driven.2)) windows).map (·.sequence)).min? := by
  have increasing := numbered.flatMap_slice accounts.windows_ordered
  rw [List.flatMap_map] at increasing
  have sorted := increasing.sublist ((Consistency.contradicting_sublist (·.window.expected)
    (·.events (Scenario.recorded driven.2)) windows).map (·.sequence))
  rw [accounts.checks, Consistency.mergeAll_map, List.min?_eq_head?, List.head?_map]
  exact sorted.imp fun {_ _} less => Nat.min_eq_left (Nat.le_of_lt less)

end Accounts

/-- The windows that a run of toggles verifies, also if a later step fails. -/
def verified (settings : Settings) (mode : ExposureMode) (b : Bench) : List Plan.Collection :=
  match settings.profile.select? b.device.profiles with
  | none => []
  | some s =>
    let c := Scenario.controllerFor b s.profile settings
    Plan.collections c ((Experiment.rapidToggle mode).steps settings c)

/-- The frames of the windows, in the log of their stream, that contradict what was requested. -/
def contradicting (windows : List Plan.Collection) (log : FrameLog) : List FrameEvent :=
  Consistency.contradicting (·.window.expected) (·.events log) windows

def reporting (windows : List Plan.Collection) (log : FrameLog) : List FrameEvent :=
  (windows.flatMap (·.events log)).filter (·.flag.isSome)

/-- A verdict that accounts for windows in the log of a stream, frame by frame. -/
structure Exact (settings : Settings) (windows : List Plan.Collection) (log : FrameLog)
    (verdict : Verdict) : Prop where
  field : log.field = .autoExposure
  observed : verdict.framesObserved = log.count
  ordered : windows.Pairwise fun v w => v.window.stop ≤ w.window.start
  inside : ∀ v ∈ windows, v.window.stop ≤ log.count
  verifies : ∀ v ∈ windows, Verifies settings v
  spaced : ∀ v ∈ windows.tail,
    v.switched.framesObserved + settings.rapidToggle.framesBetweenToggles ≤ v.window.start
  counted : verdict.metadataMismatches = (contradicting windows log).length
  told : ∀ mismatches compared first,
    .metadataMismatch mismatches compared first ∈ verdict.diagnostics ↔
      0 < (contradicting windows log).length ∧ mismatches = (contradicting windows log).length ∧
        compared = (reporting windows log).length ∧
        first = ((contradicting windows log).map (·.sequence)).min?
  compared_le : (contradicting windows log).length ≤ (reporting windows log).length ∧
    (reporting windows log).length ≤ verdict.framesObserved
  enough : ∀ expected observed, .frameShortfall expected observed ∉ verdict.diagnostics

theorem toggledFrames_le_driven {mode : ExposureMode} {c : Controller}
    (done : (driven settings mode c).1.1 = .ok ()) :
    settings.rapidToggle.toggles * settings.rapidToggle.framesPerState ≤
      (driven settings mode c).2.framesObserved := by
  have drives : (Experiment.rapidToggle mode).driven settings c =
      (.ok (), (driven settings mode c).2) := by
    rw [← driven_eq, done]
  exact toggledFrames_le drives

theorem judge_exact {settings : Settings} {mode : ExposureMode} {c : Controller}
    (unbegun : c.log = none) (baseline : Option BaselineSummary) (profile : StreamProfile)
    {v : Verdict} (observed : v.framesObserved = (driven settings mode c).2.framesObserved)
    (unmatched : ∀ mismatches compared first,
      .metadataMismatch mismatches compared first ∉ v.diagnostics)
    (unshort : ∀ expected observed, .frameShortfall expected observed ∉ v.diagnostics) :
    Exact settings (Plan.collections c ((Experiment.rapidToggle mode).steps settings c))
      (Scenario.recorded (driven settings mode c).2)
      (judge settings baseline profile (driven settings mode c).1
        (Scenario.recorded (driven settings mode c).2) v) := by
  have accounts := driven_accounts settings mode c
  have followed := congrArg Prod.snd (driven_eq settings mode c)
  have recorded : (Scenario.recorded (driven settings mode c).2).Numbered ∧
      (Scenario.recorded (driven settings mode c).2).field = .autoExposure := by
    have streamed := (Experiment.rapidToggle mode).driven_streamed settings unbegun
    rw [← followed] at streamed
    exact streamed.holds ⟨FrameLog.numbered_empty _ _, rfl⟩
  have count := Controller.count_recorded (driven settings mode c).2
  have enough : (driven settings mode c).1.1 = .ok () →
      requiredFrames settings ≤ v.framesObserved := by
    intro done
    rw [observed]
    -- What is required may have wrapped, and is then less than what has been collected.
    exact (countProduct_le _ _).trans (toggledFrames_le_driven done)
  have first := accounts.firstMismatch_eq recorded.1
  have fewer := accounts.length_events_le recorded.1
  have checks := accounts.checks
  rw [Consistency.mergeAll_map] at checks
  have mismatches := congrArg Consistency.mismatches checks
  have compared := congrArg Consistency.compared checks
  dsimp only at mismatches compared
  rw [List.countP_eq_length_filter] at compared
  refine ⟨recorded.2, ?_, accounts.ordered, ?_, accounts.verifies, accounts.spaced, ?_, ?_, ?_, ?_⟩
  · rw [framesObserved_judge, observed, count]
  · intro v member
    rw [count]
    exact accounts.inside v member
  · rw [metadataMismatches_judge, mismatches]
    rfl
  · intro _ _ _
    rw [mismatch_mem_judge (unmatched _ _ _), mismatches, compared, first]
    rfl
  · constructor
    · rw [reporting, ← List.countP_eq_length_filter]
      exact Consistency.length_contradicting_le _ _ _
    · rw [framesObserved_judge, observed]
      exact Nat.le_trans (List.length_filter_le _ _) fewer
  · intro _ _
    exact shortfall_not_mem_judge (unshort _ _) enough

theorem exact_nil (settings : Settings) {v : Verdict} (unobserved : v.framesObserved = 0)
    (uncounted : v.metadataMismatches = 0)
    (unmatched : ∀ mismatches compared first,
      .metadataMismatch mismatches compared first ∉ v.diagnostics)
    (unshort : ∀ expected observed, .frameShortfall expected observed ∉ v.diagnostics) :
    Exact settings [] { field := .autoExposure, origin := 0 } v where
  field := rfl
  observed := unobserved
  ordered := .nil
  inside := List.forall_mem_nil _
  verifies := List.forall_mem_nil _
  spaced := List.forall_mem_nil _
  counted := uncounted
  told := fun _ _ _ => iff_of_false (unmatched _ _ _) fun some => Nat.lt_irrefl 0 some.1
  compared_le := ⟨Nat.le_refl 0, Nat.zero_le _⟩
  enough := unshort

/-- The account of a run of toggles is exact. Its windows come one after another in the log of its
stream, each holds the frames asked for and is checked for the state that the device accepted last,
and between a switch and its window the frames asked for pass. What is told as mismatches are the
frames of the windows that contradict, the one of the smallest number as the first. A run that goes
through has all its windows, and never too few frames. -/
theorem exact_accounting (settings : Settings) (mode : ExposureMode)
    (baseline : Option BaselineSummary) (b : Bench) :
    Exact settings (verified settings mode b)
        (b.recordedSince (run settings mode baseline b).2) (run settings mode baseline b).1 ∧
      ∀ s, settings.profile.select? b.device.profiles = some s →
        (driven settings mode (Scenario.controllerFor b s.profile settings)).1.1 = .ok () →
          (verified settings mode b).length = settings.rapidToggle.toggles ∧
            settings.rapidToggle.toggles * settings.rapidToggle.framesPerState ≤
              (run settings mode baseline b).1.framesObserved := by
  have notes := Scenario.diagnostics_selectProfile b.device settings.profile (name mode)
  have unmatched : ∀ mismatches compared first, .metadataMismatch mismatches compared first ∉
      (Scenario.selectProfile b.device settings.profile { name := name mode }).2.diagnostics := by
    intro mismatches compared first member
    rw [notes] at member
    rcases ProfileQuery.mem_notes member with ⟨_, same⟩ | ⟨_, same⟩ <;> cases same
  have unshort : ∀ expected observed, .frameShortfall expected observed ∉
      (Scenario.selectProfile b.device settings.profile { name := name mode }).2.diagnostics := by
    intro expected observed member
    rw [notes] at member
    rcases ProfileQuery.mem_notes member with ⟨_, same⟩ | ⟨_, same⟩ <;> cases same
  rcases selected : settings.profile.select? b.device.profiles with _ | s
  · have skipped : run settings mode baseline b =
        (({ name := name mode } : Verdict).recordFailure (.noProfile settings.profile), b) := by
      rw [run, Scenario.conduct_eq, selected, Scenario.selectProfile, selected]
    have none : verified settings mode b = [] := by rw [verified, selected]
    have empty : b.recordedSince b = { field := .autoExposure, origin := 0 } := by
      rw [Bench.recordedSince, Bench.log?, Array.getElem?_size, Option.getD_none]
    rw [Scenario.selectProfile, selected] at unmatched unshort
    rw [skipped, none, empty]
    constructor
    · exact exact_nil settings rfl rfl unmatched unshort
    · intro s other
      cases other
  · obtain ⟨c, set⟩ : ∃ c, Scenario.controllerFor b s.profile settings = c := ⟨_, rfl⟩
    have unbegun : c.log = none := by
      rw [← set]
      rfl
    have followed := congrArg Prod.snd (driven_eq settings mode c)
    have recorded : b.recordedSince (run settings mode baseline b).2 =
        Scenario.recorded (driven settings mode c).2 := by
      rw [followed, ← set]
      exact Experiment.recordedSince_run settings baseline (.rapidToggle mode) selected
    have judged := Scenario.conduct_verdict (name mode) settings (driven settings mode)
      (judge settings baseline) selected set
    rw [Controller.recorded_finish] at judged
    have observed : (driven settings mode c).2.finish.framesObserved =
        (driven settings mode c).2.framesObserved := by
      rw [Controller.finish_eq, Controller.framesObserved_tornDown]
    have windows : verified settings mode b =
        Plan.collections c ((Experiment.rapidToggle mode).steps settings c) := by
      simp only [verified, selected, set]
    rw [recorded, windows, run, judged]
    constructor
    · exact judge_exact unbegun baseline s.profile observed unmatched unshort
    · intro s' same done
      cases same
      rw [set] at done
      rw [framesObserved_judge]
      refine ⟨(driven_accounts settings mode c).complete done, ?_⟩
      rw [observed]
      exact toggledFrames_le_driven done

end RapidToggle

end ExposureBench
