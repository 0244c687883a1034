import ExposureBench.Proofs.Experiment

/-!
No operation is ever asked for out of turn; so each succeeds exactly if it is granted, and none
fails as a skip.
-/

namespace ExposureBench

def Controller.Awaits (c : Controller) (frames timeoutMs : Nat) : Prop :=
  ∃ log, c.log = some log ∧ (c.barrier.wait log frames timeoutMs c.bench).1.isSatisfied

namespace Operation

/-- The open, the start, the write and the read-back that an operation makes are accepted, the value
read back is the one requested, and the frames that it waits for come. -/
def Granted : Operation → Controller → Prop
  | .beginStreaming field, c =>
    (c.bench.openWith c.session.profile).1.isOk ∧
      ((c.bench.openWith c.session.profile).2.start field).1.isOk
  | .request option value, c => (c.bench.set option value).1.isOk
  | .requestConfirmed option value, c =>
    (c.bench.set option value).1.isOk ∧ ∃ actual,
      (c.bench.set option value).2.device.get option = .ok actual ∧
      ¬ Controller.tolerance < (actual - value).abs
  | .settleNow, _ | .warmUp _, _ => True
  | .stabilize frames, c | .collect frames _, c => c.Awaits frames c.timeoutMs
  | .collectWithin frames _ timeoutMs, c => c.Awaits frames timeoutMs
  | .hold ms, c => ∃ log, c.log = some log ∧ c.bench.count log < (c.bench.sleep ms).count log

end Operation

inductive Progress where
  | idle
  | requested
  | settled
  deriving DecidableEq, Repr

/-- The progress of a change; a stabilizing controller is never seen between two operations, and a
stalled one makes no more. -/
def Phase.progress? : Phase → Option Progress
  | .idle => some .idle
  | .requested .. => some .requested
  | .settled _ => some .settled
  | .stabilizing _ | .stalled .. => none

/-- How far an experiment has come. -/
structure Stage where
  streaming : Bool
  progress : Progress
  deriving DecidableEq, Repr

structure Stage.Holds (stage : Stage) (c : Controller) : Prop where
  session : if stage.streaming then c.log.isSome else c.session.state = .closed
  progress : c.phase.progress? = some stage.progress

theorem Stage.Holds.moves {stage : Stage} {c : Controller} (holds : stage.Holds c) {phase : Phase}
    {progress : Progress} (reached : phase.progress? = some progress) (bench : Bench) :
    ({ stage with progress } : Stage).Holds ((c.withBench bench).inPhase phase) :=
  ⟨holds.session, reached⟩

/-- The stage after an operation, if it may be asked for at this one. -/
def Operation.next? : Operation → Stage → Option Stage
  | .beginStreaming _, ⟨false, progress⟩ => some ⟨true, progress⟩
  | .request .., stage | .requestConfirmed .., stage => some { stage with progress := .requested }
  | .settleNow, stage | .warmUp _, stage => some { stage with progress := .settled }
  | .stabilize _, ⟨true, .requested⟩ | .hold _, ⟨true, _⟩ => some ⟨true, .settled⟩
  | .collect .., ⟨true, .settled⟩ | .collectWithin .., ⟨true, .settled⟩ => some ⟨true, .settled⟩
  | _, _ => none

/-- Success exactly if granted; a failure is no skip. -/
def Answered {α : Type} (granted : Prop) : Except Failure α → Prop
  | .ok _ => granted
  | .error failure => ¬ granted ∧ failure.isSkip = false

theorem answered_map {α β : Type} {granted : Prop} {outcome : Except Failure α} (f : α → β) :
    Answered granted (outcome.map f) ↔ Answered granted outcome := by
  cases outcome <;> exact Iff.rfl

def Stage.Answers {α : Type} (granted : Prop) (stage : Stage) : Except Failure α × Controller → Prop
  | (.ok _, c) => granted ∧ stage.Holds c
  | (.error failure, _) => ¬ granted ∧ failure.isSkip = false

theorem Stage.Answers.map {α β : Type} {granted : Prop} {stage : Stage}
    {result : Except Failure α × Controller} (answers : stage.Answers granted result) (f : α → β) :
    stage.Answers granted (result.1.map f, result.2) := by
  rcases result with ⟨failure | a, c⟩
  · exact answers
  · exact answers

namespace Phase

variable {phase : Phase} {progress : Progress}

theorem canTransition_requested (reached : phase.progress? = some progress) (option : DeviceOption)
    (value : Float) :
    phase.canTransition (.requested option value) := by
  cases phase <;> first | rfl | cases reached

theorem canTransition_settled (reached : phase.progress? = some progress) (frames : Nat) :
    phase.canTransition (.settled frames) := by
  cases phase <;> first | rfl | cases reached

theorem canTransition_stabilizing (reached : phase.progress? = some .requested) (frames : Nat) :
    phase.canTransition (.stabilizing frames) := by
  cases phase <;> first | rfl | cases reached

theorem isSettled_of_progress (reached : phase.progress? = some .settled) : phase.isSettled := by
  cases phase <;> first | rfl | cases reached

end Phase

namespace Controller

variable {stage : Stage} {c : Controller}

theorem beginStreaming_answers {progress : Progress} (holds : Stage.Holds ⟨false, progress⟩ c)
    (field : MetadataField) :
    Stage.Answers (Operation.Granted (.beginStreaming field) c) ⟨true, progress⟩
      (beginStreaming field c) := by
  have closed : c.session.state = .closed := holds.session
  have begin := beginStreaming_begins field c
  generalize beginStreaming field c = result at begin
  cases begin with
  | begun id _ opens starts =>
    refine ⟨?_, rfl, holds.progress⟩
    rw [Operation.Granted, opens, starts]
    exact ⟨rfl, rfl⟩
  | unopened _ opens =>
    constructor
    · rw [Operation.Granted, opens]
      intro granted
      exact Bool.noConfusion granted.1
    · rfl
  | unstarted _ opens starts =>
    constructor
    · rw [Operation.Granted, opens, starts]
      intro granted
      exact Bool.noConfusion granted.2
    · rfl
  | reopened busy => exact absurd closed busy

theorem request_answers (holds : stage.Holds c) (option : DeviceOption) (value : Float) :
    Stage.Answers (Operation.Granted (.request option value) c)
      { stage with progress := .requested }
      (request option value c) := by
  have can := Phase.canTransition_requested holds.progress option value
  rw [request_apply, if_pos can, Operation.Granted]
  rcases c.bench.set option value with ⟨fault | _, bench⟩
  · exact ⟨Bool.noConfusion, rfl⟩
  · exact ⟨rfl, holds.moves rfl bench⟩

theorem requestConfirmed_answers (holds : stage.Holds c) (option : DeviceOption) (value : Float) :
    Stage.Answers (Operation.Granted (.requestConfirmed option value) c)
      { stage with progress := .requested }
      (requestConfirmed option value c) := by
  have can := Phase.canTransition_requested holds.progress option value
  rw [requestConfirmed_apply, request_apply, if_pos can, Operation.Granted]
  rcases c.bench.set option value with ⟨fault | _, bench⟩
  · exact ⟨fun granted => Bool.noConfusion granted.1, rfl⟩
  · dsimp only [Except.mapError]
    rw [confirm_apply]
    have device : ((c.inPhase (.requested option value)).withBench bench).device = bench.device :=
      rfl
    rw [device]
    rcases read : bench.device.get option with fault | actual
    · constructor
      · rintro ⟨_, actual, reads, _⟩
        cases reads
      · rfl
    · by_cases far : tolerance < (actual - value).abs
      · simp only [if_pos far]
        constructor
        · rintro ⟨_, _, reads, near⟩
          cases reads
          exact near far
        · rfl
      · simp only [if_neg far]
        exact ⟨⟨rfl, actual, rfl, far⟩, holds.moves rfl bench⟩

theorem settleNow_answers (holds : stage.Holds c) :
    Stage.Answers True { stage with progress := .settled } (settleNow c) := by
  have can := Phase.canTransition_settled holds.progress c.framesObserved
  rw [settleNow_apply, transition_apply, if_pos can]
  exact ⟨trivial, holds.moves rfl c.bench⟩

theorem warmUp_answers (holds : stage.Holds c) (ms : Nat) :
    Stage.Answers True { stage with progress := .settled } (warmUp ms c) := by
  have can :=
    Phase.canTransition_settled holds.progress (c.withBench (c.bench.sleep ms)).framesObserved
  rw [warmUp_apply]
  dsimp only
  rw [if_pos can]
  exact ⟨trivial, holds.moves rfl _⟩

theorem await_awaits {log : LogId} (present : c.log = some log) (frames timeoutMs : Nat) :
    (c.Awaits frames timeoutMs ∧ ∃ bench, await log frames timeoutMs c =
      (.ok (), c.withBench bench)) ∨
      (¬ c.Awaits frames timeoutMs ∧
        ∃ failure c', await log frames timeoutMs c = (.error failure, c') ∧
          failure.isSkip = false) := by
  rw [await_apply]
  dsimp only
  by_cases satisfied : (c.barrier.wait log frames timeoutMs c.bench).1.isSatisfied
  · rw [if_pos satisfied]
    exact .inl ⟨⟨log, present, satisfied⟩, _, rfl⟩
  · rw [if_neg satisfied]
    refine .inr ⟨?_, _, _, rfl, rfl⟩
    rintro ⟨log', present', granted⟩
    cases present.symm.trans present'
    exact satisfied granted

theorem stabilize_answers (holds : Stage.Holds ⟨true, .requested⟩ c) (frames : Nat) :
    Stage.Answers (c.Awaits frames c.timeoutMs) ⟨true, .settled⟩ (stabilize frames c) := by
  obtain ⟨log, present⟩ := Option.isSome_iff_exists.mp holds.session
  have can := Phase.canTransition_stabilizing holds.progress frames
  have awaited : (c.inPhase (.stabilizing frames)).log = some log := present
  rw [stabilize_apply, present]
  dsimp only
  rw [if_pos can]
  rcases await_awaits awaited frames c.timeoutMs
    with ⟨granted, bench, done⟩ | ⟨refused, failure, c', failed, plain⟩
  · rw [done]
    dsimp only
    rw [transition_apply]
    exact ⟨granted, holds.moves rfl bench⟩
  · rw [failed]
    exact ⟨refused, plain⟩

theorem collectWithin_answers (holds : Stage.Holds ⟨true, .settled⟩ c) (frames : Nat)
    (expected : Bool) (timeoutMs : Nat) :
    Stage.Answers (c.Awaits frames timeoutMs) ⟨true, .settled⟩
      (collectWithin frames expected timeoutMs c) := by
  obtain ⟨log, present⟩ := Option.isSome_iff_exists.mp holds.session
  rw [collectWithin_apply, if_pos (Phase.isSettled_of_progress holds.progress), present]
  dsimp only
  rcases await_awaits present frames timeoutMs
    with ⟨granted, bench, done⟩ | ⟨refused, failure, c', failed, plain⟩
  · rw [done]
    exact ⟨granted, holds.session, holds.progress⟩
  · rw [failed]
    exact ⟨refused, plain⟩

theorem hold_answers {progress : Progress} (holds : Stage.Holds ⟨true, progress⟩ c) (ms : Nat) :
    Stage.Answers (Operation.Granted (.hold ms) c) ⟨true, .settled⟩ (hold ms c) := by
  obtain ⟨log, present⟩ := Option.isSome_iff_exists.mp holds.session
  have can := Phase.canTransition_settled holds.progress ((c.bench.sleep ms).count log)
  have granted : Operation.Granted (.hold ms) c ↔
      c.bench.count log < (c.bench.sleep ms).count log := by
    constructor
    · rintro ⟨log', present', more⟩
      cases present.symm.trans present'
      exact more
    · intro more
      exact ⟨log, present, more⟩
  rw [hold_apply, present]
  dsimp only
  by_cases stopped : (c.withBench (c.bench.sleep ms)).bench.count log - c.bench.count log = 0
  · rw [if_pos stopped]
    rw [bench_withBench] at stopped
    refine ⟨fun grants => ?_, rfl⟩
    have more := granted.mp grants
    omega
  · rw [if_neg stopped, transition_apply, phase_withBench, bench_withBench, if_pos can]
    rw [bench_withBench] at stopped
    exact ⟨granted.mpr (by omega), holds.moves rfl _⟩

end Controller

theorem Operation.run_answers {op : Operation} {stage stage' : Stage} {c : Controller}
    (next : op.next? stage = some stage') (holds : stage.Holds c) :
    stage'.Answers (op.Granted c) (op.run c) := by
  rcases stage with ⟨streaming, progress⟩
  cases op with
  | beginStreaming field =>
    cases streaming <;> cases next
    rw [run, Attempt.map_apply]
    exact (Controller.beginStreaming_answers holds field).map _
  | request option value =>
    cases next
    rw [run, Attempt.map_apply]
    exact (Controller.request_answers holds option value).map _
  | requestConfirmed option value =>
    cases next
    rw [run, Attempt.map_apply]
    exact (Controller.requestConfirmed_answers holds option value).map _
  | settleNow =>
    cases next
    rw [run, Attempt.map_apply]
    exact (Controller.settleNow_answers holds).map _
  | warmUp ms =>
    cases next
    rw [run, Attempt.map_apply]
    exact (Controller.warmUp_answers holds ms).map _
  | stabilize frames =>
    cases streaming <;> cases progress <;> cases next
    rw [run, Attempt.map_apply]
    exact (Controller.stabilize_answers holds frames).map _
  | collect frames expected =>
    cases streaming <;> cases progress <;> cases next
    rw [run, Attempt.map_apply, Controller.collect_apply]
    exact (Controller.collectWithin_answers holds frames expected c.timeoutMs).map _
  | collectWithin frames expected timeoutMs =>
    cases streaming <;> cases progress <;> cases next
    rw [run, Attempt.map_apply]
    exact (Controller.collectWithin_answers holds frames expected timeoutMs).map _
  | hold ms =>
    cases streaming <;> cases next
    rw [run, Attempt.map_apply]
    exact (Controller.hold_answers holds ms).map _

namespace Plan

def end? : Plan → Stage → Option Stage
  | [], stage => some stage
  | op :: rest, stage => (op.next? stage).bind (end? rest)

theorem end?_append (first second : Plan) (stage : Stage) :
    (first ++ second).end? stage = (first.end? stage).bind second.end? := by
  induction first generalizing stage with
  | nil => rfl
  | cons op rest ih =>
    change (op.next? stage).bind (end? (rest ++ second)) =
      ((op.next? stage).bind (end? rest)).bind _
    cases op.next? stage with
    | none => rfl
    | some stage' => exact ih stage'

theorem run_answers {plan : Plan} {stage stage' : Stage} {c : Controller}
    (ends : plan.end? stage = some stage') (holds : stage.Holds c) :
    stage'.Answers (∀ s ∈ plan.steps c, s.operation.Granted s.before) (plan.run c) := by
  induction plan generalizing stage c with
  | nil =>
    cases ends
    constructor
    · intro s member
      cases member
    · exact holds
  | cons op rest ih =>
    obtain ⟨middle, next, ends⟩ := Option.bind_eq_some_iff.mp ends
    have answers := Operation.run_answers next holds
    rw [run_cons]
    rcases ran : op.run c with ⟨failure | r, c'⟩
    · rw [ran] at answers
      rw [steps_cons_of_error rest ran, List.forall_mem_singleton]
      exact answers
    · rw [ran] at answers
      rw [steps_cons_of_ok rest ran, List.forall_mem_cons]
      have later := ih ends answers.2
      dsimp only
      generalize Plan.run rest c' = result at later ⊢
      rcases result with ⟨failure | _, c''⟩
      · exact ⟨fun granted => later.1 granted.2, later.2⟩
      · exact ⟨⟨answers.1, later.1⟩, later.2⟩

end Plan

namespace RapidToggle

theorem togglePlan_end (settings : Settings) (left : Nat) (on : Bool) :
    Plan.end? (togglePlan settings left on) ⟨true, .settled⟩ = some ⟨true, .settled⟩ := by
  induction left generalizing on with
  | zero => rfl
  | succ left ih => exact ih (!on)

theorem windowsPlan_end (settings : Settings) (toggles : Nat) :
    Plan.end? (windowsPlan settings toggles) ⟨true, .settled⟩ = some ⟨true, .settled⟩ := by
  cases toggles with
  | zero => rfl
  | succ left => exact togglePlan_end settings left false

end RapidToggle

theorem ExtremeRecovery.iterationsPlan_end (settings : Settings) (exposure : Float) (left : Nat)
    (progress : Progress) :
    ∃ stage, Plan.end? (iterationsPlan settings exposure left) ⟨true, progress⟩ = some stage := by
  induction left generalizing progress with
  | zero => exact ⟨_, rfl⟩
  | succ left ih => exact ih .settled

theorem Scenario.modePlan_end {mode : ExposureMode} {device : Device} {plan : Plan}
    (chosen : modePlan mode device = .ok plan) :
    ∃ progress, plan.end? ⟨false, .idle⟩ = some ⟨false, progress⟩ := by
  rw [modePlan] at chosen
  split at chosen
  · cases chosen
    exact ⟨.requested, rfl⟩
  · split at chosen
    · cases chosen
      exact ⟨.idle, rfl⟩
    · cases chosen

theorem Scenario.modePlan_isOk {mode : ExposureMode} {device : Device}
    (capable : device.supports .autoExposureMode ∨ mode = .regular) :
    ∃ plan, modePlan mode device = .ok plan := by
  rw [modePlan]
  split
  · exact ⟨_, rfl⟩
  · rcases capable with supported | regular
    · contradiction
    · rw [if_pos regular]
      exact ⟨_, rfl⟩

theorem ok_of_map {ε α β : Type} {f : α → β} {outcome : Except ε α} {b : β}
    (mapped : outcome.map f = .ok b) :
    ∃ a, outcome = .ok a ∧ f a = b := by
  cases outcome with
  | error failure => cases mapped
  | ok a =>
    cases mapped
    exact ⟨a, rfl, rfl⟩

theorem error_of_map {ε α β : Type} {f : α → β} {outcome : Except ε α} {err : ε}
    (mapped : outcome.map f = .error err) : outcome = .error err := by
  cases outcome with
  | error =>
    cases mapped
    rfl
  | ok a => cases mapped

namespace Experiment

theorem plan_end {settings : Settings} {profile : StreamProfile} {device : Device} {e : Experiment}
    {plan : Plan} (made : e.plan settings profile device = .ok plan) :
    ∃ stage, plan.end? ⟨false, .idle⟩ = some stage := by
  cases e with
  | baseline =>
    cases made
    exact ⟨_, rfl⟩
  | steadyState on mode =>
    obtain ⟨first, chosen, rfl⟩ := ok_of_map made
    have moded : ∃ progress, first.end? ⟨false, .idle⟩ = some ⟨false, progress⟩ := by
      split at chosen
      · exact Scenario.modePlan_end chosen
      · cases chosen
        exact ⟨.idle, rfl⟩
    obtain ⟨progress, ends⟩ := moded
    refine ⟨⟨true, .settled⟩, ?_⟩
    rw [Plan.end?_append, ends]
    rfl
  | rapidToggle mode =>
    obtain ⟨first, chosen, rfl⟩ := ok_of_map made
    obtain ⟨progress, ends⟩ := Scenario.modePlan_end chosen
    refine ⟨⟨true, .settled⟩, ?_⟩
    rw [Plan.end?_append, ends, Option.bind_some, Plan.end?_append]
    exact RapidToggle.windowsPlan_end settings _
  | extremeRecovery =>
    obtain ⟨exposure, _, rfl⟩ := ok_of_map made
    exact ExtremeRecovery.iterationsPlan_end settings exposure _ .idle

/-- What an experiment needs of its device before anything is asked of it. -/
def Capable (device : Device) : Experiment → Prop
  | .baseline | .steadyState false _ => True
  | .steadyState true mode | .rapidToggle mode => device.supports .autoExposureMode ∨
    mode = .regular
  | .extremeRecovery => device.supports .exposure

def steps (settings : Settings) (e : Experiment) (c : Controller) : List Plan.Step :=
  match e.plan settings c.session.profile c.device with
  | .ok plan => plan.steps c
  | .error _ => []

/-- The range that an experiment reads first and every operation that it comes to are granted. -/
structure Granted (settings : Settings) (e : Experiment) (c : Controller) : Prop where
  range : e = .extremeRecovery → (c.device.range .exposure).isOk
  operations : ∀ s ∈ e.steps settings c, s.operation.Granted s.before

theorem plan_of_capable (settings : Settings) (profile : StreamProfile) {device : Device}
    {e : Experiment} (capable : e.Capable device) :
    (∃ plan, e.plan settings profile device = .ok plan ∧
      (e = .extremeRecovery → (device.range .exposure).isOk)) ∨
      ∃ fault, e.plan settings profile device = .error (.device fault) ∧ e = .extremeRecovery ∧
        device.range .exposure = .error fault := by
  cases e with
  | baseline => exact .inl ⟨_, rfl, fun other => nomatch other⟩
  | steadyState on mode =>
    have moded : ∃ first, (if on then Scenario.modePlan mode device else .ok []) = .ok first := by
      cases on with
      | false => exact ⟨[], rfl⟩
      | true => exact Scenario.modePlan_isOk capable
    obtain ⟨first, chosen⟩ := moded
    exact .inl
      ⟨_, congrArg
        (Except.map (· ++ (SteadyState.preludePlan on ++ SteadyState.windowPlan settings on)))
          chosen, fun other => nomatch other⟩
  | rapidToggle mode =>
    obtain ⟨first, chosen⟩ := Scenario.modePlan_isOk capable
    have made := congrArg (Except.map (· ++ (RapidToggle.warmUpPlan settings ++
      RapidToggle.windowsPlan settings settings.rapidToggle.toggles))) chosen
    exact .inl ⟨_, made, fun other => nomatch other⟩
  | extremeRecovery =>
    have supported : device.supports .exposure := capable
    rcases read : device.range .exposure with fault | range
    · refine .inr ⟨fault, ?_, rfl, rfl⟩
      rw [plan, ExtremeRecovery.exposure?, if_pos supported, read]
      rfl
    · have readable : ∃ exposure, ExtremeRecovery.exposure? settings profile device =
          .ok exposure := by
        rw [ExtremeRecovery.exposure?, if_pos supported, read]
        exact ⟨_, rfl⟩
      obtain ⟨exposure, chosen⟩ := readable
      have made := congrArg (Except.map fun exposure => .beginStreaming .autoExposure ::
        ExtremeRecovery.iterationsPlan settings exposure settings.extremeRecovery.iterations) chosen
      exact .inl ⟨_, made, fun _ => rfl⟩

/-- An experiment on a capable device is carried out exactly if all it asks for is granted, and
never skipped. -/
theorem driven_answers {settings : Settings} {e : Experiment} {c : Controller}
    (closed : c.session.state = .closed) (idle : c.phase = .idle) (capable : e.Capable c.device) :
    Answered (e.Granted settings c) (e.driven settings c).1 := by
  rcases plan_of_capable settings c.session.profile capable
    with ⟨plan, made, range⟩ | ⟨fault, failed, extreme, unread⟩
  · obtain ⟨stage, ends⟩ := plan_end made
    have fresh : Stage.Holds ⟨false, .idle⟩ c := ⟨closed, by rw [idle]; rfl⟩
    have answers := Plan.run_answers ends fresh
    have same : e.steps settings c = plan.steps c := by rw [steps, made]
    rw [driven, made]
    dsimp only
    generalize plan.run c = result at answers ⊢
    rcases result with ⟨failure | _, c'⟩
    · refine ⟨fun granted => answers.1 ?_, answers.2⟩
      rw [← same]
      exact granted.operations
    · refine ⟨range, ?_⟩
      rw [same]
      exact answers.1
  · rw [driven, failed]
    refine ⟨fun granted => ?_, rfl⟩
    have read := granted.range extreme
    rw [unread] at read
    cases read

end Experiment

end ExposureBench
