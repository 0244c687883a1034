import ExposureBench.Proofs.Protocol
import ExposureBench.Proofs.Stages

/-!
Every operation of an experiment is asked for in turn, so that no guard of the session or the
controller refuses one.
-/

namespace ExposureBench

namespace Controller

/-- The write that this failure tells of is one that the device rejected. -/
def Rejects (c : Controller) (option : DeviceOption) (value : Float) (failure : Failure) : Prop :=
  ∃ fault, (c.bench.set option value).1 = .error fault ∧ failure = .ofRejection option value fault

/-- The wait that this failure tells of ran out. -/
def RunsOut (c : Controller) (frames timeoutMs : Nat) (failure : Failure) : Prop :=
  ∃ log, c.log = some log ∧
    (c.barrier.wait log frames timeoutMs c.bench).1.isSatisfied = false ∧
    failure = .timedOut frames (c.barrier.wait log frames timeoutMs c.bench).1.observed
      (Duration.ofMillis timeoutMs)

end Controller

namespace Operation

/-- The guards that an operation meets let it pass. -/
def Admitted : Operation → Controller → Prop
  | .beginStreaming _, c => c.session.state = .closed
  | .request option value, c | .requestConfirmed option value, c =>
    c.phase.canTransition (.requested option value)
  | .settleNow, c | .warmUp _, c => ∀ frames, c.phase.canTransition (.settled frames)
  | .stabilize frames, c => c.log.isSome ∧ c.phase.canTransition (.stabilizing frames)
  | .collect .., c | .collectWithin .., c => c.log.isSome ∧ c.phase.isSettled
  | .hold _, c => c.log.isSome ∧ ∀ frames, c.phase.canTransition (.settled frames)

theorem admitted_of_next {op : Operation} {stage stage' : Stage} {c : Controller}
    (next : op.next? stage = some stage') (holds : stage.Holds c) : op.Admitted c := by
  rcases stage with ⟨streaming, progress⟩
  have settles := Phase.canTransition_settled holds.progress
  cases op with
  | beginStreaming field =>
    cases streaming <;> cases next
    exact holds.session
  | request option value => exact Phase.canTransition_requested holds.progress option value
  | requestConfirmed option value => exact Phase.canTransition_requested holds.progress option value
  | settleNow => exact settles
  | warmUp ms => exact settles
  | stabilize frames =>
    cases streaming <;> cases progress <;> cases next
    exact ⟨holds.session, Phase.canTransition_stabilizing holds.progress frames⟩
  | collect frames expected =>
    cases streaming <;> cases progress <;> cases next
    exact ⟨holds.session, Phase.isSettled_of_progress holds.progress⟩
  | collectWithin frames expected timeoutMs =>
    cases streaming <;> cases progress <;> cases next
    exact ⟨holds.session, Phase.isSettled_of_progress holds.progress⟩
  | hold ms =>
    cases streaming <;> cases next
    exact ⟨holds.session, settles⟩

/-- What an operation may blame a failure on: the open, the start, the write and the read-back that
it makes, the value read back, and the wait for frames. -/
def Blames : Operation → Controller → Failure → Prop
  | .beginStreaming field, c, failure => ∃ fault, failure = .device fault ∧
    ((c.bench.openWith c.session.profile).1 = .error fault ∨
      (c.bench.openWith c.session.profile).1.isOk ∧
        ((c.bench.openWith c.session.profile).2.start field).1 = .error fault)
  | .request option value, c, failure => c.Rejects option value failure
  | .requestConfirmed option value, c, failure => c.Rejects option value failure ∨
    (c.bench.set option value).1.isOk ∧
      ((∃ fault, (c.bench.set option value).2.device.get option = .error fault ∧
        failure = .device fault) ∨
      ∃ actual, (c.bench.set option value).2.device.get option = .ok actual ∧
        Controller.tolerance < (actual - value).abs ∧ failure = .mismatch option value actual)
  | .settleNow, _, _ | .warmUp _, _, _ => False
  | .stabilize frames, c, failure | .collect frames _, c, failure =>
    c.RunsOut frames c.timeoutMs failure
  | .collectWithin frames _ timeoutMs, c, failure => c.RunsOut frames timeoutMs failure
  | .hold ms, c, failure => ∃ log, c.log = some log ∧
    (c.bench.sleep ms).count log ≤ c.bench.count log ∧
    failure = .timedOut 1 0 (Duration.ofMillis ms)

theorem Blames.not_refused {op : Operation} {c : Controller} {failure : Failure}
    (blames : op.Blames c failure) (step : Refused) : failure ≠ .refused step := by
  rintro rfl
  have runsOut {c : Controller} {frames timeoutMs : Nat} :
      ¬ c.RunsOut frames timeoutMs (.refused step) :=
    fun ⟨_, _, _, told⟩ => nomatch told
  cases op with
  | beginStreaming field => obtain ⟨_, told, _⟩ := blames; cases told
  | request option value => obtain ⟨_, _, told⟩ := blames; cases told
  | requestConfirmed option value =>
    obtain ⟨_, _, told⟩ | ⟨_, ⟨_, _, told⟩ | ⟨_, _, _, told⟩⟩ := blames <;> cases told
  | settleNow => exact blames
  | warmUp ms => exact blames
  | stabilize frames => exact runsOut blames
  | collect frames expected => exact runsOut blames
  | collectWithin frames expected timeoutMs => exact runsOut blames
  | hold ms => obtain ⟨_, _, _, told⟩ := blames; cases told

end Operation

namespace Controller

variable {c : Controller} {failure : Failure}

theorem beginStreaming_blames {field : MetadataField}
    (admitted : Operation.Admitted (.beginStreaming field) c)
    (failed : (beginStreaming field c).1 = .error failure) :
    Operation.Blames (.beginStreaming field) c failure := by
  have begin := beginStreaming_begins field c
  generalize beginStreaming field c = result at begin failed
  cases begin with
  | begun => cases failed
  | unopened _ opens =>
    cases failed
    exact ⟨_, rfl, .inl (by rw [opens])⟩
  | unstarted _ opens starts =>
    cases failed
    exact ⟨_, rfl, .inr ⟨by rw [opens]; rfl, by rw [opens, starts]⟩⟩
  | reopened busy => exact absurd admitted busy

theorem request_blames {option : DeviceOption} {value : Float}
    (can : c.phase.canTransition (.requested option value))
    (failed : (request option value c).1 = .error failure) : c.Rejects option value failure := by
  rw [request_apply, if_pos can] at failed
  rw [Rejects]
  generalize (c.bench.set option value).1 = written at failed ⊢
  cases written with
  | ok => cases failed
  | error fault =>
    cases failed
    exact ⟨fault, rfl, rfl⟩

theorem confirm_blames {option : DeviceOption} {value : Float}
    (failed : (confirm option value c).1 = .error failure) :
    (∃ fault, c.device.get option = .error fault ∧ failure = .device fault) ∨
      ∃ actual, c.device.get option = .ok actual ∧ tolerance < (actual - value).abs ∧
        failure = .mismatch option value actual := by
  rw [confirm_apply] at failed
  rcases read : c.device.get option with fault | actual <;> rw [read] at failed
  · cases failed
    exact .inl ⟨fault, rfl, rfl⟩
  · dsimp only at failed
    split at failed
    next far =>
      cases failed
      exact .inr ⟨actual, rfl, far, rfl⟩
    · cases failed

theorem requestConfirmed_blames {option : DeviceOption} {value : Float}
    (can : c.phase.canTransition (.requested option value))
    (failed : (requestConfirmed option value c).1 = .error failure) :
    Operation.Blames (.requestConfirmed option value) c failure := by
  rcases Attempt.error_of_bind failed with rejected | ⟨_, c', requested, unconfirmed⟩
  · exact .inl (request_blames can rejected)
  · obtain ⟨bench, written, rfl⟩ := request_done requested
    rw [Operation.Blames, written]
    rcases Attempt.error_of_bind unconfirmed with misread | ⟨_, _, _, done⟩
    · exact .inr ⟨rfl, confirm_blames misread⟩
    · cases done

theorem transition_not_error {next : Phase} (can : c.phase.canTransition next) :
    (transition next c).1 ≠ .error failure := by
  rw [transition_apply, if_pos can]
  exact nofun

theorem warmUp_not_error (can : ∀ frames, c.phase.canTransition (.settled frames)) (ms : Nat) :
    (warmUp ms c).1 ≠ .error failure := by
  rw [warmUp_apply]
  dsimp only
  rw [if_pos (can _)]
  exact nofun

theorem await_runsOut {log : LogId} (present : c.log = some log) {frames timeoutMs : Nat}
    (failed : (await log frames timeoutMs c).1 = .error failure) :
    c.RunsOut frames timeoutMs failure := by
  obtain ⟨requested, -⟩ :=
    c.barrier.waitFrom_outcome log frames timeoutMs (c.bench.count log) 0 c.bench
  rw [await_apply] at failed
  dsimp only at failed
  split at failed
  · cases failed
  next unsatisfied =>
    cases failed
    exact ⟨log, present, Bool.eq_false_iff.mpr unsatisfied, by rw [Barrier.wait, requested]⟩

theorem stabilize_blames {frames : Nat} (admitted : Operation.Admitted (.stabilize frames) c)
    (failed : (stabilize frames c).1 = .error failure) : c.RunsOut frames c.timeoutMs failure := by
  obtain ⟨streams, can⟩ := admitted
  obtain ⟨log, present⟩ := Option.isSome_iff_exists.mp streams
  have awaited : (c.inPhase (.stabilizing frames)).log = some log := present
  rw [stabilize_apply, present] at failed
  dsimp only at failed
  rw [if_pos can] at failed
  rcases waited : await log frames c.timeoutMs (c.inPhase (.stabilizing frames))
    with ⟨failure' | ⟨⟩, c'⟩ <;> rw [waited] at failed
  · cases failed
    have ranOut : (c.inPhase (.stabilizing frames)).RunsOut frames c.timeoutMs failure :=
      await_runsOut awaited (by rw [waited])
    exact ranOut
  · obtain ⟨-, rfl⟩ := await_done waited
    -- The wait leaves the phase as it is, and what stabilizes can settle.
    exact absurd failed (transition_not_error rfl)

theorem collectWithin_blames {frames timeoutMs : Nat} {expected : Bool}
    (admitted : Operation.Admitted (.collectWithin frames expected timeoutMs) c)
    (failed : (collectWithin frames expected timeoutMs c).1 = .error failure) :
    c.RunsOut frames timeoutMs failure := by
  obtain ⟨streams, settled⟩ := admitted
  obtain ⟨log, present⟩ := Option.isSome_iff_exists.mp streams
  rw [collectWithin_apply, if_pos settled, present] at failed
  dsimp only at failed
  rcases waited : await log frames timeoutMs c with ⟨failure' | ⟨⟩, c'⟩ <;> rw [waited] at failed
  · cases failed
    exact await_runsOut present (by rw [waited])
  · cases failed

theorem hold_blames {ms : Nat} (admitted : Operation.Admitted (.hold ms) c)
    (failed : (hold ms c).1 = .error failure) : Operation.Blames (.hold ms) c failure := by
  obtain ⟨streams, can⟩ := admitted
  obtain ⟨log, present⟩ := Option.isSome_iff_exists.mp streams
  rw [hold_apply, present] at failed
  dsimp only at failed
  split at failed
  next none =>
    cases failed
    exact ⟨log, present, Nat.sub_eq_zero_iff_le.mp none, rfl⟩
  · rw [transition_apply, phase_withBench, if_pos (can _)] at failed
    cases failed

end Controller

theorem Operation.run_blames {op : Operation} {c : Controller} (admitted : op.Admitted c)
    {failure : Failure} (failed : (op.run c).1 = .error failure) : op.Blames c failure := by
  cases op with
  | beginStreaming field =>
    exact Controller.beginStreaming_blames admitted (Attempt.error_of_map failed)
  | request option value => exact Controller.request_blames admitted (Attempt.error_of_map failed)
  | requestConfirmed option value =>
    exact Controller.requestConfirmed_blames admitted (Attempt.error_of_map failed)
  | settleNow =>
    exact Controller.transition_not_error (admitted _) (Attempt.error_of_map failed)
  | warmUp ms => exact Controller.warmUp_not_error admitted ms (Attempt.error_of_map failed)
  | stabilize frames => exact Controller.stabilize_blames admitted (Attempt.error_of_map failed)
  | collect frames expected =>
    have collects : (Controller.collect frames expected c).1 = .error failure :=
      Attempt.error_of_map failed
    rw [Controller.collect_apply] at collects
    exact Controller.collectWithin_blames admitted collects
  | collectWithin frames expected timeoutMs =>
    exact Controller.collectWithin_blames admitted (Attempt.error_of_map failed)
  | hold ms => exact Controller.hold_blames admitted (Attempt.error_of_map failed)

namespace Plan

theorem run_failed {plan : Plan} {c : Controller} {failure : Failure}
    (failed : (plan.run c).1 = .error failure) :
    ∃ earlier s, plan.steps c = earlier ++ [s] ∧ s.outcome = .error failure := by
  induction plan generalizing c with
  | nil => cases failed
  | cons op rest ih =>
    rw [run_cons] at failed
    rcases ran : op.run c with ⟨failure' | r, c'⟩ <;> rw [ran] at failed
    · cases failed
      refine ⟨[], ⟨op, c⟩, steps_cons_of_error rest ran, ?_⟩
      rw [Step.outcome, ran]
    · obtain ⟨earlier, s, later, outcome⟩ := ih failed
      refine ⟨⟨op, c⟩ :: earlier, s, ?_, outcome⟩
      rw [steps_cons_of_ok rest ran, later, List.cons_append]

theorem steps_admitted {plan : Plan} {stage stage' : Stage} {c : Controller}
    (ends : plan.end? stage = some stage') (holds : stage.Holds c) :
    ∀ s ∈ plan.steps c, s.operation.Admitted s.before := by
  induction plan generalizing stage c with
  | nil =>
    intro s member
    cases member
  | cons op rest ih =>
    obtain ⟨middle, next, ends⟩ := Option.bind_eq_some_iff.mp ends
    have here := Operation.admitted_of_next next holds
    have answers := Operation.run_answers next holds
    rcases ran : op.run c with ⟨failure | r, c'⟩
    · rw [steps_cons_of_error rest ran, List.forall_mem_singleton]
      exact here
    · rw [ran] at answers
      rw [steps_cons_of_ok rest ran, List.forall_mem_cons]
      exact ⟨here, ih ends answers.2⟩

end Plan

namespace Experiment

variable {settings : Settings} {e : Experiment} {c : Controller} {failure : Failure}

theorem plan_failed {profile : StreamProfile} {device : Device}
    (failed : e.plan settings profile device = .error failure) :
    (∃ option, device.supports option = false ∧ failure = .lacksOption option device.name) ∨
      ∃ fault, device.range .exposure = .error fault ∧ failure = .device fault := by
  have unmoded {mode : ExposureMode} {failure : Failure}
      (failed : Scenario.modePlan mode device = .error failure) :
      ∃ option, device.supports option = false ∧ failure = .lacksOption option device.name := by
    rw [Scenario.modePlan] at failed
    split at failed
    · cases failed
    next unsupported =>
    split at failed <;> cases failed
    exact ⟨_, Bool.eq_false_iff.mpr unsupported, rfl⟩
  cases e with
  | baseline => cases failed
  | steadyState on mode =>
    have failed := error_of_map failed
    split at failed
    · exact .inl (unmoded failed)
    · cases failed
  | rapidToggle mode => exact .inl (unmoded (error_of_map failed))
  | extremeRecovery =>
    have failed := error_of_map failed
    rw [ExtremeRecovery.exposure?] at failed
    split at failed
    · split at failed <;> cases failed
      next unread => exact .inr ⟨_, unread, rfl⟩
    next unsupported =>
      cases failed
      exact .inl ⟨_, Bool.eq_false_iff.mpr unsupported, rfl⟩

def outcome (settings : Settings) : Experiment → Controller → Except Failure Unit
  | .baseline, c => (Baseline.drive settings c).1.map fun _ => ()
  | .steadyState on mode, c => (SteadyState.drive settings on mode c).1.map fun _ => ()
  | .rapidToggle mode, c => (RapidToggle.drive settings mode { controller := c }).1
  | .extremeRecovery, c =>
    (ExtremeRecovery.drive settings (Scenario.analyzerFor c.session.profile settings)
      { controller := c }).1

theorem outcome_eq (settings : Settings) (e : Experiment) (c : Controller) :
    e.outcome settings c = (e.driven settings c).1 := by
  cases e with
  | baseline => exact congrArg Prod.fst (Baseline.drive_follows settings c)
  | steadyState on mode => exact congrArg Prod.fst (SteadyState.driven_eq settings on mode c)
  | rapidToggle mode => exact congrArg Prod.fst (RapidToggle.driven_eq settings mode c)
  | extremeRecovery => exact congrArg Prod.fst (ExtremeRecovery.driven_eq settings c)

/-- Where the failure of an experiment comes from. -/
inductive Origin (settings : Settings) (e : Experiment) (c : Controller) (failure : Failure) :
    Prop
  | lacking (option : DeviceOption) (unsupported : c.device.supports option = false)
    (told : failure = .lacksOption option c.device.name)
  | unread (fault : DeviceFault) (read : c.device.range .exposure = .error fault)
    (told : failure = .device fault)
  | step (earlier : List Plan.Step) (s : Plan.Step) (last : e.steps settings c = earlier ++ [s])
    (blames : s.operation.Blames s.before failure)

theorem steps_admitted (settings : Settings) (e : Experiment)
    (closed : c.session.state = .closed) (idle : c.phase = .idle) :
    ∀ s ∈ e.steps settings c, s.operation.Admitted s.before := by
  rw [steps]
  rcases made : e.plan settings c.session.profile c.device with failure | plan
  · intro s member
    cases member
  · obtain ⟨stage, ends⟩ := plan_end made
    exact Plan.steps_admitted ends ⟨closed, by rw [idle]; rfl⟩

theorem driven_origin (closed : c.session.state = .closed) (idle : c.phase = .idle)
    (failed : (e.driven settings c).1 = .error failure) : e.Origin settings c failure := by
  have admitted := e.steps_admitted settings closed idle
  rw [driven] at failed
  rcases made : e.plan settings c.session.profile c.device with failure' | plan <;>
    rw [made] at failed
  · cases failed
    obtain ⟨option, unsupported, told⟩ | ⟨fault, read, told⟩ := plan_failed made
    · exact .lacking option unsupported told
    · exact .unread fault read told
  · obtain ⟨earlier, s, last, outcome⟩ := Plan.run_failed failed
    have planned : e.steps settings c = earlier ++ [s] := by
      rw [steps, made]
      exact last
    have member : s ∈ e.steps settings c := by simp [planned]
    exact .step earlier s planned (Operation.run_blames (admitted s member) outcome)

theorem Origin.not_refused (origin : e.Origin settings c failure) (step : Refused) :
    failure ≠ .refused step := by
  rintro rfl
  cases origin with
  | lacking _ _ told => cases told
  | unread _ _ told => cases told
  | step _ _ _ blames => exact blames.not_refused step rfl

/-- In no experiment does a guard of the session or the controller refuse a step, neither of its
drive nor of the teardown, which would not tell. A drive that fails does so for an option that the
device lacks, a range that it does not tell, or what its last operation may blame. -/
theorem never_refused (settings : Settings) (b : Bench) (profile : StreamProfile)
    (e : Experiment) :
    let c := Scenario.controllerFor b profile settings
    (∀ s ∈ e.steps settings c, s.operation.Admitted s.before ∧
        ∀ step, s.outcome ≠ .error (.refused step)) ∧
      (∀ step, e.outcome settings c ≠ .error (.refused step)) ∧
      (∀ failure, e.outcome settings c = .error failure → e.Origin settings c failure) ∧
      ∀ request : Session.Request, request.ends → ∀ s step,
        (request.run s).1 ≠ .error (.refused step) := by
  intro c
  have admitted : ∀ s ∈ e.steps settings c, s.operation.Admitted s.before :=
    e.steps_admitted settings rfl rfl
  have origin : ∀ failure, e.outcome settings c = .error failure → e.Origin settings c failure := by
    intro failure failed
    rw [outcome_eq] at failed
    exact driven_origin rfl rfl failed
  refine ⟨?_, ?_, origin, ?_⟩
  · intro s member
    refine ⟨admitted s member, fun step refused => ?_⟩
    exact (Operation.run_blames (admitted s member) refused).not_refused step rfl
  · intro step refused
    exact (origin _ refused).not_refused step rfl
  · intro request ends s step
    exact request.run_not_refused ends s step

end Experiment

end ExposureBench
