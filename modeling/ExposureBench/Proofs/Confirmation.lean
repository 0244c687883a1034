import ExposureBench.Proofs.Rate
import ExposureBench.Proofs.Selection

/-!
A value that is read back passes for the one requested unless they are seen to be apart; so one
that is no number passes for any.
-/

namespace ExposureBench

namespace Controller

/-- What passes for the value requested when it is read back. -/
def Passes (value actual : Float) : Prop :=
  (actual - value).abs ≤ tolerance ∨ actual.isNaN ∨ value.isNaN ∨ (actual.isInf ∧ actual == value)

theorem passes_iff {value actual : Float} :
    Passes value actual ↔ ¬ tolerance < (actual - value).abs := by
  rw [Rate.not_lt_iff (by decide +kernel), Rate.isNaN_abs, Rate.isNaN_sub_iff, Passes]

theorem Passes.near {value actual : Float} (passes : Passes value actual)
    (finite : value.isFinite) : (actual - value).abs ≤ tolerance ∨ actual.isNaN := by
  change value.toModel.unpack.isFinite = true at finite
  rcases passes with near | unread | undefined | ⟨infinite, same⟩
  · exact .inl near
  · exact .inr unread
  · change value.toModel.unpack.isNaN = true at undefined
    generalize value.toModel.unpack = y at *
    rcases y with _ | _ | _ | _ <;>
      first | exact Bool.noConfusion finite | exact Bool.noConfusion undefined
  · change actual.toModel.unpack.isInf = true at infinite
    change actual.toModel.unpack.beq value.toModel.unpack = true at same
    generalize actual.toModel.unpack = x at *
    generalize value.toModel.unpack = y at *
    rcases x with (_ | _) | _ | _ | _ <;> rcases y with _ | _ | _ | _ <;>
      first
        | exact Bool.noConfusion finite
        | exact Bool.noConfusion infinite
        | exact Bool.noConfusion same

variable {option : DeviceOption} {value : Float} {c c' : Controller}

theorem requestConfirmed_ok_iff :
    requestConfirmed option value c = (.ok (), c') ↔
      c.phase.canTransition (.requested option value) ∧ ∃ bench actual,
        c.bench.set option value = (.ok (), bench) ∧ bench.device.get option = .ok actual ∧
        Passes value actual ∧ c' = (c.inPhase (.requested option value)).withBench bench := by
  constructor
  · intro done
    obtain ⟨_, c₁, requested, rest⟩ := Attempt.ok_of_bind done
    obtain ⟨actual, c₂, confirmed, rest⟩ := Attempt.ok_of_bind rest
    have can : c.phase.canTransition (.requested option value) := by
      rw [request_apply] at requested
      split at requested
      · assumption
      · cases requested
    obtain ⟨bench, written, rfl⟩ := request_done requested
    obtain ⟨read, near, rfl⟩ := confirm_done confirmed
    cases rest
    exact ⟨can, bench, actual, written, read, passes_iff.mpr near, rfl⟩
  · rintro ⟨can, bench, actual, written, read, passes, rfl⟩
    have read' : ((c.inPhase (.requested option value)).withBench bench).device.get option =
        .ok actual := read
    rw [requestConfirmed_apply, request_apply, if_pos can, written]
    dsimp only [Except.mapError]
    rw [confirm_apply, read']
    dsimp only
    rw [if_neg (passes_iff.mp passes)]
    rfl

theorem Sustained.finish_evolves {α : Type} {act : Attempt Controller α}
    (sustained : Sustained act) (closed : c.session.state = .closed) :
    c.bench.Evolves (act c).2.finish.bench := by
  have effect := sustained c
  generalize act c = result at effect
  cases effect with
  | @live _ bench phase evolves =>
    rw [finish_bench_of_closed (c := (c.withBench bench).inPhase phase) closed]
    exact evolves
  | @stalled requested observed _ bench evolves =>
    rw [stalledAt, finish_tornDown, finish_bench_of_closed
      (c := (c.withBench bench).inPhase (.stalled requested observed)) closed]
    exact evolves

end Controller

namespace Bench

/-- From `b` on, each of the values has been written, accepted and read back, and nothing else has
been asked of the device. -/
inductive Confirms (b : Bench) : List (DeviceOption × Float) → Bench → Prop
  | start : Confirms b [] b
  | next {before : List (DeviceOption × Float)} {b' b'' : Bench} {option : DeviceOption}
      {value actual : Float} (earlier : Confirms b before b')
      (written : b'.set option value = (.ok (), b'')) (read : b''.device.get option = .ok actual)
      (near : (actual - value).abs ≤ Controller.tolerance ∨ actual.isNaN) :
      Confirms b (before ++ [(option, value)]) b''

variable {b b' : Bench} {values : List (DeviceOption × Float)}

theorem Confirms.evolves (confirms : b.Confirms values b') : b.Evolves b' := by
  induction confirms with
  | start => exact .refl
  | @next _ _ _ option value _ _ written _ _ ih =>
    have last := ih.written option value
    rw [written] at last
    exact last

theorem Evolves.lifecycle_eq (evolves : b.Evolves b') {made : List CallRecord}
    (calls : b'.calls.toList = b.calls.toList ++ made) : lifecycle made = [] := by
  obtain ⟨made', calls', none⟩ := b.made_refl.evolves evolves
  cases List.append_cancel_left (calls'.symm.trans calls)
  exact none

end Bench

namespace Plan

def confirming (values : List (DeviceOption × Float)) : Plan :=
  values.map fun entry => .requestConfirmed entry.1 entry.2

theorem run_confirming {values : List (DeviceOption × Float)} (rest : Plan)
    (finite : ∀ entry ∈ values, entry.2.isFinite) {b : Bench} {c : Controller}
    {before : List (DeviceOption × Float)} (confirms : b.Confirms before c.bench)
    (closed : c.session.state = .closed) (unbegun : c.log = none) :
    (∃ c', b.Confirms (before ++ values) c'.bench ∧ c'.log = none ∧
      run (confirming values ++ rest) c = run rest c') ∨
    b.Evolves (run (confirming values ++ rest) c).2.finish.bench := by
  induction values generalizing c before with
  | nil => exact .inl ⟨c, by rwa [List.append_nil], unbegun, rfl⟩
  | cons entry values ih =>
    obtain ⟨option, value⟩ := entry
    obtain ⟨here, others⟩ := List.forall_mem_cons.mp finite
    have first : confirming ((option, value) :: values) ++ rest =
        .requestConfirmed option value :: (confirming values ++ rest) := rfl
    rw [first, run_cons]
    rcases ran : (Operation.requestConfirmed option value).run c with ⟨failure | r, c'⟩
    · have left := (Controller.Sustained.requestConfirmed option value).map
        (fun _ => Operation.Reply.done) |>.finish_evolves closed
      rw [← Operation.run, ran] at left
      exact .inr (confirms.evolves.trans left)
    · obtain ⟨_, confirmed, _⟩ := Attempt.ok_of_map ran
      obtain ⟨_, bench, actual, written, read, passes, rfl⟩ :=
        Controller.requestConfirmed_ok_iff.mp confirmed
      have next := confirms.next written read (passes.near here)
      rw [List.append_cons]
      exact ih others (c := (c.inPhase _).withBench bench) next closed unbegun

end Plan

namespace Experiment

/-- The values that an experiment writes and confirms before it opens the device. -/
def confirmations (device : Device) : Experiment → List (DeviceOption × Float)
  | .steadyState on mode =>
    (if on ∧ device.supports .autoExposureMode then [(.autoExposureMode, mode.value)] else []) ++
      [(.enableAutoExposure, if on then 1 else 0)]
  | .rapidToggle mode =>
    if device.supports .autoExposureMode then [(.autoExposureMode, mode.value)] else []
  | .baseline | .extremeRecovery => []

theorem confirmations_finite (device : Device) (e : Experiment) :
    ∀ entry ∈ e.confirmations device, entry.2.isFinite := by
  have modes : ∀ mode : ExposureMode, mode.value.isFinite := by
    rintro (_ | _) <;> decide +kernel
  have flags : ∀ on : Bool, (if on then 1 else 0 : Float).isFinite := by
    rintro (_ | _) <;> decide +kernel
  cases e with
  | baseline => exact List.forall_mem_nil _
  | steadyState on mode =>
    rw [confirmations, List.forall_mem_append, List.forall_mem_singleton]
    refine ⟨?_, flags on⟩
    split
    · exact List.forall_mem_singleton.mpr (modes mode)
    · exact List.forall_mem_nil _
  | rapidToggle mode =>
    rw [confirmations]
    split
    · exact List.forall_mem_singleton.mpr (modes mode)
    · exact List.forall_mem_nil _
  | extremeRecovery => exact List.forall_mem_nil _

theorem plan_confirming {settings : Settings} {profile : StreamProfile} {device : Device}
    {e : Experiment} {plan : Plan} (made : e.plan settings profile device = .ok plan) :
    ∃ rest, plan = Plan.confirming (e.confirmations device) ++ rest := by
  have moded : ∀ {mode : ExposureMode} {first : Plan},
      Scenario.modePlan mode device = .ok first → first = Plan.confirming
        (if device.supports .autoExposureMode then [(.autoExposureMode, mode.value)] else []) := by
    intro mode first chosen
    rw [Scenario.modePlan] at chosen
    split at chosen
    next supported =>
      cases chosen
      rw [if_pos supported]
      rfl
    next unsupported =>
      split at chosen <;> cases chosen
      rw [if_neg unsupported]
      rfl
  cases e with
  | baseline => exact ⟨plan, rfl⟩
  | steadyState on mode =>
    obtain ⟨first, chosen, rfl⟩ := ok_of_map made
    cases on with
    | false =>
      cases chosen
      exact ⟨_, rfl⟩
    | true =>
      rw [moded chosen]
      refine
        ⟨[.beginStreaming .autoExposure, .settleNow] ++ SteadyState.windowPlan settings true, ?_⟩
      simp [confirmations, Plan.confirming, SteadyState.preludePlan]
  | rapidToggle mode =>
    obtain ⟨first, chosen, rfl⟩ := ok_of_map made
    exact ⟨_, by rw [moded chosen, confirmations]⟩
  | extremeRecovery => exact ⟨plan, rfl⟩

theorem run_confirms (settings : Settings) (baseline : Option BaselineSummary) (e : Experiment)
    {b : Bench} {made : List CallRecord}
    (calls : (e.run settings baseline b).2.calls.toList = b.calls.toList ++ made)
    {call : Call × Bool} (asked : call ∈ lifecycle made) :
    ∃ confirmed later, b.Confirms (e.confirmations b.device) confirmed ∧
      (e.run settings baseline b).2.calls.toList = confirmed.calls.toList ++ later ∧
      call ∈ lifecycle later := by
  have ran := run_bench settings baseline e b
  generalize (e.run settings baseline b).2 = after at calls ran ⊢
  have unasked : ¬ b.Evolves after := by
    intro evolves
    rw [evolves.lifecycle_eq calls] at asked
    cases asked
  rcases selected : (e.query settings).select? b.device.profiles with _ | s <;>
    rw [selected] at ran <;> dsimp only at ran
  · subst ran
    exact absurd .refl unasked
  generalize controller : Scenario.controllerFor b s.profile settings = c at ran
  have set : c.bench = b ∧ c.session.state = .closed ∧ c.log = none := by
    rw [← controller]
    exact ⟨rfl, rfl, rfl⟩
  obtain ⟨rfl, closed, unbegun⟩ := set
  rw [driven] at ran
  rcases planned : e.plan settings c.session.profile c.device with failure | plan <;>
    rw [planned] at ran <;> dsimp only at ran
  · rw [Controller.finish_bench_of_closed closed] at ran
    subst ran
    exact absurd .refl unasked
  · obtain ⟨rest, rfl⟩ := plan_confirming planned
    rcases Plan.run_confirming rest (e.confirmations_finite c.device) .start closed unbegun
      with ⟨c', confirms, none, goes⟩ | left
    · have opens : c'.Opens c'.bench c'.session.profile :=
        ⟨rfl, by simpa [none] using c'.bench.opens_refl c'.session.profile⟩
      obtain ⟨_, ⟨later, appended, -⟩, -⟩ := (rest.run_opens opens).tornDown.bench
      rw [goes, Controller.finish_eq] at ran
      rw [← ran] at appended
      obtain ⟨before, written, silent⟩ := c.bench.made_refl.evolves confirms.evolves
      refine ⟨c'.bench, later, confirms, appended, ?_⟩
      rw [written, List.append_assoc] at appended
      cases List.append_cancel_left (calls.symm.trans appended)
      rwa [lifecycle_append, silent] at asked
    · rw [← ran] at left
      exact absurd left unasked

/-- A confirmed write is one write, accepted, and its value is read back as one that passes for it.
Before the device is opened, all that an experiment has to confirm has been confirmed; a value that
is read back is then within the tolerance of the one requested, or is no number. -/
theorem confirmation_exact (option : DeviceOption) (value : Float) (c : Controller)
    (settings : Settings) (baseline : Option BaselineSummary) (e : Experiment) (b : Bench) :
    ((Controller.requestConfirmed option value c).1 = .ok () ↔
      c.phase.canTransition (.requested option value) ∧
        (c.bench.set option value).1 = .ok () ∧ ∃ actual,
        (c.bench.set option value).2.device.get option = .ok actual ∧
        Controller.Passes value actual) ∧
    ((Controller.requestConfirmed option value c).1 = .ok () →
      (Controller.requestConfirmed option value c).2.bench = (c.bench.set option value).2 ∧
      (Controller.requestConfirmed option value c).2.bench.calls =
        c.bench.calls.push ⟨.set option value, true, c.bench.now⟩) ∧
    ∀ made, (e.run settings baseline b).2.calls.toList = b.calls.toList ++ made →
      ∀ call ∈ lifecycle made, ∃ confirmed later,
        b.Confirms (e.confirmations b.device) confirmed ∧
        (e.run settings baseline b).2.calls.toList = confirmed.calls.toList ++ later ∧
        call ∈ lifecycle later := by
  refine ⟨⟨fun done => ?_, ?_⟩, fun done => ?_,
    fun made calls call asked => e.run_confirms settings baseline calls asked⟩
  · obtain ⟨can, bench, actual, written, read, passes, -⟩ :=
      Controller.requestConfirmed_ok_iff.mp (Prod.ext done rfl)
    rw [written]
    exact ⟨can, rfl, actual, read, passes⟩
  · rintro ⟨can, written, actual, read, passes⟩
    exact congrArg Prod.fst (Controller.requestConfirmed_ok_iff.mpr
      ⟨can, _, actual, Prod.ext written rfl, read, passes, rfl⟩)
  · have called : (c.bench.set option value).2.calls = c.bench.calls.push
        ⟨.set option value, (c.bench.set option value).1.isOk, c.bench.now⟩ := rfl
    rcases ran : Controller.requestConfirmed option value c with ⟨outcome, c'⟩
    rw [ran] at done
    cases done
    obtain ⟨_, bench, _, written, -, -, rfl⟩ := Controller.requestConfirmed_ok_iff.mp ran
    rw [written] at called ⊢
    exact ⟨rfl, called⟩

end Experiment

namespace Controller

def unreadDevice : ScriptedDevice :=
  .ofScript {
    name := "scripted"
    profiles := [⟨.depth, .z16, 848, 480, 30⟩]
    options := [(.enableAutoExposure, ⟨0, none, some (0 / 0), none⟩)]
    openFault := none
    startFault := none
    stopFault := none
    closeFault := none
    streams := [] }

theorem unread_write_confirmed :
    let c := Scenario.controllerFor { device := .scripted unreadDevice }
      ⟨.depth, .z16, 848, 480, 30⟩ {}
    (requestConfirmed .enableAutoExposure 1 c).1 = .ok () ∧
      ∀ actual, (requestConfirmed .enableAutoExposure 1 c).2.device.get .enableAutoExposure =
        .ok actual → ¬ (actual - 1).abs ≤ tolerance := by
  intro c
  have read : (c.bench.set .enableAutoExposure 1).2.device.get .enableAutoExposure =
      .ok (0 / 0) := rfl
  have confirmed : requestConfirmed .enableAutoExposure 1 c = (.ok (),
      (c.inPhase (.requested .enableAutoExposure 1)).withBench
        (c.bench.set .enableAutoExposure 1).2) := requestConfirmed_ok_iff.mpr
    ⟨rfl, _, 0 / 0, rfl, read, .inr (.inl (by decide +kernel)), rfl⟩
  rw [confirmed]
  refine ⟨rfl, fun actual same => ?_⟩
  cases read.symm.trans same
  decide +kernel

end Controller

end ExposureBench
