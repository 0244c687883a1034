import ExposureBench.Proofs.Recordings

namespace ExposureBench

namespace FrameLog

variable {log : FrameLog}

theorem Numbered.flatMap_slice (numbered : log.Numbered) {windows : List Window}
    (ordered : windows.Pairwise fun v w => v.stop ≤ w.start) :
    ((windows.flatMap fun w => log.slice w.start w.stop).map (·.sequence)).Pairwise (· < ·) := by
  have inside : ∀ (w : Window), ∀ e ∈ log.slice w.start w.stop,
      w.start ≤ e.sequence ∧ e.sequence < w.stop := by
    intro w e member
    have numbers := numbered.slice w.start w.stop
    have listed : e.sequence ∈ (log.slice w.start w.stop).map (·.sequence) :=
      List.mem_map_of_mem member
    rw [numbers, List.mem_range'_1] at listed
    omega
  rw [List.map_flatMap, List.pairwise_flatMap]
  constructor
  · intro w _
    rw [numbered.slice]
    exact List.pairwise_lt_range'
  · refine ordered.imp fun {v w} follows x before y after => ?_
    obtain ⟨e, member, rfl⟩ := List.mem_map.mp before
    obtain ⟨e', member', rfl⟩ := List.mem_map.mp after
    have below := (inside v e member).2
    have above := (inside w e' member').1
    omega

theorem Numbered.length_flatMap_slice (numbered : log.Numbered) {windows : List Window}
    (ordered : windows.Pairwise fun v w => v.stop ≤ w.start) :
    (windows.flatMap fun w => log.slice w.start w.stop).length ≤ log.count := by
  have increasing := numbered.flatMap_slice ordered
  have distinct : List.Nodup _ := increasing.imp fun {_ _} less => Nat.ne_of_lt less
  have listed : (windows.flatMap fun w => log.slice w.start w.stop).map (·.sequence) ⊆
      List.range log.count := by
    rw [← numbered]
    apply List.map_subset
    intro e member
    obtain ⟨w, _, within⟩ := List.mem_flatMap.mp member
    rw [log.slice_eq] at within
    exact List.mem_of_mem_take (List.mem_of_mem_drop within)
  calc
    _ = ((windows.flatMap fun w => log.slice w.start w.stop).map (·.sequence)).length :=
      (List.length_map _).symm
    _ ≤ (List.range log.count).length := (distinct.subperm listed).length_le
    _ = log.count := List.length_range

end FrameLog

def CallRecord.accepted? (option : DeviceOption) (r : CallRecord) : Option Float :=
  match r.call with
  | .set written v => if written = option ∧ r.accepted then some v else none
  | _ => none

namespace Bench

variable {b b' : Bench} {option : DeviceOption}

def accepted? (b : Bench) (option : DeviceOption) : Option Float :=
  b.calls.toList.reverse.findSome? (·.accepted? option)

theorem accepted?_set {v : Float} (accepted : b.set option v = (.ok (), b')) :
    b'.accepted? option = some v := by
  rw [set, perform] at accepted
  rcases wrote : b.device.set option v with ⟨_ | _, device⟩ <;> rw [wrote] at accepted <;>
    cases accepted
  simp [accepted?, CallRecord.accepted?, Except.isOk, Except.toBool]

theorem accepted?_set_of_ne {option' : DeviceOption} (other : option' ≠ option) (v : Float) :
    (b.set option' v).2.accepted? option = b.accepted? option := by
  simp [accepted?, set, perform, CallRecord.accepted?, other]

theorem accepted?_of_calls (same : b'.calls = b.calls) :
    b'.accepted? option = b.accepted? option := by
  rw [accepted?, accepted?, same]

end Bench

namespace Controller

variable {c c' : Controller} {option : DeviceOption} {v : Float}

theorem accepted?_of_request (done : request option v c = (.ok (), c')) :
    c'.bench.accepted? option = some v := by
  obtain ⟨bench, accepted, rfl⟩ := request_done done
  exact Bench.accepted?_set accepted

theorem accepted?_of_other_request {option' : DeviceOption} (other : option' ≠ option)
    (done : request option' v c = (.ok (), c')) :
    c'.bench.accepted? option = c.bench.accepted? option := by
  obtain ⟨bench, accepted, rfl⟩ := request_done done
  have written : bench = (c.bench.set option' v).2 := (congrArg Prod.snd accepted).symm
  rw [bench_withBench, written, Bench.accepted?_set_of_ne other]

theorem framesObserved_of_request (done : request option v c = (.ok (), c')) :
    c'.framesObserved = c.framesObserved := by
  obtain ⟨bench, accepted, rfl⟩ := request_done done
  have written : bench = (c.bench.set option v).2 := (congrArg Prod.snd accepted).symm
  rw [written]
  rfl

end Controller

namespace Operation

def isSwitch : Operation → Bool
  | .request .enableAutoExposure _ | .requestConfirmed .enableAutoExposure _ => true
  | _ => false

/-- The state that an operation's window is collected for. -/
def expected? : Operation → Option Bool
  | .collect _ expected | .collectWithin _ expected _ => some expected
  | _ => none

end Operation

namespace Plan

theorem window_of_collectWithin {frames timeoutMs : Nat} {expected : Bool} {w : Window}
    {c c' : Controller}
    (done : Controller.collectWithin frames expected timeoutMs c = (.ok w, c')) :
    w = .spanning c.framesObserved c'.framesObserved expected := by
  obtain ⟨log, present, _, rfl, same⟩ := Controller.collectWithin_done done
  have present' : c'.log = some log := by
    rw [same]
    exact present
  rw [Controller.framesObserved, Controller.framesObserved, present, present']
  rfl

theorem Step.window?_done {s : Step} {w : Window} (collected : s.window? = some w) :
    w = .spanning s.before.framesObserved s.after.framesObserved w.expected ∧
      s.before.framesObserved + s.operation.frames ≤ s.after.framesObserved ∧
      s.operation.expected? = some w.expected := by
  rcases s with ⟨op, c⟩
  by_cases quiet : op.Quiet
  · have none : Step.window? ⟨op, c⟩ = none := window?_of_quiet quiet
    rw [none] at collected
    cases collected
  rw [window?, outcome] at collected
  dsimp only at collected
  rcases ran : op.run c with ⟨failure | reply, c'⟩ <;> rw [ran] at collected
  · cases collected
  have after : Step.after ⟨op, c⟩ = c' := by rw [Step.after, ran]
  rw [after]
  cases op with
  | collect frames expected =>
    obtain ⟨w', answered, rfl⟩ := Attempt.ok_of_map ran
    cases collected
    rw [Controller.collect_apply] at answered
    have spans := window_of_collectWithin answered
    refine ⟨?_, Operation.framesObserved_collectWithin answered, ?_⟩ <;> rw [spans] <;> rfl
  | collectWithin frames expected timeoutMs =>
    obtain ⟨w', answered, rfl⟩ := Attempt.ok_of_map ran
    cases collected
    have spans := window_of_collectWithin answered
    refine ⟨?_, Operation.framesObserved_collectWithin answered, ?_⟩ <;> rw [spans] <;> rfl
  | _ => exact absurd trivial quiet

/-- Each step with the controller that the latest switch of auto-exposure before it found. -/
def sinceSwitch (switched : Controller) : List Step → List (Controller × Step)
  | [] => []
  | s :: rest =>
    (switched, s) :: sinceSwitch (if s.operation.isSwitch then s.before else switched) rest

theorem map_sinceSwitch (switched : Controller) (steps : List Step) :
    (sinceSwitch switched steps).map (·.2) = steps := by
  induction steps generalizing switched with
  | nil => rfl
  | cons s rest ih => rw [sinceSwitch, List.map_cons, ih]

theorem step_mem_of_sinceSwitch {switched : Controller} {steps : List Step}
    {entry : Controller × Step} (member : entry ∈ sinceSwitch switched steps) :
    entry.2 ∈ steps := by
  rw [← map_sinceSwitch switched steps]
  exact List.mem_map_of_mem member

theorem mem_sinceSwitch_cons {op : Operation} {rest : Plan} {switched c : Controller}
    {entry : Controller × Step} (member : entry ∈ sinceSwitch switched (steps (op :: rest) c)) :
    entry = (switched, ⟨op, c⟩) ∨
      ∃ r c', op.run c = (.ok r, c') ∧
        entry ∈ sinceSwitch (if op.isSwitch then c else switched) (steps rest c') := by
  rcases ran : op.run c with ⟨failure | r, c'⟩
  · rw [steps_cons_of_error rest ran, sinceSwitch, sinceSwitch, List.mem_singleton] at member
    exact .inl member
  · rw [steps_cons_of_ok rest ran, sinceSwitch, List.mem_cons] at member
    exact member.imp_right fun later => ⟨r, c', rfl, later⟩

/-- A window, the step that collected it, and the controller found by the switch before it. -/
structure Collection where
  switched : Controller
  step : Step
  window : Window
  collected : step.window? = some window

namespace Collection

def of? (entry : Controller × Step) : Option Collection :=
  match collected : entry.2.window? with
  | some window => some ⟨entry.1, entry.2, window, collected⟩
  | none => none

theorem of?_eq_some {entry : Controller × Step} {v : Collection} (found : of? entry = some v) :
    entry = (v.switched, v.step) := by
  unfold of? at found
  split at found <;> cases found
  rfl

theorem of?_of_some {switched : Controller} {s : Step} {w : Window}
    (collected : s.window? = some w) : of? (switched, s) = some ⟨switched, s, w, collected⟩ := by
  unfold of?
  split
  next collected' =>
    cases collected.symm.trans collected'
    rfl
  next absent => cases collected.symm.trans absent

theorem of?_of_none (switched : Controller) {s : Step} (quiet : s.window? = none) :
    of? (switched, s) = none := by
  unfold of?
  split
  next collected => cases quiet.symm.trans collected
  · rfl

variable (v : Collection)

theorem window_eq :
    v.window =
      .spanning v.step.before.framesObserved v.step.after.framesObserved v.window.expected :=
  (Step.window?_done v.collected).1

theorem start_eq : v.window.start = v.step.before.framesObserved := by
  rw [window_eq]
  rfl

theorem frames_le : v.step.before.framesObserved + v.step.operation.frames ≤
    v.step.after.framesObserved :=
  (Step.window?_done v.collected).2.1

theorem stop_eq : v.window.stop = v.step.after.framesObserved := by
  have grows := v.frames_le
  rw [window_eq]
  exact Nat.max_eq_left (by omega)

theorem frames_le_length : v.step.operation.frames ≤ v.window.length := by
  have grows := v.frames_le
  rw [Window.length, start_eq, stop_eq]
  omega

theorem expected_eq : v.step.operation.expected? = some v.window.expected :=
  (Step.window?_done v.collected).2.2

theorem step_ne (op : Operation) (quiet : op.Quiet) (c : Controller) : v.step ≠ ⟨op, c⟩ := by
  intro same
  have collected := v.collected
  have none : Step.window? ⟨op, c⟩ = none := Step.window?_of_quiet quiet
  rw [same, none] at collected
  cases collected

def events (log : FrameLog) : List FrameEvent := log.slice v.window.start v.window.stop

end Collection

/-- The windows collected in some steps, `switched` being the controller found by the latest switch
before them. -/
def collections (switched : Controller) (steps : List Step) : List Collection :=
  (sinceSwitch switched steps).filterMap Collection.of?

section Collections

variable {switched : Controller} {steps : List Step} {s : Step} {v : Collection}

theorem step_mem_of_collections (member : v ∈ collections switched steps) : v.step ∈ steps := by
  obtain ⟨entry, listed, found⟩ := List.mem_filterMap.mp member
  have same : entry.2 = v.step := congrArg Prod.snd (Collection.of?_eq_some found)
  rw [← same]
  exact step_mem_of_sinceSwitch listed

theorem collections_cons_of_quiet (quiet : s.operation.Quiet) :
    collections switched (s :: steps) =
      collections (if s.operation.isSwitch then s.before else switched) steps := by
  have silent : Collection.of? (switched, s) = none :=
    Collection.of?_of_none switched (Step.window?_of_quiet quiet)
  rw [collections, sinceSwitch, List.filterMap_cons_none silent]
  rfl

theorem collections_pairwise {R : Step → Step → Prop} (apart : steps.Pairwise R) :
    (collections switched steps).Pairwise fun v w => R v.step w.step := by
  rw [← map_sinceSwitch switched steps, List.pairwise_map] at apart
  refine apart.filterMap _ fun entry entry' related v found w found' => ?_
  rw [Collection.of?_eq_some found, Collection.of?_eq_some found'] at related
  exact related

theorem collections_cons_of_some {w : Window} (collected : s.window? = some w) :
    collections switched (s :: steps) =
      ⟨switched, s, w, collected⟩ ::
        collections (if s.operation.isSwitch then s.before else switched) steps := by
  rw [collections, sinceSwitch, List.filterMap_cons_some (Collection.of?_of_some collected)]
  rfl

theorem collections_append_of_quiet (switched : Controller) (steps : List Step)
    {first : List Step} (quiet : ∀ s ∈ first, s.operation.Quiet) :
    ∃ switched', collections switched (first ++ steps) = collections switched' steps := by
  induction first generalizing switched with
  | nil => exact ⟨switched, rfl⟩
  | cons s rest ih =>
    obtain ⟨here, others⟩ := List.forall_mem_cons.mp quiet
    rw [List.cons_append, collections_cons_of_quiet here]
    exact ih _ others

theorem mem_collections_cons {op : Operation} {rest : Plan} {c : Controller}
    (member : v ∈ collections switched (Plan.steps (op :: rest) c)) :
    (v.switched = switched ∧ v.step = ⟨op, c⟩) ∨
      ∃ r c', op.run c = (.ok r, c') ∧
        v ∈ collections (if op.isSwitch then c else switched) (Plan.steps rest c') := by
  obtain ⟨entry, listed, found⟩ := List.mem_filterMap.mp member
  rcases mem_sinceSwitch_cons listed with rfl | ⟨r, c', ran, later⟩
  · have same := Collection.of?_eq_some found
    rw [Prod.mk.injEq] at same
    exact .inl ⟨same.1.symm, same.2.symm⟩
  · exact .inr ⟨r, c', ran, List.mem_filterMap.mpr ⟨entry, later, found⟩⟩

theorem mergeAll_collections (switched : Controller) (steps : List Step) :
    Consistency.mergeAll (steps.map (·.check)) =
      .mergeAll ((collections switched steps).map (·.step.check)) := by
  induction steps generalizing switched with
  | nil => rfl
  | cons s rest ih =>
    rw [List.map_cons, Consistency.mergeAll_cons]
    rcases collected : s.window? with _ | w
    · have unchecked : s.check = {} := by rw [Step.check, collected]; rfl
      have silent := Collection.of?_of_none switched collected
      rw [unchecked, Consistency.empty_merge, collections, sinceSwitch,
        List.filterMap_cons_none silent]
      exact ih _
    · rw [collections_cons_of_some collected, List.map_cons, Consistency.mergeAll_cons, ih]

theorem Step.window?_isSome {op : Operation} {c c' : Controller} {r : Operation.Reply}
    (collects : op.expected?.isSome) (done : op.run c = (.ok r, c')) :
    (Step.window? ⟨op, c⟩).isSome := by
  rw [Step.window?, Step.outcome]
  dsimp only
  rw [done]
  cases op with
  | collect frames expected =>
    obtain ⟨w, _, rfl⟩ := Attempt.ok_of_map done
    rfl
  | collectWithin frames expected timeoutMs =>
    obtain ⟨w, _, rfl⟩ := Attempt.ok_of_map done
    rfl
  | _ => cases collects

theorem quiet_of_expected? {op : Operation} (silent : op.expected?.isSome = false) : op.Quiet := by
  cases op with
  | collect => cases silent
  | collectWithin => cases silent
  | _ => trivial

theorem length_collections {plan : Plan} {c c' : Controller} (done : plan.run c = (.ok (), c')) :
    (collections switched (plan.steps c)).length = plan.countP (·.expected?.isSome) := by
  induction plan generalizing c switched with
  | nil => rfl
  | cons op rest ih =>
    rw [run_cons] at done
    rcases ran : op.run c with ⟨failure | r, c₁⟩ <;> rw [ran] at done
    · cases done
    rw [steps_cons_of_ok rest ran, List.countP_cons]
    rcases collects : op.expected?.isSome with _ | _
    · rw [collections_cons_of_quiet (quiet_of_expected? collects), ih done]
      rfl
    · obtain ⟨w, collected⟩ := Option.isSome_iff_exists.mp (Step.window?_isSome collects ran)
      rw [collections_cons_of_some collected, List.length_cons, ih done]
      rfl

end Collections

namespace Later

variable {plan : Plan} (later : plan.Later) (switched c : Controller)
include later

theorem collections_ordered :
    (collections switched (plan.steps c)).Pairwise fun v w => v.window.stop ≤ w.window.start := by
  refine (collections_pairwise (later.continues c).apart).imp fun {v w} continues => ?_
  rw [v.stop_eq, w.start_eq]
  exact continues.framesObserved_le

theorem stop_le {v : Collection} (member : v ∈ collections switched (plan.steps c)) :
    v.window.stop ≤ (plan.run c).2.framesObserved := by
  rw [v.stop_eq]
  exact ((later.continues c).after v.step (step_mem_of_collections member)).framesObserved_le

theorem mergeAll_checks :
    Consistency.mergeAll ((plan.steps c).map (·.check)) =
      .mergeAll ((collections switched (plan.steps c)).map fun v =>
        .ofEvents v.window.expected (v.events (Scenario.recorded (plan.run c).2))) := by
  rw [mergeAll_collections switched]
  refine congrArg _ (List.map_congr_left fun v member => ?_)
  have continues := (later.continues c).after v.step (step_mem_of_collections member)
  have inside : v.window.stop ≤ v.step.after.framesObserved := Nat.le_of_eq v.stop_eq
  rw [Step.check, v.collected, Collection.events, continues.slice_recorded inside]
  rfl

end Later

end Plan

end ExposureBench
