import ExposureBench.Proofs.Conservation
import ExposureBench.Proofs.Periods
import ExposureBench.Proofs.Recoveries
import ExposureBench.Proofs.Settling
import ExposureBench.Proofs.Usability

/-!
A frame comes one pace after the frame before it: the pace of the controls that the earlier one
was delivered under.
-/

namespace ExposureBench

/-- The time of a frame, and the pace that the next one will keep, if there is one. -/
structure Beat where
  time : Nat
  pace : Option Nat

def Beat.Leads (x : Beat) (due : Nat) : Prop := x.pace.map (x.time + ·) = some due

/-- Each frame comes one pace after the frame before it. -/
def InPace (beats : List Beat) : Prop := beats.IsChain fun x y => x.Leads y.time

def beatsAt (pace : Option Nat) (arrivals : List Arrival) : List Beat :=
  arrivals.map fun a => ⟨a.time, pace⟩

theorem InPace.push {beats : List Beat} {y : Beat} (paced : InPace beats)
    (leads : ∀ x ∈ beats.getLast?, x.Leads y.time) : InPace (beats ++ [y]) := by
  refine List.isChain_append.mpr ⟨paced, List.isChain_singleton y, fun x last z first => ?_⟩
  cases first
  exact leads x last

theorem InPace.times {pace : Nat} {arrivals : List Arrival}
    (paced : InPace (beatsAt (some pace) arrivals)) :
    (arrivals.map (·.time)).IsChain fun t t' => t' = t + pace := by
  rw [List.isChain_map]
  exact ((List.isChain_map _).mp paced).imp fun a a' leads => (Option.some.inj leads).symm

theorem InPace.length_le {arrivals : List Arrival} (paced : InPace (beatsAt none arrivals)) :
    arrivals.length ≤ 1 := by
  rcases arrivals with _ | ⟨a, _ | ⟨a', rest⟩⟩
  · exact Nat.zero_le 1
  · exact Nat.le_refl 1
  · cases (List.isChain_cons_cons.mp paced).1

/-- By turns of one kind and of another. -/
def Alternates {α : Type} (p q : α → Prop) : List α → Prop
  | [] => True
  | a :: rest => p a ∧ Alternates q p rest

namespace Alternates

variable {α : Type} {p q p' q' : α → Prop} {l : List α}

theorem imp (alternates : Alternates p q l) (first : ∀ a ∈ l, p a → p' a)
    (second : ∀ a ∈ l, q a → q' a) : Alternates p' q' l := by
  induction l generalizing p q p' q' with
  | nil => trivial
  | cons a rest ih =>
    obtain ⟨here, others⟩ := alternates
    exact ⟨first a List.mem_cons_self here, ih others
      (fun b member => second b (List.mem_cons_of_mem a member))
      (fun b member => first b (List.mem_cons_of_mem a member))⟩

theorem mem (alternates : Alternates p q l) : ∀ a ∈ l, p a ∨ q a := by
  induction l generalizing p q with
  | nil => exact List.forall_mem_nil _
  | cons b rest ih =>
    obtain ⟨here, others⟩ := alternates
    exact List.forall_mem_cons.mpr ⟨.inl here, fun a member => (ih others a member).symm⟩

end Alternates

namespace Delivery

variable {config : CameraConfig} {period? : Option Nat}

def OnBeat (config : CameraConfig) (beats : List Beat) (d : Delivery) : Prop :=
  config.isStalledAt d.number ∨ ∀ x ∈ beats.getLast?, x.Leads d.due

theorem runUntil_onBeat (controls : Controls) (time : Nat)
    (positive : ∀ period, period? = some period → 0 < period) (d : Delivery) {beats : List Beat}
    (paced : InPace beats) (onBeat : d.OnBeat config beats) :
    let result := d.runUntil config controls period? time
    InPace (beats ++ beatsAt period? result.2) ∧
      ∀ d', result.1 = .running d' →
        d'.profile = d.profile ∧ d'.OnBeat config (beats ++ beatsAt period? result.2) := by
  induction d using frame_induction config controls period? time generalizing beats with
  | early d waiting =>
    rw [runUntil_early waiting]
    simp only [beatsAt, List.map_nil, List.append_nil]
    refine ⟨paced, ?_⟩
    rintro _ ⟨⟩
    exact ⟨rfl, onBeat⟩
  | failed d due missing =>
    subst missing
    rw [runUntil_failed due]
    refine ⟨?_, nofun⟩
    split
    · simpa only [beatsAt, List.map_nil, List.append_nil] using paced
    next going => exact paced.push (onBeat.resolve_left going)
  | stalled d period due found still =>
    subst found
    rw [runUntil_stalled due still]
    simp only [beatsAt, List.map_nil, List.append_nil]
    refine ⟨paced, ?_⟩
    rintro _ ⟨⟩
    exact ⟨rfl, .inl still⟩
  | next d period due found going ih =>
    subst found
    have pushed := paced.push (y := ⟨d.due, some period⟩) (onBeat.resolve_left going)
    have leads : (d.advance config controls (max period 1)).OnBeat config
        (beats ++ [⟨d.due, some period⟩]) := by
      refine .inr fun x last => ?_
      rw [List.getLast?_concat] at last
      cases last
      have one : max period 1 = period := Nat.max_eq_left (positive period rfl)
      rw [one]
      rfl
    obtain ⟨later, running⟩ := ih pushed leads
    rw [List.append_assoc] at later
    rw [runUntil_next due going]
    refine ⟨later, fun d' same => ?_⟩
    obtain ⟨profile, next⟩ := running d' same
    rw [List.append_assoc] at next
    exact ⟨profile.trans (d.profile_advance config controls _), next⟩

end Delivery

namespace Controls

theorem period?_eq {profile : StreamProfile} {nominal : Nat}
    (span : secondsToNanos? (profile.frameTimeMs / 1000.0) = some nominal) (c : Controls) :
    c.period? profile = if c.autoExposure then some nominal
      else (secondsToNanos? (c.exposureUs / 1000000.0)).map (max nominal) := by
  rw [period?, span]
  cases c.autoExposure with
  | true => rfl
  | false => cases secondsToNanos? (c.exposureUs / 1000000.0) <;> rfl

end Controls

namespace Camera

/-- A camera that streams goes on from what was delivered before. -/
structure OnBeat (profile : StreamProfile) (beats : List Beat) (c : Camera) : Prop where
  paced : InPace beats
  running : ∀ d, c.worker = .running d → d.profile = profile ∧ d.OnBeat c.config beats

variable {profile : StreamProfile} {beats : List Beat} {c : Camera}

theorem OnBeat.set (onBeat : c.OnBeat profile beats) (controls : Controls) :
    OnBeat profile beats { c with controls } :=
  ⟨onBeat.paced, onBeat.running⟩

theorem OnBeat.runUntil (onBeat : c.OnBeat profile beats)
    (positive : ∀ period, c.controls.period? profile = some period → 0 < period) (time : Nat) :
    (c.runUntil time).1.OnBeat profile
      (beats ++ beatsAt (c.controls.period? profile) (c.runUntil time).2) := by
  rw [Camera.runUntil]
  split
  next d streaming =>
    obtain ⟨rfl, going⟩ := onBeat.running d streaming
    obtain ⟨paced, running⟩ := d.runUntil_onBeat c.controls time positive onBeat.paced going
    exact ⟨paced, running⟩
  next silent =>
    simp only [beatsAt, List.map_nil, List.append_nil]
    exact onBeat

theorem OnBeat.of_start {c' : Camera} {now : Nat} (starts : c.start now = (.ok (), c'))
    (opened : c.profile = some profile) : c'.OnBeat profile [] := by
  obtain ⟨profile', opened', rfl⟩ := start_accepted starts
  cases opened.symm.trans opened'
  refine ⟨List.isChain_nil, fun d running => ?_⟩
  dsimp only [worker?] at running
  cases begun : c.controls.period? profile with
  | none => rw [begun] at running; cases running
  | some period =>
    rw [begun] at running
    cases running
    exact ⟨rfl, .inr fun last delivered => by cases delivered⟩

end Camera

namespace Bench

/-- The pace that the writes accepted last amount to. -/
def pace? (nominal : Nat) (b : Bench) : Option Nat :=
  if (b.accepted? .enableAutoExposure).any (· != 0) then some nominal
  else ((b.accepted? .exposure).bind fun v => secondsToNanos? (v / 1000000.0)).map (max nominal)

theorem pace?_pos {nominal : Nat} (positive : 0 < nominal) {b : Bench} {period : Nat}
    (paced : b.pace? nominal = some period) : 0 < period := by
  unfold pace? at paced
  split at paced
  · cases paced
    exact positive
  · obtain ⟨exposure, -, rfl⟩ := Option.map_eq_some_iff.mp paced
    exact Nat.lt_of_lt_of_le positive (Nat.le_max_left nominal exposure)

variable {profile : StreamProfile} {beats : List Beat} {b b' : Bench}

theorem pace?_of_off (nominal : Nat) (off : b.accepted? .enableAutoExposure = some 0) {v : Float}
    (exposed : b.accepted? .exposure = some v) :
    b.pace? nominal = (secondsToNanos? (v / 1000000.0)).map (max nominal) := by
  have none : ((some 0 : Option Float).any (· != 0)) = false := by decide
  rw [pace?, off, exposed, none, if_neg Bool.false_ne_true, Option.bind_some]

theorem pace?_of_auto (nominal : Nat) (auto : b.accepted? .enableAutoExposure = some 1) :
    b.pace? nominal = some nominal := by
  have on : ((some 1 : Option Float).any (· != 0)) = true := by decide
  rw [pace?, auto, on, if_pos rfl]

/-- The controls of the bench's camera have the pace that the writes amount to. -/
def Paces (profile : StreamProfile) (nominal : Nat) (b : Bench) : Prop :=
  b.Holds fun c => c.controls.period? profile = b.pace? nominal

theorem Holds.onBeat_sleep {nominal : Nat} (positive : 0 < nominal)
    (onBeat : b.Holds (·.OnBeat profile beats)) (paces : b.Paces profile nominal) (ms : Nat) :
    (b.sleep ms).Holds
      (·.OnBeat profile (beats ++ beatsAt (b.pace? nominal) (b.arrivals ms))) := by
  obtain ⟨c, camera, going⟩ := onBeat
  obtain ⟨c', camera', written⟩ := paces
  cases Device.camera.inj (camera.symm.trans camera')
  rcases Nat.eq_zero_or_pos ms with rfl | some
  · have none : b.arrivals 0 = [] := if_pos rfl
    rw [sleep_zero, none, beatsAt, List.map_nil, List.append_nil]
    exact ⟨c, camera, going⟩
  · have slept := b.device_sleep some
    rw [camera] at slept
    rw [arrivals, if_neg (Nat.ne_of_gt some), camera]
    refine ⟨_, slept, ?_⟩
    have kept := going.runUntil (fun period same => pace?_pos positive (written.symm.trans same))
      (b.now + Duration.ofMillis ms)
    rwa [written] at kept

end Bench

namespace Controller

structure Records (id : LogId) (c : Controller) : Prop where
  log : c.log = some id
  fed : c.bench.feed = some id
  present : ∃ log, c.bench.log? id = some log

structure OnBeat (profile : StreamProfile) (id : LogId) (beats : List Beat) (c : Controller) :
    Prop where
  records : c.Records id
  camera : c.bench.Holds (·.OnBeat profile beats)

variable {profile : StreamProfile} {id : LogId} {beats : List Beat} {c c' : Controller}

theorem OnBeat.paced (onBeat : c.OnBeat profile id beats) : InPace beats := by
  obtain ⟨camera, -, streaming⟩ := onBeat.camera
  exact streaming.paced

theorem Records.slept (records : c.Records id) (ms : Nat) (phase : Phase) :
    ((c.withBench (c.bench.sleep ms)).inPhase phase).Records id := by
  obtain ⟨log, fed, recorded, present⟩ := records
  refine ⟨log, (c.bench.feed_sleep ms).trans fed, ?_⟩
  have slept := c.bench.log?_sleep_arrivals ms id
  rw [if_pos fed, present] at slept
  exact ⟨_, slept⟩

theorem Records.extended (records : c.Records id) (continues : c.Continues c') :
    ∃ new, Scenario.recorded c' = (Scenario.recorded c).append new := by
  obtain ⟨begun, -, log, present⟩ := records
  obtain ⟨new, extended⟩ := continues.keeps id log present
  refine ⟨new, ?_⟩
  rw [Scenario.recorded, Scenario.recorded, continues.log, begun, Option.bind_some,
    Option.bind_some, present, extended]
  rfl

theorem OnBeat.request (onBeat : c.OnBeat profile id beats) {option : DeviceOption} {v : Float}
    (done : Controller.request option v c = (.ok (), c')) : c'.OnBeat profile id beats := by
  obtain ⟨⟨log, fed, recorded, present⟩, camera, device, going⟩ := onBeat
  obtain ⟨controls, -, device'⟩ := request_camera device done
  obtain ⟨bench, accepted, rfl⟩ := request_done done
  have written : bench = (c.bench.set option v).2 := (congrArg Prod.snd accepted).symm
  refine ⟨⟨log, ?_, recorded, ?_⟩, _, device', going.set controls⟩ <;>
    rw [bench_withBench, written]
  · exact fed
  · exact present

theorem log?_hold (begun : c.log = some id) (ms : Nat) (id' : LogId) :
    (hold ms c).2.bench.log? id' = (c.bench.sleep ms).log? id' := by
  rw [hold_apply, begun]
  dsimp only
  split
  · exact log?_tornDown _ id'
  · rw [transition_apply, phase_withBench, bench_withBench]
    by_cases can : c.phase.canTransition (.settled ((c.bench.sleep ms).count id))
    · rw [if_pos can]
      rfl
    · rw [if_neg can]
      rfl

theorem OnBeat.of_begin {camera : Camera} {field : MetadataField}
    (device : c.device = .camera camera) (done : beginStreaming field c = (.ok id, c')) :
    c'.OnBeat c.session.profile id [] := by
  obtain ⟨opened, started, opens, starts, rfl, log, -⟩ := beginStreaming_done done
  obtain ⟨camera₁, opens, device₁⟩ := Bench.openWith_camera device opens
  obtain ⟨-, rfl⟩ := Camera.openWith_accepted opens
  obtain ⟨-, fed, present⟩ := Bench.start_done starts
  obtain ⟨camera₂, starts, device₂⟩ := Bench.start_camera device₁ starts
  exact ⟨⟨log, fed, _, present⟩, camera₂, device₂, .of_start starts rfl⟩

theorem OnBeat.paces_exposure (onBeat : c.OnBeat profile id beats) {nominal : Nat}
    (span : secondsToNanos? (profile.frameTimeMs / 1000.0) = some nominal)
    (off : c.bench.accepted? .enableAutoExposure = some 0) {v : Float}
    (done : Controller.request .exposure v c = (.ok (), c')) :
    c'.bench.Paces profile nominal := by
  have off' : c'.bench.accepted? .enableAutoExposure = some 0 :=
    (accepted?_of_other_request (by decide) done).trans off
  obtain ⟨camera, device, -⟩ := onBeat.camera
  obtain ⟨controls, effect, device'⟩ := request_camera device done
  cases effect
  refine ⟨_, device', ?_⟩
  beta_reduce
  rw [Controls.period?_eq span, Bench.pace?_of_off nominal off' (accepted?_of_request done)]
  rfl

theorem OnBeat.paces_auto (onBeat : c.OnBeat profile id beats) {nominal : Nat}
    (span : secondsToNanos? (profile.frameTimeMs / 1000.0) = some nominal)
    (done : setAutoExposure true c = (.ok (), c')) : c'.bench.Paces profile nominal := by
  obtain ⟨camera, device, -⟩ := onBeat.camera
  obtain ⟨controls, effect, device'⟩ := request_camera device done
  rw [Controls.write?_autoExposure] at effect
  cases effect
  refine ⟨_, device', ?_⟩
  beta_reduce
  rw [Controls.period?_eq span, Bench.pace?_of_auto nominal (accepted?_of_request done)]
  rfl

end Controller

namespace Plan

/-- The frames that arrive during a hold. -/
def Step.arrivals (s : Step) : List Arrival :=
  match s.operation with
  | .hold ms => s.before.bench.arrivals ms
  | _ => []

def Step.times (s : Step) : List Nat := s.arrivals.map (·.time)

def Step.beats (nominal : Nat) (s : Step) : List Beat :=
  beatsAt (s.before.bench.pace? nominal) s.arrivals

theorem Step.recorded_hold {id : LogId} {h : Step} (hold : h.operation.isHold)
    (records : h.before.Records id) :
    Scenario.recorded h.after = (Scenario.recorded h.before).append
      ((Scenario.recorded h.before).eventsOf h.before.framesObserved h.arrivals) := by
  rcases h with ⟨op, c⟩
  cases op with
  | hold ms =>
    obtain ⟨begun, fed, log, present⟩ := records
    have after : Step.after ⟨.hold ms, c⟩ = (Controller.hold ms c).2 :=
      congrArg Prod.snd (Attempt.map_apply _ _ _)
    have same := (Controller.Sustained.hold ms).log_eq c
    have before : Scenario.recorded c = log := by
      rw [Scenario.recorded, begun, Option.bind_some, present, Option.getD_some]
    have slept := c.bench.log?_sleep_arrivals ms id
    rw [if_pos fed, present, Option.map_some, Bench.recordAll_eq] at slept
    rw [after, ← Controller.count_recorded, before, Scenario.recorded, same, begun,
      Option.bind_some, Controller.log?_hold begun, slept]
    rfl
  | _ => cases hold

theorem Step.slice_hold {id : LogId} {h : Step} {final : Controller} (hold : h.operation.isHold)
    (records : h.before.Records id) (continues : h.after.Continues final) :
    (Scenario.recorded final).slice h.before.framesObserved h.after.framesObserved =
      (Scenario.recorded final).eventsOf h.before.framesObserved h.arrivals := by
  have held := recorded_hold hold records
  rcases h with ⟨op, c⟩
  cases op with
  | hold ms =>
    have sustained : Controller.Sustained (Operation.hold ms).run := Operation.run_sustained nofun
    have sliced := (Scenario.recorded c).slice_append
      ((Scenario.recorded c).eventsOf c.framesObserved (Step.arrivals ⟨.hold ms, c⟩)) []
    obtain ⟨new, extended⟩ := records.extended ((sustained.continues c).trans continues)
    rw [FrameLog.append_nil, ← held, Controller.count_recorded, Controller.count_recorded] at sliced
    rw [continues.slice_recorded (Nat.le_refl _), extended, FrameLog.eventsOf_append]
    exact sliced
  | _ => cases hold

def holds (steps : List Step) : List Step := steps.filter (·.operation.isHold)

theorem holds_cons_of_idle {op : Operation} (idle : op.isHold = false) (c : Controller)
    (rest : List Step) : holds (⟨op, c⟩ :: rest) = holds rest :=
  List.filter_cons_of_neg (ne_true_of_eq_false idle)

/-- What is shown of some holds: they come by turns, record what arrives, and keep the pace, from
one to the next as well. -/
structure Keeps (nominal : Nat) (id : LogId) (p q : Step → Prop) (beats : List Beat)
    (holds : List Step) : Prop where
  turns : Alternates p q holds
  records : ∀ h ∈ holds, h.before.Records id
  paced : InPace (beats ++ holds.flatMap (Step.beats nominal))

variable {nominal : Nat} {id : LogId} {p q : Step → Prop} {beats : List Beat}

theorem Keeps.nil (paced : InPace beats) : Keeps nominal id p q beats [] := by
  refine ⟨trivial, List.forall_mem_nil _, ?_⟩
  rwa [List.flatMap_nil, List.append_nil]

theorem Keeps.idle {op : Operation} {rest : Plan} {c : Controller} (idle : op.isHold = false)
    (paced : InPace beats)
    (next : ∀ reply c', op.run c = (.ok reply, c') →
      Keeps nominal id p q beats (holds (steps rest c'))) :
    Keeps nominal id p q beats (holds (steps (op :: rest) c)) := by
  rcases ran : op.run c with ⟨failure | reply, c'⟩
  · rw [steps_cons_of_error rest ran, holds_cons_of_idle idle]
    exact .nil paced
  · rw [steps_cons_of_ok rest ran, holds_cons_of_idle idle]
    exact next reply c' ran

theorem Keeps.cons {h : Step} {rest : List Step} (kind : p h) (records : h.before.Records id)
    (later : Keeps nominal id q p (beats ++ h.beats nominal) rest) :
    Keeps nominal id p q beats (h :: rest) := by
  refine ⟨⟨kind, later.turns⟩, List.forall_mem_cons.mpr ⟨records, later.records⟩, ?_⟩
  rw [List.flatMap_cons, ← List.append_assoc]
  exact later.paced

theorem Keeps.of_mem {holds : List Step} (keeps : Keeps nominal id p q [] holds) {h : Step}
    (member : h ∈ holds) : InPace (h.beats nominal) := by
  have paced := keeps.paced
  rw [List.nil_append, List.flatMap_def] at paced
  exact List.IsChain.infix paced (List.infix_of_mem_flatten (List.mem_map_of_mem member))

theorem Keeps.hold {profile : StreamProfile} {ms : Nat} {rest : Plan} {c : Controller}
    (positive : 0 < nominal) (onBeat : c.OnBeat profile id beats)
    (paces : c.bench.Paces profile nominal) (kind : p ⟨.hold ms, c⟩)
    (next : ∀ c', c'.OnBeat profile id (beats ++ Step.beats nominal ⟨.hold ms, c⟩) →
      Keeps nominal id q p (beats ++ Step.beats nominal ⟨.hold ms, c⟩) (holds (steps rest c'))) :
    Keeps nominal id p q beats (holds (steps (.hold ms :: rest) c)) := by
  obtain ⟨camera, device, onBeat'⟩ := onBeat.camera.onBeat_sleep positive paces ms
  rcases ran : (Operation.hold ms).run c with ⟨failure | reply, c'⟩
  · rw [steps_cons_of_error rest ran]
    exact .cons kind onBeat.records (.nil onBeat'.paced)
  · rw [steps_cons_of_ok rest ran]
    obtain ⟨observed, done, -⟩ := Attempt.ok_of_map ran
    obtain ⟨log, -, -, -, rfl⟩ := Controller.hold_done done
    exact .cons kind onBeat.records (next _ ⟨onBeat.records.slept ms _, camera, device, onBeat'⟩)

end Plan

namespace ExtremeRecovery

def isManual (settings : Settings) (exposure : Float) (h : Plan.Step) : Prop :=
  h.operation = .hold settings.extremeRecovery.manualHoldMs ∧
    h.before.bench.accepted? .enableAutoExposure = some 0 ∧
    h.before.bench.accepted? .exposure = some exposure

def isAuto (settings : Settings) (h : Plan.Step) : Prop :=
  h.operation = .hold settings.extremeRecovery.autoHoldMs ∧
    h.before.bench.accepted? .enableAutoExposure = some 1

variable {settings : Settings} {profile : StreamProfile} {id : LogId} {nominal : Nat}

theorem iterationsPlan_keeps
    (span : secondsToNanos? (profile.frameTimeMs / 1000.0) = some nominal) (positive : 0 < nominal)
    (exposure : Float) (left : Nat) {beats : List Beat} {c : Controller}
    (onBeat : c.OnBeat profile id beats) :
    Plan.Keeps nominal id (isManual settings exposure) (isAuto settings) beats
      (Plan.holds (Plan.steps (iterationsPlan settings exposure left) c)) := by
  induction left generalizing beats c with
  | zero => exact .nil onBeat.paced
  | succ left ih =>
    rw [iterationsPlan, iterationPlan]
    apply Plan.Keeps.idle rfl onBeat.paced
    intro _ c₁ switches
    obtain ⟨_, switches, -⟩ := Attempt.ok_of_map switches
    have off : c₁.bench.accepted? .enableAutoExposure = some 0 :=
      Controller.accepted?_of_request switches
    replace onBeat := onBeat.request switches
    apply Plan.Keeps.idle rfl onBeat.paced
    intro _ c₂ exposes
    obtain ⟨_, exposes, -⟩ := Attempt.ok_of_map exposes
    have still : c₂.bench.accepted? .enableAutoExposure = some 0 :=
      (Controller.accepted?_of_other_request (by decide) exposes).trans off
    apply Plan.Keeps.hold positive (onBeat.request exposes) (onBeat.paces_exposure span off exposes)
      ⟨rfl, still, Controller.accepted?_of_request exposes⟩
    intro c₃ onBeat
    apply Plan.Keeps.idle rfl onBeat.paced
    intro _ c₄ switches
    obtain ⟨_, switches, -⟩ := Attempt.ok_of_map switches
    apply Plan.Keeps.hold positive (onBeat.request switches) (onBeat.paces_auto span switches)
      ⟨rfl, Controller.accepted?_of_request switches⟩
    intro c₅ onBeat
    exact ih onBeat

theorem driven_keeps {c : Controller} {camera : Camera} (device : c.device = .camera camera)
    (span : secondsToNanos? (c.session.profile.frameTimeMs / 1000.0) = some nominal)
    (positive : 0 < nominal) :
    ∃ id exposure, Plan.Keeps nominal id (isManual settings exposure) (isAuto settings) []
      (Plan.holds (Experiment.extremeRecovery.steps settings c)) := by
  rw [Experiment.steps, Experiment.plan]
  rcases exposure? settings c.session.profile c.device with failure | exposure
  · exact ⟨0, 0, .nil List.isChain_nil⟩
  · dsimp only [Except.map]
    rcases began : (Operation.beginStreaming .autoExposure).run c with ⟨failure | reply, c'⟩
    · rw [Plan.steps_cons_of_error _ began]
      exact ⟨0, 0, .nil List.isChain_nil⟩
    · obtain ⟨id, done, -⟩ := Attempt.ok_of_map began
      rw [Plan.steps_cons_of_ok _ began, Plan.holds_cons_of_idle rfl]
      exact ⟨id, exposure, iterationsPlan_keeps span positive exposure _ (.of_begin device done)⟩

def holds (settings : Settings) (b : Bench) : List Plan.Step :=
  match settings.profile.select? b.device.profiles with
  | none => []
  | some s => Plan.holds
    (Experiment.extremeRecovery.steps settings (Scenario.controllerFor b s.profile settings))

/-- A run of recoveries keeps the pace that is written. Its holds are by turns those of the manual
exposure and those after the return to auto-exposure; the frames recorded during one of them are as
far apart as its exposure asks, and from one to the next a frame comes one pace after the frame
before it, that of the hold that the earlier one came in. What is measured are the frames of the
latter holds. -/
structure Paced (settings : Settings) (b : Bench) (log : FrameLog) (nominal : Nat) : Prop where
  turns : ∃ v, Alternates
    (fun h => isManual settings v h ∧ match secondsToNanos? (v / 1000000.0) with
      | some exposure => h.times.IsChain fun t t' => t' = t + max nominal exposure
      | none => h.times.length ≤ 1)
    (fun h => isAuto settings h ∧ h.times.IsChain fun t t' => t' = t + nominal)
    (holds settings b)
  recorded : ∀ h ∈ holds settings b, log.slice h.before.framesObserved h.after.framesObserved =
    log.eventsOf h.before.framesObserved h.arrivals
  pace : InPace ((holds settings b).flatMap (·.beats nominal))
  windows : ∀ e ∈ recovered settings b, e.2 ∈ holds settings b ∧ isAuto settings e.2 ∧
    (e.2.times.IsChain fun t t' => t' = t + nominal) ∧
      Plan.recoveryTimes log e = e.2.times.map log.timestampAt

theorem times_of_manual {v : Float} {h : Plan.Step} (manual : isManual settings v h)
    (paced : InPace (h.beats nominal)) :
    match secondsToNanos? (v / 1000000.0) with
      | some exposure => h.times.IsChain fun t t' => t' = t + max nominal exposure
      | none => h.times.length ≤ 1 := by
  obtain ⟨-, off, exposed⟩ := manual
  rw [Plan.Step.beats, Bench.pace?_of_off nominal off exposed] at paced
  split
  next exposure span =>
    rw [span] at paced
    exact paced.times
  next missing =>
    rw [missing] at paced
    exact (List.length_map _).trans_le paced.length_le

theorem times_of_auto {h : Plan.Step} (auto : isAuto settings h)
    (paced : InPace (h.beats nominal)) : h.times.IsChain fun t t' => t' = t + nominal := by
  rw [Plan.Step.beats, Bench.pace?_of_auto nominal auto.2] at paced
  exact paced.times

theorem not_manual_of_recovers {v : Float} {h : Plan.Step} (recovers : h.recovers) :
    ¬ isManual settings v h := by
  rintro ⟨-, off, -⟩
  have none : ((some 0 : Option Float).any (· != 0)) = false := by decide
  rw [Plan.Step.recovers, off, none, Bool.and_false] at recovers
  cases recovers

theorem run_paced (settings : Settings) (baseline : Option BaselineSummary) {b : Bench}
    {camera : Camera} (device : b.device = .camera camera) {s : Selection}
    (selected : settings.profile.select? b.device.profiles = some s)
    (span : secondsToNanos? (s.profile.frameTimeMs / 1000.0) = some nominal)
    (positive : 0 < nominal) :
    Paced settings b (b.recordedSince (run settings baseline b).2) nominal := by
  obtain ⟨c, set⟩ : ∃ c, Scenario.controllerFor b s.profile settings = c := ⟨_, rfl⟩
  have held : holds settings b = Plan.holds (Experiment.extremeRecovery.steps settings c) := by
    simp only [holds, selected, set]
  have recoveries : recovered settings b =
      Plan.recoveries c (Experiment.extremeRecovery.steps settings c) := by
    simp only [recovered, selected, set]
  obtain ⟨id, v, keeps⟩ : ∃ id v, Plan.Keeps nominal id (isManual settings v) (isAuto settings) []
      (holds settings b) := by
    subst set
    rw [held]
    exact driven_keeps device span positive
  have slices : ∀ h ∈ holds settings b,
      (Scenario.recorded (driven settings c).2).slice h.before.framesObserved
          h.after.framesObserved =
        (Scenario.recorded (driven settings c).2).eventsOf h.before.framesObserved h.arrivals := by
    intro h member
    obtain ⟨listed, hold⟩ := List.mem_filter.mp (held ▸ member)
    exact Plan.Step.slice_hold hold (keeps.records h member)
      (continues_of_hold settings listed hold)
  rw [recordedSince_run settings baseline selected, set]
  refine ⟨⟨v, keeps.turns.imp ?_ ?_⟩, slices, keeps.paced, ?_⟩
  · exact fun h member manual => ⟨manual, times_of_manual manual (keeps.of_mem member)⟩
  · exact fun h member auto => ⟨auto, times_of_auto auto (keeps.of_mem member)⟩
  · intro e recovery
    rw [recoveries] at recovery
    have timely := (driven_completed settings c).timely e recovery
    obtain ⟨listed, recovers⟩ := List.mem_filter.mp recovery
    have member : e.2 ∈ holds settings b := by
      rw [held]
      exact List.mem_filter.mpr ⟨Plan.step_mem_of_sinceSwitch listed,
        Plan.Step.isHold_of_recovers recovers⟩
    have auto : isAuto settings e.2 :=
      (keeps.turns.mem e.2 member).resolve_left (not_manual_of_recovers recovers)
    refine ⟨member, auto, times_of_auto auto (keeps.of_mem member), ?_⟩
    rw [Plan.recoveryTimes, timely, slices e.2 member, FrameLog.map_hostTimestamp_eventsOf,
      Plan.Step.times, List.map_map]
    rfl

/-- On a camera of rates up to a billion a second, in whatever state it is and whatever its lag,
its dropouts and the settings, a run of recoveries keeps the pace. -/
theorem paced_on_camera (settings : Settings) (baseline : Option BaselineSummary) (b : Bench)
    (camera : Camera) {s : Selection}
    (rates : ∀ p ∈ camera.config.profiles, p.fps ≤ 10 ^ 9)
    (selected : settings.profile.select? camera.config.profiles = some s) :
    let b := { b with device := .camera camera }
    ∃ nominal, secondsToNanos? (s.profile.frameTimeMs / 1000.0) = some nominal ∧ 0 < nominal ∧
      Paced settings b (b.recordedSince (run settings baseline b).2) nominal := by
  intro b
  obtain ⟨nominal, span, positive⟩ :=
    Magnitude.period_of_rate (rates s.profile (ProfileQuery.mem_of_select? selected))
  exact ⟨nominal, span, positive, run_paced settings baseline rfl selected span positive⟩

/-- Two recoveries at thirty frames a second. The last frame of the first one arrives as its hold
ends. -/
theorem default_camera_paced :
    let settings : Settings :=
      { extremeRecovery := { iterations := 2, manualHoldMs := 200, autoHoldMs := 100 } }
    let b : Bench := { device := .camera (.ofConfig .default) }
    (holds settings b).map (·.times) =
        [[33333333, 100000000, 166666667], [233333334, 266666667, 300000000],
          [333333333, 400000000, 466666667], [533333334, 566666667, 600000000]] ∧
      (∀ p ∈ CameraConfig.default.profiles, p.fps ≤ 10 ^ 9) ∧
      settings.profile.select? CameraConfig.default.profiles =
        some ⟨⟨.depth, .z16, 848, 480, 30⟩, true⟩ ∧
      ∃ nominal, 0 < nominal ∧
        Paced settings b (b.recordedSince (run settings none b).2) nominal := by
  intro settings b
  have rates : ∀ p ∈ CameraConfig.default.profiles, p.fps ≤ 10 ^ 9 := by decide
  have selected : settings.profile.select? CameraConfig.default.profiles =
      some ⟨⟨.depth, .z16, 848, 480, 30⟩, true⟩ := by decide
  obtain ⟨nominal, -, positive, paced⟩ :=
    paced_on_camera settings none b (.ofConfig .default) rates selected
  exact ⟨by decide +kernel, rates, selected, nominal, positive, paced⟩

end ExtremeRecovery

end ExposureBench
