import ExposureBench.Proofs.Experiment
import ExposureBench.Proofs.InStep
import ExposureBench.Proofs.Recordings

/-!
If every call and every read that an experiment relies on is answered alike, then so is all that
is made of the answers.
-/

namespace ExposureBench

open Attempt

structure Device.Alike (d d' : Device) : Prop where
  name : d'.name = d.name
  profiles : d'.profiles = d.profiles
  supports : ∀ option, d'.supports option = d.supports option
  range : ∀ option, d'.range option = d.range option
  get : ∀ option, d'.get option = d.get option

/-- Related benches answer alike and stay related. Log `id` of the first is log `offset + id` of the
second. What either says to a stop or to a close is left open. -/
structure Bench.Simulation (R : Bench → Bench → Prop) (offset : Nat) : Prop where
  device : ∀ {r b}, R r b → r.device.Alike b.device
  log : ∀ {r b}, R r b → ∀ id,
    (b.log? (offset + id)).map (·.events) = (r.log? id).map (·.events)
  openWith : ∀ {r b}, R r b → ∀ profile,
    (b.openWith profile).1 = (r.openWith profile).1 ∧
      R (r.openWith profile).2 (b.openWith profile).2
  start : ∀ {r b}, R r b → ∀ field,
    (b.start field).1 = (r.start field).1.map (offset + ·) ∧ R (r.start field).2 (b.start field).2
  set : ∀ {r b}, R r b → ∀ option v,
    (b.set option v).1 = (r.set option v).1 ∧ R (r.set option v).2 (b.set option v).2
  sleep : ∀ {r b}, R r b → ∀ ms, R (r.sleep ms) (b.sleep ms)
  stop : ∀ {r b}, R r b → 0 < r.logs.size → R r.stop.2 b.stop.2
  close : ∀ {r b}, R r b → R r.close.2 b.close.2

def SameLog (offset : Nat) (id id' : LogId) : Prop := id' = offset + id

variable {R : Bench → Bench → Prop} {offset : Nat}

namespace Bench.Simulation

variable (sim : Simulation R offset) {r b : Bench} (related : R r b)
include sim related

theorem log_elim {α : Type} (none : α) (read : FrameLog → α)
    (reads : ∀ log log' : FrameLog, log'.events = log.events → read log' = read log)
    {id id' : LogId} (same : SameLog offset id id') :
    (b.log? id').elim none read = (r.log? id).elim none read := by
  subst same
  have events := sim.log related id
  generalize r.log? id = o, b.log? (offset + id) = o' at events ⊢
  cases o <;> cases o' <;> simp only [Option.map_some, Option.map_none, reduceCtorEq] at events
  · rfl
  · exact reads _ _ (Option.some.inj events)

theorem count {id id' : LogId} (same : SameLog offset id id') : b.count id' = r.count id :=
  sim.log_elim related 0 (·.count) (fun _ _ events => congrArg Array.size events) same

end Bench.Simulation

theorem Barrier.waitFrom_related (sim : Bench.Simulation R offset) (r : Bench) (barrier : Barrier)
    (log : LogId) (frames timeout base elapsed : Nat) :
    ∀ b, R r b →
      (barrier.waitFrom (offset + log) frames timeout base elapsed b).1 =
          (barrier.waitFrom log frames timeout base elapsed r).1 ∧
        R (barrier.waitFrom log frames timeout base elapsed r).2
          (barrier.waitFrom (offset + log) frames timeout base elapsed b).2 := by
  fun_induction waitFrom barrier log frames timeout base elapsed r with
  | case1 elapsed r _ satisfied =>
    intro b related
    rw [waitFrom.eq_def, sim.count related rfl]
    dsimp only
    rw [if_pos satisfied]
    exact ⟨rfl, related⟩
  | case2 elapsed r _ unsatisfied out =>
    intro b related
    rw [waitFrom.eq_def, sim.count related rfl]
    dsimp only
    rw [if_neg unsatisfied, if_pos out]
    exact ⟨rfl, related⟩
  | case3 elapsed r _ unsatisfied left pause ih =>
    intro b related
    rw [waitFrom.eq_def, sim.count related rfl]
    dsimp only
    rw [if_neg unsatisfied, if_neg left]
    exact ih (b.sleep pause) (sim.sleep related pause)

theorem Barrier.wait_related (sim : Bench.Simulation R offset) {r b : Bench} (related : R r b)
    (barrier : Barrier) (log : LogId) (frames timeout : Nat) :
    (barrier.wait (offset + log) frames timeout b).1 = (barrier.wait log frames timeout r).1 ∧
      R (barrier.wait log frames timeout r).2 (barrier.wait (offset + log) frames timeout b).2 := by
  rw [wait, wait, sim.count related rfl]
  exact waitFrom_related sim r barrier log frames timeout (r.count log) 0 b related

/-- Two sessions on related benches. A stop may be answered alike only once something has been
started. -/
structure Session.Mirrors (R : Bench → Bench → Prop) (r s : Session) : Prop where
  bench : R r.bench s.bench
  profile : s.profile = r.profile
  state : s.state = r.state
  begun : r.state = .started → 0 < r.bench.logs.size

namespace Session.Mirrors

variable (sim : Bench.Simulation R offset)
include sim

theorem openDevice : InStep (Session.Mirrors R) Eq openDevice openDevice := by
  intro r s mirrors
  rw [openDevice_apply, openDevice_apply, mirrors.state, mirrors.profile]
  split
  next closed =>
    obtain ⟨same, after⟩ := sim.openWith mirrors.bench r.profile
    rcases opens : r.bench.openWith r.profile with ⟨fault | _, bench⟩ <;>
      rcases opens' : s.bench.openWith r.profile with ⟨fault' | _, bench'⟩ <;>
      rw [opens, opens'] at same after <;> cases same
    · exact ⟨.failed _, after, rfl, rfl, by simp [closed]⟩
    · exact ⟨.done rfl, after, rfl, rfl, nofun⟩
  · exact ⟨.failed _, mirrors⟩

theorem starts (field : MetadataField) :
    InStep (Session.Mirrors R) (SameLog offset) (Session.start field) (Session.start field) := by
  intro r s mirrors
  rw [start_apply, start_apply, mirrors.state]
  split
  next ready =>
    obtain ⟨same, after⟩ := sim.start mirrors.bench field
    rcases began : r.bench.start field with ⟨fault | id, bench⟩ <;>
      rcases began' : s.bench.start field with ⟨fault' | id', bench'⟩ <;>
      rw [began, began'] at same after <;> cases same
    · exact ⟨.failed _, after, mirrors.profile, rfl, by rcases ready with h | h <;> simp [h]⟩
    · refine ⟨.done rfl, after, mirrors.profile, rfl, fun _ => ?_⟩
      obtain ⟨_, _, present⟩ := Bench.start_done began
      obtain ⟨lt, _⟩ := Array.getElem?_eq_some_iff.mp present
      exact Nat.lt_of_le_of_lt (Nat.zero_le id) lt
  · exact ⟨.failed _, mirrors⟩

theorem tornDown {r s : Session} (mirrors : r.Mirrors R s) : r.tornDown.Mirrors R s.tornDown := by
  obtain ⟨bench, profile, state, begun⟩ := mirrors
  rcases r with ⟨_, _, rest, _⟩
  rcases s with ⟨_, _, _, _⟩
  cases state
  cases rest with
  | closed => exact ⟨bench, profile, rfl, nofun⟩
  | opened => exact ⟨sim.close bench, profile, rfl, nofun⟩
  | started => exact ⟨sim.close (sim.stop bench (begun rfl)), profile, rfl, nofun⟩
  | stopped => exact ⟨sim.close bench, profile, rfl, nofun⟩

end Session.Mirrors

structure Controller.Mirrors (R : Bench → Bench → Prop) (offset : Nat) (r c : Controller) :
    Prop where
  session : r.session.Mirrors R c.session
  barrier : c.barrier = r.barrier
  timeoutMs : c.timeoutMs = r.timeoutMs
  phase : c.phase = r.phase
  log : c.log = r.log.map (offset + ·)

/-- On related controllers an attempt does the same. -/
abbrev Controller.Mirrored {α : Type} (R : Bench → Bench → Prop) (offset : Nat)
    (act : Attempt Controller α) : Prop :=
  InStep (Controller.Mirrors R offset) Eq act act

namespace Controller.Mirrors

section

variable {r c : Controller} (mirrors : r.Mirrors R offset c)
include mirrors

theorem bench : R r.bench c.bench := mirrors.session.bench

theorem inPhase (phase : Phase) : (r.inPhase phase).Mirrors R offset (c.inPhase phase) :=
  { mirrors with phase := rfl }

theorem withBench {bench bench' : Bench} (evolves : r.bench.Evolves bench)
    (after : R bench bench') :
    (r.withBench bench).Mirrors R offset (c.withBench bench') := by
  refine { mirrors with session := { mirrors.session with bench := after, begun := ?_ } }
  intro started
  change 0 < bench.logs.size
  rw [evolves.size_logs]
  exact mirrors.session.begun started

end

theorem transition (next : Phase) : Mirrored R offset (transition next) := by
  intro r c mirrors
  rw [transition_apply, transition_apply, mirrors.phase]
  split
  · exact ⟨.done rfl, mirrors.inPhase next⟩
  · exact ⟨.failed _, mirrors⟩

theorem activeLog : InStep (Controller.Mirrors R offset) (SameLog offset) activeLog activeLog := by
  intro r c mirrors
  rw [activeLog_apply, activeLog_apply, mirrors.log]
  cases r.log with
  | none => exact ⟨.failed _, mirrors⟩
  | some log => exact ⟨.done rfl, mirrors⟩

variable (sim : Bench.Simulation R offset)
include sim

section

variable {r c : Controller} (mirrors : r.Mirrors R offset c)
include mirrors

theorem device : r.device.Alike c.device := sim.device mirrors.bench

theorem count {log log' : LogId} (same : SameLog offset log log') :
    c.bench.count log' = r.bench.count log :=
  sim.count mirrors.bench same

theorem framesObserved : c.framesObserved = r.framesObserved := by
  rw [Controller.framesObserved, Controller.framesObserved, mirrors.log]
  cases r.log with
  | none => rfl
  | some log => exact sim.count mirrors.bench rfl

theorem tornDown : r.tornDown.Mirrors R offset c.tornDown :=
  { mirrors with session := mirrors.session.tornDown sim }

end

theorem sleep (ms : Nat) : Mirrored R offset (sleep ms) :=
  fun _ _ mirrors => ⟨.done rfl, mirrors.withBench (.slept .refl ms) (sim.sleep mirrors.bench ms)⟩

theorem request (option : DeviceOption) (value : Float) :
    Mirrored R offset (request option value) := by
  intro r c mirrors
  rw [request_apply, request_apply, mirrors.phase]
  split
  · obtain ⟨same, after⟩ := sim.set mirrors.bench option value
    rw [same]
    exact ⟨.of_eq rfl, (mirrors.inPhase _).withBench (.written .refl option value) after⟩
  · exact ⟨.failed _, mirrors⟩

theorem confirm (option : DeviceOption) (value : Float) :
    Mirrored R offset (confirm option value) := by
  intro r c mirrors
  rw [confirm_apply, confirm_apply, (mirrors.device sim).get]
  cases r.device.get option with
  | error fault => exact ⟨.failed _, mirrors⟩
  | ok actual =>
    dsimp only
    split
    · exact ⟨.failed _, mirrors⟩
    · exact ⟨.done rfl, mirrors⟩

theorem requestConfirmed (option : DeviceOption) (value : Float) :
    Mirrored R offset (requestConfirmed option value) :=
  (request sim option value).bind_eq fun _ => (confirm sim option value).bind_eq fun _ => .pure rfl

theorem setAutoExposure (on : Bool) : Mirrored R offset (setAutoExposure on) := request sim _ _

theorem settleNow : Mirrored R offset settleNow := by
  apply InStep.get.bind
  intro r c mirrors
  rw [mirrors.framesObserved sim]
  exact transition _

theorem warmUp (ms : Nat) : Mirrored R offset (warmUp ms) := by
  apply (sleep sim ms).bind_eq
  intro _
  apply InStep.get.bind
  intro r c mirrors
  rw [mirrors.framesObserved sim]
  exact (transition _).bind_eq fun _ => .pure rfl

theorem await {log log' : LogId} (same : SameLog offset log log') (frames timeoutMs : Nat) :
    InStep (Controller.Mirrors R offset) Eq (await log frames timeoutMs)
      (await log' frames timeoutMs) := by
  intro r c mirrors
  subst same
  obtain ⟨same, after⟩ := r.barrier.wait_related sim mirrors.bench log frames timeoutMs
  have waited := mirrors.withBench (r.barrier.wait_evolves log frames timeoutMs r.bench) after
  rw [await_apply, await_apply, mirrors.barrier]
  dsimp only
  rw [same]
  split
  · exact ⟨.done rfl, waited⟩
  · exact ⟨.failed _, (waited.inPhase _).tornDown sim⟩

theorem stabilize (frames : Nat) : Mirrored R offset (stabilize frames) := by
  apply activeLog.bind
  intro log log' same
  apply (transition _).bind_eq
  intro _
  apply InStep.get.bind
  intro r c mirrors
  rw [mirrors.timeoutMs]
  apply (await sim same _ _).bind_eq
  intro _
  apply InStep.get.bind
  intro r c mirrors
  rw [mirrors.count sim same]
  exact transition _

theorem collectWithin (frames : Nat) (expected : Bool) (timeoutMs : Nat) :
    Mirrored R offset (collectWithin frames expected timeoutMs) := by
  apply InStep.get.bind
  intro r c mirrors
  have collects : InStep (Controller.Mirrors R offset) Eq
      (do
        let log ← Controller.activeLog
        Controller.await log frames timeoutMs
        return Window.spanning (r.bench.count log) ((← MonadState.get).bench.count log)
          expected)
      (do
        let log ← Controller.activeLog
        Controller.await log frames timeoutMs
        return Window.spanning (c.bench.count log) ((← MonadState.get).bench.count log)
          expected) := by
    apply activeLog.bind
    intro log log' same
    apply (await sim same _ _).bind_eq
    intro _
    apply InStep.get.bind
    intro r' c' mirrors'
    rw [mirrors.count sim same, mirrors'.count sim same]
    exact .pure rfl
  rw [mirrors.phase]
  exact .ite .rfl ((InStep.throw _).bind_eq fun _ => collects) collects

theorem collect (frames : Nat) (expected : Bool) : Mirrored R offset (collect frames expected) := by
  apply InStep.get.bind
  intro r c mirrors
  rw [mirrors.timeoutMs]
  exact collectWithin sim frames expected _

theorem stall {α : Type} (requested observed limitMs : Nat) :
    Mirrored R offset (stall requested observed limitMs : Attempt Controller α) := by
  intro r c mirrors
  rw [stall_apply, stall_apply]
  exact ⟨.failed _, (mirrors.inPhase _).tornDown sim⟩

theorem hold (ms : Nat) : Mirrored R offset (hold ms) := by
  apply activeLog.bind
  intro log log' same
  apply InStep.get.bind
  intro r c mirrors
  apply (sleep sim ms).bind_eq
  intro _
  apply InStep.get.bind
  intro r' c' mirrors'
  rw [mirrors.count sim same, mirrors'.count sim same]
  have settles : Mirrored R offset (do
      Controller.transition (.settled (r'.bench.count log))
      return r'.bench.count log - r.bench.count log) :=
    (transition _).bind_eq fun _ => .pure rfl
  exact .ite .rfl ((stall sim _ _ _).bind_eq fun _ => settles) settles

theorem beginStreaming (field : MetadataField) :
    InStep (Controller.Mirrors R offset) (SameLog offset) (beginStreaming field)
      (beginStreaming field) := by
  intro r c mirrors
  have opens : InStep (Session.Mirrors R) Eq Session.openDevice Session.openDevice :=
    Session.Mirrors.openDevice sim
  have begins := opens.bind_eq fun _ => Session.Mirrors.starts sim field
  obtain ⟨answers, after⟩ := begins r.session c.session mirrors.session
  rw [beginStreaming_apply, beginStreaming_apply]
  generalize (do Session.openDevice; Session.start field : Attempt Session LogId) r.session = ran
    at answers after ⊢
  generalize (do Session.openDevice; Session.start field : Attempt Session LogId) c.session = ran'
    at answers after ⊢
  rcases ran with ⟨outcome, session⟩
  rcases ran' with ⟨outcome', session'⟩
  cases answers with
  | failed failure => exact ⟨.failed failure, { mirrors with session := after.tornDown sim }⟩
  | done same => exact ⟨.done same, { mirrors with session := after, log := congrArg some same }⟩

omit sim in
/-- A controller with a book of what it has been used for. The books are the same. -/
structure Booked {σ ν : Type} (R : Bench → Bench → Prop) (offset : Nat) (part : σ → Controller)
    (book : σ → ν) (r s : σ) : Prop where
  controller : (part r).Mirrors R offset (part s)
  book : book s = book r

omit sim in
theorem within_booked {σ ν α α' : Type} (part : σ → Controller) (book : σ → ν)
    (replace : σ → Controller → σ) (replaced : ∀ s c, part (replace s c) = c)
    (booked : ∀ s c, book (replace s c) = book s) {Q : α → α' → Prop}
    {act : Attempt Controller α} {act' : Attempt Controller α'}
    (inner : InStep (Controller.Mirrors R offset) Q act act') :
    InStep (Booked R offset part book) Q (Attempt.within part replace act)
      (Attempt.within part replace act') := by
  apply inner.within
  · intro r s mirrors
    exact mirrors.controller
  · intro r s c c' mirrors controller
    refine ⟨?_, ?_⟩
    · rw [replaced, replaced]
      exact controller
    · rw [booked, booked]
      exact mirrors.book

end Controller.Mirrors

open Controller.Mirrors

variable (sim : Bench.Simulation R offset)

section
include sim

theorem Scenario.applyMode_mirrored (mode : ExposureMode) :
    Controller.Mirrored R offset (applyMode mode) := by
  apply InStep.get.bind
  intro r c mirrors
  dsimp only
  rw [(mirrors.device sim).supports, (mirrors.device sim).name]
  exact .ite .rfl (requestConfirmed sim _ _) (.ite .rfl (.throw _) (.pure rfl))

theorem Baseline.drive_mirrored (settings : Settings) :
    Controller.Mirrored R offset (drive settings) := by
  apply (beginStreaming sim _).bind
  intro _ _ _
  apply (setAutoExposure sim true).bind_eq
  intro _
  exact (warmUp sim _).bind_eq fun _ => collectWithin sim _ _ _

theorem SteadyState.drive_mirrored (settings : Settings) (on : Bool) (mode : ExposureMode) :
    Controller.Mirrored R offset (drive settings on mode) := by
  have collects : Controller.Mirrored R offset (do
      Controller.requestConfirmed .enableAutoExposure (if on then 1 else 0)
      let _ ← Controller.beginStreaming .autoExposure
      Controller.settleNow
      Controller.collectWithin settings.steadyState.frames on settings.steadyState.timeoutMs) := by
    apply (requestConfirmed sim _ _).bind_eq
    intro _
    apply (beginStreaming sim _).bind
    intro _ _ _
    exact (settleNow sim).bind_eq fun _ => collectWithin sim _ _ _
  exact .ite .rfl ((Scenario.applyMode_mirrored sim mode).bind_eq fun _ => collects) collects

end

namespace RapidToggle

theorem control_inStep {α α' : Type} {Q : α → α' → Prop} {act : Attempt Controller α}
    {act' : Attempt Controller α'} (inner : InStep (Controller.Mirrors R offset) Q act act') :
    InStep (Booked R offset Run.controller Run.checks) Q (control act) (control act') :=
  within_booked Run.controller Run.checks (fun r controller => { r with controller })
    (fun _ _ => rfl) (fun _ _ => rfl) inner

include sim

theorem verify_inStep (settings : Settings) {log log' : LogId} (same : SameLog offset log log')
    (on : Bool) :
    InStep (Booked R offset Run.controller Run.checks) Eq (verify settings log on)
      (verify settings log' on) := by
  apply (control_inStep (collect sim _ on)).bind_eq
  intro w
  apply InStep.modify
  intro r s mirrors
  refine ⟨mirrors.controller, ?_⟩
  have events : (s.controller.bench.log? log').elim [] (·.slice w.start w.stop) =
      (r.controller.bench.log? log).elim [] (·.slice w.start w.stop) := by
    apply sim.log_elim mirrors.controller.bench [] _ _ same
    intro log log' events
    rw [FrameLog.slice_eq_extract, FrameLog.slice_eq_extract, events]
  dsimp only
  rw [events, mirrors.book]

theorem toggle_inStep (settings : Settings) {log log' : LogId} (same : SameLog offset log log')
    (left : Nat) (on : Bool) :
    InStep (Booked R offset Run.controller Run.checks) Eq (toggle settings log left on)
      (toggle settings log' left on) := by
  induction left generalizing on with
  | zero => exact .pure rfl
  | succ left ih =>
    apply (control_inStep (setAutoExposure sim on)).bind_eq
    intro _
    apply (control_inStep (stabilize sim _)).bind_eq
    intro _
    exact (verify_inStep sim settings same on).bind_eq fun _ => ih (!on)

theorem drive_inStep (settings : Settings) (mode : ExposureMode) :
    InStep (Booked R offset Run.controller Run.checks) Eq (drive settings mode)
      (drive settings mode) := by
  apply (control_inStep (Scenario.applyMode_mirrored sim mode)).bind_eq
  intro _
  apply (control_inStep (beginStreaming sim _)).bind
  intro log log' same
  apply (control_inStep (setAutoExposure sim true)).bind_eq
  intro _
  apply (control_inStep (warmUp sim _)).bind_eq
  intro _
  cases settings.rapidToggle.toggles with
  | zero => exact .pure rfl
  | succ left =>
    apply (verify_inStep sim settings same true).bind_eq
    intro _
    exact toggle_inStep sim settings same left false

theorem driven_mirrors (settings : Settings) (mode : ExposureMode) {r c : Controller}
    (mirrors : r.Mirrors R offset c) :
    (driven settings mode c).1 = (driven settings mode r).1 ∧
      (driven settings mode r).2.Mirrors R offset (driven settings mode c).2 := by
  obtain ⟨answers, after⟩ := drive_inStep sim settings mode { controller := r } { controller := c }
    ⟨mirrors, rfl⟩
  unfold driven
  exact ⟨Prod.ext answers.eq.symm after.book, after.controller⟩

end RapidToggle

namespace ExtremeRecovery

theorem control_inStep {α α' : Type} {Q : α → α' → Prop} {act : Attempt Controller α}
    {act' : Attempt Controller α'} (inner : InStep (Controller.Mirrors R offset) Q act act') :
    InStep (Booked R offset Run.controller Run.totals) Q (control act) (control act') :=
  within_booked Run.controller Run.totals (fun r controller => { r with controller })
    (fun _ _ => rfl) (fun _ _ => rfl) inner

include sim

theorem iterate_inStep (settings : Settings) (a : TimingAnalyzer) {log log' : LogId}
    (same : SameLog offset log log') (exposure : Float) (left : Nat) :
    InStep (Booked R offset Run.controller Run.totals) Eq (iterate settings a log exposure left)
      (iterate settings a log' exposure left) := by
  induction left with
  | zero => exact .pure rfl
  | succ left ih =>
    apply (control_inStep (setAutoExposure sim false)).bind_eq
    intro _
    apply (control_inStep (request sim _ _)).bind_eq
    intro _
    apply (control_inStep (hold sim _)).bind_eq
    intro _
    apply InStep.get.bind
    intro before before' mirrors
    rw [mirrors.controller.count sim same]
    apply (control_inStep (setAutoExposure sim true)).bind_eq
    intro _
    apply (control_inStep (hold sim _)).bind_eq
    intro _
    apply (InStep.modify ?_).bind_eq fun _ => ih
    intro r s mirrors
    refine ⟨mirrors.controller, ?_⟩
    have window : (s.controller.bench.log? log').elim #[]
        (·.timestampsFrom (before.controller.bench.count log)) =
        (r.controller.bench.log? log).elim #[]
          (·.timestampsFrom (before.controller.bench.count log)) := by
      apply sim.log_elim mirrors.controller.bench #[] _ _ same
      intro log log' events
      simp only [FrameLog.timestampsFrom, FrameLog.count, events]
    dsimp only
    rw [window, mirrors.book]

theorem drive_inStep (settings : Settings) (a : TimingAnalyzer) :
    InStep (Booked R offset Run.controller Run.totals) Eq (drive settings a)
      (drive settings a) := by
  intro r s mirrors
  have device := mirrors.controller.device sim
  have exposure : exposure? settings s.controller.session.profile s.controller.device =
      exposure? settings r.controller.session.profile r.controller.device := by
    simp only [exposure?, device.supports, device.range, device.name,
      mirrors.controller.session.profile]
  rw [drive_apply, drive_apply, exposure]
  rcases exposure? settings r.controller.session.profile r.controller.device with
    failure | exposure
  · exact ⟨.failed failure, mirrors⟩
  · have iterates : InStep (Booked R offset Run.controller Run.totals) Eq
        (control (Controller.beginStreaming .autoExposure) >>= fun log =>
          iterate settings a log exposure settings.extremeRecovery.iterations)
        (control (Controller.beginStreaming .autoExposure) >>= fun log =>
          iterate settings a log exposure settings.extremeRecovery.iterations) :=
      (control_inStep (beginStreaming sim _)).bind fun _ _ same =>
        iterate_inStep sim settings a same exposure _
    exact iterates r s mirrors

theorem driven_mirrors (settings : Settings) {r c : Controller} (mirrors : r.Mirrors R offset c) :
    (driven settings c).1 = (driven settings r).1 ∧
      (driven settings r).2.Mirrors R offset (driven settings c).2 := by
  obtain ⟨answers, after⟩ := drive_inStep sim settings
    (Scenario.analyzerFor r.session.profile settings) { controller := r } { controller := c }
    ⟨mirrors, rfl⟩
  unfold driven
  rw [mirrors.session.profile]
  exact ⟨Prod.ext answers.eq.symm after.book, after.controller⟩

end ExtremeRecovery

/-! The judges look at the events of a log and at nothing else of it. -/

section Judges

variable {log log' : FrameLog} (events : log'.events = log.events)
include events

theorem FrameLog.timestamps_congr : log'.timestamps = log.timestamps := by
  simp only [timestamps, timestampsFrom, count, events]

theorem Baseline.judge_congr (settings : Settings) (profile : StreamProfile)
    (outcome : Except Failure Window) (v : Verdict) :
    judge settings profile outcome log' v = judge settings profile outcome log v := by
  simp only [judge, FrameLog.timestamps_congr events]

theorem SteadyState.judge_congr (profile : StreamProfile) (outcome : Except Failure Window)
    (v : Verdict) : judge profile outcome log' v = judge profile outcome log v := by
  have all : log'.all = log.all := congrArg Array.toList events
  unfold judge
  rw [all]

theorem RapidToggle.judge_congr (settings : Settings) (baseline : Option BaselineSummary)
    (profile : StreamProfile) (outcome : Except Failure Unit × Consistency) (v : Verdict) :
    judge settings baseline profile outcome log' v =
      judge settings baseline profile outcome log v := by
  simp only [judge, FrameLog.timestamps_congr events]

theorem ExtremeRecovery.judge_congr (settings : Settings) (baseline : Option BaselineSummary)
    (profile : StreamProfile) (outcome : Except Failure Unit × Totals) (v : Verdict) :
    judge settings baseline profile outcome log' v =
      judge settings baseline profile outcome log v := by
  simp only [judge, judgeTotals, FrameLog.timestamps_congr events]

end Judges

namespace Scenario

variable {r b : Bench}

theorem controllerFor_mirrors (related : R r b) (profile : StreamProfile) (settings : Settings) :
    (controllerFor r profile settings).Mirrors R offset (controllerFor b profile settings) :=
  ⟨⟨related, rfl, rfl, nofun⟩, rfl, rfl, rfl, rfl⟩

include sim

theorem events_recorded {r c : Controller} (mirrors : r.Mirrors R offset c) :
    (recorded c).events = (recorded r).events := by
  rw [recorded, recorded, mirrors.log]
  rcases r.log with _ | log
  · rfl
  · have events := sim.log_elim mirrors.bench #[] (·.events) (fun _ _ events => events)
      (rfl : SameLog offset log (offset + log))
    change ((c.bench.log? (offset + log)).getD _).events = ((r.bench.log? log).getD _).events
    generalize r.bench.log? log = o, c.bench.log? (offset + log) = o' at events ⊢
    cases o <;> cases o' <;> exact events

theorem conduct_mirrors {α : Type} (name : String) (q : ProfileQuery) (settings : Settings)
    {drive : Controller → α × Controller} {judge : StreamProfile → α → FrameLog → Verdict → Verdict}
    (drives : ∀ r c : Controller, r.Mirrors R offset c →
      (drive c).1 = (drive r).1 ∧ (drive r).2.Mirrors R offset (drive c).2)
    (judges : ∀ profile outcome (log log' : FrameLog) v, log'.events = log.events →
      judge profile outcome log' v = judge profile outcome log v)
    (related : R r b) :
    (conduct name q settings drive judge b).1 = (conduct name q settings drive judge r).1 ∧
      R (conduct name q settings drive judge r).2 (conduct name q settings drive judge b).2 := by
  have profiles := (sim.device related).profiles
  have selects : ∀ v, selectProfile b.device q v = selectProfile r.device q v := by
    intro v
    rw [selectProfile, selectProfile, profiles]
  rw [conduct_eq, conduct_eq, profiles]
  rcases q.select? r.device.profiles with _ | s
  · exact ⟨congrArg Prod.snd (selects _), related⟩
  · dsimp only
    obtain ⟨outcome, driven⟩ := drives _ _ (controllerFor_mirrors related s.profile settings)
    have torn := driven.tornDown sim
    rw [← Controller.finish_eq, ← Controller.finish_eq] at torn
    refine ⟨?_, torn.bench⟩
    rw [outcome, judges _ _ _ _ _ (events_recorded sim torn), torn.framesObserved sim, selects]

end Scenario

include sim in
theorem Experiment.run_mirrors (settings : Settings) (baseline : Option BaselineSummary)
    (e : Experiment) {r b : Bench} (related : R r b) :
    (e.run settings baseline b).1 = (e.run settings baseline r).1 ∧
      R (e.run settings baseline r).2 (e.run settings baseline b).2 := by
  cases e with
  | baseline =>
    simp only [run, Baseline.run]
    refine Scenario.conduct_mirrors sim _ _ _ ?_ ?_ related
    · intro r c mirrors
      obtain ⟨answers, after⟩ := Baseline.drive_mirrored sim settings r c mirrors
      exact ⟨answers.eq.symm, after⟩
    · intro profile outcome _ _ v events
      exact Baseline.judge_congr events settings profile outcome v
  | steadyState on mode =>
    simp only [run, SteadyState.run]
    refine Scenario.conduct_mirrors sim _ _ _ ?_ ?_ related
    · intro r c mirrors
      obtain ⟨answers, after⟩ := SteadyState.drive_mirrored sim settings on mode r c mirrors
      exact ⟨answers.eq.symm, after⟩
    · intro profile outcome _ _ v events
      exact SteadyState.judge_congr events profile outcome v
  | rapidToggle mode =>
    simp only [run, RapidToggle.run]
    refine Scenario.conduct_mirrors sim _ _ _ ?_ ?_ related
    · intro r c mirrors
      exact RapidToggle.driven_mirrors sim settings mode mirrors
    · intro profile outcome _ _ v events
      exact RapidToggle.judge_congr events settings baseline profile outcome v
  | extremeRecovery =>
    simp only [run, ExtremeRecovery.run]
    refine Scenario.conduct_mirrors sim _ _ _ ?_ ?_ related
    · intro r c mirrors
      exact ExtremeRecovery.driven_mirrors sim settings mirrors
    · intro profile outcome _ _ v events
      exact ExtremeRecovery.judge_congr events settings baseline profile outcome v

namespace Suite

include sim

theorem runEach_mirrors (settings : Settings) (baseline : Option BaselineSummary)
    (es : List Experiment) {r b : Bench} (related : R r b) :
    (runEach settings baseline es b).1 = (runEach settings baseline es r).1 ∧
      R (runEach settings baseline es r).2 (runEach settings baseline es b).2 := by
  induction es generalizing r b with
  | nil => exact ⟨rfl, related⟩
  | cons e rest ih =>
    obtain ⟨verdict, after⟩ := e.run_mirrors sim settings baseline related
    obtain ⟨verdicts, last⟩ := ih after
    exact ⟨congrArg₂ List.cons verdict verdicts, last⟩

theorem run_mirrors (settings : Settings) {r b : Bench} (related : R r b) :
    (run settings b).1 = (run settings r).1 ∧ R (run settings r).2 (run settings b).2 := by
  have first := Experiment.baseline.run_mirrors sim settings none related
  have name := (sim.device related).name
  have baseline : ∀ b, Experiment.baseline.run settings none b = Baseline.run settings b :=
    fun _ => rfl
  rw [baseline, baseline] at first
  rw [run, run, name]
  generalize Baseline.run settings r = ran, Baseline.run settings b = ran' at first ⊢
  rcases ran with ⟨v, r'⟩
  rcases ran' with ⟨v', b'⟩
  obtain ⟨rfl, after⟩ := first
  obtain ⟨verdicts, last⟩ := runEach_mirrors sim settings (Baseline.summary? v') experiments after
  dsimp only at verdicts last ⊢
  rw [verdicts]
  exact ⟨rfl, last⟩

end Suite

end ExposureBench
