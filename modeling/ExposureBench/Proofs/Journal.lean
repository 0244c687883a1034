import ExposureBench.Proofs.InStep
import ExposureBench.Proofs.Usage
import ExposureBench.Proofs.Waiting

/-!
A controller with a journal does just what the controller does, and notes every write of its
phase.
-/

namespace ExposureBench

/-- A controller with the writes of its phase, each as the phase it found and the one it left. -/
structure Journal where
  controller : Controller
  writes : List (Phase × Phase) := []

namespace Journal

variable {α : Type}

def quiet (act : Attempt Controller α) : Attempt Journal α :=
  Attempt.within (·.controller) (fun j controller => { j with controller }) act

def write (phase : Phase) : Attempt Journal Unit :=
  modify fun j => ⟨j.controller.inPhase phase, j.writes ++ [(j.controller.phase, phase)]⟩

def transition (next : Phase) : Attempt Journal Unit := do
  let c ← quiet get
  if c.phase.canTransition next then write next
  else Attempt.refuse (.transition c.phase next)

def request (option : DeviceOption) (value : Float) : Attempt Journal Unit := do
  transition (.requested option value)
  match ← quiet (Controller.onBench (·.set option value)) with
  | .ok () => return ()
  | .error fault => throw (.ofRejection option value fault)

def requestConfirmed (option : DeviceOption) (value : Float) : Attempt Journal Unit := do
  request option value
  let _ ← quiet (Controller.confirm option value)

def settleNow : Attempt Journal Unit := do
  transition (.settled (← quiet get).framesObserved)

def warmUp (ms : Nat) : Attempt Journal Nat := do
  quiet (Controller.sleep ms)
  let frames := (← quiet get).framesObserved
  transition (.settled frames)
  return frames

def stall (requested observed limitMs : Nat) : Attempt Journal α := do
  write (.stalled requested observed)
  quiet (Controller.onSession Session.teardown)
  throw (.timedOut requested observed (Duration.ofMillis limitMs))

def await (log : LogId) (frames timeoutMs : Nat) : Attempt Journal Unit := do
  let barrier := (← quiet get).barrier
  let outcome ← quiet (Controller.onBench (barrier.wait log frames timeoutMs))
  if !outcome.isSatisfied then stall outcome.requested outcome.observed timeoutMs

def stabilize (frames : Nat) : Attempt Journal Unit := do
  let log ← quiet Controller.activeLog
  transition (.stabilizing frames)
  await log frames (← quiet get).timeoutMs
  transition (.settled ((← quiet get).bench.count log))

def collectWithin (frames : Nat) (expected : Bool) (timeoutMs : Nat) : Attempt Journal Window := do
  let c ← quiet get
  if !c.phase.isSettled then Attempt.refuse (.collectIn c.phase)
  let log ← quiet Controller.activeLog
  let start := c.bench.count log
  await log frames timeoutMs
  return .spanning start ((← quiet get).bench.count log) expected

def collect (frames : Nat) (expected : Bool) : Attempt Journal Window := do
  collectWithin frames expected (← quiet get).timeoutMs

def hold (ms : Nat) : Attempt Journal Nat := do
  let log ← quiet Controller.activeLog
  let before := (← quiet get).bench.count log
  quiet (Controller.sleep ms)
  let after := (← quiet get).bench.count log
  let observed := after - before
  if observed = 0 then stall 1 0 ms
  transition (.settled after)
  return observed

end Journal

def Operation.journaled : Operation → Attempt Journal Reply
  | .beginStreaming field => .stream <$> Journal.quiet (Controller.beginStreaming field)
  | .request option value => (fun _ => .done) <$> Journal.request option value
  | .requestConfirmed option value => (fun _ => .done) <$> Journal.requestConfirmed option value
  | .settleNow => (fun _ => .done) <$> Journal.settleNow
  | .warmUp ms => .frames <$> Journal.warmUp ms
  | .stabilize frames => (fun _ => .done) <$> Journal.stabilize frames
  | .collect frames expected => .window <$> Journal.collect frames expected
  | .collectWithin frames expected timeoutMs =>
    .window <$> Journal.collectWithin frames expected timeoutMs
  | .hold ms => .frames <$> Journal.hold ms

open Attempt

namespace Journal

variable {α β : Type}

theorem transition_apply (next : Phase) (j : Journal) :
    transition next j =
      if j.controller.phase.canTransition next then
        (.ok (), ⟨j.controller.inPhase next, j.writes ++ [(j.controller.phase, next)]⟩)
      else (.error (.refused (.transition j.controller.phase next)), j) := by
  by_cases can : j.controller.phase.canTransition next <;>
    simp [transition, bind_apply, quiet, write, can]

theorem stall_apply (requested observed limitMs : Nat) (j : Journal) :
    (stall requested observed limitMs : Attempt Journal α) j =
      (.error (.timedOut requested observed (Duration.ofMillis limitMs)),
        ⟨j.controller.stalledAt requested observed,
          j.writes ++ [(j.controller.phase, .stalled requested observed)]⟩) := by
  simp [stall, bind_apply, quiet, write, Controller.onSession, Session.teardown_apply,
    Controller.stalledAt, Controller.inPhase, Controller.tornDown]

theorem hold_apply (ms : Nat) (j : Journal) :
    hold ms j = match j.controller.log with
      | none => (.error (.refused .noStream), j)
      | some log =>
        let c := j.controller.slept ms
        let observed := c.bench.count log - j.controller.bench.count log
        if observed = 0 then
          (.error (.timedOut 1 0 (Duration.ofMillis ms)),
            ⟨c.stalledAt 1 0, j.writes ++ [(c.phase, .stalled 1 0)]⟩)
        else match transition (.settled (c.bench.count log)) { j with controller := c } with
          | (.error failure, j') => (.error failure, j')
          | (.ok (), j') => (.ok observed, j') := by
  rw [hold, bind_apply, quiet, within_apply, Controller.activeLog_apply]
  cases j.controller.log with
  | none => rfl
  | some log =>
    simp only [quiet, within_apply, get_apply, bind_apply, Controller.sleep, Controller.onBench,
      Attempt.ite_apply, stall_apply]
    by_cases none : (j.controller.slept ms).bench.count log - j.controller.bench.count log = 0
    · rw [if_pos none, if_pos none]
    · rw [if_neg none, if_neg none]
      rcases transition _ _ with ⟨_ | _, _⟩ <;> rfl

abbrev Erases (act : Attempt Journal α) (plain : Attempt Controller α) : Prop :=
  InStep (fun j c => j.controller = c) Eq act plain

namespace Erases

theorem quiet (act : Attempt Controller α) : Erases (Journal.quiet act) act := by
  rintro j _ rfl
  exact ⟨.of_eq rfl, rfl⟩

theorem map (f : α → β) {act : Attempt Journal α} {plain : Attempt Controller α}
    (erases : Erases act plain) : Erases (f <$> act) (f <$> plain) := by
  rw [map_eq_pure_bind, map_eq_pure_bind]
  exact erases.bind_eq fun a => .pure rfl

theorem transition (next : Phase) :
    Erases (Journal.transition next) (Controller.transition next) := by
  rintro j _ rfl
  rw [transition_apply, Controller.transition_apply]
  split
  · exact ⟨.done rfl, rfl⟩
  · exact ⟨.failed _, rfl⟩

theorem stall (requested observed limitMs : Nat) :
    Erases (Journal.stall requested observed limitMs : Attempt Journal α)
      (Controller.stall requested observed limitMs) := by
  have writes : Erases (write (.stalled requested observed))
      (modify fun c => { c with phase := .stalled requested observed }) := by
    rintro j _ rfl
    exact ⟨.done rfl, rfl⟩
  exact writes.bind_eq fun _ => (quiet _).bind_eq fun _ => .throw _

theorem request (option : DeviceOption) (value : Float) :
    Erases (Journal.request option value) (Controller.request option value) := by
  apply (transition _).bind_eq
  intro _
  apply (quiet _).bind_eq
  rintro (fault | _)
  · exact .throw _
  · exact .pure rfl

theorem requestConfirmed (option : DeviceOption) (value : Float) :
    Erases (Journal.requestConfirmed option value) (Controller.requestConfirmed option value) :=
  (request option value).bind_eq fun _ => (quiet _).bind_eq fun _ => .pure rfl

theorem settleNow : Erases Journal.settleNow Controller.settleNow :=
  (quiet get).bind_eq fun _ => transition _

theorem warmUp (ms : Nat) : Erases (Journal.warmUp ms) (Controller.warmUp ms) :=
  (quiet _).bind_eq fun _ => (quiet get).bind_eq fun _ => (transition _).bind_eq fun _ => .pure rfl

theorem await (log : LogId) (frames timeoutMs : Nat) :
    Erases (Journal.await log frames timeoutMs) (Controller.await log frames timeoutMs) :=
  (quiet get).bind_eq fun _ => (quiet _).bind_eq fun _ => .ite .rfl (stall _ _ _) (.pure rfl)

theorem stabilize (frames : Nat) :
    Erases (Journal.stabilize frames) (Controller.stabilize frames) :=
  (quiet _).bind_eq fun _ => (transition _).bind_eq fun _ => (quiet get).bind_eq fun _ =>
    (await _ _ _).bind_eq fun _ => (quiet get).bind_eq fun _ => transition _

theorem collectWithin (frames : Nat) (expected : Bool) (timeoutMs : Nat) :
    Erases (Journal.collectWithin frames expected timeoutMs)
      (Controller.collectWithin frames expected timeoutMs) := by
  have collects : ∀ c : Controller, Erases (do
      let log ← Journal.quiet Controller.activeLog
      Journal.await log frames timeoutMs
      return Window.spanning (c.bench.count log) ((← Journal.quiet get).bench.count log) expected)
      (do
      let log ← Controller.activeLog
      Controller.await log frames timeoutMs
      return Window.spanning (c.bench.count log) ((← get).bench.count log) expected) :=
    fun _ => (quiet _).bind_eq fun _ => (await _ _ _).bind_eq fun _ => (quiet get).bind_eq fun _ =>
      .pure rfl
  exact (quiet get).bind_eq fun c =>
    .ite .rfl (InStep.bind_eq (.throw _) fun _ => collects c) (collects c)

theorem collect (frames : Nat) (expected : Bool) :
    Erases (Journal.collect frames expected) (Controller.collect frames expected) :=
  (quiet get).bind_eq fun _ => collectWithin _ _ _

theorem hold (ms : Nat) : Erases (Journal.hold ms) (Controller.hold ms) := by
  apply (quiet _).bind_eq
  intro log
  apply (quiet get).bind_eq
  intro before
  apply (quiet _).bind_eq
  intro _
  apply (quiet get).bind_eq
  intro after
  have settles : Erases (do
      Journal.transition (.settled (after.bench.count log))
      return after.bench.count log - before.bench.count log)
      (do
      Controller.transition (.settled (after.bench.count log))
      return after.bench.count log - before.bench.count log) :=
    (transition _).bind_eq fun _ => .pure rfl
  exact .ite .rfl ((stall _ _ _).bind_eq fun _ => settles) settles

end Erases

end Journal

theorem Operation.journaled_erases (op : Operation) : Journal.Erases op.journaled op.run := by
  cases op with
  | beginStreaming field => exact .map _ (.quiet _)
  | request option value => exact .map _ (.request option value)
  | requestConfirmed option value => exact .map _ (.requestConfirmed option value)
  | settleNow => exact .map _ .settleNow
  | warmUp ms => exact .map _ (.warmUp ms)
  | stabilize frames => exact .map _ (.stabilize frames)
  | collect frames expected => exact .map _ (.collect frames expected)
  | collectWithin frames expected timeoutMs =>
    exact .map _ (.collectWithin frames expected timeoutMs)
  | hold ms => exact .map _ (.hold ms)

namespace Journal

variable {α β : Type}

def Leads : Phase → List (Phase × Phase) → Phase → Prop
  | p, [], q => p = q
  | p, w :: rest, q => w.1 = p ∧ Leads w.2 rest q

theorem Leads.push {p q : Phase} {writes : List (Phase × Phase)} (leads : Leads p writes q)
    (next : Phase) : Leads p (writes ++ [(q, next)]) next := by
  induction writes generalizing p with
  | nil => exact ⟨leads.symm, rfl⟩
  | cons w rest ih => exact ⟨leads.1, ih leads.2⟩

structure Agrees (p : Phase) (j : Journal) : Prop where
  leads : Leads p j.writes j.controller.phase
  allowed : ∀ w ∈ j.writes, w.1.canTransition w.2

theorem Agrees.push {p next : Phase} {j : Journal} (agrees : j.Agrees p)
    (can : j.controller.phase.canTransition next) {c : Controller} (phase : c.phase = next) :
    Agrees p ⟨c, j.writes ++ [(j.controller.phase, next)]⟩ where
  leads := phase ▸ agrees.leads.push next
  allowed := List.forall_mem_append.mpr ⟨agrees.allowed, List.forall_mem_singleton.mpr can⟩

theorem Agrees.withController {p : Phase} {j : Journal} (agrees : j.Agrees p) {c : Controller}
    (phase : c.phase = j.controller.phase) : Agrees p { j with controller := c } :=
  ⟨phase ▸ agrees.leads, agrees.allowed⟩

/-- From a phase in `P` the attempt writes as the table allows, and if it succeeds, it has led to a
phase in `Q`. -/
def Lawful (P : Phase → Prop) (act : Attempt Journal α) (Q : Phase → Prop) : Prop :=
  ∀ p, Triple (fun j => j.Agrees p ∧ P j.controller.phase) act
    (fun _ j => j.Agrees p ∧ Q j.controller.phase) (Agrees p)

namespace Lawful

variable {P Q R : Phase → Prop}

theorem bind {act : Attempt Journal α} {next : α → Attempt Journal β} (first : Lawful P act Q)
    (rest : ∀ a, Lawful Q (next a) R) : Lawful P (act >>= next) R :=
  fun p => (first p).bind fun a => rest a p

theorem pure (a : α) : Lawful P (Pure.pure a) P := fun _ _ agrees => agrees

theorem done (a : α) : Lawful P (Pure.pure a) fun _ => True :=
  fun _ _ agrees => ⟨agrees.1, trivial⟩

theorem of_false (act : Attempt Journal α) : Lawful (fun _ => False) act Q :=
  fun _ _ never => never.2.elim

theorem throw (failure : Failure) : Lawful P (MonadExcept.throw failure : Attempt Journal α) Q :=
  fun _ _ agrees => agrees.1

theorem map (f : α → β) {act : Attempt Journal α} (lawful : Lawful P act Q) :
    Lawful P (f <$> act) Q := by
  rw [map_eq_pure_bind]
  exact lawful.bind fun a => pure _

theorem ite {c : Prop} [Decidable c] {act other : Attempt Journal α} (pos : Lawful P act Q)
    (neg : Lawful P other Q) : Lawful P (if c then act else other) Q := by
  split
  · exact pos
  · exact neg

theorem get {next : Controller → Attempt Journal β}
    (rest : ∀ c : Controller, Lawful (fun p => P p ∧ p = c.phase) (next c) Q) :
    Lawful P (quiet MonadState.get >>= next) Q :=
  fun p j ⟨agrees, holds⟩ => rest j.controller p j ⟨agrees, holds, rfl⟩

theorem quiet {act : Attempt Controller α} (kept : ∀ c, (act c).2.phase = c.phase) :
    Lawful P (Journal.quiet act) P := by
  rintro p j ⟨agrees, holds⟩
  have same := kept j.controller
  rw [Journal.quiet, within_apply]
  generalize act j.controller = result at same
  rcases result with ⟨_ | _, c⟩
  · exact agrees.withController same
  · refine ⟨agrees.withController same, ?_⟩
    change P c.phase
    rw [show c.phase = _ from same]
    exact holds

theorem transition {next : Phase} (holds : Q next) : Lawful P (Journal.transition next) Q := by
  rintro p j ⟨agrees, _⟩
  rw [transition_apply]
  by_cases can : j.controller.phase.canTransition next
  · rw [if_pos can]
    exact ⟨agrees.push can rfl, holds⟩
  · rw [if_neg can]
    exact agrees

theorem stall {requested observed : Nat}
    (can : ∀ p, P p → p.canTransition (.stalled requested observed)) (limitMs : Nat) :
    Lawful P (Journal.stall requested observed limitMs : Attempt Journal α) Q := by
  rintro p j ⟨agrees, holds⟩
  rw [stall_apply]
  exact agrees.push (can _ holds) rfl

theorem find : Lawful P (Journal.quiet MonadState.get) P := quiet fun _ => rfl

theorem onBench (call : Bench → α × Bench) :
    Lawful P (Journal.quiet (Controller.onBench call)) P :=
  quiet fun _ => rfl

theorem activeLog : Lawful P (Journal.quiet Controller.activeLog) P := by
  apply quiet
  intro c
  rw [Controller.activeLog_apply]
  cases c.log <;> rfl

theorem request (option : DeviceOption) (value : Float) :
    Lawful P (Journal.request option value) fun _ => True := by
  apply (transition (Q := fun _ => True) trivial).bind
  intro _
  apply (onBench _).bind
  rintro (fault | _)
  · exact throw _
  · exact pure ()

theorem requestConfirmed (option : DeviceOption) (value : Float) :
    Lawful P (Journal.requestConfirmed option value) fun _ => True := by
  have confirms : Lawful (fun _ => True) (Journal.quiet (Controller.confirm option value))
      fun _ => True := by
    apply quiet
    intro c
    rw [Controller.confirm_apply]
    split
    · rfl
    · split <;> rfl
  exact (request option value).bind fun _ => confirms.bind fun _ => pure ()

theorem settleNow : Lawful P Journal.settleNow fun _ => True :=
  find.bind fun _ => transition trivial

theorem warmUp (ms : Nat) : Lawful P (Journal.warmUp ms) fun _ => True :=
  (onBench _).bind fun _ => find.bind fun _ => (transition trivial).bind fun _ => pure _

theorem await (log : LogId) (frames timeoutMs : Nat)
    (can : ∀ p, P p → ∀ requested observed, p.canTransition (.stalled requested observed)) :
    Lawful P (Journal.await log frames timeoutMs) P :=
  find.bind fun _ => (onBench _).bind fun _ =>
    ite (stall (fun p holds => can p holds _ _) _) (pure ())

theorem stabilize (frames : Nat) : Lawful P (Journal.stabilize frames) fun _ => True := by
  apply activeLog.bind
  intro log
  have stabilizes : Lawful P (Journal.transition (.stabilizing frames)) (· = .stabilizing frames) :=
    transition rfl
  apply stabilizes.bind
  intro _
  apply find.bind
  intro c
  have awaits := await (P := (· = .stabilizing frames)) log frames c.timeoutMs
    (by rintro _ rfl requested observed; rfl)
  exact awaits.bind fun _ => find.bind fun _ => transition trivial

theorem collectWithin (frames : Nat) (expected : Bool) (timeoutMs : Nat) :
    Lawful P (Journal.collectWithin frames expected timeoutMs) fun _ => True := by
  apply get
  intro c
  by_cases settled : c.phase.isSettled
  -- Nothing writes the phase between the look at it and the end of the wait.
  · have can : ∀ p, P p ∧ p = c.phase → ∀ requested observed,
        p.canTransition (.stalled requested observed) := by
      rintro p ⟨_, rfl⟩
      exact Phase.canTransition_stalled_of_isSettled settled
    rw [if_neg (by simp [settled])]
    exact activeLog.bind fun _ => (await _ _ _ can).bind fun _ => find.bind fun _ => done _
  · rw [if_pos (by simp [settled])]
    exact (throw _).bind fun _ => of_false _

theorem collect (frames : Nat) (expected : Bool) :
    Lawful P (Journal.collect frames expected) fun _ => True :=
  find.bind fun _ => collectWithin _ _ _

theorem agrees {act : Attempt Journal α} (lawful : Lawful (fun _ => True) act Q) {p : Phase}
    {j : Journal} (agrees : j.Agrees p) : (act j).2.Agrees p := by
  have after := lawful p j ⟨agrees, trivial⟩
  generalize act j = result at after
  rcases result with ⟨_ | _, j'⟩
  · exact after
  · exact after.1

end Lawful

theorem hold_agrees {ms : Nat} {p : Phase} {j : Journal} (agrees : j.Agrees p)
    (can : ∀ log, j.controller.log = some log → j.controller.bench.recordedWithin log ms = 0 →
      j.controller.phase.canTransition (.stalled 1 0)) : (hold ms j).2.Agrees p := by
  rw [hold_apply]
  split
  · exact agrees
  next log present =>
  dsimp only
  split
  next none => exact agrees.push (can log present none) rfl
  · have slept : Agrees p { j with controller := j.controller.slept ms } :=
      agrees.withController rfl
    have settles : (transition (.settled ((j.controller.slept ms).bench.count log))
        { j with controller := j.controller.slept ms }).2.Agrees p :=
      (Lawful.transition (Q := fun _ => True) trivial).agrees slept
    generalize transition _ _ = result at settles ⊢
    rcases result with ⟨_ | _, j'⟩ <;> exact settles

end Journal

theorem Operation.journaled_lawful {op : Operation} (asks : ∀ ms, op ≠ .hold ms) :
    Journal.Lawful (fun _ => True) op.journaled fun _ => True := by
  cases op with
  | beginStreaming field =>
    apply Journal.Lawful.map
    apply Journal.Lawful.quiet
    intro c
    have begun := Controller.beginStreaming_begins field c
    generalize Controller.beginStreaming field c = result at begun
    cases begun <;> rfl
  | request option value => exact .map _ (.request option value)
  | requestConfirmed option value => exact .map _ (.requestConfirmed option value)
  | settleNow => exact .map _ .settleNow
  | warmUp ms => exact .map _ (.warmUp ms)
  | stabilize frames => exact .map _ (.stabilize frames)
  | collect frames expected => exact .map _ (.collect frames expected)
  | collectWithin frames expected timeoutMs =>
    exact .map _ (.collectWithin frames expected timeoutMs)
  | hold ms => exact absurd rfl (asks ms)

namespace Plan.Step

def writes (s : Step) : List (Phase × Phase) := (s.operation.journaled ⟨s.before, []⟩).2.writes

/-- The step is a hold in which no frame comes, and the table has no stall for its phase. -/
def Oversteps (s : Step) : Prop :=
  ∃ ms log, s.operation = .hold ms ∧ s.before.log = some log ∧
    s.before.bench.recordedWithin log ms = 0 ∧
      (s.before.phase = .idle ∨ s.before.phase.isStalled)

theorem journaled_eq (s : Step) :
    s.operation.journaled ⟨s.before, []⟩ = (s.outcome, ⟨s.after, s.writes⟩) := by
  obtain ⟨outcomes, after⟩ := s.operation.journaled_erases ⟨s.before, []⟩ s.before rfl
  have outcomes := outcomes.eq
  rw [writes, outcome, Step.after, ← outcomes, ← after]
  rfl

theorem agrees {s : Step} (within : ¬ s.Oversteps) :
    Journal.Agrees s.before.phase ⟨s.after, s.writes⟩ := by
  have unwritten : Journal.Agrees s.before.phase ⟨s.before, []⟩ :=
    ⟨rfl, List.forall_mem_nil _⟩
  have journaled : (s.operation.journaled ⟨s.before, []⟩).2.Agrees s.before.phase := by
    by_cases holds : ∃ ms, s.operation = .hold ms
    · obtain ⟨ms, held⟩ := holds
      rw [held, Operation.journaled, map_apply]
      apply Journal.hold_agrees unwritten
      intro log present none
      apply Phase.canTransition_stalled_iff.mpr
      intro phase
      exact within ⟨ms, log, held, present, none, phase⟩
    · exact (Operation.journaled_lawful fun ms held => holds ⟨ms, held⟩).agrees unwritten
  rwa [journaled_eq] at journaled

theorem oversteps_writes {s : Step} (oversteps : s.Oversteps) :
    s.writes = [(s.before.phase, .stalled 1 0)] ∧ s.after.phase = .stalled 1 0 := by
  obtain ⟨ms, log, held, present, none, _⟩ := oversteps
  have none : (s.before.slept ms).bench.count log - s.before.bench.count log = 0 := none
  have journaled := s.journaled_eq
  rw [held, Operation.journaled, map_apply, Journal.hold_apply, present] at journaled
  dsimp only at journaled
  rw [if_pos none, Prod.mk.injEq, Journal.mk.injEq] at journaled
  obtain ⟨_, after, writes⟩ := journaled
  rw [← after, ← writes]
  exact ⟨rfl, rfl⟩

theorem not_oversteps_of_allowed {s : Step} (allowed : ∀ w ∈ s.writes, w.1.canTransition w.2) :
    ¬ s.Oversteps := by
  intro oversteps
  have can := allowed (s.before.phase, .stalled 1 0) (by simp [(oversteps_writes oversteps).1])
  obtain ⟨ms, log, _, _, _, phase⟩ := oversteps
  exact Phase.canTransition_stalled_iff.mp can phase

theorem leads (s : Step) : Journal.Leads s.before.phase s.writes s.after.phase := by
  by_cases oversteps : s.Oversteps
  · obtain ⟨writes, after⟩ := oversteps_writes oversteps
    rw [writes, after]
    exact ⟨rfl, rfl⟩
  · exact (agrees oversteps).leads

end Plan.Step

namespace Usage

/-- The phase goes from one to the next as it is noted, with the same outcomes as if it was not. The
table allows every write but the stall of a hold without a frame where nothing was asked for yet or
where the controller is stalled already. That stall is then the one write of its step. -/
structure WritesPhase (usage : Usage) (c : Controller) : Prop where
  erases : ∀ s ∈ usage.steps c,
    s.operation.journaled ⟨s.before, []⟩ = (s.outcome, ⟨s.after, s.writes⟩)
  leads : ∀ s ∈ usage.steps c, Journal.Leads s.before.phase s.writes s.after.phase
  allowed_iff : ∀ s ∈ usage.steps c,
    (∀ w ∈ s.writes, w.1.canTransition w.2) ↔ ¬ s.Oversteps
  overstepped : ∀ s ∈ usage.steps c, s.Oversteps → s.writes = [(s.before.phase, .stalled 1 0)]

/-- Whatever is asked of whatever controller. -/
theorem writes_phase (usage : Usage) (c : Controller) : usage.WritesPhase c where
  erases s _ := s.journaled_eq
  leads s _ := s.leads
  allowed_iff _ _ := ⟨Plan.Step.not_oversteps_of_allowed, fun within =>
    (Plan.Step.agrees within).allowed⟩
  overstepped _ _ oversteps := (Plan.Step.oversteps_writes oversteps).1

/-- Without any frame a hold stalls a controller that nothing was asked of yet, and a hold after a
stall overwrites what the stall tells. -/
theorem held_without_frames :
    let device : Device := .scripted (.ofScript {
      name := "scripted"
      profiles := [⟨.depth, .z16, 848, 480, 30⟩]
      options := [(.enableAutoExposure, ⟨1, none, none, none⟩)]
      openFault := none
      startFault := none
      stopFault := none
      closeFault := none
      streams := [] })
    let session : Session := { bench := { device }, profile := ⟨.depth, .z16, 848, 480, 30⟩ }
    let c : Controller := { session, barrier := .default, timeoutMs := 30 }
    let idle : Usage := [(0, .beginStreaming .autoExposure), (0, .hold 5)]
    let stalled : Usage := [(0, .beginStreaming .autoExposure), (0, .setAutoExposure false),
      (0, .stabilize 3), (0, .hold 5)]
    (¬ ∀ s ∈ idle.steps c, ∀ w ∈ s.writes, w.1.canTransition w.2) ∧
      (¬ ∀ s ∈ stalled.steps c, ∀ w ∈ s.writes, w.1.canTransition w.2) ∧
      (idle.steps c).getLast?.map (·.writes) == some [(.idle, .stalled 1 0)] ∧
      (stalled.steps c).getLast?.map (·.writes) == some [(.stalled 3 0, .stalled 1 0)] := by
  decide +kernel

end Usage

end ExposureBench
