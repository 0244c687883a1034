import ExposureBench.Control.Controller
import ExposureBench.Proofs.Logs
import ExposureBench.Proofs.Session

namespace ExposureBench

namespace Barrier

theorem waitFrom_evolves (barrier : Barrier) (log : LogId) (frames timeout base elapsed : Nat)
    (b : Bench) :
    b.Evolves (barrier.waitFrom log frames timeout base elapsed b).2 := by
  fun_induction waitFrom barrier log frames timeout base elapsed b with
  | case1 => exact .refl
  | case2 => exact .refl
  | case3 elapsed b _ _ _ pause ih => exact (Bench.Evolves.refl.slept pause).trans ih

theorem waitFrom_outcome (barrier : Barrier) (log : LogId) (frames timeout base elapsed : Nat)
    (b : Bench) :
    (barrier.waitFrom log frames timeout base elapsed b).1.requested = frames ∧
      (barrier.waitFrom log frames timeout base elapsed b).1.observed =
        (barrier.waitFrom log frames timeout base elapsed b).2.count log - base := by
  fun_induction waitFrom barrier log frames timeout base elapsed b with
  | case1 => exact ⟨rfl, rfl⟩
  | case2 => exact ⟨rfl, rfl⟩
  | case3 _ _ _ _ _ _ ih => exact ih

theorem isSatisfied_wait (barrier : Barrier) (log : LogId) (frames timeout : Nat) (b : Bench) :
    (barrier.wait log frames timeout b).1.isSatisfied =
      decide (frames ≤ (barrier.wait log frames timeout b).2.count log - b.count log) := by
  obtain ⟨requested, observed⟩ := barrier.waitFrom_outcome log frames timeout (b.count log) 0 b
  rw [wait, BarrierOutcome.isSatisfied, requested, observed]

theorem wait_evolves (barrier : Barrier) (log : LogId) (frames timeout : Nat) (b : Bench) :
    b.Evolves (barrier.wait log frames timeout b).2 :=
  barrier.waitFrom_evolves ..

end Barrier

namespace Controller

def inPhase (c : Controller) (phase : Phase) : Controller := { c with phase }

def tornDown (c : Controller) : Controller := { c with session := c.session.tornDown }

/-- A controller after a stall: its phase tells the wait, and its session is torn down. -/
def stalledAt (c : Controller) (requested observed : Nat) : Controller :=
  (c.inPhase (.stalled requested observed)).tornDown

@[simp] theorem bench_withBench (c : Controller) (b : Bench) : (c.withBench b).bench = b := rfl

@[simp] theorem phase_withBench (c : Controller) (b : Bench) :
    (c.withBench b).phase = c.phase := rfl

@[simp] theorem bench_inPhase (c : Controller) (p : Phase) : (c.inPhase p).bench = c.bench := rfl

theorem transition_apply (next : Phase) (c : Controller) :
    transition next c =
      if c.phase.canTransition next then (.ok (), c.inPhase next)
      else (.error (.refused (.transition c.phase next)), c) := by
  by_cases can : c.phase.canTransition next <;>
    simp [transition, Attempt.bind_apply, can, inPhase]

theorem activeLog_apply (c : Controller) :
    activeLog c = match c.log with
      | some id => (.ok id, c)
      | none => (.error (.refused .noStream), c) := by
  cases present : c.log <;> simp [activeLog, Attempt.bind_apply, present]

theorem stall_apply {α : Type} (requested observed limitMs : Nat) (c : Controller) :
    (stall requested observed limitMs : Attempt Controller α) c =
      (.error (.timedOut requested observed (Duration.ofMillis limitMs)),
        c.stalledAt requested observed) := by
  simp [stall, Attempt.bind_apply, onSession, Session.teardown_apply, stalledAt, inPhase, tornDown]

theorem request_apply (option : DeviceOption) (value : Float) (c : Controller) :
    request option value c =
      if c.phase.canTransition (.requested option value) then
        ((c.bench.set option value).1.mapError (.ofRejection option value),
          (c.inPhase (.requested option value)).withBench (c.bench.set option value).2)
      else (.error (.refused (.transition c.phase (.requested option value))), c) := by
  by_cases can : c.phase.canTransition (.requested option value)
  · simp only [request, Attempt.bind_apply, transition_apply, if_pos can, onBench, bench_inPhase]
    rcases c.bench.set option value with ⟨_ | _, _⟩ <;> rfl
  · simp only [request, Attempt.bind_apply, transition_apply, if_neg can]

theorem confirm_apply (option : DeviceOption) (requested : Float) (c : Controller) :
    confirm option requested c = match c.device.get option with
      | .error fault => (.error (.device fault), c)
      | .ok actual =>
        if tolerance < (actual - requested).abs then (.error (.mismatch option requested actual), c)
        else (.ok actual, c) := by
  simp only [confirm, Attempt.bind_apply, Attempt.get_apply, Attempt.ofExcept_apply]
  cases c.device.get option with
  | error => rfl
  | ok actual => by_cases far : tolerance < (actual - requested).abs <;>
    simp [Except.mapError, far, Attempt.bind_apply]

theorem requestConfirmed_apply (option : DeviceOption) (value : Float) (c : Controller) :
    requestConfirmed option value c = match request option value c with
      | (.error failure, c') => (.error failure, c')
      | (.ok (), c') => ((confirm option value c').1.map fun _ => (), c') := by
  simp only [requestConfirmed, Attempt.bind_apply]
  rcases request option value c with ⟨_ | _, c'⟩
  · rfl
  · simp only [confirm_apply]
    cases c'.device.get option with
    | error => rfl
    | ok actual => by_cases far : tolerance < (actual - value).abs <;> simp [far, Except.map]

theorem settleNow_apply (c : Controller) :
    settleNow c = transition (.settled c.framesObserved) c := by
  simp [settleNow, Attempt.bind_apply]

theorem warmUp_apply (ms : Nat) (c : Controller) :
    warmUp ms c =
      let c' := c.withBench (c.bench.sleep ms)
      if c.phase.canTransition (.settled c'.framesObserved) then
        (.ok c'.framesObserved, c'.inPhase (.settled c'.framesObserved))
      else (.error (.refused (.transition c.phase (.settled c'.framesObserved))), c') := by
  by_cases can :
      c.phase.canTransition (.settled (c.withBench (c.bench.sleep ms)).framesObserved) <;>
    simp [warmUp, sleep, onBench, Attempt.bind_apply, transition_apply, can, Except.map]

theorem await_apply (log : LogId) (frames timeoutMs : Nat) (c : Controller) :
    await log frames timeoutMs c =
      let (outcome, bench) := c.barrier.wait log frames timeoutMs c.bench
      if outcome.isSatisfied then (.ok (), c.withBench bench)
      else (.error (.timedOut outcome.requested outcome.observed (Duration.ofMillis timeoutMs)),
        (c.withBench bench).stalledAt outcome.requested outcome.observed) := by
  simp only [await, onBench, Attempt.bind_apply, Attempt.get_apply]
  rcases c.barrier.wait log frames timeoutMs c.bench with ⟨outcome, bench⟩
  cases outcome.isSatisfied <;> simp [stall_apply]

theorem stabilize_apply (frames : Nat) (c : Controller) :
    stabilize frames c = match c.log with
      | none => (.error (.refused .noStream), c)
      | some log =>
        if c.phase.canTransition (.stabilizing frames) then
          match await log frames c.timeoutMs (c.inPhase (.stabilizing frames)) with
          | (.error failure, c') => (.error failure, c')
          | (.ok (), c') => transition (.settled (c'.bench.count log)) c'
        else (.error (.refused (.transition c.phase (.stabilizing frames))), c) := by
  simp only [stabilize, Attempt.bind_apply, activeLog_apply]
  cases c.log with
  | none => rfl
  | some log =>
    by_cases can : c.phase.canTransition (.stabilizing frames)
    · simp only [transition_apply, if_pos can, Attempt.get_apply]
      rcases run : await log frames c.timeoutMs (c.inPhase (.stabilizing frames))
        with ⟨_ | _, c'⟩ <;>
        simp_all [inPhase]
    · simp only [transition_apply, if_neg can]

theorem collectWithin_apply (frames : Nat) (expected : Bool) (timeoutMs : Nat) (c : Controller) :
    collectWithin frames expected timeoutMs c =
      if c.phase.isSettled then
        match c.log with
        | none => (.error (.refused .noStream), c)
        | some log =>
          match await log frames timeoutMs c with
          | (.error failure, c') => (.error failure, c')
          | (.ok (), c') => (.ok (.spanning (c.bench.count log) (c'.bench.count log) expected), c')
      else (.error (.refused (.collectIn c.phase)), c) := by
  cases settled : c.phase.isSettled with
  | false => simp [collectWithin, Attempt.bind_apply, settled]
  | true =>
    simp only [collectWithin, Attempt.bind_apply, Attempt.get_apply, settled, Bool.not_true,
      Bool.false_eq_true, if_false, if_true, activeLog_apply]
    cases c.log with
    | none => rfl
    | some log =>
      dsimp only
      rcases await log frames timeoutMs c with ⟨_ | _, _⟩ <;> rfl

theorem collect_apply (frames : Nat) (expected : Bool) (c : Controller) :
    collect frames expected c = collectWithin frames expected c.timeoutMs c := by
  simp [collect, Attempt.bind_apply]

theorem hold_apply (ms : Nat) (c : Controller) :
    hold ms c = match c.log with
      | none => (.error (.refused .noStream), c)
      | some log =>
        let c' := c.withBench (c.bench.sleep ms)
        let observed := c'.bench.count log - c.bench.count log
        if observed = 0 then
          (.error (.timedOut 1 0 (Duration.ofMillis ms)), c'.stalledAt 1 0)
        else match transition (.settled (c'.bench.count log)) c' with
          | (.error failure, c') => (.error failure, c')
          | (.ok (), c') => (.ok observed, c') := by
  simp only [hold, Attempt.bind_apply, activeLog_apply]
  cases c.log with
  | none => rfl
  | some log =>
    simp only [Attempt.get_apply, sleep, onBench, Attempt.ite_apply, Attempt.bind_apply,
      stall_apply]
    by_cases none : (c.withBench (c.bench.sleep ms)).bench.count log - c.bench.count log = 0
    · simp only [if_pos none]
    · simp only [if_neg none]
      rcases transition _ _ with ⟨_ | _, _⟩ <;> rfl

theorem beginStreaming_apply (field : MetadataField) (c : Controller) :
    beginStreaming field c =
      match (do Session.openDevice; Session.start field : Attempt Session LogId) c.session with
      | (.ok id, session) => (.ok id, { c with session, log := some id })
      | (.error failure, session) => (.error failure, { c with session := session.tornDown }) := by
  unfold beginStreaming
  generalize (do Session.openDevice; Session.start field : Attempt Session LogId) = begins
  have torn : (Session.teardown (begins c.session).2).2 = (begins c.session).2.tornDown := by
    rw [Session.teardown_apply]
  rcases run : begins c.session with ⟨_ | _, session⟩
  all_goals
    simp only [run] at torn
    simp only [bind, ExceptT.bind, ExceptT.mk, ExceptT.bindCont, StateT.bind, tryCatch, tryCatchThe,
      MonadExceptOf.tryCatch, ExceptT.tryCatch, onSession, Attempt.within, run, ← torn]
    rfl

section Done

variable {c c' : Controller}

theorem transition_done {next : Phase} (done : transition next c = (.ok (), c')) :
    c.phase.canTransition next ∧ c' = c.inPhase next := by
  rw [transition_apply] at done
  split at done
  next can =>
    cases done
    exact ⟨can, rfl⟩
  · cases done

theorem request_done {option : DeviceOption} {value : Float}
    (done : request option value c = (.ok (), c')) :
    ∃ bench, c.bench.set option value = (.ok (), bench) ∧
      c' = (c.inPhase (.requested option value)).withBench bench := by
  rw [request_apply] at done
  split at done
  · rcases written : c.bench.set option value with ⟨fault | _, bench⟩ <;> rw [written] at done <;>
      cases done
    exact ⟨bench, rfl, rfl⟩
  · cases done

theorem confirm_done {option : DeviceOption} {requested actual : Float}
    (done : confirm option requested c = (.ok actual, c')) :
    c.device.get option = .ok actual ∧ ¬ tolerance < (actual - requested).abs ∧ c' = c := by
  rw [confirm_apply] at done
  split at done
  · cases done
  next read =>
  split at done
  · cases done
  next near =>
    cases done
    exact ⟨read, near, rfl⟩

theorem requestConfirmed_done {option : DeviceOption} {value : Float}
    (done : requestConfirmed option value c = (.ok (), c')) :
    request option value c = (.ok (), c') := by
  obtain ⟨_, c₁, requested, rest⟩ := Attempt.ok_of_bind done
  obtain ⟨actual, c₂, confirmed, rest⟩ := Attempt.ok_of_bind rest
  obtain ⟨_, _, same⟩ := confirm_done confirmed
  cases rest
  rw [same]
  exact requested

theorem await_done {log : LogId} {frames timeoutMs : Nat}
    (done : await log frames timeoutMs c = (.ok (), c')) :
    frames ≤ c'.bench.count log - c.bench.count log ∧
      c' = c.withBench (c.barrier.wait log frames timeoutMs c.bench).2 := by
  rw [await_apply] at done
  dsimp only at done
  split at done
  next satisfied =>
    cases done
    rw [Barrier.isSatisfied_wait] at satisfied
    exact ⟨of_decide_eq_true satisfied, rfl⟩
  · cases done

theorem stabilize_done {frames : Nat} (done : stabilize frames c = (.ok (), c')) :
    ∃ log, c.log = some log ∧ frames ≤ c'.bench.count log - c.bench.count log ∧
      c' = (c.withBench (c.barrier.wait log frames c.timeoutMs c.bench).2).inPhase
        (.settled (c'.bench.count log)) := by
  rw [stabilize_apply] at done
  split at done
  · cases done
  next log present =>
  split at done
  next can =>
    split at done
    · cases done
    next awaited =>
      obtain ⟨waited, rfl⟩ := await_done awaited
      obtain ⟨_, rfl⟩ := transition_done done
      exact ⟨log, present, waited, rfl⟩
  · cases done

theorem collectWithin_done {frames timeoutMs : Nat} {expected : Bool} {w : Window}
    (done : collectWithin frames expected timeoutMs c = (.ok w, c')) :
    ∃ log, c.log = some log ∧ frames ≤ c'.bench.count log - c.bench.count log ∧
      w = .spanning (c.bench.count log) (c'.bench.count log) expected ∧
      c' = c.withBench (c.barrier.wait log frames timeoutMs c.bench).2 := by
  rw [collectWithin_apply] at done
  split at done
  next =>
    split at done
    · cases done
    next log present =>
    split at done
    · cases done
    next awaited =>
      cases done
      obtain ⟨waited, same⟩ := await_done awaited
      exact ⟨log, present, waited, rfl, same⟩
  · cases done

theorem warmUp_done {ms frames : Nat} (done : warmUp ms c = (.ok frames, c')) :
    c' = (c.withBench (c.bench.sleep ms)).inPhase (.settled frames) := by
  rw [warmUp_apply] at done
  dsimp only at done
  split at done <;> cases done
  rfl

theorem hold_done {ms observed : Nat} (done : hold ms c = (.ok observed, c')) :
    ∃ log, c.log = some log ∧ c.bench.count log < (c.bench.sleep ms).count log ∧
      observed = (c.bench.sleep ms).count log - c.bench.count log ∧
      c' = (c.withBench (c.bench.sleep ms)).inPhase
        (.settled ((c.bench.sleep ms).count log)) := by
  rw [hold_apply] at done
  split at done
  · cases done
  next log present =>
  dsimp only at done
  split at done
  · cases done
  next some =>
    split at done
    · cases done
    next moved =>
      cases done
      obtain ⟨_, rfl⟩ := transition_done moved
      exact ⟨log, present, Nat.lt_of_sub_pos (Nat.pos_of_ne_zero some), rfl, rfl⟩

theorem beginStreaming_done {field : MetadataField} {id : LogId}
    (done : beginStreaming field c = (.ok id, c')) :
    ∃ opened started, c.bench.openWith c.session.profile = (.ok (), opened) ∧
      opened.start field = (.ok id, started) ∧ c'.bench = started ∧ c'.log = some id ∧
        c'.phase = c.phase := by
  rw [beginStreaming_apply] at done
  by_cases closed : c.session.state = .closed
  · rw [Session.openDevice_start_apply closed] at done
    rcases opens : c.session.bench.openWith c.session.profile with ⟨fault | _, opened⟩
    · rw [opens] at done
      cases done
    · rw [opens] at done
      dsimp only at done
      rcases starts : opened.start field with ⟨fault | id, started⟩ <;> rw [starts] at done <;>
        cases done
      exact ⟨opened, started, opens, starts, rfl, rfl, rfl⟩
  · rw [Attempt.bind_apply, Session.openDevice_apply, if_neg closed] at done
    cases done

end Done

/-- What a step on a running controller can make of it: its session lives on, or a wait ran out and
it is torn down. -/
inductive Effect {α : Type} (c : Controller) : Except Failure α × Controller → Prop
  | live (outcome : Except Failure α) {bench : Bench} (phase : Phase)
    (evolves : c.bench.Evolves bench) :
      Effect c (outcome, (c.withBench bench).inPhase phase)
  | stalled (requested observed limit : Nat) {bench : Bench} (evolves : c.bench.Evolves bench) :
      Effect c (.error (.timedOut requested observed limit),
        (c.withBench bench).stalledAt requested observed)

/-- Steps that neither begin a stream nor tear one down but by a stall. -/
def Sustained {α : Type} (act : Attempt Controller α) : Prop :=
  ∀ c, Effect c (act c)

namespace Sustained

variable {α β : Type}

theorem of_same {act : Attempt Controller α} (same : ∀ c, (act c).2 = c) : Sustained act := by
  intro c
  have result : act c = ((act c).1, c) := Prod.ext rfl (same c)
  rw [result]
  exact .live _ c.phase .refl

theorem get : Sustained (MonadState.get : Attempt Controller Controller) :=
  of_same fun _ => rfl

theorem pure (a : α) : Sustained (Pure.pure a) :=
  of_same fun _ => rfl

theorem throw (failure : Failure) : Sustained (MonadExcept.throw failure : Attempt Controller α) :=
  of_same fun _ => rfl

theorem bind {act : Attempt Controller α} {next : α → Attempt Controller β} (first : Sustained act)
    (rest : ∀ a, Sustained (next a)) : Sustained (act >>= next) := by
  intro c
  have done := first c
  rw [Attempt.bind_apply]
  generalize act c = result at done
  cases done with
  | stalled requested observed limit evolves => exact .stalled requested observed limit evolves
  | @live outcome bench phase evolves =>
    cases outcome with
    | error failure => exact .live _ phase evolves
    | ok a =>
      have later := rest a ((c.withBench bench).inPhase phase)
      dsimp only
      generalize next a ((c.withBench bench).inPhase phase) = result at later
      cases later with
      | live outcome phase' evolves' => exact .live outcome phase' (evolves.trans evolves')
      | stalled requested observed limit evolves' =>
        exact .stalled requested observed limit (evolves.trans evolves')

theorem ite {p : Prop} [Decidable p] {act act' : Attempt Controller α} (pos : Sustained act)
    (neg : Sustained act') : Sustained (if p then act else act') := by
  split
  · exact pos
  · exact neg

theorem map (f : α → β) {act : Attempt Controller α} (sustained : Sustained act) :
    Sustained (f <$> act) := by
  rw [map_eq_pure_bind]
  exact sustained.bind fun a => pure (f a)

theorem onBench {act : Bench → α × Bench} (evolves : ∀ b : Bench, b.Evolves (act b).2) :
    Sustained (Controller.onBench act) :=
  fun c => .live _ c.phase (evolves c.bench)

theorem transition (next : Phase) : Sustained (Controller.transition next) := by
  intro c
  rw [transition_apply]
  split
  · exact .live _ next .refl
  · exact .live _ c.phase .refl

theorem activeLog : Sustained Controller.activeLog := by
  apply of_same
  intro c
  rw [activeLog_apply]
  cases c.log <;> rfl

theorem stall (requested observed limitMs : Nat) :
    Sustained (Controller.stall requested observed limitMs : Attempt Controller α) := by
  intro c
  rw [stall_apply]
  exact .stalled _ _ _ .refl

theorem sleep (ms : Nat) : Sustained (Controller.sleep ms) :=
  onBench fun _ => Bench.Evolves.refl.slept ms

theorem request (option : DeviceOption) (value : Float) :
    Sustained (Controller.request option value) := by
  apply (transition _).bind
  intro _
  apply (onBench fun _ => Bench.Evolves.refl.written option value).bind
  intro outcome
  cases outcome with
  | ok => exact pure ()
  | error fault => exact throw _

theorem confirm (option : DeviceOption) (requested : Float) :
    Sustained (Controller.confirm option requested) := by
  apply of_same
  intro c
  rw [confirm_apply]
  cases c.device.get option with
  | error fault => rfl
  | ok actual => dsimp only; split <;> rfl

theorem requestConfirmed (option : DeviceOption) (value : Float) :
    Sustained (Controller.requestConfirmed option value) :=
  (request option value).bind fun _ => (confirm option value).bind fun _ => pure ()

theorem settleNow : Sustained Controller.settleNow :=
  get.bind fun _ => transition _

theorem warmUp (ms : Nat) : Sustained (Controller.warmUp ms) :=
  (sleep ms).bind fun _ => get.bind fun _ => (transition _).bind fun _ => pure _

theorem await (log : LogId) (frames timeoutMs : Nat) :
    Sustained (Controller.await log frames timeoutMs) :=
  get.bind fun c => (onBench fun b => c.barrier.wait_evolves log frames timeoutMs b).bind fun _ =>
    ite (stall _ _ _) (pure ())

theorem stabilize (frames : Nat) : Sustained (Controller.stabilize frames) :=
  activeLog.bind fun _ => (transition _).bind fun _ => get.bind fun _ => (await _ _ _).bind fun _ =>
    get.bind fun _ => transition _

theorem collectWithin (frames : Nat) (expected : Bool) (timeoutMs : Nat) :
    Sustained (Controller.collectWithin frames expected timeoutMs) := by
  have collects : ∀ c : Controller, Sustained (do
      let log ← Controller.activeLog
      Controller.await log frames timeoutMs
      return Window.spanning (c.bench.count log) ((← MonadState.get).bench.count log) expected) :=
    fun _ => activeLog.bind fun _ => (await _ _ _).bind fun _ => get.bind fun _ => pure _
  exact get.bind fun c => ite ((throw _).bind fun _ => collects c) (collects c)

theorem collect (frames : Nat) (expected : Bool) : Sustained (Controller.collect frames expected) :=
  get.bind fun _ => collectWithin _ _ _

theorem hold (ms : Nat) : Sustained (Controller.hold ms) := by
  apply activeLog.bind
  intro log
  apply get.bind
  intro before
  apply (sleep ms).bind
  intro _
  apply get.bind
  intro after
  have settles : Sustained (do
      Controller.transition (.settled (after.bench.count log))
      return after.bench.count log - before.bench.count log) :=
    (transition _).bind fun _ => pure _
  exact ite ((stall _ _ _).bind fun _ => settles) settles

end Sustained

inductive Begin {α : Type} (field : MetadataField) (c : Controller) :
    Except Failure α × Controller → Prop
  | begun (a : α) {opened started : Bench} {id : LogId} (closed : c.session.state = .closed)
      (opens : c.bench.openWith c.session.profile = (.ok (), opened))
      (starts : opened.start field = (.ok id, started)) :
      Begin field c (.ok a,
        { c with
          session := { c.session with bench := started, state := .started, log := some id }
          log := some id })
  | unopened {fault : DeviceFault} {opened : Bench} (closed : c.session.state = .closed)
      (opens : c.bench.openWith c.session.profile = (.error fault, opened)) :
      Begin field c (.error (.device fault), c.withBench opened)
  | unstarted {fault : DeviceFault} {opened started : Bench} (closed : c.session.state = .closed)
      (opens : c.bench.openWith c.session.profile = (.ok (), opened))
      (starts : opened.start field = (.error fault, started)) :
      Begin field c (.error (.device fault), c.withBench started.close.2)
  | reopened (busy : c.session.state ≠ .closed) :
      Begin field c (.error (.refused (.openIn c.session.state)), c.tornDown)

theorem Begin.map {α β : Type} {field : MetadataField} {c : Controller}
    {result : Except Failure α × Controller} (f : α → β) (begin : Begin field c result) :
    Begin field c (result.1.map f, result.2) := by
  cases begin with
  | begun a closed opens starts => exact begun (f a) closed opens starts
  | unopened closed opens => exact unopened closed opens
  | unstarted closed opens starts => exact unstarted closed opens starts
  | reopened busy => exact reopened busy

theorem beginStreaming_begins (field : MetadataField) (c : Controller) :
    Begin field c (beginStreaming field c) := by
  rw [beginStreaming_apply]
  by_cases closed : c.session.state = .closed
  · rw [Session.openDevice_start_apply closed]
    rcases opens : c.session.bench.openWith c.session.profile with ⟨_ | _, opened⟩
    · have torn : ({ c.session with bench := opened } : Session).tornDown =
        { c.session with bench := opened } :=
        Session.tornDown_of_closed closed
      simp only [torn]
      exact .unopened closed opens
    · rcases starts : opened.start field with ⟨_ | _, started⟩
      · have torn : ({ c.session with bench := started, state := .opened } : Session).tornDown =
            { c.session with bench := started.close.2 } := by
          simp only [Session.tornDown, closed]
        simp only [starts, torn]
        exact .unstarted closed opens starts
      · simp only [starts]
        exact .begun _ closed opens starts
  · rw [Attempt.bind_apply, Session.openDevice_apply, if_neg closed]
    exact .reopened closed

end Controller

inductive Operation where
  | beginStreaming (field : MetadataField)
  | request (option : DeviceOption) (value : Float)
  | requestConfirmed (option : DeviceOption) (value : Float)
  | settleNow
  | warmUp (ms : Nat)
  | stabilize (frames : Nat)
  | collect (frames : Nat) (expected : Bool)
  | collectWithin (frames : Nat) (expected : Bool) (timeoutMs : Nat)
  | hold (ms : Nat)

namespace Operation

def setAutoExposure (on : Bool) : Operation :=
  .request .enableAutoExposure (if on then 1 else 0)

inductive Reply where
  | done
  | stream (log : LogId)
  | frames (count : Nat)
  | window (w : Window)

def run : Operation → Attempt Controller Reply
  | .beginStreaming field => .stream <$> Controller.beginStreaming field
  | .request option value => (fun _ => .done) <$> Controller.request option value
  | .requestConfirmed option value => (fun _ => .done) <$> Controller.requestConfirmed option value
  | .settleNow => (fun _ => .done) <$> Controller.settleNow
  | .warmUp ms => .frames <$> Controller.warmUp ms
  | .stabilize frames => (fun _ => .done) <$> Controller.stabilize frames
  | .collect frames expected => .window <$> Controller.collect frames expected
  | .collectWithin frames expected timeoutMs =>
    .window <$> Controller.collectWithin frames expected timeoutMs
  | .hold ms => .frames <$> Controller.hold ms

theorem run_begins (field : MetadataField) (c : Controller) :
    Controller.Begin field c ((beginStreaming field).run c) := by
  rw [run, Attempt.map_apply]
  exact (Controller.beginStreaming_begins field c).map Reply.stream

theorem run_sustained {op : Operation} (later : ∀ field, op ≠ .beginStreaming field) :
    Controller.Sustained op.run := by
  cases op with
  | beginStreaming field => exact absurd rfl (later field)
  | request option value => exact .map _ (.request option value)
  | requestConfirmed option value => exact .map _ (.requestConfirmed option value)
  | settleNow => exact .map _ .settleNow
  | warmUp ms => exact .map _ (.warmUp ms)
  | stabilize frames => exact .map _ (.stabilize frames)
  | collect frames expected => exact .map _ (.collect frames expected)
  | collectWithin frames expected timeoutMs =>
    exact .map _ (.collectWithin frames expected timeoutMs)
  | hold ms => exact .map _ (.hold ms)

end Operation

end ExposureBench
