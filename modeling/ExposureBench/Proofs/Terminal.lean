import ExposureBench.Proofs.CallOrder
import ExposureBench.Proofs.Usage

namespace ExposureBench

namespace Bench

def writes (b : Bench) : List CallRecord := b.calls.toList.filter fun r => !r.call.isLifecycle

variable (b : Bench)

theorem writes_perform {call : Call} (lifecycle : call.isLifecycle)
    (outcome : Except DeviceFault Unit × Device) :
    (b.perform call outcome).2.writes = b.writes := by
  simp [writes, perform, lifecycle]

theorem writes_openWith (profile : StreamProfile) : (b.openWith profile).2.writes = b.writes :=
  b.writes_perform rfl _

theorem writes_stop : b.stop.2.writes = b.writes := b.writes_perform rfl _

theorem writes_close : b.close.2.writes = b.writes := b.writes_perform rfl _

theorem writes_start (field : MetadataField) : (b.start field).2.writes = b.writes := by
  have performed : (b.perform .start (b.device.start b.now)).2.writes = b.writes :=
    b.writes_perform rfl _
  rw [start]
  generalize b.perform .start (b.device.start b.now) = result at performed
  rcases result with ⟨_ | _, _⟩ <;> exact performed

theorem writes_sleep (ms : Nat) : (b.sleep ms).writes = b.writes := by
  rw [writes, writes, calls_sleep]

end Bench

theorem Session.writes_tornDown (s : Session) : s.tornDown.bench.writes = s.bench.writes := by
  unfold tornDown
  split
  · rfl
  · exact Bench.writes_close _
  · exact Bench.writes_close _
  · exact (Bench.writes_close _).trans (Bench.writes_stop _)

namespace Controller

/-- From `c` to `c'` a stall is not left, and nothing is written in it. -/
def StaysStalled (c c' : Controller) : Prop :=
  c.phase.isStalled → c'.phase.isStalled ∧ c'.bench.writes = c.bench.writes

namespace StaysStalled

variable {c c' c'' : Controller}

theorem refl (c : Controller) : c.StaysStalled c := fun stalled => ⟨stalled, rfl⟩

theorem trans (first : c.StaysStalled c') (second : c'.StaysStalled c'') : c.StaysStalled c'' := by
  intro stalled
  obtain ⟨stalled, silent⟩ := first stalled
  obtain ⟨stalled, silent'⟩ := second stalled
  exact ⟨stalled, silent'.trans silent⟩

theorem of_same (phase : c'.phase = c.phase) (writes : c'.bench.writes = c.bench.writes) :
    c.StaysStalled c' :=
  fun stalled => ⟨phase ▸ stalled, writes⟩

theorem slept (c : Controller) (ms : Nat) : c.StaysStalled (c.slept ms) :=
  of_same rfl (c.bench.writes_sleep ms)

theorem of_begin {α : Type} {field : MetadataField} {result : Except Failure α × Controller}
    (begin : Begin field c result) : c.StaysStalled result.2 := by
  cases begin with
  | @begun a opened started id closed opens starts =>
    have opened_writes := c.bench.writes_openWith c.session.profile
    have started_writes := opened.writes_start field
    rw [opens] at opened_writes
    rw [starts] at started_writes
    exact of_same rfl (started_writes.trans opened_writes)
  | unopened closed opens =>
    have opened_writes := c.bench.writes_openWith c.session.profile
    rw [opens] at opened_writes
    exact of_same rfl opened_writes
  | @unstarted fault opened started closed opens starts =>
    have opened_writes := c.bench.writes_openWith c.session.profile
    have started_writes := opened.writes_start field
    rw [opens] at opened_writes
    rw [starts] at started_writes
    exact of_same rfl ((started.writes_close.trans started_writes).trans opened_writes)
  | reopened busy => exact of_same rfl c.session.writes_tornDown

end StaysStalled

/-- On a stalled controller the attempt fails, which leaves it stalled without a write. -/
def Blocked {α : Type} (act : Attempt Controller α) : Prop :=
  ∀ c, c.phase.isStalled → ∃ failure c', act c = (.error failure, c') ∧ c.StaysStalled c'

namespace Blocked

variable {α β : Type} {act : Attempt Controller α}

theorem bind (blocked : Blocked act) (next : α → Attempt Controller β) :
    Blocked (act >>= next) := by
  intro c stalled
  obtain ⟨failure, c', failed, stays⟩ := blocked c stalled
  exact ⟨failure, c', Attempt.bind_of_error failed, stays⟩

theorem after {next : α → Attempt Controller β} (stays : ∀ c : Controller, c.StaysStalled (act c).2)
    (blocked : ∀ a, Blocked (next a)) : Blocked (act >>= next) := by
  intro c stalled
  have passed := stays c
  rcases ran : act c with ⟨failure | a, c'⟩ <;> rw [ran] at passed
  · exact ⟨failure, c', Attempt.bind_of_error ran, passed⟩
  · obtain ⟨failure, c'', failed, stays'⟩ := blocked a c' (passed stalled).1
    exact ⟨failure, c'', (Attempt.bind_of_ok ran).trans failed, passed.trans stays'⟩

theorem afterGet {next : Controller → Attempt Controller β} (blocked : ∀ c, Blocked (next c)) :
    Blocked (MonadState.get >>= next) :=
  after .refl blocked

theorem map (f : α → β) (blocked : Blocked act) : Blocked (f <$> act) := by
  rw [map_eq_pure_bind]
  exact blocked.bind _

theorem ite {p : Prop} [Decidable p] {other : Attempt Controller α} (pos : Blocked act)
    (neg : Blocked other) : Blocked (if p then act else other) := by
  split
  · exact pos
  · exact neg

theorem transition (next : Phase) : Blocked (Controller.transition next) := by
  intro c stalled
  refine ⟨.refused (.transition c.phase next), c, ?_, .refl c⟩
  rw [transition_apply, if_neg (Phase.not_canTransition_of_isStalled stalled next)]

theorem stall (requested observed limitMs : Nat) :
    Blocked (Controller.stall requested observed limitMs : Attempt Controller α) := by
  intro c stalled
  exact ⟨_, _, stall_apply requested observed limitMs c, fun _ =>
    ⟨rfl, c.session.writes_tornDown⟩⟩

theorem request (option : DeviceOption) (value : Float) :
    Blocked (Controller.request option value) :=
  (transition _).bind _

theorem requestConfirmed (option : DeviceOption) (value : Float) :
    Blocked (Controller.requestConfirmed option value) :=
  (request option value).bind _

theorem settleNow : Blocked Controller.settleNow :=
  afterGet fun _ => transition _

theorem sleep_stays (ms : Nat) (c : Controller) : c.StaysStalled (Controller.sleep ms c).2 :=
  .slept c ms

theorem activeLog_stays (c : Controller) : c.StaysStalled (Controller.activeLog c).2 := by
  rw [activeLog_apply]
  cases c.log <;> exact .refl c

theorem warmUp (ms : Nat) : Blocked (Controller.warmUp ms) :=
  after (sleep_stays ms) fun _ => afterGet fun _ => (transition _).bind _

theorem stabilize (frames : Nat) : Blocked (Controller.stabilize frames) :=
  after activeLog_stays fun _ => (transition _).bind _

theorem collectWithin (frames : Nat) (expected : Bool) (timeoutMs : Nat) :
    Blocked (Controller.collectWithin frames expected timeoutMs) := by
  intro c stalled
  refine ⟨.refused (.collectIn c.phase), c, ?_, .refl c⟩
  rw [collectWithin_apply, if_neg (Phase.not_isSettled_of_isStalled stalled)]

theorem collect (frames : Nat) (expected : Bool) : Blocked (Controller.collect frames expected) :=
  afterGet fun _ => collectWithin _ _ _

theorem hold (ms : Nat) : Blocked (Controller.hold ms) :=
  -- A hold sleeps before it asks the table, and stalls anew if no frame comes.
  after activeLog_stays fun _ => afterGet fun _ => after (sleep_stays ms) fun _ =>
    afterGet fun _ => ite ((stall _ _ _).bind _) ((transition _).bind _)

end Blocked

/-- If the attempt ends in a wait that ran out, it leaves the stall of that wait. -/
def TellsStall {α : Type} (act : Attempt Controller α) : Prop :=
  ∀ c requested observed limit c', act c = (.error (.timedOut requested observed limit), c') →
    observed < requested ∧ c'.phase = .stalled requested observed ∧ c'.session.state = .closed

namespace TellsStall

variable {α β : Type} {act : Attempt Controller α}

theorem bind {next : α → Attempt Controller β} (first : TellsStall act)
    (rest : ∀ a, TellsStall (next a)) : TellsStall (act >>= next) := by
  intro c requested observed limit c'' out
  rcases ran : act c with ⟨failure | a, c'⟩
  · rw [Attempt.bind_of_error ran] at out
    cases out
    exact first c requested observed limit c'' ran
  · rw [Attempt.bind_of_ok ran] at out
    exact rest a c' requested observed limit c'' out

theorem map (f : α → β) (tells : TellsStall act) : TellsStall (f <$> act) := by
  rw [map_eq_pure_bind]
  apply tells.bind
  intro a c requested observed limit c' out
  cases out

theorem ite {p : Prop} [Decidable p] {other : Attempt Controller α} (pos : TellsStall act)
    (neg : TellsStall other) : TellsStall (if p then act else other) := by
  split
  · exact pos
  · exact neg

theorem pure (a : α) : TellsStall (Pure.pure a) := by
  intro c requested observed limit c' out
  cases out

theorem get : TellsStall MonadState.get := by
  intro c requested observed limit c' out
  cases out

theorem onBench (call : Bench → α × Bench) : TellsStall (Controller.onBench call) := by
  intro c requested observed limit c' out
  cases out

theorem refuse (step : Refused) : TellsStall (Attempt.refuse step : Attempt Controller α) := by
  intro c requested observed limit c' out
  cases out

theorem transition (next : Phase) : TellsStall (Controller.transition next) := by
  intro c requested observed limit c' out
  rw [transition_apply] at out
  split at out <;> cases out

theorem activeLog : TellsStall Controller.activeLog := by
  intro c requested observed limit c' out
  rw [activeLog_apply] at out
  split at out <;> cases out

theorem request (option : DeviceOption) (value : Float) :
    TellsStall (Controller.request option value) := by
  apply (transition _).bind
  intro _
  apply (onBench _).bind
  rintro (fault | _)
  · intro c requested observed limit c' out
    cases out
  · exact pure ()

theorem confirm (option : DeviceOption) (requested : Float) :
    TellsStall (Controller.confirm option requested) := by
  intro c _ observed limit c' out
  rw [confirm_apply] at out
  split at out
  · cases out
  · split at out <;> cases out

theorem requestConfirmed (option : DeviceOption) (value : Float) :
    TellsStall (Controller.requestConfirmed option value) :=
  (request option value).bind fun _ => (confirm option value).bind fun _ => pure ()

theorem settleNow : TellsStall Controller.settleNow :=
  get.bind fun _ => transition _

theorem warmUp (ms : Nat) : TellsStall (Controller.warmUp ms) :=
  (onBench _).bind fun _ => get.bind fun _ => (transition _).bind fun _ => pure _

theorem stall {requested observed : Nat} (few : observed < requested) (limitMs : Nat) :
    TellsStall (Controller.stall requested observed limitMs : Attempt Controller α) := by
  intro c requested' observed' limit c' out
  rw [stall_apply] at out
  cases out
  exact ⟨few, rfl, c.session.tornDown_state⟩

theorem await (log : LogId) (frames timeoutMs : Nat) :
    TellsStall (Controller.await log frames timeoutMs) := by
  apply get.bind
  intro c
  apply (onBench _).bind
  intro outcome
  cases satisfied : outcome.isSatisfied with
  | true => exact pure ()
  | false => exact stall (Nat.not_le.mp (of_decide_eq_false satisfied)) timeoutMs

theorem stabilize (frames : Nat) : TellsStall (Controller.stabilize frames) :=
  activeLog.bind fun _ => (transition _).bind fun _ => get.bind fun _ => (await _ _ _).bind fun _ =>
    get.bind fun _ => transition _

theorem collectWithin (frames : Nat) (expected : Bool) (timeoutMs : Nat) :
    TellsStall (Controller.collectWithin frames expected timeoutMs) := by
  have collects : ∀ c : Controller, TellsStall (do
      let log ← Controller.activeLog
      Controller.await log frames timeoutMs
      return Window.spanning (c.bench.count log) ((← MonadState.get).bench.count log) expected) :=
    fun _ => activeLog.bind fun _ => (await _ _ _).bind fun _ => get.bind fun _ => pure _
  exact get.bind fun c => ite ((refuse _).bind fun _ => collects c) (collects c)

theorem collect (frames : Nat) (expected : Bool) :
    TellsStall (Controller.collect frames expected) :=
  get.bind fun _ => collectWithin _ _ _

theorem hold (ms : Nat) : TellsStall (Controller.hold ms) :=
  activeLog.bind fun _ => get.bind fun _ => (onBench _).bind fun _ => get.bind fun _ =>
    ite ((stall Nat.one_pos ms).bind fun _ => (transition _).bind fun _ => pure _)
      ((transition _).bind fun _ => pure _)

end TellsStall

end Controller

namespace Operation

theorem run_blocked {op : Operation} (later : ∀ field, op ≠ .beginStreaming field) :
    Controller.Blocked op.run := by
  cases op with
  | beginStreaming field => exact absurd rfl (later field)
  | request option value => exact .map _ (.request option value)
  | requestConfirmed option value => exact .map _ (.requestConfirmed option value)
  | settleNow => exact .map _ .settleNow
  | warmUp ms => exact .map _ (.warmUp ms)
  | stabilize frames => exact .map _ (.stabilize frames)
  | collect frames expected => exact .map _ (.collect frames expected)
  | collectWithin frames expected timeoutMs =>
    exact .map _ (.collectWithin frames expected timeoutMs)
  | hold ms => exact .map _ (.hold ms)

theorem run_tellsStall (op : Operation) : Controller.TellsStall op.run := by
  cases op with
  | beginStreaming field =>
    intro c requested observed limit c' out
    have begun := run_begins field c
    rw [out] at begun
    cases begun
  | request option value => exact .map _ (.request option value)
  | requestConfirmed option value => exact .map _ (.requestConfirmed option value)
  | settleNow => exact .map _ .settleNow
  | warmUp ms => exact .map _ (.warmUp ms)
  | stabilize frames => exact .map _ (.stabilize frames)
  | collect frames expected => exact .map _ (.collect frames expected)
  | collectWithin frames expected timeoutMs =>
    exact .map _ (.collectWithin frames expected timeoutMs)
  | hold ms => exact .map _ (.hold ms)

end Operation

namespace Plan.Step

variable (s : Step)

theorem staysStalled : s.before.StaysStalled s.after := by
  rcases s with ⟨op, c⟩
  rw [after]
  by_cases begin : ∃ field, op = .beginStreaming field
  · obtain ⟨field, rfl⟩ := begin
    exact .of_begin (Operation.run_begins field c)
  · intro stalled
    obtain ⟨failure, c', failed, stays⟩ :=
      Operation.run_blocked (fun field same => begin ⟨field, same⟩) c stalled
    dsimp only
    rw [failed]
    exact stays stalled

end Plan.Step

namespace Usage

/-- A stall is for good: later the controller is stalled and has written nothing more, and all that
it can be asked for without an error is a new stream. Where a wait is said to have run out, too few
frames came in it, the phase tells the same wait, and the session is closed. -/
structure StallsForGood (usage : Usage) (c : Controller) : Prop where
  terminal : (usage.moments c).Pairwise Controller.StaysStalled
  fails : ∀ s ∈ usage.steps c, s.before.phase.isStalled →
    (∃ field, s.operation = .beginStreaming field) ∨ ∃ failure, s.outcome = .error failure
  told : ∀ s ∈ usage.steps c, ∀ requested observed limit,
    s.outcome = .error (.timedOut requested observed limit) → observed < requested ∧
      s.after.phase = .stalled requested observed ∧ s.after.session.state = .closed

/-- Whatever is asked of whatever controller. -/
theorem stalls_for_good (usage : Usage) (c : Controller) : usage.StallsForGood c where
  terminal := moments_pairwise .trans .slept usage c fun s _ => s.staysStalled
  fails := by
    rintro ⟨op, m⟩ _ stalled
    by_cases begin : ∃ field, op = .beginStreaming field
    · exact .inl begin
    · obtain ⟨failure, _, failed, _⟩ :=
        Operation.run_blocked (fun field same => begin ⟨field, same⟩) m stalled
      exact .inr ⟨failure, congrArg Prod.fst failed⟩
  told := by
    rintro ⟨op, m⟩ _ requested observed limit out
    exact op.run_tellsStall m requested observed limit _ (Prod.ext out rfl)

end Usage

end ExposureBench
