import ExposureBench.Proofs.Accounting
import ExposureBench.Proofs.Usage

namespace ExposureBench

namespace Controller

theorem framesObserved_of_log {c : Controller} {log : LogId} (present : c.log = some log) :
    c.framesObserved = c.bench.count log := by
  rw [framesObserved, present]
  rfl

/-- From `c` to `c'` no frame is lost, and a phase that has settled in between has settled from a
count of frames in between. -/
structure Resettles (c c' : Controller) : Prop where
  observed : c.framesObserved ≤ c'.framesObserved
  settled : ∀ since, c'.phase = .settled since → c.phase = .settled since ∨
    (c.framesObserved ≤ since ∧ since ≤ c'.framesObserved)

namespace Resettles

variable {c c' c'' : Controller}

theorem refl (c : Controller) : c.Resettles c :=
  ⟨Nat.le_refl _, fun _ settled => .inl settled⟩

theorem trans (first : c.Resettles c') (second : c'.Resettles c'') : c.Resettles c'' where
  observed := Nat.le_trans first.observed second.observed
  settled := by
    intro since settled
    rcases second.settled since settled with earlier | ⟨low, high⟩
    · refine (first.settled since earlier).imp_right fun ⟨low, high⟩ => ?_
      exact ⟨low, Nat.le_trans high second.observed⟩
    · exact .inr ⟨Nat.le_trans first.observed low, high⟩

theorem of_observed (observed : c.framesObserved ≤ c'.framesObserved)
    (phase : c'.phase = c.phase ∨ c'.phase.isSettled = false) : c.Resettles c' where
  observed := observed
  settled := by
    intro since settled
    rcases phase with same | unsettled
    · exact .inl (same ▸ settled)
    · rw [settled] at unsettled
      cases unsettled

theorem of_logs (log : c'.log = c.log) (logs : c'.bench.logs = c.bench.logs)
    (phase : c'.phase = c.phase) : c.Resettles c' := by
  apply of_observed _ (.inl phase)
  have counts : c'.bench.count = c.bench.count := by
    funext id
    rw [Bench.count, Bench.log?, logs]
    rfl
  rw [framesObserved, framesObserved, log, counts]

theorem of_evolves {bench : Bench} (evolves : c.bench.Evolves bench) :
    c.Resettles (c.withBench bench) := by
  apply of_observed
  · change c.log.elim 0 c.bench.count ≤ c.log.elim 0 bench.count
    cases c.log with
    | none => exact Nat.le_refl 0
    | some id => exact evolves.count_le id
  · exact .inl rfl

theorem slept (c : Controller) (ms : Nat) : c.Resettles (c.slept ms) :=
  of_evolves (.slept .refl ms)

theorem inPhase (c : Controller) {phase : Phase} (unsettled : phase.isSettled = false) :
    c.Resettles (c.inPhase phase) :=
  of_observed (Nat.le_refl _) (.inr unsettled)

theorem tornDown (c : Controller) : c.Resettles c.tornDown :=
  of_observed (Nat.le_of_eq c.framesObserved_tornDown.symm) (.inl rfl)

theorem stalledAt (c : Controller) (requested observed : Nat) :
    c.Resettles (c.stalledAt requested observed) :=
  (inPhase c rfl).trans (tornDown _)

theorem settle (c : Controller) :
    c.Resettles (transition (.settled c.framesObserved) c).2 := by
  rw [transition_apply]
  split
  · refine ⟨Nat.le_refl _, fun since settled => .inr ?_⟩
    cases settled
    exact ⟨Nat.le_refl _, Nat.le_refl _⟩
  · exact refl c

theorem map {α β : Type} (f : α → β) {act : Attempt Controller α}
    (resettles : c.Resettles (act c).2) : c.Resettles ((f <$> act) c).2 := by
  rwa [Attempt.map_apply]

theorem request (option : DeviceOption) (value : Float) (c : Controller) :
    c.Resettles (Controller.request option value c).2 := by
  rw [request_apply]
  split
  · exact (inPhase c rfl).trans (of_evolves (.written .refl option value))
  · exact refl c

theorem requestConfirmed (option : DeviceOption) (value : Float) (c : Controller) :
    c.Resettles (Controller.requestConfirmed option value c).2 := by
  have requested := request option value c
  rw [requestConfirmed_apply]
  generalize Controller.request option value c = result at requested
  rcases result with ⟨_ | _, c'⟩ <;> exact requested

theorem warmUp (ms : Nat) (c : Controller) : c.Resettles (Controller.warmUp ms c).2 := by
  have leaves : (Controller.warmUp ms c).2 =
      (transition (.settled (c.slept ms).framesObserved) (c.slept ms)).2 := by
    rw [warmUp_apply, transition_apply]
    by_cases can : c.phase.canTransition (.settled (c.slept ms).framesObserved) <;> simp [can]
  rw [leaves]
  exact (slept c ms).trans (settle _)

theorem await (log : LogId) (frames timeoutMs : Nat) (c : Controller) :
    c.Resettles (Controller.await log frames timeoutMs c).2 := by
  have waited := of_evolves (c.barrier.wait_evolves log frames timeoutMs c.bench)
  rw [await_apply]
  dsimp only
  split
  · exact waited
  · exact waited.trans (stalledAt _ _ _)

theorem stabilize (frames : Nat) (c : Controller) :
    c.Resettles (Controller.stabilize frames c).2 := by
  rw [stabilize_apply]
  split
  · exact refl c
  next log present =>
  split
  · have entered : c.Resettles (c.inPhase (.stabilizing frames)) := inPhase c rfl
    have awaited := entered.trans (await log frames c.timeoutMs _)
    have kept := (Sustained.await log frames c.timeoutMs).log_eq (c.inPhase (.stabilizing frames))
    generalize Controller.await log frames c.timeoutMs (c.inPhase (.stabilizing frames)) = result
      at awaited kept
    rcases result with ⟨_ | _, c'⟩
    · exact awaited
    · have settles := awaited.trans (settle c')
      rwa [framesObserved_of_log (kept.trans present)] at settles
  · exact refl c

theorem collectWithin (frames : Nat) (expected : Bool) (timeoutMs : Nat) (c : Controller) :
    c.Resettles (Controller.collectWithin frames expected timeoutMs c).2 := by
  rw [collectWithin_apply]
  split
  · split
    · exact refl c
    next log present =>
      have awaited := await log frames timeoutMs c
      generalize Controller.await log frames timeoutMs c = result at awaited
      rcases result with ⟨_ | _, c'⟩ <;> exact awaited
  · exact refl c

theorem hold (ms : Nat) (c : Controller) : c.Resettles (Controller.hold ms c).2 := by
  rw [hold_apply]
  split
  · exact refl c
  next log present =>
  dsimp only
  split
  · exact (slept c ms).trans (stalledAt _ _ _)
  · have settles := (slept c ms).trans (settle _)
    have present' : (c.slept ms).log = some log := present
    rw [framesObserved_of_log present'] at settles
    generalize transition _ (c.slept ms) = result at settles ⊢
    rcases result with ⟨_ | _, c'⟩ <;> exact settles

theorem of_begin {α : Type} {field : MetadataField} {result : Except Failure α × Controller}
    (begin : Begin field c result) (fresh : ∀ a, result.1 = .ok a → c.log = none) :
    c.Resettles result.2 := by
  cases begin with
  | begun a closed opens starts =>
    refine of_observed ?_ (.inl rfl)
    rw [framesObserved, fresh a rfl]
    exact Nat.zero_le _
  | @unopened fault opened closed opens =>
    refine of_logs ?_ ?_ ?_
    · rfl
    · exact (congrArg (·.2.logs) opens).symm
    · rfl
  | @unstarted fault opened started closed opens starts =>
    refine of_logs ?_ ?_ ?_
    · rfl
    · exact (Bench.logs_start_error starts).trans (congrArg (·.2.logs) opens).symm
    · rfl
  | reopened busy => exact tornDown c

end Resettles

theorem framesObserved_hold {c c' : Controller} {ms observed : Nat}
    (done : hold ms c = (.ok observed, c')) :
    c.framesObserved + observed ≤ c'.framesObserved := by
  obtain ⟨log, present, some, rfl, rfl⟩ := hold_done done
  have after : (inPhase (c.withBench (c.bench.sleep ms))
      (.settled ((c.bench.sleep ms).count log))).framesObserved = (c.bench.sleep ms).count log :=
    framesObserved_of_log present
  rw [after, framesObserved_of_log present]
  omega

theorem settled_of_collectWithin {c c' : Controller} {frames timeoutMs : Nat} {expected : Bool}
    {w : Window} (done : collectWithin frames expected timeoutMs c = (.ok w, c')) :
    ∃ since, c.phase = .settled since ∧ c'.phase = .settled since := by
  obtain ⟨log, _, _, _, same⟩ := collectWithin_done done
  rw [collectWithin_apply] at done
  split at done
  next settled =>
    cases phase : c.phase with
    | settled since =>
      refine ⟨since, rfl, ?_⟩
      rw [same]
      exact phase
    | _ =>
      rw [phase] at settled
      cases settled
  · cases done

end Controller

namespace Plan.Step

def begins (s : Step) : Bool :=
  match s.outcome with
  | .ok (.stream _) => true
  | _ => false

/-- The frames that a step makes later windows stand off from earlier ones. -/
def passed (s : Step) : Nat :=
  match s.operation, s.outcome with
  | .stabilize frames, .ok _ => frames
  | .hold _, .ok (.frames observed) => observed
  | _, _ => 0

variable {s : Step}

theorem begins_of_ok {field : MetadataField} {c : Controller} {r : Operation.Reply}
    (done : ((Operation.beginStreaming field).run c).1 = .ok r) :
    begins ⟨.beginStreaming field, c⟩ := by
  rw [begins, outcome]
  dsimp only
  rw [Operation.run, Attempt.map_apply] at done ⊢
  generalize (Controller.beginStreaming field c).1 = answer at done ⊢
  cases answer with
  | error => cases done
  | ok => rfl

theorem log_after (continues : s.begins = false) : s.after.log = s.before.log := by
  rcases s with ⟨op, c⟩
  rw [after]
  by_cases begin : ∃ field, op = .beginStreaming field
  · obtain ⟨field, rfl⟩ := begin
    have begun := Operation.run_begins field c
    rcases ran : (Operation.beginStreaming field).run c with ⟨_ | r, c'⟩ <;> rw [ran] at begun
    · cases begun <;> rfl
    · rw [begins_of_ok (congrArg Prod.fst ran)] at continues
      cases continues
  · exact (Operation.run_sustained fun field same => begin ⟨field, same⟩).log_eq c

theorem resettles (fresh : s.begins → s.before.log = none) : s.before.Resettles s.after := by
  rcases s with ⟨op, c⟩
  rw [after]
  cases op with
  | beginStreaming field =>
    exact .of_begin (Operation.run_begins field c) fun r done => fresh (begins_of_ok done)
  | request option value => exact .map _ (.request option value c)
  | requestConfirmed option value => exact .map _ (.requestConfirmed option value c)
  | settleNow => exact .map _ (.settle c)
  | warmUp ms => exact .map _ (.warmUp ms c)
  | stabilize frames => exact .map _ (.stabilize frames c)
  | collect frames expected => exact .map _ (.collectWithin frames expected c.timeoutMs c)
  | collectWithin frames expected timeoutMs =>
    exact .map _ (.collectWithin frames expected timeoutMs c)
  | hold ms => exact .map _ (.hold ms c)

theorem passed_le (fresh : s.begins → s.before.log = none) :
    s.before.framesObserved + s.passed ≤ s.after.framesObserved := by
  have grows := (resettles fresh).observed
  rcases s with ⟨op, c⟩
  rcases ran : op.run c with ⟨failure | r, c'⟩
  · rw [passed, outcome, ran]
    cases op <;> exact grows
  rw [passed, outcome, after] at *
  dsimp only at grows ⊢
  rw [ran] at grows ⊢
  cases op with
  | stabilize frames =>
    obtain ⟨_, done, _⟩ := Attempt.ok_of_map ran
    exact Controller.framesObserved_stabilize done
  | hold ms =>
    obtain ⟨observed, done, rfl⟩ := Attempt.ok_of_map ran
    exact Controller.framesObserved_hold done
  | _ => exact grows

theorem settled_of_window? {w : Window} (collected : s.window? = some w) :
    ∃ since, s.before.phase = .settled since ∧ s.after.phase = .settled since := by
  rcases s with ⟨op, c⟩
  have expected := (window?_done collected).2.2
  rw [window?, outcome] at collected
  rw [after]
  dsimp only at collected expected ⊢
  rcases ran : op.run c with ⟨failure | r, c'⟩ <;> rw [ran] at collected
  · cases collected
  cases op with
  | collect frames expected =>
    obtain ⟨_, done, _⟩ := Attempt.ok_of_map ran
    rw [Controller.collect_apply] at done
    exact Controller.settled_of_collectWithin done
  | collectWithin frames expected timeoutMs =>
    obtain ⟨_, done, _⟩ := Attempt.ok_of_map ran
    exact Controller.settled_of_collectWithin done
  | _ => cases expected

end Plan.Step

namespace Usage

variable {usage : Usage} {c : Controller}

theorem fresh_of_once (once : c.log.isSome.toNat + (usage.steps c).countP (·.begins) ≤ 1) :
    ∀ s ∈ usage.steps c, s.begins → s.before.log = none := by
  induction usage generalizing c with
  | nil =>
    intro s member
    cases member
  | cons entry rest ih =>
    obtain ⟨ms, op⟩ := entry
    rw [steps, List.countP_cons] at once
    refine List.forall_mem_cons.mpr ⟨?_, ih ?_⟩
    · intro begins
      rw [if_pos begins] at once
      cases present : c.log with
      | none => exact present
      | some id =>
        rw [present] at once
        change 1 + _ ≤ 1 at once
        omega
    · cases begins : Plan.Step.begins ⟨op, c.slept ms⟩ with
      | false =>
        rw [Plan.Step.log_after begins]
        rw [begins] at once
        exact once
      | true =>
        -- This is the one stream, so what comes later begins none.
        rw [if_pos begins] at once
        have := Bool.toNat_le (Plan.Step.after ⟨op, c.slept ms⟩).log.isSome
        omega

theorem passed_le {between last : List Plan.Step} {s : Plan.Step}
    (split : usage.steps c = between ++ s :: last)
    (fresh : ∀ s ∈ usage.steps c, s.begins → s.before.log = none) :
    c.framesObserved + (between.map (·.passed)).sum ≤ s.before.framesObserved := by
  induction between generalizing usage c with
  | nil =>
    obtain ⟨ms, found⟩ := (steps_eq_cons split).1
    rw [found]
    exact (Controller.Resettles.slept c ms).observed
  | cons t others ih =>
    obtain ⟨⟨ms, found⟩, later, onward⟩ := steps_eq_cons split
    rw [split, List.cons_append] at fresh
    obtain ⟨here, rest⟩ := List.forall_mem_cons.mp fresh
    have onward : later.steps t.after = others ++ s :: last := onward.symm
    calc
      c.framesObserved + ((t :: others).map (·.passed)).sum
        = c.framesObserved + t.passed + (others.map (·.passed)).sum := by
          rw [List.map_cons, List.sum_cons, Nat.add_assoc]
      _ ≤ t.before.framesObserved + t.passed + (others.map (·.passed)).sum := by
          rw [found]
          have slept := (Controller.Resettles.slept c ms).observed
          omega
      _ ≤ t.after.framesObserved + (others.map (·.passed)).sum :=
          Nat.add_le_add_right (Plan.Step.passed_le here) _
      _ ≤ s.before.framesObserved := ih onward (onward ▸ rest)

theorem moments_resettle (fresh : ∀ s ∈ usage.steps c, s.begins → s.before.log = none) :
    (usage.moments c).Pairwise Controller.Resettles :=
  moments_pairwise .trans .slept usage c fun s member => s.resettles (fresh s member)

theorem settled_observed (idle : c.phase = .idle)
    (resettle : (usage.moments c).Pairwise Controller.Resettles) :
    ∀ m ∈ usage.moments c, ∀ since, m.phase = .settled since → since ≤ m.framesObserved := by
  intro m member since settled
  rcases List.mem_cons.mp member with rfl | later
  · rw [idle] at settled
    cases settled
  · rcases (List.rel_of_pairwise_cons resettle later).settled since settled with earlier | ⟨_, le⟩
    · rw [idle] at earlier
      cases earlier
    · exact le

theorem settled_ordered (resettle : (usage.moments c).Pairwise Controller.Resettles)
    (observed : ∀ m ∈ usage.moments c, ∀ since, m.phase = .settled since →
      since ≤ m.framesObserved) :
    (usage.moments c).Pairwise fun m m' => ∀ since since', m.phase = .settled since →
      m'.phase = .settled since' → since ≤ since' := by
  refine resettle.imp_of_mem fun {m m'} member _ resettles since since' settled settled' => ?_
  rcases resettles.settled since' settled' with same | ⟨le, _⟩
  · rw [settled] at same
    cases same
    exact Nat.le_refl since
  · exact Nat.le_trans (observed m member since settled) le

theorem windows_apart (fresh : ∀ s ∈ usage.steps c, s.begins → s.before.log = none)
    {first between last : List Plan.Step} {s s' : Plan.Step} {w w' : Window}
    (split : usage.steps c = first ++ s :: between ++ s' :: last)
    (collected : s.window? = some w) (collected' : s'.window? = some w') :
    w.stop + (between.map (·.passed)).sum ≤ w'.start := by
  let v : Plan.Collection := ⟨s.before, s, w, collected⟩
  let v' : Plan.Collection := ⟨s'.before, s', w', collected'⟩
  rw [List.append_assoc, List.cons_append] at split
  obtain ⟨later, onward⟩ := steps_eq_append split
  have onward : later.steps s.after = between ++ s' :: last := onward.symm
  have fresh : ∀ t ∈ later.steps s.after, t.begins → t.before.log = none := by
    intro t member
    apply fresh t
    rw [split, ← onward]
    exact List.mem_append_right _ (List.mem_cons_of_mem s member)
  calc
    w.stop + (between.map (·.passed)).sum
      = s.after.framesObserved + (between.map (·.passed)).sum := by rw [v.stop_eq]
    _ ≤ s'.before.framesObserved := passed_le onward fresh
    _ = w'.start := v'.start_eq.symm

/-- The phase settles from frames that have been observed, and never from earlier ones than before.
A window of so many frames begins no earlier than that and ends with the last frame observed.
Between two windows lie at least the frames for which the controller was stabilized and those seen
while it was held. -/
structure WindowsSettled (usage : Usage) (c : Controller) : Prop where
  observed : ∀ m ∈ usage.moments c, ∀ since, m.phase = .settled since → since ≤ m.framesObserved
  ordered : (usage.moments c).Pairwise fun m m' => ∀ since since',
    m.phase = .settled since → m'.phase = .settled since' → since ≤ since'
  window : ∀ s ∈ usage.steps c, ∀ w, s.window? = some w → ∃ since,
    s.before.phase = .settled since ∧ s.after.phase = .settled since ∧ since ≤ w.start ∧
      w.stop = s.after.framesObserved ∧ s.operation.frames ≤ w.length
  apart : ∀ first s between s' last w w',
    usage.steps c = first ++ s :: between ++ s' :: last → s.window? = some w →
      s'.window? = some w' → w.stop + (between.map (·.passed)).sum ≤ w'.start

/-- Whatever is asked of a new controller, in whatever order, as long as it begins one stream at
most. -/
theorem windows_settled (session : Session) (barrier : Barrier) (timeoutMs : Nat) (usage : Usage)
    (once : (usage.steps { session, barrier, timeoutMs }).countP (·.begins) ≤ 1) :
    usage.WindowsSettled { session, barrier, timeoutMs } := by
  have fresh : ∀ s ∈ usage.steps { session, barrier, timeoutMs },
      s.begins → s.before.log = none := by
    apply fresh_of_once
    rwa [Option.isSome_none, Bool.toNat_false, Nat.zero_add]
  have resettle := moments_resettle fresh
  have observed := settled_observed rfl resettle
  refine ⟨observed, settled_ordered resettle observed, ?_, ?_⟩
  · intro s member w collected
    let v : Plan.Collection := ⟨s.before, s, w, collected⟩
    obtain ⟨since, settled, settled'⟩ := s.settled_of_window? collected
    have le : since ≤ w.start :=
      v.start_eq ▸ observed s.before (before_mem_moments member) since settled
    exact ⟨since, settled, settled', le, v.stop_eq, v.frames_le_length⟩
  · intro first s between s' last w w' split collected collected'
    exact windows_apart fresh split collected collected'

/-- Auto-exposure is on, is switched off, and stays off for a while. -/
theorem switched_camera_windows_settled :
    let session : Session :=
      { bench := { device := .camera (Camera.ofConfig .default) }
        profile := ⟨.depth, .z16, 848, 480, 30⟩ }
    let c : Controller := { session, barrier := .default, timeoutMs := 2000 }
    let usage : Usage := [(0, .beginStreaming .autoExposure), (0, .settleNow), (0, .collect 2 true),
      (0, .setAutoExposure false), (0, .stabilize 3), (50, .collect 2 false), (0, .hold 100),
      (0, .collect 1 false)]
    (usage.steps c).countP (·.begins) = 1 ∧
      ((usage.steps c).filterMap (·.window?)).map (fun w => (w.start, w.stop)) =
        [(0, 2), (6, 8), (11, 12)] ∧
      usage.WindowsSettled c := by
  intro session c usage
  have once : (usage.steps c).countP (·.begins) = 1 := by decide +kernel
  exact ⟨once, by decide +kernel, windows_settled session .default 2000 usage (Nat.le_of_eq once)⟩

end Usage

end ExposureBench
