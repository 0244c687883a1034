import ExposureBench.Proofs.Collected

/-!
The log of a stream is the newest of its bench, is numbered by its places, and keeps what it once
holds.
-/

namespace ExposureBench

namespace FrameLog

/-- Each event has its place in the log for its number. -/
def Numbered (log : FrameLog) : Prop := log.all.map (·.sequence) = List.range log.count

theorem numbered_empty (field : MetadataField) (origin : Nat) :
    Numbered { field, origin } := rfl

theorem Numbered.recordValue {log : FrameLog} (numbered : log.Numbered) (now : Nat)
    (value : Option Int) : (log.recordValue now value).Numbered := by
  have events : (log.recordValue now value).all =
      log.all ++ [⟨log.count, log.timestampAt now, value⟩] :=
    Array.toList_push
  have count : (log.recordValue now value).count = log.count + 1 := Array.size_push _
  rw [Numbered, events, count, List.map_append, numbered, List.range_succ]
  rfl

theorem Numbered.record {log : FrameLog} (numbered : log.Numbered) (now : Nat) (frame : Frame) :
    (log.record now frame).Numbered :=
  numbered.recordValue now (frame.metadata log.field)

theorem Numbered.slice {log : FrameLog} (numbered : log.Numbered) (start stop : Nat) :
    (log.slice start stop).map (·.sequence) =
      List.range' start (min stop log.count - start) := by
  rw [slice_eq, List.map_drop, List.map_take, numbered, List.take_range, List.range_eq_range',
    List.drop_range', Nat.zero_add, Nat.mul_one]

end FrameLog

namespace Bench

variable {b b' : Bench}

theorem recordAll_keeps {P : FrameLog → Prop}
    (record : ∀ log now frame, P log → P (log.record now frame)) (arrivals : List Arrival)
    {log : FrameLog} (holds : P log) : P (recordAll log arrivals) := by
  induction arrivals generalizing log with
  | nil => exact holds
  | cons a rest ih => exact ih (record log a.time a.frame holds)

theorem Evolves.keeps_log {P : FrameLog → Prop}
    (record : ∀ log now frame, P log → P (log.record now frame)) {id : LogId}
    (evolves : b.Evolves b') (holds : ∀ log, b.log? id = some log → P log) :
    ∀ log, b'.log? id = some log → P log := by
  refine evolves.keeps (P := fun b => ∀ log, b.log? id = some log → P log) ?_ ?_ holds
  · intro b ms holds log present
    rcases Nat.eq_zero_or_pos ms with rfl | positive
    · rw [sleep_zero] at present
      exact holds log present
    · rw [b.log?_sleep positive] at present
      split at present
      · obtain ⟨before, stood, rfl⟩ := Option.map_eq_some_iff.mp present
        exact recordAll_keeps record _ (holds before stood)
      · exact holds log present
  · intro b option v holds
    exact holds

theorem Evolves.size_logs (evolves : b.Evolves b') : b'.logs.size = b.logs.size := by
  refine evolves.keeps (P := fun b' => b'.logs.size = b.logs.size) ?_ ?_ rfl
  · intro b' ms same
    rw [size_logs_sleep, same]
  · intro b' option v same
    exact same

end Bench

namespace Controller

variable {c c' : Controller} {id : LogId}

/-- All that a log held with `c` it holds with `c'`, perhaps with more after it. -/
def Extends (id : LogId) (c c' : Controller) : Prop :=
  ∀ log, c.bench.log? id = some log → ∃ new, c'.bench.log? id = some (log.append new)

theorem Extends.refl (id : LogId) (c : Controller) : Extends id c c := by
  intro log present
  exact ⟨[], by rw [present, log.append_nil]⟩

theorem Extends.trans {c'' : Controller} (first : Extends id c c') (second : Extends id c' c'') :
    Extends id c c'' := by
  intro log present
  obtain ⟨new, extended⟩ := first log present
  obtain ⟨later, extended⟩ := second _ extended
  exact ⟨new ++ later, by rw [extended, log.append_append]⟩

theorem log?_tornDown (c : Controller) (id : LogId) :
    c.tornDown.bench.log? id = c.bench.log? id := by
  rw [Bench.log?, logs_tornDown]
  rfl

theorem log?_finish (c : Controller) (id : LogId) :
    c.finish.bench.log? id = c.bench.log? id := by
  rw [finish_eq, log?_tornDown]

namespace Sustained

variable {α : Type} {act : Attempt Controller α}

theorem log?_evolves (sustained : Sustained act) (c : Controller) :
    ∃ bench, c.bench.Evolves bench ∧ (act c).2.bench.log? = bench.log? := by
  have effect := sustained c
  generalize act c = result at effect
  cases effect with
  | @live outcome bench phase evolves => exact ⟨bench, evolves, rfl⟩
  | @stalled requested observed limit bench evolves =>
    exact ⟨bench, evolves, funext fun id => log?_tornDown _ id⟩

theorem extends_log (sustained : Sustained act) (c : Controller) (id : LogId) :
    c.Extends id (act c).2 := by
  intro log present
  obtain ⟨bench, evolves, same⟩ := sustained.log?_evolves c
  obtain ⟨new, log', present', extended⟩ := evolves.records present
  cases present.symm.trans present'
  exact ⟨new, by rw [same, extended]⟩

theorem keeps_log (sustained : Sustained act) {P : FrameLog → Prop}
    (record : ∀ log now frame, P log → P (log.record now frame))
    (holds : ∀ log, c.bench.log? id = some log → P log) :
    ∀ log, (act c).2.bench.log? id = some log → P log := by
  obtain ⟨bench, evolves, same⟩ := sustained.log?_evolves c
  rw [same]
  exact evolves.keeps_log record holds

end Sustained

end Controller

namespace Controller

/-- `c'` has the stream of `c`, with all that had been recorded. -/
structure Continues (c c' : Controller) : Prop where
  log : c'.log = c.log
  keeps : ∀ id, c.Extends id c'

namespace Continues

variable {c c' c'' : Controller}

theorem refl (c : Controller) : c.Continues c := ⟨rfl, fun id => .refl id c⟩

theorem trans (first : c.Continues c') (second : c'.Continues c'') : c.Continues c'' :=
  ⟨second.log.trans first.log, fun id => (first.keeps id).trans (second.keeps id)⟩

theorem framesObserved_le (continues : c.Continues c') : c.framesObserved ≤ c'.framesObserved := by
  rw [framesObserved, framesObserved, continues.log]
  rcases c.log with _ | id
  · exact Nat.le_refl 0
  · change (c.bench.log? id).elim 0 _ ≤ (c'.bench.log? id).elim 0 _
    rcases present : c.bench.log? id with _ | log
    · exact Nat.zero_le _
    · obtain ⟨new, extended⟩ := continues.keeps id log present
      rw [extended]
      change log.count ≤ (log.append new).count
      rw [log.count_append]
      exact Nat.le_add_right _ _

theorem slice_recorded (continues : c.Continues c') {start stop : Nat}
    (inside : stop ≤ c.framesObserved) :
    (Scenario.recorded c').slice start stop = (Scenario.recorded c).slice start stop := by
  rw [framesObserved] at inside
  rw [Scenario.recorded, Scenario.recorded, continues.log]
  rcases begun : c.log with _ | id <;> rw [begun] at inside
  · rfl
  · change stop ≤ (c.bench.log? id).elim 0 _ at inside
    change ((c'.bench.log? id).getD _).slice start stop =
      ((c.bench.log? id).getD _).slice start stop
    rcases present : c.bench.log? id with _ | log <;> rw [present] at inside
    · rw [Nat.le_zero.mp inside, FrameLog.slice_eq, FrameLog.slice_eq]
      rfl
    · obtain ⟨new, extended⟩ := continues.keeps id log present
      rw [extended, Option.getD_some, Option.getD_some]
      exact log.slice_append_of_le new inside

end Continues

theorem Sustained.continues {α : Type} {act : Attempt Controller α} (sustained : Sustained act)
    (c : Controller) : c.Continues (act c).2 :=
  ⟨sustained.log_eq c, sustained.extends_log c⟩

end Controller

theorem Plan.Later.continues {plan : Plan} (later : plan.Later) (c : Controller) :
    plan.Advances Controller.Continues c :=
  plan.advances .refl .trans (fun op member => (Operation.run_sustained (later op member)).continues)
    c

namespace Bench

variable {b b' : Bench}

theorem logs_openWith (b : Bench) (profile : StreamProfile) :
    (b.openWith profile).2.logs = b.logs := rfl

theorem logs_close (b : Bench) : b.close.2.logs = b.logs := rfl

theorem logs_start_error {field : MetadataField} {fault : DeviceFault}
    (failed : b.start field = (.error fault, b')) : b'.logs = b.logs :=
  (start_refused failed).2.1

theorem id_of_start {field : MetadataField} {id : LogId} (starts : b.start field = (.ok id, b')) :
    id = b.logs.size :=
  (start_accepted starts).2.1

/-- The first log that the bench did not hold at an earlier time, empty as long as there is none. -/
def recordedSince (before b : Bench) : FrameLog :=
  (b.log? before.logs.size).getD { field := .autoExposure, origin := 0 }

end Bench

namespace Controller

/-- Of the first `n` logs none is the controller's. Its stream, if it has one, has the next log, of
which `P` holds. -/
def Streamed (P : FrameLog → Prop) (n : Nat) (c : Controller) : Prop :=
  (c.log = none ∧ c.bench.logs.size = n) ∨
    (c.log = some n ∧ ∃ log, c.bench.log? n = some log ∧ P log)

variable {P : FrameLog → Prop} {n : Nat} {c c' : Controller}

theorem Streamed.of_same (streamed : c.Streamed P n) (log : c'.log = c.log)
    (logs : c'.bench.logs = c.bench.logs) : c'.Streamed P n := by
  rw [Streamed, Bench.log?, log, logs]
  exact streamed

theorem Streamed.recorded (streamed : c.Streamed P n) {b : Bench} (size : b.logs.size = n) :
    Scenario.recorded c = b.recordedSince c.bench := by
  rw [Scenario.recorded, Bench.recordedSince, size]
  rcases streamed with ⟨log, last⟩ | ⟨log, _⟩ <;> rw [log]
  · have absent : c.bench.log? n = none := Array.getElem?_eq_none (Nat.le_of_eq last)
    rw [absent]
    rfl
  · rfl

theorem Sustained.streamed {α : Type} {act : Attempt Controller α} (sustained : Sustained act)
    (record : ∀ log now frame, P log → P (log.record now frame)) (streamed : c.Streamed P n) :
    (act c).2.Streamed P n := by
  have same := sustained.log_eq c
  rcases streamed with ⟨log, size⟩ | ⟨log, recorded, present, holds⟩
  · have effect := sustained c
    generalize act c = result at same effect
    refine .inl ⟨same.trans log, ?_⟩
    cases effect with
    | live outcome phase evolves => exact evolves.size_logs.trans size
    | @stalled requested observed limit bench evolves =>
      rw [stalledAt, logs_tornDown]
      exact evolves.size_logs.trans size
  · obtain ⟨new, extended⟩ := sustained.extends_log c n recorded present
    refine .inr ⟨same.trans log, _, extended, ?_⟩
    refine sustained.keeps_log record (fun log' present' => ?_) _ extended
    cases present.symm.trans present'
    exact holds

end Controller

def Controller.Busy (c : Controller) : Prop := c.log.isSome → c.session.state ≠ .closed

namespace Operation

variable {P : FrameLog → Prop} {n : Nat} {op : Operation} {c c' : Controller}

theorem run_busy (busy : c.Busy) {r : Reply} (done : op.run c = (.ok r, c')) : c'.Busy := by
  by_cases begins : ∃ field, op = .beginStreaming field
  · obtain ⟨field, rfl⟩ := begins
    have begun := run_begins field c
    rw [done] at begun
    cases begun with
    | begun =>
      intro _
      exact SessionState.noConfusion
  · have effect := run_sustained (fun field same => begins ⟨field, same⟩) c
    rw [done] at effect
    cases effect with
    | live => exact busy

theorem run_streamed (record : ∀ log now frame, P log → P (log.record now frame))
    (fresh : ∀ field, op = .beginStreaming field → ∀ origin, P { field, origin })
    (streamed : c.Streamed P n) (busy : c.Busy) : (op.run c).2.Streamed P n := by
  by_cases begins : ∃ field, op = .beginStreaming field
  · obtain ⟨field, rfl⟩ := begins
    have begun := run_begins field c
    generalize (beginStreaming field).run c = result at begun
    cases begun with
    | @begun _ opened started id closed opens starts =>
      rcases streamed with ⟨_, size⟩ | ⟨log, _⟩
      · have logs : opened.logs = c.bench.logs := by
          rw [← c.bench.logs_openWith c.session.profile, opens]
        have id : id = n := by
          rw [Bench.id_of_start starts, logs, size]
        obtain ⟨_, _, present⟩ := Bench.start_done starts
        cases id
        exact .inr ⟨rfl, _, present, fresh field rfl _⟩
      · have begun : c.log.isSome := by
          rw [log]
          rfl
        exact absurd closed (busy begun)
    | @unopened _ opened closed opens =>
      refine streamed.of_same rfl ?_
      rw [Controller.bench_withBench, ← c.bench.logs_openWith c.session.profile, opens]
    | @unstarted _ opened started closed opens starts =>
      refine streamed.of_same rfl ?_
      rw [Controller.bench_withBench, Bench.logs_close, Bench.logs_start_error starts,
        ← c.bench.logs_openWith c.session.profile, opens]
    | reopened =>
      exact streamed.of_same c.log_tornDown c.logs_tornDown
  · exact (run_sustained fun field same => begins ⟨field, same⟩).streamed record streamed

end Operation

theorem Plan.run_streamed {P : FrameLog → Prop}
    (record : ∀ log now frame, P log → P (log.record now frame)) {plan : Plan}
    (fresh : ∀ field, .beginStreaming field ∈ plan → ∀ origin, P { field, origin })
    {c : Controller} (unbegun : c.log = none) :
    (plan.run c).2.Streamed P c.bench.logs.size := by
  have runs : ∀ op ∈ plan, ∀ c', Controller.Streamed P c.bench.logs.size c' → c'.Busy →
      (op.run c').2.Streamed P c.bench.logs.size := by
    intro op member c' streamed busy
    refine op.run_streamed record ?_ streamed busy
    rintro field rfl
    exact fresh field member
  refine plan.run_leaves
    (J := fun c' => c'.Streamed P c.bench.logs.size ∧ c'.Busy)
    (K := fun c' => c'.Streamed P c.bench.logs.size) ?_ ?_ ?_ c ⟨.inl ⟨unbegun, rfl⟩, ?_⟩
  · rintro op member c' ⟨streamed, busy⟩ r c'' done
    have next := runs op member c' streamed busy
    rw [done] at next
    exact ⟨next, Operation.run_busy busy done⟩
  · rintro op member c' ⟨streamed, busy⟩ failure c'' failed
    have next := runs op member c' streamed busy
    rw [failed] at next
    exact next
  · rintro c' ⟨streamed, _⟩
    exact streamed
  · intro begun
    rw [unbegun] at begun
    cases begun

theorem Controller.Streamed.holds {P : FrameLog → Prop} {n : Nat} {c : Controller}
    (streamed : c.Streamed P n) (empty : P { field := .autoExposure, origin := 0 }) :
    P (Scenario.recorded c) := by
  rw [Scenario.recorded]
  rcases streamed with ⟨log, _⟩ | ⟨log, recorded, present, holds⟩ <;> rw [log]
  · exact empty
  · change P ((c.bench.log? n).getD _)
    rw [present]
    exact holds

theorem ExtremeRecovery.iterationsPlan_later (settings : Settings) (exposure : Float) (left : Nat) :
    Plan.Later (iterationsPlan settings exposure left) := by
  induction left with
  | zero =>
    intro op member
    cases member
  | succ left ih =>
    intro op member field same
    rw [iterationsPlan, List.mem_append] at member
    rcases member with here | there
    · subst same
      simp [iterationPlan, Operation.setAutoExposure] at here
    · exact ih op there field same

namespace Experiment

theorem field_of_beginStreaming {settings : Settings} {profile : StreamProfile} {device : Device}
    {e : Experiment} {plan : Plan} (made : e.plan settings profile device = .ok plan)
    {field : MetadataField} (member : .beginStreaming field ∈ plan) : field = .autoExposure := by
  have moded : ∀ {mode : ExposureMode} {first : Plan},
      Scenario.modePlan mode device = .ok first → .beginStreaming field ∉ first := by
    intro mode first chosen
    rw [Scenario.modePlan] at chosen
    split at chosen
    · cases chosen
      simp
    · split at chosen <;> cases chosen
      exact List.not_mem_nil
  cases e with
  | baseline =>
    cases made
    simpa [baselinePlan, Operation.setAutoExposure] using member
  | steadyState on mode =>
    obtain ⟨first, chosen, rfl⟩ := ok_of_map made
    have elsewhere : .beginStreaming field ∉ first := by
      split at chosen
      · exact moded chosen
      · cases chosen
        exact List.not_mem_nil
    simpa [elsewhere, SteadyState.preludePlan, SteadyState.windowPlan] using member
  | rapidToggle mode =>
    obtain ⟨first, chosen, rfl⟩ := ok_of_map made
    have elsewhere := moded chosen
    have windows : .beginStreaming field ∉
        RapidToggle.windowsPlan settings settings.rapidToggle.toggles := fun member =>
      RapidToggle.windowsPlan_later settings _ _ member field rfl
    simpa [elsewhere, windows, RapidToggle.warmUpPlan, Operation.setAutoExposure] using member
  | extremeRecovery =>
    obtain ⟨exposure, _, rfl⟩ := ok_of_map made
    have iterations : .beginStreaming field ∉ ExtremeRecovery.iterationsPlan settings exposure
        settings.extremeRecovery.iterations := fun member =>
      ExtremeRecovery.iterationsPlan_later settings exposure _ _ member field rfl
    simpa [iterations] using member

theorem driven_streamed (settings : Settings) (e : Experiment) {c : Controller}
    (unbegun : c.log = none) :
    (e.driven settings c).2.Streamed
      (fun log => log.Numbered ∧ log.field = .autoExposure) c.bench.logs.size := by
  rw [driven]
  rcases made : e.plan settings c.session.profile c.device with failure | plan
  · exact .inl ⟨unbegun, rfl⟩
  · apply Plan.run_streamed ?_ ?_ unbegun
    · rintro log now frame ⟨numbered, field⟩
      exact ⟨numbered.record now frame, field⟩
    · intro field member origin
      exact ⟨FrameLog.numbered_empty field origin, field_of_beginStreaming made member⟩

theorem recordedSince_run (settings : Settings) (baseline : Option BaselineSummary)
    (e : Experiment) {b : Bench} {s : Selection}
    (selected : (e.query settings).select? b.device.profiles = some s) :
    b.recordedSince (e.run settings baseline b).2 = Scenario.recorded
      (e.driven settings (Scenario.controllerFor b s.profile settings)).2 := by
  have streamed := e.driven_streamed (c := Scenario.controllerFor b s.profile settings) settings rfl
  rw [streamed.recorded rfl, run_bench, selected, Bench.recordedSince, Controller.log?_finish]
  rfl

end Experiment

end ExposureBench
