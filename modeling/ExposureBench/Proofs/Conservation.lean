import ExposureBench.Proofs.Recordings
import ExposureBench.Proofs.Release
import ExposureBench.Proofs.Skips

/-!
What a camera delivers goes to the logs begun since its last stop; so each frame is told by one
verdict.
-/

namespace ExposureBench

namespace Bench

variable {b b' : Bench} {n delivered : Nat}

def arrivals (b : Bench) (ms : Nat) : List Arrival :=
  if ms = 0 then [] else (b.device.runUntil (b.now + Duration.ofMillis ms)).2

theorem log?_sleep_arrivals (b : Bench) (ms : Nat) (id : LogId) :
    (b.sleep ms).log? id =
      if b.feed = some id then (b.log? id).map (recordAll · (b.arrivals ms)) else b.log? id := by
  rcases Nat.eq_zero_or_pos ms with rfl | positive
  · have nothing : (b.log? id).map (recordAll · (b.arrivals 0)) = b.log? id := by
      cases b.log? id <;> rfl
    rw [sleep_zero, nothing, ite_self]
  · rw [b.log?_sleep positive, arrivals, if_neg (Nat.ne_of_gt positive)]

theorem count_recordAll (log : FrameLog) (arrivals : List Arrival) :
    (recordAll log arrivals).count = log.count + arrivals.length := by
  rw [recordAll_eq, FrameLog.count_append, FrameLog.length_eventsOf]

theorem count_sleep (b : Bench) (ms : Nat) {id : LogId} (begun : id < b.logs.size) :
    (b.sleep ms).count id =
      b.count id + if b.feed = some id then (b.arrivals ms).length else 0 := by
  have present : b.log? id = some b.logs[id] := Array.getElem?_eq_getElem begun
  rw [count, count, log?_sleep_arrivals, present]
  split
  · exact count_recordAll _ _
  · rfl

theorem sleep_camera (b : Bench) (ms : Nat) {c : Camera} (camera : b.device = .camera c) :
    ∃ c', (b.sleep ms).device = .camera c' ∧
      c'.delivered = c.delivered + (b.arrivals ms).length ∧
      (c.worker = .idle → c'.worker = .idle ∧ b.arrivals ms = []) := by
  rcases Nat.eq_zero_or_pos ms with rfl | positive
  · exact ⟨c, camera, rfl, fun idle => ⟨idle, rfl⟩⟩
  · have ran := b.device_sleep positive
    have arrived : b.arrivals ms = (c.runUntil (b.now + Duration.ofMillis ms)).2 := by
      rw [arrivals, if_neg (Nat.ne_of_gt positive), camera]
      rfl
    rw [camera] at ran
    rw [arrived]
    refine ⟨(c.runUntil (b.now + Duration.ofMillis ms)).1, ran, c.delivered_runUntil _, ?_⟩
    intro idle
    rw [Camera.runUntil_of_idle idle]
    exact ⟨idle, rfl⟩

def recordedFrom (b : Bench) (n : Nat) : Nat := ∑ id ∈ Finset.Ico n b.logs.size, b.count id

theorem recordedFrom_push (begun : n ≤ b.logs.size) {log : FrameLog} (empty : log.count = 0)
    (logs : b'.logs = b.logs.push log) : b'.recordedFrom n = b.recordedFrom n := by
  have last : b'.count b.logs.size = 0 := by
    rw [count, log?, logs, Array.getElem?_push_size]
    exact empty
  have others : ∀ id ∈ Finset.Ico n b.logs.size, b'.count id = b.count id := by
    intro id member
    have inside := (Finset.mem_Ico.mp member).2
    rw [count, count, log?, log?, logs, Array.getElem?_push_lt inside,
      Array.getElem?_eq_getElem inside]
  rw [recordedFrom, recordedFrom, logs, Array.size_push, Finset.sum_Ico_succ_top begun, last,
    Nat.add_zero]
  exact Finset.sum_congr rfl others

theorem recordedFrom_sleep (b : Bench) (ms n : Nat) :
    (b.sleep ms).recordedFrom n = b.recordedFrom n + ∑ id ∈ Finset.Ico n b.logs.size,
      if b.feed = some id then (b.arrivals ms).length else 0 := by
  rw [recordedFrom, recordedFrom, size_logs_sleep, ← Finset.sum_add_distrib]
  exact Finset.sum_congr rfl fun id member => b.count_sleep ms (Finset.mem_Ico.mp member).2

def FeedsFrom (n : Nat) (b : Bench) : Prop :=
  ∃ id ∈ Finset.Ico n b.logs.size, b.feed = some id

/-- What the bench's camera has delivered beyond a number of frames is what the logs from the `n`-th
on have recorded, and what is yet to come will go there. -/
structure Balanced (n delivered : Nat) (b : Bench) : Prop where
  begun : n ≤ b.logs.size
  told : b.Holds fun c => c.delivered = delivered + b.recordedFrom n ∧
    (c.worker = .idle ∨ b.FeedsFrom n)

namespace Balanced

theorem new {c : Camera} (camera : b.device = .camera c) (idle : c.worker = .idle) :
    b.Balanced b.logs.size c.delivered := by
  refine ⟨Nat.le_refl _, c, camera, ?_, .inl idle⟩
  rw [recordedFrom, Finset.Ico_self, Finset.sum_empty]
  rfl

theorem called (balanced : b.Balanced n delivered) (logs : b'.logs = b.logs)
    (feed : b'.feed = b.feed)
    (camera : ∀ c, b.device = .camera c → ∃ c', b'.device = .camera c' ∧
      c'.delivered = c.delivered ∧ (c.worker = .idle → c'.worker = .idle)) :
    b'.Balanced n delivered := by
  obtain ⟨begun, c, holds, told, feeds⟩ := balanced
  obtain ⟨c', holds', same, idle⟩ := camera c holds
  refine ⟨logs ▸ begun, c', holds', ?_, feeds.imp idle ?_⟩
  · rw [same, told, recordedFrom, recordedFrom, logs]
    simp only [count, log?, logs]
  · rw [FeedsFrom, FeedsFrom, logs, feed]
    exact id

theorem openWith (balanced : b.Balanced n delivered) {profile : StreamProfile}
    {answer : Except DeviceFault Unit} (opens : b.openWith profile = (answer, b')) :
    b'.Balanced n delivered := by
  obtain rfl : (b.openWith profile).2 = b' := congrArg Prod.snd opens
  refine balanced.called rfl rfl fun c camera => ⟨(c.openWith profile).2, ?_, ?_, fun idle => ?_⟩
  · change (b.device.openWith profile).2 = _
    rw [camera]
    rfl
  · exact c.delivered_openWith profile
  · rw [c.worker_openWith profile, idle]

theorem stop (balanced : b.Balanced n delivered) : b.stop.2.Balanced n delivered := by
  refine balanced.called rfl rfl fun c camera => ⟨c.stop.2, ?_, ?_, fun _ => c.worker_stop⟩
  · change b.device.stop.2 = _
    rw [camera]
    rfl
  · exact c.delivered_stop

theorem close (balanced : b.Balanced n delivered) : b.close.2.Balanced n delivered := by
  refine balanced.called rfl rfl fun c camera => ⟨c.close.2, ?_, ?_, fun idle => ?_⟩
  · change b.device.close.2 = _
    rw [camera]
    rfl
  · exact c.delivered_close
  · rw [c.worker_close, idle]

theorem set (balanced : b.Balanced n delivered) (option : DeviceOption) (v : Float) :
    (b.set option v).2.Balanced n delivered := by
  refine balanced.called rfl rfl fun c camera => ⟨(c.set option v).2, ?_, ?_, fun idle => ?_⟩
  · change (b.device.set option v).2 = _
    rw [camera]
    rfl
  · exact c.delivered_set option v
  · rw [c.worker_set option v, idle]

theorem start (balanced : b.Balanced n delivered) {field : MetadataField}
    {answer : Except DeviceFault LogId} (starts : b.start field = (answer, b')) :
    b'.Balanced n delivered := by
  obtain ⟨begun, c, camera, told, feeds⟩ := balanced
  rcases began : c.start b.now with ⟨fault | ⟨⟩, c'⟩
  · cases Camera.start_refused began
    rw [start_of_refused camera began] at starts
    cases starts
    exact ⟨begun, c, camera, told, feeds⟩
  · have same : c'.delivered = c.delivered := by
      rw [← c.delivered_start b.now, began]
    rw [start_of_accepted camera began] at starts
    cases starts
    have grown : (b.logs.push { field, origin := b.now }).size = b.logs.size + 1 :=
      Array.size_push _
    have empty : ({ field, origin := b.now } : FrameLog).count = 0 := rfl
    refine ⟨?_, c', rfl, ?_, .inr ⟨b.logs.size, ?_, rfl⟩⟩
    · exact grown ▸ Nat.le_succ_of_le begun
    · rw [same, told]
      exact congrArg (delivered + ·) (recordedFrom_push begun empty rfl).symm
    · exact Finset.mem_Ico.mpr ⟨begun, grown ▸ Nat.lt_succ_self _⟩

theorem sleep (balanced : b.Balanced n delivered) (ms : Nat) :
    (b.sleep ms).Balanced n delivered := by
  obtain ⟨begun, c, camera, told, feeds⟩ := balanced
  obtain ⟨c', camera', arrived, silent⟩ := b.sleep_camera ms camera
  have size : (b.sleep ms).logs.size = b.logs.size := b.size_logs_sleep ms
  refine ⟨size ▸ begun, c', camera', ?_⟩
  beta_reduce
  rw [arrived, told, recordedFrom_sleep, FeedsFrom, size, feed_sleep, Nat.add_assoc]
  rcases feeds with idle | ⟨id, among, feed⟩
  · obtain ⟨idle', none⟩ := silent idle
    rw [none]
    exact ⟨by simp, .inl idle'⟩
  · refine ⟨?_, .inr ⟨id, among, feed⟩⟩
    simp only [feed, Option.some.injEq]
    rw [Finset.sum_ite_eq, if_pos among]

theorem evolves (balanced : b.Balanced n delivered) (evolves : b.Evolves b') :
    b'.Balanced n delivered :=
  evolves.keeps (fun _ ms balanced => balanced.sleep ms)
    (fun _ option v balanced => balanced.set option v) balanced

end Balanced

theorem size_logs_start {field : MetadataField} {id : LogId}
    (starts : b.start field = (.ok id, b')) : b'.logs.size = b.logs.size + 1 := by
  rw [(start_accepted starts).2.2.2, Array.size_push]

theorem Holds.unstarted {opened started : Bench} {profile : StreamProfile} {field : MetadataField}
    {fault : DeviceFault} (idle : b.Holds (·.worker = .idle))
    (opens : b.openWith profile = (.ok (), opened))
    (starts : opened.start field = (.error fault, started)) :
    started.close.2.Holds (·.worker = .idle) := by
  obtain ⟨c, camera, silent⟩ := idle
  obtain ⟨c', opens, camera'⟩ := openWith_camera camera opens
  obtain ⟨c'', starts, camera''⟩ := start_camera camera' starts
  cases Camera.start_refused starts
  refine ⟨c'.close.2, ?_, ?_⟩
  · change started.device.close.2 = _
    rw [camera'']
    rfl
  · obtain ⟨-, rfl⟩ := Camera.openWith_accepted opens
    exact (Camera.worker_close _).trans silent

structure Unbegun (n delivered : Nat) (b : Bench) : Prop where
  balanced : b.Balanced n delivered
  size : b.logs.size = n
  idle : b.Holds (·.worker = .idle)

structure Underway (n delivered : Nat) (b : Bench) : Prop where
  balanced : b.Balanced n delivered
  size : b.logs.size = n + 1

/-- The stream of an experiment begins where no worker runs, and begins one log. -/
private theorem balanced_course (n delivered : Nat) :
    Course (Unbegun n delivered) (Underway n delivered) where
  before evolves unbegun :=
    ⟨unbegun.balanced.evolves evolves, evolves.size_logs.trans unbegun.size,
      unbegun.idle.kept (fun idle kept => kept.idle.mpr idle) evolves⟩
  during evolves underway :=
    ⟨underway.balanced.evolves evolves, evolves.size_logs.trans underway.size⟩
  begins {b opened started profile field id} := fun unbegun opens starts => by
    have logs : opened.logs = b.logs := (congrArg (·.2.logs) opens).symm
    refine ⟨(unbegun.balanced.openWith opens).start starts, ?_⟩
    rw [size_logs_start starts, logs, unbegun.size]

theorem Leaves.settled (leaves : Leaves (Unbegun n delivered) (Underway n delivered) b) :
    b.Balanced n delivered ∧ (b.logs.size = n ∨ b.logs.size = n + 1) ∧
      b.Holds (·.worker = .idle) := by
  cases leaves with
  | unopened before => exact ⟨before.balanced, .inl before.size, before.idle⟩
  | @refused b' _ profile _ before opens =>
    have logs : b.logs = b'.logs := (congrArg (·.2.logs) opens).symm
    exact ⟨before.balanced.openWith opens, .inl (logs ▸ before.size), before.idle.refused opens⟩
  | @unstarted b' opened started profile field _ before opens starts =>
    have logs : opened.logs = b'.logs := (congrArg (·.2.logs) opens).symm
    have same : started.close.2.logs = b'.logs := (logs_start_error starts).trans logs
    have unstarted := (before.balanced.openWith opens).start starts
    exact ⟨unstarted.close, .inl (same ▸ before.size), before.idle.unstarted opens starts⟩
  | streamed during =>
    obtain ⟨c, camera, -⟩ := during.balanced.told
    have idle : c.stop.2.close.2.worker = .idle := by rw [c.stop.2.worker_close, c.worker_stop]
    exact ⟨during.balanced.stop.close, .inr during.size, _, (stop_close_camera camera).2, idle⟩

theorem count_recordedSince (before : Bench) {after : Bench}
    (size : after.logs.size = before.logs.size ∨ after.logs.size = before.logs.size + 1) :
    (before.recordedSince after).count = after.recordedFrom before.logs.size := by
  rw [recordedSince, recordedFrom]
  rcases size with same | one
  · have none : after.log? before.logs.size = none := Array.getElem?_eq_none (Nat.le_of_eq same)
    rw [none, same, Finset.Ico_self, Finset.sum_empty]
    rfl
  · rw [one, Nat.Ico_succ_singleton, Finset.sum_singleton, count]
    cases after.log? before.logs.size <;> rfl

end Bench

namespace Experiment

theorem framesObserved_eq (settings : Settings) (baseline : Option BaselineSummary)
    (e : Experiment) (b : Bench) :
    (e.run settings baseline b).1.framesObserved =
      (b.recordedSince (e.run settings baseline b).2).count := by
  rcases selected : (e.query settings).select? b.device.profiles with _ | s
  · obtain ⟨v, failure, blank, -, skipped⟩ := skips_of_unserved (unserved_iff.mpr selected)
    rw [skipped, Bench.count_recordedSince b (.inl rfl), Bench.recordedFrom, Finset.Ico_self]
    exact blank.frames
  · rw [e.recordedSince_run settings baseline selected, Controller.count_recorded,
      e.framesObserved_run settings baseline selected rfl, Controller.finish_eq,
      Controller.framesObserved_tornDown]

theorem run_conserves (settings : Settings) (baseline : Option BaselineSummary) (e : Experiment)
    {b : Bench} {delivered : Nat}
    (idle : b.Holds fun c => c.worker = .idle ∧ c.delivered = delivered) :
    (e.run settings baseline b).2.Holds fun c => c.worker = .idle ∧
      c.delivered = delivered + (e.run settings baseline b).1.framesObserved := by
  obtain ⟨c, camera, silent, rfl⟩ := idle
  have unbegun : b.Unbegun b.logs.size c.delivered :=
    ⟨.new camera silent, rfl, c, camera, silent⟩
  have leaves := (Bench.balanced_course _ _).run_leaves settings baseline e b unbegun
  obtain ⟨balanced, size, c', camera', silent'⟩ := leaves.settled
  obtain ⟨c'', camera'', told, -⟩ := balanced.told
  cases Device.camera.inj (camera'.symm.trans camera'')
  refine ⟨c', camera', silent', ?_⟩
  rw [framesObserved_eq, Bench.count_recordedSince b size]
  exact told

end Experiment

namespace Suite

theorem runEach_conserves (settings : Settings) (baseline : Option BaselineSummary)
    (rest : List Experiment) {b : Bench} {delivered : Nat}
    (idle : b.Holds fun c => c.worker = .idle ∧ c.delivered = delivered) (count : Nat) :
    ((rest.take count).foldl (fun b e => (e.run settings none b).2) b).Holds fun c =>
      c.delivered = delivered +
        (((runEach settings baseline rest b).1.take count).map (·.framesObserved)).sum := by
  induction rest generalizing b delivered count with
  | nil =>
    obtain ⟨c, camera, -, told⟩ := idle
    refine ⟨c, ?_, ?_⟩
    · rw [List.take_nil]
      exact camera
    · rw [runEach, List.take_nil]
      exact told
  | cons e rest ih =>
    cases count with
    | zero =>
      obtain ⟨c, camera, -, told⟩ := idle
      exact ⟨c, camera, told⟩
    | succ count =>
      have same : (e.run settings baseline b).2 = (e.run settings none b).2 := by
        rw [Experiment.run_bench, Experiment.run_bench]
      have later := ih (e.run_conserves settings baseline idle) count
      simp only [runEach, List.take_succ_cons, List.foldl_cons, List.map_cons, List.sum_cons]
      rw [← same, ← Nat.add_assoc]
      exact later

theorem length_runEach (settings : Settings) (baseline : Option BaselineSummary)
    (rest : List Experiment) (b : Bench) :
    (runEach settings baseline rest b).1.length = rest.length := by
  induction rest generalizing b with
  | nil => rfl
  | cons e rest ih => exact congrArg (· + 1) (ih _)

theorem verdicts_run (settings : Settings) (b : Bench) :
    (run settings b).1.verdicts = (Experiment.baseline.run settings none b).1 ::
      (runEach settings (Baseline.summary? (Experiment.baseline.run settings none b).1) experiments
        (Experiment.baseline.run settings none b).2).1 := by
  rw [run, show Baseline.run settings b = Experiment.baseline.run settings none b from rfl]

theorem afterFirst_succ (settings : Settings) (b : Bench) (count : Nat) :
    afterFirst settings b (count + 1) = (experiments.take count).foldl
      (fun b e => (e.run settings none b).2) (Experiment.baseline.run settings none b).2 := by
  rw [afterFirst, List.take_succ_cons, List.foldl_cons]

/-- Whatever becomes of a suite on a new camera, the frames that its verdicts tell are those that
the camera has delivered, after the last of its experiments as after any of them: each frame is told
by the verdict of the experiment that it arrived in, and by no other. -/
theorem frames_conserved (settings : Settings) (config : CameraConfig) (b : Bench) :
    let fresh := { b with device := .camera (.ofConfig config) }
    let verdicts := (run settings fresh).1.verdicts
    verdicts.length = 7 ∧
      (∃ c, (run settings fresh).2.device = .camera c ∧
        (verdicts.map (·.framesObserved)).sum = c.delivered) ∧
      ∀ count, ∃ c, (afterFirst settings fresh count).device = .camera c ∧
        ((verdicts.take count).map (·.framesObserved)).sum = c.delivered := by
  intro fresh verdicts
  have length : verdicts.length = 7 := by
    rw [show verdicts = _ from verdicts_run settings fresh, List.length_cons, length_runEach]
    rfl
  have idle : fresh.Holds fun c => c.worker = .idle ∧ c.delivered = 0 := ⟨_, rfl, rfl, rfl⟩
  have conserved : ∀ count, ∃ c, (afterFirst settings fresh count).device = .camera c ∧
      ((verdicts.take count).map (·.framesObserved)).sum = c.delivered := by
    intro count
    cases count with
    | zero => exact ⟨_, rfl, rfl⟩
    | succ count =>
      obtain ⟨c, camera, told⟩ := runEach_conserves settings
        (Baseline.summary? (Experiment.baseline.run settings none fresh).1) experiments
        (Experiment.baseline.run_conserves settings none idle) count
      refine ⟨c, ?_, ?_⟩
      · rw [afterFirst_succ]
        exact camera
      · rw [told, Nat.zero_add, show verdicts = _ from verdicts_run settings fresh,
          List.take_succ_cons, List.map_cons, List.sum_cons]
  refine ⟨length, ?_, conserved⟩
  obtain ⟨c, camera, told⟩ := conserved 7
  rw [← length, List.take_length] at told
  exact ⟨c, run_bench settings fresh ▸ camera, told⟩

end Suite

end ExposureBench
