import ExposureBench.Proofs.Conservation
import ExposureBench.Proofs.Numbering
import ExposureBench.Proofs.Passage
import ExposureBench.Proofs.Protocol

namespace ExposureBench

namespace Bench

variable {b b' : Bench}

/-- `b'` comes of `b` by calls of which none begins a stream. -/
inductive Called (b : Bench) : Bench → Prop
  | refl : Called b b
  | openWith {b' : Bench} (earlier : Called b b') (profile : StreamProfile) :
      Called b (b'.openWith profile).2
  | unstarted {b' b'' : Bench} {field : MetadataField} {fault : DeviceFault}
      (earlier : Called b b') (starts : b'.start field = (.error fault, b'')) : Called b b''
  | stop {b' : Bench} (earlier : Called b b') : Called b b'.stop.2
  | close {b' : Bench} (earlier : Called b b') : Called b b'.close.2
  | set {b' : Bench} (earlier : Called b b') (option : DeviceOption) (v : Float) :
      Called b (b'.set option v).2

theorem device_start_error {field : MetadataField} {fault : DeviceFault}
    (failed : b.start field = (.error fault, b')) : b'.device = b.device :=
  Device.start_failed (start_refused failed).1

theorem log?_start {field : MetadataField} {id : LogId} (starts : b.start field = (.ok id, b'))
    {other : LogId} (older : other ≠ b.logs.size) : b'.log? other = b.log? other := by
  rw [log?, log?, (start_accepted starts).2.2.2, Array.getElem?_push, if_neg older]

namespace Called

theorem trans {b'' : Bench} (first : b.Called b') (second : b'.Called b'') : b.Called b'' := by
  induction second with
  | refl => exact first
  | openWith _ profile ih => exact ih.openWith profile
  | unstarted _ starts ih => exact ih.unstarted starts
  | stop _ ih => exact ih.stop
  | close _ ih => exact ih.close
  | set _ option v ih => exact ih.set option v

theorem unfed (called : b.Called b') : b'.logs = b.logs ∧ b'.feed = b.feed := by
  induction called with
  | refl => exact ⟨rfl, rfl⟩
  | unstarted _ starts ih =>
    obtain ⟨-, logs, feed⟩ := start_refused starts
    exact ⟨logs.trans ih.1, feed.trans ih.2⟩
  | _ => assumption

theorem silent (called : b.Called b') (silent : b.device.Silent) : b'.device.Silent := by
  induction called with
  | refl => exact silent
  | @openWith b' _ profile ih => exact (b'.device.sameStream_openWith profile).silent ih
  | unstarted _ starts ih =>
    rw [device_start_error starts]
    exact ih
  | @stop b' _ _ => exact b'.device.silent_stop
  | @close b' _ ih => exact b'.device.sameStream_close.silent ih
  | @set b' _ option v ih => exact (b'.device.sameStream_set option v).silent ih

theorem balanced {n delivered : Nat} (called : b.Called b') (balanced : b.Balanced n delivered) :
    b'.Balanced n delivered := by
  induction called with
  | refl => exact balanced
  | openWith _ profile ih => exact ih.openWith rfl
  | unstarted _ starts ih => exact ih.start starts
  | stop _ ih => exact ih.stop
  | close _ ih => exact ih.close
  | set _ option v ih => exact ih.set option v

end Called

theorem sleep_of_silent (silent : b.device.Silent) (ms : Nat) :
    b.arrivals ms = [] ∧ (b.sleep ms).device.Silent ∧ (b.sleep ms).logs = b.logs := by
  rcases Nat.eq_zero_or_pos ms with rfl | positive
  · exact ⟨rfl, silent, rfl⟩
  · have still := Device.runUntil_of_silent silent (b.now + Duration.ofMillis ms)
    refine ⟨?_, ?_, ?_⟩
    · rw [arrivals, if_neg (Nat.ne_of_gt positive), still]
    · rw [b.device_sleep positive, still]
      exact silent
    · rw [b.sleep_of_pos positive, still, deliver_nil]

theorem sleep_numbers {number : Nat} (next : b.device.Next number) (ms : Nat) :
    (b.arrivals ms).map (·.frame.number) = List.range' number (b.arrivals ms).length ∧
      (b.sleep ms).device.Next (number + (b.arrivals ms).length) := by
  rcases Nat.eq_zero_or_pos ms with rfl | positive
  · exact ⟨rfl, next⟩
  · rw [b.device_sleep positive, arrivals, if_neg (Nat.ne_of_gt positive)]
    exact Device.runUntil_numbers next _

end Bench

namespace Session

/-- What can become of a session: it is asked for something, time passes, or its device is written
to. -/
inductive Move where
  | request (r : Request)
  | sleep (ms : Nat)
  | write (option : DeviceOption) (v : Float)

def move (s : Session) : Move → Session
  | .request r => (r.run s).2
  | .sleep ms => { s with bench := s.bench.sleep ms }
  | .write option v => { s with bench := (s.bench.set option v).2 }

def after (s : Session) (moves : List Move) : Session := moves.foldl move s

/-- The log that a move returns, which is that of a start that succeeds. -/
def returned? (s : Session) : Move → Option LogId
  | .request (.start field) => (start field s).1.toOption
  | _ => none

def returned : Session → List Move → List LogId
  | _, [] => []
  | s, m :: rest => (s.returned? m).toList ++ (s.move m).returned rest

def arrivals (s : Session) : Move → List Arrival
  | .sleep ms => s.bench.arrivals ms
  | _ => []

def delivered : Session → List Move → List Arrival
  | _, [] => []
  | s, m :: rest => s.arrivals m ++ (s.move m).delivered rest

theorem after_append (s : Session) (moves later : List Move) :
    s.after (moves ++ later) = (s.after moves).after later :=
  List.foldl_append

variable {s s' s'' : Session}

structure Ended (s s' : Session) : Prop where
  called : s.bench.Called s'.bench
  unstarted : s'.state ≠ .started
  silent : s.state = .started → s'.bench.device.Silent

theorem Ended.then (ended : s.Ended s') (more : s'.Ended s'') : s.Ended s'' where
  called := ended.called.trans more.called
  unstarted := more.unstarted
  silent started := more.called.silent (ended.silent started)

theorem stop_ended (s : Session) : s.Ended (stop s).2 := by
  rw [stop_apply]
  split
  · exact ⟨.stop .refl, SessionState.noConfusion, fun _ => s.bench.device.silent_stop⟩
  next unstarted => exact ⟨.refl, unstarted, fun started => absurd started unstarted⟩

theorem close_ended_of_unstarted (unstarted : s.state ≠ .started) : s.Ended (close s).2 := by
  rw [close_apply unstarted]
  split
  · exact ⟨.refl, unstarted, fun started => absurd started unstarted⟩
  · exact ⟨.close .refl, SessionState.noConfusion, fun started => absurd started unstarted⟩

theorem close_ended (s : Session) : s.Ended (close s).2 := by
  have ended := stop_ended s
  rcases stopped : stop s with ⟨failure | ⟨⟩, s'⟩ <;> rw [stopped] at ended
  · rw [show close s = (.error failure, s') from Attempt.bind_of_error stopped]
    exact ended
  · rw [(close_of_stopped stopped).2]
    exact ended.then (close_ended_of_unstarted ended.unstarted)

theorem Request.run_ended {r : Request} (ends : r.ends) (s : Session) : s.Ended (r.run s).2 := by
  cases r with
  | stop => exact stop_ended s
  | close => exact close_ended s
  | teardown => exact (stop_ended s).then (close_ended _)
  | _ => cases ends

/-- What a move can come to, and the log that it returns. -/
inductive Moved (s : Session) : Option LogId → Session → Prop
  | called {s' : Session} (called : s.bench.Called s'.bench)
      (unbegun : s'.state = .started → s.state = .started)
      (quiet : s.state = .started → s'.state = .started ∨ s'.bench.device.Silent) : Moved s none s'
  | began {field : MetadataField} {id : LogId} {bench : Bench}
      (starts : s.bench.start field = (.ok id, bench)) :
      Moved s (some id) { s with bench, state := .started, log := some id }
  | slept (ms : Nat) : Moved s none { s with bench := s.bench.sleep ms }

theorem Moved.of_same {bench : Bench} {state : SessionState} (called : s.bench.Called bench)
    (same : state = .started ↔ s.state = .started) : s.Moved none { s with bench, state } :=
  .called called same.mp fun started => .inl (same.mpr started)

theorem openDevice_moved (s : Session) : s.Moved none (openDevice s).2 := by
  rw [openDevice_apply]
  split
  next closed =>
    have opened : s.bench.Called (s.bench.openWith s.profile).2 := .openWith .refl s.profile
    rcases opens : s.bench.openWith s.profile with ⟨fault | ⟨⟩, bench⟩ <;> rw [opens] at opened
    · exact .of_same opened .rfl
    · exact .of_same opened (by simp [closed])
  · exact .of_same .refl .rfl

theorem start_moved (s : Session) (field : MetadataField) :
    s.Moved (start field s).1.toOption (start field s).2 := by
  rw [start_apply]
  split
  · rcases starts : s.bench.start field with ⟨fault | id, bench⟩
    · exact .of_same (.unstarted .refl starts) .rfl
    · exact .began starts
  · exact .of_same .refl .rfl

theorem move_moved (s : Session) (m : Move) : s.Moved (s.returned? m) (s.move m) := by
  have ends {r : Request} (ends : r.ends) : s.Moved none (r.run s).2 :=
    have ended := Request.run_ended ends s
    .called ended.called (fun started => absurd started ended.unstarted)
      fun started => .inr (ended.silent started)
  cases m with
  | request r =>
    cases r with
    | openDevice => exact openDevice_moved s
    | start field =>
      rw [move, Request.run, Attempt.map_apply]
      exact start_moved s field
    | stop => exact ends rfl
    | close => exact ends rfl
    | teardown => exact ends rfl
  | sleep ms => exact .slept ms
  | write option v => exact .of_same (.set .refl option v) .rfl

/-- The session streams into a log that has taken these arrivals since it was begun, numbered from
zero. -/
structure Runs (empty : FrameLog) (id : LogId) (taken : List Arrival) (s : Session) : Prop where
  state : s.state = .started
  log : s.log = some id
  feed : s.bench.feed = some id
  recorded : s.bench.log? id = some (Bench.recordAll empty taken)
  numbers : taken.map (·.frame.number) = List.range taken.length
  next : s.bench.device.Next taken.length

/-- The log has been given up: no frame will go there any more. -/
structure Rests (id : LogId) (log : FrameLog) (s : Session) : Prop where
  recorded : s.bench.log? id = some log
  past : s.bench.feed = some id → s.bench.device.Silent

variable {empty log : FrameLog} {id : LogId} {taken : List Arrival}

theorem start_runs {field : MetadataField} (starts : start field s = (.ok id, s')) :
    id = s.bench.logs.size ∧
      Runs { field, origin := s.bench.now } id [] s' := by
  rw [start_apply] at starts
  split at starts
  · rcases began : s.bench.start field with ⟨fault | id', bench⟩ <;> rw [began] at starts <;>
      cases starts
    obtain ⟨device, feed, present⟩ := Bench.start_done began
    exact ⟨Bench.id_of_start began, rfl, rfl, feed, present, rfl, Device.next_start device⟩
  · cases starts

theorem start_failed {field : MetadataField} {failure : Failure}
    (failed : start field s = (.error failure, s')) :
    ∃ bench, s' = { s with bench } ∧ bench.device = s.bench.device ∧
      bench.logs = s.bench.logs ∧ bench.feed = s.bench.feed := by
  rw [start_apply] at failed
  split at failed
  · rcases starts : s.bench.start field with ⟨fault | id, bench⟩ <;> rw [starts] at failed <;>
      cases failed
    obtain ⟨-, logs, feed⟩ := Bench.start_refused starts
    exact ⟨bench, rfl, Bench.device_start_error starts, logs, feed⟩
  · cases failed
    exact ⟨s.bench, rfl, rfl, rfl, rfl⟩

theorem Runs.sleep (runs : Runs empty id taken s) (ms : Nat) :
    Runs empty id (taken ++ s.bench.arrivals ms) { s with bench := s.bench.sleep ms } := by
  obtain ⟨numbers, next⟩ := Bench.sleep_numbers runs.next ms
  refine ⟨runs.state, runs.log, ?_, ?_, ?_, ?_⟩
  · exact (s.bench.feed_sleep ms).trans runs.feed
  · rw [Bench.log?_sleep_arrivals, if_pos runs.feed, runs.recorded, Option.map_some,
      Bench.recordAll_append]
  · rw [List.map_append, runs.numbers, numbers, List.length_append, List.range_eq_range',
      List.range_eq_range', ← List.range'_append_1, Nat.zero_add]
  · rw [List.length_append]
    exact next

theorem move_of_started (started : s.state = .started) {r : Request} (begins : r.ends = false) :
    s.move (.request r) = s := by
  cases r with
  | openDevice =>
    rw [move, Request.run, openDevice_apply, if_neg (by simp [started])]
  | start field =>
    rw [move, Request.run, Attempt.map_apply, start_apply, if_neg (by simp [started])]
  | _ => cases begins

theorem Runs.move (runs : Runs empty id taken s) {m : Move}
    (goes : ∀ r, m = .request r → r.ends = false) :
    Runs empty id (taken ++ s.arrivals m) (s.move m) := by
  cases m with
  | request r =>
    have same := move_of_started runs.state (goes r rfl)
    rw [same, show s.arrivals (.request r) = [] from rfl, List.append_nil]
    exact runs
  | sleep ms => exact runs.sleep ms
  | write option v =>
    have next := (s.bench.device.sameStream_set option v).next runs.next
    rw [show s.arrivals (.write option v) = [] from rfl, List.append_nil]
    exact ⟨runs.state, runs.log, runs.feed, runs.recorded, runs.numbers, next⟩

theorem Runs.after (runs : Runs empty id taken s) {during : List Move}
    (goes : ∀ r, .request r ∈ during → r.ends = false) :
    Runs empty id (taken ++ s.delivered during) (s.after during) := by
  induction during generalizing s taken with
  | nil =>
    rw [delivered, List.append_nil]
    exact runs
  | cons m rest ih =>
    have first := runs.move fun r same => goes r (same ▸ List.mem_cons_self)
    rw [delivered, ← List.append_assoc]
    exact ih first fun r member => goes r (List.mem_cons_of_mem m member)

theorem Runs.rests (runs : Runs empty id taken s) {ending : Request} (ends : ending.ends) :
    Rests id (Bench.recordAll empty taken) (s.move (.request ending)) := by
  have ended := Request.run_ended ends s
  refine ⟨?_, fun _ => ended.silent runs.state⟩
  rw [Session.move, Bench.log?, ended.called.unfed.1]
  exact runs.recorded

theorem Rests.move (rests : Rests id log s) (m : Move) : Rests id log (s.move m) := by
  obtain ⟨recorded, past⟩ := rests
  have moved := s.move_moved m
  generalize s.move m = s' at moved
  generalize s.returned? m = returned at moved
  cases moved with
  | called called =>
    obtain ⟨logs, feed⟩ := called.unfed
    refine ⟨?_, fun fed => called.silent (past (feed.symm.trans fed))⟩
    rw [Bench.log?, logs]
    exact recorded
  | @began field id' bench starts =>
    have older : id ≠ s.bench.logs.size := by
      rintro rfl
      have absent : s.bench.log? s.bench.logs.size = none := Array.getElem?_eq_none (Nat.le_refl _)
      rw [absent] at recorded
      cases recorded
    obtain ⟨-, rfl, feed, -⟩ := Bench.start_accepted starts
    refine ⟨(Bench.log?_start starts older).trans recorded, fun fed => ?_⟩
    exact absurd (Option.some.inj (fed.symm.trans feed)) older
  | slept ms =>
    have kept : (s.bench.sleep ms).log? id = s.bench.log? id ∧
        (s.bench.feed = some id → (s.bench.sleep ms).device.Silent) := by
      rw [Bench.log?_sleep_arrivals]
      split
      next fed =>
        obtain ⟨none, silent, -⟩ := Bench.sleep_of_silent (past fed) ms
        rw [none, recorded]
        exact ⟨rfl, fun _ => silent⟩
      next unfed => exact ⟨rfl, fun fed => absurd fed unfed⟩
    refine ⟨kept.1.trans recorded, fun fed => kept.2 ?_⟩
    exact (s.bench.feed_sleep ms).symm.trans fed

theorem Rests.after (rests : Rests id log s) (later : List Move) :
    Rests id log (s.after later) := by
  induction later generalizing s with
  | nil => exact rests
  | cons m rest ih => exact ih (rests.move m)

def Quiet (s : Session) : Prop := s.state ≠ .started → s.bench.device.Silent

theorem Quiet.move (quiet : s.Quiet) (m : Move) : (s.move m).Quiet := by
  have moved := s.move_moved m
  generalize s.move m = s' at moved
  generalize s.returned? m = returned at moved
  intro unstarted
  cases moved with
  | called called _ ends =>
    by_cases started : s.state = .started
    · exact (ends started).resolve_left unstarted
    · exact called.silent (quiet started)
  | began starts => exact absurd rfl unstarted
  | slept ms => exact (Bench.sleep_of_silent (quiet unstarted) ms).2.1

theorem Quiet.after (quiet : s.Quiet) (moves : List Move) : (s.after moves).Quiet := by
  induction moves generalizing s with
  | nil => exact quiet
  | cons m rest ih => exact ih (quiet.move m)

theorem logs_of_unreturned (unstarted : s.state ≠ .started) (silent : s.bench.device.Silent)
    {moves : List Move} (none : s.returned moves = []) :
    (s.after moves).bench.logs = s.bench.logs := by
  induction moves generalizing s with
  | nil => rfl
  | cons m rest ih =>
    obtain ⟨here, later⟩ := List.append_eq_nil_iff.mp none
    have moved := s.move_moved m
    rw [Option.toList_eq_nil_iff.mp here] at moved
    change ((s.move m).after rest).bench.logs = _
    generalize s.move m = s' at moved later ⊢
    cases moved with
    | called called unbegun _ =>
      rw [ih (fun started => unstarted (unbegun started)) (called.silent silent) later,
        called.unfed.1]
    | slept ms =>
      obtain ⟨-, still, same⟩ := Bench.sleep_of_silent silent ms
      have rests : (({ s with bench := s.bench.sleep ms } : Session).after rest).bench.logs =
          (s.bench.sleep ms).logs := ih unstarted still later
      exact rests.trans same

/-- The logs returned are those begun since, in order. -/
structure Returns (s : Session) (ids : List LogId) (s' : Session) : Prop where
  size : s'.bench.logs.size = s.bench.logs.size + ids.length
  ids : ids = List.range' s.bench.logs.size ids.length

theorem Moved.returns {returned : Option LogId} (moved : s.Moved returned s') :
    s.Returns returned.toList s' := by
  cases moved with
  | called called => exact ⟨congrArg Array.size called.unfed.1, rfl⟩
  | began starts =>
    refine ⟨Bench.size_logs_start starts, ?_⟩
    rw [Bench.id_of_start starts]
    rfl
  | slept ms => exact ⟨s.bench.size_logs_sleep ms, rfl⟩

theorem after_returns (s : Session) (moves : List Move) :
    s.Returns (s.returned moves) (s.after moves) := by
  induction moves generalizing s with
  | nil => exact ⟨rfl, rfl⟩
  | cons m rest ih =>
    have first := (s.move_moved m).returns
    have later := ih (s.move m)
    constructor
    · rw [returned, List.length_append, ← Nat.add_assoc, ← first.size]
      exact later.size
    · rw [returned, List.length_append, ← List.range'_append_1, ← first.ids, ← first.size]
      exact congrArg _ later.ids

theorem Moved.balanced {n delivered : Nat} {returned : Option LogId} (moved : s.Moved returned s')
    (balanced : s.bench.Balanced n delivered) : s'.bench.Balanced n delivered := by
  cases moved with
  | called called => exact called.balanced balanced
  | began starts => exact balanced.start starts
  | slept ms => exact balanced.sleep ms

theorem after_balanced {n delivered : Nat} (balanced : s.bench.Balanced n delivered)
    (moves : List Move) : (s.after moves).bench.Balanced n delivered := by
  induction moves generalizing s with
  | nil => exact balanced
  | cons m rest ih => exact ih ((s.move_moved m).balanced balanced)

theorem sum_counts (b : Bench) {n k : Nat} (size : b.logs.size = n + k) :
    ((List.range' n k).map b.count).sum = b.recordedFrom n := by
  have whole : b.recordedFrom n = ((List.range' n (n + k - n)).map b.count).sum := by
    rw [Bench.recordedFrom, size]
    rfl
  rw [whole, Nat.add_sub_cancel_left]

/-- Each stream has its own log. It is new and empty when a start returns it; up to the next request
that ends the stream it takes just the frames that the device delivers, each in its place by its
number; and after that request it never changes, whatever is answered and whatever comes later. A
start that fails records nothing and returns no log. The logs that a session returns account for
all that a camera delivers meanwhile. -/
theorem own_logs (b : Bench) (profile : StreamProfile) (earlier : List Move) :
    let new : Session := { bench := b, profile }
    let s := new.after earlier
    (∀ field id s', start field s = (.ok id, s') →
      s'.log = some id ∧ s.bench.log? id = none ∧
        s'.bench.log? id = some { field, origin := s.bench.now } ∧
        ∀ during : List Move, (∀ r, .request r ∈ during → r.ends = false) →
          let log := Bench.recordAll { field, origin := s.bench.now } (s'.delivered during)
          (s'.after during).log = some id ∧ (s'.after during).bench.log? id = some log ∧
            log.Numbered ∧
            (s'.delivered during).map (·.frame.number) = List.range log.count ∧
            ∀ (ending : Request) (later : List Move), ending.ends →
              (s'.after (during ++ .request ending :: later)).bench.log? id = some log) ∧
      (∀ field failure s', start field s = (.error failure, s') →
        s'.log = s.log ∧ s'.bench.logs = s.bench.logs ∧ s'.bench.feed = s.bench.feed ∧
          (b.device.Silent → s.state ≠ .started → ∀ later, s'.returned later = [] →
            (s'.after later).bench.logs = s.bench.logs)) ∧
      ∀ c, b.device = .camera c → c.worker = .idle → ∃ c', s.bench.device = .camera c' ∧
        c'.delivered = c.delivered + ((new.returned earlier).map s.bench.count).sum := by
  intro new s
  refine ⟨?_, ?_, ?_⟩
  · intro field id s' starts
    obtain ⟨fresh, runs⟩ := start_runs starts
    have absent : s.bench.log? id = none := by
      rw [fresh]
      exact Array.getElem?_eq_none (Nat.le_refl _)
    refine ⟨runs.log, absent, runs.recorded, fun during goes => ?_⟩
    have ran := runs.after goes
    rw [List.nil_append] at ran
    refine ⟨ran.log, ran.recorded, ?_, ?_, ?_⟩
    · exact Bench.recordAll_keeps (fun _ now frame numbered => numbered.record now frame) _
        (FrameLog.numbered_empty field s.bench.now)
    · have count := Bench.count_recordAll { field, origin := s.bench.now } (s'.delivered during)
      rw [ran.numbers, count]
      exact congrArg List.range (Nat.zero_add _).symm
    · intro ending later ends
      rw [after_append]
      exact ((ran.rests ends).after later).recorded
  · intro field failure s' failed
    obtain ⟨bench, rfl, device, logs, feed⟩ := start_failed failed
    refine ⟨rfl, logs, feed, fun silent unstarted later none => ?_⟩
    have quiet : s.Quiet := Quiet.after (s := new) (fun _ => silent) earlier
    have still : bench.device.Silent := device ▸ quiet unstarted
    exact (logs_of_unreturned (s := { s with bench }) unstarted still none).trans logs
  · intro c camera idle
    have balanced := after_balanced (s := new) (.new camera idle) earlier
    obtain ⟨size, ids⟩ := new.after_returns earlier
    obtain ⟨c', camera', told, -⟩ := balanced.told
    refine ⟨c', camera', ?_⟩
    rw [ids, sum_counts _ size]
    exact told

end Session

end ExposureBench
