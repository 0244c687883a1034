import ExposureBench.Proofs.CallOrder

/-!
Whatever is asked of a session and however its device answers, the calls that reach the device
follow the session's states.
-/

namespace ExposureBench

namespace Lifecycle

def Pending (begins ends : Call × Bool → Prop) (calls : List (Call × Bool)) : Prop :=
  ∃ before call after, calls = before ++ call :: after ∧ begins call ∧ ∀ c ∈ after, ¬ ends c

theorem pending_concat {begins ends : Call × Bool → Prop} {calls : List (Call × Bool)}
    {call : Call × Bool} :
    Pending begins ends (calls ++ [call]) ↔
      begins call ∨ Pending begins ends calls ∧ ¬ ends call := by
  constructor
  · rintro ⟨before, begun, after, split, begin, unended⟩
    rcases List.eq_nil_or_concat after with rfl | ⟨after, final, rfl⟩
    · obtain ⟨-, same⟩ := List.append_inj' split rfl
      cases same
      exact .inl begin
    · have shorter : calls ++ [call] = (before ++ begun :: after) ++ [final] := by
        simpa using split
      obtain ⟨rfl, same⟩ := List.append_inj' shorter rfl
      cases same
      rw [List.concat_eq_append, List.forall_mem_append, List.forall_mem_singleton] at unended
      exact .inr ⟨⟨before, begun, after, rfl, begin, unended.1⟩, unended.2⟩
  · rintro (begin | ⟨⟨before, begun, after, rfl, begin, unended⟩, unending⟩)
    · exact ⟨calls, call, [], rfl, begin, fun _ member => nomatch member⟩
    · refine ⟨before, begun, after ++ [call], List.append_assoc .., begin, ?_⟩
      rw [List.forall_mem_append, List.forall_mem_singleton]
      exact ⟨unended, unending⟩

def Held : List (Call × Bool) → Prop :=
  Pending (fun c => ∃ profile, c = (.openWith profile, true)) (·.1 = .close)

def Streaming : List (Call × Bool) → Prop :=
  Pending (· = (.start, true)) (·.1 = .stop)

/-- Which calls may follow others. -/
def Allows (earlier : List (Call × Bool)) : Call → Prop
  | .openWith _ => ¬ Held earlier
  | .start => Held earlier ∧ ¬ Streaming earlier
  | .stop => Streaming earlier
  | .close => Held earlier ∧ ¬ Streaming earlier
  | .set .. => False

def Orderly (calls : List (Call × Bool)) : Prop :=
  ∀ earlier call later, calls = earlier ++ call :: later → Allows earlier call.1

theorem orderly_concat {calls : List (Call × Bool)} {call : Call × Bool} :
    Orderly (calls ++ [call]) ↔ Orderly calls ∧ Allows calls call.1 := by
  constructor
  · intro orderly
    constructor
    · intro earlier c later split
      exact orderly earlier c (later ++ [call]) (by rw [split, List.append_assoc, List.cons_append])
    · exact orderly calls call [] rfl
  · rintro ⟨orderly, allowed⟩ earlier c later split
    rcases List.eq_nil_or_concat later with rfl | ⟨later, final, rfl⟩
    · obtain ⟨rfl, same⟩ := List.append_inj' split rfl
      cases same
      exact allowed
    · have shorter : calls ++ [call] = (earlier ++ c :: later) ++ [final] := by simpa using split
      exact orderly earlier c later (List.append_inj' shorter rfl).1

def starts : Call × Bool → Bool
  | (.start, true) => true
  | _ => false

def isStop : Call × Bool → Bool
  | (.stop, _) => true
  | _ => false

/-- The stops before the next successful start. -/
def stopsUntilStart (calls : List (Call × Bool)) : Nat :=
  (calls.takeWhile (!starts ·)).countP isStop

theorem stopsUntilStart_cons_start {call : Call × Bool} (begins : starts call)
    (calls : List (Call × Bool)) : stopsUntilStart (call :: calls) = 0 := by
  rw [stopsUntilStart, List.takeWhile_cons, begins]
  rfl

theorem stopsUntilStart_cons {call : Call × Bool} (other : starts call = false)
    (calls : List (Call × Bool)) :
    stopsUntilStart (call :: calls) = stopsUntilStart calls + if isStop call then 1 else 0 := by
  rw [stopsUntilStart, List.takeWhile_cons, other]
  exact List.countP_cons

end Lifecycle

theorem Bench.Made.trans {b b' b'' : Bench} {calls later : List (Call × Bool)}
    (made : b.Made b' calls) (more : b'.Made b'' later) : b.Made b'' (calls ++ later) := by
  obtain ⟨records, appended, rfl⟩ := made
  obtain ⟨records', appended', rfl⟩ := more
  refine ⟨records ++ records', ?_, lifecycle_append _ _⟩
  rw [appended', appended, List.append_assoc]

namespace SessionState

def admits : SessionState → Call → Bool
  | .closed, .openWith _ => true
  | .opened, .start | .opened, .close => true
  | .started, .stop => true
  | .stopped, .start | .stopped, .close => true
  | _, _ => false

/-- The state after a call and its answer. To a stop and to a close the answer does not matter. -/
def after (state : SessionState) : Call × Bool → SessionState
  | (.openWith _, true) => .opened
  | (.start, true) => .started
  | (.stop, _) => .stopped
  | (.close, _) => .closed
  | _ => state

/-- From one state to another by calls, each made in a state that admits it. -/
inductive Goes : SessionState → List (Call × Bool) → SessionState → Prop
  | nil (state : SessionState) : Goes state [] state
  | cons {state last : SessionState} {call : Call × Bool} {calls : List (Call × Bool)}
      (admitted : state.admits call.1) (rest : Goes (state.after call) calls last) :
      Goes state (call :: calls) last

/-- The state tells what the calls have left open. -/
structure Tracks (state : SessionState) (calls : List (Call × Bool)) : Prop where
  held : Lifecycle.Held calls ↔ state ≠ .closed
  streaming : Lifecycle.Streaming calls ↔ state = .started

variable {state last : SessionState} {calls later : List (Call × Bool)} {call : Call × Bool}

theorem Tracks.allows (tracks : state.Tracks calls) (admitted : state.admits call.1) :
    Lifecycle.Allows calls call.1 := by
  rcases call with ⟨_ | _ | _ | _ | _, answer⟩ <;> cases state <;> cases admitted <;>
    simp [Lifecycle.Allows, tracks.held, tracks.streaming]

theorem Tracks.after (tracks : state.Tracks calls) (admitted : state.admits call.1) :
    (state.after call).Tracks (calls ++ [call]) where
  held := by
    have held := tracks.held
    rw [Lifecycle.Held, Lifecycle.pending_concat]
    rw [Lifecycle.Held] at held
    rw [held]
    rcases call with ⟨_ | _ | _ | _ | _, _ | _⟩ <;> cases state <;> cases admitted <;>
      simp [SessionState.after]
  streaming := by
    have streaming := tracks.streaming
    rw [Lifecycle.Streaming, Lifecycle.pending_concat]
    rw [Lifecycle.Streaming] at streaming
    rw [streaming]
    rcases call with ⟨_ | _ | _ | _ | _, _ | _⟩ <;> cases state <;> cases admitted <;>
      simp [SessionState.after]

theorem Tracks.new : Tracks .closed [] where
  held := by simp [Lifecycle.Held, Lifecycle.Pending]
  streaming := by simp [Lifecycle.Streaming, Lifecycle.Pending]

namespace Goes

theorem append {middle : SessionState} (goes : Goes state calls middle)
    (more : Goes middle later last) : Goes state (calls ++ later) last := by
  induction goes with
  | nil => exact more
  | cons admitted _ ih => exact .cons admitted (ih more)

theorem orderly (goes : Goes state later last) (tracks : state.Tracks calls)
    (orderly : Lifecycle.Orderly calls) : Lifecycle.Orderly (calls ++ later) := by
  induction goes generalizing calls with
  | nil => rwa [List.append_nil]
  | @cons state last call later admitted _ ih =>
    have extended := Lifecycle.orderly_concat.mpr ⟨orderly, tracks.allows admitted⟩
    have orderly := ih (tracks.after admitted) extended
    rwa [List.append_assoc, List.singleton_append] at orderly

open Lifecycle in
theorem stopsUntilStart_eq_zero (goes : Goes state calls last) (idle : state ≠ .started) :
    stopsUntilStart calls = 0 := by
  induction goes with
  | nil => rfl
  | @cons state last call calls admitted rest ih =>
    rcases begins : starts call
    · have later : state.after call ≠ .started ∧ isStop call = false := by
        rcases call with ⟨_ | _ | _ | _ | _, _ | _⟩ <;> cases state <;>
          simp_all [SessionState.after, admits, starts, isStop]
      rw [stopsUntilStart_cons begins, ih later.1, later.2]
      rfl
    · exact stopsUntilStart_cons_start begins calls

theorem stopsUntilStart_eq_one (goes : Goes .started calls last) (called : calls ≠ []) :
    Lifecycle.stopsUntilStart calls = 1 := by
  cases goes with
  | nil => contradiction
  | @cons _ _ call calls admitted rest =>
    rcases call with ⟨_ | _ | _ | _ | _, answer⟩ <;> cases admitted
    rw [Lifecycle.stopsUntilStart_cons rfl,
      rest.stopsUntilStart_eq_zero SessionState.noConfusion]
    rfl

end Goes

end SessionState

namespace Session

inductive Request where
  | openDevice
  | start (field : MetadataField)
  | stop
  | close
  | teardown
  deriving DecidableEq, Repr

namespace Request

def run : Request → Attempt Session Unit
  | .openDevice => Session.openDevice
  | .start field => (fun _ => ()) <$> Session.start field
  | .stop => Session.stop
  | .close => Session.close
  | .teardown => Session.teardown

def ends : Request → Bool
  | .stop | .close | .teardown => true
  | _ => false

end Request

/-- A request, and the device as it is then. -/
structure Turn where
  request : Request
  device : Device

theorem Turn.exists_answering (request : Request) (opens starts stops closes : Option DeviceFault) :
    ∃ t : Turn, t.request = request ∧
      (∀ profile, (t.device.openWith profile).1 = ScriptedDevice.outcome opens) ∧
      (∀ now, (t.device.start now).1 = ScriptedDevice.outcome starts) ∧
      t.device.stop.1 = ScriptedDevice.outcome stops ∧
      t.device.close.1 = ScriptedDevice.outcome closes := by
  refine ⟨⟨request, .scripted (.ofScript ⟨"", [], [], opens, starts, stops, closes, []⟩)⟩, rfl,
    fun _ => rfl, fun _ => ?_, rfl, rfl⟩
  cases starts <;> rfl

def facing (s : Session) (device : Device) : Session :=
  { s with bench := { s.bench with device } }

def turn (s : Session) (t : Turn) : Session :=
  (t.request.run (s.facing t.device)).2

def converse (s : Session) (turns : List Turn) : Session :=
  turns.foldl turn s

def calls (s : Session) (turns : List Turn) : List (Call × Bool) :=
  lifecycle ((s.converse turns).bench.calls.toList.drop s.bench.calls.size)

theorem calls_eq {s : Session} {turns : List Turn} {calls : List (Call × Bool)}
    (made : s.bench.Made (s.converse turns).bench calls) : s.calls turns = calls := by
  obtain ⟨records, appended, listed⟩ := made
  have size : s.bench.calls.size = s.bench.calls.toList.length := Array.length_toList.symm
  rw [Session.calls, appended, size, List.drop_left, listed]

variable {s : Session}

/-- What one request comes to: calls that follow the states, of which only a successful start leaves
a stream running. -/
structure Asks (s : Session) (calls : List (Call × Bool)) (s' : Session) : Prop where
  made : s.bench.Made s'.bench calls
  goes : s.state.Goes calls s'.state
  streams : (.start, true) ∈ calls → s'.state = .started

theorem Asks.nothing (s : Session) : s.Asks [] s :=
  ⟨s.bench.made_refl, .nil _, fun member => nomatch member⟩

theorem openDevice_asks (s : Session) : ∃ calls, s.Asks calls (openDevice s).2 := by
  rcases s with ⟨bench, profile, state, log⟩
  have opened := bench.made_refl.openWith profile
  rw [openDevice_apply]
  split
  · next closed =>
    obtain rfl : state = .closed := closed
    dsimp only
    rcases answer : bench.openWith profile with ⟨fault | _, bench'⟩ <;> rw [answer] at opened
    · exact ⟨_, opened, .cons rfl (.nil _), by simp⟩
    · exact ⟨_, opened, .cons rfl (.nil _), by simp⟩
  · exact ⟨[], .nothing _⟩

theorem start_asks (s : Session) (field : MetadataField) :
    ∃ calls, s.Asks calls (start field s).2 := by
  rcases s with ⟨bench, profile, state, log⟩
  have started := bench.made_refl.start field
  rw [start_apply]
  split
  · next ready =>
    dsimp only
    rcases answer : bench.start field with ⟨fault | id, bench'⟩ <;> rw [answer] at started
    · refine ⟨_, started, ?_, by simp [Except.isOk, Except.toBool]⟩
      rcases ready with rfl | rfl <;> exact .cons rfl (.nil _)
    · refine ⟨_, started, ?_, fun _ => rfl⟩
      rcases ready with rfl | rfl <;> exact .cons rfl (.nil _)
  · exact ⟨[], .nothing _⟩

theorem stop_unstarted (s : Session) : (stop s).2.state ≠ .started := by
  rw [stop_apply]
  split
  · exact SessionState.noConfusion
  · assumption

theorem stop_asks (s : Session) : ∃ calls, s.Asks calls (stop s).2 := by
  rcases s with ⟨bench, profile, state, log⟩
  have stopped := bench.made_refl.stop
  rw [stop_apply]
  split
  · next started =>
    obtain rfl : state = .started := started
    exact ⟨_, stopped, .cons rfl (.nil _), by simp⟩
  · exact ⟨[], .nothing _⟩

theorem close_of_stopped {s s' : Session} (stopped : stop s = (.ok (), s')) :
    s'.state ≠ .started ∧ close s = close s' := by
  have unstarted := stop_unstarted s
  rw [stopped] at unstarted
  have again : stop s' = (.ok (), s') := by rw [stop_apply, if_neg unstarted]
  refine ⟨unstarted, ?_⟩
  unfold close
  rw [Attempt.bind_of_ok stopped, Attempt.bind_of_ok again]

theorem close_asks_of_unstarted {s : Session} (unstarted : s.state ≠ .started) :
    ∃ calls, s.Asks calls (close s).2 ∧ (close s).2.state ≠ .started := by
  rcases s with ⟨bench, profile, state, log⟩
  have closed := bench.made_refl.close
  rw [close_apply unstarted]
  split
  · exact ⟨[], .nothing _, unstarted⟩
  · next unclosed =>
    refine ⟨_, ⟨closed, ?_, by simp⟩, SessionState.noConfusion⟩
    cases state with
    | closed => contradiction
    | opened => exact .cons rfl (.nil _)
    | started => contradiction
    | stopped => exact .cons rfl (.nil _)

theorem Asks.then {s s' s'' : Session} {calls later : List (Call × Bool)}
    (asks : s.Asks calls s') (more : s'.Asks later s'') (unstarted : s''.state ≠ .started)
    (ended : (.start, true) ∉ calls) : s.Asks (calls ++ later) s'' where
  made := asks.made.trans more.made
  goes := asks.goes.append more.goes
  streams member := by
    rcases List.mem_append.mp member with earlier | final
    · contradiction
    · exact absurd (more.streams final) unstarted

theorem close_asks (s : Session) :
    ∃ calls, s.Asks calls (close s).2 ∧ (close s).2.state ≠ .started := by
  obtain ⟨calls, asks⟩ := stop_asks s
  rcases stopped : stop s with ⟨failure | ⟨⟩, s'⟩
  · have refused : close s = (.error failure, s') := Attempt.bind_of_error stopped
    have unstarted := stop_unstarted s
    rw [stopped] at asks unstarted
    rw [refused]
    exact ⟨calls, asks, unstarted⟩
  · obtain ⟨unstarted, closes⟩ := close_of_stopped stopped
    rw [stopped] at asks
    rw [closes]
    obtain ⟨later, more, unstarted'⟩ := close_asks_of_unstarted unstarted
    refine ⟨calls ++ later, asks.then more unstarted' fun member => ?_, unstarted'⟩
    exact unstarted (asks.streams member)

theorem teardown_asks (s : Session) :
    ∃ calls, s.Asks calls (teardown s).2 ∧ (teardown s).2.state ≠ .started := by
  have unfolded : teardown s = (.ok (), (close (stop s).2).2) := rfl
  obtain ⟨calls, asks⟩ := stop_asks s
  obtain ⟨later, more, unstarted⟩ := close_asks (stop s).2
  rw [unfolded]
  refine ⟨calls ++ later, asks.then more unstarted fun member => ?_, unstarted⟩
  exact stop_unstarted s (asks.streams member)

theorem Request.run_asks (r : Request) (s : Session) :
    ∃ calls, s.Asks calls (r.run s).2 ∧ (r.ends → (r.run s).2.state ≠ .started) := by
  cases r with
  | openDevice =>
    obtain ⟨calls, asks⟩ := openDevice_asks s
    exact ⟨calls, asks, Bool.noConfusion⟩
  | start field =>
    obtain ⟨calls, asks⟩ := start_asks s field
    rw [run, Attempt.map_apply]
    exact ⟨calls, asks, Bool.noConfusion⟩
  | stop =>
    obtain ⟨calls, asks⟩ := stop_asks s
    exact ⟨calls, asks, fun _ => stop_unstarted s⟩
  | close =>
    obtain ⟨calls, asks, unstarted⟩ := close_asks s
    exact ⟨calls, asks, fun _ => unstarted⟩
  | teardown =>
    obtain ⟨calls, asks, unstarted⟩ := teardown_asks s
    exact ⟨calls, asks, fun _ => unstarted⟩

theorem turn_asks (s : Session) (t : Turn) :
    s.Asks (s.calls [t]) (s.turn t) ∧ (t.request.ends → (s.turn t).state ≠ .started) := by
  obtain ⟨calls, asks, unstarted⟩ := t.request.run_asks (s.facing t.device)
  have made : s.bench.Made (s.converse [t]).bench calls := asks.made
  rw [calls_eq made]
  exact ⟨⟨made, asks.goes, asks.streams⟩, unstarted⟩

theorem converse_append (s : Session) (earlier later : List Turn) :
    s.converse (earlier ++ later) = (s.converse earlier).converse later :=
  List.foldl_append

theorem converse_goes (s : Session) (turns : List Turn) :
    s.bench.Made (s.converse turns).bench (s.calls turns) ∧
      s.state.Goes (s.calls turns) (s.converse turns).state := by
  induction turns generalizing s with
  | nil =>
    have made : s.bench.Made (s.converse []).bench [] := s.bench.made_refl
    rw [calls_eq made]
    exact ⟨made, .nil _⟩
  | cons t rest ih =>
    obtain ⟨asks, -⟩ := turn_asks s t
    obtain ⟨made, goes⟩ := ih (s.turn t)
    have whole : s.bench.Made (s.converse (t :: rest)).bench
        (s.calls [t] ++ (s.turn t).calls rest) :=
      asks.made.trans made
    rw [calls_eq whole]
    exact ⟨whole, asks.goes.append goes⟩

theorem calls_append (s : Session) (earlier later : List Turn) :
    s.calls (earlier ++ later) = s.calls earlier ++ (s.converse earlier).calls later := by
  apply calls_eq
  rw [converse_append]
  exact (s.converse_goes earlier).1.trans ((s.converse earlier).converse_goes later).1

theorem state_of_silent {turns : List Turn} (silent : s.calls turns = []) :
    (s.converse turns).state = s.state := by
  obtain ⟨-, goes⟩ := s.converse_goes turns
  rw [silent] at goes
  generalize (s.converse turns).state = last at goes
  cases goes
  rfl

theorem stopsUntilStart_calls {begin : Turn} {later : List Turn}
    (started : (.start, true) ∈ s.calls [begin]) (ended : ∃ t ∈ later, t.request.ends) :
    Lifecycle.stopsUntilStart ((s.turn begin).calls later) = 1 := by
  have streams := (s.turn_asks begin).1.streams started
  generalize s.turn begin = s at streams
  obtain ⟨-, goes⟩ := s.converse_goes later
  rw [streams] at goes
  apply goes.stopsUntilStart_eq_one
  obtain ⟨t, member, ends⟩ := ended
  obtain ⟨before, after, rfl⟩ := List.append_of_mem member
  -- The turn that ends the stream leaves another state, so a call has been made by then.
  intro silent
  rw [List.append_cons, calls_append] at silent
  have unmoved := state_of_silent (List.append_eq_nil_iff.mp silent).1
  rw [converse_append, streams] at unmoved
  exact ((s.converse before).turn_asks t).2 ends unmoved

inductive Begun {α : Type} (s : Session) : Except Failure α × Session → Prop
  | accepted (a : α) (s' : Session) : Begun s (.ok a, s')
  | refused (step : Refused) : Begun s (.error (.refused step), s)
  | denied (fault : DeviceFault) {bench : Bench} (logs : bench.logs = s.bench.logs)
      (feed : bench.feed = s.bench.feed) : Begun s (.error (.device fault), { s with bench })

theorem openDevice_begun (s : Session) : Begun s (openDevice s) := by
  rw [openDevice_apply]
  split
  · rcases opens : s.bench.openWith s.profile with ⟨fault | _, bench⟩
    · have performed : bench = (s.bench.openWith s.profile).2 := by rw [opens]
      rw [performed]
      exact .denied fault rfl rfl
    · exact .accepted _ _
  · exact .refused _

theorem start_begun (s : Session) (field : MetadataField) : Begun s (start field s) := by
  rw [start_apply]
  split
  · unfold Bench.start Bench.perform
    rcases s.bench.device.start s.bench.now with ⟨fault | _, device⟩
    · exact .denied fault rfl rfl
    · exact .accepted _ _
  · exact .refused _

theorem Begun.map {α β : Type} {s : Session} {act : Attempt Session α} (f : α → β)
    (begun : Begun s (act s)) : Begun s ((f <$> act) s) := by
  rw [Attempt.map_apply]
  generalize act s = result at begun
  cases begun with
  | accepted a s' => exact .accepted _ _
  | refused step => exact .refused step
  | denied fault logs feed => exact .denied fault logs feed

theorem Request.run_begun {r : Request} (begins : r.ends = false) (s : Session) :
    Begun s (r.run s) := by
  cases r with
  | openDevice => exact openDevice_begun s
  | start field => exact (start_begun s field).map _
  | _ => cases begins

theorem Request.run_not_refused {r : Request} (ends : r.ends) (s : Session) (step : Refused) :
    (r.run s).1 ≠ .error (.refused step) := by
  have blames : ∀ outcome : Except DeviceFault Unit,
      outcome.mapError Failure.device ≠ .error (.refused step) := by
    rintro (_ | _) <;> exact nofun
  have stop_blames (s : Session) : (Session.stop s).1 ≠ .error (.refused step) := by
    rw [stop_apply]
    split
    · exact blames _
    · exact nofun
  cases r with
  | stop => exact stop_blames s
  | close =>
    rw [run]
    rcases stopped : Session.stop s with ⟨failure | ⟨⟩, s'⟩
    · have failed : Session.close s = (.error failure, s') := Attempt.bind_of_error stopped
      have blamed := stop_blames s
      rw [stopped] at blamed
      rwa [failed]
    · obtain ⟨unstarted, closes⟩ := close_of_stopped stopped
      rw [closes, close_apply unstarted]
      split
      · exact nofun
      · exact blames _
  | teardown => exact nofun
  | _ => cases ends

def answer (s : Session) (t : Turn) : Except Failure Unit :=
  (t.request.run (s.facing t.device)).1

theorem turn_of_refused {t : Turn} {step : Refused}
    (refused : s.answer t = .error (.refused step)) : s.turn t = s.facing t.device := by
  rw [answer] at refused
  rw [turn]
  rcases ends : t.request.ends
  · have begun := t.request.run_begun ends (s.facing t.device)
    generalize t.request.run (s.facing t.device) = result at begun refused ⊢
    cases begun with
    | accepted a s' => cases refused
    | refused step => rfl
    | denied fault logs feed => cases refused
  · exact absurd refused (t.request.run_not_refused ends _ step)

theorem turn_of_failed {t : Turn} {failure : Failure} (begins : t.request.ends = false)
    (failed : s.answer t = .error failure) :
    (s.turn t).state = s.state ∧ (s.turn t).log = s.log ∧
      (s.turn t).bench.logs = s.bench.logs ∧ (s.turn t).bench.feed = s.bench.feed := by
  rw [answer] at failed
  rw [turn]
  have begun := t.request.run_begun begins (s.facing t.device)
  generalize t.request.run (s.facing t.device) = result at begun failed ⊢
  cases begun with
  | accepted a s' => cases failed
  | refused step => exact ⟨rfl, rfl, rfl, rfl⟩
  | denied fault logs feed => exact ⟨rfl, rfl, logs, feed⟩

theorem calls_of_facing {t : Turn} {device : Device} (same : s.turn t = s.facing device) :
    s.calls [t] = [] := by
  apply calls_eq
  have converses : s.converse [t] = s.facing device := same
  rw [converses]
  exact s.bench.made_refl

theorem tornDown_made (s : Session) : ∃ stopped closed, s.bench.Made s.tornDown.bench
    ((if s.state = .started then [(.stop, stopped)] else []) ++
      if s.state = .closed then [] else [(.close, closed)]) := by
  rcases s with ⟨bench, profile, state, log⟩
  cases state with
  | closed => exact ⟨true, true, bench.made_refl⟩
  | opened => exact ⟨true, _, bench.made_refl.close⟩
  | started => exact ⟨_, _, bench.made_refl.stop.close⟩
  | stopped => exact ⟨true, _, bench.made_refl.close⟩

theorem teardown_turn (s : Session) (device device' : Device) :
    s.answer ⟨.teardown, device⟩ = .ok () ∧ (s.turn ⟨.teardown, device⟩).state = .closed ∧
      (∃ stopped closed, s.calls [⟨.teardown, device⟩] =
        (if s.state = .started then [(.stop, stopped)] else []) ++
          if s.state = .closed then [] else [(.close, closed)]) ∧
      (s.turn ⟨.teardown, device⟩).calls [⟨.teardown, device'⟩] = [] := by
  have torn (s : Session) (device : Device) :
      s.turn ⟨.teardown, device⟩ = (s.facing device).tornDown :=
    congrArg Prod.snd (teardown_apply (s.facing device))
  have closed := (s.facing device).tornDown_state
  rw [torn]
  refine ⟨rfl, closed, ?_, ?_⟩
  · obtain ⟨stopped, closed, made⟩ := (s.facing device).tornDown_made
    refine ⟨stopped, closed, calls_eq ?_⟩
    have converses : s.converse [⟨.teardown, device⟩] = (s.facing device).tornDown := torn s device
    rw [converses]
    exact made
  · have same : (s.facing device).tornDown.turn ⟨.teardown, device'⟩ =
        (s.facing device).tornDown.facing device' := by
      rw [torn]
      exact tornDown_of_closed closed
    exact calls_of_facing same

/-- Of a new session, whatever it is asked and whatever devices answer: the calls that reach them
are in order, and each stream is stopped by one call if at all. What a session refuses reaches no
device, and what fails to begin leaves it as it was. A teardown closes any session and calls for
what is left to be ended, once. -/
theorem protocol (b : Bench) (profile : StreamProfile) (turns : List Turn) :
    Lifecycle.Orderly (({ bench := b, profile } : Session).calls turns) ∧
      (∀ earlier begin later, turns = earlier ++ begin :: later →
        let s := ({ bench := b, profile } : Session).converse earlier
        (.start, true) ∈ s.calls [begin] → (∃ t ∈ later, t.request.ends) →
          Lifecycle.stopsUntilStart ((s.turn begin).calls later) = 1) ∧
      ∀ s : Session,
        (∀ t step, s.answer t = .error (.refused step) →
          s.calls [t] = [] ∧ s.turn t = s.facing t.device) ∧
        (∀ t failure, t.request.ends = false → s.answer t = .error failure →
          (s.turn t).state = s.state ∧ (s.turn t).log = s.log ∧
            (s.turn t).bench.logs = s.bench.logs ∧ (s.turn t).bench.feed = s.bench.feed) ∧
        ∀ device device', s.answer ⟨.teardown, device⟩ = .ok () ∧
          (s.turn ⟨.teardown, device⟩).state = .closed ∧
          (∃ stopped closed, s.calls [⟨.teardown, device⟩] =
            (if s.state = .started then [(.stop, stopped)] else []) ++
              if s.state = .closed then [] else [(.close, closed)]) ∧
          (s.turn ⟨.teardown, device⟩).calls [⟨.teardown, device'⟩] = [] := by
  refine ⟨?_, ?_, fun s => ⟨?_, ?_, ?_⟩⟩
  · obtain ⟨-, goes⟩ := ({ bench := b, profile } : Session).converse_goes turns
    have empty : Lifecycle.Orderly [] := fun earlier call later split => by simp at split
    exact goes.orderly SessionState.Tracks.new empty
  · intro earlier begin later _ s started ended
    exact stopsUntilStart_calls started ended
  · intro t step refused
    have same := turn_of_refused refused
    exact ⟨calls_of_facing same, same⟩
  · intro t failure begins failed
    exact turn_of_failed begins failed
  · exact s.teardown_turn

end Session

end ExposureBench
