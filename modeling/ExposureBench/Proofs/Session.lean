import ExposureBench.Control.Session
import ExposureBench.Proofs.Attempt

namespace ExposureBench.Session

theorem openDevice_apply (s : Session) :
    openDevice s =
      if s.state = .closed then
        match s.bench.openWith s.profile with
        | (.ok (), bench) => (.ok (), { s with bench, state := .opened })
        | (.error fault, bench) => (.error (.device fault), { s with bench })
      else (.error (.refused (.openIn s.state)), s) := by
  by_cases closed : s.state = .closed
  · have asked : ¬ s.state ≠ .closed := fun other => other closed
    simp only [openDevice, Attempt.bind_apply, Attempt.get_apply, if_neg asked, if_pos closed,
      onBench, Attempt.within_apply, Attempt.ofCall_apply]
    rcases s.bench.openWith s.profile with ⟨_ | _, _⟩ <;> rfl
  · simp [openDevice, Attempt.bind_apply, closed]

theorem start_apply (s : Session) (field : MetadataField) :
    start field s =
      if s.state = .opened ∨ s.state = .stopped then
        match s.bench.start field with
        | (.ok id, bench) => (.ok id, { s with bench, state := .started, log := some id })
        | (.error fault, bench) => (.error (.device fault), { s with bench })
      else (.error (.refused (.startIn s.state)), s) := by
  by_cases ready : s.state = .opened ∨ s.state = .stopped
  · have asked : ¬ (s.state ≠ .opened ∧ s.state ≠ .stopped) := by
      rintro ⟨unopened, unstopped⟩
      exact ready.elim unopened unstopped
    simp only [start, Attempt.bind_apply, Attempt.get_apply, if_neg asked, if_pos ready, onBench,
      Attempt.within_apply, Attempt.ofCall_apply]
    rcases s.bench.start field with ⟨_ | _, _⟩ <;> rfl
  · have refused : s.state ≠ .opened ∧ s.state ≠ .stopped := not_or.mp ready
    simp [start, Attempt.bind_apply, refused.1, refused.2]

/-- A session after its teardown: a started one has been stopped and closed, an open one closed. -/
def tornDown (s : Session) : Session :=
  match s.state with
  | .closed => s
  | .opened | .stopped => { s with bench := s.bench.close.2, state := .closed }
  | .started => { s with bench := s.bench.stop.2.close.2, state := .closed }

theorem stop_apply (s : Session) :
    stop s =
      if s.state = .started then
        (s.bench.stop.1.mapError .device, { s with bench := s.bench.stop.2, state := .stopped })
      else (.ok (), s) := by
  unfold stop
  rw [Attempt.bind_apply, Attempt.get_apply]
  by_cases started : s.state = .started
  · simp only [if_pos started]
    rfl
  · simp only [if_neg started]
    rfl

theorem close_apply {s : Session} (unstarted : s.state ≠ .started) :
    close s =
      if s.state = .closed then (.ok (), s)
      else (s.bench.close.1.mapError .device,
        { s with bench := s.bench.close.2, state := .closed }) := by
  have stopped : stop s = (.ok (), s) := by rw [stop_apply, if_neg unstarted]
  unfold close
  rw [Attempt.bind_apply, stopped]
  dsimp only
  rw [Attempt.bind_apply, Attempt.get_apply]
  by_cases closed : s.state = .closed
  · simp only [closed, ne_eq, not_true, if_false, if_true]
    rfl
  · simp only [closed, ne_eq, not_false_iff, if_true, if_false]
    rfl

theorem teardown_apply (s : Session) : teardown s = (.ok (), s.tornDown) := by
  have unfolded : teardown s = (.ok (), (close (stop s).2).2) := rfl
  have unstarted : (stop s).2.state ≠ .started := by
    rw [stop_apply]
    split
    · exact SessionState.noConfusion
    · assumption
  rw [unfolded, close_apply unstarted, stop_apply]
  rcases s with ⟨bench, profile, state, log⟩
  cases state with
  | closed => rfl
  | opened => rfl
  | started => rfl
  | stopped => rfl

@[simp] theorem tornDown_state (s : Session) : s.tornDown.state = .closed := by
  unfold tornDown
  split
  · assumption
  all_goals rfl

theorem tornDown_of_closed {s : Session} (closed : s.state = .closed) : s.tornDown = s := by
  simp only [tornDown, closed]

theorem tornDown_of_started {s : Session} (started : s.state = .started) :
    s.tornDown = { s with bench := s.bench.stop.2.close.2, state := .closed } := by
  simp only [tornDown, started]

theorem openDevice_start_apply {s : Session} (closed : s.state = .closed) (field : MetadataField) :
    (do openDevice; start field : Attempt Session LogId) s =
      match s.bench.openWith s.profile with
      | (.error fault, bench) => (.error (.device fault), { s with bench })
      | (.ok (), bench) =>
        match bench.start field with
        | (.error fault, bench) => (.error (.device fault), { s with bench, state := .opened })
        | (.ok id, bench) => (.ok id, { s with bench, state := .started, log := some id }) := by
  rw [Attempt.bind_apply, openDevice_apply, if_pos closed]
  rcases s.bench.openWith s.profile with ⟨_ | _, bench⟩
  · rfl
  · simp only [start_apply, true_or, if_true]
    rcases bench.start field with ⟨_ | _, _⟩ <;> rfl

end ExposureBench.Session
