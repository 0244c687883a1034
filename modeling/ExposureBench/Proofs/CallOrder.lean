import ExposureBench.Proofs.Logs
import ExposureBench.Proofs.Teardown

namespace ExposureBench

def Call.isLifecycle : Call → Bool
  | .set .. => false
  | _ => true

/-- The calls that are no writes, each with whether the device accepted it. -/
def lifecycle (made : List CallRecord) : List (Call × Bool) :=
  (made.filter (·.call.isLifecycle)).map fun record => (record.call, record.accepted)

theorem lifecycle_append (made later : List CallRecord) :
    lifecycle (made ++ later) = lifecycle made ++ lifecycle later := by
  simp only [lifecycle, List.filter_append, List.map_append]

namespace Bench

/-- The lifecycle calls made from `b` to `b'`. -/
def Made (b b' : Bench) (calls : List (Call × Bool)) : Prop :=
  ∃ made, b'.calls.toList = b.calls.toList ++ made ∧ lifecycle made = calls

theorem made_refl (b : Bench) : b.Made b [] :=
  ⟨[], (List.append_nil _).symm, rfl⟩

namespace Made

variable {b b' : Bench} {calls : List (Call × Bool)}

theorem of_calls (made : b.Made b' calls) {b'' : Bench} (same : b''.calls = b'.calls) :
    b.Made b'' calls := by
  obtain ⟨records, appended, listed⟩ := made
  exact ⟨records, by rw [same, appended], listed⟩

theorem push (made : b.Made b' calls) (record : CallRecord) {b'' : Bench}
    (pushed : b''.calls = b'.calls.push record) : b.Made b'' (calls ++ lifecycle [record]) := by
  obtain ⟨records, appended, listed⟩ := made
  refine ⟨records ++ [record], ?_, ?_⟩
  · rw [pushed, Array.toList_push, appended, List.append_assoc]
  · rw [lifecycle_append, listed]

theorem evolves (made : b.Made b' calls) {b'' : Bench} (evolves : b'.Evolves b'') :
    b.Made b'' calls := by
  refine evolves.keeps (P := fun b'' => b.Made b'' calls) ?_ ?_ made
  · intro b'' ms made
    exact made.of_calls (b''.calls_sleep ms)
  · intro b'' option v made
    have pushed : b.Made (b''.set option v).2
        (calls ++ lifecycle [⟨.set option v, (b''.set option v).1.isOk, b''.now⟩]) :=
          made.push _ rfl
    rwa [show lifecycle [⟨.set option v, _, b''.now⟩] = [] from rfl, List.append_nil] at pushed

theorem openWith (made : b.Made b' calls) (profile : StreamProfile) :
    b.Made (b'.openWith profile).2 (calls ++ [(.openWith profile, (b'.openWith profile).1.isOk)]) :=
  made.push ⟨.openWith profile, _, b'.now⟩ rfl

theorem start (made : b.Made b' calls) (field : MetadataField) :
    b.Made (b'.start field).2 (calls ++ [(.start, (b'.start field).1.isOk)]) := by
  unfold Bench.start perform
  rcases b'.device.start b'.now with ⟨fault | _, device⟩
  · exact made.push ⟨.start, false, b'.now⟩ rfl
  · exact made.push ⟨.start, true, b'.now⟩ rfl

theorem stop (made : b.Made b' calls) : b.Made b'.stop.2 (calls ++ [(.stop, b'.stop.1.isOk)]) :=
  made.push ⟨.stop, _, b'.now⟩ rfl

theorem close (made : b.Made b' calls) : b.Made b'.close.2 (calls ++ [(.close, b'.close.1.isOk)]) :=
  made.push ⟨.close, _, b'.now⟩ rfl

end Made

theorem made_course (b : Bench) :
    Course (b.Made · []) fun b' => ∃ profile,
      b.Made b' [(.openWith profile, true), (.start, true)] where
  before evolves made := made.evolves evolves
  during evolves := fun ⟨profile, made⟩ => ⟨profile, made.evolves evolves⟩
  begins {b' opened started profile field id} made opens starts := by
    have opened := made.openWith profile
    rw [opens] at opened
    have started := opened.start field
    rw [starts] at started
    exact ⟨profile, started⟩

end Bench

namespace Device

/-- A device that has been stopped delivers nothing, whatever it said to the stop. -/
theorem runUntil_stopped (d : Device) (time : Nat) : (d.stop.2.close.2.runUntil time).2 = [] := by
  cases d with
  | camera c =>
    -- Whatever is said to the stop, nothing is left to deliver.
    have idle : c.stop.2.close.2.worker = .idle := by
      rcases c with ⟨_, _, profile, streaming, _, _ | _ | _⟩ <;> cases streaming <;>
        cases profile <;> rfl
    change (c.stop.2.close.2.runUntil time).2 = []
    rw [Camera.runUntil, idle]
  | scripted d => rfl

end Device

namespace Bench

theorem calls_stop_close (b : Bench) :
    b.stop.2.close.2.calls.toList =
      b.calls.toList ++
        [⟨.stop, b.stop.1.isOk, b.now⟩, ⟨.close, b.stop.2.close.1.isOk, b.now⟩] := by
  have pushed : b.stop.2.close.2.calls =
      (b.calls.push ⟨.stop, b.stop.1.isOk, b.now⟩).push
        ⟨.close, b.stop.2.close.1.isOk, b.now⟩ := rfl
  simp only [pushed, Array.toList_push, List.append_assoc, List.cons_append, List.nil_append]

theorem logs_sleep_stopped (b : Bench) (ms : Nat) : (b.stop.2.close.2.sleep ms).logs = b.logs := by
  rcases Nat.eq_zero_or_pos ms with rfl | positive
  · rfl
  · have quiet :
        (b.stop.2.close.2.device.runUntil (b.stop.2.close.2.now + Duration.ofMillis ms)).2 = [] :=
      b.device.runUntil_stopped _
    rw [sleep_of_pos _ positive, quiet, deliver_nil]
    rfl

end Bench

namespace Experiment

/-- Whatever goes wrong, the device is opened, started, stopped and closed at most once, in this
order. Whatever was opened is closed, and what was started is stopped first. The stop and the close
come last: after them there is no write, and no frame is recorded. -/
theorem run_call_order (settings : Settings) (baseline : Option BaselineSummary) (e : Experiment)
    (b : Bench) :
    ∃ made, (e.run settings baseline b).2.calls.toList = b.calls.toList ++ made ∧
      (lifecycle made = [] ∨
        (∃ profile, lifecycle made = [(.openWith profile, false)]) ∨
        (∃ profile closed,
          lifecycle made = [(.openWith profile, true), (.start, false), (.close, closed)]) ∨
        ∃ (profile : StreamProfile) (stopped closed : Bool) (before : List CallRecord)
          (atStop : Bench),
          made = before ++ [⟨.stop, stopped, atStop.now⟩, ⟨.close, closed, atStop.now⟩] ∧
          lifecycle before = [(.openWith profile, true), (.start, true)] ∧
          atStop.calls.toList = b.calls.toList ++ before ∧
          (e.run settings baseline b).2 = atStop.stop.2.close.2 ∧
          ∀ ms, ((e.run settings baseline b).2.sleep ms).logs = atStop.logs) := by
  have leaves := b.made_course.run_leaves settings baseline e b b.made_refl
  generalize (e.run settings baseline b).2 = after at leaves
  cases leaves with
  | unopened before =>
    obtain ⟨made, appended, listed⟩ := before
    exact ⟨made, appended, .inl listed⟩
  | @refused b' _ profile _ before opens =>
    have refused := before.openWith profile
    rw [opens] at refused
    obtain ⟨made, appended, listed⟩ := refused
    exact ⟨made, appended, .inr (.inl ⟨profile, listed⟩)⟩
  | @unstarted _ opened started profile field _ before opens starts =>
    have opened := before.openWith profile
    rw [opens] at opened
    have unstarted := opened.start field
    rw [starts] at unstarted
    obtain ⟨made, appended, listed⟩ := unstarted.close
    exact ⟨made, appended, .inr (.inr (.inl ⟨profile, _, listed⟩))⟩
  | @streamed atStop during =>
    obtain ⟨profile, before, appended, listed⟩ := during
    have stops := atStop.calls_stop_close
    rw [appended, List.append_assoc] at stops
    exact ⟨_, stops, .inr (.inr (.inr ⟨profile, _, _, before, atStop, rfl, listed, appended, rfl,
      atStop.logs_sleep_stopped⟩))⟩

end Experiment

end ExposureBench
