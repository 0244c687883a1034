import ExposureBench.Proofs.Release
import ExposureBench.Proofs.Replays
import ExposureBench.Proofs.Simulation

namespace ExposureBench

theorem Bench.Replays.simulation (start : Bench) :
    Bench.Simulation start.Replays start.logs.size where
  device replays := ⟨replays.reads fun _ _ _ => rfl, replays.reads fun _ _ _ => rfl,
    fun _ => replays.reads fun _ _ _ => rfl, fun _ => replays.reads fun _ _ _ => rfl,
    fun _ => replays.reads fun _ _ _ => rfl⟩
  log {r b} replays id := by
    rw [replays.log?]
    cases r.log? id <;> rfl
  openWith replays := replays.openWith
  start replays := replays.starts
  set replays := replays.set
  sleep replays := replays.sleep
  stop replays begun := (replays.stop begun).2
  close replays := replays.close.2

theorem Experiment.run_replays (settings : Settings) (baseline : Option BaselineSummary)
    (e : Experiment) {start r b : Bench} (replays : start.Replays r b) :
    (e.run settings baseline b).1 = (e.run settings baseline r).1 ∧
      start.Replays (e.run settings baseline r).2 (e.run settings baseline b).2 :=
  e.run_mirrors (Bench.Replays.simulation start) settings baseline replays

/-- Two cameras given back, alike in their configuration and their controls. They may have delivered
any number of frames. -/
structure Camera.Twins (c c' : Camera) : Prop where
  released : c.Released
  released' : c'.Released
  config : c'.config = c.config
  controls : c'.controls = c.controls

/-- Nothing but the configuration and the controls of its camera is carried over to an experiment.
On benches that differ in all else, it comes to the same verdict by the same calls, each as long
after the start, and leaves the same controls. -/
theorem Experiment.isolated (settings : Settings) (baseline : Option BaselineSummary)
    (e : Experiment) {b b' : Bench} {c c' : Camera} (camera : b.device = .camera c)
    (camera' : b'.device = .camera c') (twins : c.Twins c') :
    (e.run settings baseline b').1 = (e.run settings baseline b).1 ∧
      (∃ made : List CallRecord,
        (e.run settings baseline b).2.calls.toList =
            b.calls.toList ++ made.map (·.later b.now) ∧
          (e.run settings baseline b').2.calls.toList =
            b'.calls.toList ++ made.map (·.later b'.now)) ∧
      ∃ after after', (e.run settings baseline b).2.device = .camera after ∧
        (e.run settings baseline b').2.device = .camera after' ∧
        after'.controls = after.controls := by
  have renewed : Bench.renewed c' = Bench.renewed c := by
    rw [Bench.renewed, twins.config, twins.controls]
    rfl
  have start := Bench.renewed_replays camera twins.released.1 twins.released.2
  have start' := Bench.renewed_replays camera' twins.released'.1 twins.released'.2
  rw [renewed] at start'
  obtain ⟨verdict, replays⟩ := e.run_replays settings baseline start
  obtain ⟨verdict', replays'⟩ := e.run_replays settings baseline start'
  refine ⟨verdict'.trans verdict.symm, ⟨_, replays.calls, replays'.calls⟩, ?_⟩
  obtain ⟨fresh, after, same, device, _, _, rfl, _⟩ := replays.camera
  obtain ⟨fresh', after', same', device', _, _, rfl, _⟩ := replays'.camera
  obtain rfl : fresh = fresh' := Device.camera.inj (same.symm.trans same')
  exact ⟨_, _, device, device', rfl⟩

/-- A camera that has delivered forty frames runs its toggles as a new one does, five seconds
earlier. -/
theorem Experiment.used_camera_isolated :
    let e : Experiment := .rapidToggle .accelerated
    let b : Bench := { device := .camera (.ofConfig .default) }
    let b' : Bench := {
      device := .camera { Camera.ofConfig .default with delivered := 40 }
      now := Duration.ofMillis 5000
      logs := #[{ field := .autoExposure, origin := Duration.ofMillis 1000 }]
      feed := some 0
      calls := #[⟨.close, true, Duration.ofMillis 4000⟩] }
    (e.run {} none b').1 = (e.run {} none b).1 ∧
      (∃ made : List CallRecord,
        (e.run {} none b).2.calls.toList = b.calls.toList ++ made.map (·.later b.now) ∧
          (e.run {} none b').2.calls.toList = b'.calls.toList ++ made.map (·.later b'.now)) ∧
      ∃ after after', (e.run {} none b).2.device = .camera after ∧
        (e.run {} none b').2.device = .camera after' ∧ after'.controls = after.controls :=
  Experiment.isolated {} none (.rapidToggle .accelerated) rfl rfl ⟨⟨rfl, rfl⟩, ⟨rfl, rfl⟩, rfl, rfl⟩

end ExposureBench
