import ExposureBench.Proofs.Experiment

/-!
The course of an experiment as its bench sees it: writes and sleeps, a stream begun at most once,
more writes and sleeps, and a teardown.
-/

namespace ExposureBench

namespace Controller

theorem finish_eq (c : Controller) : c.finish = c.tornDown := by
  simp only [finish, onSession, Attempt.within_apply, Session.teardown_apply, tornDown]

theorem finish_bench_of_closed {c : Controller} (closed : c.session.state = .closed) :
    c.finish.bench = c.bench := by
  rw [finish_eq, tornDown, Session.tornDown_of_closed closed]

theorem finish_bench_of_started {c : Controller} (started : c.session.state = .started) :
    c.finish.bench = c.bench.stop.2.close.2 := by
  rw [finish_eq, tornDown, Session.tornDown_of_started started]
  rfl

end Controller

theorem Controller.finish_tornDown (c : Controller) : c.tornDown.finish.bench = c.finish.bench := by
  rw [finish_eq c]
  exact finish_bench_of_closed (Session.tornDown_state c.session)

/-- What an experiment can leave of a bench, given what holds before a stream is begun and while it
runs. -/
inductive Bench.Leaves (Before During : Bench → Prop) : Bench → Prop
  | unopened {b : Bench} (before : Before b) : Leaves Before During b
  | refused {b b' : Bench} {profile : StreamProfile} {fault : DeviceFault} (before : Before b)
      (opens : b.openWith profile = (.error fault, b')) : Leaves Before During b'
  | unstarted {b opened started : Bench} {profile : StreamProfile} {field : MetadataField}
    {fault : DeviceFault}
      (before : Before b) (opens : b.openWith profile = (.ok (), opened))
      (starts : opened.start field = (.error fault, started)) : Leaves Before During started.close.2
  | streamed {b : Bench} (during : During b) : Leaves Before During b.stop.2.close.2

/-- Two properties of benches that writes and sleeps keep, and that the beginning of a stream leads
from one to the other. -/
structure Bench.Course (Before During : Bench → Prop) : Prop where
  before : ∀ {b b' : Bench}, b.Evolves b' → Before b → Before b'
  during : ∀ {b b' : Bench}, b.Evolves b' → During b → During b'
  begins : ∀ {b opened started : Bench} {profile : StreamProfile} {field : MetadataField}
    {id : LogId}, Before b → b.openWith profile = (.ok (), opened) →
      opened.start field = (.ok id, started) → During started

namespace Bench.Course

variable {Before During : Bench → Prop}

inductive Stands (Before During : Bench → Prop) (c : Controller) : Prop
  | closed (state : c.session.state = .closed) (before : Before c.bench)
  | started (state : c.session.state = .started) (during : During c.bench)

theorem Stands.finish {c : Controller} (stands : Stands Before During c) :
    Leaves Before During c.finish.bench := by
  cases stands with
  | closed state before =>
    rw [Controller.finish_bench_of_closed state]
    exact .unopened before
  | started state during =>
    rw [Controller.finish_bench_of_started state]
    exact .streamed during

theorem Stands.evolves (course : Course Before During) {c : Controller}
    (stands : Stands Before During c) {b : Bench} (evolves : c.bench.Evolves b) :
    Stands Before During (c.withBench b) := by
  cases stands with
  | closed state before => exact .closed state (course.before evolves before)
  | started state during => exact .started state (course.during evolves during)

theorem operation_goes (course : Course Before During) (op : Operation) (c : Controller)
    (stands : Stands Before During c) {r : Operation.Reply} {c' : Controller}
    (ran : op.run c = (.ok r, c')) :
    Stands Before During c' := by
  by_cases begins : ∃ field, op = .beginStreaming field
  · obtain ⟨field, rfl⟩ := begins
    have begun := Operation.run_begins field c
    rw [ran] at begun
    cases begun with
    | begun _ closed opens starts =>
      cases stands with
      | closed _ before => exact .started rfl (course.begins before opens starts)
      | started state _ => rw [state] at closed; cases closed
  · have effect := Operation.run_sustained (fun field same => begins ⟨field, same⟩) c
    rw [ran] at effect
    cases effect with
    | live _ phase evolves =>
      cases stands.evolves course evolves with
      | closed state before => exact .closed state before
      | started state during => exact .started state during

theorem operation_fails (course : Course Before During) (op : Operation) (c : Controller)
    (stands : Stands Before During c) {failure : Failure} {c' : Controller}
    (ran : op.run c = (.error failure, c')) :
    Leaves Before During c'.finish.bench := by
  by_cases begins : ∃ field, op = .beginStreaming field
  · obtain ⟨field, rfl⟩ := begins
    have begun := Operation.run_begins field c
    rw [ran] at begun
    cases begun with
    | @unopened _ opened closed opens =>
      rw [Controller.finish_bench_of_closed (c := c.withBench opened) closed]
      cases stands with
      | closed _ before => exact .refused before opens
      | started state _ => rw [state] at closed; cases closed
    | @unstarted _ _ started closed opens starts =>
      rw [Controller.finish_bench_of_closed (c := c.withBench started.close.2) closed]
      cases stands with
      | closed _ before => exact .unstarted before opens starts
      | started state _ => rw [state] at closed; cases closed
    | reopened busy =>
      rw [Controller.finish_tornDown]
      exact stands.finish
  · have effect := Operation.run_sustained (fun field same => begins ⟨field, same⟩) c
    rw [ran] at effect
    cases effect with
    | live _ phase evolves => exact (stands.evolves course evolves).finish
    | @stalled requested observed limit bench evolves =>
      rw [Controller.stalledAt, Controller.finish_tornDown]
      exact (stands.evolves course evolves).finish

theorem plan_leaves (course : Course Before During) (plan : Plan) (c : Controller)
    (stands : Stands Before During c) : Leaves Before During (plan.run c).2.finish.bench :=
  Plan.run_leaves (J := Stands Before During) (K := fun c => Leaves Before During c.finish.bench)
    plan (fun op _ c stands _ _ ran => course.operation_goes op c stands ran)
    (fun op _ c stands _ _ ran => course.operation_fails op c stands ran)
    (fun _ stands => stands.finish) c stands

theorem driven_leaves (course : Course Before During) (settings : Settings) (e : Experiment)
    (c : Controller) (stands : Stands Before During c) :
    Leaves Before During (e.driven settings c).2.finish.bench := by
  rw [Experiment.driven]
  cases e.plan settings c.session.profile c.device with
  | error failure => exact stands.finish
  | ok plan => exact course.plan_leaves plan c stands

theorem run_leaves (course : Course Before During) (settings : Settings)
    (baseline : Option BaselineSummary) (e : Experiment) (b : Bench) (before : Before b) :
    Leaves Before During (e.run settings baseline b).2 := by
  rw [Experiment.run_bench]
  cases (e.query settings).select? b.device.profiles with
  | none => exact .unopened before
  | some s => exact course.driven_leaves settings e _ (.closed rfl before)

end Bench.Course

end ExposureBench
