import ExposureBench.Proofs.CameraCalls
import ExposureBench.Proofs.Delivery

/-!
A frame is made with the control as it was when the frame before it was delivered, and reports the
state that the control has held last for more frames than the metadata lag behind.
-/

namespace ExposureBench

abbrev ControlTrace := Nat → Bool

namespace ControlTrace

/-- Frame `n` and so many frames before it are made with one state. What came before the first frame
counts as made like it. -/
def SteadyFor (control : ControlTrace) (frames n : Nat) : Prop :=
  ∀ k ≤ frames, control (n - k) = control n

instance (control : ControlTrace) (frames : Nat) : DecidablePred (control.SteadyFor frames) :=
  fun _ => Nat.decidableBallLE ..

/-- The state of the last frame up to `n` by which the control was steady for the lag. -/
def reported (control : ControlTrace) (lag n : Nat) : Bool :=
  control (Nat.findGreatest (control.SteadyFor lag) n)

variable {control : ControlTrace} {lag n : Nat}

theorem steadyFor_start (control : ControlTrace) (frames : Nat) : control.SteadyFor frames 0 := by
  intro k _
  rw [Nat.zero_sub]

theorem steadyFor_zero (control : ControlTrace) (n : Nat) : control.SteadyFor 0 n := by
  intro k none
  rw [Nat.eq_zero_of_le_zero none, Nat.sub_zero]

theorem steadyFor_succ (control : ControlTrace) (frames n : Nat) :
    control.SteadyFor (frames + 1) (n + 1) ↔
      control (n + 1) = control n ∧ control.SteadyFor frames n := by
  constructor
  · intro steady
    have same : control n = control (n + 1) := steady 1 (Nat.le_add_left 1 frames)
    refine ⟨same.symm, fun k within => ?_⟩
    have earlier := steady (k + 1) (Nat.succ_le_succ within)
    rwa [Nat.add_sub_add_right, ← same] at earlier
  · rintro ⟨same, steady⟩ k within
    cases k with
    | zero => rfl
    | succ k =>
      rw [Nat.add_sub_add_right, same]
      exact steady k (Nat.le_of_succ_le_succ within)

theorem reported_zero (control : ControlTrace) (lag : Nat) : control.reported lag 0 = control 0 :=
  rfl

theorem reported_succ (control : ControlTrace) (lag n : Nat) :
    control.reported lag (n + 1) =
      if control.SteadyFor lag (n + 1) then control (n + 1) else control.reported lag n := by
  rw [reported, Nat.findGreatest_succ]
  split <;> rfl

theorem reported_of_steady (steady : control.SteadyFor lag n) :
    control.reported lag n = control n := by
  cases n with
  | zero => exact control.reported_zero lag
  | succ n => rw [reported_succ, if_pos steady]

/-- A run of frames that differ from the frame before them changes what is reported at the first
frame by which it is longer than the lag, and not earlier. -/
theorem reported_of_run {before last : Nat} (changed : control before ≠ control (before + 1))
    (run : ∀ m, before < m → m ≤ last → control m = control (before + 1)) (after : before < n)
    (within : n ≤ last) :
    control.reported lag n =
      if n ≤ before + lag then control.reported lag before else control (before + 1) := by
  split
  next short =>
    induction n with
    | zero => cases after
    | succ n ih =>
      have unsteady : ¬ control.SteadyFor lag (n + 1) := by
        intro steady
        have same := steady (n + 1 - before) (by omega)
        rw [Nat.sub_sub_self (Nat.le_of_lt after), run _ after within] at same
        exact changed same
      rw [reported_succ, if_neg unsteady]
      rcases Nat.lt_succ_iff_lt_or_eq.mp after with later | rfl
      · exact ih later (Nat.le_of_succ_le within) (Nat.le_of_succ_le short)
      · rfl
  next long =>
    have steady : control.SteadyFor lag n := by
      intro k back
      rw [run n after within]
      exact run (n - k) (by omega) (by omega)
    rw [reported_of_steady steady, run n after within]

end ControlTrace

def ControlTrace.of (start : Bool) (states : List Bool) : ControlTrace
  | 0 => start
  | n + 1 => states.getD n start

structure Frame.Tells (config : CameraConfig) (control : ControlTrace) (n : Nat) (f : Frame) :
    Prop where
  number : f.number = n
  frameCounter : f.metadata .frameCounter = some (n : Int)
  dropped : f.metadata .autoExposure = none ↔
    ∃ every, config.dropoutEvery = some every ∧ 0 < every ∧ every ∣ n + 1
  flag : ∀ value, f.metadata .autoExposure = some value →
    value = config.stuckValue.getD (if control.reported config.lagFrames n then 1 else 0)

theorem CameraConfig.isDropped_iff (config : CameraConfig) (n : Nat) :
    config.isDropped n ↔
      ∃ every, config.dropoutEvery = some every ∧ 0 < every ∧ every ∣ n + 1 := by
  rw [isDropped, Option.any_eq_true]
  simp only [decide_eq_true_eq, Nat.dvd_iff_mod_eq_zero]

namespace Delivery

variable {config : CameraConfig} {control : ControlTrace} {d : Delivery}

/-- The delivery has followed a trace up to the frame it is about to make. What is left of the lag
tells for how many frames the control has been steady. -/
structure Follows (config : CameraConfig) (control : ControlTrace) (d : Delivery) : Prop where
  held : d.held.autoExposure = control d.number
  lagging : ∀ frames ≤ config.lagFrames,
    d.lag config + frames ≤ config.lagFrames ↔ control.SteadyFor frames d.number
  reported : (d.settle config).reported = control.reported config.lagFrames d.number

theorem Follows.tells (follows : d.Follows config control) :
    (d.arrival config).frame.Tells config control d.number where
  number := by rw [arrival, frame, settle_eq]
  frameCounter := by rw [arrival, frame, settle_eq]; rfl
  dropped := by
    rw [← config.isDropped_iff]
    simp [arrival, frame, settle_eq, Frame.metadata]
  flag := by
    intro value told
    rw [← follows.reported]
    have number : (d.settle config).number = d.number := by rw [settle_eq]
    simp only [arrival, frame, Frame.metadata, number] at told
    split at told <;> cases told
    rfl

theorem Follows.advance (follows : d.Follows config control) {controls : Controls}
    (next : control (d.number + 1) = controls.autoExposure) (period : Nat) :
    (d.advance config controls period).Follows config control := by
  have lag : (d.advance config controls period).lag config =
      if control (d.number + 1) = control d.number then d.lag config - 1
      else config.lagFrames := by
    rw [Delivery.lag, requested_advance, lagLeft_advance, follows.held, next]
    rfl
  have lagging : ∀ frames ≤ config.lagFrames,
      (d.advance config controls period).lag config + frames ≤ config.lagFrames ↔
        control.SteadyFor frames (d.number + 1) := by
    intro frames within
    have bounded := (follows.lagging 0 (Nat.zero_le _)).mpr (control.steadyFor_zero _)
    rw [lag]
    cases frames with
    | zero =>
      refine iff_of_true ?_ (control.steadyFor_zero _)
      split <;> omega
    | succ frames =>
      rw [control.steadyFor_succ, ← follows.lagging frames (Nat.le_of_succ_le within)]
      split
      next same =>
        rw [and_iff_right same]
        omega
      next changed => exact iff_of_false (by omega) fun steady => changed steady.1
  refine ⟨next.symm, lagging, ?_⟩
  have caughtUp := lagging config.lagFrames (Nat.le_refl _)
  change _ = control.reported config.lagFrames (d.number + 1)
  rw [reported_settle, control.reported_succ, ← follows.reported]
  by_cases steady : control.SteadyFor config.lagFrames (d.number + 1)
  · have ended := caughtUp.mpr steady
    rw [if_pos steady, if_neg (by omega), next]
    rfl
  · have lasts := mt caughtUp.mp steady
    rw [if_neg steady, if_pos (by omega)]
    rfl

def Keeps (config : CameraConfig) (control : ControlTrace) (d : Delivery) : Prop :=
  config.isStalledAt d.number ∨ d.Follows config control

theorem runUntil_tells {controls : Controls} (period? : Option Nat) (time : Nat) (d : Delivery)
    (keeps : d.Keeps config control)
    (seen : ∀ i < (d.runUntil config controls period? time).2.length,
      control (d.number + i + 1) = controls.autoExposure) :
    (∀ f ∈ ((d.runUntil config controls period? time).2.map (·.frame)).zipIdx d.number,
        f.1.Tells config control f.2 ∧ ¬ config.isStalledAt f.2) ∧
      ∀ d', (d.runUntil config controls period? time).1 = .running d' →
        d'.number = d.number + (d.runUntil config controls period? time).2.length ∧
          d'.Keeps config control := by
  induction d using frame_induction config controls period? time with
  | early d early =>
    rw [runUntil_early early]
    refine ⟨List.forall_mem_nil _, ?_⟩
    rintro d' ⟨⟩
    exact ⟨rfl, keeps⟩
  | failed d due missing =>
    subst missing
    rw [runUntil_failed due]
    refine ⟨?_, fun _ => nofun⟩
    dsimp only
    split
    · exact List.forall_mem_nil _
    next going =>
      rw [List.map_singleton, List.zipIdx_singleton]
      exact List.forall_mem_singleton.mpr ⟨(keeps.resolve_left going).tells, going⟩
  | stalled d period due found stalled =>
    subst found
    rw [runUntil_stalled due stalled]
    refine ⟨List.forall_mem_nil _, ?_⟩
    rintro d' ⟨⟩
    exact ⟨rfl, .inl stalled⟩
  | next d period due found going ih =>
    subst found
    have follows := keeps.resolve_left going
    rw [runUntil_next due going] at seen ⊢
    dsimp only at seen ⊢
    rw [List.length_cons] at seen ⊢
    obtain ⟨tell, goes⟩ := ih (.inr (follows.advance (seen 0 (Nat.zero_lt_succ _)) _)) (by
      intro i more
      have later := seen (i + 1) (Nat.succ_lt_succ more)
      rwa [show d.number + (i + 1) + 1 = d.number + 1 + i + 1 by omega] at later)
    constructor
    · rw [List.map_cons, List.zipIdx_cons]
      exact List.forall_mem_cons.mpr ⟨⟨follows.tells, going⟩, tell⟩
    · intro d' running
      obtain ⟨number, kept⟩ := goes d' running
      refine ⟨number.trans ?_, kept⟩
      change d.number + 1 + _ = _
      omega

end Delivery

namespace Camera

/-- What happens to a camera while it streams: a control is written, whether that is accepted or
not, or time goes on to some moment. -/
inductive Event where
  | write (option : DeviceOption) (value : Float)
  | elapse (time : Nat)

def deliveries : List Event → Camera → List (Bool × Frame)
  | [], _ => []
  | .write option v :: rest, c => deliveries rest (c.set option v).2
  | .elapse time :: rest, c =>
    (c.runUntil time).2.map (fun a => (c.controls.autoExposure, a.frame)) ++
      deliveries rest (c.runUntil time).1

structure Follows (config : CameraConfig) (control : ControlTrace) (n : Nat) (c : Camera) :
    Prop where
  config_eq : c.config = config
  goes : ∀ d, c.worker = .running d → d.number = n ∧ d.Keeps config control

variable {config : CameraConfig} {control : ControlTrace} {n : Nat} {c : Camera}

theorem config_set (c : Camera) (option : DeviceOption) (v : Float) :
    (c.set option v).2.config = c.config := by
  unfold set
  repeat' split
  all_goals rfl

theorem Follows.set (follows : c.Follows config control n) (option : DeviceOption) (v : Float) :
    (c.set option v).2.Follows config control n := by
  refine ⟨(c.config_set option v).trans follows.config_eq, ?_⟩
  rw [c.worker_set]
  exact follows.goes

theorem Follows.runUntil (follows : c.Follows config control n) (time : Nat)
    (seen : ∀ i < (c.runUntil time).2.length, control (n + i + 1) = c.controls.autoExposure) :
    (∀ f ∈ ((c.runUntil time).2.map (·.frame)).zipIdx n,
        f.1.Tells config control f.2 ∧ ¬ config.isStalledAt f.2) ∧
      (c.runUntil time).1.Follows config control (n + (c.runUntil time).2.length) := by
  obtain ⟨rfl, goes⟩ := follows
  rcases worker : c.worker with _ | d | _
  · rw [Camera.runUntil, worker]
    exact ⟨List.forall_mem_nil _, rfl, goes⟩
  · obtain ⟨rfl, keeps⟩ := goes d worker
    have ran : c.runUntil time =
        ({ c with
          worker := (d.runUntil c.config c.controls (c.controls.period? d.profile) time).1
          delivered := c.delivered +
            (d.runUntil c.config c.controls (c.controls.period? d.profile) time).2.length },
          (d.runUntil c.config c.controls (c.controls.period? d.profile) time).2) := by
      rw [Camera.runUntil, worker]
    rw [ran] at seen ⊢
    obtain ⟨tell, kept⟩ := d.runUntil_tells _ time keeps seen
    exact ⟨tell, rfl, kept⟩
  · rw [Camera.runUntil, worker]
    exact ⟨List.forall_mem_nil _, rfl, goes⟩

theorem Follows.of_start {started : Camera} {now : Nat}
    (starts : c.start now = (.ok (), started)) (begins : control 0 = c.controls.autoExposure) :
    started.Follows c.config control 0 := by
  obtain ⟨profile, _, rfl⟩ := start_accepted starts
  refine ⟨rfl, fun d running => ?_⟩
  dsimp only at running
  unfold worker? at running
  split at running <;> cases running
  refine ⟨rfl, .inr ⟨begins.symm, ?_, ?_⟩⟩
  · intro frames within
    refine iff_of_true ?_ (control.steadyFor_start frames)
    rw [Delivery.lag, if_pos rfl, Nat.zero_add]
    exact within
  · rw [Delivery.reported_settle, Delivery.lag, if_pos rfl, if_neg (Nat.lt_irrefl 0)]
    exact begins.symm

theorem Follows.deliveries (history : List Event) (follows : c.Follows config control n)
    (seen : ∀ e ∈ (c.deliveries history).zipIdx n, control (e.2 + 1) = e.1.1) :
    ∀ e ∈ (c.deliveries history).zipIdx n,
      e.1.2.Tells config control e.2 ∧ ¬ config.isStalledAt e.2 := by
  induction history generalizing c n with
  | nil => exact List.forall_mem_nil _
  | cons event rest ih =>
    cases event with
    | write option v => exact ih (follows.set option v) seen
    | elapse time =>
      rw [Camera.deliveries, List.zipIdx_append, List.length_map] at seen ⊢
      obtain ⟨now, later⟩ := List.forall_mem_append.mp seen
      obtain ⟨tell, goes⟩ := follows.runUntil time (by
        intro i more
        have delivered := now ((c.controls.autoExposure, (c.runUntil time).2[i].frame), n + i) (by
          rw [List.mk_mem_zipIdx_iff_le_and_getElem?_sub]
          simp [more])
        exact delivered)
      refine List.forall_mem_append.mpr ⟨?_, ih goes later⟩
      rintro ⟨⟨on, f⟩, i⟩ member
      rw [List.mk_mem_zipIdx_iff_le_and_getElem?_sub] at member
      apply tell (f, i)
      rw [List.mk_mem_zipIdx_iff_le_and_getElem?_sub]
      obtain ⟨after, found⟩ := member
      refine ⟨after, ?_⟩
      rw [List.getElem?_map, Option.map_eq_some_iff] at found ⊢
      obtain ⟨a, arrived, same⟩ := found
      exact ⟨a, arrived, congrArg Prod.snd same⟩

/-- The frames of a stream tell of the control as the trace says. They are numbered one after
another, and there are no more than a stalling stream has. What they report changes only in a run of
frames of another state, at the first by which the run is longer than the lag. -/
structure Traces (config : CameraConfig) (control : ControlTrace) (frames : List Frame) : Prop where
  tells : ∀ (n : Nat) (f : Frame), frames[n]? = some f → f.Tells config control n
  stalls : ∀ limit, config.stallAfter = some limit → frames.length ≤ limit
  changes : ∀ before last n, control before ≠ control (before + 1) →
    (∀ m, before < m → m ≤ last → control m = control (before + 1)) → before < n → n ≤ last →
      control.reported config.lagFrames n =
        if n ≤ before + config.lagFrames then control.reported config.lagFrames before
        else control (before + 1)

/-- From its start on, whatever is written meanwhile, a camera's frames tell of auto-exposure as it
was at the start and then at the delivery of each frame. -/
theorem metadata_trace {c started : Camera} {now : Nat} (starts : c.start now = (.ok (), started))
    (history : List Event) :
    Traces c.config
      (.of c.controls.autoExposure ((started.deliveries history).map (·.1)))
      ((started.deliveries history).map (·.2)) := by
  generalize traced :
    ControlTrace.of c.controls.autoExposure ((started.deliveries history).map (·.1)) = control
  have begins : control 0 = c.controls.autoExposure := by
    rw [← traced]
    rfl
  have told := (Follows.of_start starts begins).deliveries history (by
    rintro ⟨entry, i⟩ member
    rw [List.mk_mem_zipIdx_iff_getElem?] at member
    rw [← traced]
    simp [ControlTrace.of, member])
  have each : ∀ (n : Nat) entry, (started.deliveries history)[n]? = some entry →
      entry.2.Tells c.config control n ∧ ¬ c.config.isStalledAt n := by
    intro n entry found
    exact told (entry, n) (List.mk_mem_zipIdx_iff_getElem?.mpr found)
  refine ⟨?_, ?_, ?_⟩
  · intro n f found
    rw [List.getElem?_map] at found
    obtain ⟨entry, delivered, rfl⟩ := Option.map_eq_some_iff.mp found
    exact (each n entry delivered).1
  · intro limit stalls
    rw [List.length_map]
    by_contra more
    have inside : limit < (started.deliveries history).length := Nat.not_le.mp more
    have going := (each limit _ (List.getElem?_eq_getElem inside)).2
    rw [CameraConfig.isStalledAt, stalls] at going
    simp at going
  · intro before last n changed run after within
    exact ControlTrace.reported_of_run changed run after within

/-- Auto-exposure goes off after three frames and on again after seven. The metadata follow three
frames later each time, the frame under way included. -/
theorem default_camera_traced :
    let camera : Camera :=
      { Camera.ofConfig .default with profile := some ⟨.depth, .z16, 848, 480, 30⟩ }
    let history : List Event := [.elapse 100_000_000, .write .enableAutoExposure 0,
      .elapse 240_000_000, .write .enableAutoExposure 1, .elapse 400_000_000]
    let delivered := (camera.start 0).2.deliveries history
    (camera.start 0).1 = .ok () ∧
      delivered.map (·.2.autoExposure) =
        [some 1, some 1, some 1, some 1, some 1, some 1, some 0, some 0, some 0, some 0, some 1,
          some 1] ∧
      Traces .default (.of true (delivered.map (·.1))) (delivered.map (·.2)) :=
  ⟨rfl, by decide +kernel, metadata_trace (c := { Camera.ofConfig .default with
    profile := some ⟨.depth, .z16, 848, 480, 30⟩ }) rfl _⟩

end Camera

end ExposureBench
