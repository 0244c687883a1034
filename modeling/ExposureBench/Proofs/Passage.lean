import ExposureBench.Proofs.Delivery
import ExposureBench.Proofs.Logs

/-!
A sleep in two parts is one sleep, and what has been delivered by some time is what is due by then
of all that will be delivered.
-/

namespace ExposureBench

namespace Delivery

variable (config : CameraConfig) (controls : Controls) (d : Delivery)

theorem idleUntil_idleUntil {period time later : Nat} (positive : 0 < period)
    (again : (d.idleUntil controls period time).due ≤ later) :
    (d.idleUntil controls period time).idleUntil controls period later =
      d.idleUntil controls period later := by
  simp only [idleUntil] at again ⊢
  generalize waited : (time - d.due) / period + 1 = turns at again ⊢
  have rest : later - d.due = later - (d.due + period * turns) + period * turns := by omega
  have split : (later - d.due) / period = (later - (d.due + period * turns)) / period + turns := by
    rw [rest, Nat.add_mul_div_left _ _ positive]
  have sums : d.due + period * turns + period * ((later - (d.due + period * turns)) / period + 1) =
      d.due + period * ((later - d.due) / period + 1) := by
    rw [split]
    ring
  rw [sums]

theorem idleUntil_early {period time later : Nat} (positive : 0 < period) (due : d.due ≤ time)
    (le : time ≤ later) (early : later < (d.idleUntil controls period time).due) :
    d.idleUntil controls period later = d.idleUntil controls period time := by
  have same : (later - d.due) / period = (time - d.due) / period := by
    apply Nat.le_antisymm
    · apply Nat.le_of_lt_succ
      apply (Nat.div_lt_iff_lt_mul positive).mpr
      simp only [idleUntil] at early
      rw [Nat.mul_comm]
      change later - d.due < period * ((time - d.due) / period + 1)
      omega
    · exact Nat.div_le_div_right (Nat.sub_le_sub_right le _)
  simp only [idleUntil, same]

end Delivery

def Worker.runUntil (config : CameraConfig) (controls : Controls) (period? : Option Nat)
    (time : Nat) : Worker → Worker × List Arrival
  | .running d => d.runUntil config controls period? time
  | worker => (worker, [])

namespace Delivery

variable (config : CameraConfig) (controls : Controls) (period? : Option Nat)

theorem runUntil_runUntil {time later : Nat} (le : time ≤ later) (d : Delivery) :
    d.runUntil config controls period? later =
      (((d.runUntil config controls period? time).1.runUntil config controls period? later).1,
        (d.runUntil config controls period? time).2 ++
          ((d.runUntil config controls period? time).1.runUntil config controls period? later).2)
      := by
  induction d using frame_induction config controls period? time with
  | early d early =>
    rw [runUntil_early early]
    rfl
  | failed d due missing =>
    subst missing
    rw [runUntil_failed due, runUntil_failed (Nat.le_trans due le)]
    exact congrArg (Prod.mk _) (List.append_nil _).symm
  | stalled d period due found stalled =>
    subst found
    have positive : 0 < max period 1 := Nat.lt_of_lt_of_le Nat.one_pos (Nat.le_max_right ..)
    have still : config.isStalledAt (d.idleUntil controls (max period 1) time).number := stalled
    rw [runUntil_stalled due stalled, runUntil_stalled (Nat.le_trans due le) stalled]
    simp only [Worker.runUntil, List.nil_append]
    rcases Nat.lt_or_ge later (d.idleUntil controls (max period 1) time).due with early | again
    · rw [runUntil_early early, idleUntil_early controls d positive due le early]
    · rw [runUntil_stalled again still, idleUntil_idleUntil controls d positive again]
  | next d period due found going ih =>
    subst found
    rw [runUntil_next due going, runUntil_next (Nat.le_trans due le) going, ih]
    rfl

theorem profile_runUntil {time : Nat} {d d' : Delivery}
    (running : (d.runUntil config controls period? time).1 = .running d') :
    d'.profile = d.profile := by
  induction d using frame_induction config controls period? time with
  | early d early =>
    rw [runUntil_early early] at running
    cases running
    rfl
  | failed d due missing =>
    subst missing
    rw [runUntil_failed due] at running
    cases running
  | stalled d period due found stalled =>
    subst found
    rw [runUntil_stalled due stalled] at running
    cases running
    rfl
  | next d period due found going ih =>
    subst found
    rw [runUntil_next due going] at running
    rw [ih running, profile_advance]

theorem due_le_of_mem {time : Nat} {d : Delivery} {a : Arrival}
    (arrived : a ∈ (d.runUntil config controls period? time).2) : d.due ≤ a.time := by
  induction d using frame_induction config controls period? time with
  | early d early =>
    rw [runUntil_early early] at arrived
    cases arrived
  | failed d due missing =>
    subst missing
    rw [runUntil_failed due] at arrived
    split at arrived
    · cases arrived
    · rw [List.mem_singleton.mp arrived]
      exact Nat.le_refl d.due
  | stalled d period due found stalled =>
    subst found
    rw [runUntil_stalled due stalled] at arrived
    cases arrived
  | next d period due found going ih =>
    subst found
    rw [runUntil_next due going] at arrived
    rcases List.mem_cons.mp arrived with rfl | later
    · exact Nat.le_refl d.due
    · exact Nat.le_trans (Nat.le_add_right _ _) (ih later)

/-- What has come by a time is what is due by then of all that will come. -/
theorem runUntil_filter {time later : Nat} (le : time ≤ later) (d : Delivery) :
    (d.runUntil config controls period? time).2 =
      (d.runUntil config controls period? later).2.filter (·.time ≤ time) := by
  induction d using frame_induction config controls period? time with
  | early d early =>
    rw [runUntil_early early]
    symm
    apply List.filter_eq_nil_iff.mpr
    intro a arrived
    have waits := due_le_of_mem config controls period? arrived
    simp only [decide_eq_true_eq]
    omega
  | failed d due missing =>
    subst missing
    have counted : (d.arrival config).time ≤ time := due
    rw [runUntil_failed due, runUntil_failed (Nat.le_trans due le)]
    dsimp only
    split
    · rfl
    · rw [List.filter_cons_of_pos (by simpa using counted), List.filter_nil]
  | stalled d period due found stalled =>
    subst found
    rw [runUntil_stalled due stalled, runUntil_stalled (Nat.le_trans due le) stalled]
    rfl
  | next d period due found going ih =>
    subst found
    have counted : (d.arrival config).time ≤ time := due
    rw [runUntil_next due going, runUntil_next (Nat.le_trans due le) going, ih,
      List.filter_cons_of_pos (by simpa using counted)]

end Delivery

theorem Camera.runUntil_runUntil {time later : Nat} (le : time ≤ later) (c : Camera) :
    c.runUntil later =
      (((c.runUntil time).1.runUntil later).1,
        (c.runUntil time).2 ++ ((c.runUntil time).1.runUntil later).2) := by
  rcases c with ⟨config, controls, profile, streaming, delivered, _ | d | _⟩
  · rfl
  · have parts := Delivery.runUntil_runUntil config controls (controls.period? d.profile) le d
    simp only [runUntil, parts]
    rcases ran : d.runUntil config controls (controls.period? d.profile) time
      with ⟨_ | d' | _, first⟩
    · simp [Worker.runUntil]
    · have same : d'.profile = d.profile :=
        Delivery.profile_runUntil config controls _ (congrArg Prod.fst ran)
      simp [Worker.runUntil, same, Nat.add_assoc]
    · simp [Worker.runUntil]
  · rfl

theorem Camera.runUntil_filter {time later : Nat} (le : time ≤ later) (c : Camera) :
    (c.runUntil time).2 = (c.runUntil later).2.filter (·.time ≤ time) := by
  rcases c with ⟨config, controls, profile, streaming, delivered, _ | d | _⟩
  · rfl
  · exact Delivery.runUntil_filter config controls (controls.period? d.profile) le d
  · rfl

namespace Playback

variable (followed : Option Int) {time later : Nat}

theorem clock_le_of_mem {left : Nat} {p : Playback} {a : Arrival}
    (arrived : a ∈ (take followed time left p).2) : p.clock ≤ a.time := by
  induction left generalizing p with
  | zero => cases arrived
  | succ left ih =>
    rw [take] at arrived
    split at arrived
    · cases arrived
    next gap flag found =>
    dsimp only at arrived
    split at arrived
    · rcases List.mem_cons.mp arrived with rfl | rest
      · exact Nat.le_add_right _ _
      · exact Nat.le_trans (Nat.le_add_right _ _) (ih rest)
    · cases arrived

theorem take_filter (le : time ≤ later) (left : Nat) (p : Playback) :
    (take followed time left p).2 = (take followed later left p).2.filter (·.time ≤ time) := by
  induction left generalizing p with
  | zero => rfl
  | succ left ih =>
    rw [take, take]
    split
    · rfl
    next gap flag found =>
    dsimp only
    by_cases due : p.clock + gap ≤ time
    · rw [if_pos due, if_pos (Nat.le_trans due le), List.filter_cons_of_pos (by simpa using due),
        ← ih]
    · rw [if_neg due]
      symm
      apply List.filter_eq_nil_iff.mpr
      intro a arrived
      have waits : p.clock + gap ≤ a.time := by
        split at arrived
        · rcases List.mem_cons.mp arrived with rfl | rest
          · exact Nat.le_refl _
          · exact clock_le_of_mem followed rest
        · cases arrived
      simp only [decide_eq_true_eq]
      omega

theorem runUntil_runUntil (le : time ≤ later) (p : Playback) :
    p.runUntil followed later =
      (((p.runUntil followed time).1.runUntil followed later).1,
        (p.runUntil followed time).2 ++ ((p.runUntil followed time).1.runUntil followed later).2)
      := by
  simp only [runUntil]
  generalize remaining : p.schedule.length - p.number = left
  induction left generalizing p with
  | zero => simp [take, remaining]
  | succ left ih =>
    rw [take, take]
    cases found : p.schedule.frame? p.number with
    | none => simp [take, remaining, found]
    | some next =>
      dsimp only
      by_cases due : p.clock + next.1 ≤ time
      · have rest : p.schedule.length - (p.number + 1) = left := by omega
        rw [if_pos due, if_pos (Nat.le_trans due le)]
        have later := ih { p with number := p.number + 1, clock := p.clock + next.1 } rest
        simp only [later, List.cons_append]
      · rw [if_neg due]
        simp [take, remaining, found]

end Playback

theorem ScriptedDevice.runUntil_runUntil {time later : Nat} (le : time ≤ later)
    (d : ScriptedDevice) :
    d.runUntil later =
      (((d.runUntil time).1.runUntil later).1,
        (d.runUntil time).2 ++ ((d.runUntil time).1.runUntil later).2) := by
  rcases d with ⟨script, options, started, _ | p⟩
  · rfl
  · have parts := p.runUntil_runUntil (followed ⟨script, options, started, some p⟩) le
    simp only [runUntil, parts]
    rfl

theorem ScriptedDevice.runUntil_filter {time later : Nat} (le : time ≤ later)
    (d : ScriptedDevice) : (d.runUntil time).2 = (d.runUntil later).2.filter (·.time ≤ time) := by
  rcases d with ⟨script, options, started, _ | p⟩
  · rfl
  · exact p.take_filter _ le _

namespace Device

variable {time later : Nat} (le : time ≤ later) (d : Device)
include le

theorem runUntil_runUntil :
    d.runUntil later =
      (((d.runUntil time).1.runUntil later).1,
        (d.runUntil time).2 ++ ((d.runUntil time).1.runUntil later).2) := by
  cases d with
  | camera c => exact congrArg (Prod.map Device.camera id) (c.runUntil_runUntil le)
  | scripted d => exact congrArg (Prod.map Device.scripted id) (d.runUntil_runUntil le)

theorem runUntil_filter : (d.runUntil time).2 = (d.runUntil later).2.filter (·.time ≤ time) := by
  cases d with
  | camera c => exact c.runUntil_filter le
  | scripted d => exact d.runUntil_filter le

end Device

namespace Bench

theorem recordAll_append (log : FrameLog) (first second : List Arrival) :
    recordAll log (first ++ second) = recordAll (recordAll log first) second :=
  List.foldl_append

variable (b : Bench)

@[simp] theorem now_deliver (arrivals : List Arrival) : (b.deliver arrivals).now = b.now := by
  unfold deliver
  split <;> rfl

theorem deliver_with (arrivals : List Arrival) (device : Device) (now : Nat) :
    ({ b with device, now } : Bench).deliver arrivals =
      { b.deliver arrivals with device, now } := by
  rcases b with ⟨_, _, _, _ | id, _⟩ <;> rfl

theorem deliver_deliver (first second : List Arrival) :
    (b.deliver first).deliver second = b.deliver (first ++ second) := by
  rcases b with ⟨device, now, logs, _ | id, calls⟩
  · rfl
  · have same : (logs.modify id (recordAll · first)).modify id (recordAll · second) =
        logs.modify id (recordAll · (first ++ second)) := by
      apply Array.ext_getElem?
      intro i
      simp only [Array.getElem?_modify]
      split
      · cases logs[i]? <;> simp [recordAll_append]
      · rfl
    simp only [deliver, same]

/-- To sleep in two parts is to sleep at once. -/
theorem sleep_sleep (first second : Nat) :
    (b.sleep first).sleep second = b.sleep (first + second) := by
  rcases Nat.eq_zero_or_pos first with rfl | started
  · rw [sleep_zero, Nat.zero_add]
  rcases Nat.eq_zero_or_pos second with rfl | goes
  · rw [sleep_zero, Nat.add_zero]
  have total : b.now + Duration.ofMillis (first + second) =
      b.now + Duration.ofMillis first + Duration.ofMillis second := by
    simp only [Duration.ofMillis, Nat.add_mul]
    omega
  have parts := b.device.runUntil_runUntil
    (Nat.le_add_right (b.now + Duration.ofMillis first) (Duration.ofMillis second))
  rw [sleep_of_pos _ started, sleep_of_pos _ goes, sleep_of_pos _ (Nat.add_pos_left started _),
    total, parts]
  simp only [device_deliver, now_deliver, ← deliver_with, deliver_deliver]

end Bench

end ExposureBench
