import ExposureBench.Proofs.Verification

namespace ExposureBench

namespace Consistency

variable {start middle stop : Nat}

theorem stretch_append (events : List FrameEvent) (before : start ≤ middle) (after : middle ≤ stop) :
    (events.take middle).drop start ++ (events.take stop).drop middle =
      (events.take stop).drop start := by
  calc
    _ = (events.drop start).take (middle - start) ++
          ((events.drop start).drop (middle - start)).take (stop - middle) := by
      rw [List.drop_take, List.drop_take, List.drop_drop, Nat.add_sub_cancel' before]
    _ = (events.drop start).take (middle - start + (stop - middle)) := List.take_add.symm
    _ = (events.take stop).drop start := by
      rw [List.drop_take, Nat.add_comm, Nat.sub_add_sub_cancel after before]

theorem check_merge_check (events : List FrameEvent) (expected : Bool) (before : start ≤ middle)
    (after : middle ≤ stop) :
    (check events start middle expected).merge (check events middle stop expected) =
      check events start stop expected := by
  rw [check_eq, check_eq, check_eq, ← ofEvents_append, stretch_append events before after]

theorem mergeAll_eq (checks : List Consistency) :
    mergeAll checks = {
      compared := (checks.map (·.compared)).sum
      skipped := (checks.map (·.skipped)).sum
      mismatches := (checks.map (·.mismatches)).sum
      firstMismatch := checks.findSome? (·.firstMismatch) } := by
  induction checks with
  | nil => rfl
  | cons check rest ih =>
    rw [mergeAll_cons, ih]
    simp only [merge, List.map_cons, List.sum_cons, List.findSome?_cons]
    cases check.firstMismatch <;> rfl

theorem flatMap_windows_sublist (events : List FrameEvent) {windows : List Window} {start : Nat}
    (apart : windows.Pairwise (·.stop ≤ ·.start)) (later : ∀ w ∈ windows, start ≤ w.start) :
    (windows.flatMap fun w => (events.take w.stop).drop w.start).Sublist (events.drop start) := by
  induction windows generalizing start with
  | nil => exact List.nil_sublist _
  | cons w rest ih =>
    obtain ⟨beyond, apart⟩ := List.pairwise_cons.mp apart
    have first : (events.drop w.start).Sublist (events.drop start) := by
      obtain ⟨skipped, same⟩ := Nat.exists_eq_add_of_le (later w List.mem_cons_self)
      rw [same, ← List.drop_drop]
      exact List.drop_sublist _ _
    have cut : (events.take w.stop).drop w.start ++ events.drop w.stop = events.drop w.start := by
      have whole := stretch_append events w.start_le_stop (Nat.le_max_left w.stop events.length)
      rwa [List.take_of_length_le (Nat.le_max_right w.stop events.length)] at whole
    rw [List.flatMap_cons]
    refine List.Sublist.trans ?_ (cut ▸ first)
    exact (List.Sublist.refl _).append (ih apart beyond)

theorem head?_eq_some_iff_isLeast {numbers : List Nat} (ordered : numbers.Pairwise (· ≤ ·))
    (n : Nat) : numbers.head? = some n ↔ IsLeast {m | m ∈ numbers} n := by
  rw [← List.min?_eq_head? (ordered.imp fun {_ _} le => Nat.min_eq_left le),
    List.min?_eq_some_iff]
  rfl

theorem mem_stretch_iff (events : List FrameEvent) (start stop : Nat) (e : FrameEvent) :
    e ∈ (events.take stop).drop start ↔ ∃ i, start ≤ i ∧ i < stop ∧ events[i]? = some e := by
  rw [List.mem_iff_getElem?]
  constructor
  · rintro ⟨i, present⟩
    rw [List.getElem?_drop, List.getElem?_take, Option.ite_none_right_eq_some] at present
    exact ⟨start + i, Nat.le_add_right start i, present⟩
  · rintro ⟨i, low, high, present⟩
    refine ⟨i - start, ?_⟩
    rw [List.getElem?_drop, Nat.add_sub_cancel' low, List.getElem?_take_of_lt high, present]

/-- The numbers of the frames in some windows that report another state than their window expects. -/
def mismatching (events : List FrameEvent) (windows : List Window) : Set Nat :=
  {n | ∃ w ∈ windows, ∃ i, w.start ≤ i ∧ i < w.stop ∧ ∃ e, events[i]? = some e ∧ e.sequence = n ∧
    ∃ reported, e.flag = some reported ∧ reported ≠ w.expected}

theorem mem_mismatching_iff (events : List FrameEvent) (windows : List Window) (n : Nat) :
    n ∈ mismatching events windows ↔ n ∈ (contradicting (·.expected)
      (fun w : Window => (events.take w.stop).drop w.start) windows).map (·.sequence) := by
  simp only [mismatching, contradicting, Set.mem_ofPred_eq, List.mem_map, List.mem_flatMap,
    List.mem_filter, mem_stretch_iff, contradicts_iff]
  constructor
  · rintro ⟨w, window, i, low, high, e, present, rfl, reports⟩
    exact ⟨e, ⟨w, window, ⟨i, low, high, present⟩, reports⟩, rfl⟩
  · rintro ⟨e, ⟨w, window, ⟨i, low, high, present⟩, reports⟩, rfl⟩
    exact ⟨w, window, i, low, high, e, present, rfl, reports⟩

theorem firstMismatch_mergeAll {events : List FrameEvent} {windows : List Window}
    (ordered : events.Pairwise (·.sequence ≤ ·.sequence))
    (apart : windows.Pairwise (·.stop ≤ ·.start)) (n : Nat) :
    (mergeAll (windows.map (checkWindow events))).firstMismatch = some n ↔
      IsLeast (mismatching events windows) n := by
  have found : mergeAll (windows.map (checkWindow events)) =
      mergeAll (windows.map fun w => ofEvents w.expected ((events.take w.stop).drop w.start)) :=
    congrArg mergeAll (List.map_congr_left fun w _ => check_eq ..)
  -- In windows one after another the events keep their order, so the first is the least.
  have inOrder := (ordered.sublist (List.drop_sublist 0 events)).sublist
    ((contradicting_sublist (·.expected) (fun w : Window => (events.take w.stop).drop w.start)
      windows).trans (flatMap_windows_sublist events apart fun w _ => Nat.zero_le w.start))
  have same : mismatching events windows = {n | n ∈ (contradicting (·.expected)
      (fun w : Window => (events.take w.stop).drop w.start) windows).map (·.sequence)} :=
    Set.ext (mem_mismatching_iff events windows)
  rw [same, ← head?_eq_some_iff_isLeast (List.pairwise_map.mpr inOrder), found, mergeAll_map,
    List.head?_map]

/-- Checks compose. The checks of a stretch's two parts merge into its own check, wherever it is
cut and however far it reaches beyond the events. Merging is associative and a check of nothing
changes nothing; of many checks it gives the sums and the first of their first mismatches. If the
events are numbered in order, that is over windows one after another the least of all frames that
contradict their window. -/
theorem checks_compose :
    (∀ (events : List FrameEvent) (expected : Bool) (start middle stop : Nat),
      start ≤ middle → middle ≤ stop →
        (check events start middle expected).merge (check events middle stop expected) =
          check events start stop expected) ∧
      (∀ a b c : Consistency, (a.merge b).merge c = a.merge (b.merge c)) ∧
      (∀ c : Consistency, merge {} c = c ∧ c.merge {} = c) ∧
      (∀ checks : List Consistency, checks.foldl merge {} = {
        compared := (checks.map (·.compared)).sum
        skipped := (checks.map (·.skipped)).sum
        mismatches := (checks.map (·.mismatches)).sum
        firstMismatch := checks.findSome? (·.firstMismatch) }) ∧
      ∀ (events : List FrameEvent) (windows : List Window),
        events.Pairwise (·.sequence ≤ ·.sequence) → windows.Pairwise (·.stop ≤ ·.start) →
          ∀ n, ((windows.map (checkWindow events)).foldl merge {}).firstMismatch = some n ↔
            IsLeast (mismatching events windows) n := by
  refine ⟨?_, merge_assoc, fun c => ⟨c.empty_merge, c.merge_empty⟩, mergeAll_eq, ?_⟩
  · intro events expected start middle stop before after
    exact check_merge_check events expected before after
  · intro events windows ordered apart n
    exact firstMismatch_mergeAll ordered apart n

theorem checks_compose_cut :
    let events : List FrameEvent := [⟨0, 0, some 1⟩, ⟨3, 1, none⟩, ⟨4, 2, some 0⟩, ⟨9, 3, some 0⟩]
    let windows : List Window := [⟨0, 2, true, by decide⟩, ⟨2, 90, true, by decide⟩]
    (check events 0 2 true).merge (check events 2 90 true) = check events 0 90 true ∧
      IsLeast (mismatching events windows) 4 :=
  ⟨checks_compose.1 _ true 0 2 90 (by decide) (by decide),
    (checks_compose.2.2.2.2 _ _ (by decide) (by decide) 4).mp (by decide)⟩

end Consistency

end ExposureBench
