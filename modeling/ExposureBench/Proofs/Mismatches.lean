import ExposureBench.Statistics.Consistency
import Mathlib

namespace ExposureBench

/-- The event reports a state, and another one than expected. -/
def FrameEvent.contradicts (expected : Bool) (e : FrameEvent) : Bool := e.flag == some (!expected)

namespace Consistency

def ofEvents (expected : Bool) (events : List FrameEvent) : Consistency where
  compared := events.countP (·.flag.isSome)
  skipped := events.countP (·.flag.isNone)
  mismatches := events.countP (·.contradicts expected)
  firstMismatch := (events.find? (·.contradicts expected)).map (·.sequence)

@[simp] theorem merge_empty (c : Consistency) : c.merge {} = c := by
  simp [merge]

@[simp] theorem empty_merge (c : Consistency) : merge {} c = c := by
  simp [merge]

theorem merge_assoc (a b c : Consistency) : (a.merge b).merge c = a.merge (b.merge c) := by
  simp only [merge, Nat.add_assoc, Option.or_assoc]

theorem observe_eq (expected : Bool) (c : Consistency) (e : FrameEvent) :
    observe expected c e = c.merge (ofEvents expected [e]) := by
  unfold observe ofEvents FrameEvent.contradicts
  rcases flag : e.flag with _ | _ | _ <;> cases expected <;> simp [merge, flag]

theorem ofEvents_append (expected : Bool) (first second : List FrameEvent) :
    ofEvents expected (first ++ second) =
      (ofEvents expected first).merge (ofEvents expected second) := by
  simp only [ofEvents, merge, List.countP_append, List.find?_append]
  cases first.find? (·.contradicts expected) <;> rfl

theorem foldl_observe (expected : Bool) (events : List FrameEvent) (c : Consistency) :
    events.foldl (observe expected) c = c.merge (ofEvents expected events) := by
  induction events generalizing c with
  | nil => exact c.merge_empty.symm
  | cons e rest ih =>
    calc
      (e :: rest).foldl (observe expected) c = rest.foldl (observe expected)
          (c.merge (ofEvents expected [e])) := by
        rw [List.foldl_cons, observe_eq]
      _ = c.merge ((ofEvents expected [e]).merge (ofEvents expected rest)) := by
        rw [ih, merge_assoc]
      _ = c.merge (ofEvents expected ([e] ++ rest)) := by
        rw [ofEvents_append]

theorem check_eq (events : List FrameEvent) (start stop : Nat) (expected : Bool) :
    check events start stop expected = ofEvents expected ((events.take stop).drop start) := by
  rw [check, foldl_observe, empty_merge]

theorem mismatches_check (events : List FrameEvent) (start stop : Nat) (expected : Bool) :
    (check events start stop expected).mismatches =
      ((events.take stop).drop start).countP (·.contradicts expected) := by
  rw [check_eq, ofEvents]

theorem check_all (events : List FrameEvent) (expected : Bool) :
    check events 0 events.length expected = ofEvents expected events := by
  rw [check_eq, List.take_length, List.drop_zero]

theorem mismatches_check_all (events : List FrameEvent) (expected : Bool) :
    (check events 0 events.length expected).mismatches =
      events.countP (·.contradicts expected) := by
  rw [check_all, ofEvents]

/-- Checks as one, the earlier first. -/
def mergeAll (checks : List Consistency) : Consistency := checks.foldl merge {}

theorem foldl_merge (checks : List Consistency) (c : Consistency) :
    checks.foldl merge c = c.merge (mergeAll checks) := by
  induction checks generalizing c with
  | nil => exact c.merge_empty.symm
  | cons check rest ih =>
    rw [mergeAll, List.foldl_cons, List.foldl_cons, ih, ih (merge {} check), empty_merge,
      merge_assoc]

theorem mergeAll_cons (check : Consistency) (rest : List Consistency) :
    mergeAll (check :: rest) = check.merge (mergeAll rest) := by
  rw [mergeAll, List.foldl_cons, foldl_merge, empty_merge]

theorem mergeAll_append (first second : List Consistency) :
    mergeAll (first ++ second) = (mergeAll first).merge (mergeAll second) := by
  rw [mergeAll, List.foldl_append, foldl_merge]
  rfl

theorem mismatches_mergeAll (checks : List Consistency) :
    (mergeAll checks).mismatches = (checks.map (·.mismatches)).sum := by
  induction checks with
  | nil => rfl
  | cons check rest ih =>
    rw [mergeAll_cons, List.map_cons, List.sum_cons, ← ih]
    rfl

def contradicting {α : Type} (expected : α → Bool) (events : α → List FrameEvent)
    (stretches : List α) : List FrameEvent :=
  stretches.flatMap fun a => (events a).filter (·.contradicts (expected a))

theorem contradicting_sublist {α : Type} (expected : α → Bool) (events : α → List FrameEvent)
    (stretches : List α) :
    (contradicting expected events stretches).Sublist (stretches.flatMap events) := by
  induction stretches with
  | nil => exact List.Sublist.slnil
  | cons a rest ih => exact (List.filter_sublist (l := events a)).append ih

theorem length_contradicting_le {α : Type} (expected : α → Bool) (events : α → List FrameEvent)
    (stretches : List α) :
    (contradicting expected events stretches).length ≤
      (stretches.flatMap events).countP (·.flag.isSome) := by
  have reported : ∀ e ∈ contradicting expected events stretches, e.flag.isSome := by
    intro e member
    obtain ⟨a, _, found⟩ := List.mem_flatMap.mp member
    have contradicts := (List.mem_filter.mp found).2
    rw [FrameEvent.contradicts, beq_iff_eq] at contradicts
    rw [contradicts]
    rfl
  calc
    _ = (contradicting expected events stretches).countP (·.flag.isSome) :=
      (List.countP_eq_length.mpr reported).symm
    _ ≤ (stretches.flatMap events).countP (·.flag.isSome) :=
      (contradicting_sublist expected events stretches).countP_le

theorem mergeAll_map {α : Type} (expected : α → Bool) (events : α → List FrameEvent)
    (stretches : List α) :
    mergeAll (stretches.map fun a => ofEvents (expected a) (events a)) = {
      compared := (stretches.flatMap events).countP (·.flag.isSome)
      skipped := (stretches.flatMap events).countP (·.flag.isNone)
      mismatches := (contradicting expected events stretches).length
      firstMismatch := (contradicting expected events stretches).head?.map (·.sequence) } := by
  induction stretches with
  | nil => rfl
  | cons a rest ih =>
    rw [List.map_cons, mergeAll_cons, ih]
    simp only [ofEvents, merge, contradicting, List.flatMap_cons, List.countP_append,
      List.length_append, List.head?_append, Option.map_or, ← List.countP_eq_length_filter,
      List.head?_filter]

end Consistency

end ExposureBench
