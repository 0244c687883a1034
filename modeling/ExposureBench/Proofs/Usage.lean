import ExposureBench.Proofs.Plan

namespace ExposureBench

namespace Phase

variable {p : Phase}

theorem not_canTransition_of_isStalled (stalled : p.isStalled) (next : Phase) :
    ¬ p.canTransition next := by
  cases p with
  | stalled => simp [canTransition]
  | _ => cases stalled

theorem not_isSettled_of_isStalled (stalled : p.isStalled) : ¬ p.isSettled := by
  cases p with
  | stalled => simp [isSettled]
  | _ => cases stalled

theorem canTransition_stalled_iff {requested observed : Nat} :
    p.canTransition (.stalled requested observed) ↔ ¬ (p = .idle ∨ p.isStalled) := by
  cases p <;> simp [canTransition, isStalled]

theorem canTransition_stalled_of_isSettled (settled : p.isSettled) (requested observed : Nat) :
    p.canTransition (.stalled requested observed) := by
  cases p with
  | settled => rfl
  | _ => cases settled

end Phase

/-- Operations, each with the milliseconds that pass before it is asked for. -/
abbrev Usage := List (Nat × Operation)

abbrev Controller.slept (c : Controller) (ms : Nat) : Controller := c.withBench (c.bench.sleep ms)

namespace Usage

/-- Unlike a plan, a usage goes on after a failure. -/
def steps : Usage → Controller → List Plan.Step
  | [], _ => []
  | (ms, op) :: rest, c => ⟨op, c.slept ms⟩ :: steps rest (Plan.Step.after ⟨op, c.slept ms⟩)

def moments (usage : Usage) (c : Controller) : List Controller :=
  c :: (usage.steps c).flatMap fun s => [s.before, s.after]

theorem moments_cons (ms : Nat) (op : Operation) (rest : Usage) (c : Controller) :
    moments ((ms, op) :: rest) c =
      c :: c.slept ms :: moments rest (Plan.Step.after ⟨op, c.slept ms⟩) := rfl

theorem before_mem_moments {usage : Usage} {c : Controller} {s : Plan.Step}
    (member : s ∈ usage.steps c) : s.before ∈ usage.moments c := by
  apply List.mem_cons_of_mem
  exact List.mem_flatMap.mpr ⟨s, member, List.mem_cons_self⟩

theorem steps_eq_cons {usage : Usage} {c : Controller} {s : Plan.Step} {rest : List Plan.Step}
    (split : usage.steps c = s :: rest) :
    (∃ ms, s.before = c.slept ms) ∧ ∃ later : Usage, rest = later.steps s.after := by
  cases usage with
  | nil => cases split
  | cons entry later =>
    cases split
    exact ⟨⟨entry.1, rfl⟩, later, rfl⟩

theorem steps_eq_append {usage : Usage} {c : Controller} {first rest : List Plan.Step}
    {s : Plan.Step} (split : usage.steps c = first ++ s :: rest) :
    ∃ later : Usage, rest = later.steps s.after := by
  induction first generalizing usage c with
  | nil => exact (steps_eq_cons split).2
  | cons t others ih =>
    obtain ⟨later, onward⟩ := (steps_eq_cons split).2
    exact ih onward.symm

theorem moments_pairwise {R : Controller → Controller → Prop}
    (trans : ∀ {c c' c''}, R c c' → R c' c'' → R c c'') (sleeps : ∀ c ms, R c (c.slept ms))
    (usage : Usage) (c : Controller) (steps : ∀ s ∈ usage.steps c, R s.before s.after) :
    (usage.moments c).Pairwise R := by
  have : Trans R R R := ⟨trans⟩
  -- In a preorder it is enough to go from each moment to the next.
  apply List.IsChain.pairwise
  induction usage generalizing c with
  | nil => exact List.isChain_singleton c
  | cons entry rest ih =>
    obtain ⟨ms, op⟩ := entry
    obtain ⟨first, others⟩ := List.forall_mem_cons.mp steps
    rw [moments_cons]
    exact .cons_cons (sleeps c ms) (.cons_cons first (ih _ others))

end Usage

end ExposureBench
