import ExposureBench.Proofs.Operation

namespace ExposureBench

abbrev Plan := List Operation

namespace Plan

def run : Plan → Attempt Controller Unit
  | [] => return ()
  | op :: rest => do
    let _ ← op.run
    run rest

theorem run_cons (op : Operation) (rest : Plan) (c : Controller) :
    run (op :: rest) c = match op.run c with
      | (.ok _, c') => run rest c'
      | (.error failure, c') => (.error failure, c') := by
  rw [run, Attempt.bind_apply]
  rcases op.run c with ⟨_ | _, _⟩ <;> rfl

theorem run_append (first second : Plan) (c : Controller) :
    run (first ++ second) c = match run first c with
      | (.ok _, c') => run second c'
      | (.error failure, c') => (.error failure, c') := by
  induction first generalizing c with
  | nil => rfl
  | cons op rest ih =>
    rw [List.cons_append, run_cons, run_cons]
    rcases op.run c with ⟨_ | _, c'⟩
    · rfl
    · exact ih c'

theorem run_leaves {J K : Controller → Prop} (plan : Plan)
    (goes : ∀ op ∈ plan, ∀ c, J c → ∀ r c', op.run c = (.ok r, c') → J c')
    (fails : ∀ op ∈ plan, ∀ c, J c → ∀ failure c', op.run c = (.error failure, c') → K c')
    (ends : ∀ c, J c → K c) (c : Controller) (start : J c) :
    K (plan.run c).2 := by
  induction plan generalizing c with
  | nil => exact ends c start
  | cons op rest ih =>
    obtain ⟨first, others⟩ := List.forall_mem_cons.mp goes
    rw [run_cons]
    rcases ran : op.run c with ⟨failure | r, c'⟩
    · exact fails op List.mem_cons_self c start failure c' ran
    · exact ih others (fun op' member => fails op' (List.mem_cons_of_mem op member)) c'
        (first c start r c' ran)

/-- An operation with the controller that it found. -/
structure Step where
  operation : Operation
  before : Controller

namespace Step

def outcome (s : Step) : Except Failure Operation.Reply := (s.operation.run s.before).1

def after (s : Step) : Controller := (s.operation.run s.before).2

def window? (s : Step) : Option Window :=
  match s.outcome with
  | .ok (.window w) => some w
  | _ => none

end Step

def steps : Plan → Controller → List Step
  | [], _ => []
  | op :: rest, c =>
    ⟨op, c⟩ :: match op.run c with
      | (.ok _, c') => steps rest c'
      | (.error _, _) => []

theorem steps_cons_of_ok {op : Operation} {c c' : Controller} {r : Operation.Reply} (rest : Plan)
    (done : op.run c = (.ok r, c')) : steps (op :: rest) c = ⟨op, c⟩ :: steps rest c' := by
  rw [steps, done]

theorem steps_cons_of_error {op : Operation} {c c' : Controller} {failure : Failure} (rest : Plan)
    (failed : op.run c = (.error failure, c')) : steps (op :: rest) c = [⟨op, c⟩] := by
  rw [steps, failed]

theorem steps_singleton (op : Operation) (c : Controller) : steps [op] c = [⟨op, c⟩] := by
  rw [steps]
  rcases op.run c with ⟨_ | _, _⟩ <;> rfl

theorem steps_append (first second : Plan) (c : Controller) :
    steps (first ++ second) c = steps first c ++ match run first c with
      | (.ok _, c') => steps second c'
      | (.error _, _) => [] := by
  induction first generalizing c with
  | nil => rfl
  | cons op rest ih =>
    rw [List.cons_append, run_cons]
    rcases ran : op.run c with ⟨failure | r, c'⟩
    · rw [steps_cons_of_error _ ran, steps_cons_of_error _ ran]
      rfl
    · rw [steps_cons_of_ok _ ran, steps_cons_of_ok _ ran, ih c']
      rfl

/-- All that a plan comes to lies one after another in a preorder of controllers. -/
structure Advances (R : Controller → Controller → Prop) (plan : Plan) (c : Controller) : Prop where
  whole : R c (plan.run c).2
  before : ∀ s ∈ plan.steps c, R c s.before
  during : ∀ s ∈ plan.steps c, R s.before s.after
  after : ∀ s ∈ plan.steps c, R s.after (plan.run c).2
  apart : (plan.steps c).Pairwise fun s s' => R s.after s'.before

theorem advances {R : Controller → Controller → Prop} (refl : ∀ c, R c c)
    (trans : ∀ {c c' c''}, R c c' → R c' c'' → R c c'') (plan : Plan)
    (advance : ∀ op ∈ plan, ∀ c, R c (op.run c).2) (c : Controller) : plan.Advances R c := by
  induction plan generalizing c with
  | nil => exact ⟨refl c, by simp [steps], by simp [steps], by simp [steps], List.Pairwise.nil⟩
  | cons op rest ih =>
    obtain ⟨here, others⟩ := List.forall_mem_cons.mp advance
    have first := here c
    rcases ran : op.run c with ⟨failure | r, c'⟩ <;> rw [ran] at first
    · have after : Step.after ⟨op, c⟩ = c' := by rw [Step.after, ran]
      have result : (run (op :: rest) c).2 = c' := by rw [run_cons, ran]
      refine ⟨result ▸ first, ?_, ?_, ?_, ?_⟩ <;> rw [steps_cons_of_error rest ran]
      · exact List.forall_mem_singleton.mpr (refl c)
      · exact List.forall_mem_singleton.mpr (after.symm ▸ first)
      · exact List.forall_mem_singleton.mpr (by rw [after, result]; exact refl c')
      · exact List.pairwise_singleton _ _
    · have later := ih others c'
      have after : Step.after ⟨op, c⟩ = c' := by rw [Step.after, ran]
      have result : (run (op :: rest) c).2 = (run rest c').2 := by rw [run_cons, ran]
      refine ⟨?_, ?_, ?_, ?_, ?_⟩
      · rw [result]
        exact trans first later.whole
      all_goals rw [steps_cons_of_ok rest ran]
      · exact List.forall_mem_cons.mpr ⟨refl c, fun s member => trans first (later.before s member)⟩
      · exact List.forall_mem_cons.mpr ⟨after.symm ▸ first, later.during⟩
      · rw [result]
        exact List.forall_mem_cons.mpr ⟨after.symm ▸ later.whole, later.after⟩
      · exact List.pairwise_cons.mpr ⟨after.symm ▸ later.before, later.apart⟩

end Plan

/-- An attempt on a larger state that does to its controller what a plan does. -/
def Attempt.Follows {σ α : Type} (part : σ → Controller) (act : Attempt σ α) (plan : Plan) (s : σ) :
    Prop :=
  ((act s).1.map fun _ => (), part (act s).2) = plan.run (part s)

namespace Attempt.Follows

variable {σ α β : Type} {part : σ → Controller}

theorem pure (a : α) (s : σ) : Follows part (Pure.pure a) [] s := rfl

theorem get (s : σ) : Follows part get [] s := rfl

theorem modify {f : σ → σ} (s : σ) (same : part (f s) = part s) : Follows part (modify f) [] s := by
  simp only [Follows, modify_apply, same]
  rfl

theorem op {act : Attempt Controller α} {f : α → Operation.Reply} (op : Operation)
    (runs : op.run = f <$> act) {replace : σ → Controller → σ}
    (replaced : ∀ s c, part (replace s c) = c) (s : σ) :
    Follows part (within part replace act) [op] s := by
  rw [Follows, Plan.run_cons, runs, map_apply, within_apply]
  simp only [replaced]
  rcases act (part s) with ⟨_ | _, _⟩ <;> rfl

theorem bind {act : Attempt σ α} {next : α → Attempt σ β} {first second : Plan} {s : σ}
    (head : Follows part act first s)
    (tail : ∀ a s', act s = (.ok a, s') → Follows part (next a) second s') :
    Follows part (act >>= next) (first ++ second) s := by
  unfold Follows at head ⊢
  rw [Plan.run_append, ← head]
  rcases ran : act s with ⟨failure | a, s'⟩
  · rw [bind_of_error ran]
    rfl
  · rw [bind_of_ok ran]
    exact tail a s' ran

theorem unit {act : Attempt σ Unit} {plan : Plan} {s : σ} (follows : Follows part act plan s) :
    ((act s).1, part (act s).2) = plan.run (part s) := by
  rw [← follows]
  rcases act s with ⟨_ | _, _⟩ <;> rfl

end Attempt.Follows

/-- An attempt that follows a plan, keeps something of its controller, and has noted the steps of
the plan in a book when it ends, however it ends. -/
structure Attempt.Notes {σ ν α : Type} (part : σ → Controller) (book : σ → ν)
    (note : ν → Plan.Step → ν) (Keeps : Controller → Prop) (act : Attempt σ α) (plan : Plan)
    (s : σ) : Prop where
  follows : Follows part act plan s
  keeps : Keeps (part (act s).2)
  noted : book (act s).2 = (plan.steps (part s)).foldl note (book s)

namespace Attempt.Notes

variable {σ ν α β : Type} {part : σ → Controller} {book : σ → ν} {note : ν → Plan.Step → ν}
    {Keeps : Controller → Prop} {s : σ}

theorem pure (kept : Keeps (part s)) (a : α) :
    Notes part book note Keeps (Pure.pure a) [] s :=
  ⟨Follows.pure a s, kept, rfl⟩

theorem bind {act : Attempt σ α} {next : α → Attempt σ β} {first second : Plan}
    (head : Notes part book note Keeps act first s)
    (tail : ∀ a s', act s = (.ok a, s') → Keeps (part s') →
      Notes part book note Keeps (next a) second s') :
    Notes part book note Keeps (act >>= next) (first ++ second) s := by
  have follows := head.follows
  have kept := head.keeps
  have noted := head.noted
  rcases ran : act s with ⟨failure | a, s'⟩ <;> rw [ran] at kept noted
  · refine ⟨follows.bind fun a s' done => ?_, ?_, ?_⟩
    · rw [ran] at done
      cases done
    · rw [bind_of_error ran]
      exact kept
    · unfold Follows at follows
      rw [bind_of_error ran, Plan.steps_append, ← follows, ran]
      simpa [Except.map] using noted
  · have later := tail a s' ran kept
    refine ⟨follows.bind fun a' s'' done => ?_, ?_, ?_⟩
    · rw [ran] at done
      cases done
      exact later.follows
    · rw [bind_of_ok ran]
      exact later.keeps
    · unfold Follows at follows
      rw [bind_of_ok ran, Plan.steps_append, ← follows, ran, List.foldl_append, ← noted]
      exact later.noted

theorem op {act : Attempt Controller α} {f : α → Operation.Reply} (op : Operation)
    (runs : op.run = f <$> act) {replace : σ → Controller → σ}
    (replaced : ∀ s c, part (replace s c) = c) (booked : ∀ s c, book (replace s c) = book s)
    (silent : note (book s) ⟨op, part s⟩ = book s) (kept : Keeps (act (part s)).2) :
    Notes part book note Keeps (within part replace act) [op] s := by
  refine ⟨Follows.op op runs replaced s, ?_, ?_⟩
  · rw [within_apply, replaced]
    exact kept
  · rw [Plan.steps_singleton, within_apply, booked]
    exact silent.symm

end Attempt.Notes

end ExposureBench
