import ExposureBench.Control.Failure
import Mathlib

namespace ExposureBench.Attempt

variable {σ τ α β : Type}

/-- A failure ends a sequence of steps, and what was done before it stays done. -/
theorem bind_apply (act : Attempt σ α) (next : α → Attempt σ β) (s : σ) :
    (act >>= next) s = match act s with
      | (.ok a, s') => next a s'
      | (.error failure, s') => (.error failure, s') := by
  have unfolded : (act >>= next) s = ExceptT.bindCont next (act s).1 (act s).2 := rfl
  rw [unfolded]
  rcases act s with ⟨_ | _, _⟩ <;> rfl

theorem bind_of_ok {act : Attempt σ α} {next : α → Attempt σ β} {s s' : σ} {a : α}
    (done : act s = (.ok a, s')) : (act >>= next) s = next a s' := by
  rw [bind_apply, done]

theorem bind_of_error {act : Attempt σ α} {next : α → Attempt σ β} {s s' : σ}
    {failure : Failure} (failed : act s = (.error failure, s')) :
    (act >>= next) s = (.error failure, s') := by
  rw [bind_apply, failed]

theorem ok_of_bind {act : Attempt σ α} {next : α → Attempt σ β} {s s'' : σ} {b : β}
    (done : (act >>= next) s = (.ok b, s'')) :
    ∃ a s', act s = (.ok a, s') ∧ next a s' = (.ok b, s'') := by
  rw [bind_apply] at done
  rcases ran : act s with ⟨failure | a, s'⟩
  · rw [ran] at done
    cases done
  · rw [ran] at done
    exact ⟨a, s', rfl, done⟩

theorem error_of_bind {act : Attempt σ α} {next : α → Attempt σ β} {s : σ} {failure : Failure}
    (failed : ((act >>= next) s).1 = .error failure) :
    (act s).1 = .error failure ∨ ∃ a s', act s = (.ok a, s') ∧ (next a s').1 = .error failure := by
  rw [bind_apply] at failed
  rcases ran : act s with ⟨failure' | a, s'⟩ <;> rw [ran] at failed
  · cases failed
    exact .inl rfl
  · exact .inr ⟨a, s', rfl, failed⟩

theorem ite_apply (p : Prop) [Decidable p] (act act' : Attempt σ α) (s : σ) :
    (if p then act else act') s = if p then act s else act' s := by
  split <;> rfl

@[simp] theorem map_apply (f : α → β) (act : Attempt σ α) (s : σ) :
    (f <$> act) s = ((act s).1.map f, (act s).2) := by
  rw [map_eq_pure_bind, bind_apply]
  rcases act s with ⟨_ | _, _⟩ <;> rfl

theorem ok_of_map {f : α → β} {act : Attempt σ α} {s s' : σ} {b : β}
    (done : (f <$> act) s = (.ok b, s')) :
    ∃ a, act s = (.ok a, s') ∧ f a = b := by
  rw [map_apply] at done
  rcases ran : act s with ⟨failure | a, s''⟩
  · rw [ran] at done
    cases done
  · rw [ran] at done
    cases done
    exact ⟨a, rfl, rfl⟩

theorem error_of_map {f : α → β} {act : Attempt σ α} {s : σ} {failure : Failure}
    (failed : ((f <$> act) s).1 = .error failure) : (act s).1 = .error failure := by
  rw [map_apply] at failed
  rcases ran : act s with ⟨failure' | a, s'⟩ <;> rw [ran] at failed
  · cases failed
    rfl
  · cases failed

@[simp] theorem pure_apply (a : α) (s : σ) : (pure a : Attempt σ α) s = (.ok a, s) := rfl

@[simp] theorem get_apply (s : σ) : (get : Attempt σ σ) s = (.ok s, s) := rfl

@[simp] theorem set_apply (s s' : σ) : (set s' : Attempt σ PUnit) s = (.ok ⟨⟩, s') := rfl

@[simp] theorem modify_apply (f : σ → σ) (s : σ) :
    (modify f : Attempt σ PUnit) s = (.ok ⟨⟩, f s) := rfl

@[simp] theorem throw_apply (failure : Failure) (s : σ) :
    (throw failure : Attempt σ α) s = (.error failure, s) := rfl

@[simp] theorem refuse_apply (step : Refused) (s : σ) :
    (refuse step : Attempt σ α) s = (.error (.refused step), s) := rfl

@[simp] theorem quietly_apply (act : Attempt σ Unit) (s : σ) :
    quietly act s = (.ok (), (act s).2) := rfl

@[simp] theorem within_apply (part : σ → τ) (replace : σ → τ → σ) (act : Attempt τ α) (s : σ) :
    within part replace act s = ((act (part s)).1, replace s (act (part s)).2) := rfl

@[simp] theorem ofCall_apply (call : σ → Except DeviceFault α × σ) (s : σ) :
    ofCall call s = ((call s).1.mapError .device, (call s).2) := rfl

@[simp] theorem ofExcept_apply (outcome : Except DeviceFault α) (s : σ) :
    (ofExcept outcome : Attempt σ α) s = (outcome.mapError .device, s) := rfl

theorem within_bind (part : σ → τ) (replace : σ → τ → σ) (replaced : ∀ s t, part (replace s t) = t)
    (overwritten : ∀ s t t', replace (replace s t) t' = replace s t') (act : Attempt τ α)
    (next : α → Attempt τ β) :
    within part replace (act >>= next) = within part replace act >>= fun a =>
      within part replace (next a) := by
  funext s
  rw [within_apply, bind_apply, bind_apply, within_apply]
  rcases act (part s) with ⟨failure | a, t⟩
  · rfl
  · dsimp only
    rw [within_apply, replaced, overwritten]

/-- From `P`, a success of the attempt leads to `Q`, and a failure to `E`. -/
def Triple (P : σ → Prop) (act : Attempt σ α) (Q : α → σ → Prop) (E : σ → Prop) : Prop :=
  ∀ s, P s → match act s with
    | (.ok a, s') => Q a s'
    | (.error _, s') => E s'

namespace Triple

variable {P : σ → Prop} {Q : α → σ → Prop} {R : β → σ → Prop} {E : σ → Prop}

theorem pure {a : α} (holds : ∀ s, P s → Q a s) : Triple P (Pure.pure a) Q E := holds

theorem bind {act : Attempt σ α} {next : α → Attempt σ β} (head : Triple P act Q E)
    (tail : ∀ a, Triple (Q a) (next a) R E) : Triple P (act >>= next) R E := by
  intro s start
  have first := head s start
  rw [bind_apply]
  generalize act s = result at first
  rcases result with ⟨failure | a, s'⟩
  · exact first
  · exact tail a s' first

end Triple

end ExposureBench.Attempt
