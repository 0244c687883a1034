import ExposureBench.Proofs.Attempt

/-! Two attempts side by side, from related states to related states. -/

namespace ExposureBench.Attempt

variable {σ σ' τ τ' α α' β β' : Type}

/-- The same failure, or answers that are related. -/
inductive Alike (Q : α → α' → Prop) : Except Failure α → Except Failure α' → Prop
  | failed (failure : Failure) : Alike Q (.error failure) (.error failure)
  | done {a : α} {a' : α'} (related : Q a a') : Alike Q (.ok a) (.ok a')

theorem Alike.eq {outcome outcome' : Except Failure α} (alike : Alike Eq outcome outcome') :
    outcome = outcome' := by
  cases alike with
  | failed failure => rfl
  | done same => rw [same]

theorem Alike.of_eq {outcome outcome' : Except Failure α} (same : outcome = outcome') :
    Alike Eq outcome outcome' := by
  subst same
  cases outcome with
  | error failure => exact .failed failure
  | ok a => exact .done rfl

def InStep (R : σ → σ' → Prop) (Q : α → α' → Prop) (act : Attempt σ α) (act' : Attempt σ' α') :
    Prop :=
  ∀ s s', R s s' → Alike Q (act s).1 (act' s').1 ∧ R (act s).2 (act' s').2

namespace InStep

variable {R : σ → σ' → Prop} {Q : α → α' → Prop} {Q' : β → β' → Prop}

theorem pure {a : α} {a' : α'} (related : Q a a') : InStep R Q (Pure.pure a) (Pure.pure a') :=
  fun _ _ states => ⟨.done related, states⟩

theorem throw (failure : Failure) :
    InStep R Q (MonadExcept.throw failure) (MonadExcept.throw failure) :=
  fun _ _ states => ⟨.failed failure, states⟩

theorem get : InStep R R MonadState.get MonadState.get := fun _ _ states => ⟨.done states, states⟩

theorem set {s : σ} {s' : σ'} (states : R s s') :
    InStep R Eq (MonadStateOf.set s : Attempt σ PUnit) (MonadStateOf.set s') :=
  fun _ _ _ => ⟨.done rfl, states⟩

theorem modify {f : σ → σ} {f' : σ' → σ'} (keeps : ∀ s s', R s s' → R (f s) (f' s')) :
    InStep R Eq (modify f : Attempt σ PUnit) (modify f') :=
  fun s s' states => ⟨.done rfl, keeps s s' states⟩

theorem ofExcept {outcome outcome' : Except DeviceFault α} (same : outcome = outcome') :
    InStep R Eq (Attempt.ofExcept outcome) (Attempt.ofExcept outcome') :=
  fun _ _ states => ⟨.of_eq (by rw [same, ofExcept_apply, ofExcept_apply]), states⟩

theorem bind {act : Attempt σ α} {act' : Attempt σ' α'} {next : α → Attempt σ β}
    {next' : α' → Attempt σ' β'} (head : InStep R Q act act')
    (tail : ∀ a a', Q a a' → InStep R Q' (next a) (next' a')) :
    InStep R Q' (act >>= next) (act' >>= next') := by
  intro s s' states
  obtain ⟨answers, after⟩ := head s s' states
  rw [bind_apply, bind_apply]
  generalize act s = result, act' s' = result' at answers after
  rcases result with ⟨outcome, t⟩
  rcases result' with ⟨outcome', t'⟩
  cases answers with
  | failed failure => exact ⟨.failed failure, after⟩
  | done related => exact tail _ _ related t t' after

theorem bind_eq {act : Attempt σ α} {act' : Attempt σ' α} {next : α → Attempt σ β}
    {next' : α → Attempt σ' β'} (head : InStep R Eq act act')
    (tail : ∀ a, InStep R Q' (next a) (next' a)) :
    InStep R Q' (act >>= next) (act' >>= next') := by
  apply head.bind
  rintro a _ rfl
  exact tail a

theorem ite {p p' : Prop} [Decidable p] [Decidable p'] {act other : Attempt σ α}
    {act' other' : Attempt σ' α'} (same : p ↔ p') (pos : InStep R Q act act')
    (neg : InStep R Q other other') :
    InStep R Q (if p then act else other) (if p' then act' else other') := by
  by_cases holds : p
  · rw [if_pos holds, if_pos (same.mp holds)]
    exact pos
  · rw [if_neg holds, if_neg fun holds' => holds (same.mpr holds')]
    exact neg

theorem within {S : τ → τ' → Prop} {part : τ → σ} {part' : τ' → σ'} {replace : τ → σ → τ}
    {replace' : τ' → σ' → τ'} {act : Attempt σ α} {act' : Attempt σ' α'}
    (inner : InStep R Q act act')
    (parts : ∀ t t', S t t' → R (part t) (part' t'))
    (replaced : ∀ t t' s s', S t t' → R s s' → S (replace t s) (replace' t' s')) :
    InStep S Q (Attempt.within part replace act) (Attempt.within part' replace' act') := by
  intro t t' states
  obtain ⟨answers, after⟩ := inner _ _ (parts t t' states)
  exact ⟨answers, replaced t t' _ _ states after⟩

end InStep

end ExposureBench.Attempt
