/-!
# Simulation of computations that may fail
-/

namespace Simulation

variable {ε ε' σ σ' τ τ' α : Type}

/-- The first computation follows the second one. -/
inductive Simulates (R : σ → τ → Prop) (sameError : ε → ε' → Prop) (excused : ε → Prop) :
    Except ε σ → Except ε' τ → Prop
  | ok {s : σ} {t : τ} (related : R s t) : Simulates R sameError excused (.ok s) (.ok t)
  | error {e : ε} {e' : ε'} (same : sameError e e') :
      Simulates R sameError excused (.error e) (.error e')
  | excused {e : ε} (h : excused e) (result : Except ε' τ) :
      Simulates R sameError excused (.error e) result

variable {R : σ → τ → Prop} {Q : σ' → τ' → Prop} {sameError : ε → ε' → Prop} {excused : ε → Prop}

theorem Simulates.of_ok {s : σ} {result : Except ε' τ}
    (h : Simulates R sameError excused (.ok s) result) : ∃ t, result = .ok t ∧ R s t := by
  cases h with
  | ok related => exact ⟨_, rfl, related⟩

theorem Simulates.of_error {e : ε} {result : Except ε' τ}
    (h : Simulates R sameError excused (.error e) result) :
    excused e ∨ ∃ e', result = .error e' ∧ sameError e e' := by
  cases h with
  | error same => exact Or.inr ⟨_, rfl, same⟩
  | excused h => exact Or.inl h

theorem Simulates.bind {first : Except ε σ} {first' : Except ε' τ} {rest : σ → Except ε σ'}
    {rest' : τ → Except ε' τ'} (h : Simulates R sameError excused first first')
    (hrest : ∀ s t, R s t → Simulates Q sameError excused (rest s) (rest' t)) :
    Simulates Q sameError excused (first >>= rest) (first' >>= rest') := by
  cases h with
  | ok related => exact hrest _ _ related
  | error same => exact .error same
  | excused h result => exact .excused h _

theorem Simulates.foldlM {step : σ → α → Except ε σ} {step' : τ → α → Except ε' τ}
    (hstep : ∀ s t a, R s t → Simulates R sameError excused (step s a) (step' t a)) {s : σ} {t : τ}
    (h : R s t) (as : List α) :
    Simulates R sameError excused (as.foldlM step s) (as.foldlM step' t) := by
  induction as generalizing s t with
  | nil => exact .ok h
  | cons a as ih =>
    rw [List.foldlM_cons, List.foldlM_cons]
    apply (hstep s t a h).bind
    intro s' t' hnext
    exact ih hnext

end Simulation
