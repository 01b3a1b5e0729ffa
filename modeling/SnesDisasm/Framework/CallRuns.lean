import Mathlib.Data.List.Basic

/-!
# Runs through a list of calls

An observation that every call overwrites or leaves alone shows the last value written.
-/

namespace CallRuns

variable {σ τ α β : Type}

/-- The last value that an item of the list writes. -/
def lastWritten (writes : α → Option β) (as : List α) : Option β := (as.filterMap writes).getLast?

/-- Every call together with the state that it finds. -/
def history (step : σ → α → σ) : σ → List α → List (σ × α)
  | _, [] => []
  | s, a :: as => (s, a) :: history step (step s a) as

def EveryCall (P : List α → α → Prop) (as : List α) : Prop :=
  ∀ before a after, as = before ++ a :: after → P before a

section LastWritten

variable {writes : α → Option β}

theorem lastWritten_cons (a : α) (as : List α) :
    lastWritten writes (a :: as) = (lastWritten writes as).or (writes a) := by
  unfold lastWritten
  cases ha : writes a with
  | none => rw [List.filterMap_cons_none ha, Option.or_none]
  | some b =>
    rw [List.filterMap_cons_some ha, List.getLast?_cons]
    cases (as.filterMap writes).getLast? <;> rfl

theorem history_map_snd (step : σ → α → σ) (s : σ) (as : List α) :
    (history step s as).map Prod.snd = as := by
  induction as generalizing s with
  | nil => rfl
  | cons a as ih => rw [history, List.map_cons, ih]

theorem lastWritten_history (step : σ → α → σ) (s : σ) (as : List α) :
    lastWritten (fun call : σ × α => writes call.2) (history step s as) = lastWritten writes as := by
  unfold lastWritten
  conv_rhs => rw [← history_map_snd step s as, List.filterMap_map]
  rfl

end LastWritten

section Cell

variable (step : σ → α → σ) (get : σ → β)

/-- A cell shows the last value that a call has written to it. -/
theorem cell_eq_lastWritten {writes : σ × α → Option β}
    (hstep : ∀ s a, get (step s a) = (writes (s, a)).getD (get s)) (s : σ) (as : List α) :
    get (as.foldl step s) = (lastWritten writes (history step s as)).getD (get s) := by
  induction as generalizing s with
  | nil => rfl
  | cons a as ih =>
    rw [List.foldl_cons, ih, hstep, history, lastWritten_cons]
    cases lastWritten writes (history step (step s a) as) <;> rfl

theorem cell_eq_lastWritten_of_call {writes : α → Option β}
    (hstep : ∀ s a, get (step s a) = (writes a).getD (get s)) (s : σ) (as : List α) :
    get (as.foldl step s) = (lastWritten writes as).getD (get s) := by
  have hcall : ∀ s a, get (step s a) =
      ((fun call : σ × α => writes call.2) (s, a)).getD (get s) := hstep
  rw [← lastWritten_history step s as]
  exact cell_eq_lastWritten step get hcall s as

end Cell

section Related

variable {step : σ → α → σ} {step' : τ → α → τ} {R : σ → τ → Prop}

theorem related_filter {seen : α → Bool}
    (hseen : ∀ s t a, seen a = true → R s t → R (step s a) (step' t a))
    (hunseen : ∀ s t a, seen a = false → R s t → R (step s a) t) {s : σ} {t : τ} (h : R s t)
    (as : List α) : R (as.foldl step s) ((as.filter seen).foldl step' t) := by
  induction as generalizing s t with
  | nil => exact h
  | cons a as ih =>
    cases ha : seen a with
    | false =>
      rw [List.filter_cons_of_neg (by simp [ha])]
      exact ih (hunseen s t a ha h)
    | true =>
      rw [List.filter_cons_of_pos ha]
      exact ih (hseen s t a ha h)

theorem related_map {rename : α → α}
    (hstep : ∀ s t a, R s t → R (step s a) (step' t (rename a))) {s : σ} {t : τ} (h : R s t)
    (as : List α) : R (as.foldl step s) ((as.map rename).foldl step' t) := by
  induction as generalizing s t with
  | nil => exact h
  | cons a as ih => exact ih (hstep s t a h)

theorem related_foldlM {ε : Type} {step : σ → α → Except ε σ}
    (hstep : ∀ s t a, R s t → ∃ s', step s a = .ok s' ∧ R s' (step' t a)) {s : σ} {t : τ}
    (h : R s t) (as : List α) : ∃ s', as.foldlM step s = .ok s' ∧ R s' (as.foldl step' t) := by
  induction as generalizing s t with
  | nil => exact ⟨s, rfl, h⟩
  | cons a as ih =>
    obtain ⟨next, hnext, hrelated⟩ := hstep s t a h
    obtain ⟨last, hlast, hlastRelated⟩ := ih hrelated
    refine ⟨last, ?_, hlastRelated⟩
    rw [List.foldlM_cons, hnext]
    exact hlast

end Related

theorem everyCall_nil {P : List α → α → Prop} : EveryCall P [] := by
  intro before a after h
  simp at h

theorem everyCall_concat_iff {P : List α → α → Prop} {as : List α} {a : α} :
    EveryCall P (as ++ [a]) ↔ EveryCall P as ∧ P as a := by
  constructor
  · intro h
    refine ⟨?_, h as a [] rfl⟩
    intro before b after has
    exact h before b (after ++ [a]) (by rw [has, List.append_assoc, List.cons_append])
  · intro h before b after has
    rcases List.eq_nil_or_concat after with hnil | ⟨after', c, hlast⟩
    · rw [hnil] at has
      obtain ⟨hbefore, hcall⟩ := List.append_inj' has rfl
      obtain rfl : a = b := by simpa using hcall
      rw [← hbefore]
      exact h.2
    · rw [hlast, List.concat_eq_append, ← List.cons_append, ← List.append_assoc] at has
      exact h.1 before b after' (List.append_inj_left' has rfl)

end CallRuns
