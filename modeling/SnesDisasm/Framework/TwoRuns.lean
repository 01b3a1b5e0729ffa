import SnesDisasm.Framework.Passes

/-!
# Two runs of a fetch loop

Loops whose states stay related fetch the same items, up to the first difference.
-/

namespace FetchLoop

variable {ε σ τ α : Type}

theorem Fetches.append {next : σ → Except ε (α × σ)} {s t u : σ} {as bs : List α}
    (first : Fetches next s as t) (second : Fetches next t bs u) : Fetches next s (as ++ bs) u := by
  induction first with
  | nil s => exact second
  | cons head _ ih => exact .cons head (ih second)

section Agreement

variable {next : σ → Except ε (α × σ)} {next' : τ → Except ε (α × τ)} {R : σ → τ → Prop}
  {stop : α → Bool}

def Coupled (next : σ → Except ε (α × σ)) (next' : τ → Except ε (α × τ)) (R : σ → τ → Prop) : Prop :=
  ∀ {s t a s' t'}, R s t → next s = .ok (a, s') → next' t = .ok (a, t') → R s' t'

/-- Fetches from related states that both succeed give one item and related states. -/
structure Agree (next : σ → Except ε (α × σ)) (next' : τ → Except ε (α × τ)) (R : σ → τ → Prop) :
    Prop where
  item_eq : ∀ {s t a b s' t'}, R s t → next s = .ok (a, s') → next' t = .ok (b, t') → a = b
  coupled : Coupled next next' R

/-- Two runs have the same items, or a first pair of states in which they fetch different ones. -/
theorem Fetches.part (hcoupled : Coupled next next' R) {s s' : σ} {t t' : τ} {as bs : List α}
    {n : Nat} (run : Fetches next s as s') (run' : Fetches next' t bs t') (hrelated : R s t)
    (hdone : Completed stop n as) (hdone' : Completed stop n bs) :
    (as = bs ∧ R s' t') ∨ ∃ (front : List α) (a b : α) (as' bs' : List α) (u v : σ) (u' v' : τ),
      as = front ++ a :: as' ∧ bs = front ++ b :: bs' ∧ a ≠ b ∧ R u u' ∧
        next u = .ok (a, v) ∧ next' u' = .ok (b, v') := by
  induction run generalizing t bs n with
  | nil s =>
    cases n with
    | zero =>
      rw [completed_zero_iff] at hdone'
      subst hdone'
      cases run'
      exact Or.inl ⟨rfl, hrelated⟩
    | succ n => exact absurd rfl hdone.ne_nil
  | @cons s u s' a as head tail ih =>
    cases n with
    | zero => exact absurd (completed_zero_iff.mp hdone) (List.cons_ne_nil _ _)
    | succ n =>
      cases run' with
      | nil => exact absurd rfl hdone'.ne_nil
      | @cons _ u' _ b bs head' tail' =>
        by_cases hab : a = b
        · subst hab
          have hnext := hcoupled hrelated head head'
          rw [completed_cons_iff] at hdone hdone'
          by_cases ha : stop a = true
          · rw [if_pos ha] at hdone hdone'
            subst hdone hdone'
            cases tail
            cases tail'
            exact Or.inl ⟨rfl, hnext⟩
          · rw [if_neg ha] at hdone hdone'
            rcases ih tail' hnext hdone hdone' with hsame | hpart
            · exact Or.inl ⟨by rw [hsame.1], hsame.2⟩
            · obtain ⟨front, x, y, as', bs', w, v, w', v', rfl, rfl, hrest⟩ := hpart
              exact Or.inr ⟨a :: front, x, y, as', bs', w, v, w', v', rfl, rfl, hrest⟩
        · exact Or.inr ⟨[], a, b, as, bs, s, u, t, u', rfl, rfl, hab, hrelated, head, head'⟩

theorem Fetches.agree (hagree : Agree next next' R) {s s' : σ} {t t' : τ} {as bs : List α} {n : Nat}
    (run : Fetches next s as s') (run' : Fetches next' t bs t') (hrelated : R s t)
    (hdone : Completed stop n as) (hdone' : Completed stop n bs) : as = bs ∧ R s' t' := by
  rcases run.part hagree.coupled run' hrelated hdone hdone' with hsame | hpart
  · exact hsame
  · obtain ⟨_, a, b, _, _, _, _, _, _, _, _, hne, hboth, hfetch, hfetch'⟩ := hpart
    exact absurd (hagree.item_eq hboth hfetch hfetch') hne

end Agreement

section Transfer

variable {next next' : σ → Except ε (α × σ)} {stop : α → Bool} {step : σ → σ} {halts : σ → Prop}

theorem Fetches.transfer (hpred : Predicts next stop step halts) {s t : σ} {as : List α}
    (run : Fetches next s as t)
    (hsame : ∀ i < as.length, ∀ r, next (step^[i] s) = .ok r → next' (step^[i] s) = .ok r) :
    Fetches next' s as t := by
  induction run with
  | nil s => exact .nil s
  | @cons s u t a as head tail ih =>
    have hnext := hpred.state_eq head
    refine .cons (hsame 0 (Nat.succ_pos _) _ head) (ih ?_)
    intro i hi r hr
    rw [hnext, ← Function.iterate_succ_apply] at hr ⊢
    exact hsame (i + 1) (Nat.succ_lt_succ hi) r hr

theorem fetchUntil_transfer (hpred : Predicts next stop step halts) {n : Nat} {s t : σ}
    {as : List α} (hloop : fetchUntil next stop n s = .ok (as, t))
    (hsame : ∀ i, Reached step halts n s i → ∀ r,
      next (step^[i] s) = .ok r → next' (step^[i] s) = .ok r) :
    fetchUntil next' stop n s = .ok (as, t) := by
  obtain ⟨hrun, hdone⟩ := fetchUntil_ok_iff.mp hloop
  refine fetchUntil_ok_iff.mpr ⟨hrun.transfer hpred ?_, hdone⟩
  intro i hi
  exact hsame i ((hdone.reached_iff hpred hrun i).mpr hi)

end Transfer

end FetchLoop
