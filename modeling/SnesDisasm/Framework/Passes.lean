import Mathlib.Logic.Function.Iterate
import SnesDisasm.Framework.FetchLoop

/-!
# The passes of a fetch loop

Where a state decides what its fetch leads to, the first state tells all passes.
-/

namespace FetchLoop

variable {ε σ α : Type}

structure Predicts (next : σ → Except ε (α × σ)) (stop : α → Bool) (step : σ → σ)
    (halts : σ → Prop) : Prop where
  state_eq : ∀ {s a s'}, next s = .ok (a, s') → s' = step s
  stop_iff : ∀ {s a s'}, next s = .ok (a, s') → (stop a = true ↔ halts s)

/-- The loop makes its pass number `k`, counted from 0, if no earlier fetch fails. -/
def Reached (step : σ → σ) (halts : σ → Prop) (n : Nat) (s : σ) (k : Nat) : Prop :=
  k < n ∧ ∀ i < k, ¬halts (step^[i] s)

section Prediction

variable {next : σ → Except ε (α × σ)} {stop : α → Bool} {step : σ → σ} {halts : σ → Prop}

theorem Reached.lt {n : Nat} {s : σ} {k : Nat} (h : Reached step halts n s k) : k < n := h.1

theorem Reached.mono {n : Nat} {s : σ} {j k : Nat} (h : Reached step halts n s k) (hjk : j ≤ k) :
    Reached step halts n s j :=
  ⟨Nat.lt_of_le_of_lt hjk h.1, fun i hi => h.2 i (Nat.lt_of_lt_of_le hi hjk)⟩

theorem reached_succ_iff {n : Nat} {s : σ} {k : Nat} :
    Reached step halts n s (k + 1) ↔
      k + 1 < n ∧ Reached step halts n s k ∧ ¬halts (step^[k] s) := by
  constructor
  · intro h
    exact ⟨h.1, h.mono (Nat.le_succ k), h.2 k (Nat.lt_succ_self k)⟩
  · intro h
    rcases h with ⟨hlt, hreached, hrun⟩
    refine ⟨hlt, fun i hi => ?_⟩
    rcases Nat.lt_succ_iff_lt_or_eq.mp hi with hi | rfl
    · exact hreached.2 i hi
    · exact hrun

theorem Fetches.end_eq (hpred : Predicts next stop step halts) {s t : σ} {as : List α}
    (run : Fetches next s as t) : t = step^[as.length] s := by
  induction run with
  | nil s => rfl
  | cons head _ ih =>
    rw [ih, hpred.state_eq head]
    rfl

theorem Fetches.get_eq (hpred : Predicts next stop step halts) {s t : σ} {as : List α}
    (run : Fetches next s as t) {i : Nat} (hi : i < as.length) :
    next (step^[i] s) = .ok (as[i], step^[i + 1] s) := by
  obtain ⟨u, u', hfirst, hnext⟩ := run.get hi
  have hu := hfirst.end_eq hpred
  rw [List.length_take, Nat.min_eq_left (Nat.le_of_lt hi)] at hu
  subst hu
  rw [hnext, hpred.state_eq hnext, Function.iterate_succ_apply']

/-- The completed loop has made exactly the reached passes. -/
theorem Completed.reached_iff (hpred : Predicts next stop step halts) {n : Nat} {s t : σ}
    {as : List α} (hdone : Completed stop n as) (run : Fetches next s as t) (k : Nat) :
    Reached step halts n s k ↔ k < as.length := by
  constructor
  · intro hreached
    by_contra hle
    obtain ⟨a, ha, hstop⟩ := hdone.last_stops (by have := hreached.lt; omega)
    obtain ⟨hpos, hlast⟩ : 0 < as.length ∧ as[as.length - 1]? = some a := by
      rw [List.getLast?_eq_getElem?] at ha
      exact ⟨by have := (List.getElem?_eq_some_iff.mp ha).1; omega, ha⟩
    obtain ⟨hindex, rfl⟩ := List.getElem?_eq_some_iff.mp hlast
    exact hreached.2 _ (by omega) ((hpred.stop_iff (run.get_eq hpred hindex)).mp hstop)
  · intro hk
    refine ⟨Nat.lt_of_lt_of_le hk hdone.length_le, fun i hi hhalts => ?_⟩
    have hindex : i < as.length := by omega
    have hstop := (hpred.stop_iff (run.get_eq hpred hindex)).mpr hhalts
    have hmem : as[i] ∈ as.dropLast := by
      rw [List.mem_iff_getElem]
      exact ⟨i, by rw [List.length_dropLast]; omega, List.getElem_dropLast ..⟩
    rw [hdone.dropLast_running _ hmem] at hstop
    exact absurd hstop Bool.false_ne_true

theorem fetchUntil_isOk_iff_reached (hpred : Predicts next stop step halts) {n : Nat} {s : σ} :
    (∃ r, fetchUntil next stop n s = .ok r) ↔
      ∀ k, Reached step halts n s k → ∃ r, next (step^[k] s) = .ok r := by
  constructor
  · rintro ⟨⟨as, t⟩, hloop⟩ k hreached
    obtain ⟨hrun, hdone⟩ := fetchUntil_ok_iff.mp hloop
    exact ⟨_, hrun.get_eq hpred ((hdone.reached_iff hpred hrun k).mp hreached)⟩
  · intro h
    rw [fetchUntil_isOk_iff]
    intro as t hrun hlen hstop
    rw [hrun.end_eq hpred]
    refine h as.length ⟨hlen, fun i hi hhalts => ?_⟩
    have hitem := (hpred.stop_iff (hrun.get_eq hpred hi)).mpr hhalts
    rw [hstop _ (List.getElem_mem hi)] at hitem
    exact absurd hitem Bool.false_ne_true

end Prediction

end FetchLoop
