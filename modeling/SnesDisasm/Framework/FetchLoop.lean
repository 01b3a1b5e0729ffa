import Mathlib.Data.List.Basic
import Mathlib.Logic.Function.Basic

/-!
# Bounded fetch loops

Loops that fetch items from a state, up to a limit or an item that stops them.
-/

namespace FetchLoop

variable {ε σ τ α β : Type}

theorem bind_ok_iff {first : Except ε α} {rest : α → Except ε β} {b : β} :
    (first >>= rest) = .ok b ↔ ∃ a, first = .ok a ∧ rest a = .ok b := by
  cases first with
  | error e => simp [bind, Except.bind]
  | ok a => simp [bind, Except.bind]

/-- At most `n` fetches, ending after the first item that satisfies `stop`. -/
def fetchUntil (next : σ → Except ε (α × σ)) (stop : α → Bool) : Nat → σ → Except ε (List α × σ)
  | 0, s => .ok ([], s)
  | n + 1, s => do
      let (a, s') ← next s
      if stop a then
        return ([a], s')
      else
        let (as, t) ← fetchUntil next stop n s'
        return (a :: as, t)

inductive Fetches (next : σ → Except ε (α × σ)) : σ → List α → σ → Prop
  | nil (s : σ) : Fetches next s [] s
  | cons {s s' t : σ} {a : α} {as : List α} (head : next s = .ok (a, s'))
      (tail : Fetches next s' as t) : Fetches next s (a :: as) t

/-- Only the last item may stop the loop, and it does if the list is shorter than the limit. -/
structure Completed (stop : α → Bool) (n : Nat) (as : List α) : Prop where
  length_le : as.length ≤ n
  dropLast_running : ∀ a ∈ as.dropLast, stop a = false
  last_stops : as.length < n → ∃ a, as.getLast? = some a ∧ stop a = true

def stopped (stop : α → Bool) (as : List α) : Bool := as.getLast?.any stop

section Chains

variable {next : σ → Except ε (α × σ)}

theorem Fetches.take {s t : σ} {as : List α} (run : Fetches next s as t) (i : Nat) :
    ∃ u, Fetches next s (as.take i) u ∧ Fetches next u (as.drop i) t := by
  induction run generalizing i with
  | nil s => exact ⟨s, by simpa using .nil s, by simpa using .nil s⟩
  | @cons s s' t a as head tail ih =>
    cases i with
    | zero => exact ⟨s, .nil s, .cons head tail⟩
    | succ i =>
      obtain ⟨u, hfirst, hrest⟩ := ih i
      exact ⟨u, .cons head hfirst, hrest⟩

theorem Fetches.get {s t : σ} {as : List α} (run : Fetches next s as t) {i : Nat}
    (hi : i < as.length) :
    ∃ u u', Fetches next s (as.take i) u ∧ next u = .ok (as[i], u') := by
  obtain ⟨u, hfirst, hrest⟩ := run.take i
  rw [List.drop_eq_getElem_cons hi] at hrest
  cases hrest with
  | cons head _ => exact ⟨u, _, hfirst, head⟩

theorem Fetches.mono {next' : σ → Except ε (α × σ)} (h : ∀ s r, next s = .ok r → next' s = .ok r)
    {s t : σ} {as : List α} (run : Fetches next s as t) : Fetches next' s as t := by
  induction run with
  | nil s => exact .nil s
  | cons head _ ih => exact .cons (h _ _ head) ih

end Chains

section Loop

variable {next : σ → Except ε (α × σ)} {stop : α → Bool}

theorem Completed.nil : Completed stop 0 ([] : List α) where
  length_le := Nat.le_refl 0
  dropLast_running := by simp
  last_stops := by simp

theorem Completed.singleton {n : Nat} {a : α} (h : stop a = true) :
    Completed stop (n + 1) [a] where
  length_le := by simp
  dropLast_running := by simp
  last_stops := fun _ => ⟨a, rfl, h⟩

theorem completed_zero_iff {as : List α} : Completed stop 0 as ↔ as = [] := by
  constructor
  · intro h
    exact List.length_eq_zero_iff.mp (Nat.le_zero.mp h.length_le)
  · intro h
    subst h
    exact .nil

theorem Completed.ne_nil {n : Nat} {as : List α} (h : Completed stop (n + 1) as) : as ≠ [] := by
  intro h
  subst h
  obtain ⟨a, ha, _⟩ := h.last_stops (by simp)
  simp at ha

theorem completed_cons_iff {n : Nat} {a : α} {as : List α} :
    Completed stop (n + 1) (a :: as) ↔
      if stop a then as = [] else Completed stop n as := by
  cases as with
  | nil =>
    by_cases ha : stop a = true
    · simp only [ha, if_true, iff_true]
      exact .singleton ha
    · simp only [ha]
      constructor
      · intro h
        cases n with
        | zero => exact .nil
        | succ n =>
          obtain ⟨b, hb, hstop⟩ := h.last_stops (by simp)
          obtain rfl : a = b := by simpa using hb
          exact absurd hstop ha
      · intro h
        refine ⟨by simp, by simp, fun hlt => ?_⟩
        obtain ⟨b, hb, _⟩ := h.last_stops (by simpa using hlt)
        simp at hb
  | cons b bs =>
    by_cases ha : stop a = true
    · simp only [ha, if_true]
      constructor
      · intro h
        have hrun := h.dropLast_running a (by simp)
        simp [ha] at hrun
      · intro h
        simp at h
    · have hfalse : stop a = false := by simpa using ha
      simp only [hfalse, Bool.false_eq_true, if_false]
      constructor
      · intro h
        exact ⟨by simpa using h.length_le,
          fun x hx => h.dropLast_running x (by simp [hx]),
          fun hlt => by simpa using h.last_stops (by simpa using hlt)⟩
      · intro h
        refine ⟨by simpa using h.length_le, fun x hx => ?_,
          fun hlt => by simpa using h.last_stops (by simpa using hlt)⟩
        rw [List.dropLast_cons_of_ne_nil (by simp), List.mem_cons] at hx
        rcases hx with rfl | hx
        · exact hfalse
        · exact h.dropLast_running x hx

/-- The loop succeeds with exactly the completed chains of successful fetches. -/
theorem fetchUntil_ok_iff {n : Nat} {s t : σ} {as : List α} :
    fetchUntil next stop n s = .ok (as, t) ↔ Fetches next s as t ∧ Completed stop n as := by
  induction n generalizing s as with
  | zero =>
    rw [completed_zero_iff]
    simp only [fetchUntil, Except.ok.injEq, Prod.mk.injEq]
    constructor
    · intro h
      rcases h with ⟨rfl, rfl⟩
      exact ⟨.nil s, rfl⟩
    · intro h
      rcases h with ⟨hrun, rfl⟩
      cases hrun
      exact ⟨rfl, rfl⟩
  | succ n ih =>
    rw [fetchUntil, bind_ok_iff]
    constructor
    · intro h
      rcases h with ⟨⟨a, s'⟩, hnext, hrest⟩
      dsimp only at hrest
      by_cases ha : stop a = true
      · rw [if_pos ha] at hrest
        obtain ⟨rfl, rfl⟩ := Prod.mk.inj (Except.ok.inj hrest)
        exact ⟨.cons hnext (.nil s'), .singleton ha⟩
      · rw [if_neg ha, bind_ok_iff] at hrest
        obtain ⟨⟨bs, u⟩, hloop, hresult⟩ := hrest
        obtain ⟨rfl, rfl⟩ := Prod.mk.inj (Except.ok.inj hresult)
        obtain ⟨hrun, hdone⟩ := ih.mp hloop
        exact ⟨.cons hnext hrun, completed_cons_iff.mpr (by rwa [if_neg ha])⟩
    · intro h
      rcases h with ⟨hrun, hdone⟩
      cases hrun with
      | nil => exact absurd rfl hdone.ne_nil
      | @cons _ s' _ a as head tail =>
        refine ⟨(a, s'), head, ?_⟩
        rw [completed_cons_iff] at hdone
        dsimp only
        by_cases ha : stop a = true
        · rw [if_pos ha] at hdone ⊢
          subst hdone
          cases tail
          rfl
        · rw [if_neg ha] at hdone ⊢
          rw [bind_ok_iff]
          exact ⟨(as, t), ih.mpr ⟨tail, hdone⟩, rfl⟩

theorem fetchUntil_mono {next' : σ → Except ε (α × σ)}
    (h : ∀ s r, next s = .ok r → next' s = .ok r) {n : Nat} {s : σ} {r : List α × σ}
    (hloop : fetchUntil next stop n s = .ok r) : fetchUntil next' stop n s = .ok r := by
  obtain ⟨as, t⟩ := r
  rw [fetchUntil_ok_iff] at hloop ⊢
  exact ⟨hloop.1.mono h, hloop.2⟩

/-- The loop fails nowhere exactly when every state in which it fetches allows a fetch. -/
theorem fetchUntil_isOk_iff {n : Nat} {s : σ} :
    (∃ r, fetchUntil next stop n s = .ok r) ↔
      ∀ as t, Fetches next s as t → as.length < n → (∀ a ∈ as, stop a = false) →
        ∃ r, next t = .ok r := by
  induction n generalizing s with
  | zero => simp [fetchUntil]
  | succ n ih =>
    constructor
    · rintro ⟨r, hr⟩ as t hrun hlen hstop
      rw [fetchUntil, bind_ok_iff] at hr
      obtain ⟨⟨a, s'⟩, hnext, hrest⟩ := hr
      cases hrun with
      | nil => exact ⟨_, hnext⟩
      | @cons _ s'' _ b bs head tail =>
        rw [hnext] at head
        obtain ⟨rfl, rfl⟩ := Prod.mk.inj (Except.ok.inj head)
        have ha : ¬stop a = true := by simp [hstop a (by simp)]
        dsimp only at hrest
        rw [if_neg ha, bind_ok_iff] at hrest
        obtain ⟨r', hloop, _⟩ := hrest
        exact ih.mp ⟨r', hloop⟩ bs t tail (by simpa using hlen)
          (fun x hx => hstop x (List.mem_cons_of_mem _ hx))
    · intro h
      obtain ⟨⟨a, s'⟩, hnext⟩ := h [] s (.nil s) (by simp) (by simp)
      simp only [fetchUntil, hnext]
      by_cases ha : stop a = true
      · exact ⟨([a], s'), by simp [ha, bind, Except.bind, pure, Except.pure]⟩
      · obtain ⟨⟨bs, t⟩, hloop⟩ := ih.mpr (fun bs t hrun hlen hstop =>
          h (a :: bs) t (.cons hnext hrun) (by simpa using hlen)
            (by simpa [ha] using hstop))
        exact ⟨(a :: bs, t), by simp [ha, hloop, bind, Except.bind, pure, Except.pure]⟩

theorem stopped_cons {a : α} (ha : stop a = false) (as : List α) :
    stopped stop (a :: as) = stopped stop as := by
  cases as with
  | nil => simp [stopped, ha]
  | cons b bs => rw [stopped, List.getLast?_cons_cons, stopped]

/-- A loop resumes from the state reached, unless the last item has stopped it. -/
theorem fetchUntil_add (next : σ → Except ε (α × σ)) (stop : α → Bool) (m n : Nat) (s : σ) :
    fetchUntil next stop (m + n) s = (do
      let (as, t) ← fetchUntil next stop m s
      if stopped stop as = true then
        return (as, t)
      else
        let (bs, u) ← fetchUntil next stop n t
        return (as ++ bs, u)) := by
  induction m generalizing s with
  | zero =>
    rw [Nat.zero_add]
    cases hrest : fetchUntil next stop n s with
    | error e => simp [fetchUntil, stopped, hrest, bind, Except.bind]
    | ok r => simp [fetchUntil, stopped, hrest, bind, Except.bind, pure, Except.pure]
  | succ m ih =>
    rw [Nat.succ_add, fetchUntil, fetchUntil]
    cases next s with
    | error e => rfl
    | ok r =>
      obtain ⟨a, s'⟩ := r
      cases ha : stop a with
      | true => simp [ha, stopped, bind, Except.bind, pure, Except.pure]
      | false =>
        have hrest := ih s'
        simp only [bind, Except.bind, ha, Bool.false_eq_true, if_false] at hrest ⊢
        rw [hrest]
        cases fetchUntil next stop m s' with
        | error e => rfl
        | ok r =>
          obtain ⟨as, t⟩ := r
          dsimp only [pure, Except.pure]
          rw [stopped_cons ha]
          cases stopped stop as with
          | true => rfl
          | false =>
            simp only [Bool.false_eq_true, if_false]
            cases fetchUntil next stop n t with
            | error e => rfl
            | ok r => rfl

theorem fetchUntil_add_of_stopped {m : Nat} {s t : σ} {as : List α}
    (hfirst : fetchUntil next stop m s = .ok (as, t)) (hstopped : stopped stop as = true) (n : Nat) :
    fetchUntil next stop (m + n) s = .ok (as, t) := by
  rw [fetchUntil_add, hfirst]
  simp only [bind, Except.bind, hstopped, if_true]
  rfl

theorem fetchUntil_add_of_running {m n : Nat} {s t u : σ} {as bs : List α}
    (hfirst : fetchUntil next stop m s = .ok (as, t)) (hrunning : stopped stop as = false)
    (hrest : fetchUntil next stop n t = .ok (bs, u)) :
    fetchUntil next stop (m + n) s = .ok (as ++ bs, u) := by
  rw [fetchUntil_add, hfirst]
  simp only [bind, Except.bind, hrunning, Bool.false_eq_true, if_false, hrest]
  rfl

theorem fetchUntil_component (next : τ → Except ε (α × τ)) (stop : α → Bool)
    (get : σ → τ) (set : σ → τ → σ) (get_set : ∀ s x, get (set s x) = x)
    (set_get : ∀ s, set s (get s) = s) (set_set : ∀ s x y, set (set s x) y = set s y)
    (n : Nat) (s : σ) :
    fetchUntil (fun s => (next (get s)).map fun (a, x) => (a, set s x)) stop n s =
      (fetchUntil next stop n (get s)).map fun (as, x) => (as, set s x) := by
  induction n generalizing s with
  | zero => simp [fetchUntil, Except.map, set_get]
  | succ n ih =>
    simp only [fetchUntil]
    cases hnext : next (get s) with
    | error e => rfl
    | ok r =>
      obtain ⟨a, x⟩ := r
      by_cases ha : stop a = true
      · simp [ha, Except.map, bind, Except.bind, pure, Except.pure]
      · have hrest := ih (set s x)
        rw [get_set] at hrest
        simp only [ha, Except.map, bind, Except.bind, Bool.false_eq_true, if_false] at hrest ⊢
        rw [hrest]
        cases fetchUntil next stop n x with
        | error e => rfl
        | ok r => simp [set_set, pure, Except.pure]

end Loop

end FetchLoop
