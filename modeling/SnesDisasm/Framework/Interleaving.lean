import SnesDisasm.Framework.FetchLoop

/-!
# Interleaved calls

Calls that may fail, each of which works on its own part of a store.
-/

namespace Interleaving
open FetchLoop

variable {ε κ σ α β γ : Type}

def runOne (step : σ → α → Except ε (β × σ)) : σ → List α → Except ε (List β × σ)
  | s, [] => .ok ([], s)
  | s, a :: as => do
      let (b, s) ← step s a
      let (bs, s) ← runOne step s as
      return (b :: bs, s)

theorem runOne_cons_ok_iff {step : σ → α → Except ε (β × σ)} {s t : σ} {a : α} {as : List α}
    {outs : List β} :
    runOne step s (a :: as) = .ok (outs, t) ↔
      ∃ b u bs, step s a = .ok (b, u) ∧ runOne step u as = .ok (bs, t) ∧ outs = b :: bs := by
  rw [runOne, bind_ok_iff]
  constructor
  · intro h
    obtain ⟨⟨b, u⟩, hfirst, hrest⟩ := h
    obtain ⟨⟨bs, v⟩, hlast, hresult⟩ := bind_ok_iff.mp hrest
    obtain ⟨rfl, rfl⟩ := Prod.mk.inj (Except.ok.inj hresult)
    exact ⟨b, u, bs, hfirst, hlast, rfl⟩
  · intro h
    obtain ⟨b, u, bs, hfirst, hlast, rfl⟩ := h
    exact ⟨(b, u), hfirst, bind_ok_iff.mpr ⟨(bs, t), hlast, rfl⟩⟩

variable [DecidableEq κ]

/-- Calls on several parts of a store, each with the key of its part. -/
def run (step : σ → α → Except ε (β × σ)) :
    (κ → σ) → List (κ × α) → Except ε (List (κ × β) × (κ → σ))
  | store, [] => .ok ([], store)
  | store, (k, a) :: calls => do
      let (b, s) ← step (store k) a
      let (outs, store) ← run step (Function.update store k s) calls
      return ((k, b) :: outs, store)

theorem run_cons_ok_iff {step : σ → α → Except ε (β × σ)} {store store' : κ → σ} {k : κ} {a : α}
    {calls : List (κ × α)} {outs : List (κ × β)} :
    run step store ((k, a) :: calls) = .ok (outs, store') ↔
      ∃ b s rest, step (store k) a = .ok (b, s) ∧
        run step (Function.update store k s) calls = .ok (rest, store') ∧ outs = (k, b) :: rest := by
  rw [run, bind_ok_iff]
  constructor
  · intro h
    obtain ⟨⟨b, s⟩, hfirst, hrest⟩ := h
    obtain ⟨⟨rest, after⟩, hcalls, hresult⟩ := bind_ok_iff.mp hrest
    obtain ⟨rfl, rfl⟩ := Prod.mk.inj (Except.ok.inj hresult)
    exact ⟨b, s, rest, hfirst, hcalls, rfl⟩
  · intro h
    obtain ⟨b, s, rest, hfirst, hcalls, rfl⟩ := h
    exact ⟨(b, s), hfirst, bind_ok_iff.mpr ⟨(rest, store'), hcalls, rfl⟩⟩

def ofKey (k : κ) (items : List (κ × γ)) : List γ :=
  (items.filter fun item => item.1 = k).map Prod.snd

@[simp] theorem ofKey_cons_self (k : κ) (c : γ) (items : List (κ × γ)) :
    ofKey k ((k, c) :: items) = c :: ofKey k items := by
  simp [ofKey]

theorem ofKey_cons_of_ne {k k' : κ} (h : k' ≠ k) (c : γ) (items : List (κ × γ)) :
    ofKey k ((k', c) :: items) = ofKey k items := by
  simp [ofKey, h]

section Runs

variable {step : σ → α → Except ε (β × σ)} {store store' : κ → σ} {calls calls' : List (κ × α)}
  {outs : List (κ × β)}

/-- Every part sees a run of its own calls. -/
theorem run_ofKey (hrun : run step store calls = .ok (outs, store')) (k : κ) :
    runOne step (store k) (ofKey k calls) = .ok (ofKey k outs, store' k) := by
  induction calls generalizing store outs with
  | nil =>
    obtain ⟨rfl, rfl⟩ := Prod.mk.inj (Except.ok.inj hrun)
    rfl
  | cons call calls ih =>
    obtain ⟨key, a⟩ := call
    obtain ⟨b, s, rest, hfirst, hcalls, rfl⟩ := run_cons_ok_iff.mp hrun
    have hrest := ih hcalls
    by_cases hkey : key = k
    · subst hkey
      rw [Function.update_self] at hrest
      rw [ofKey_cons_self, ofKey_cons_self]
      exact runOne_cons_ok_iff.mpr ⟨b, s, _, hfirst, hrest, rfl⟩
    · rw [Function.update_of_ne (Ne.symm hkey)] at hrest
      rwa [ofKey_cons_of_ne hkey, ofKey_cons_of_ne hkey]

theorem run_isOk (hparts : ∀ k, ∃ r, runOne step (store k) (ofKey k calls) = .ok r) :
    ∃ r, run step store calls = .ok r := by
  induction calls generalizing store with
  | nil => exact ⟨([], store), rfl⟩
  | cons call calls ih =>
    obtain ⟨key, a⟩ := call
    obtain ⟨⟨bs, t⟩, hkey⟩ := hparts key
    rw [ofKey_cons_self] at hkey
    obtain ⟨b, s, rest, hfirst, hlast, _⟩ := runOne_cons_ok_iff.mp hkey
    have hothers : ∀ k, ∃ r, runOne step (Function.update store key s k) (ofKey k calls) = .ok r := by
      intro k
      by_cases hk : key = k
      · subst hk
        rw [Function.update_self]
        exact ⟨_, hlast⟩
      · have hpart := hparts k
        rw [ofKey_cons_of_ne hk] at hpart
        rwa [Function.update_of_ne (Ne.symm hk)]
    obtain ⟨⟨outs, after⟩, hcalls⟩ := ih hothers
    exact ⟨_, run_cons_ok_iff.mpr ⟨b, s, outs, hfirst, hcalls, rfl⟩⟩

/-- Two interleavings of the same calls return the same for every part and end in the same store. -/
theorem run_interleaved (hsame : ∀ k, ofKey k calls = ofKey k calls')
    (hrun : run step store calls = .ok (outs, store')) :
    ∃ outs', run step store calls' = .ok (outs', store') ∧ ∀ k, ofKey k outs' = ofKey k outs := by
  have hparts := run_ofKey hrun
  have hparts' : ∀ k, ∃ r, runOne step (store k) (ofKey k calls') = .ok r := by
    intro k
    rw [← hsame k]
    exact ⟨_, hparts k⟩
  obtain ⟨⟨outs', after⟩, hrun'⟩ := run_isOk hparts'
  have hboth (k : κ) : ofKey k outs' = ofKey k outs ∧ after k = store' k := by
    have hpart := run_ofKey hrun' k
    rw [← hsame k, hparts k] at hpart
    obtain ⟨houts, hafter⟩ := Prod.mk.inj (Except.ok.inj hpart)
    exact ⟨houts.symm, hafter.symm⟩
  obtain rfl : after = store' := funext fun k => (hboth k).2
  exact ⟨outs', hrun', fun k => (hboth k).1⟩

end Runs

end Interleaving
