import Mathlib.Logic.Equiv.Basic

/-!
# Exclusive ownership

Holders that each own at most one resource of a memory.
-/

namespace Ownership

variable {κ β α : Type}

/-- What is owned is live, what is live is owned, and no two holders own the same. -/
structure Exclusive (content : β → Option α) (owner : κ → Option β) : Prop where
  owned_live : ∀ {k b}, owner k = some b → ∃ a, content b = some a
  live_owned : ∀ {b a}, content b = some a → ∃ k, owner k = some b
  unique : ∀ {k k' b}, owner k = some b → owner k' = some b → k = k'

variable {content : β → Option α} {owner : κ → Option β}

theorem Exclusive.empty : Exclusive (fun _ : β => (none : Option α)) fun _ : κ => none where
  owned_live := by simp
  live_owned := by simp
  unique := by simp

theorem Exclusive.ne_of_owner (h : Exclusive content owner) {k k' : κ} {b b' : β}
    (hk : owner k = some b) (hk' : owner k' = some b') (hne : k ≠ k') : b ≠ b' := by
  intro hsame
  subst hsame
  exact hne (h.unique hk hk')

theorem Exclusive.no_leak (h : Exclusive content owner) (hnone : ∀ k, owner k = none) (b : β) :
    content b = none := by
  cases hb : content b with
  | none => rfl
  | some a =>
    obtain ⟨k, hk⟩ := h.live_owned hb
    rw [hnone k] at hk
    cases hk

theorem Exclusive.comp_equiv (h : Exclusive content owner) (e : κ ≃ κ) :
    Exclusive content (owner ∘ e) := by
  constructor
  · intro k b hk
    exact h.owned_live hk
  · intro b a hb
    obtain ⟨k, hk⟩ := h.live_owned hb
    exact ⟨e.symm k, by simpa using hk⟩
  · intro k k' b hk hk'
    exact e.injective (h.unique hk hk')

/-- Handing a resource to a holder of none is an exchange between the two. -/
theorem transfer_eq_swap [DecidableEq κ] {target source : κ} (htarget : owner target = none) :
    Function.update (Function.update owner target (owner source)) source none =
      owner ∘ Equiv.swap target source := by
  funext k
  by_cases hsource : k = source
  · simp [hsource, htarget]
  · by_cases hk : k = target
    · subst hk
      simp [Function.update_of_ne hsource]
    · simp [Function.update_of_ne hsource, Function.update_of_ne hk,
        Equiv.swap_apply_of_ne_of_ne hk hsource]

theorem Exclusive.transfer [DecidableEq κ] (h : Exclusive content owner) {target : κ} (source : κ)
    (htarget : owner target = none) :
    Exclusive content
      (Function.update (Function.update owner target (owner source)) source none) := by
  rw [transfer_eq_swap htarget]
  exact h.comp_equiv _

section Steps

variable [DecidableEq κ] [DecidableEq β]

theorem Exclusive.acquire (h : Exclusive content owner) {k : κ} {b : β} (a : α)
    (hk : owner k = none) (hb : content b = none) :
    Exclusive (Function.update content b (some a)) (Function.update owner k (some b)) := by
  have hother : ∀ k' b', owner k' = some b' → k' ≠ k ∧ b' ≠ b := by
    intro k' b' hk'
    obtain ⟨a', ha'⟩ := h.owned_live hk'
    constructor
    · rintro rfl
      simp [hk] at hk'
    · rintro rfl
      simp [hb] at ha'
  constructor
  · intro k' b' hk'
    by_cases hsame : b' = b
    · exact ⟨a, by rw [hsame, Function.update_self]⟩
    · have hkeep : k' ≠ k := by
        rintro rfl
        rw [Function.update_self, Option.some.injEq] at hk'
        exact hsame hk'.symm
      rw [Function.update_of_ne hkeep] at hk'
      rw [Function.update_of_ne hsame]
      exact h.owned_live hk'
  · intro b' a' hb'
    by_cases hsame : b' = b
    · exact ⟨k, by rw [hsame, Function.update_self]⟩
    · rw [Function.update_of_ne hsame] at hb'
      obtain ⟨k', hk'⟩ := h.live_owned hb'
      exact ⟨k', by rw [Function.update_of_ne (hother k' b' hk').1, hk']⟩
  · intro k₁ k₂ b' h₁ h₂
    by_cases hk₁ : k₁ = k
    · by_cases hk₂ : k₂ = k
      · rw [hk₁, hk₂]
      · rw [hk₁, Function.update_self] at h₁
        rw [Function.update_of_ne hk₂, ← h₁] at h₂
        exact absurd rfl (hother k₂ b h₂).2
    · by_cases hk₂ : k₂ = k
      · rw [hk₂, Function.update_self] at h₂
        rw [Function.update_of_ne hk₁, ← h₂] at h₁
        exact absurd rfl (hother k₁ b h₁).2
      · rw [Function.update_of_ne hk₁] at h₁
        rw [Function.update_of_ne hk₂] at h₂
        exact h.unique h₁ h₂

theorem Exclusive.release (h : Exclusive content owner) {k : κ} {b : β} (hk : owner k = some b) :
    Exclusive (Function.update content b none) (Function.update owner k none) := by
  have hrest : ∀ k' b', Function.update owner k none k' = some b' → owner k' = some b' ∧ b' ≠ b := by
    intro k' b' hk'
    by_cases hsame : k' = k
    · rw [hsame, Function.update_self] at hk'
      cases hk'
    · rw [Function.update_of_ne hsame] at hk'
      exact ⟨hk', h.ne_of_owner hk' hk hsame⟩
  constructor
  · intro k' b' hk'
    obtain ⟨howned, hne⟩ := hrest k' b' hk'
    rw [Function.update_of_ne hne]
    exact h.owned_live howned
  · intro b' a hb'
    have hne : b' ≠ b := by
      rintro rfl
      simp at hb'
    rw [Function.update_of_ne hne] at hb'
    obtain ⟨k', hk'⟩ := h.live_owned hb'
    have hkeep : k' ≠ k := by
      rintro rfl
      rw [hk, Option.some.injEq] at hk'
      exact hne hk'.symm
    exact ⟨k', by rw [Function.update_of_ne hkeep, hk']⟩
  · intro k₁ k₂ b' h₁ h₂
    exact h.unique (hrest k₁ b' h₁).1 (hrest k₂ b' h₂).1

end Steps

end Ownership
