import Mathlib

/-!
# Tilings

A list of sets tiles a set if they are disjoint and cover it.
-/

namespace Ork3.Library

section
variable {α β : Type*} {s s₁ s₂ : Set α} {cells : β → Set α} {parts parts₁ parts₂ : List β}

/-- The parts, seen as sets, are disjoint and cover the set. -/
structure Tiles (cells : β → Set α) (parts : List β) (s : Set α) : Prop where
  disjoint : parts.Pairwise fun p q => Disjoint (cells p) (cells q)
  covers : ∀ a, a ∈ s ↔ ∃ p ∈ parts, a ∈ cells p

lemma tiles_singleton (p : β) : Tiles cells [p] (cells p) where
  disjoint := List.pairwise_singleton _ p
  covers a := by simp

/-- Tilings of two disjoint sets make one of their union. -/
lemma Tiles.append (h₁ : Tiles cells parts₁ s₁) (h₂ : Tiles cells parts₂ s₂)
    (hs : Disjoint s₁ s₂) : Tiles cells (parts₁ ++ parts₂) (s₁ ∪ s₂) where
  disjoint := by
    rw [List.pairwise_append]
    refine ⟨h₁.disjoint, h₂.disjoint, fun p hp q hq => ?_⟩
    apply Disjoint.mono _ _ hs
    · intro a ha
      exact (h₁.covers a).mpr ⟨p, hp, ha⟩
    · intro a ha
      exact (h₂.covers a).mpr ⟨q, hq, ha⟩
  covers a := by
    rw [Set.mem_union, h₁.covers, h₂.covers]
    simp only [List.mem_append, or_and_right, exists_or]

lemma Tiles.subset (h : Tiles cells parts s) {p : β} (hp : p ∈ parts) : cells p ⊆ s :=
  fun a ha => (h.covers a).mpr ⟨p, hp, ha⟩

/-- A point outside a part lies in another one. -/
lemma Tiles.exists_other (h : Tiles cells parts s) {p : β} (hp : p ∈ parts) {a b : α}
    (ha : a ∈ cells p) (hb : b ∈ s) (hbp : b ∉ cells p) :
    ∃ q ∈ parts, b ∈ cells q ∧ a ∉ cells q := by
  obtain ⟨q, hq, hbq⟩ := (h.covers b).mp hb
  refine ⟨q, hq, hbq, fun haq => ?_⟩
  have hne : p ≠ q := fun heq => hbp (heq ▸ hbq)
  have hsymm : Std.Symm fun p q => Disjoint (cells p) (cells q) := ⟨fun _ _ h => h.symm⟩
  have hdisjoint := h.disjoint.forall hp hq hne
  exact Set.disjoint_left.mp hdisjoint ha haq

end

end Ork3.Library
