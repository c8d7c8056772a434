import Mathlib

/-!
# Keeping the highest-ranked value

A store that replaces what it holds by whatever ranks at least as high ends with a value of the
highest rank, in whatever order the values arrive.
-/

namespace Ork3.Library

section
variable {α β γ : Type*} [LinearOrder β] {rank : α → β} {s : Set α} {x y : α}

/-- `x` is one of the values, and none of them ranks above it. -/
def IsBest (rank : α → β) (s : Set α) (x : α) : Prop :=
  x ∈ s ∧ ∀ y ∈ s, rank y ≤ rank x

/-- What a store holds after a new value has arrived. -/
def keepBest (rank : α → β) (held new : α) : α :=
  if rank held ≤ rank new then new else held

lemma isBest_singleton (x : α) : IsBest rank {x} x :=
  ⟨rfl, fun y hy => by rw [hy]⟩

lemma IsBest.keepBest (h : IsBest rank s x) (new : α) :
    IsBest rank (insert new s) (keepBest rank x new) := by
  unfold Library.keepBest
  by_cases hle : rank x ≤ rank new
  · rw [if_pos hle]
    refine ⟨Set.mem_insert _ _, fun y hy => ?_⟩
    rcases hy with rfl | hy
    · exact le_rfl
    · exact (h.2 y hy).trans hle
  · rw [if_neg hle]
    refine ⟨Set.mem_insert_of_mem _ h.1, fun y hy => ?_⟩
    rcases hy with rfl | hy
    · exact (not_le.mp hle).le
    · exact h.2 y hy

/-- Two highest-ranked values rank the same. -/
lemma IsBest.rank_eq (h : IsBest rank s x) (h' : IsBest rank s y) : rank x = rank y :=
  le_antisymm (h'.2 x h.1) (h.2 y h'.1)

/-- A function that respects the rank does not depend on which highest-ranked value is held. -/
lemma IsBest.congr (h : IsBest rank s x) (h' : IsBest rank s y) {f : α → γ}
    (hf : ∀ a ∈ s, ∀ b ∈ s, rank a = rank b → f a = f b) : f x = f y :=
  hf x h.1 y h'.1 (h.rank_eq h')

/-- A highest-ranked value of a set is one of every part it lies in. -/
lemma IsBest.mono {t : Set α} (h : IsBest rank t x) (hs : s ⊆ t) (hx : x ∈ s) : IsBest rank s x :=
  ⟨hx, fun y hy => h.2 y (hs hy)⟩

/-- There is a highest-ranked value among finitely many. -/
lemma exists_isBest (rank : α → β) {s : Set α} (hs : s.Finite) (hne : s.Nonempty) :
    ∃ x, IsBest rank s x := by
  obtain ⟨x, hx, hmax⟩ := hs.exists_maximalFor rank s hne
  refine ⟨x, hx, fun y hy => ?_⟩
  rcases le_total (rank y) (rank x) with hle | hle
  · exact hle
  · exact hmax hy hle

end

end Ork3.Library
