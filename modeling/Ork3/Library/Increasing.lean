import Mathlib

/-!
# Increasing lists of positions

The positions that are left after some were dropped form an increasing list. A position taken over
unchanged, up to the new length, finds its own entry only in special cases.
-/

namespace Ork3.Library

variable {l : List Nat} (hl : l.Pairwise (· < ·))
include hl

lemma getElem_lt_getElem_iff {i j : Nat} (hi : i < l.length) (hj : j < l.length) :
    l[i] < l[j] ↔ i < j := by
  have hmono : ∀ {a b : Nat} (ha : a < l.length) (hb : b < l.length), a < b → l[a] < l[b] :=
    fun ha hb hab => List.pairwise_iff_getElem.mp hl _ _ ha hb hab
  constructor
  · intro h
    by_contra hnot
    rcases Nat.lt_or_eq_of_le (Nat.le_of_not_lt hnot) with hlt | heq
    · have hgt := hmono hj hi hlt
      omega
    · subst heq
      exact Nat.lt_irrefl _ h
  · exact hmono hi hj

lemma eq_of_getElem_eq {i j : Nat} (hi : i < l.length) (hj : j < l.length) (h : l[i] = l[j]) :
    i = j := by
  have hij := getElem_lt_getElem_iff hl hi hj
  have hji := getElem_lt_getElem_iff hl hj hi
  omega

/-- What lies below an entry lies before it. -/
lemma mem_take_iff {i j : Nat} (hi : i < l.length) : j ∈ l.take i ↔ j ∈ l ∧ j < l[i] := by
  constructor
  · intro h
    obtain ⟨k, hk, rfl⟩ := List.mem_iff_getElem.mp h
    rw [List.length_take] at hk
    rw [List.getElem_take]
    refine ⟨List.getElem_mem _, ?_⟩
    rw [getElem_lt_getElem_iff hl]
    omega
  · rintro ⟨h, hlt⟩
    obtain ⟨k, hk, rfl⟩ := List.mem_iff_getElem.mp h
    rw [getElem_lt_getElem_iff hl hk hi] at hlt
    rw [List.mem_take_iff_getElem]
    exact ⟨k, by omega, rfl⟩

lemma nodup_of_increasing : l.Nodup :=
  hl.imp Nat.ne_of_lt

/-- An entry stands at its own position exactly when nothing below it is missing. -/
lemma getElem_eq_self_iff {i : Nat} (hi : i < l.length) : l[i] = i ↔ ∀ j < l[i], j ∈ l := by
  have hnodup : (l.take i).Nodup := (nodup_of_increasing hl).sublist (List.take_sublist _ _)
  have hlen : (l.take i).length = i := by
    rw [List.length_take]
    omega
  have hsub : l.take i ⊆ List.range l[i] := by
    intro j hj
    exact List.mem_range.mpr ((mem_take_iff hl hi).mp hj).2
  constructor
  · intro h j hj
    have hperm := (hnodup.subperm hsub).perm_of_length_le (by
      rw [hlen, List.length_range, h])
    have hmem := hperm.mem_iff.mpr (List.mem_range.mpr hj)
    exact List.mem_of_mem_take hmem
  · intro h
    have hle := (hnodup.subperm hsub).length_le
    have hsub' : List.range l[i] ⊆ l.take i := fun j hj =>
      (mem_take_iff hl hi).mpr ⟨h j (List.mem_range.mp hj), List.mem_range.mp hj⟩
    have hge := (List.nodup_range.subperm hsub').length_le
    rw [hlen, List.length_range] at hle hge
    omega

lemma eq_last_iff {i : Nat} (hi : i < l.length) :
    i = l.length - 1 ↔ ∀ j ∈ l, j ≤ l[i] := by
  constructor
  · intro h j hj
    obtain ⟨k, hk, rfl⟩ := List.mem_iff_getElem.mp hj
    by_contra hnot
    have hlt := (getElem_lt_getElem_iff hl hi hk).mp (Nat.lt_of_not_le hnot)
    omega
  · intro h
    by_contra hnot
    have hlast := h l[l.length - 1] (List.getElem_mem _)
    have hlt := (getElem_lt_getElem_iff hl hi (j := l.length - 1) (by omega)).mpr (by omega)
    omega

/-- An entry is found at its old position, cut off at the end of the list, exactly when nothing
below it is missing or nothing above it is left. -/
theorem min_eq_position_iff {i : Nat} (hi : i < l.length) :
    min l[i] (l.length - 1) = i ↔ (∀ j < l[i], j ∈ l) ∨ ∀ j ∈ l, j ≤ l[i] := by
  rw [← getElem_eq_self_iff hl hi, ← eq_last_iff hl hi]
  have hle : i ≤ l[i] := by
    have hsub : l.take i ⊆ List.range l[i] := fun j hj =>
      List.mem_range.mpr ((mem_take_iff hl hi).mp hj).2
    have hlen := (((nodup_of_increasing hl).sublist (List.take_sublist i l)).subperm hsub).length_le
    rw [List.length_take, List.length_range] at hlen
    omega
  omega

end Ork3.Library
