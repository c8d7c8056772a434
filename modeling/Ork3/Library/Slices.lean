import Mathlib

/-!
# Slices of a stream

Pieces of a stream that stand in it one behind the other, with gaps between them.
-/

namespace Ork3.Library

section
variable {α : Type*}

/-- The lists are disjoint contiguous slices of the stream, in its order. -/
inductive Slices : List (List α) → List α → Prop
  | nil (rest : List α) : Slices [] rest
  | cons (gap slice : List α) {slices : List (List α)} {rest : List α} :
    Slices slices rest → Slices (slice :: slices) (gap ++ (slice ++ rest))

variable {slices slices' : List (List α)} {xs ys : List α}

lemma Slices.behind_gap (h : Slices slices xs) (gap : List α) : Slices slices (gap ++ xs) := by
  cases h with
  | nil => exact .nil _
  | cons gap' slice h =>
    rw [← List.append_assoc]
    exact .cons (gap ++ gap') slice h

lemma Slices.append (h : Slices slices xs) (h' : Slices slices' ys) :
    Slices (slices ++ slices') (xs ++ ys) := by
  induction h with
  | nil rest => exact h'.behind_gap rest
  | cons gap slice _ ih =>
    rw [List.cons_append, List.append_assoc, List.append_assoc]
    exact .cons gap slice ih

lemma Slices.single (xs : List α) : Slices [xs] xs := by
  have h := Slices.cons [] xs (Slices.nil [])
  rwa [List.append_nil, List.nil_append] at h

/-- A buffer that has lost its front, from which the slices were taken. -/
def TakesSlices (before after : List α) (slices : List (List α)) : Prop :=
  ∃ front, before = front ++ after ∧ Slices slices front

variable {before mid after : List α}

lemma TakesSlices.of_suffix (h : after <:+ before) : TakesSlices before after [] := by
  obtain ⟨front, rfl⟩ := h
  exact ⟨front, rfl, .nil _⟩

lemma TakesSlices.of_slice {slice : List α} (h : before = slice ++ after) :
    TakesSlices before after [slice] :=
  ⟨slice, h, .single slice⟩

lemma TakesSlices.trans (h : TakesSlices before mid slices) (h' : TakesSlices mid after slices') :
    TakesSlices before after (slices ++ slices') := by
  obtain ⟨front, rfl, hslices⟩ := h
  obtain ⟨front', rfl, hslices'⟩ := h'
  exact ⟨front ++ front', (List.append_assoc _ _ _).symm, hslices.append hslices'⟩

end

end Ork3.Library
