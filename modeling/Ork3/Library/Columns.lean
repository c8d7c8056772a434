import Mathlib

/-!
# Columns of items of different widths

The items of a list stand side by side, each as wide as its width. An item of no width shares the
last column of the item it follows.
-/

namespace Ork3.Library

section
variable {α : Type*} (width : α → ℕ) (l : List α)

/-- The columns before an item. -/
def columnOf (k : ℕ) : ℕ := ((l.take k).map width).sum

variable {l} {a b k : ℕ} {x : α}

lemma columnOf_zero : columnOf width l 0 = 0 := rfl

lemma columnOf_succ (h : l[k]? = some x) : columnOf width l (k + 1) = columnOf width l k + width x := by
  unfold columnOf
  rw [List.take_add_one, h, Option.toList_some, List.map_append, List.sum_append]
  rfl

lemma columnOf_cons_succ (x : α) (l : List α) (k : ℕ) :
    columnOf width (x :: l) (k + 1) = width x + columnOf width l k := by
  unfold columnOf
  rw [List.take_succ_cons, List.map_cons, List.sum_cons]

variable (l) in
lemma columnOf_mono (h : a ≤ b) : columnOf width l a ≤ columnOf width l b := by
  unfold columnOf
  obtain ⟨c, rfl⟩ := Nat.exists_eq_add_of_le h
  rw [List.take_add, List.map_append, List.sum_append]
  omega

/-- Items further right stand behind the whole item. -/
lemma columnOf_add_le (hx : l[a]? = some x) (h : a < b) :
    columnOf width l a + width x ≤ columnOf width l b := by
  rw [← columnOf_succ width hx]
  exact columnOf_mono width l h

variable {width}

/-- The item that ends right before a column is the last one with a width. -/
lemma exists_base (h : 0 < columnOf width l k) :
    ∃ p x, p < k ∧ l[p]? = some x ∧ 0 < width x ∧ columnOf width l (p + 1) = columnOf width l k ∧
      ∀ q, p < q → q < k → ∀ y ∈ l[q]?, width y = 0 := by
  induction k with
  | zero => exact absurd h (lt_irrefl 0)
  | succ k ih =>
    cases hk : l[k]? with
    | none =>
      have hlength : l.length ≤ k := List.getElem?_eq_none_iff.mp hk
      have hsame : columnOf width l (k + 1) = columnOf width l k := by
        unfold columnOf
        rw [List.take_of_length_le hlength, List.take_of_length_le (by omega)]
      rw [hsame] at h ⊢
      obtain ⟨p, x, hp, hx, hpos, hcol, hzero⟩ := ih h
      refine ⟨p, x, by omega, hx, hpos, hcol, ?_⟩
      intro q hpq hq y hy
      by_cases hqk : q = k
      · rw [hqk, hk] at hy
        cases hy
      · exact hzero q hpq (by omega) y hy
    | some y =>
      by_cases hy : 0 < width y
      · refine ⟨k, y, by omega, hk, hy, rfl, ?_⟩
        intro q hkq hq
        omega
      · have hsame : columnOf width l (k + 1) = columnOf width l k := by
          rw [columnOf_succ width hk]
          omega
        rw [hsame] at h ⊢
        obtain ⟨p, x, hp, hx, hpos, hcol, hzero⟩ := ih h
        refine ⟨p, x, by omega, hx, hpos, hcol, ?_⟩
        intro q hpq hq z hz
        by_cases hqk : q = k
        · rw [hqk, hk] at hz
          rw [← Option.some.inj hz]
          omega
        · exact hzero q hpq (by omega) z hz

/-- Some item reaches every column that is taken. -/
lemma exists_crossing {m : ℕ} (hm : 0 < m) (h : m ≤ columnOf width l k) :
    ∃ p x, p < k ∧ l[p]? = some x ∧ 0 < width x ∧ columnOf width l p < m ∧
      m ≤ columnOf width l (p + 1) := by
  induction k with
  | zero => exact absurd (hm.trans_le h) (lt_irrefl 0)
  | succ k ih =>
    by_cases hk : m ≤ columnOf width l k
    · obtain ⟨p, x, hp, hcross⟩ := ih hk
      exact ⟨p, x, by omega, hcross⟩
    · cases hx : l[k]? with
      | none =>
        have hlength : l.length ≤ k := List.getElem?_eq_none_iff.mp hx
        unfold columnOf at h hk
        rw [List.take_of_length_le (by omega)] at h hk
        exact absurd h hk
      | some x =>
        have hsucc := columnOf_succ width hx
        exact ⟨k, x, by omega, hx, by omega, by omega, h⟩

/-- Without a column to the left every item there has no width. -/
lemma width_eq_zero_of_columnOf (h : columnOf width l k = 0) (ha : a < k) (hx : l[a]? = some x) :
    width x = 0 := by
  have hle := columnOf_add_le width hx ha
  omega

lemma columnOf_eq_zero (h : ∀ a < k, ∀ x ∈ l[a]?, width x = 0) : columnOf width l k = 0 := by
  by_contra hne
  obtain ⟨p, x, hp, hx, hpos, -⟩ := exists_base (Nat.pos_of_ne_zero hne)
  have hzero := h p hp x hx
  omega

end

end Ork3.Library
