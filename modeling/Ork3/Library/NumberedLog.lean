import Mathlib

/-!
# A numbered log and its window

A log numbers what is appended to it from one on and keeps a window of its last entries. A reader
keeps the number it has reached and asks for the entries after it.
-/

namespace Ork3.Library

section
variable {α : Type*}

/-- The elements with their numbers, the first one numbered `n + 1`. -/
def numberedFrom : Nat → List α → List (Nat × α)
  | _, [] => []
  | n, x :: xs => (n + 1, x) :: numberedFrom (n + 1) xs

attribute [grind =] numberedFrom

/-- The last `cap` entries. -/
def window (cap : Nat) (log : List α) : List α :=
  log.drop (log.length - cap)

attribute [grind =] window

@[simp]
lemma length_numberedFrom (n : Nat) (xs : List α) : (numberedFrom n xs).length = xs.length := by
  induction xs generalizing n with
  | nil => rfl
  | cons x xs ih => simp [numberedFrom, ih]

lemma numberedFrom_append (n : Nat) (xs ys : List α) :
    numberedFrom n (xs ++ ys) = numberedFrom n xs ++ numberedFrom (n + xs.length) ys := by
  induction xs generalizing n with
  | nil => rfl
  | cons x xs ih =>
    have hn : n + 1 + xs.length = n + (xs.length + 1) := by omega
    simp only [List.cons_append, numberedFrom, ih, List.length_cons, hn]

lemma drop_numberedFrom (n k : Nat) (xs : List α) :
    (numberedFrom n xs).drop k = numberedFrom (n + k) (xs.drop k) := by
  induction xs generalizing n k with
  | nil => simp [numberedFrom]
  | cons x xs ih =>
    cases k with
    | zero => rfl
    | succ k =>
      have hn : n + 1 + k = n + (k + 1) := by omega
      simp only [numberedFrom, List.drop_succ_cons, ih, hn]

lemma mem_numberedFrom {n k : Nat} {x : α} {xs : List α} :
    (k, x) ∈ numberedFrom n xs ↔ n < k ∧ xs[k - n - 1]? = some x := by
  induction xs generalizing n with
  | nil => simp [numberedFrom]
  | cons y ys ih =>
    rw [numberedFrom, List.mem_cons, ih, Prod.mk.injEq]
    rcases Nat.lt_trichotomy k (n + 1) with hk | rfl | hk
    · constructor
      · intro h
        omega
      · intro h
        omega
    · simp [eq_comm]
    · have hi : k - n - 1 = k - (n + 1) - 1 + 1 := by omega
      rw [hi, List.getElem?_cons_succ]
      constructor
      · rintro (⟨rfl, -⟩ | ⟨-, h⟩)
        · omega
        · exact ⟨by omega, h⟩
      · rintro ⟨-, h⟩
        exact .inr ⟨hk, h⟩

/-- The entries after a number are what is left when the entries up to it are dropped. -/
lemma filter_numberedFrom (n last : Nat) (xs : List α) :
    (numberedFrom n xs).filter (fun entry => last < entry.1) = (numberedFrom n xs).drop (last - n) := by
  induction xs generalizing n with
  | nil => simp [numberedFrom]
  | cons x xs ih =>
    rw [numberedFrom, List.filter_cons, ih]
    by_cases h : last < n + 1
    · have h₀ : last - n = 0 := by omega
      have h₁ : last - (n + 1) = 0 := by omega
      simp [h, h₀, h₁]
    · have hs : last - n = last - (n + 1) + 1 := by omega
      simp [h, hs]

/-- Appending to the window and dropping what overflows gives the window of the longer log. -/
lemma window_push (cap : Nat) (log : List α) (x : α) :
    window cap (log ++ [x]) = window cap (window cap log ++ [x]) := by
  unfold window
  simp only [List.length_append, List.length_drop, List.length_singleton]
  by_cases h : log.length < cap
  · have h₀ : log.length - cap = 0 := by omega
    simp only [h₀, List.drop_zero, Nat.sub_zero]
  · have h₁ : log.length - cap ≤ log.length := by omega
    rw [← List.drop_append_of_le_length h₁, List.drop_drop]
    congr 1
    omega

/-- What a reader at `last` finds in the window of a log that numbers `xs` from one on. -/
lemma window_after (cap last : Nat) (xs : List α) :
    (window cap (numberedFrom 0 xs)).filter (fun entry => last < entry.1) =
      numberedFrom (max last (xs.length - cap)) (xs.drop (max last (xs.length - cap))) := by
  unfold window
  rw [length_numberedFrom, drop_numberedFrom, filter_numberedFrom, drop_numberedFrom, List.drop_drop]
  congr 1
  · omega
  · congr 1
    omega

end

end Ork3.Library
