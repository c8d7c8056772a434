import Mathlib

/-!
# Chunks of a fixed size

A list cut from the front into chunks of `n` elements; the last chunk is what is left.
-/

namespace Ork3.Library

section
variable {α : Type*} {n : Nat} {xs : List α} {i : Nat} {chunk : List α}

/-- `slice::chunks`. -/
def chunks (n : Nat) (xs : List α) : List (List α) :=
  (List.range ((xs.length + n - 1) / n)).map fun i => (xs.drop (i * n)).take n

lemma length_chunks (n : Nat) (xs : List α) : (chunks n xs).length = (xs.length + n - 1) / n := by
  rw [chunks, List.length_map, List.length_range]

lemma flatten_map_take (n k : Nat) (xs : List α) :
    ((List.range k).map fun i => (xs.drop (i * n)).take n).flatten = xs.take (k * n) := by
  induction k with
  | zero => simp
  | succ k ih =>
    rw [List.range_succ, List.map_append, List.flatten_append, ih, Nat.succ_mul, List.take_add]
    simp

/-- The chunks are the list. -/
theorem flatten_chunks (hn : 0 < n) (xs : List α) : (chunks n xs).flatten = xs := by
  rw [chunks, flatten_map_take]
  apply List.take_of_length_le
  have hle := Nat.lt_div_mul_add (a := xs.length + n - 1) hn
  omega

lemma getElem?_chunks (h : (chunks n xs)[i]? = some chunk) :
    i * n < xs.length ∧ i < (xs.length + n - 1) / n ∧ chunk = (xs.drop (i * n)).take n := by
  obtain ⟨hlt, rfl⟩ := List.getElem?_eq_some_iff.mp h
  rw [length_chunks] at hlt
  have hn : 0 < n := by
    rcases Nat.eq_zero_or_pos n with rfl | hpos
    · rw [Nat.div_zero] at hlt
      omega
    · exact hpos
  have hle := (Nat.le_div_iff_mul_le hn).mp (Nat.succ_le_of_lt hlt)
  rw [Nat.succ_mul] at hle
  refine ⟨by omega, hlt, ?_⟩
  simp [chunks]

lemma length_le_of_mem_chunks (h : chunk ∈ chunks n xs) : chunk.length ≤ n := by
  obtain ⟨i, hi⟩ := List.mem_iff_getElem?.mp h
  obtain ⟨-, -, rfl⟩ := getElem?_chunks hi
  rw [List.length_take]
  omega

end

end Ork3.Library
