import Mathlib

/-!
# Stacks in a ring

A stack of fixed capacity in a ring of slots. A push goes one slot on and overwrites what is there,
which is the lowest entry of a full stack; a pop frees the top slot and goes one slot back.
-/

namespace Ork3.Library

section
variable {n : Nat} [NeZero n] {α : Type*} (slots : Fin n → α) (top : Fin n) (free : α)

/-- The `k`-th entry from the top; below the capacity every slot is free. -/
def ringEntry (k : Nat) : α := if k < n then slots (top - Fin.ofNat n k) else free

lemma ofNat_succ (k : Nat) : Fin.ofNat n (k + 1) = Fin.ofNat n k + 1 := by
  apply Fin.ext
  simp [Fin.val_add]

/-- The slots below the top are other slots. -/
lemma sub_ofNat_ne {k : Nat} (hpos : 0 < k) (hlt : k < n) : top - Fin.ofNat n k ≠ top := by
  intro heq
  have hzero : Fin.ofNat n k = 0 := sub_eq_self.mp heq
  have hval := congrArg Fin.val hzero
  rw [Fin.val_ofNat, Nat.mod_eq_of_lt hlt] at hval
  change k = 0 at hval
  omega

/-- The slot after the lowest one is the top. -/
lemma sub_ofNat_self : top - Fin.ofNat n n = top := by
  have hzero : Fin.ofNat n n = 0 := by
    apply Fin.ext
    simp
  rw [hzero, sub_zero]

@[simp] lemma ringEntry_zero : ringEntry slots top free 0 = slots top := by
  have hzero : Fin.ofNat n 0 = 0 := rfl
  unfold ringEntry
  rw [if_pos (Nat.pos_of_ne_zero (NeZero.ne n)), hzero, sub_zero]

lemma ringEntry_of_le {k : Nat} (h : n ≤ k) : ringEntry slots top free k = free :=
  if_neg (Nat.not_lt.mpr h)

/-- A new top leaves the entries below it. -/
lemma ringEntry_update (a : α) (k : Nat) :
    ringEntry (Function.update slots top a) top free (k + 1) = ringEntry slots top free (k + 1) := by
  unfold ringEntry
  by_cases hk : k + 1 < n
  · rw [if_pos hk, if_pos hk, Function.update_of_ne (sub_ofNat_ne top (Nat.succ_pos k) hk)]
  · rw [if_neg hk, if_neg hk]

/-- A push moves every entry one down, and the lowest one out. -/
lemma ringEntry_push (a : α) (k : Nat) :
    ringEntry (Function.update slots (top + 1) a) (top + 1) free (k + 1) =
      if k + 1 < n then ringEntry slots top free k else free := by
  rw [ringEntry_update]
  by_cases hk : k + 1 < n
  · have hslot : top + 1 - Fin.ofNat n (k + 1) = top - Fin.ofNat n k := by
      rw [ofNat_succ, add_sub_add_right_eq_sub]
    unfold ringEntry
    rw [if_pos hk, if_pos hk, if_pos (Nat.lt_of_succ_lt hk), hslot]
  · rw [if_neg hk, ringEntry_of_le _ _ _ (Nat.le_of_not_lt hk)]

/-- A pop moves every entry one up. -/
lemma ringEntry_pop (k : Nat) :
    ringEntry (Function.update slots top free) (top - 1) free k =
      ringEntry slots top free (k + 1) := by
  have hslot : top - 1 - Fin.ofNat n k = top - Fin.ofNat n (k + 1) := by
    rw [ofNat_succ, sub_sub, add_comm]
  unfold ringEntry
  rw [hslot]
  by_cases hk : k + 1 < n
  · have hne := sub_ofNat_ne top (Nat.succ_pos k) hk
    rw [if_pos (Nat.lt_of_succ_lt hk), if_pos hk, Function.update_of_ne hne]
  · rw [if_neg hk]
    by_cases hlast : k < n
    · obtain rfl : n = k + 1 := by omega
      rw [if_pos hlast, sub_ofNat_self, Function.update_self]
    · rw [if_neg hlast]

end

end Ork3.Library
