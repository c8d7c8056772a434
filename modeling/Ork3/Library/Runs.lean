import Mathlib

/-!
# Runs in a list

The index at which a run of elements with a property ends, looking forward or backward from an
index.
-/

namespace Ork3.Library

section
variable {α : Type*} (p : α → Bool)

/-- Where `while l.get(i).is_some_and(p) { i += 1 }` stops. -/
def runEnd (l : List α) (i : Nat) : Nat := i + ((l.drop i).takeWhile p).length

/-- Where `while i > 0 && l.get(i - 1).is_some_and(p) { i -= 1 }` stops. -/
def runStart (l : List α) : Nat → Nat
  | 0 => 0
  | i + 1 => if l[i]?.any p then runStart l i else i + 1

attribute [grind =] runStart

/-- Where `while l.get(i).is_some_and(p) { i = i.checked_sub(1)? }` stops. -/
def skipBack (l : List α) : Nat → Option Nat
  | 0 => if l[0]?.any p then none else some 0
  | i + 1 => if l[i + 1]?.any p then skipBack l i else some (i + 1)

attribute [grind =] skipBack

variable {p} {l : List α} {i j k : Nat}

/-! ### Forward -/

lemma any_of_lt_takeWhile (hk : k < (l.takeWhile p).length) : l[k]?.any p = true := by
  induction l generalizing k with
  | nil => cases hk
  | cons a l ih =>
    by_cases ha : p a = true
    · rw [List.takeWhile_cons_of_pos ha, List.length_cons] at hk
      cases k with
      | zero => exact ha
      | succ k =>
        rw [List.getElem?_cons_succ]
        exact ih (by omega)
    · rw [List.takeWhile_cons_of_neg ha] at hk
      cases hk

lemma any_length_takeWhile : l[(l.takeWhile p).length]?.any p = false := by
  induction l with
  | nil => rfl
  | cons a l ih =>
    by_cases ha : p a = true
    · rw [List.takeWhile_cons_of_pos ha, List.length_cons, List.getElem?_cons_succ, ih]
    · rw [List.takeWhile_cons_of_neg ha]
      simpa using ha

lemma le_runEnd : i ≤ runEnd p l i := Nat.le_add_right _ _

lemma any_of_lt_runEnd (hik : i ≤ k) (hk : k < runEnd p l i) : l[k]?.any p = true := by
  unfold runEnd at hk
  have hlt : k - i < ((l.drop i).takeWhile p).length := by omega
  have hany := any_of_lt_takeWhile hlt
  rw [List.getElem?_drop] at hany
  rwa [Nat.add_sub_cancel' hik] at hany

lemma any_runEnd : l[runEnd p l i]?.any p = false := by
  have hany := any_length_takeWhile (p := p) (l := l.drop i)
  rwa [List.getElem?_drop] at hany

lemma runEnd_eq (hij : i ≤ j) (hrun : ∀ k, i ≤ k → k < j → l[k]?.any p = true)
    (hstop : l[j]?.any p = false) : runEnd p l i = j := by
  rcases Nat.lt_trichotomy (runEnd p l i) j with hlt | heq | hlt
  · exact absurd (hrun _ le_runEnd hlt) (by rw [any_runEnd]; exact Bool.false_ne_true)
  · exact heq
  · exact absurd (any_of_lt_runEnd hij hlt) (by rw [hstop]; exact Bool.false_ne_true)

lemma runEnd_append_left (before : List α) :
    runEnd p (before ++ l) (before.length + i) = before.length + runEnd p l i := by
  unfold runEnd
  rw [List.drop_length_add_append, Nat.add_assoc]

lemma runEnd_append_of_lt (h : runEnd p l i < l.length) (rest : List α) :
    runEnd p (l ++ rest) i = runEnd p l i := by
  apply runEnd_eq le_runEnd
  · intro k hik hk
    rw [List.getElem?_append_left (Nat.lt_trans hk h)]
    exact any_of_lt_runEnd hik hk
  · rw [List.getElem?_append_left h]
    exact any_runEnd

/-! ### Backward -/

lemma runStart_le : runStart p l i ≤ i := by
  induction i with
  | zero => exact Nat.le_refl 0
  | succ i ih =>
    unfold runStart
    split
    · exact Nat.le_succ_of_le ih
    · exact Nat.le_refl _

lemma any_of_runStart_le (hk : runStart p l i ≤ k) (hki : k < i) : l[k]?.any p = true := by
  induction i with
  | zero => omega
  | succ i ih =>
    unfold runStart at hk
    split at hk
    · next hany =>
      by_cases heq : k = i
      · rwa [heq]
      · exact ih hk (by omega)
    · omega

lemma any_pred_runStart : runStart p l i = 0 ∨ l[runStart p l i - 1]?.any p = false := by
  induction i with
  | zero => exact .inl rfl
  | succ i ih =>
    unfold runStart
    split
    · exact ih
    · next hany => exact .inr (by simpa using hany)

lemma runStart_eq (hji : j ≤ i) (hrun : ∀ k, j ≤ k → k < i → l[k]?.any p = true)
    (hstop : j = 0 ∨ l[j - 1]?.any p = false) : runStart p l i = j := by
  rcases Nat.lt_trichotomy (runStart p l i) j with hlt | heq | hlt
  · rcases hstop with hstop | hstop
    · omega
    · have hany : l[j - 1]?.any p = true := any_of_runStart_le (i := i) (by omega) (by omega)
      exact absurd hany (by rw [hstop]; exact Bool.false_ne_true)
  · exact heq
  · rcases any_pred_runStart (p := p) (l := l) (i := i) with hzero | hany
    · omega
    · have hle : runStart p l i ≤ i := runStart_le
      have hrun' := hrun (runStart p l i - 1) (by omega) (by omega)
      exact absurd hrun' (by rw [hany]; exact Bool.false_ne_true)

lemma skipBack_eq_some (hji : j ≤ i) (hrun : ∀ k, j < k → k ≤ i → l[k]?.any p = true)
    (hstop : l[j]?.any p = false) : skipBack p l i = some j := by
  induction i with
  | zero =>
    obtain rfl := Nat.le_zero.mp hji
    unfold skipBack
    rw [hstop]
    rfl
  | succ i ih =>
    unfold skipBack
    by_cases heq : j = i + 1
    · subst heq
      rw [hstop]
      rfl
    · rw [hrun (i + 1) (by omega) (Nat.le_refl _), if_pos rfl]
      exact ih (by omega) (fun k hk hki => hrun k hk (by omega))

lemma skipBack_spec (h : skipBack p l i = some j) :
    j ≤ i ∧ (∀ k, j < k → k ≤ i → l[k]?.any p = true) ∧ l[j]?.any p = false := by
  induction i with
  | zero =>
    unfold skipBack at h
    split at h
    · cases h
    · next hany =>
      obtain rfl := Option.some.inj h
      exact ⟨Nat.le_refl 0, fun k hk hk0 => by omega, by simpa using hany⟩
  | succ i ih =>
    unfold skipBack at h
    split at h
    · next hany =>
      obtain ⟨hji, hblank, hstop⟩ := ih h
      refine ⟨by omega, fun k hk hki => ?_, hstop⟩
      by_cases heq : k = i + 1
      · rwa [heq]
      · exact hblank k hk (by omega)
    · next hany =>
      obtain rfl := Option.some.inj h
      exact ⟨Nat.le_refl _, fun k hk hki => by omega, by simpa using hany⟩

lemma runStart_append (h : i ≤ l.length) (rest : List α) :
    runStart p (l ++ rest) i = runStart p l i := by
  induction i with
  | zero => rfl
  | succ i ih =>
    unfold runStart
    rw [List.getElem?_append_left h, ih (Nat.le_of_lt h)]

lemma skipBack_append (h : i < l.length) (rest : List α) :
    skipBack p (l ++ rest) i = skipBack p l i := by
  induction i with
  | zero =>
    unfold skipBack
    rw [List.getElem?_append_left h]
  | succ i ih =>
    unfold skipBack
    rw [List.getElem?_append_left h, ih (Nat.lt_of_succ_lt h)]

end

end Ork3.Library
