import Mathlib

/-!
# Pieces of a text

What stands behind a fixed beginning, and around the last occurrence of a separator.
-/

namespace Ork3.Library

section
variable {α : Type*} [DecidableEq α]

def stripStart (start text : List α) : Option (List α) :=
  if start <+: text then some (text.drop start.length) else none

/-- What stands before and after the last occurrence of the separator. -/
def rsplitOnce (separator : List α) : List α → Option (List α × List α)
  | [] => if separator = [] then some ([], []) else none
  | c :: text =>
    match rsplitOnce separator text with
    | some (before, after) => some (c :: before, after)
    | none => (stripStart separator (c :: text)).map fun after => ([], after)

variable {c d : α} {rest text : List α}

omit [DecidableEq α] in
/-- What stands around the first occurrence of a separator is determined. -/
lemma append_separator_inj {before before' after after' : List α} (hbefore : c ∉ before)
    (hbefore' : c ∉ before') :
    before ++ c :: after = before' ++ c :: after' ↔ before = before' ∧ after = after' := by
  induction before generalizing before' with
  | nil =>
    cases before' with
    | nil => simp
    | cons d before' =>
      have hne : c ≠ d := fun heq => hbefore' (heq ▸ List.mem_cons_self)
      simp [hne]
  | cons d before ih =>
    cases before' with
    | nil =>
      have hne : d ≠ c := fun heq => hbefore (heq ▸ List.mem_cons_self)
      simp [hne]
    | cons e before' =>
      rw [List.mem_cons, not_or] at hbefore hbefore'
      rw [List.cons_append, List.cons_append, List.cons.injEq, List.cons.injEq,
        ih hbefore.2 hbefore'.2, and_assoc]

lemma stripStart_append (start text : List α) : stripStart start (start ++ text) = some text := by
  rw [stripStart, if_pos (List.prefix_append _ _), List.drop_left]

lemma stripStart_cons_of_ne (h : c ≠ d) : stripStart (c :: rest) (d :: text) = none :=
  if_neg fun hstart => h (List.cons_prefix_cons.mp hstart).1

lemma rsplitOnce_of_notMem (h : c ∉ text) : rsplitOnce (c :: rest) text = none := by
  induction text with
  | nil => rfl
  | cons d text ih =>
    rw [List.mem_cons, not_or] at h
    rw [rsplitOnce, ih h.2]
    dsimp only
    rw [stripStart_cons_of_ne h.1]
    rfl

/-- A separator whose first letter occurs once in what it starts is the last one. -/
lemma rsplitOnce_append (hrest : c ∉ rest) (before : List α) {after : List α} (hafter : c ∉ after) :
    rsplitOnce (c :: rest) (before ++ (c :: rest) ++ after) = some (before, after) := by
  induction before with
  | nil =>
    have hnone : rsplitOnce (c :: rest) (rest ++ after) = none :=
      rsplitOnce_of_notMem (by rw [List.mem_append, not_or]; exact ⟨hrest, hafter⟩)
    rw [List.nil_append, List.cons_append, rsplitOnce, hnone]
    dsimp only
    rw [← List.cons_append, stripStart_append]
    rfl
  | cons d before ih =>
    rw [List.cons_append, List.cons_append, rsplitOnce, ih]

end

end Ork3.Library
