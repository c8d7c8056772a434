import Mathlib

/-!
# The first occurrence of a text

What stands behind it, and the part of a list that ends with it.
-/

namespace Ork3.Library

section
variable {α : Type*} [DecidableEq α]

/-- What stands behind the first occurrence of the needle. -/
def afterFirst (needle : List α) : List α → Option (List α)
  | [] => if needle = [] then some [] else none
  | c :: s => if needle <+: c :: s then some ((c :: s).drop needle.length) else afterFirst needle s

/-- The needle occurs in the block at its end only. -/
def ClosedBy (needle block : List α) : Prop := needle <:+ block ∧ ¬ needle <:+: block.dropLast

variable {needle s block behind : List α}

lemma afterFirst_length_lt (hneedle : needle ≠ []) (h : afterFirst needle s = some behind) :
    behind.length < s.length := by
  induction s with
  | nil =>
    rw [afterFirst, if_neg hneedle] at h
    cases h
  | cons c s ih =>
    rw [afterFirst] at h
    by_cases hpre : needle <+: c :: s
    · rw [if_pos hpre] at h
      have hpos := List.length_pos_of_ne_nil hneedle
      rw [← Option.some.inj h, List.length_drop, List.length_cons]
      omega
    · rw [if_neg hpre] at h
      have hlt := ih h
      rw [List.length_cons]
      omega

/-- The list up to the first occurrence is closed by it. -/
lemma exists_of_afterFirst (hneedle : needle ≠ []) (h : afterFirst needle s = some behind) :
    ∃ block, ClosedBy needle block ∧ s = block ++ behind := by
  induction s with
  | nil =>
    rw [afterFirst, if_neg hneedle] at h
    cases h
  | cons c s ih =>
    rw [afterFirst] at h
    by_cases hpre : needle <+: c :: s
    · rw [if_pos hpre] at h
      obtain ⟨tail, htail⟩ := hpre
      refine ⟨needle, ⟨List.suffix_rfl, ?_⟩, ?_⟩
      · intro hin
        have hle := hin.length_le
        have hpos := List.length_pos_of_ne_nil hneedle
        rw [List.length_dropLast] at hle
        omega
      · rw [← Option.some.inj h, ← htail, List.drop_left]
    · rw [if_neg hpre] at h
      obtain ⟨block, ⟨hsuffix, honce⟩, rfl⟩ := ih h
      have hne : block ≠ [] := by
        rintro rfl
        exact hneedle (List.suffix_nil.mp hsuffix)
      refine ⟨c :: block, ⟨hsuffix.trans (List.suffix_cons c block), ?_⟩, rfl⟩
      rw [List.dropLast_cons_of_ne_nil hne]
      intro hin
      rcases List.infix_cons_iff.mp hin with hpre' | hin
      · apply hpre
        apply hpre'.trans
        rw [List.cons_prefix_cons]
        exact ⟨rfl, (List.dropLast_prefix block).trans (List.prefix_append block behind)⟩
      · exact honce hin

lemma afterFirst_append (hneedle : needle ≠ []) (h : ClosedBy needle block) (s : List α) :
    afterFirst needle (block ++ s) = some s := by
  induction block with
  | nil => exact absurd (List.suffix_nil.mp h.1) hneedle
  | cons c block ih =>
    rw [List.cons_append, afterFirst]
    by_cases hblock : c :: block = needle
    · rw [← List.cons_append, hblock, if_pos (List.prefix_append needle s), List.drop_left]
    · have hsuffix : needle <:+ block := by
        rcases List.suffix_cons_iff.mp h.1 with heq | hsuffix
        · exact absurd heq.symm hblock
        · exact hsuffix
      have hne : block ≠ [] := by
        rintro rfl
        exact hneedle (List.suffix_nil.mp hsuffix)
      have honce := h.2
      rw [List.dropLast_cons_of_ne_nil hne] at honce
      have hpre : ¬ needle <+: c :: (block ++ s) := by
        intro hpre
        apply honce
        apply List.IsPrefix.isInfix
        apply List.prefix_of_prefix_length_le hpre
        · rw [List.cons_prefix_cons]
          exact ⟨rfl, (List.dropLast_prefix block).trans (List.prefix_append block s)⟩
        · have hle := hsuffix.length_le
          have hpos := List.length_pos_of_ne_nil hne
          rw [List.length_cons, List.length_dropLast]
          omega
      rw [if_neg hpre]
      exact ih ⟨hsuffix, fun hin => honce (List.infix_cons hin)⟩

end

end Ork3.Library
