import Mathlib

/-!
# Rows of a character grid

A column of a row shows a glyph of one column, one half of a glyph of two columns, or nothing.
Printing over one half of a wide glyph blanks the other half.
-/

namespace Ork3.Library

inductive GridCell (γ : Type*)
  | blank
  | narrow (g : γ)
  | left (g : γ)
  | right (g : γ)
  deriving DecidableEq

namespace GridCell

variable {γ : Type*}

def isLeft : GridCell γ → Bool
  | .left _ => true
  | _ => false

def isRight : GridCell γ → Bool
  | .right _ => true
  | _ => false

lemma isRight_of_isLeft {cell : GridCell γ} (h : cell.isLeft = true) : cell.isRight = false := by
  cases cell <;> first | rfl | cases h

lemma isLeft_of_isRight {cell : GridCell γ} (h : cell.isRight = true) : cell.isLeft = false := by
  cases cell <;> first | rfl | cases h

end GridCell

variable {γ : Type*}

/-- The row beside the columns `first` to `last` once these are about to be overwritten: the other
half of a glyph that sticks out is blanked. -/
def breakAround (first last : Nat) (row : Nat → GridCell γ) (k : Nat) : GridCell γ :=
  if (k + 1 = first ∧ (row first).isRight = true) ∨ (k = last + 1 ∧ (row last).isLeft = true) then
    .blank
  else row k

def printNarrow (c : Nat) (g : γ) (row : Nat → GridCell γ) (k : Nat) : GridCell γ :=
  if k = c then .narrow g else breakAround c c row k

def printWide (c : Nat) (g : γ) (row : Nat → GridCell γ) (k : Nat) : GridCell γ :=
  if k = c then .left g
  else if k = c + 1 then .right g
  else breakAround c (c + 1) row k

/-- Every wide glyph has both its halves, side by side. -/
structure Paired (row : Nat → GridCell γ) : Prop where
  halves : ∀ k, (row k).isLeft = (row (k + 1)).isRight
  start : (row 0).isRight = false

variable {row : Nat → GridCell γ} {c k : Nat} {g : γ}

lemma paired_blank : Paired (fun _ => (.blank : GridCell γ)) := ⟨fun _ => rfl, rfl⟩

@[simp] lemma printNarrow_self : printNarrow c g row c = .narrow g := if_pos rfl

@[simp] lemma printWide_left : printWide c g row c = .left g := if_pos rfl

@[simp] lemma printWide_right : printWide c g row (c + 1) = .right g := by
  rw [printWide, if_neg (by omega), if_pos rfl]

/-- Columns to the left stay as they are when no glyph is broken there. -/
lemma printNarrow_of_lt (hk : k < c) (hc : (row c).isRight = false) :
    printNarrow c g row k = row k := by
  rw [printNarrow, if_neg (by omega), breakAround, if_neg]
  rw [hc]
  rintro (⟨-, h⟩ | ⟨h, -⟩)
  · cases h
  · omega

lemma printWide_of_lt (hk : k < c) (hc : (row c).isRight = false) :
    printWide c g row k = row k := by
  rw [printWide, if_neg (by omega), if_neg (by omega), breakAround, if_neg]
  rw [hc]
  rintro (⟨-, h⟩ | ⟨h, -⟩)
  · cases h
  · omega

/-- Columns to the right stay as they are but for the half of a glyph that was overwritten. -/
lemma printNarrow_of_gt (hk : c < k) (hc : k = c + 1 → (row c).isLeft = false) :
    printNarrow c g row k = row k := by
  rw [printNarrow, if_neg (by omega), breakAround, if_neg]
  rintro (⟨h, -⟩ | ⟨h, hleft⟩)
  · omega
  · rw [hc h] at hleft
    cases hleft

lemma printWide_of_gt (hk : c + 1 < k) (hc : k = c + 2 → (row (c + 1)).isLeft = false) :
    printWide c g row k = row k := by
  rw [printWide, if_neg (by omega), if_neg (by omega), breakAround, if_neg]
  rintro (⟨h, -⟩ | ⟨h, hleft⟩)
  · omega
  · rw [hc h] at hleft
    cases hleft

namespace Paired

variable {first last : Nat}

lemma isLeft_breakAround (h : Paired row) :
    (breakAround first last row k).isLeft = if k + 1 = first then false else (row k).isLeft := by
  unfold breakAround
  split
  · rename_i hbroken
    rcases hbroken with ⟨hk, -⟩ | ⟨rfl, hleft⟩
    · rw [if_pos hk]
      rfl
    · rw [h.halves last] at hleft
      rw [GridCell.isLeft_of_isRight hleft, ite_self]
      rfl
  · rename_i hkept
    split
    · rename_i hk
      rw [h.halves k, hk]
      exact Bool.eq_false_of_not_eq_true fun hright => hkept (.inl ⟨hk, hright⟩)
    · rfl

lemma isRight_breakAround (h : Paired row) :
    (breakAround first last row k).isRight = if k = last + 1 then false else (row k).isRight := by
  unfold breakAround
  split
  · rename_i hbroken
    rcases hbroken with ⟨rfl, hright⟩ | ⟨hk, -⟩
    · rw [← h.halves k] at hright
      rw [GridCell.isRight_of_isLeft hright, ite_self]
      rfl
    · rw [if_pos hk]
      rfl
  · rename_i hkept
    split
    · rename_i hk
      rw [hk, ← h.halves last]
      exact Bool.eq_false_of_not_eq_true fun hleft => hkept (.inr ⟨hk, hleft⟩)
    · rfl

theorem printNarrow (h : Paired row) : Paired (printNarrow c g row) := by
  have hleft : ∀ k, (Library.printNarrow c g row k).isLeft =
      if k = c ∨ k + 1 = c then false else (row k).isLeft := by
    intro k
    unfold Library.printNarrow
    by_cases hk : k = c
    · rw [if_pos hk, if_pos (.inl hk)]
      rfl
    · rw [if_neg hk, h.isLeft_breakAround]
      simp only [hk, false_or]
  have hright : ∀ k, (Library.printNarrow c g row k).isRight =
      if k = c ∨ k = c + 1 then false else (row k).isRight := by
    intro k
    unfold Library.printNarrow
    by_cases hk : k = c
    · rw [if_pos hk, if_pos (.inl hk)]
      rfl
    · rw [if_neg hk, h.isRight_breakAround]
      simp only [hk, false_or]
  constructor
  · intro k
    have hsame : (k = c ∨ k + 1 = c) ↔ (k + 1 = c ∨ k + 1 = c + 1) := by omega
    rw [hleft, hright, h.halves k]
    simp only [hsame]
  · rw [hright, h.start, ite_self]

theorem printWide (h : Paired row) : Paired (printWide c g row) := by
  have hleft : ∀ k, (Library.printWide c g row k).isLeft =
      if k = c then true else if k = c + 1 ∨ k + 1 = c then false else (row k).isLeft := by
    intro k
    unfold Library.printWide
    by_cases hk : k = c
    · rw [if_pos hk, if_pos hk]
      rfl
    · rw [if_neg hk, if_neg hk]
      by_cases hk' : k = c + 1
      · rw [if_pos hk', if_pos (.inl hk')]
        rfl
      · rw [if_neg hk', h.isLeft_breakAround]
        simp only [hk', false_or]
  have hright : ∀ k, (Library.printWide c g row k).isRight =
      if k = c + 1 then true else if k = c + 2 ∨ k = c then false else (row k).isRight := by
    intro k
    unfold Library.printWide
    by_cases hk : k = c
    · rw [if_pos hk, if_neg (by omega), if_pos (.inr hk)]
      rfl
    · rw [if_neg hk]
      by_cases hk' : k = c + 1
      · rw [if_pos hk', if_pos hk']
        rfl
      · rw [if_neg hk', if_neg hk', h.isRight_breakAround]
        simp only [hk, or_false]
  constructor
  · intro k
    have hsame : (k = c + 1 ∨ k + 1 = c) ↔ (k + 1 = c + 2 ∨ k + 1 = c) := by omega
    rw [hleft, hright, h.halves k]
    simp only [hsame, Nat.add_right_cancel_iff]
  · rw [hright, h.start, ite_self, if_neg (by omega)]

end Paired

/-! ### Arranged rows -/

/-- The column before shows a wide glyph of its own. -/
def coveredBy (wide : Nat → Bool) : Nat → Bool
  | 0 => false
  | k + 1 => wide k

/-- The row that shows the glyph of every column, the `wide` ones over the next column. -/
def arranged (wide : Nat → Bool) (g : Nat → γ) : Nat → GridCell γ
  | 0 => if wide 0 then .left (g 0) else .narrow (g 0)
  | k + 1 => if wide k then .right (g k) else if wide (k + 1) then .left (g (k + 1))
    else .narrow (g (k + 1))

section
variable {wide : Nat → Bool} {glyphs : Nat → γ}

lemma arranged_of_not_covered (h : coveredBy wide k = false) :
    arranged wide glyphs k = if wide k then .left (glyphs k) else .narrow (glyphs k) := by
  cases k with
  | zero => rfl
  | succ k =>
    rw [arranged, if_neg]
    rw [show wide k = false from h]
    exact Bool.false_ne_true

lemma arranged_succ_of_wide (h : wide k = true) :
    arranged wide glyphs (k + 1) = .right (glyphs k) := if_pos h

lemma isRight_arranged : (arranged wide glyphs k).isRight = coveredBy wide k := by
  cases k with
  | zero =>
    rw [arranged, coveredBy]
    cases wide 0 <;> rfl
  | succ k =>
    rw [arranged, coveredBy]
    cases wide k
    · cases wide (k + 1) <;> rfl
    · rfl

lemma isLeft_arranged : (arranged wide glyphs k).isLeft = (!coveredBy wide k && wide k) := by
  cases hcovered : coveredBy wide k with
  | true =>
    have hright : (arranged wide glyphs k).isRight = true := by rw [isRight_arranged, hcovered]
    rw [GridCell.isLeft_of_isRight hright]
    rfl
  | false =>
    rw [arranged_of_not_covered hcovered]
    cases wide k <;> rfl

end

end Ork3.Library
