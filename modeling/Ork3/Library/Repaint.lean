import Ork3.Library.GlyphRow

/-!
# Painting a row from left to right

Glyphs are printed one after the other, or left out where the old row shows them already. Ahead of
the columns that are done the old row stands, but for one half of a glyph whose other half has been
printed over.
-/

namespace Ork3.Library

section
variable {γ : Type*}

/-- The columns before `c` show the new glyphs, and `c` does if one of them covers it. -/
structure Painted (wide : Nat → Bool) (glyphs : Nat → γ) (c : Nat) (row : Nat → GridCell γ) :
    Prop where
  paired : Paired row
  done : ∀ k < c, row k = arranged wide glyphs k
  covered : coveredBy wide c = true → row c = arranged wide glyphs c

/-- The first column at `c` or behind it that no new glyph covers yet. -/
def frontier (wide : Nat → Bool) (c : Nat) : Nat := if coveredBy wide c then c + 1 else c

/-- Painted up to `c`; from the frontier on the old row stands, at the frontier perhaps less the
right half of a glyph. -/
structure Repainted (wide wide' : Nat → Bool) (glyphs glyphs' : Nat → γ) (width c : Nat)
    (row : Nat → GridCell γ) : Prop extends Painted wide glyphs c row where
  ahead : ∀ k < width, frontier wide c < k → row k = arranged wide' glyphs' k
  edge : frontier wide c < width → row (frontier wide c) = arranged wide' glyphs' (frontier wide c) ∨
    row (frontier wide c) = .blank ∧ coveredBy wide' (frontier wide c) = true

variable {wide wide' : Nat → Bool} {glyphs glyphs' : Nat → γ} {width c : Nat}
  {row : Nat → GridCell γ}

lemma frontier_of_covered (h : coveredBy wide c = true) : frontier wide c = c + 1 := if_pos h

lemma frontier_of_not_covered (h : coveredBy wide c = false) : frontier wide c = c := by
  rw [frontier, if_neg]
  rw [h]
  exact Bool.false_ne_true

lemma coveredBy_succ : coveredBy wide (c + 1) = wide c := rfl

namespace Painted

lemma start (h : Paired row) : Painted wide glyphs 0 row :=
  ⟨h, fun _ hk => absurd hk (Nat.not_lt_zero _), fun hcovered => by cases hcovered⟩

/-- An uncovered column shows no right half. -/
lemma isRight_eq_false (h : Painted wide glyphs c row) (hcovered : coveredBy wide c = false) :
    (row c).isRight = false := by
  cases c with
  | zero => exact h.paired.start
  | succ c =>
    rw [coveredBy_succ] at hcovered
    rw [← h.paired.halves, h.done c (Nat.lt_succ_self c), isLeft_arranged, hcovered, Bool.and_false]

/-- The column is covered by the glyph before it. -/
lemma skip (h : Painted wide glyphs c row) (hcovered : coveredBy wide c = true)
    (hnarrow : wide c = false) : Painted wide glyphs (c + 1) row where
  paired := h.paired
  done k hk := by
    rcases Nat.lt_succ_iff_lt_or_eq.mp hk with hlt | rfl
    · exact h.done k hlt
    · exact h.covered hcovered
  covered hnext := by
    rw [coveredBy_succ, hnarrow] at hnext
    cases hnext

lemma ofNarrow (h : Painted wide glyphs c row) (hcovered : coveredBy wide c = false)
    (hnarrow : wide c = false) : Painted wide glyphs (c + 1) (printNarrow c (glyphs c) row) where
  paired := h.paired.printNarrow
  done k hk := by
    rcases Nat.lt_succ_iff_lt_or_eq.mp hk with hlt | rfl
    · rw [printNarrow_of_lt hlt (h.isRight_eq_false hcovered), h.done k hlt]
    · rw [printNarrow_self, arranged_of_not_covered hcovered, hnarrow]
      rfl
  covered hnext := by
    rw [coveredBy_succ, hnarrow] at hnext
    cases hnext

lemma ofWide (h : Painted wide glyphs c row) (hcovered : coveredBy wide c = false)
    (hwide : wide c = true) : Painted wide glyphs (c + 1) (printWide c (glyphs c) row) where
  paired := h.paired.printWide
  done k hk := by
    rcases Nat.lt_succ_iff_lt_or_eq.mp hk with hlt | rfl
    · rw [printWide_of_lt hlt (h.isRight_eq_false hcovered), h.done k hlt]
    · rw [printWide_left, arranged_of_not_covered hcovered, hwide]
      rfl
  covered _ := by rw [printWide_right, arranged_succ_of_wide hwide]

end Painted

namespace Repainted

lemma start (hold : ∀ k < width, row k = arranged wide' glyphs' k) (h : Paired row) :
    Repainted wide wide' glyphs glyphs' width 0 row where
  toPainted := .start h
  ahead k hk _ := hold k hk
  edge hlt := .inl (hold _ hlt)

lemma skip (h : Repainted wide wide' glyphs glyphs' width c row)
    (hcovered : coveredBy wide c = true) (hnarrow : wide c = false) :
    Repainted wide wide' glyphs glyphs' width (c + 1) row := by
  have hfrontier : frontier wide (c + 1) = frontier wide c := by
    rw [frontier_of_covered hcovered, frontier_of_not_covered (coveredBy_succ.trans hnarrow)]
  refine ⟨h.toPainted.skip hcovered hnarrow, ?_, ?_⟩
  · rw [hfrontier]
    exact h.ahead
  · rw [hfrontier]
    exact h.edge

/-- What the glyph at the frontier has in common with the old row. -/
lemma isLeft_old (h : Repainted wide wide' glyphs glyphs' width c row) (hlt : frontier wide c < width)
    (hleft : (row (frontier wide c)).isLeft = true) : wide' (frontier wide c) = true := by
  rcases h.edge hlt with hold | ⟨hblank, -⟩
  · rw [hold, isLeft_arranged, Bool.and_eq_true] at hleft
    exact hleft.2
  · rw [hblank] at hleft
    cases hleft

lemma ofNarrow (h : Repainted wide wide' glyphs glyphs' width c row)
    (hcovered : coveredBy wide c = false) (hnarrow : wide c = false) :
    Repainted wide wide' glyphs glyphs' width (c + 1) (printNarrow c (glyphs c) row) := by
  have hbefore := frontier_of_not_covered hcovered
  have hafter : frontier wide (c + 1) = c + 1 :=
    frontier_of_not_covered (coveredBy_succ.trans hnarrow)
  refine ⟨h.toPainted.ofNarrow hcovered hnarrow, fun k hk hlt => ?_, fun hlt => ?_⟩
  · rw [hafter] at hlt
    rw [printNarrow_of_gt (by omega) (fun heq => by omega), h.ahead k hk (by omega)]
  · rw [hafter] at hlt ⊢
    by_cases hleft : (row c).isLeft = true
    · right
      refine ⟨?_, ?_⟩
      · rw [printNarrow, if_neg (by omega), breakAround, if_pos (.inr ⟨rfl, hleft⟩)]
      · rw [coveredBy_succ]
        have hold := h.isLeft_old (by omega)
        rw [hbefore] at hold
        exact hold hleft
    · left
      rw [printNarrow_of_gt (by omega) (fun _ => Bool.eq_false_of_not_eq_true hleft),
        h.ahead (c + 1) hlt (by omega)]

lemma ofWide (h : Repainted wide wide' glyphs glyphs' width c row) (hc : c + 1 < width)
    (hcovered : coveredBy wide c = false) (hwide : wide c = true) :
    Repainted wide wide' glyphs glyphs' width (c + 1) (printWide c (glyphs c) row) := by
  have hbefore := frontier_of_not_covered hcovered
  have hafter : frontier wide (c + 1) = c + 1 + 1 :=
    frontier_of_covered (coveredBy_succ.trans hwide)
  have hnext : row (c + 1) = arranged wide' glyphs' (c + 1) := h.ahead (c + 1) hc (by omega)
  refine ⟨h.toPainted.ofWide hcovered hwide, fun k hk hlt => ?_, fun hlt => ?_⟩
  · rw [hafter] at hlt
    rw [printWide_of_gt (by omega) (fun heq => by omega), h.ahead k hk (by omega)]
  · rw [hafter] at hlt ⊢
    by_cases hleft : (row (c + 1)).isLeft = true
    · right
      refine ⟨?_, ?_⟩
      · rw [printWide, if_neg (by omega), if_neg (by omega), breakAround,
          if_pos (.inr ⟨rfl, hleft⟩)]
      · rw [hnext, isLeft_arranged, Bool.and_eq_true] at hleft
        exact hleft.2
    · left
      rw [printWide_of_gt (by omega) (fun _ => Bool.eq_false_of_not_eq_true hleft),
        h.ahead (c + 1 + 1) hlt (by omega)]

/-- A glyph that the old row shows in the same column is left out. -/
lemma keep (h : Repainted wide wide' glyphs glyphs' width c row) (hc : c < width)
    (hlast : wide c = true → c + 1 < width) (hcovered : coveredBy wide c = false)
    (hcovered' : coveredBy wide' c = false) (hsame : wide c = wide' c)
    (hglyph : glyphs c = glyphs' c) :
    Repainted wide wide' glyphs glyphs' width (c + 1) row := by
  have hbefore := frontier_of_not_covered hcovered
  have hold : row c = arranged wide' glyphs' c := by
    have hedge := h.edge (by omega)
    rw [hbefore, hcovered'] at hedge
    exact hedge.resolve_right fun hblank => Bool.false_ne_true hblank.2
  have hnew : row c = arranged wide glyphs c := by
    rw [hold, arranged_of_not_covered hcovered, arranged_of_not_covered hcovered', hsame, hglyph]
  have hle : c < frontier wide (c + 1) := by
    unfold frontier
    split <;> omega
  have hpainted : Painted wide glyphs (c + 1) row := by
    refine ⟨h.paired, fun k hk => ?_, fun hwide => ?_⟩
    · rcases Nat.lt_succ_iff_lt_or_eq.mp hk with hlt | rfl
      · exact h.done k hlt
      · exact hnew
    · rw [coveredBy_succ] at hwide
      rw [h.ahead (c + 1) (hlast hwide) (by omega), arranged_succ_of_wide hwide,
        arranged_succ_of_wide (hsame ▸ hwide), hglyph]
  refine ⟨hpainted, fun k hk hlt => ?_, fun hlt => ?_⟩
  · exact h.ahead k hk (by omega)
  · exact .inl (h.ahead _ hlt (by omega))

end Repainted

end

end Ork3.Library
