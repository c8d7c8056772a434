import Mathlib

/-!
# Scanning a row from left to right

A glyph takes as many columns as it is wide, and one at least; the next glyph starts behind it.
-/

namespace Ork3.Library

/-- What every step of a loop over `0 … n - 1` carries from one index to the next holds at its
end. -/
theorem foldl_range_invariant {σ : Type*} {step : σ → Nat → σ} {s : σ} {n : Nat}
    (inv : Nat → σ → Prop) (h₀ : inv 0 s) (hstep : ∀ k < n, ∀ s, inv k s → inv (k + 1) (step s k)) :
    inv n ((List.range n).foldl step s) := by
  induction n with
  | zero => exact h₀
  | succ n ih =>
    rw [List.range_succ, List.foldl_append]
    apply hstep n (Nat.lt_succ_self n)
    exact ih fun k hk => hstep k (Nat.lt_succ_of_lt hk)

/-- The columns at which the glyphs of a row start. -/
inductive StartsGlyph (width : Nat → Nat) : Nat → Prop
  | zero : StartsGlyph width 0
  | next {c : Nat} : StartsGlyph width c → StartsGlyph width (c + max 1 (width c))

section
variable {width : Nat → Nat} {c d k : Nat}

/-- Of two glyphs, one ends before the other one starts. -/
lemma StartsGlyph.apart (h : StartsGlyph width c) (hd : StartsGlyph width d) :
    (d < c → d + max 1 (width d) ≤ c) ∧ (c < d → c + max 1 (width c) ≤ d) := by
  induction h generalizing d with
  | zero =>
    refine ⟨fun hlt => by omega, fun hlt => ?_⟩
    induction hd with
    | zero => omega
    | @next d hd ih =>
      rcases Nat.eq_zero_or_pos d with rfl | hpos
      · exact le_rfl
      · have hle := ih hpos
        omega
  | @next c h ih =>
    refine ⟨fun hlt => ?_, fun hlt => ?_⟩
    · rcases lt_trichotomy d c with hbefore | rfl | hafter
      · have hle := (ih hd).1 hbefore
        omega
      · exact le_rfl
      · have hle := (ih hd).2 hafter
        omega
    · induction hd with
      | zero => omega
      | @next d hd ih' =>
        rcases lt_trichotomy d (c + max 1 (width c)) with hbefore | rfl | hafter
        · -- the glyph at `d` would have to reach into the one at `c`
          rcases lt_trichotomy d c with hd' | rfl | hd'
          · have hle := (ih hd).1 hd'
            omega
          · omega
          · have hle := (ih hd).2 hd'
            omega
        · exact le_rfl
        · have hle := ih' hafter
          omega

lemma StartsGlyph.not_inside (h : StartsGlyph width c) (hlt : c < k)
    (hk : k < c + max 1 (width c)) : ¬ StartsGlyph width k := by
  intro hstart
  have hle := (h.apart hstart).2 hlt
  omega

/-- A column where no glyph starts is covered by a glyph on its left. -/
lemma exists_covering (h : ¬ StartsGlyph width k) :
    ∃ c < k, StartsGlyph width c ∧ k < c + width c := by
  induction k with
  | zero => exact absurd .zero h
  | succ k ih =>
    by_cases hstart : StartsGlyph width k
    · refine ⟨k, Nat.lt_succ_self k, hstart, ?_⟩
      by_contra hnarrow
      have hnext := hstart.next
      rw [show k + max 1 (width k) = k + 1 by omega] at hnext
      exact h hnext
    · obtain ⟨c, hlt, hc, hcovers⟩ := ih hstart
      refine ⟨c, by omega, hc, ?_⟩
      by_contra hends
      have hnext := hc.next
      rw [show c + max 1 (width c) = k + 1 by omega] at hnext
      exact h hnext

end

end Ork3.Library
