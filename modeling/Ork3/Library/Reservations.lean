import Mathlib

/-!
# Reservations over nested loops

Loops hand a state on from turn to turn. `trace` collects the turns of a loop, also those of the
loops inside it, and `Linked` says that what one turn leaves is what the next one finds. Where a turn
adds at most one key to a set, the set holds the keys of the turns so far.
-/

namespace Ork3.Library

section
variable {σ ι τ κ : Type*}

/-- The turns of a loop, `out s x` being those of its body. -/
def trace (step : σ → ι → σ) (out : σ → ι → List τ) : σ → List ι → List τ
  | _, [] => []
  | s, x :: xs => out s x ++ trace step out (step s x) xs

variable (before after : τ → κ)

/-- Each turn finds what the one before it left. -/
def Linked : κ → List τ → κ → Prop
  | first, [], last => first = last
  | first, turn :: turns, last => before turn = first ∧ Linked (after turn) turns last

variable {before after}

lemma Linked.append {first middle last : κ} {turns later : List τ}
    (h : Linked before after first turns middle) (h' : Linked before after middle later last) :
    Linked before after first (turns ++ later) last := by
  induction turns generalizing first with
  | nil =>
    cases h
    exact h'
  | cons turn turns ih => exact ⟨h.1, ih h.2⟩

/-- The turns of a loop are linked if those of its body are. -/
theorem linked_trace {step : σ → ι → σ} {out : σ → ι → List τ} (view : σ → κ)
    (hbody : ∀ s x, Linked before after (view s) (out s x) (view (step s x))) (s : σ)
    (xs : List ι) :
    Linked before after (view s) (trace step out s xs) (view (xs.foldl step s)) := by
  induction xs generalizing s with
  | nil => rfl
  | cons x xs ih => exact (hbody s x).append (ih (step s x))

/-- Where the body of a loop adds only what its turns make, so does the loop. -/
theorem holds_foldl_trace {ε : Type*} {step : σ → ι → σ} {out : σ → ι → List τ}
    (holds : σ → ε → Prop) (makes : τ → ε → Prop)
    (hbody : ∀ s x e, holds (step s x) e → holds s e ∨ ∃ turn ∈ out s x, makes turn e) {s : σ}
    {xs : List ι} {e : ε} (h : holds (xs.foldl step s) e) :
    holds s e ∨ ∃ turn ∈ trace step out s xs, makes turn e := by
  induction xs generalizing s with
  | nil => exact Or.inl h
  | cons x xs ih =>
    simp only [trace, List.mem_append]
    rcases ih h with hstep | ⟨turn, hturn, hmakes⟩
    · rcases hbody s x e hstep with hs | ⟨turn, hturn, hmakes⟩
      · exact Or.inl hs
      · exact Or.inr ⟨turn, Or.inl hturn, hmakes⟩
    · exact Or.inr ⟨turn, Or.inr hturn, hmakes⟩

end

section
variable {τ κ : Type*} [DecidableEq κ] {before after : τ → Finset κ} {held : τ → Option κ}
  {first last : Finset κ} {turns later : List τ} {turn : τ}

/-- A turn finds the keys that the turns before it hold. -/
theorem Linked.before_eq (hafter : ∀ t, after t = before t ∪ (held t).toFinset)
    (h : Linked before after first (turns ++ turn :: later) last) :
    before turn = first ∪ (turns.filterMap held).toFinset := by
  induction turns generalizing first with
  | nil =>
    rw [h.1]
    simp
  | cons earlier turns ih =>
    have hfirst := h.1
    rw [ih h.2, hafter, hfirst]
    cases hheld : held earlier with
    | none => simp [hheld]
    | some key => simp [hheld]

end

end Ork3.Library
