import Mathlib

/-!
# Runs of a labelled relation

`Run step s os t` says that the steps labelled `os`, taken in this order, lead from `s` to `t`.
The rules below carry what one step preserves to every run.
-/

namespace Ork3.Library

section
variable {σ ο : Type*} {step step' : σ → ο → σ → Prop}

/-- The labels `os`, taken in this order, lead from one state to another. -/
inductive Run (step : σ → ο → σ → Prop) : σ → List ο → σ → Prop
  | nil (s : σ) : Run step s [] s
  | cons {s m t : σ} {o : ο} {os : List ο} : step s o m → Run step m os t → Run step s (o :: os) t

lemma Run.append {s m t : σ} {os ps : List ο} (h : Run step s os m) (k : Run step m ps t) :
    Run step s (os ++ ps) t := by
  induction h with
  | nil => exact k
  | cons hs _ ih => exact .cons hs (ih k)

lemma Run.snoc {s m t : σ} {os : List ο} {o : ο} (h : Run step s os m) (k : step m o t) :
    Run step s (os ++ [o]) t :=
  h.append (.cons k (.nil t))

/-- What one step preserves, every run preserves. -/
theorem Run.invariant {inv : σ → Prop} (hstep : ∀ s o t, inv s → step s o t → inv t)
    {s t : σ} {os : List ο} (h : Run step s os t) (hs : inv s) : inv t := by
  induction h with
  | nil => exact hs
  | cons k _ ih => exact ih (hstep _ _ _ hs k)

/-- The invariant rule for runs whose labels all satisfy a condition. -/
theorem Run.invariant_of_labels {inv : σ → Prop} {ok : ο → Prop}
    (hstep : ∀ s o t, ok o → inv s → step s o t → inv t)
    {s t : σ} {os : List ο} (h : Run step s os t) (hos : ∀ o ∈ os, ok o) (hs : inv s) :
    inv t := by
  induction h with
  | nil => exact hs
  | cons k _ ih =>
    exact ih (fun o ho => hos o (List.mem_cons_of_mem _ ho))
      (hstep _ _ _ (hos _ List.mem_cons_self) hs k)

/-- The invariant rule for what depends on the labels taken so far. -/
theorem Run.history_invariant {inv : List ο → σ → Prop}
    (hstep : ∀ os s o t, inv os s → step s o t → inv (os ++ [o]) t)
    {s t : σ} {os ps : List ο} (h : Run step s ps t) (hs : inv os s) : inv (os ++ ps) t := by
  induction h generalizing os with
  | nil => simpa using hs
  | @cons s m t o ps k _ ih => simpa using ih (hstep _ _ _ _ hs k)

lemma Run.mono (hstep : ∀ s o t, step s o t → step' s o t) {s t : σ} {os : List ο}
    (h : Run step s os t) : Run step' s os t := by
  induction h with
  | nil => exact .nil _
  | cons k _ ih => exact .cons (hstep _ _ _ k) ih

end

end Ork3.Library
