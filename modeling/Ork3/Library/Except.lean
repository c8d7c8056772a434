import Mathlib

/-!
# Computations that may fail

A sequence of steps succeeds exactly if each step does, from the state the one before it left.
-/

namespace Ork3.Library

universe u

section
variable {ε ι : Type*} {α β σ : Type u}

lemma bind_eq_ok {x : Except ε α} {f : α → Except ε β} {b : β} :
    x >>= f = .ok b ↔ ∃ a, x = .ok a ∧ f a = .ok b := by
  cases x with
  | error e => exact ⟨fun h => (nomatch h), fun ⟨_, h, _⟩ => (nomatch h)⟩
  | ok a => exact ⟨fun h => ⟨a, rfl, h⟩, fun ⟨_, h, hf⟩ => Except.ok.inj h ▸ hf⟩

lemma foldlM_nil_eq_ok {f : σ → ι → Except ε σ} {s t : σ} :
    [].foldlM f s = .ok t ↔ t = s :=
  ⟨fun h => (Except.ok.inj h).symm, fun h => h ▸ rfl⟩

lemma foldlM_cons_eq_ok {f : σ → ι → Except ε σ} {s t : σ} {x : ι} {l : List ι} :
    (x :: l).foldlM f s = .ok t ↔ ∃ m, f s x = .ok m ∧ l.foldlM f m = .ok t := by
  rw [List.foldlM_cons]
  exact bind_eq_ok

/-- What every step that succeeds preserves, a sequence that succeeds preserves. -/
lemma foldlM_invariant_of_mem {f : σ → ι → Except ε σ} {inv : σ → Prop} {l : List ι}
    (hstep : ∀ s x t, x ∈ l → inv s → f s x = .ok t → inv t) {s t : σ}
    (hs : inv s) (h : l.foldlM f s = .ok t) : inv t := by
  induction l generalizing s with
  | nil => exact foldlM_nil_eq_ok.mp h ▸ hs
  | cons x l ih =>
    obtain ⟨m, hm, hl⟩ := foldlM_cons_eq_ok.mp h
    have hone := hstep s x m List.mem_cons_self hs hm
    exact ih (fun s y t hy => hstep s y t (List.mem_cons_of_mem _ hy)) hone hl

lemma foldlM_invariant {f : σ → ι → Except ε σ} {inv : σ → Prop}
    (hstep : ∀ s x t, inv s → f s x = .ok t → inv t) {l : List ι} {s t : σ}
    (hs : inv s) (h : l.foldlM f s = .ok t) : inv t :=
  foldlM_invariant_of_mem (fun s x t _ => hstep s x t) hs h

end

end Ork3.Library
