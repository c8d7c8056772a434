import Mathlib

/-!
# Scanners

A scanner reads a stream element by element and emits values. Two scanners agree on a stream as long
as neither reads an element on which they part.
-/

namespace Ork3.Library

section
variable {σ τ α β : Type*} (step : σ → α → σ × Option β) (step' : τ → α → τ × Option β)
  (bad : σ → α → Prop)

/-- The state after a stream, and what was emitted over it. -/
def scan : σ → List α → σ × List β
  | s, [] => (s, [])
  | s, a :: as => ((scan (step s a).1 as).1, (step s a).2.toList ++ (scan (step s a).1 as).2)

/-- The scanner reads no bad element on this stream. -/
def Avoids : σ → List α → Prop
  | _, [] => True
  | s, a :: as => ¬bad s a ∧ Avoids (step s a).1 as

instance Avoids.decidable [∀ s a, Decidable (bad s a)] :
    (s : σ) → (as : List α) → Decidable (Avoids step bad s as)
  | _, [] => isTrue trivial
  | s, a :: as =>
    have := Avoids.decidable (step s a).1 as
    inferInstanceAs (Decidable (¬bad s a ∧ Avoids step bad (step s a).1 as))

lemma scan_append (s : σ) (as bs : List α) :
    scan step s (as ++ bs) = ((scan step (scan step s as).1 bs).1,
      (scan step s as).2 ++ (scan step (scan step s as).1 bs).2) := by
  induction as generalizing s with
  | nil => rfl
  | cons a as ih => simp only [List.cons_append, scan, ih, List.append_assoc]

lemma avoids_append (s : σ) (as bs : List α) :
    Avoids step bad s (as ++ bs) ↔ Avoids step bad s as ∧ Avoids step bad (scan step s as).1 bs := by
  induction as generalizing s with
  | nil => simp [Avoids, scan]
  | cons a as ih => simp only [List.cons_append, Avoids, scan, ih, and_assoc]

lemma toList_bind {γ : Type*} (o : Option β) (f : β → Option γ) :
    (o.bind f).toList = o.toList.filterMap f := by
  cases o with
  | none => rfl
  | some b => cases h : f b <;> simp [h]

/-- What a step keeps, a scan keeps. -/
lemma scan_invariant {inv : σ → Prop} (hstep : ∀ s a, inv s → inv (step s a).1) {s : σ} (hs : inv s)
    (as : List α) : inv (scan step s as).1 := by
  induction as generalizing s with
  | nil => exact hs
  | cons a as ih => exact ih (hstep s a hs)

/-- A scanner whose states are images of another's, step for step, emits the same. -/
theorem scan_map_of_avoids {proj : σ → τ} {inv : σ → Prop}
    (hinv : ∀ s a, inv s → inv (step s a).1)
    (hstep : ∀ s a, inv s → ¬bad s a →
      step' (proj s) a = (proj (step s a).1, (step s a).2)) {s : σ} (hs : inv s)
    {as : List α} (h : Avoids step bad s as) :
    scan step' (proj s) as = (proj (scan step s as).1, (scan step s as).2) := by
  induction as generalizing s with
  | nil => rfl
  | cons a as ih =>
    obtain ⟨ha, has⟩ := h
    rw [scan, scan, hstep s a hs ha, ih (hinv s a hs) has]

/-- A scanner whose states are images of another's emits what the other's values give. -/
theorem scan_map_of_forall {γ : Type*} {stepγ : τ → α → τ × Option γ} {proj : σ → τ}
    {f : β → Option γ} {as : List α}
    (hstep : ∀ s, ∀ a ∈ as, stepγ (proj s) a = (proj (step s a).1, (step s a).2.bind f)) (s : σ) :
    scan stepγ (proj s) as = (proj (scan step s as).1, (scan step s as).2.filterMap f) := by
  induction as generalizing s with
  | nil => rfl
  | cons a as ih =>
    have has := ih (fun s b hb => hstep s b (List.mem_cons_of_mem a hb)) (step s a).1
    rw [scan, scan, hstep s a List.mem_cons_self, has, List.filterMap_append, toList_bind]

/-- A stretch in which every step keeps the state and emits nothing. -/
lemma scan_fixed {s : σ} {as : List α} (h : ∀ a ∈ as, step s a = (s, none)) :
    scan step s as = (s, []) := by
  induction as with
  | nil => rfl
  | cons a as ih =>
    rw [scan, h a List.mem_cons_self, ih fun b hb => h b (List.mem_cons_of_mem a hb)]
    rfl

/-- A stream with a bad element has a first one. -/
theorem exists_first_bad {s : σ} {as : List α} (h : ¬Avoids step bad s as) :
    ∃ before a after, as = before ++ a :: after ∧ Avoids step bad s before ∧
      bad (scan step s before).1 a := by
  induction as generalizing s with
  | nil => exact absurd trivial h
  | cons a as ih =>
    by_cases ha : bad s a
    · exact ⟨[], a, as, rfl, trivial, ha⟩
    · have has : ¬Avoids step bad (step s a).1 as := fun has => h ⟨ha, has⟩
      obtain ⟨before, b, after, rfl, hbefore, hb⟩ := ih has
      exact ⟨a :: before, b, after, rfl, ⟨ha, hbefore⟩, hb⟩

end

end Ork3.Library
