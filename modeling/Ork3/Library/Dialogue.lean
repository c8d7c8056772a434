import Mathlib

/-!
# Dialogues

Two sides follow one script over two queues. Each line of the script has a speaker, who sends it,
and the other side, who waits for it. Either side may be ahead, but only by lines of its own.
-/

namespace Ork3.Library

inductive Side
  | left
  | right
deriving DecidableEq

namespace Side

def other : Side → Side
  | left => right
  | right => left

@[simp] lemma other_other (p : Side) : p.other.other = p := by cases p <;> rfl

@[simp] lemma other_ne (p : Side) : p.other ≠ p := by cases p <;> simp [other]

@[simp] lemma ne_other (p : Side) : p ≠ p.other := by cases p <;> simp [other]

lemma eq_or_eq_other (p q : Side) : q = p ∨ q = p.other := by cases p <;> cases q <;> simp [other]

end Side

/-- What each side still has to say or hear, and what it was sent and has not read. -/
structure Dialogue (μ : Type*) where
  rest : Side → List (Side × μ)
  inbox : Side → List μ

namespace Dialogue

section
variable {μ : Type*} {d d' : Dialogue μ} {p : Side} {m : μ} {l : List (Side × μ)}

open Function

inductive Step : Dialogue μ → Side → Dialogue μ → Prop
  | send {d : Dialogue μ} {p : Side} {m : μ} {l : List (Side × μ)} : d.rest p = (p, m) :: l →
    Step d p ⟨update d.rest p l, update d.inbox p.other (d.inbox p.other ++ [m])⟩
  | receive {d : Dialogue μ} {p : Side} {m : μ} {l : List (Side × μ)} {queue : List μ} :
    d.rest p = (p.other, m) :: l → d.inbox p = m :: queue →
    Step d p ⟨update d.rest p l, update d.inbox p queue⟩

/-- The side that is ahead has sent what the other one has not read, and nothing else is on its
way. -/
def Ahead (d : Dialogue μ) (p : Side) : Prop :=
  d.rest p.other = (d.inbox p.other).map (Prod.mk p) ++ d.rest p ∧ d.inbox p = []

/-- One of the sides is ahead. -/
def Coherent (d : Dialogue μ) : Prop :=
  ∃ p, d.Ahead p

def start (script : List (Side × μ)) : Dialogue μ := ⟨fun _ => script, fun _ => []⟩

lemma coherent_start (script : List (Side × μ)) : (start script).Coherent :=
  ⟨.left, by simp [Ahead, start]⟩

/-! ### What a step preserves -/

lemma Ahead.send (h : d.Ahead p) (hrest : d.rest p = (p, m) :: l) :
    Ahead ⟨update d.rest p l, update d.inbox p.other (d.inbox p.other ++ [m])⟩ p := by
  obtain ⟨hother, hinbox⟩ := h
  constructor
  · simp [hother, hrest]
  · simp [hinbox]

lemma Ahead.receive {queue : List μ} (h : d.Ahead p.other) (hrest : d.rest p = (p.other, m) :: l)
    (hinbox : d.inbox p = m :: queue) :
    Ahead ⟨update d.rest p l, update d.inbox p queue⟩ p.other := by
  obtain ⟨hother, hempty⟩ := h
  rw [Side.other_other, hrest, hinbox] at hother
  constructor
  · simpa using hother
  · simpa using hempty

/-- Where the next line is one's own, the other side is not ahead of it. -/
lemma Ahead.swap (h : d.Ahead p.other) (hrest : d.rest p = (p, m) :: l) : d.Ahead p := by
  obtain ⟨hother, hempty⟩ := h
  rw [Side.other_other, hrest] at hother
  have hinbox : d.inbox p = [] := by
    cases hq : d.inbox p with
    | nil => rfl
    | cons x queue =>
      rw [hq] at hother
      simp at hother
  rw [hinbox] at hother
  refine ⟨?_, hinbox⟩
  rw [hempty, hrest]
  simpa using hother.symm

lemma not_ahead_of_inbox {queue : List μ} (h : d.Ahead p) (hinbox : d.inbox p = m :: queue) :
    False := by
  rw [h.2] at hinbox
  exact absurd hinbox (by simp)

theorem Coherent.step (h : d.Coherent) (hstep : Step d p d') : d'.Coherent := by
  obtain ⟨q, hq⟩ := h
  cases hstep with
  | send hrest =>
    refine ⟨p, ?_⟩
    rcases Side.eq_or_eq_other p q with rfl | rfl
    · exact hq.send hrest
    · exact (hq.swap hrest).send hrest
  | receive hrest hinbox =>
    refine ⟨p.other, ?_⟩
    rcases Side.eq_or_eq_other p q with rfl | rfl
    · exact (not_ahead_of_inbox hq hinbox).elim
    · exact hq.receive hrest hinbox

/-! ### What coherence gives -/

/-- A side that reads at a line of the other one reads that line. -/
lemma Coherent.expected {m' : μ} {queue : List μ} (h : d.Coherent)
    (hrest : d.rest p = (p.other, m) :: l) (hinbox : d.inbox p = m' :: queue) : m' = m := by
  obtain ⟨q, hq⟩ := h
  rcases Side.eq_or_eq_other p q with rfl | rfl
  · exact (not_ahead_of_inbox hq hinbox).elim
  · obtain ⟨hother, -⟩ := hq
    rw [Side.other_other, hrest, hinbox] at hother
    simp at hother
    exact hother.1.symm

lemma cons_suffix_of_append {x : μ} {post xs ys : List μ} (h : x :: post <:+ xs ++ ys)
    (hx : x ∉ xs) : x :: post <:+ ys := by
  induction xs with
  | nil => exact h
  | cons y xs ih =>
    rw [List.cons_append, List.suffix_cons_iff] at h
    rcases h with h | h
    · cases h
      simp at hx
    · exact ih h (fun hmem => hx (List.mem_cons_of_mem _ hmem))

/-- What a side has not said yet, the other one has not heard. -/
lemma Coherent.unheard {post : List (Side × μ)} (h : d.Coherent)
    (hsuffix : (p, m) :: post <:+ d.rest p) : (p, m) :: post <:+ d.rest p.other := by
  obtain ⟨q, hq⟩ := h
  rcases Side.eq_or_eq_other p q with rfl | rfl
  · rw [hq.1]
    exact hsuffix.trans (List.suffix_append _ _)
  · obtain ⟨hother, -⟩ := hq
    rw [Side.other_other] at hother
    rw [hother] at hsuffix
    apply cons_suffix_of_append hsuffix
    simp

end

end Dialogue

end Ork3.Library
