import Ork3.Library.Tokens

/-!
# Words with single blanks between them

The words of a list are its pieces between blanks; joined again, they have one blank between them.
-/

namespace Ork3.Library

section
variable {α : Type*} (ws : α → Bool) (blank : α)

/-- The words of a list joined by single blanks. -/
def spaced (s : List α) : List α := [blank].intercalate ((s.splitOnP ws).filter (· ≠ []))

variable {ws} {blank c : α} {s m : List α}

lemma spaced_nil : spaced ws blank [] = [] := rfl

lemma spaced_cons_of_ws (hc : ws c = true) : spaced ws blank (c :: s) = spaced ws blank s := by
  unfold spaced
  rw [List.splitOnP_cons_eq_if_modifyHead, if_pos hc, List.filter_cons_of_neg (by simp)]

lemma spaced_concat_of_ws (hc : ws c = true) : spaced ws blank (s ++ [c]) = spaced ws blank s := by
  unfold spaced
  rw [List.splitOnP_append_cons s [] hc, List.splitOnP_nil, List.filter_append]
  simp

/-- A character followed by another one belongs to the same word. -/
lemma spaced_cons_cons (hc : ws c = false) {d : α} (hd : ws d = false) :
    spaced ws blank (c :: d :: s) = c :: spaced ws blank (d :: s) := by
  obtain ⟨first, rest, hsplit⟩ := List.exists_cons_of_ne_nil (List.splitOnP_ne_nil ws s)
  unfold spaced
  rw [List.splitOnP_cons_eq_if_modifyHead, if_neg (by simp [hc]),
    List.splitOnP_cons_eq_if_modifyHead, if_neg (by simp [hd]), hsplit, List.modifyHead_cons,
    List.modifyHead_cons, List.filter_cons_of_pos (by simp), List.filter_cons_of_pos (by simp),
    List.intercalate_cons_cons_left]

/-- A character followed by a blank ends its word. -/
lemma spaced_cons_of_end (hc : ws c = false) (hs : ∀ d ∈ s.head?, ws d = true) :
    spaced ws blank (c :: s) =
      if spaced ws blank s = [] then [c] else c :: blank :: spaced ws blank s := by
  have hlater : ∃ rest, s.splitOnP ws = [] :: rest := by
    cases s with
    | nil => exact ⟨[], List.splitOnP_nil⟩
    | cons d s =>
      rw [List.splitOnP_cons_eq_if_modifyHead, if_pos (hs d rfl)]
      exact ⟨_, rfl⟩
  obtain ⟨rest, hsplit⟩ := hlater
  unfold spaced
  rw [List.splitOnP_cons_eq_if_modifyHead, if_neg (by simp [hc]), hsplit, List.modifyHead_cons,
    List.filter_cons_of_pos (by simp), List.filter_cons_of_neg (by simp)]
  have hmem : ∀ w ∈ rest.filter (· ≠ []), w ≠ [] := by
    intro w hw
    simpa using List.of_mem_filter hw
  generalize rest.filter (· ≠ []) = words at hmem
  cases words with
  | nil => rfl
  | cons w words =>
    obtain ⟨e, w, rfl⟩ := List.exists_cons_of_ne_nil (hmem w List.mem_cons_self)
    rw [List.intercalate_cons_cons, List.intercalate_cons_cons_left, if_neg (List.cons_ne_nil _ _)]
    rfl

lemma spaced_dropWhile : spaced ws blank (s.dropWhile ws) = spaced ws blank s := by
  induction s with
  | nil => rfl
  | cons c s ih =>
    by_cases hc : ws c = true
    · rw [List.dropWhile_cons_of_pos hc, ih, spaced_cons_of_ws hc]
    · rw [List.dropWhile_cons_of_neg hc]

/-- Blanks at the ends do not matter. -/
lemma spaced_trimBy : spaced ws blank (trimBy ws s) = spaced ws blank s := by
  have hend : ∀ r : List α, spaced ws blank (r.dropWhile ws).reverse =
      spaced ws blank r.reverse := by
    intro r
    induction r with
    | nil => rfl
    | cons c r ih =>
      by_cases hc : ws c = true
      · rw [List.dropWhile_cons_of_pos hc, ih, List.reverse_cons, spaced_concat_of_ws hc]
      · rw [List.dropWhile_cons_of_neg hc]
  unfold trimBy
  rw [hend, List.reverse_reverse, spaced_dropWhile]

/-- The first character is that of the first word. -/
lemma head?_spaced : (spaced ws blank s).head? = (s.dropWhile ws).head? := by
  induction s with
  | nil => rfl
  | cons c s ih =>
    by_cases hc : ws c = true
    · rw [List.dropWhile_cons_of_pos hc, spaced_cons_of_ws hc, ih]
    · rw [List.dropWhile_cons_of_neg hc, List.head?_cons]
      have hc := Bool.eq_false_of_not_eq_true hc
      by_cases hs : ∀ d ∈ s.head?, ws d = true
      · rw [spaced_cons_of_end hc hs]
        by_cases hempty : spaced ws blank s = []
        · rw [if_pos hempty, List.head?_cons]
        · rw [if_neg hempty, List.head?_cons]
      · cases s with
        | nil => exact absurd (fun d hd => nomatch hd) hs
        | cons d s =>
          have hd : ws d = false := by
            by_contra h
            apply hs
            intro e he
            rw [← Option.some.inj he]
            exact Bool.eq_true_of_not_eq_false h
          rw [spaced_cons_cons hc hd, List.head?_cons]

/-- A text without blanks that begins the joined words begins the list. -/
lemma prefix_of_prefix_spaced (hblank : ws blank = true) (hm : ∀ c ∈ m, ws c = false)
    (hs : ∀ c ∈ s.head?, ws c = false) (h : m <+: spaced ws blank s) : m <+: s := by
  induction m generalizing s with
  | nil => exact List.nil_prefix
  | cons c m ih =>
    have hm' : ∀ d ∈ m, ws d = false := fun d hd => hm d (List.mem_cons_of_mem c hd)
    cases s with
    | nil =>
      rw [spaced_nil, List.prefix_nil] at h
      cases h
    | cons d s =>
      have hd : ws d = false := hs d rfl
      by_cases hend : ∀ e ∈ s.head?, ws e = true
      · have hrest : c = d ∧ m = [] := by
          rw [spaced_cons_of_end hd hend] at h
          by_cases hempty : spaced ws blank s = []
          · rw [if_pos hempty, List.cons_prefix_cons, List.prefix_nil] at h
            exact h
          · rw [if_neg hempty, List.cons_prefix_cons] at h
            refine ⟨h.1, ?_⟩
            cases m with
            | nil => rfl
            | cons e m =>
              have he := (List.cons_prefix_cons.mp h.2).1
              have hws := hm' e List.mem_cons_self
              rw [he, hblank] at hws
              cases hws
        rw [hrest.1, hrest.2, List.cons_prefix_cons]
        exact ⟨rfl, List.nil_prefix⟩
      · cases s with
        | nil => exact absurd (fun d hd => nomatch hd) hend
        | cons e s =>
          have he : ws e = false := by
            by_contra hne
            apply hend
            intro x hx
            rw [← Option.some.inj hx]
            exact Bool.eq_true_of_not_eq_false hne
          rw [spaced_cons_cons hd he, List.cons_prefix_cons] at h
          rw [List.cons_prefix_cons]
          exact ⟨h.1, ih hm' (fun x hx => Option.some.inj hx ▸ he) h.2⟩

end

end Ork3.Library
