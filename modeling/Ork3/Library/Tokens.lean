import Mathlib

/-!
# Tokens

The pieces between separators, without the blanks around them.
-/

namespace Ork3.Library

section
variable {α : Type*} (ws : α → Bool)

/-- The list without the blanks at its ends. -/
def trimBy (s : List α) : List α := ((s.dropWhile ws).reverse.dropWhile ws).reverse

variable {ws} {c : α} {s t : List α}

lemma trimBy_cons (hc : ws c = true) : trimBy ws (c :: s) = trimBy ws s := by
  unfold trimBy
  rw [List.dropWhile_cons_of_pos hc]

lemma trimBy_concat (hc : ws c = true) : trimBy ws (s ++ [c]) = trimBy ws s := by
  unfold trimBy
  rw [List.dropWhile_append]
  by_cases hempty : (s.dropWhile ws).isEmpty = true
  · rw [if_pos hempty, List.dropWhile_cons_of_pos hc, List.isEmpty_iff.mp hempty]
    rfl
  · rw [if_neg hempty, List.reverse_concat, List.dropWhile_cons_of_pos hc]

lemma dropWhile_of_head (h : ∀ c ∈ s.head?, ws c = false) : s.dropWhile ws = s := by
  cases s with
  | nil => rfl
  | cons c s =>
    have hc := h c rfl
    rw [List.dropWhile_cons_of_neg (by simp [hc])]

/-- A list without blanks at its ends is left alone. -/
lemma trimBy_of_ends (hfirst : ∀ c ∈ s.head?, ws c = false)
    (hlast : ∀ c ∈ s.getLast?, ws c = false) : trimBy ws s = s := by
  have hreverse : ∀ c ∈ s.reverse.head?, ws c = false := by
    rw [List.head?_reverse]
    exact hlast
  unfold trimBy
  rw [dropWhile_of_head hfirst, dropWhile_of_head hreverse, List.reverse_reverse]

lemma trimBy_of_forall (h : ∀ c ∈ s, ws c = false) : trimBy ws s = s :=
  trimBy_of_ends (fun c hc => h c (List.mem_of_mem_head? hc))
    fun c hc => h c (List.mem_of_mem_getLast? hc)

lemma mem_of_mem_dropWhile {p : α → Bool} (hc : c ∈ s.dropWhile p) : c ∈ s :=
  (List.dropWhile_suffix p).subset hc

lemma mem_of_mem_trimBy (hc : c ∈ trimBy ws s) : c ∈ s := by
  unfold trimBy at hc
  rw [List.mem_reverse] at hc
  exact mem_of_mem_dropWhile (List.mem_reverse.mp (mem_of_mem_dropWhile hc))

/-- The last character of a trimmed list is no blank. -/
lemma ws_getLast_trimBy (hc : c ∈ (trimBy ws s).getLast?) : ws c = false := by
  unfold trimBy at hc
  rw [List.getLast?_reverse] at hc
  generalize (s.dropWhile ws).reverse = r at hc
  induction r with
  | nil => cases hc
  | cons d r ih =>
    by_cases hd : ws d = true
    · rw [List.dropWhile_cons_of_pos hd] at hc
      exact ih hc
    · rw [List.dropWhile_cons_of_neg hd] at hc
      rw [← Option.some.inj hc]
      exact Bool.eq_false_of_not_eq_true hd

/-- The first character of a trimmed list is no blank. -/
lemma ws_head_trimBy (hc : c ∈ (trimBy ws s).head?) : ws c = false := by
  induction s with
  | nil => cases hc
  | cons d s ih =>
    by_cases hd : ws d = true
    · rw [trimBy_cons hd] at hc
      exact ih hc
    · have hkept : trimBy ws (d :: s) = d :: ((s.reverse.dropWhile ws).reverse) := by
        unfold trimBy
        rw [List.dropWhile_cons_of_neg hd, List.reverse_cons, List.dropWhile_append]
        by_cases hempty : (s.reverse.dropWhile ws).isEmpty = true
        · rw [if_pos hempty, List.dropWhile_cons_of_neg hd, List.isEmpty_iff.mp hempty]
          rfl
        · rw [if_neg hempty, List.reverse_concat]
      rw [hkept] at hc
      rw [← Option.some.inj hc]
      exact Bool.eq_false_of_not_eq_true hd

end

section
variable {α : Type*} [DecidableEq α] {ws : α → Bool} {sep c : α} {s part : List α}

lemma splitOn_cons_of_ne (hc : c ≠ sep) (s : List α) :
    (c :: s).splitOn sep = (s.splitOn sep).modifyHead (List.cons c) := by
  rw [List.splitOn_cons_eq_if_modifyHead, if_neg (by simpa using hc)]

lemma splitOn_cons_self (sep : α) (s : List α) : (sep :: s).splitOn sep = [] :: s.splitOn sep := by
  rw [List.splitOn_cons_eq_if_modifyHead, if_pos (by simp)]

/-- No piece contains the separator. -/
lemma notMem_of_mem_splitOn (h : part ∈ s.splitOn sep) : sep ∉ part := by
  induction s generalizing part with
  | nil =>
    rw [List.splitOn_nil, List.mem_singleton] at h
    rw [h]
    exact List.not_mem_nil
  | cons c s ih =>
    by_cases hc : c = sep
    · rw [hc, splitOn_cons_self] at h
      rcases List.mem_cons.mp h with rfl | h
      · exact List.not_mem_nil
      · exact ih h
    · rw [splitOn_cons_of_ne hc] at h
      obtain ⟨first, rest, hsplit⟩ := List.exists_cons_of_ne_nil (List.splitOn_ne_nil sep s)
      rw [hsplit] at h ih
      rcases List.mem_cons.mp h with rfl | h
      · intro hmem
        rcases List.mem_cons.mp hmem with rfl | hmem
        · exact hc rfl
        · exact ih List.mem_cons_self hmem
      · exact ih (List.mem_cons_of_mem _ h)

/-- A further character belongs to the last piece. -/
lemma splitOn_concat (hc : c ≠ sep) (s : List α) :
    ∃ pieces last, s.splitOn sep = pieces ++ [last] ∧
      (s ++ [c]).splitOn sep = pieces ++ [last ++ [c]] := by
  induction s with
  | nil =>
    refine ⟨[], [], rfl, ?_⟩
    rw [List.nil_append, splitOn_cons_of_ne hc]
    rfl
  | cons d s ih =>
    obtain ⟨pieces, last, hsplit, hconcat⟩ := ih
    by_cases hd : d = sep
    · refine ⟨[] :: pieces, last, ?_, ?_⟩
      · rw [hd, splitOn_cons_self, hsplit]
        rfl
      · rw [hd, List.cons_append, splitOn_cons_self, hconcat]
        rfl
    · cases pieces with
      | nil =>
        refine ⟨[], d :: last, ?_, ?_⟩
        · rw [splitOn_cons_of_ne hd, hsplit]
          rfl
        · rw [List.cons_append, splitOn_cons_of_ne hd, hconcat]
          rfl
      | cons first pieces =>
        refine ⟨(d :: first) :: pieces, last, ?_, ?_⟩
        · rw [splitOn_cons_of_ne hd, hsplit]
          rfl
        · rw [List.cons_append, splitOn_cons_of_ne hd, hconcat]
          rfl

/-- The trimmed pieces. -/
def tokens (ws : α → Bool) (sep : α) (s : List α) : List (List α) :=
  (s.splitOn sep).map (trimBy ws)

lemma tokens_cons_of_ws (hsep : ws sep = false) (hc : ws c = true) :
    tokens ws sep (c :: s) = tokens ws sep s := by
  have hne : c ≠ sep := by
    rintro rfl
    rw [hc] at hsep
    cases hsep
  obtain ⟨first, rest, hsplit⟩ := List.exists_cons_of_ne_nil (List.splitOn_ne_nil sep s)
  unfold tokens
  rw [splitOn_cons_of_ne hne, hsplit, List.modifyHead_cons, List.map_cons, List.map_cons,
    trimBy_cons hc]

lemma tokens_concat_of_ws (hsep : ws sep = false) (hc : ws c = true) :
    tokens ws sep (s ++ [c]) = tokens ws sep s := by
  have hne : c ≠ sep := by
    rintro rfl
    rw [hc] at hsep
    cases hsep
  obtain ⟨pieces, last, hsplit, hconcat⟩ := splitOn_concat hne s
  unfold tokens
  rw [hsplit, hconcat, List.map_append, List.map_append, List.map_singleton, List.map_singleton,
    trimBy_concat hc]

/-- Trimming the whole does not change the tokens. -/
theorem tokens_trimBy (hsep : ws sep = false) (s : List α) :
    tokens ws sep (trimBy ws s) = tokens ws sep s := by
  have hleft : ∀ s : List α, tokens ws sep (s.dropWhile ws) = tokens ws sep s := by
    intro s
    induction s with
    | nil => rfl
    | cons c s ih =>
      by_cases hc : ws c = true
      · rw [List.dropWhile_cons_of_pos hc, tokens_cons_of_ws hsep hc, ih]
      · rw [List.dropWhile_cons_of_neg hc]
  have hright : ∀ s : List α, tokens ws sep (s.dropWhile ws).reverse =
      tokens ws sep s.reverse := by
    intro s
    induction s with
    | nil => rfl
    | cons c s ih =>
      by_cases hc : ws c = true
      · rw [List.dropWhile_cons_of_pos hc, List.reverse_cons, tokens_concat_of_ws hsep hc, ih]
      · rw [List.dropWhile_cons_of_neg hc]
  unfold trimBy
  rw [hright, List.reverse_reverse, hleft]

end

end Ork3.Library
