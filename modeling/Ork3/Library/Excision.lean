import Mathlib

/-!
# Cutting words out of a text

Words that begin with a letter of their own cannot overlap, so a pass from left to right cuts out every
occurrence. What is left contains a word again exactly where the text has a word with others inside it.
-/

namespace Ork3.Library

section
variable {α : Type*} [DecidableEq α] (words : List (List α))

/-- The text without the words; the first letters are still to be skipped. -/
def excise : Nat → List α → List α
  | _, [] => []
  | skip + 1, _ :: rest => excise skip rest
  | 0, a :: rest =>
    match words.find? fun word => word.isPrefixOf (a :: rest) with
    | some word => excise (word.length - 1) rest
    | none => a :: excise 0 rest

attribute [grind =] excise

/-- A text and what is left of it when every word that begins at a letter is cut out. -/
inductive Excised : List α → List α → Prop
  | nil : Excised [] []
  | keep {a : α} {x y : List α} (hno : ∀ word ∈ words, ¬ word <+: a :: x) (h : Excised x y) :
    Excised (a :: x) (a :: y)
  | cut {word x y : List α} (hword : word ∈ words) (h : Excised x y) : Excised (word ++ x) y

/-- The letters of a text in their order, with words between them. -/
inductive Spread : List α → List α → Prop
  | last (a : α) : Spread [a] [a]
  | cons {p w : List α} (a : α) (inserted : List (List α)) (hwords : ∀ word ∈ inserted, word ∈ words)
    (h : Spread p w) : Spread (a :: p) (a :: (inserted.flatten ++ w))

/-- Each word begins with the marker, has it nowhere else, and does not begin another word. -/
structure MarkedBy (marker : α) : Prop where
  marked : ∀ word ∈ words, ∃ tail, word = marker :: tail ∧ marker ∉ tail
  antichain : ∀ word ∈ words, ∀ other ∈ words, word <+: other → word = other

variable {words} {marker a : α} {word p w x y z l r t : List α} {inserted : List (List α)}

/-! ### The pass -/

lemma excise_skip (n : Nat) (x : List α) : excise words n x = excise words 0 (x.drop n) := by
  induction n generalizing x with
  | zero => rfl
  | succ n ih =>
    cases x with
    | nil => rw [List.drop_nil, excise, excise]
    | cons a x => rw [excise, ih, List.drop_succ_cons]

lemma excise_keep (hno : ∀ word ∈ words, ¬ word <+: a :: x) :
    excise words 0 (a :: x) = a :: excise words 0 x := by
  have hnone : words.find? (fun word => word.isPrefixOf (a :: x)) = none := by
    apply List.find?_eq_none.mpr
    intro word hword
    simpa using hno word hword
  rw [excise, hnone]

lemma excise_cut (hm : MarkedBy words marker) (hword : word ∈ words) (x : List α) :
    excise words 0 (word ++ x) = excise words 0 x := by
  obtain ⟨tail, rfl, -⟩ := hm.marked word hword
  cases hfind : words.find? (fun word => word.isPrefixOf (marker :: tail ++ x)) with
  | none =>
    have hno := List.find?_eq_none.mp hfind _ hword
    simp at hno
  | some found =>
    have hfound := List.mem_of_find?_eq_some hfind
    have hbegins : found <+: marker :: tail ++ x := by
      simpa using List.find?_some hfind
    have hsame : found = marker :: tail := by
      rcases List.prefix_or_prefix_of_prefix hbegins (List.prefix_append _ _) with h | h
      · exact hm.antichain _ hfound _ hword h
      · exact (hm.antichain _ hword _ hfound h).symm
    rw [List.cons_append] at hfind ⊢
    rw [excise, hfind, hsame]
    simp [excise_skip]

lemma excise_of_ne (hm : MarkedBy words marker) (ha : a ≠ marker) (x : List α) :
    excise words 0 (a :: x) = a :: excise words 0 x := by
  apply excise_keep
  intro word hword hbegins
  obtain ⟨tail, rfl, -⟩ := hm.marked word hword
  exact ha (List.cons_prefix_cons.mp hbegins).1.symm

lemma excise_flatten (hm : MarkedBy words marker) (hwords : ∀ word ∈ inserted, word ∈ words)
    (x : List α) : excise words 0 (inserted.flatten ++ x) = excise words 0 x := by
  induction inserted with
  | nil => rfl
  | cons word inserted ih =>
    rw [List.flatten_cons, List.append_assoc, excise_cut hm (hwords word List.mem_cons_self),
      ih fun other hother => hwords other (List.mem_cons_of_mem word hother)]

lemma excised_excise (hm : MarkedBy words marker) (x : List α) :
    Excised words x (excise words 0 x) := by
  induction hn : x.length using Nat.strong_induction_on generalizing x with
  | _ n ih =>
    cases x with
    | nil =>
      rw [excise]
      exact .nil
    | cons a x =>
      by_cases hsome : ∃ word ∈ words, word <+: a :: x
      · obtain ⟨word, hword, rest, hrest⟩ := hsome
        obtain ⟨tail, rfl, -⟩ := hm.marked word hword
        have hlength := congrArg List.length hrest
        rw [← hrest, excise_cut hm hword]
        refine .cut hword (ih rest.length ?_ rest rfl)
        simp at hlength hn
        omega
      · have hno : ∀ word ∈ words, ¬ word <+: a :: x := fun word hword hbegins =>
          hsome ⟨word, hword, hbegins⟩
        rw [excise_keep hno]
        exact .keep hno (ih x.length (by simp at hn; omega) x rfl)

/-- Nothing is cut out of a text that contains no word. -/
lemma excise_of_no_infix (hno : ∀ word ∈ words, ¬ word <:+: x) : excise words 0 x = x := by
  induction x with
  | nil => rw [excise]
  | cons a x ih =>
    rw [excise_keep fun word hword hbegins => hno word hword hbegins.isInfix,
      ih fun word hword hin => hno word hword (List.infix_cons hin)]

omit [DecidableEq α] in
lemma Excised.length_le (h : Excised words x y) : y.length ≤ x.length := by
  induction h with
  | nil => exact le_rfl
  | keep _ _ ih => simpa using ih
  | cut _ _ ih =>
    rw [List.length_append]
    omega

omit [DecidableEq α] in
/-- A text that loses nothing contains no word. -/
lemma Excised.no_infix (hm : MarkedBy words marker) (h : Excised words x y)
    (hlength : x.length ≤ y.length) : ∀ word ∈ words, ¬ word <:+: x := by
  induction h with
  | nil =>
    intro word hword hin
    obtain ⟨tail, rfl, -⟩ := hm.marked word hword
    simp at hin
  | keep hno _ ih =>
    intro word hword hin
    rcases List.infix_cons_iff.mp hin with hbegins | hin
    · exact hno word hword hbegins
    · exact ih (by simpa using hlength) word hword hin
  | cut hword h _ =>
    have hle := h.length_le
    obtain ⟨tail, rfl, -⟩ := hm.marked _ hword
    rw [List.length_append, List.length_cons] at hlength
    omega

/-! ### Words that are left -/

omit [DecidableEq α] in
/-- A letter that is left stood behind words that were cut out. -/
lemma Excised.first (h : Excised words x (a :: y)) :
    ∃ (before : List (List α)) (rest : List α), (∀ word ∈ before, word ∈ words) ∧
      x = before.flatten ++ a :: rest ∧ (∀ word ∈ words, ¬ word <+: a :: rest) ∧
      Excised words rest y := by
  generalize hz : a :: y = z at h
  induction h with
  | nil => cases hz
  | keep hno h _ =>
    obtain ⟨rfl, rfl⟩ := List.cons.inj hz
    exact ⟨[], _, by simp, rfl, hno, h⟩
  | cut hword _ ih =>
    obtain ⟨before, rest, hbefore, rfl, hno, hrest⟩ := ih hz
    exact ⟨_ :: before, rest, List.forall_mem_cons.mpr ⟨hword, hbefore⟩, by simp, hno, hrest⟩

omit [DecidableEq α] in
/-- Letters that are left stood in a row, with words between them. -/
lemma Excised.spread (h : Excised words x (p ++ z)) (hp : p ≠ []) :
    ∃ (before : List (List α)) (w rest : List α), (∀ word ∈ before, word ∈ words) ∧
      x = before.flatten ++ (w ++ rest) ∧ Spread words p w ∧
      (∀ word ∈ words, ¬ word <+: w ++ rest) ∧ Excised words rest z := by
  induction p generalizing x with
  | nil => exact absurd rfl hp
  | cons a p ih =>
    rw [List.cons_append] at h
    obtain ⟨before, rest, hbefore, rfl, hno, hrest⟩ := h.first
    by_cases hnil : p = []
    · subst hnil
      exact ⟨before, [a], rest, hbefore, rfl, .last a, hno, hrest⟩
    · obtain ⟨between, w, after, hbetween, rfl, hspread, -, hafter⟩ := ih hrest hnil
      refine ⟨before, a :: (between.flatten ++ w), after, hbefore, by simp,
        .cons a between hbetween hspread, ?_, hafter⟩
      intro word hword hbegins
      exact hno word hword (by simpa using hbegins)

omit [DecidableEq α] in
lemma Excised.split (h : Excised words x (y ++ z)) :
    ∃ l r, x = l ++ r ∧ Excised words r z := by
  induction y generalizing x with
  | nil => exact ⟨[], x, rfl, h⟩
  | cons a y ih =>
    obtain ⟨before, rest, -, rfl, -, hrest⟩ := Excised.first h
    obtain ⟨l, r, rfl, hr⟩ := ih hrest
    exact ⟨before.flatten ++ a :: l, r, by simp, hr⟩

/-- Letters other than the marker are left, and words between them are cut out. -/
lemma Spread.excise (hm : MarkedBy words marker) (h : Spread words p w) (hp : marker ∉ p)
    (x : List α) : excise words 0 (w ++ x) = p ++ excise words 0 x := by
  induction h with
  | last a =>
    have ha : a ≠ marker := fun h => hp (h ▸ List.mem_cons_self)
    rw [List.singleton_append, excise_of_ne hm ha]
    rfl
  | cons a inserted hwords h ih =>
    rw [List.mem_cons, not_or] at hp
    rw [List.cons_append, excise_of_ne hm (Ne.symm hp.1), List.append_assoc,
      excise_flatten hm hwords, ih hp.2]
    rfl

omit [DecidableEq α] in
/-- Nothing without the marker begins a word. -/
lemma eq_nil_of_begins (hm : MarkedBy words marker) (hword : word ∈ words) (ht : t <+: word ++ x)
    (hmarker : marker ∉ t) : t = [] := by
  obtain ⟨tail, rfl, -⟩ := hm.marked word hword
  cases t with
  | nil => rfl
  | cons b t =>
    rw [List.cons_append] at ht
    obtain ⟨rfl, -⟩ := List.cons_prefix_cons.mp ht
    exact absurd List.mem_cons_self hmarker

omit [DecidableEq α] in
/-- What begins a spread text without the marker ends before the first word. -/
lemma Spread.begins (hm : MarkedBy words marker) (h : Spread words p w)
    (hwords : ∀ word ∈ inserted, word ∈ words) (hne : inserted.flatten ++ w ≠ p)
    (ht : t <+: inserted.flatten ++ (w ++ x)) (hmarker : marker ∉ t) : t <+: p ∧ t ≠ p := by
  have hp : p ≠ [] := by
    cases h <;> exact List.cons_ne_nil _ _
  cases inserted with
  | cons word inserted =>
    rw [List.flatten_cons, List.append_assoc] at ht
    rw [eq_nil_of_begins hm (hwords word List.mem_cons_self) ht hmarker]
    exact ⟨ List.nil_prefix, hp.symm⟩
  | nil =>
    rw [List.flatten_nil, List.nil_append] at hne ht
    induction h generalizing t with
    | last a => exact absurd rfl hne
    | @cons p w a between hbetween h ih =>
      cases t with
      | nil => exact ⟨ List.nil_prefix, hp.symm⟩
      | cons b t =>
        have hp' : p ≠ [] := by
          cases h <;> exact List.cons_ne_nil _ _
        rw [List.cons_append] at ht
        obtain ⟨rfl, hrest⟩ := List.cons_prefix_cons.mp ht
        rw [List.mem_cons, not_or] at hmarker
        have htail : t <+: p ∧ t ≠ p := by
          cases between with
          | nil =>
            rw [List.flatten_nil, List.nil_append] at hne hrest
            exact ih hmarker.2 hp' (fun heq => hne (by rw [heq])) hrest
          | cons word between =>
            rw [List.flatten_cons, List.append_assoc, List.append_assoc] at hrest
            rw [eq_nil_of_begins hm (hbetween word List.mem_cons_self) hrest hmarker.2]
            exact ⟨ List.nil_prefix, hp'.symm⟩
        exact ⟨List.cons_prefix_cons.mpr ⟨rfl, htail.1⟩, fun heq => htail.2 (List.cons.inj heq).2⟩

/-- What stands before a marker is passed by itself: no word reaches over the marker. -/
lemma excise_append_marker (hm : MarkedBy words marker) (l x : List α) :
    excise words 0 (l ++ marker :: x) = excise words 0 l ++ excise words 0 (marker :: x) := by
  induction hn : l.length using Nat.strong_induction_on generalizing l with
  | _ n ih =>
    cases l with
    | nil => rw [excise]; rfl
    | cons a l =>
      have hinside : ∀ word ∈ words, word <+: (a :: l) ++ marker :: x → word <+: a :: l := by
        intro word hword hbegins
        rcases List.prefix_or_prefix_of_prefix hbegins (List.prefix_append _ _) with h | h
        · exact h
        · obtain ⟨more, rfl⟩ := h
          have hmore := (List.prefix_append_right_inj _).mp hbegins
          obtain ⟨tail, hword, hmarker⟩ := hm.marked _ hword
          cases more with
          | nil => simp
          | cons b more =>
            obtain ⟨rfl, -⟩ := List.cons_prefix_cons.mp hmore
            rw [List.cons_append, List.cons.injEq] at hword
            rw [← hword.2] at hmarker
            simp at hmarker
      by_cases hsome : ∃ word ∈ words, word <+: a :: l
      · obtain ⟨word, hword, rest, hrest⟩ := hsome
        obtain ⟨tail, hwordtail, -⟩ := hm.marked word hword
        have hlength := congrArg List.length hrest
        rw [List.length_append, hwordtail] at hlength
        simp at hlength hn
        rw [← hrest, List.append_assoc, excise_cut hm hword, excise_cut hm hword,
          ih rest.length (by omega) rest rfl]
      · have hno : ∀ word ∈ words, ¬ word <+: a :: l := fun word hword hbegins =>
          hsome ⟨word, hword, hbegins⟩
        have hno' : ∀ word ∈ words, ¬ word <+: a :: (l ++ marker :: x) :=
          fun word hword hbegins => hno word hword (hinside word hword hbegins)
        rw [List.cons_append, excise_keep hno, excise_keep hno',
          ih l.length (by simp at hn; omega) l rfl]
        rfl

/-- What is left contains a word exactly where the text has a word with others inside it. -/
theorem infix_excise_iff (hm : MarkedBy words marker) (x : List α) :
    (∃ word ∈ words, word <:+: excise words 0 x) ↔
      ∃ word ∈ words, ∃ w, Spread words word w ∧ w ≠ word ∧ w <:+: x := by
  constructor
  · rintro ⟨word, hword, front, back, hleft⟩
    have hexcised := excised_excise hm x
    rw [← hleft, List.append_assoc] at hexcised
    obtain ⟨l, r, rfl, hr⟩ := hexcised.split
    obtain ⟨tail, hwordtail, -⟩ := hm.marked word hword
    obtain ⟨before, w, rest, -, rfl, hspread, hno, -⟩ := hr.spread (by simp [hwordtail])
    refine ⟨word, hword, w, hspread, ?_, ?_⟩
    · rintro rfl
      exact hno w hword (List.prefix_append _ _)
    · exact ⟨l ++ before.flatten, rest, by simp⟩
  · rintro ⟨word, hword, w, hspread, hne, l, r, rfl⟩
    refine ⟨word, hword, ?_⟩
    obtain ⟨tail, rfl, hmarker⟩ := hm.marked word hword
    rw [List.append_assoc]
    cases hspread with
    | last => exact absurd rfl hne
    | @cons _ w _ between hbetween h =>
      rw [List.cons_append, excise_append_marker hm]
      -- No word begins at the marker, as another one interrupts the word that could.
      have hno : ∀ word ∈ words, ¬ word <+: marker :: (between.flatten ++ w ++ r) := by
        intro found hfound hbegins
        obtain ⟨t, rfl, ht⟩ := hm.marked found hfound
        rw [List.append_assoc] at hbegins
        have hbegins := (List.cons_prefix_cons.mp hbegins).2
        have hpart := h.begins hm hbetween (fun heq => hne (by rw [heq])) hbegins ht
        have hsame := hm.antichain _ hfound _ hword
          (List.cons_prefix_cons.mpr ⟨rfl, hpart.1⟩)
        exact hpart.2 (List.cons.inj hsame).2
      rw [excise_keep hno, List.append_assoc, excise_flatten hm hbetween, h.excise hm hmarker]
      exact ⟨excise words 0 l, excise words 0 r, by simp⟩

/-- A second pass changes nothing exactly where the first one leaves no word. -/
theorem excise_excise_iff (hm : MarkedBy words marker) (x : List α) :
    excise words 0 (excise words 0 x) = excise words 0 x ↔
      ∀ word ∈ words, ¬ word <:+: excise words 0 x := by
  constructor
  · intro h
    have hexcised := excised_excise hm (excise words 0 x)
    exact hexcised.no_infix hm (by rw [h])
  · exact excise_of_no_infix

end

end Ork3.Library
