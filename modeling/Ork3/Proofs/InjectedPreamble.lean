import Ork3.Model.InjectedPreamble

/-!
# What is left of a message without its leading blocks

A message is a run of blanks and closed blocks and a rest. Stripping leaves the rest, unless it is a
block that is not closed.
-/

namespace Ork3.Projects

open Ork3.Library Ork3.Terminal

/-! ### Trimming -/

section
variable {c : Char} {s block : List Char}

lemma trim_eq (s : List Char) : trim s = (s.dropWhile isWhitespace).rdropWhile isWhitespace := rfl

lemma trim_cons_of_isWhitespace (hc : isWhitespace c = true) : trim (c :: s) = trim s :=
  trimBy_cons hc

lemma rdropWhile_append_of_getLast {block s : List Char}
    (hlast : ∃ c ∈ block.getLast?, isWhitespace c = false) :
    (block ++ s).rdropWhile isWhitespace = block ++ s.rdropWhile isWhitespace := by
  induction s using List.reverseRecOn with
  | nil =>
    rw [List.append_nil, List.rdropWhile_nil, List.append_nil, List.rdropWhile_eq_self_iff]
    intro hne
    obtain ⟨c, hc, hws⟩ := hlast
    rw [List.getLast?_eq_getLast_of_ne_nil hne] at hc
    rw [Option.some.inj hc, hws]
    exact Bool.false_ne_true
  | append_singleton s c ih =>
    by_cases hc : isWhitespace c = true
    · rw [← List.append_assoc, List.rdropWhile_concat_pos _ _ _ hc, ih,
        List.rdropWhile_concat_pos _ _ _ hc]
    · rw [← List.append_assoc, List.rdropWhile_concat_neg _ _ _ hc,
        List.rdropWhile_concat_neg _ _ _ hc, List.append_assoc]

/-- What begins and ends with a word is left by trimming. -/
lemma trim_append (hfirst : ∃ c ∈ block.head?, isWhitespace c = false)
    (hlast : ∃ c ∈ block.getLast?, isWhitespace c = false) :
    trim (block ++ s) = block ++ s.rdropWhile isWhitespace := by
  obtain ⟨c, hc, hws⟩ := hfirst
  have hhead : (block ++ s).dropWhile isWhitespace = block ++ s := by
    cases block with
    | nil => cases hc
    | cons d block =>
      rw [← Option.some.inj hc] at hws
      rw [List.cons_append, List.dropWhile_cons_of_neg (by simp [hws])]
  rw [trim_eq, hhead, rdropWhile_append_of_getLast hlast]

lemma rdropWhile_dropWhile (s : List Char) :
    (s.rdropWhile isWhitespace).dropWhile isWhitespace = trim s := by
  induction s with
  | nil => rfl
  | cons c s ih =>
    by_cases hc : isWhitespace c = true
    · rw [trim_cons_of_isWhitespace hc, ← ih]
      by_cases hall : ∀ d ∈ s, isWhitespace d = true
      · have hnil : s.rdropWhile isWhitespace = [] := List.rdropWhile_eq_nil_iff.mpr hall
        have hnil' : (c :: s).rdropWhile isWhitespace = [] :=
          List.rdropWhile_eq_nil_iff.mpr (List.forall_mem_cons.mpr ⟨hc, hall⟩)
        rw [hnil, hnil']
      · have hcons : (c :: s).rdropWhile isWhitespace = c :: s.rdropWhile isWhitespace := by
          unfold List.rdropWhile
          rw [List.reverse_cons, List.dropWhile_append, if_neg, List.reverse_append]
          · rfl
          · rw [List.isEmpty_iff, List.dropWhile_eq_nil_iff]
            exact fun h => hall fun d hd => h d (List.mem_reverse.mpr hd)
        rw [hcons, List.dropWhile_cons_of_pos hc]
    · have hsingle : ∃ d ∈ [c].getLast?, isWhitespace d = false :=
        ⟨c, rfl, Bool.eq_false_of_not_eq_true hc⟩
      have hcons := rdropWhile_append_of_getLast (s := s) hsingle
      rw [List.cons_append, List.nil_append, List.cons_append, List.nil_append] at hcons
      rw [hcons, List.dropWhile_cons_of_neg hc, trim_eq, List.dropWhile_cons_of_neg hc, hcons]

lemma trim_rdropWhile (s : List Char) : trim (s.rdropWhile isWhitespace) = trim s := by
  rw [trim_eq, rdropWhile_dropWhile, trim_eq, List.rdropWhile_idempotent]

lemma dropWhile_trim (s : List Char) : (trim s).dropWhile isWhitespace = trim s := by
  rw [← rdropWhile_dropWhile s]
  exact List.dropWhile_idempotent _ _

lemma trim_trim (s : List Char) : trim (trim s) = trim s := by
  rw [trim_eq (trim s), dropWhile_trim, trim_eq, List.rdropWhile_idempotent]

end

/-! ### Tags and blocks -/

/-- A tag with a name of letters, digits and underscores. -/
def openingTag (tag : List Char) : List Char := '<' :: (tag ++ ['>'])

attribute [grind =] openingTag

section
variable {c : Char} {s s' tag block marker : List Char}

lemma ne_of_isTagChar (hc : isTagChar c = true) : c ≠ '>' ∧ isWhitespace c = false := by
  have hrange : 48 ≤ c.toNat ∧ c.toNat ≤ 57 ∨ 65 ≤ c.toNat ∧ c.toNat ≤ 122 := by
    simp only [isTagChar, Char.isAlphanum, Char.isAlpha, Char.isUpper, Char.isLower, Char.isDigit,
      Bool.or_eq_true, Bool.and_eq_true, decide_eq_true_eq, UInt32.le_iff_toNat_le, ge_iff_le] at hc
    rcases hc with ((⟨hlow, hhigh⟩ | ⟨hlow, hhigh⟩) | ⟨hlow, hhigh⟩) | rfl
    · exact Or.inr ⟨hlow, hhigh.trans (by decide)⟩
    · exact Or.inr ⟨le_trans (by decide) hlow, hhigh⟩
    · exact Or.inl ⟨hlow, hhigh⟩
    · exact Or.inr ⟨by decide, by decide⟩
  constructor
  · rintro rfl
    have h62 : ('>' : Char).toNat = 62 := rfl
    omega
  · simp only [isWhitespace, Bool.or_eq_false_iff, Bool.and_eq_false_iff, decide_eq_false_iff_not]
    omega

lemma leadingTag_eq_some :
    leadingTag s = some tag ↔ (∀ c ∈ tag, isTagChar c = true) ∧ openingTag tag <+: s := by
  cases s with
  | nil => simp [leadingTag, openingTag]
  | cons c rest =>
    by_cases hc : c = '<'
    · subst hc
      rw [leadingTag, openingTag, List.cons_prefix_cons]
      constructor
      · intro h
        by_cases hclosed : '>' ∈ rest ∧ (rest.takeWhile (· ≠ '>')).all isTagChar = true
        · rw [if_pos hclosed] at h
          have htag := Option.some.inj h
          obtain ⟨hmem, hall⟩ := hclosed
          rw [htag] at hall
          refine ⟨List.all_eq_true.mp hall, rfl, ?_⟩
          have hsplit := List.takeWhile_append_dropWhile (p := (· ≠ '>')) (l := rest)
          have hhead : ∃ more, rest.dropWhile (· ≠ '>') = '>' :: more := by
            cases hdrop : rest.dropWhile (· ≠ '>') with
            | nil =>
              have hnone := List.dropWhile_eq_nil_iff.mp hdrop '>' hmem
              simp at hnone
            | cons d more =>
              have hd := List.head?_dropWhile_not (p := (· ≠ '>')) (l := rest)
              rw [hdrop, List.head?_cons] at hd
              refine ⟨more, ?_⟩
              simpa using hd
          obtain ⟨more, hmore⟩ := hhead
          rw [htag, hmore] at hsplit
          refine ⟨more, ?_⟩
          rw [← hsplit, List.append_assoc]
          rfl
        · rw [if_neg hclosed] at h
          cases h
      · rintro ⟨hall, -, more, rfl⟩
        have htake : (tag ++ ['>'] ++ more).takeWhile (· ≠ '>') = tag := by
          rw [List.append_assoc, List.takeWhile_append_of_pos]
          · simp
          · intro d hd
            simpa using (ne_of_isTagChar (hall d hd)).1
        rw [htake, if_pos ⟨by simp, List.all_eq_true.mpr hall⟩]
    · have hnone : leadingTag (c :: rest) = none := by
        unfold leadingTag
        split
        · exact absurd (List.cons.inj ‹_›).1 hc
        · rfl
      rw [hnone, openingTag, List.cons_prefix_cons]
      constructor
      · intro h
        cases h
      · rintro ⟨-, hhead, -⟩
        exact absurd hhead.symm hc

lemma leadingTag_eq_none :
    leadingTag s = none ↔ ∀ tag, (∀ c ∈ tag, isTagChar c = true) → ¬ openingTag tag <+: s := by
  rw [Option.eq_none_iff_forall_ne_some]
  constructor
  · intro h tag hall hpre
    exact h tag (leadingTag_eq_some.mpr ⟨hall, hpre⟩)
  · intro h tag htag
    obtain ⟨hall, hpre⟩ := leadingTag_eq_some.mp htag
    exact h tag hall hpre

lemma leadingTag_of_extended (h : s <+: s') (hnone : leadingTag s' = none) : leadingTag s = none := by
  rw [leadingTag_eq_none] at hnone ⊢
  exact fun tag hall hpre => hnone tag hall (hpre.trans h)

lemma beginsWithMarker_eq_true : beginsWithMarker s = true ↔
    ∃ marker ∈ injectedPreambleMarkers, marker <+: s.dropWhile fun c => c = '#' || c = ' ' := by
  unfold beginsWithMarker
  simp only [List.any_eq_true, List.isPrefixOf_iff_prefix]

end

/-- A closed block that a tag opens: its closing tag is the first one. -/
structure TagBlock (block : List Char) : Prop where
  closed : ∃ tag, (∀ c ∈ tag, isTagChar c = true) ∧ openingTag tag <+: block ∧
    ClosedBy (closingTag tag) block

/-- A closed block that a marker opens. -/
structure MarkerBlock (block : List Char) : Prop where
  marked : beginsWithMarker block = true
  first : ∃ c ∈ block.head?, isWhitespace c = false
  untagged : leadingTag block = none
  closed : ClosedBy instructionsEnd block

/-- Blanks and closed blocks. -/
inductive Preamble : List Char → Prop
  | nil : Preamble []
  | blank {c s} (hc : isWhitespace c = true) (hs : Preamble s) : Preamble (c :: s)
  | tagged {block s} (hblock : TagBlock block) (hs : Preamble s) : Preamble (block ++ s)
  | marked {block s} (hblock : MarkerBlock block) (hs : Preamble s) : Preamble (block ++ s)

/-- The heading of the guidelines, or a marker whose words other blanks than single spaces
separate. -/
def MissedMarker (text : List Char) : Prop :=
  "# Repository Guidelines".toList <+: spaced isWhitespace ' ' text ∨
    ∃ marker ∈ injectedPreambleMarkers, marker <+: spaced isWhitespace ' ' text ∧
      ¬ marker <+: trim text

section
variable {c : Char} {s rest block p q value : List Char}

namespace Preamble

lemma append (hp : Preamble p) (hq : Preamble q) : Preamble (p ++ q) := by
  induction hp with
  | nil => exact hq
  | blank hc _ ih => exact .blank hc ih
  | tagged hblock _ ih =>
    rw [List.append_assoc]
    exact .tagged hblock ih
  | marked hblock _ ih =>
    rw [List.append_assoc]
    exact .marked hblock ih

lemma of_forall (h : ∀ c ∈ s, isWhitespace c = true) : Preamble s := by
  induction s with
  | nil => exact .nil
  | cons c s ih =>
    exact .blank (h c List.mem_cons_self) (ih fun d hd => h d (List.mem_cons_of_mem c hd))

lemma takeWhile (s : List Char) : Preamble (s.takeWhile isWhitespace) :=
  of_forall fun _ hc => List.mem_takeWhile_imp hc

end Preamble

lemma getLast_of_closedBy {needle : List Char} (h : ClosedBy needle block) (hne : needle ≠ []) :
    block.getLast? = needle.getLast? := by
  obtain ⟨before, rfl⟩ := h.1
  exact List.getLast?_append_of_ne_nil before hne

lemma TagBlock.first (h : TagBlock block) : ∃ c ∈ block.head?, isWhitespace c = false := by
  obtain ⟨tag, -, ⟨more, rfl⟩, -⟩ := h.closed
  exact ⟨'<', rfl, by decide⟩

lemma TagBlock.last (h : TagBlock block) : ∃ c ∈ block.getLast?, isWhitespace c = false := by
  obtain ⟨tag, -, -, hclosed⟩ := h.closed
  refine ⟨'>', ?_, by decide⟩
  rw [getLast_of_closedBy hclosed (List.cons_ne_nil _ _)]
  have hcons : closingTag tag = '<' :: '/' :: tag ++ ['>'] := rfl
  rw [hcons, List.getLast?_concat]
  rfl

lemma MarkerBlock.last (h : MarkerBlock block) :
    ∃ c ∈ block.getLast?, isWhitespace c = false := by
  refine ⟨'>', ?_, by decide⟩
  rw [getLast_of_closedBy h.closed (by decide)]
  decide

lemma MarkerBlock.mem_close (h : MarkerBlock block) : '>' ∈ block :=
  h.closed.1.subset (by decide)

/-- A tag ends at its first angle bracket. -/
lemma leadingTag_append_of_mem (hmem : '>' ∈ block) (s : List Char) :
    leadingTag (block ++ s) = none ↔ leadingTag block = none := by
  refine ⟨leadingTag_of_extended (List.prefix_append block s), ?_⟩
  intro hnone
  rw [leadingTag_eq_none] at hnone ⊢
  intro tag htag hpre
  by_cases hlength : (openingTag tag).length ≤ block.length
  · exact hnone tag htag
      (List.prefix_of_prefix_length_le hpre (List.prefix_append block s) hlength)
  · have hshort : block <+: '<' :: tag := by
      have hin := List.prefix_of_prefix_length_le (List.prefix_append block s) hpre
        (not_le.mp hlength).le
      have hopen : openingTag tag = '<' :: tag ++ ['>'] := rfl
      rw [hopen] at hin hlength
      apply List.prefix_of_prefix_length_le hin (List.prefix_append _ _)
      rw [List.length_append, List.length_singleton] at hlength
      omega
    rcases List.mem_cons.mp (hshort.subset hmem) with hopen | hin
    · cases hopen
    · exact (ne_of_isTagChar (htag '>' hin)).1 rfl

/-- No marker runs past the end of a block. -/
lemma beginsWithMarker_append (hclosed : instructionsEnd <:+ block) (s : List Char) :
    beginsWithMarker (block ++ s) = beginsWithMarker block := by
  obtain ⟨before, rfl⟩ := hclosed
  have hdrop : ∀ more : List Char, (before ++ instructionsEnd ++ more).dropWhile
      (fun c => c = '#' || c = ' ') =
        (before.dropWhile fun c => c = '#' || c = ' ') ++ (instructionsEnd ++ more) := by
    intro more
    rw [List.append_assoc, List.dropWhile_append]
    by_cases hempty : (before.dropWhile fun c => c = '#' || c = ' ').isEmpty = true
    · rw [if_pos hempty, List.isEmpty_iff.mp hempty]
      rfl
    · rw [if_neg hempty]
  have hblock := hdrop []
  rw [List.append_nil, List.append_nil] at hblock
  rw [Bool.eq_iff_iff, beginsWithMarker_eq_true, beginsWithMarker_eq_true, hdrop, hblock]
  generalize (before.dropWhile fun c => c = '#' || c = ' ') = u
  have hfree : ∀ marker ∈ injectedPreambleMarkers, ¬ instructionsEnd <:+: marker := by
    decide
  constructor
  · rintro ⟨marker, hmarker, hpre⟩
    refine ⟨marker, hmarker, ?_⟩
    have hlong : u ++ instructionsEnd <+: u ++ (instructionsEnd ++ s) := by
      rw [← List.append_assoc]
      exact List.prefix_append _ s
    by_cases hlength : marker.length ≤ (u ++ instructionsEnd).length
    · exact List.prefix_of_prefix_length_le hpre hlong hlength
    · have hin := List.prefix_of_prefix_length_le hlong hpre (not_le.mp hlength).le
      exact absurd ((List.suffix_append u instructionsEnd).isInfix.trans hin.isInfix)
        (hfree marker hmarker)
  · rintro ⟨marker, hmarker, hpre⟩
    refine ⟨marker, hmarker, hpre.trans ?_⟩
    rw [← List.append_assoc]
    exact List.prefix_append _ s

/-! ### Stripping -/

/-- What follows the loop over the tags. -/
def stripMarked : Option (List Char) → List Char
  | none => []
  | some rest =>
    if beginsWithMarker rest then
      ((afterFirst instructionsEnd rest).map stripInjectedPreamble).getD []
    else rest

attribute [grind =] stripMarked

lemma stripInjectedPreamble_eq (value : List Char) :
    stripInjectedPreamble value = stripMarked ((stripTags (trim value)).map trim) := by
  rw [stripInjectedPreamble]
  split
  · next htags =>
    rw [htags]
    rfl
  · next rest htags =>
    rw [htags, Option.map_some, stripMarked]
    by_cases hmarker : beginsWithMarker (trim rest) = true
    · rw [if_pos hmarker, if_pos hmarker]
      split
      · next hnone =>
        rw [hnone]
        rfl
      · next behind hsome =>
        rw [hsome]
        rfl
    · rw [if_neg hmarker, if_neg hmarker]

lemma stripTags_of_none (h : leadingTag (s.dropWhile isWhitespace) = none) :
    stripTags s = some s := by
  rw [stripTags]
  split
  · rfl
  · next tag htag =>
    rw [h] at htag
    cases htag

lemma stripTags_of_some {tag : List Char} (h : leadingTag (s.dropWhile isWhitespace) = some tag) :
    stripTags s = (afterFirst (closingTag tag) (s.dropWhile isWhitespace)).bind stripTags := by
  rw [stripTags]
  split
  · next htag =>
    rw [h] at htag
    cases htag
  · next tag' htag =>
    obtain rfl := Option.some.inj (h.symm.trans htag)
    split
    · next hnone =>
      rw [hnone]
      rfl
    · next behind hsome =>
      rw [hsome]
      rfl

lemma map_trim_stripTags_dropWhile (s : List Char) :
    (stripTags (s.dropWhile isWhitespace)).map trim = (stripTags s).map trim := by
  have hdrop : (s.dropWhile isWhitespace).dropWhile isWhitespace = s.dropWhile isWhitespace :=
    List.dropWhile_idempotent _ _
  cases htag : leadingTag (s.dropWhile isWhitespace) with
  | none =>
    have htag' : leadingTag ((s.dropWhile isWhitespace).dropWhile isWhitespace) = none := by
      rw [hdrop, htag]
    rw [stripTags_of_none htag, stripTags_of_none htag', Option.map_some, Option.map_some,
      trim_eq, hdrop, ← trim_eq]
  | some tag =>
    have htag' : leadingTag ((s.dropWhile isWhitespace).dropWhile isWhitespace) = some tag := by
      rw [hdrop, htag]
    rw [stripTags_of_some htag, stripTags_of_some htag', hdrop]

lemma strip_rdropWhile (s : List Char) :
    stripInjectedPreamble s =
      stripMarked ((stripTags (s.rdropWhile isWhitespace)).map trim) := by
  rw [stripInjectedPreamble_eq, ← rdropWhile_dropWhile, map_trim_stripTags_dropWhile]

lemma strip_congr {s s' : List Char} (h : trim s = trim s') :
    stripInjectedPreamble s = stripInjectedPreamble s' := by
  rw [stripInjectedPreamble_eq, stripInjectedPreamble_eq, h]

lemma dropWhile_append_of_head {p : Char → Bool} (hfirst : ∃ c ∈ block.head?, p c = false)
    (s : List Char) : (block ++ s).dropWhile p = block ++ s := by
  obtain ⟨c, hc, hws⟩ := hfirst
  cases block with
  | nil => cases hc
  | cons d block =>
    rw [← Option.some.inj hc] at hws
    rw [List.cons_append, List.dropWhile_cons_of_neg (by simp [hws])]

/-- A block with a tag is stripped. -/
lemma strip_tagBlock (h : TagBlock block) (s : List Char) :
    stripInjectedPreamble (block ++ s) = stripInjectedPreamble s := by
  obtain ⟨tag, htag, hopen, hclosed⟩ := h.closed
  rw [stripInjectedPreamble_eq, trim_append h.first h.last, strip_rdropWhile s]
  generalize s.rdropWhile isWhitespace = r
  have hdrop : (block ++ r).dropWhile isWhitespace = block ++ r :=
    dropWhile_append_of_head h.first r
  have hleading : leadingTag ((block ++ r).dropWhile isWhitespace) = some tag := by
    rw [hdrop, leadingTag_eq_some]
    exact ⟨htag, hopen.trans (List.prefix_append block r)⟩
  have hbehind : afterFirst (closingTag tag) (block ++ r) = some r :=
    afterFirst_append (List.cons_ne_nil _ _) hclosed r
  rw [stripTags_of_some hleading, hdrop, hbehind, Option.bind_some]

/-- A block with a marker is stripped. -/
lemma strip_markerBlock (h : MarkerBlock block) (s : List Char) :
    stripInjectedPreamble (block ++ s) = stripInjectedPreamble s := by
  have hs : stripInjectedPreamble s = stripInjectedPreamble (s.rdropWhile isWhitespace) :=
    strip_congr (trim_rdropWhile s).symm
  rw [stripInjectedPreamble_eq, trim_append h.first h.last, hs]
  have htrim : trim (block ++ s.rdropWhile isWhitespace) = block ++ s.rdropWhile isWhitespace := by
    rw [trim_append h.first h.last, List.rdropWhile_idempotent]
  generalize s.rdropWhile isWhitespace = r at htrim
  have hleading : leadingTag ((block ++ r).dropWhile isWhitespace) = none := by
    rw [dropWhile_append_of_head h.first r, leadingTag_append_of_mem h.mem_close]
    exact h.untagged
  have hmarked : beginsWithMarker (block ++ r) = true := by
    rw [beginsWithMarker_append h.closed.1, h.marked]
  rw [stripTags_of_none hleading, Option.map_some, htrim, stripMarked, if_pos hmarked,
    afterFirst_append (by decide) h.closed]
  rfl

lemma strip_preamble (hp : Preamble p) (s : List Char) :
    stripInjectedPreamble (p ++ s) = stripInjectedPreamble s := by
  induction hp with
  | nil => rfl
  | blank hc _ ih =>
    rw [← ih]
    exact strip_congr (trim_cons_of_isWhitespace hc)
  | tagged hblock _ ih => rw [List.append_assoc, strip_tagBlock hblock, ih]
  | marked hblock _ ih => rw [List.append_assoc, strip_markerBlock hblock, ih]

/-- Without a leading tag or marker only blanks are stripped. -/
lemma strip_settled (htag : leadingTag (trim s) = none) (hmarker : beginsWithMarker (trim s) = false) :
    stripInjectedPreamble s = trim s := by
  have hleading : leadingTag ((trim s).dropWhile isWhitespace) = none := by
    rw [dropWhile_trim, htag]
  rw [stripInjectedPreamble_eq, stripTags_of_none hleading, Option.map_some, trim_trim, stripMarked,
    if_neg (by simp [hmarker])]

lemma trim_append_blanks (h : ∀ c ∈ p, isWhitespace c = true) : trim (s ++ p) = trim s := by
  induction p using List.reverseRecOn with
  | nil => rw [List.append_nil]
  | append_singleton p c ih =>
    have hp : ∀ d ∈ p, isWhitespace d = true := fun d hd => h d (List.mem_append_left [c] hd)
    rw [← List.append_assoc, ← ih hp]
    exact trimBy_concat (h c (List.mem_append_right p (List.mem_singleton_self c)))

/-- A text is its blanks, its trimmed form and further blanks. -/
lemma exists_blanks (s : List Char) :
    ∃ lead tail, s = lead ++ (trim s ++ tail) ∧ Preamble lead ∧
      ∀ c ∈ tail, isWhitespace c = true := by
  refine ⟨s.takeWhile isWhitespace, (s.dropWhile isWhitespace).rtakeWhile isWhitespace, ?_,
    .takeWhile s, ?_⟩
  · rw [trim_eq, List.rdropWhile_append_rtakeWhile, List.takeWhile_append_dropWhile]
  · exact fun c hc => List.mem_rtakeWhile_imp hc

lemma openingTag_prefix_of_append {tag : List Char} (htag : ∀ c ∈ tag, isTagChar c = true)
    (hclosed : ClosedBy (closingTag tag) block) (hpre : openingTag tag <+: block ++ s) :
    openingTag tag <+: block := by
  by_cases hlength : (openingTag tag).length ≤ block.length
  · exact List.prefix_of_prefix_length_le hpre (List.prefix_append block s) hlength
  · have hin := List.prefix_of_prefix_length_le (List.prefix_append block s) hpre
      (not_le.mp hlength).le
    have hslash : '/' ∈ openingTag tag := by
      apply hin.subset
      apply hclosed.1.subset
      exact List.mem_cons_of_mem _ List.mem_cons_self
    rcases List.mem_cons.mp hslash with heq | hslash
    · cases heq
    · rcases List.mem_append.mp hslash with hmem | hmem
      · exact absurd (htag '/' hmem) (by decide)
      · cases List.mem_singleton.mp hmem

/-- The loop over the tags passes over closed blocks. -/
lemma exists_of_stripTags (h : stripTags s = some rest) :
    ∃ p, s = p ++ rest ∧ Preamble p ∧ leadingTag (rest.dropWhile isWhitespace) = none := by
  fun_induction stripTags s with
  | case1 s trimmed htag =>
    obtain rfl := Option.some.inj h
    exact ⟨[], rfl, .nil, htag⟩
  | case2 s trimmed tag htag hnone => cases h
  | case3 s trimmed tag htag behind hbehind ih =>
    obtain ⟨p, rfl, hp, hnone⟩ := ih h
    obtain ⟨block, hclosed, hsplit⟩ := exists_of_afterFirst (List.cons_ne_nil _ _) hbehind
    obtain ⟨hall, hopen⟩ := leadingTag_eq_some.mp htag
    have hblock : TagBlock block :=
      ⟨tag, hall, openingTag_prefix_of_append hall hclosed (hsplit ▸ hopen), hclosed⟩
    refine ⟨s.takeWhile isWhitespace ++ (block ++ p), ?_, ?_, hnone⟩
    · rw [List.append_assoc, List.append_assoc, ← hsplit]
      exact List.takeWhile_append_dropWhile.symm
    · exact (Preamble.takeWhile s).append (.tagged hblock hp)

/-- A message is closed blocks and a rest without a leading tag or marker, unless nothing of it is
left. -/
lemma exists_preamble (value : List Char) :
    stripInjectedPreamble value = [] ∨
      ∃ p rest, value = p ++ rest ∧ Preamble p ∧ leadingTag (trim rest) = none ∧
        beginsWithMarker (trim rest) = false := by
  induction hn : value.length using Nat.strong_induction_on generalizing value with
  | _ n ih =>
    obtain ⟨lead, tail, hvalue, hlead, htail⟩ := exists_blanks value
    have hstrip := stripInjectedPreamble_eq value
    cases hloop : stripTags (trim value) with
    | none =>
      rw [hloop] at hstrip
      exact Or.inl hstrip
    | some r =>
      obtain ⟨p, hsplit, hp, hnone⟩ := exists_of_stripTags hloop
      obtain ⟨lead', tail', hr, hlead', htail'⟩ := exists_blanks r
      rw [hloop, Option.map_some, stripMarked] at hstrip
      have htag : leadingTag (trim r) = none := by
        apply leadingTag_of_extended _ hnone
        rw [trim_eq]
        exact List.rdropWhile_prefix _ _
      by_cases hmarker : beginsWithMarker (trim r) = true
      · rw [if_pos hmarker] at hstrip
        cases hbehind : afterFirst instructionsEnd (trim r) with
        | none =>
          rw [hbehind] at hstrip
          exact Or.inl hstrip
        | some behind =>
          rw [hbehind, Option.map_some, Option.getD_some] at hstrip
          obtain ⟨block, hclosed, hcut⟩ := exists_of_afterFirst (by decide) hbehind
          have hblock : MarkerBlock block := by
            rw [hcut] at hmarker htag
            rw [beginsWithMarker_append hclosed.1] at hmarker
            have hmem : '>' ∈ block := hclosed.1.subset (by decide)
            refine ⟨hmarker, ?_, (leadingTag_append_of_mem hmem behind).mp htag, hclosed⟩
            obtain ⟨c, block', rfl⟩ := List.exists_cons_of_ne_nil (List.ne_nil_of_mem hmem)
            refine ⟨c, rfl, ?_⟩
            apply ws_head_trimBy (s := r)
            have hhead : trimBy isWhitespace r = trim r := rfl
            rw [hhead, hcut]
            rfl
          have hlt : behind.length < n := by
            have hone := afterFirst_length_lt (by decide) hbehind
            have htwo := length_trim_le r
            have hthree := stripTags_length_le hloop
            have hfour := length_trim_le value
            omega
          rcases ih behind.length hlt behind rfl with hempty | ⟨p', rest, hrest, hp', hsettled⟩
          · exact Or.inl (hstrip.trans hempty)
          · refine Or.inr ⟨lead ++ (p ++ (lead' ++ (block ++ p'))), rest ++ (tail' ++ tail), ?_, ?_, ?_⟩
            · rw [hvalue, hsplit, hr, hcut, hrest]
              simp only [List.append_assoc]
            · exact hlead.append (hp.append (hlead'.append (.marked hblock hp')))
            · have hblanks : ∀ c ∈ tail' ++ tail, isWhitespace c = true := by
                intro c hc
                rcases List.mem_append.mp hc with hc | hc
                · exact htail' c hc
                · exact htail c hc
              rw [trim_append_blanks hblanks]
              exact hsettled
      · refine Or.inr ⟨lead ++ p, r ++ tail, ?_, hlead.append hp, ?_⟩
        · rw [hvalue, hsplit]
          simp only [List.append_assoc]
        · rw [trim_append_blanks htail]
          exact ⟨htag, Bool.eq_false_of_not_eq_true hmarker⟩

end

/-! ### Markers that are missed -/

section
variable {marker s : List Char}

lemma prefix_spaced_trim : marker <+: spaced isWhitespace ' ' s ↔
    marker <+: spaced isWhitespace ' ' (trim s) := by
  have htrim : spaced isWhitespace ' ' (trim s) = spaced isWhitespace ' ' s := spaced_trimBy
  rw [htrim]

lemma head_trim {c : Char} (hc : c ∈ (trim s).head?) : isWhitespace c = false :=
  ws_head_trimBy (s := s) hc

/-- A marker that shows between single blanks begins the trimmed text with its first character. -/
lemma head?_trim_of_prefix {c : Char} (hc : marker.head? = some c)
    (h : marker <+: spaced isWhitespace ' ' s) : (trim s).head? = some c := by
  rw [prefix_spaced_trim] at h
  obtain ⟨more, hmore⟩ := h
  have hhead : (spaced isWhitespace ' ' (trim s)).head? = (trim s).head? := by
    rw [head?_spaced, dropWhile_trim]
  rw [← hhead, ← hmore]
  cases marker with
  | nil => cases hc
  | cons d marker => exact hc

lemma marker_ne_nil (hm : marker ∈ injectedPreambleMarkers) : marker ≠ [] := by
  have hnonempty : ∀ m ∈ injectedPreambleMarkers, m ≠ [] := by decide
  exact hnonempty marker hm

lemma head?_of_prefix {t : List Char} {c : Char} (h : t <+: s) (hc : s.head? = some c)
    (hne : t ≠ []) : t.head? = some c := by
  obtain ⟨more, rfl⟩ := h
  cases t with
  | nil => exact absurd rfl hne
  | cons d t => exact hc

lemma markers_distinct : ∀ m ∈ injectedPreambleMarkers, ∀ m' ∈ injectedPreambleMarkers,
    m.head? = m'.head? → m.head? ≠ some '<' → m = m' := by decide

lemma guidelines_eq : "# Repository Guidelines".toList =
    '#' :: ' ' :: 'R' :: "epository Guidelines".toList := by simp

lemma head_of_marker : ∀ m ∈ injectedPreambleMarkers,
    m.head? ∈ [some '<', some '#', some 'A', some '[', some 'C'] := by decide

/-- A marker is a tag, the heading, or words that begin otherwise. -/
lemma marker_cases (hm : marker ∈ injectedPreambleMarkers) :
    (marker.head? = some '<' ∧ ∀ c ∈ marker, isWhitespace c = false) ∨
      (marker.head? = some '#' ∧ marker = "# Repository Guidelines".toList) ∨
      ∃ c, marker.head? = some c ∧ c ≠ '<' ∧ c ≠ '#' ∧ c ≠ ' ' := by
  have hhead := head_of_marker marker hm
  have htag : injectedPreambleMarkers.all (fun m =>
      m.head? != some '<' || m.all fun c => !isWhitespace c) = true := by decide
  have hheading : ∀ m ∈ injectedPreambleMarkers, m.head? = some '#' →
      m = "# Repository Guidelines".toList := by decide
  simp only [List.mem_cons, List.not_mem_nil, or_false] at hhead
  rcases hhead with h | h | h | h | h
  · have hwords := List.all_eq_true.mp htag marker hm
    simp only [h, bne_self_eq_false, Bool.false_or, List.all_eq_true, Bool.not_eq_true'] at hwords
    exact Or.inl ⟨h, hwords⟩
  · exact Or.inr (Or.inl ⟨h, hheading marker hm h⟩)
  all_goals exact Or.inr (Or.inr ⟨_, h, by decide, by decide, by decide⟩)

lemma head?_dropWhile_of_letter {p : Char → Bool} {c : Char} (hp : p c = false)
    (h : (s.dropWhile isWhitespace).head? = some c) :
    ∃ d, (s.dropWhile p).head? = some d ∧ (isWhitespace d = true ∨ d = c) := by
  induction s with
  | nil => cases h
  | cons d s ih =>
    by_cases hd : isWhitespace d = true
    · rw [List.dropWhile_cons_of_pos hd] at h
      by_cases hpd : p d = true
      · rw [List.dropWhile_cons_of_pos hpd]
        exact ih h
      · rw [List.dropWhile_cons_of_neg hpd]
        exact ⟨d, rfl, Or.inl hd⟩
    · rw [List.dropWhile_cons_of_neg hd] at h
      obtain rfl := Option.some.inj h
      rw [List.dropWhile_cons_of_neg (by simp [hp])]
      exact ⟨d, rfl, Or.inr rfl⟩

/-- Behind a heading's sign the words begin with a capital R, which no marker does. -/
lemma not_beginsWithMarker_guidelines
    (h : "# Repository Guidelines".toList <+: spaced isWhitespace ' ' s) :
    beginsWithMarker (trim s) = false := by
  rw [guidelines_eq] at h
  have hhead := head?_trim_of_prefix rfl h
  rw [prefix_spaced_trim] at h
  generalize "epository Guidelines".toList = word at h
  cases hs : trim s with
  | nil =>
    rw [hs] at hhead
    cases hhead
  | cons c u =>
    rw [hs] at hhead h
    obtain rfl := Option.some.inj hhead
    have hletter : (u.dropWhile isWhitespace).head? = some 'R' := by
      by_cases hend : ∀ d ∈ u.head?, isWhitespace d = true
      · rw [spaced_cons_of_end (by decide) hend] at h
        by_cases hempty : spaced isWhitespace ' ' u = []
        · rw [if_pos hempty] at h
          exact absurd h.length_le (by simp)
        · rw [if_neg hempty] at h
          obtain ⟨more, hmore⟩ := h
          have hu := (List.cons.inj (List.cons.inj hmore).2).2
          have hspaced : (spaced isWhitespace ' ' u).head? = (u.dropWhile isWhitespace).head? :=
            head?_spaced
          rw [← hspaced, ← hu]
          rfl
      · exfalso
        cases u with
        | nil => exact hend fun d hd => nomatch hd
        | cons d u =>
          have hd : isWhitespace d = false := by
            by_contra hne
            apply hend
            intro e he
            rw [← Option.some.inj he]
            exact Bool.eq_true_of_not_eq_false hne
          rw [spaced_cons_cons (by decide) hd] at h
          obtain ⟨more, hmore⟩ := h
          have hspaced := congrArg List.head? (List.cons.inj hmore).2
          rw [head?_spaced, List.dropWhile_cons_of_neg (by simp [hd])] at hspaced
          rw [← Option.some.inj hspaced] at hd
          exact absurd hd (by decide)
    obtain ⟨c, hc, hkind⟩ := head?_dropWhile_of_letter (p := fun c => c = '#' || c = ' ')
      (by decide) hletter
    by_contra hmarked
    obtain ⟨m, hm, hpre⟩ := beginsWithMarker_eq_true.mp (Bool.eq_true_of_not_eq_false hmarked)
    rw [List.dropWhile_cons_of_pos (by decide)] at hpre
    have hm' : m.head? = some c := head?_of_prefix hpre hc (marker_ne_nil hm)
    have hfirst := head_of_marker m hm
    rw [hm'] at hfirst
    have hplain : isWhitespace c = false ∧ c ≠ 'R' := by
      simp only [List.mem_cons, List.not_mem_nil, or_false, Option.some.injEq] at hfirst
      rcases hfirst with rfl | rfl | rfl | rfl | rfl <;> exact ⟨by decide, by decide⟩
    rcases hkind with hkind | hkind
    · rw [hplain.1] at hkind
      cases hkind
    · exact hplain.2 hkind

/-- A missed marker is neither a tag nor seen by the code. -/
lemma MissedMarker.settled (h : MissedMarker s) :
    leadingTag (trim s) = none ∧ beginsWithMarker (trim s) = false := by
  have hhead : ∃ c, (trim s).head? = some c ∧ c ≠ '<' := by
    rcases h with h | ⟨marker, hmarker, hpre, hmissed⟩
    · rw [guidelines_eq] at h
      exact ⟨'#', head?_trim_of_prefix rfl h, by decide⟩
    · rcases marker_cases hmarker with ⟨-, hwords⟩ | ⟨hc, -⟩ | ⟨c, hc, hne, -⟩
      · rw [prefix_spaced_trim] at hpre
        exact absurd (prefix_of_prefix_spaced (by decide) hwords (fun c => head_trim) hpre) hmissed
      · exact ⟨'#', head?_trim_of_prefix hc hpre, by decide⟩
      · exact ⟨c, head?_trim_of_prefix hc hpre, hne⟩
  constructor
  · obtain ⟨c, hc, hne⟩ := hhead
    rw [leadingTag_eq_none]
    rintro tag - ⟨more, hmore⟩
    rw [← hmore] at hc
    exact hne (Option.some.inj hc).symm
  · rcases h with h | ⟨marker, hmarker, hpre, hmissed⟩
    · exact not_beginsWithMarker_guidelines h
    · rcases marker_cases hmarker with ⟨-, hwords⟩ | ⟨-, rfl⟩ | ⟨c, hc, hne⟩
      · rw [prefix_spaced_trim] at hpre
        exact absurd (prefix_of_prefix_spaced (by decide) hwords (fun c => head_trim) hpre) hmissed
      · exact not_beginsWithMarker_guidelines hpre
      · have htrim := head?_trim_of_prefix hc hpre
        by_contra hmarked
        obtain ⟨m, hm, hseen⟩ := beginsWithMarker_eq_true.mp (Bool.eq_true_of_not_eq_false hmarked)
        have hsame : (trim s).dropWhile (fun c => c = '#' || c = ' ') = trim s := by
          have hfirst : ∃ d ∈ (trim s).head?, (d = '#' || d = ' ') = false :=
            ⟨c, htrim, by simp [hne.2.1, hne.2.2]⟩
          have happend := dropWhile_append_of_head hfirst []
          rwa [List.append_nil] at happend
        rw [hsame] at hseen
        apply hmissed
        have hm' : m.head? = some c := head?_of_prefix hseen htrim (marker_ne_nil hm)
        have heq : marker = m := by
          apply markers_distinct marker hmarker m hm (hc.trans hm'.symm)
          rw [hc]
          exact fun h => hne.1 (Option.some.inj h)
        rw [heq]
        exact hseen

end

/-! ### Titles -/

/-- The text begins with a marker or a tag. -/
def BeginsWithPreamble (text : List Char) : Prop :=
  (∃ marker ∈ injectedPreambleMarkers, marker <+: text) ∨
    ∃ tag, (∀ c ∈ tag, isTagChar c = true) ∧ openingTag tag <+: text

/-- Stripping leaves a part of the message, changes it once, and no title begins with a marker or a
tag. -/
structure StripsPreamble (value : List Char) : Prop where
  part : stripInjectedPreamble value <:+: value
  idempotent : stripInjectedPreamble (stripInjectedPreamble value) = stripInjectedPreamble value
  title : ∀ title, safeTitle value = some title → ¬ BeginsWithPreamble title

section
variable {value title marker : List Char}

lemma strip_nil : stripInjectedPreamble [] = [] := strip_settled (by decide) (by decide)

lemma strip_within (value : List Char) : stripInjectedPreamble value <:+: value := by
  rcases exists_preamble value with hempty | ⟨p, rest, rfl, hp, htag, hmarker⟩
  · rw [hempty]
    exact List.nil_infix
  · rw [strip_preamble hp, strip_settled htag hmarker]
    have htrim : trim rest <:+: rest := by
      rw [trim_eq]
      exact (List.rdropWhile_prefix _ _).isInfix.trans (List.dropWhile_suffix _).isInfix
    exact htrim.trans (List.suffix_append p rest).isInfix

lemma strip_strip (value : List Char) :
    stripInjectedPreamble (stripInjectedPreamble value) = stripInjectedPreamble value := by
  rcases exists_preamble value with hempty | ⟨p, rest, rfl, hp, htag, hmarker⟩
  · rw [hempty, strip_nil]
  · rw [strip_preamble hp, strip_settled htag hmarker, strip_congr (trim_trim rest),
      strip_settled htag hmarker]

lemma safeTitle_eq_some (h : safeTitle value = some title) :
    title = (spaced isWhitespace ' ' (stripInjectedPreamble value)).take titleMaxChars ∧
      title ≠ [] := by
  unfold safeTitle at h
  dsimp only at h
  by_cases hempty : (spaced isWhitespace ' ' (stripInjectedPreamble value)).take titleMaxChars = []
  · rw [if_pos hempty] at h
    cases h
  · rw [if_neg hempty] at h
    rw [← Option.some.inj h]
    exact ⟨rfl, hempty⟩

/-- A title begins with a marker or a tag exactly when a missed marker follows the closed blocks of
the message. -/
theorem stripsPreamble_iff (value : List Char) : StripsPreamble value ↔
    ¬∃ preamble text, value = preamble ++ text ∧ Preamble preamble ∧ MissedMarker text := by
  constructor
  · rintro h ⟨preamble, text, rfl, hp, hmissed⟩
    obtain ⟨htag, hmarker⟩ := hmissed.settled
    have hstrip : stripInjectedPreamble (preamble ++ text) = trim text := by
      rw [strip_preamble hp, strip_settled htag hmarker]
    have hfound : ∃ marker ∈ injectedPreambleMarkers,
        marker <+: spaced isWhitespace ' ' (trim text) := by
      rcases hmissed with hpre | ⟨marker, hmem, hpre, -⟩
      · exact ⟨_, by decide, prefix_spaced_trim.mp hpre⟩
      · exact ⟨marker, hmem, prefix_spaced_trim.mp hpre⟩
    obtain ⟨marker, hmem, hpre⟩ := hfound
    have hsizes : ∀ marker ∈ injectedPreambleMarkers,
        0 < marker.length ∧ marker.length ≤ titleMaxChars := by decide
    obtain ⟨hpos, hlength⟩ := hsizes marker hmem
    have htitle : marker <+: (spaced isWhitespace ' ' (trim text)).take titleMaxChars :=
      List.prefix_take_iff.mpr ⟨hpre, hlength⟩
    have hnonempty : (spaced isWhitespace ' ' (trim text)).take titleMaxChars ≠ [] := by
      intro hnil
      rw [hnil] at htitle
      rw [List.prefix_nil.mp htitle] at hpos
      exact absurd hpos (lt_irrefl 0)
    refine h.title _ ?_ (Or.inl ⟨marker, hmem, htitle⟩)
    unfold safeTitle
    rw [hstrip]
    exact if_neg hnonempty
  · intro hnone
    refine ⟨strip_within value, strip_strip value, ?_⟩
    intro title htitle hbegins
    obtain ⟨rfl, hnonempty⟩ := safeTitle_eq_some htitle
    rcases exists_preamble value with hempty | ⟨p, rest, rfl, hp, htag, hmarker⟩
    · rw [hempty] at hnonempty
      exact hnonempty rfl
    · rw [strip_preamble hp, strip_settled htag hmarker] at hbegins
      rcases hbegins with ⟨marker, hmem, hpre⟩ | ⟨tag, hall, hpre⟩
      · apply hnone
        refine ⟨p, rest, rfl, hp, ?_⟩
        have hspaced := prefix_spaced_trim.mpr (List.prefix_take_iff.mp hpre).1
        by_cases hguidelines : marker = "# Repository Guidelines".toList
        · exact Or.inl (hguidelines ▸ hspaced)
        · refine Or.inr ⟨marker, hmem, hspaced, ?_⟩
          intro hseen
          obtain ⟨more, hmore⟩ := hseen
          have hfirst : ∃ c ∈ marker.head?, (c = '#' || c = ' ') = false := by
            rcases marker_cases hmem with ⟨hc, -⟩ | ⟨-, heq⟩ | ⟨c, hc, -, hne⟩
            · exact ⟨'<', hc, by decide⟩
            · exact absurd heq hguidelines
            · exact ⟨c, hc, by simp [hne.1, hne.2]⟩
          have hmarked : beginsWithMarker (trim rest) = true := by
            rw [beginsWithMarker_eq_true, ← hmore, dropWhile_append_of_head hfirst]
            exact ⟨marker, hmem, List.prefix_append marker more⟩
          rw [hmarker] at hmarked
          cases hmarked
      · have hwords : ∀ c ∈ openingTag tag, isWhitespace c = false := by
          intro c hc
          rcases List.mem_cons.mp hc with rfl | hc
          · decide
          · rcases List.mem_append.mp hc with hc | hc
            · exact (ne_of_isTagChar (hall c hc)).2
            · rw [List.mem_singleton.mp hc]
              decide
        have hspaced := (List.prefix_take_iff.mp hpre).1
        have hstart := prefix_of_prefix_spaced (by decide) hwords (fun c => head_trim) hspaced
        exact leadingTag_eq_none.mp htag tag hall hstart

/-- The marker with the heading's sign is never seen: the sign is dropped before the test. -/
theorem not_stripsPreamble_guidelines :
    ¬ StripsPreamble "# Repository Guidelines\n\nUse tabs.".toList := by
  intro h
  have hstrip := strip_settled (s := "# Repository Guidelines\n\nUse tabs.".toList)
    (by decide) (by decide)
  have htitle : safeTitle "# Repository Guidelines\n\nUse tabs.".toList =
      some "# Repository Guidelines Use tabs.".toList := by
    unfold safeTitle
    rw [hstrip]
    decide
  apply h.title _ htitle
  exact Or.inl ⟨"# Repository Guidelines".toList, by decide, by decide⟩

end

end Ork3.Projects
