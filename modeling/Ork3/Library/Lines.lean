import Ork3.Library.Utf8

/-!
# Lines of a text

A text is cut behind each line feed into segments; a line is a segment without its line end, which
may be `\n` or `\r\n`. The lengths of the lines give the place of a segment back, up to the carriage
returns that were taken away.
-/

namespace Ork3.Library

/-- `split_inclusive('\n')`. -/
def segments : List Char → List (List Char)
  | [] => []
  | c :: rest =>
    if c = '\n' then [c] :: segments rest
    else match segments rest with
      | [] => [[c]]
      | segment :: more => (c :: segment) :: more

def stripLineEnd (segment : List Char) : List Char :=
  match stripSuffix ['\n'] segment with
  | none => segment
  | some line => (stripSuffix ['\r'] line).getD line

/-- `str::lines`. -/
def lines (text : List Char) : List (List Char) := (segments text).map stripLineEnd

def endsInLineFeed (segment : List Char) : Bool := segment.getLast? = some '\n'

def endsInCarriageReturn (segment : List Char) : Bool :=
  endsInLineFeed segment && segment.dropLast.getLast? = some '\r'

section
variable {text segment line a b : List Char} {segs : List (List Char)} {c : Char} {n i : Nat}

/-! ### Byte offsets -/

@[simp] lemma byteLen_nil : byteLen [] = 0 := rfl

@[simp] lemma byteLen_cons (c : Char) (text : List Char) :
    byteLen (c :: text) = c.utf8Size + byteLen text := by
  simp [byteLen]

@[simp] lemma byteLen_append (a b : List Char) : byteLen (a ++ b) = byteLen a + byteLen b := by
  simp [byteLen]

lemma splitAtByte_append (a b : List Char) : splitAtByte (byteLen a) (a ++ b) = .ok (a, b) := by
  induction a with
  | nil => rw [byteLen_nil, splitAtByte, List.nil_append]
  | cons c a ih =>
    rw [byteLen_cons]
    have hpos := c.utf8Size_pos
    obtain ⟨m, hm⟩ : ∃ m, c.utf8Size + byteLen a = m + 1 := ⟨c.utf8Size + byteLen a - 1, by omega⟩
    rw [hm, List.cons_append, splitAtByte, if_pos (by omega), ← hm, Nat.add_sub_cancel_left, ih]
    rfl

/-- What is cut off has the length that was asked for. -/
lemma splitAtByte_spec (h : splitAtByte n text = .ok (a, b)) : text = a ++ b ∧ byteLen a = n := by
  fun_induction splitAtByte n text generalizing a b with
  | case1 text =>
    obtain ⟨rfl, rfl⟩ := Prod.mk.inj (Except.ok.inj h)
    exact ⟨rfl, rfl⟩
  | case2 => cases h
  | case3 n c rest hle ih =>
    cases hrest : splitAtByte (n + 1 - c.utf8Size) rest with
    | error e =>
      rw [hrest] at h
      cases h
    | ok parts =>
      obtain ⟨front, back⟩ := parts
      rw [hrest] at h
      obtain ⟨rfl, rfl⟩ := Prod.mk.inj (Except.ok.inj h)
      obtain ⟨rfl, hlength⟩ := ih hrest
      refine ⟨rfl, ?_⟩
      rw [byteLen_cons, hlength]
      omega
  | case4 => cases h

lemma sliceBytes_mid (a b c : List Char) :
    sliceBytes (a ++ (b ++ c)) (byteLen a) (byteLen a + byteLen b) = .ok b := by
  unfold sliceBytes
  rw [splitAtByte_append, Nat.add_sub_cancel_left]
  change (splitAtByte (byteLen b) (b ++ c) >>= fun parts => pure parts.1) = _
  rw [splitAtByte_append]
  rfl

/-- A slice has the length that was asked for. -/
lemma byteLen_of_sliceBytes {lo hi : Nat} (h : sliceBytes text lo hi = .ok b) :
    byteLen b = hi - lo := by
  unfold sliceBytes at h
  cases hfirst : splitAtByte lo text with
  | error e =>
    rw [hfirst] at h
    cases h
  | ok parts =>
    obtain ⟨front, tail⟩ := parts
    rw [hfirst] at h
    change (splitAtByte (hi - lo) tail >>= fun parts => pure parts.1) = _ at h
    cases hsecond : splitAtByte (hi - lo) tail with
    | error e =>
      rw [hsecond] at h
      cases h
    | ok parts =>
      obtain ⟨middle, back⟩ := parts
      rw [hsecond] at h
      rw [← Except.ok.inj h]
      exact (splitAtByte_spec hsecond).2

/-! ### Segments -/

@[simp] lemma segments_nil : segments [] = [] := rfl

lemma segments_newline (text : List Char) : segments ('\n' :: text) = ['\n'] :: segments text := by
  rw [segments, if_pos rfl]

lemma segments_cons_of_ne (h : c ≠ '\n') (text : List Char) :
    segments (c :: text) = match segments text with
      | [] => [[c]]
      | segment :: more => (c :: segment) :: more := by
  rw [segments, if_neg h]

@[simp] lemma flatten_segments (text : List Char) : (segments text).flatten = text := by
  induction text with
  | nil => rfl
  | cons c text ih =>
    by_cases h : c = '\n'
    · rw [h, segments_newline, List.flatten_cons, ih, List.singleton_append]
    · rw [segments_cons_of_ne h]
      cases hsegs : segments text with
      | nil =>
        rw [hsegs] at ih
        rw [← ih]
        rfl
      | cons segment more =>
        rw [hsegs] at ih
        rw [← ih]
        rfl

/-- Segments as a text is cut into them: each but the last ends behind its only line feed. -/
def Segmented : List (List Char) → Prop
  | [] => True
  | segment :: more =>
    (∃ line, '\n' ∉ line ∧ (segment = line ++ ['\n'] ∨ segment = line ∧ line ≠ [] ∧ more = [])) ∧
      Segmented more

lemma segmented_segments (text : List Char) : Segmented (segments text) := by
  induction text with
  | nil => trivial
  | cons c text ih =>
    by_cases h : c = '\n'
    · rw [h, segments_newline]
      exact ⟨⟨[], List.not_mem_nil, .inl rfl⟩, ih⟩
    · rw [segments_cons_of_ne h]
      have hne : ∀ line : List Char, '\n' ∉ line → '\n' ∉ c :: line := by
        intro line hline hmem
        rcases List.mem_cons.mp hmem with hc | hmem
        · exact h hc.symm
        · exact hline hmem
      cases hsegs : segments text with
      | nil => exact ⟨⟨[c], hne [] List.not_mem_nil, .inr ⟨rfl, List.cons_ne_nil _ _, rfl⟩⟩, trivial⟩
      | cons segment more =>
        rw [hsegs] at ih
        obtain ⟨⟨line, hline, rfl | ⟨rfl, hne', hmore⟩⟩, hrest⟩ := ih
        · exact ⟨⟨c :: line, hne line hline, .inl rfl⟩, hrest⟩
        · exact ⟨⟨c :: _, hne _ hline, .inr ⟨rfl, List.cons_ne_nil _ _, hmore⟩⟩, hrest⟩

lemma segments_append_of_terminated (hline : '\n' ∉ line) (text : List Char) :
    segments (line ++ '\n' :: text) = (line ++ ['\n']) :: segments text := by
  induction line with
  | nil => exact segments_newline text
  | cons c line ih =>
    have hc : c ≠ '\n' := fun h => hline (h ▸ List.mem_cons_self)
    rw [List.cons_append, segments_cons_of_ne hc, ih fun h => hline (List.mem_cons_of_mem c h)]
    rfl

lemma segments_of_notMem (hline : '\n' ∉ line) (hne : line ≠ []) : segments line = [line] := by
  induction line with
  | nil => exact absurd rfl hne
  | cons c line ih =>
    have hc : c ≠ '\n' := fun h => hline (h ▸ List.mem_cons_self)
    rw [segments_cons_of_ne hc]
    cases line with
    | nil => rfl
    | cons d line =>
      rw [ih (fun h => hline (List.mem_cons_of_mem c h)) (List.cons_ne_nil _ _)]

/-- Segments are found again when they are put together. -/
theorem segments_flatten (h : Segmented segs) : segments segs.flatten = segs := by
  induction segs with
  | nil => rfl
  | cons segment more ih =>
    obtain ⟨⟨line, hline, rfl | ⟨rfl, hne, rfl⟩⟩, hrest⟩ := h
    · rw [List.flatten_cons, List.append_assoc, List.singleton_append,
        segments_append_of_terminated hline, ih hrest]
    · rw [List.flatten_cons, List.flatten_nil, List.append_nil, segments_of_notMem hline hne]

lemma Segmented.take (h : Segmented segs) (i : Nat) : Segmented (segs.take i) := by
  induction segs generalizing i with
  | nil => rwa [List.take_nil]
  | cons segment more ih =>
    cases i with
    | zero => trivial
    | succ i =>
      obtain ⟨⟨line, hline, hsegment⟩, hrest⟩ := h
      refine ⟨⟨line, hline, hsegment.imp_right fun h => ⟨h.1, h.2.1, ?_⟩⟩, ih hrest i⟩
      rw [h.2.2, List.take_nil]

lemma lines_flatten_take (text : List Char) (i : Nat) :
    lines ((segments text).take i).flatten = (lines text).take i := by
  unfold lines
  rw [segments_flatten ((segmented_segments text).take i), List.map_take]

lemma length_lines (text : List Char) : (lines text).length = (segments text).length :=
  List.length_map ..

/-! ### Offsets from the lengths of lines -/

/-- The carriage returns that were taken away with the line ends. -/
def returnCount (segs : List (List Char)) : Nat := segs.countP endsInCarriageReturn

/-- The segments that end without a line feed. -/
def openCount (segs : List (List Char)) : Nat := segs.countP fun segment => !endsInLineFeed segment

/-- The offset that the lengths of the lines give, one byte added for each line end. -/
def lineOffset (segs : List (List Char)) : Nat :=
  (segs.map fun segment => byteLen (stripLineEnd segment) + 1).sum

lemma stripSuffix_concat_of_ne {c d : Char} (h : c ≠ d) (text : List Char) :
    stripSuffix [c] (text ++ [d]) = none := by
  unfold stripSuffix
  rw [if_neg]
  intro hsuffix
  obtain ⟨front, hfront⟩ := List.isSuffixOf_iff_suffix.mp hsuffix
  obtain ⟨-, hlast⟩ := List.append_inj' hfront rfl
  exact h (List.singleton_injective hlast)

@[simp] lemma stripLineEnd_nil : stripLineEnd [] = [] := rfl

lemma stripLineEnd_of_open {c : Char} (h : c ≠ '\n') (text : List Char) :
    stripLineEnd (text ++ [c]) = text ++ [c] := by
  unfold stripLineEnd
  rw [stripSuffix_concat_of_ne h.symm]

lemma stripLineEnd_crlf (text : List Char) : stripLineEnd (text ++ ['\r'] ++ ['\n']) = text := by
  unfold stripLineEnd
  rw [stripSuffix_append]
  dsimp only
  rw [stripSuffix_append]
  rfl

lemma stripLineEnd_lf (h : text.getLast? ≠ some '\r') : stripLineEnd (text ++ ['\n']) = text := by
  unfold stripLineEnd
  rw [stripSuffix_append]
  dsimp only
  rcases List.eq_nil_or_concat text with rfl | ⟨front, c, rfl⟩
  · rfl
  · rw [List.concat_eq_append] at h ⊢
    rw [List.getLast?_concat] at h
    rw [stripSuffix_concat_of_ne fun hc => h (congrArg some hc.symm)]
    rfl

lemma byteLen_stripLineEnd (segment : List Char) :
    byteLen (stripLineEnd segment) + 1 + (if endsInCarriageReturn segment = true then 1 else 0) =
      byteLen segment + if endsInLineFeed segment = true then 0 else 1 := by
  rcases List.eq_nil_or_concat segment with rfl | ⟨front, c, rfl⟩
  · rfl
  rw [List.concat_eq_append]
  by_cases hc : c = '\n'
  · have hfeed : endsInLineFeed (front ++ [c]) = true := by
      simp [endsInLineFeed, hc]
    rw [if_pos hfeed, hc]
    have hsize : byteLen ['\n'] = 1 := rfl
    have hreturn : byteLen ['\r'] = 1 := rfl
    by_cases hr : front.getLast? = some '\r'
    · obtain ⟨front, rfl⟩ := List.getLast?_eq_some_iff.mp hr
      have hcr : endsInCarriageReturn (front ++ ['\r'] ++ ['\n']) = true := by
        simp [endsInCarriageReturn, endsInLineFeed]
      rw [if_pos hcr, stripLineEnd_crlf, byteLen_append, byteLen_append, hsize, hreturn]
    · have hcr : ¬ endsInCarriageReturn (front ++ ['\n']) = true := by
        simp [endsInCarriageReturn, hr]
      rw [if_neg hcr, stripLineEnd_lf hr, byteLen_append, hsize]
  · have hfeed : ¬ endsInLineFeed (front ++ [c]) = true := by
      simp [endsInLineFeed, hc]
    have hcr : ¬ endsInCarriageReturn (front ++ [c]) = true := by
      unfold endsInCarriageReturn
      rw [Bool.and_eq_true]
      exact fun h => hfeed h.1
    rw [if_neg hfeed, if_neg hcr, stripLineEnd_of_open hc]

lemma lineOffset_eq (segs : List (List Char)) :
    lineOffset segs + returnCount segs = byteLen segs.flatten + openCount segs := by
  induction segs with
  | nil => rfl
  | cons segment segs ih =>
    have hsegment := byteLen_stripLineEnd segment
    unfold lineOffset returnCount openCount at ih ⊢
    rw [List.map_cons, List.sum_cons, List.flatten_cons, byteLen_append, List.countP_cons,
      List.countP_cons]
    cases hr : endsInCarriageReturn segment <;> cases hl : endsInLineFeed segment <;>
      simp only [hr, hl, if_true, Bool.false_eq_true, if_false, Bool.not_true, Bool.not_false]
        at hsegment ⊢ <;> omega

lemma openCount_le_lineOffset (segs : List (List Char)) : openCount segs ≤ lineOffset segs := by
  induction segs with
  | nil => exact Nat.le_refl _
  | cons segment segs ih =>
    unfold openCount lineOffset at ih ⊢
    rw [List.countP_cons, List.map_cons, List.sum_cons]
    split <;> omega

/-- How far the offset falls short of the place of the segment. -/
def shortfall (segs : List (List Char)) : Nat := returnCount segs - openCount segs

lemma Segmented.openCount_le (h : Segmented segs) : openCount segs ≤ 1 := by
  induction segs with
  | nil => exact Nat.zero_le _
  | cons segment more ih =>
    obtain ⟨⟨line, hline, rfl | ⟨rfl, hne, rfl⟩⟩, hrest⟩ := h
    · have hfeed : endsInLineFeed (line ++ ['\n']) = true := by
        simp [endsInLineFeed]
      have hmore := ih hrest
      unfold openCount at hmore ⊢
      rw [List.countP_cons_of_neg (by rw [hfeed]; exact Bool.false_ne_true)]
      exact hmore
    · exact List.countP_le_length

/-- Only all segments together may have an open one. -/
lemma Segmented.openCount_take (h : Segmented segs) (hi : i < segs.length) :
    openCount (segs.take i) = 0 := by
  induction segs generalizing i with
  | nil => exact absurd hi (Nat.not_lt_zero _)
  | cons segment more ih =>
    cases i with
    | zero => rfl
    | succ i =>
      have hi' : i < more.length := Nat.lt_of_succ_lt_succ hi
      obtain ⟨⟨line, hline, rfl | ⟨rfl, hne, rfl⟩⟩, hrest⟩ := h
      · have hfeed : endsInLineFeed (line ++ ['\n']) = true := by
          simp [endsInLineFeed]
        have hmore := ih hrest hi'
        unfold openCount at hmore ⊢
        rw [List.take_succ_cons, List.countP_cons_of_neg (by rw [hfeed]; exact Bool.false_ne_true)]
        exact hmore
      · exact absurd hi' (Nat.not_lt_zero _)

/-- The offset that the lengths give, clamped to the text, is the place of the segment less its
shortfall. -/
theorem min_lineOffset (text : List Char) (i : Nat) :
    min (lineOffset ((segments text).take i)) (byteLen text) + shortfall ((segments text).take i) =
      byteLen ((segments text).take i).flatten := by
  have heq := lineOffset_eq ((segments text).take i)
  have htext : byteLen ((segments text).take i).flatten +
      byteLen ((segments text).drop i).flatten = byteLen text := by
    rw [← byteLen_append, ← List.flatten_append, List.take_append_drop, flatten_segments]
  have hopen := ((segmented_segments text).take i).openCount_le
  unfold shortfall
  by_cases hi : i < (segments text).length
  · have hnone := (segmented_segments text).openCount_take hi
    omega
  · have hall : (segments text).drop i = [] := List.drop_eq_nil_of_le (by omega)
    rw [hall] at htext
    have hnil : byteLen ([] : List (List Char)).flatten = 0 := rfl
    have hmore := openCount_le_lineOffset ((segments text).take i)
    omega

end

end Ork3.Library
