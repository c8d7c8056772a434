import Ork3.Model.ManifestRegion

/-!
# A region is made of lines

What a region should be is said by line numbers; the code finds the bytes by adding up the lengths of
lines, which is right as long as no carriage return was taken away with a line end.
-/

namespace Ork3.Detect

open Ork3.Library
open Ork3.Terminal (isWhitespace trim)

/-- What a region consists of. -/
inductive Selection
  | field (text : List Char)
  | nothing
  | line (index : Nat)
  | lines (start stop : Nat)

/-- A selected line stands without its line end, selected lines with theirs. -/
def Selection.text (content : List Char) : Selection → List Char
  | .field text => text
  | .nothing => []
  | .line index => ((Library.lines content)[index]?).getD []
  | .lines start stop => (((segments content).take stop).drop start).flatten

def isBlank (line : List Char) : Bool := (trim line).isEmpty

/-- The lines that each region selects. -/
def selection (input : DetectionInput) (name : RegionName) : Selection :=
  let ls := lines input.screen
  match name with
  | .oscTitle => .field input.oscTitle
  | .oscProgress => .field input.oscProgress
  | .wholeRecent => .lines 0 ls.length
  | .afterLastPromptMarker =>
    (rposition codexPromptLine ls).elim (.lines 0 ls.length) fun i => .lines (i + 1) ls.length
  | .beforeCurrentPromptMarker =>
    (currentCodexPromptIndex ls).elim (.lines 0 ls.length) fun i => .lines 0 i
  | .wholeRecentWithoutCurrentPromptMarker =>
    (currentCodexPromptIndex ls).elim (.lines 0 ls.length) fun _ => .nothing
  | .currentPromptBlockMarker =>
    ((currentCodexPromptIndex ls).bind fun i =>
      rposition codexBlockMarkerLine (ls.take i)).elim .nothing .line
  | .afterCurrentPromptBlockMarker =>
    ((currentCodexPromptIndex ls).bind fun i =>
      rposition codexBlockMarkerLine (ls.take i)).elim .nothing fun j => .lines j ls.length
  | .promptBoxBody =>
    (promptBoxTopBorderIndex ls).elim .nothing fun top => .lines (top + 1) (promptBoxEnd ls top)
  | .abovePromptBox =>
    (promptBoxTopBorderIndex ls).elim (.lines 0 ls.length) fun top => .lines 0 top
  | .lastNonEmptyAbovePromptBox =>
    (rposition (fun line => !isBlank line)
      (ls.take ((promptBoxTopBorderIndex ls).getD ls.length))).elim .nothing .line
  | .afterLastHorizontalRule =>
    (rposition isHorizontalRule ls).elim (.lines 0 ls.length) fun i => .lines (i + 1) ls.length
  | .bottomLines count => .lines (ls.length - count) ls.length
  | .bottomNonEmptyLines count =>
    (bottomNonEmptyStart ls count).elim .nothing fun i => .lines i ls.length

attribute [grind =] selection

/-- How many lines the region adds the lengths of, for each offset that it computes. -/
def summedLines (ls : List (List Char)) : RegionName → List Nat
  | .afterLastPromptMarker => ((rposition codexPromptLine ls).map (· + 1)).toList
  | .beforeCurrentPromptMarker => (currentCodexPromptIndex ls).toList
  | .afterCurrentPromptBlockMarker =>
    ((currentCodexPromptIndex ls).bind fun i =>
      rposition codexBlockMarkerLine (ls.take i)).toList
  | .promptBoxBody =>
    ((promptBoxTopBorderIndex ls).map fun top => [top + 1, promptBoxEnd ls top]).getD []
  | .abovePromptBox | .lastNonEmptyAbovePromptBox => (promptBoxTopBorderIndex ls).toList
  | .afterLastHorizontalRule => ((rposition isHorizontalRule ls).map (· + 1)).toList
  | .bottomLines count => [ls.length - count]
  | .bottomNonEmptyLines count => (bottomNonEmptyStart ls count).toList
  | _ => []

attribute [grind =] summedLines

/-- No offset falls short: the lines before it end in `\n` alone, but for one before the end of a
screen whose last line is open. -/
def Aligned (screen : List Char) (name : RegionName) : Prop :=
  ∀ i ∈ summedLines (lines screen) name, shortfall ((segments screen).take i) = 0

/-- The regions that are cut out at one offset. -/
def cutOnce : RegionName → Bool
  | .promptBoxBody | .lastNonEmptyAbovePromptBox => false
  | _ => true

section
variable {content : List Char} {ls : List (List Char)} {i n start stop : Nat} {α : Type}
  {p : α → Bool} {xs : List α}

/-! ### The last line that -/

lemma rposition_concat (p : α → Bool) (xs : List α) (x : α) :
    rposition p (xs ++ [x]) = if p x = true then some xs.length else rposition p xs := by
  unfold rposition
  rw [List.reverse_append, List.reverse_singleton, List.singleton_append, List.findIdx?_cons,
    List.length_append, List.length_singleton]
  split
  · rw [Option.map_some]
    congr 1
  · rw [Option.map_map]
    congr 1
    funext i
    simp only [Function.comp_apply]
    omega

lemma rposition_lt (h : rposition p xs = some i) : i < xs.length := by
  induction xs using List.reverseRecOn with
  | nil => cases h
  | append_singleton xs x ih =>
    rw [rposition_concat] at h
    rw [List.length_append, List.length_singleton]
    split at h
    · cases h
      omega
    · have hlt := ih h
      omega

/-- The last element that satisfies `p` is the one at its position. -/
lemma find?_reverse (p : α → Bool) (xs : List α) :
    xs.reverse.find? p = (rposition p xs).bind (xs[·]?) := by
  induction xs using List.reverseRecOn with
  | nil => rfl
  | append_singleton xs x ih =>
    rw [rposition_concat, List.reverse_append, List.reverse_singleton, List.singleton_append,
      List.find?_cons]
    cases h : p x with
    | true => simp
    | false =>
      rw [ih]
      cases hpos : rposition p xs with
      | none => simp
      | some i =>
        have hlt := rposition_lt hpos
        simp [hlt, List.getElem?_append_left hlt]

lemma topBorderLoop_mem {entries : List (List Char × Nat)} {borderCount : Nat}
    (h : topBorderLoop entries borderCount = some i) : ∃ line, (line, i) ∈ entries := by
  fun_induction topBorderLoop entries borderCount with
  | case1 => cases h
  | case2 line index rest =>
    obtain rfl := Option.some.inj h
    exact ⟨line, List.mem_cons_self⟩
  | case3 line index rest borderCount hrule hne ih =>
    obtain ⟨line, hmem⟩ := ih h
    exact ⟨line, List.mem_cons_of_mem _ hmem⟩
  | case4 line index rest borderCount hrule ih =>
    obtain ⟨line, hmem⟩ := ih h
    exact ⟨line, List.mem_cons_of_mem _ hmem⟩

lemma promptBoxTopBorderIndex_lt (h : promptBoxTopBorderIndex ls = some i) : i < ls.length := by
  obtain ⟨line, hmem⟩ := topBorderLoop_mem h
  exact (List.mem_zipIdx' (List.mem_reverse.mp hmem)).1

/-! ### Offsets -/

lemma lineStartOffset_eq (content : List Char) (i : Nat) :
    lineStartOffset content (lines content) i =
      min (lineOffset ((segments content).take i)) (byteLen content) := by
  unfold lineStartOffset lineOffset lines
  rw [List.length_map, ← List.map_take, List.map_map]
  congr 3
  rw [List.take_eq_take_iff]
  omega

lemma byteLen_split (content : List Char) (i : Nat) :
    byteLen ((segments content).take i).flatten + byteLen ((segments content).drop i).flatten =
      byteLen content := by
  rw [← byteLen_append, ← List.flatten_append, List.take_append_drop, flatten_segments]

lemma sliceBytes_from (content : List Char) (i : Nat) :
    sliceBytes content (byteLen ((segments content).take i).flatten) (byteLen content) =
      .ok ((segments content).drop i).flatten := by
  have hmid := sliceBytes_mid ((segments content).take i).flatten
    ((segments content).drop i).flatten []
  rwa [List.append_nil, ← List.flatten_append, List.take_append_drop, flatten_segments,
    byteLen_split] at hmid

lemma sliceBytes_to (content : List Char) (i : Nat) :
    sliceBytes content 0 (byteLen ((segments content).take i).flatten) =
      .ok ((segments content).take i).flatten := by
  have hmid := sliceBytes_mid [] ((segments content).take i).flatten
    ((segments content).drop i).flatten
  rwa [List.nil_append, byteLen_nil, Nat.zero_add, ← List.flatten_append, List.take_append_drop,
    flatten_segments] at hmid

/-- A slice that begins at the sum of the lengths of lines, clamped, begins at the line exactly when
the sum does not fall short. -/
lemma slice_from_iff (content : List Char) (i : Nat) :
    sliceBytes content (min (lineOffset ((segments content).take i)) (byteLen content))
        (byteLen content) = .ok ((segments content).drop i).flatten ↔
      shortfall ((segments content).take i) = 0 := by
  have hoffset := min_lineOffset content i
  have htotal := byteLen_split content i
  constructor
  · intro h
    have hlength := byteLen_of_sliceBytes h
    omega
  · intro h
    rw [h, Nat.add_zero] at hoffset
    rw [hoffset, sliceBytes_from]

/-- The same for a slice that ends there. -/
lemma slice_to_iff (content : List Char) (i : Nat) :
    sliceBytes content 0 (min (lineOffset ((segments content).take i)) (byteLen content)) =
        .ok ((segments content).take i).flatten ↔
      shortfall ((segments content).take i) = 0 := by
  have hoffset := min_lineOffset content i
  constructor
  · intro h
    have hlength := byteLen_of_sliceBytes h
    omega
  · intro h
    rw [h, Nat.add_zero] at hoffset
    rw [hoffset, sliceBytes_to]

/-- The tail from a line on is cut out exactly when the offset does not fall short. -/
lemma sliceFromLineIndex_iff (content : List Char) (i : Nat) :
    sliceFromLineIndex content (lines content) i = .ok ((segments content).drop i).flatten ↔
      shortfall ((segments content).take i) = 0 := by
  unfold sliceFromLineIndex
  dsimp only
  rw [lineStartOffset_eq, Nat.min_assoc, Nat.min_self]
  exact slice_from_iff content i

/-- Lines between two others are cut out when neither offset falls short. -/
lemma slice_between (hle : start ≤ stop)
    (hstart : shortfall ((segments content).take start) = 0)
    (hstop : shortfall ((segments content).take stop) = 0) :
    sliceBytes content (min (lineOffset ((segments content).take start)) (byteLen content))
        (min (lineOffset ((segments content).take stop)) (byteLen content)) =
      .ok (((segments content).take stop).drop start).flatten := by
  have hoffset₁ := min_lineOffset content start
  have hoffset₂ := min_lineOffset content stop
  rw [hstart, Nat.add_zero] at hoffset₁
  rw [hstop, Nat.add_zero] at hoffset₂
  have htake : ((segments content).take stop).take start = (segments content).take start := by
    rw [List.take_take, Nat.min_eq_left hle]
  have hsplit := List.take_append_drop start ((segments content).take stop)
  rw [htake] at hsplit
  have hmid := sliceBytes_mid ((segments content).take start).flatten
    (((segments content).take stop).drop start).flatten ((segments content).drop stop).flatten
  rw [← byteLen_append, ← List.flatten_append, ← List.flatten_append, ← List.flatten_append,
    ← List.append_assoc, hsplit, List.take_append_drop, flatten_segments] at hmid
  rw [hoffset₁, hoffset₂, hmid]

/-! ### The last rule -/

/-- The loop over the lines finds the end of the last rule by the same sum. -/
lemma lastRuleEnd_eq (content : List Char) :
    lastRuleEnd content = (rposition isHorizontalRule (lines content)).elim 0 fun i =>
      min (lineOffset ((segments content).take (i + 1))) (byteLen content) := by
  have hloop : ∀ ls : List (List Char),
      ls.foldl (fun (s : Nat × Nat) line =>
        let nextOffset := s.2 + byteLen line + 1
        (if isHorizontalRule line then min nextOffset (byteLen content) else s.1, nextOffset))
        (0, 0) =
      ((rposition isHorizontalRule ls).elim 0 fun i =>
        min ((ls.take (i + 1)).map fun line => byteLen line + 1).sum (byteLen content),
        (ls.map fun line => byteLen line + 1).sum) := by
    intro ls
    induction ls using List.reverseRecOn with
    | nil => rfl
    | append_singleton ls line ih =>
      rw [List.foldl_concat, ih, rposition_concat, List.map_append, List.sum_append]
      dsimp only
      refine Prod.ext ?_ (Nat.add_assoc ..)
      dsimp only
      split
      · have hall : (ls ++ [line]).take (ls.length + 1) = ls ++ [line] :=
          List.take_of_length_le (by simp)
        rw [Option.elim_some, hall, List.map_append, List.sum_append]
        rfl
      · cases hpos : rposition isHorizontalRule ls with
        | none => rfl
        | some i =>
          have hlt := rposition_lt hpos
          rw [Option.elim_some, Option.elim_some, List.take_append_of_le_length (by omega)]
  unfold lastRuleEnd
  rw [hloop]
  dsimp only
  congr 1
  funext i
  unfold lineOffset lines
  rw [← List.map_take, List.map_map]
  rfl

/-! ### The regions -/

lemma text_from (content : List Char) (i : Nat) :
    (Selection.lines i (lines content).length).text content = ((segments content).drop i).flatten := by
  unfold Selection.text
  dsimp only
  rw [length_lines, List.take_length]

lemma text_to (content : List Char) (i : Nat) :
    (Selection.lines 0 i).text content = ((segments content).take i).flatten := rfl

lemma text_all (content : List Char) :
    (Selection.lines 0 (lines content).length).text content = content := by
  rw [text_from, List.drop_zero, flatten_segments]

/-- The region is right when its offsets are, and, if it is cut at one offset, only then. -/
structure Selects (input : DetectionInput) (name : RegionName)
    (result : Except Panic (List Char)) : Prop where
  right : Aligned input.screen name → result = .ok ((selection input name).text input.screen)
  exact : cutOnce name = true → result = .ok ((selection input name).text input.screen) →
    Aligned input.screen name

variable {input : DetectionInput} {name : RegionName} {result : Except Panic (List Char)}

lemma Selects.of_iff (h : result = .ok ((selection input name).text input.screen) ↔
    Aligned input.screen name) : Selects input name result :=
  ⟨h.mpr, fun _ => h.mp⟩

/-- A region that computes no offset. -/
lemma Selects.of_eq (hnone : summedLines (lines input.screen) name = [])
    (h : result = .ok ((selection input name).text input.screen)) : Selects input name result :=
  .of_iff ⟨fun _ i hi => by rw [hnone] at hi; exact absurd hi List.not_mem_nil, fun _ => h⟩

lemma aligned_of_one (hone : summedLines (lines content) name = [i]) :
    Aligned content name ↔ shortfall ((segments content).take i) = 0 := by
  unfold Aligned
  rw [hone]
  simp

lemma selects_afterLastPromptMarker (input : DetectionInput) :
    Selects input .afterLastPromptMarker (afterLastPromptMarker input.screen) := by
  unfold afterLastPromptMarker
  dsimp only
  cases h : rposition codexPromptLine (lines input.screen) with
  | none => exact .of_eq (by simp [summedLines, h]) (by simp [selection, h, text_all])
  | some i =>
    refine .of_iff ?_
    rw [aligned_of_one (i := i + 1) (by simp [summedLines, h])]
    simp only [selection, h, Option.elim_some, text_from]
    exact sliceFromLineIndex_iff input.screen (i + 1)

lemma selects_beforeCurrentPromptMarker (input : DetectionInput) :
    Selects input .beforeCurrentPromptMarker (beforeCurrentPromptMarker input.screen) := by
  unfold beforeCurrentPromptMarker
  dsimp only
  cases h : currentCodexPromptIndex (lines input.screen) with
  | none => exact .of_eq (by simp [summedLines, h]) (by simp [selection, h, text_all])
  | some i =>
    refine .of_iff ?_
    rw [aligned_of_one (i := i) (by simp [summedLines, h])]
    simp only [selection, h, Option.elim_some, text_to]
    have hsum : (((lines input.screen).take i).map fun line => byteLen line + 1).sum =
        lineOffset ((segments input.screen).take i) := by
      unfold lineOffset lines
      rw [← List.map_take, List.map_map]
      rfl
    rw [hsum]
    exact slice_to_iff input.screen i

lemma selects_currentPromptBlockMarker (input : DetectionInput) :
    Selects input .currentPromptBlockMarker
      (.ok ((currentPromptBlockMarker input.screen).getD [])) := by
  refine .of_eq rfl (congrArg Except.ok ?_)
  unfold currentPromptBlockMarker
  simp only [selection]
  cases h : currentCodexPromptIndex (lines input.screen) with
  | none => rfl
  | some i =>
    change (((lines input.screen).take i).reverse.find? codexBlockMarkerLine).getD [] = _
    rw [find?_reverse, Option.bind_some]
    cases hpos : rposition codexBlockMarkerLine ((lines input.screen).take i) with
    | none => rfl
    | some j =>
      have hlt := rposition_lt hpos
      rw [List.length_take] at hlt
      rw [Option.bind_some, List.getElem?_take, if_pos (by omega)]
      rfl

lemma selects_afterCurrentPromptBlockMarker (input : DetectionInput) :
    Selects input .afterCurrentPromptBlockMarker
      (afterCurrentPromptBlockMarker input.screen) := by
  unfold afterCurrentPromptBlockMarker
  dsimp only
  cases h : currentCodexPromptIndex (lines input.screen) with
  | none => exact .of_eq (by simp [summedLines, h]) (by simp [selection, h, Selection.text])
  | some i =>
    dsimp only
    cases hpos : rposition codexBlockMarkerLine ((lines input.screen).take i) with
    | none => exact .of_eq (by simp [summedLines, h, hpos]) (by simp [selection, h, hpos, Selection.text])
    | some j =>
      refine .of_iff ?_
      rw [aligned_of_one (i := j) (by simp [summedLines, h, hpos])]
      simp only [selection, h, hpos, Option.bind_some, Option.elim_some, text_from]
      exact sliceFromLineIndex_iff input.screen j

lemma selects_promptBoxBody (input : DetectionInput) :
    Selects input .promptBoxBody (promptBoxBody input.screen) := by
  unfold promptBoxBody
  dsimp only
  cases h : promptBoxTopBorderIndex (lines input.screen) with
  | none => exact .of_eq (by simp [summedLines, h]) (by simp [selection, h, Selection.text])
  | some top =>
    refine ⟨fun haligned => ?_, fun hone => nomatch hone⟩
    have hmem : summedLines (lines input.screen) .promptBoxBody =
        [top + 1, promptBoxEnd (lines input.screen) top] := by
      simp [summedLines, h]
    unfold Aligned at haligned
    rw [hmem] at haligned
    have hstart := haligned (top + 1) List.mem_cons_self
    have hstop := haligned _ (List.mem_cons_of_mem _ List.mem_cons_self)
    simp only [selection, h, Option.elim_some, Selection.text, lineStartOffset_eq, Nat.min_assoc,
      Nat.min_self]
    refine slice_between ?_ hstart hstop
    unfold promptBoxEnd
    split
    · exact Nat.le_add_right _ _
    · exact promptBoxTopBorderIndex_lt h

lemma selects_abovePromptBox (input : DetectionInput) :
    Selects input .abovePromptBox (abovePromptBox input.screen) := by
  unfold abovePromptBox
  dsimp only
  cases h : promptBoxTopBorderIndex (lines input.screen) with
  | none => exact .of_eq (by simp [summedLines, h]) (by simp [selection, h, text_all])
  | some top =>
    refine .of_iff ?_
    rw [aligned_of_one (i := top) (by simp [summedLines, h])]
    simp only [selection, h, Option.elim_some, text_to, lineStartOffset_eq, Nat.min_assoc,
      Nat.min_self]
    exact slice_to_iff input.screen top

lemma selects_lastNonEmptyAbovePromptBox (input : DetectionInput) :
    Selects input .lastNonEmptyAbovePromptBox
      ((abovePromptBox input.screen).map lastNonEmptyLine) := by
  refine ⟨fun haligned => ?_, fun hone => nomatch hone⟩
  have habove : abovePromptBox input.screen = .ok ((segments input.screen).take
      ((promptBoxTopBorderIndex (lines input.screen)).getD (lines input.screen).length)).flatten := by
    have habove := (selects_abovePromptBox input).right haligned
    rw [habove]
    simp only [selection]
    cases h : promptBoxTopBorderIndex (lines input.screen) with
    | none => rfl
    | some top => rfl
  rw [habove]
  refine congrArg Except.ok ?_
  unfold lastNonEmptyLine
  rw [lines_flatten_take, find?_reverse]
  simp only [selection]
  generalize hn : (promptBoxTopBorderIndex (lines input.screen)).getD _ = n
  change ((rposition (fun line => !isBlank line) _).bind _).getD [] = _
  cases hpos : rposition (fun line => !isBlank line) ((lines input.screen).take n) with
  | none => rfl
  | some j =>
    have hlt := rposition_lt hpos
    rw [List.length_take] at hlt
    rw [Option.bind_some, List.getElem?_take, if_pos (by omega)]
    rfl

lemma selects_afterLastHorizontalRule (input : DetectionInput) :
    Selects input .afterLastHorizontalRule (afterLastHorizontalRule input.screen) := by
  unfold afterLastHorizontalRule
  rw [lastRuleEnd_eq]
  cases h : rposition isHorizontalRule (lines input.screen) with
  | none =>
    refine .of_eq (by simp [summedLines, h]) ?_
    have hall := sliceBytes_from input.screen 0
    simp only [selection, h, Option.elim_none, text_all]
    rwa [List.take_zero, List.flatten_nil, byteLen_nil, List.drop_zero, flatten_segments] at hall
  | some i =>
    refine .of_iff ?_
    rw [aligned_of_one (i := i + 1) (by simp [summedLines, h])]
    simp only [selection, h, Option.elim_some, text_from]
    exact slice_from_iff input.screen (i + 1)

lemma selects_bottomNonEmptyLines (input : DetectionInput) (count : Nat) :
    Selects input (.bottomNonEmptyLines count) (bottomNonEmptyLines input.screen count) := by
  unfold bottomNonEmptyLines
  dsimp only
  cases h : bottomNonEmptyStart (lines input.screen) count with
  | none => exact .of_eq (by simp [summedLines, h]) (by simp [selection, h, Selection.text])
  | some i =>
    refine .of_iff ?_
    rw [aligned_of_one (i := i) (by simp [summedLines, h])]
    simp only [selection, h, Option.elim_some, text_from]
    exact sliceFromLineIndex_iff input.screen i

/-- Every valid region consists of the lines that it selects, if no offset falls short; a region that
is cut at one offset consists of them only then. -/
theorem region_selects (input : DetectionInput) (spec : List Char)
    (hvalid : validateRegionName spec = .ok ()) :
    ∃ name, regionName (trim spec) = some name ∧
      (Aligned input.screen name →
        region input spec = .ok ((selection input name).text input.screen)) ∧
      (cutOnce name = true → (region input spec = .ok ((selection input name).text input.screen) ↔
        Aligned input.screen name)) := by
  unfold validateRegionName at hvalid
  unfold region
  cases hname : regionName (trim spec) with
  | none =>
    rw [hname] at hvalid
    cases hvalid
  | some name =>
    refine ⟨name, rfl, ?_⟩
    dsimp only
    suffices hselects : Selects input name _ from
      ⟨hselects.right, fun hone => ⟨hselects.exact hone, hselects.right⟩⟩
    cases name with
    | oscTitle => exact .of_eq rfl rfl
    | oscProgress => exact .of_eq rfl rfl
    | wholeRecent => exact .of_eq rfl (congrArg Except.ok (text_all _).symm)
    | afterLastPromptMarker => exact selects_afterLastPromptMarker input
    | beforeCurrentPromptMarker => exact selects_beforeCurrentPromptMarker input
    | wholeRecentWithoutCurrentPromptMarker =>
      refine .of_eq rfl (congrArg Except.ok ?_)
      unfold wholeRecentWithoutCurrentPromptMarker
      simp only [selection]
      cases currentCodexPromptIndex (lines input.screen) with
      | none => exact (text_all _).symm
      | some i => rfl
    | currentPromptBlockMarker => exact selects_currentPromptBlockMarker input
    | afterCurrentPromptBlockMarker => exact selects_afterCurrentPromptBlockMarker input
    | promptBoxBody => exact selects_promptBoxBody input
    | abovePromptBox => exact selects_abovePromptBox input
    | lastNonEmptyAbovePromptBox => exact selects_lastNonEmptyAbovePromptBox input
    | afterLastHorizontalRule => exact selects_afterLastHorizontalRule input
    | bottomLines count =>
      refine .of_iff ?_
      rw [aligned_of_one (i := (lines input.screen).length - count) rfl]
      simp only [selection, text_from]
      exact sliceFromLineIndex_iff input.screen _
    | bottomNonEmptyLines count => exact selects_bottomNonEmptyLines input count

/-- Three blank lines and a prompt, all ended by `\r\n`, and an open line. -/
def returnScreen : DetectionInput := ⟨"\r\n\r\n\r\n›\r\nx".toList, [], []⟩

/-- The offset falls four bytes short and lies inside the prompt marker. -/
theorem returnScreen_panics :
    validateRegionName "after_last_prompt_marker".toList = .ok () ∧
    region returnScreen "after_last_prompt_marker".toList = .error .charBoundary ∧
    (selection returnScreen .afterLastPromptMarker).text returnScreen.screen = ['x'] ∧
    region ⟨"a\r\n›\r\nb".toList, [], []⟩ "after_last_prompt_marker".toList =
      .ok "\r\nb".toList := by
  decide

/-- On a screen with line feeds alone the prompt is cut off. -/
theorem region_selects_prompt : ∃ name, regionName (trim "after_last_prompt_marker".toList) = some name ∧
    region ⟨"a\n›\nb".toList, [], []⟩ "after_last_prompt_marker".toList =
      .ok ((selection ⟨"a\n›\nb".toList, [], []⟩ name).text "a\n›\nb".toList) := by
  obtain ⟨name, hname, hright, -⟩ := region_selects ⟨"a\n›\nb".toList, [], []⟩
    "after_last_prompt_marker".toList (by decide)
  refine ⟨name, hname, hright ?_⟩
  obtain rfl : name = .afterLastPromptMarker :=
    Option.some.inj (hname.symm.trans (by decide))
  unfold Aligned
  decide

end

end Ork3.Detect
