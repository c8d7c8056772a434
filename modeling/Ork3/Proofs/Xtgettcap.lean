import Ork3.Library.History
import Ork3.Model.Xtgettcap

/-!
# Capability queries among text

The tracker answers every query that stands behind text in which it finds no open string; how the
stream is cut does not matter.
-/

namespace Ork3.Pane

open Ork3.Library

section
variable {items seen : List OutputItem} {item : OutputItem} {bytes body : List UInt8}
  {names : List (List UInt8)} {byte : UInt8}

/-! ### Reads -/

namespace XtgettcapQueryTracker

lemma observe_eq_scan (tracker : XtgettcapQueryTracker) (bytes : List UInt8) :
    (tracker.observe bytes).reader = (scan queryTrackerStep tracker.reader bytes).1 ∧
      (tracker.observe bytes).pending.map (·.bytes) = tracker.pending.map (·.bytes) ++
        (scan queryTrackerStep tracker.reader bytes).2.flatMap xtgettcapResponses := by
  have hfold : ∀ (n : Nat) (tracker : XtgettcapQueryTracker),
      ((bytes.zipIdx n).foldl (fun tracker entry => tracker.observeByte entry.2 entry.1)
          tracker).reader = (scan queryTrackerStep tracker.reader bytes).1 ∧
      ((bytes.zipIdx n).foldl (fun tracker entry => tracker.observeByte entry.2 entry.1)
          tracker).pending.map (·.bytes) = tracker.pending.map (·.bytes) ++
        (scan queryTrackerStep tracker.reader bytes).2.flatMap xtgettcapResponses := by
    induction bytes with
    | nil => exact fun n tracker => ⟨rfl, (List.append_nil _).symm⟩
    | cons byte bytes ih =>
      intro n tracker
      obtain ⟨hreader, hpending⟩ := ih (n + 1) (tracker.observeByte n byte)
      have hnew : ((tracker.observeByte n byte).pending.map (·.bytes)) =
          tracker.pending.map (·.bytes) ++
            (queryTrackerStep tracker.reader byte).2.toList.flatMap xtgettcapResponses := by
        change List.map (·.bytes) (tracker.pending ++
          (queryTrackerStep tracker.reader byte).2.toList.flatMap fun body =>
            finalize body (n + 1)) = _
        rw [List.map_append]
        congr 1
        cases (queryTrackerStep tracker.reader byte).2 with
        | none => rfl
        | some body => simp [finalize, Function.comp_def]
      rw [List.zipIdx_cons, List.foldl_cons, scan]
      refine ⟨hreader, ?_⟩
      rw [hpending, hnew, List.append_assoc, ← List.flatMap_append]
      rfl
  exact hfold 0 tracker

/-- How the stream is cut does not matter. -/
lemma respondReads_eq_scan (reads : List (List UInt8)) (reader : OscReader XtgettcapTrackerState) :
    respondReads ⟨reader, []⟩ reads =
      (scan queryTrackerStep reader reads.flatten).2.flatMap xtgettcapResponses := by
  induction reads generalizing reader with
  | nil => rfl
  | cons bytes reads ih =>
    obtain ⟨hreader, hpending⟩ := observe_eq_scan ⟨reader, []⟩ bytes
    rw [List.flatten_cons, scan_append, List.flatMap_append, ← ih, ← hreader]
    exact congrArg (· ++ _) hpending

end XtgettcapQueryTracker

/-! ### Text -/

/-- The tracker in a string of this content behind `ESC P` or its eight-bit form. -/
def dcsReader : List UInt8 → OscReader XtgettcapTrackerState
  | [] => ⟨.dcsIntro, []⟩
  | [plus] => if plus = plusByte then ⟨.dcsIntroPlus, []⟩ else ⟨.ignoreString, []⟩
  | plus :: letter :: body =>
    if plus = plusByte ∧ letter = queryByte then
      if body.length ≤ maxQueryBody then ⟨.dcsBody, body⟩ else ⟨.oversizedDcs, []⟩
    else ⟨.ignoreString, []⟩

/-- The tracker's state in text, from the string that is open. -/
def readerOf : Option EightBitString → OscReader XtgettcapTrackerState
  | none => ⟨.ground, []⟩
  | some string =>
    if string.start = eightBitDcs then dcsReader string.content
    else if string.start = eightBitOsc then ⟨.ignoreOsc, []⟩
    else ⟨.ignoreString, []⟩

lemma queryTrackerStep_of_short {reader reader' : OscReader XtgettcapTrackerState}
    {completed : Option (List UInt8)} (h : queryTrackByte reader byte = (reader', completed))
    (hshort : reader'.body.length ≤ maxQueryBody) :
    queryTrackerStep reader byte = (reader', completed) := by
  unfold queryTrackerStep
  rw [h]
  exact if_neg (by omega)

/-- A skipped string stays skipped up to its end. -/
lemma queryTrackerStep_skipped {state : XtgettcapTrackerState}
    (hstate : state = .ignoreOsc ∨ state = .ignoreString ∨ state = .oversizedDcs)
    (hesc : byte ≠ esc) (hbel : byte ≠ bel) : queryTrackerStep ⟨state, []⟩ byte =
      (if byte = eightBitTerminator then ⟨.ground, []⟩ else ⟨state, []⟩, none) := by
  refine queryTrackerStep_of_short ?_ ?_
  · rcases hstate with rfl | rfl | rfl <;> unfold queryTrackByte <;> dsimp only <;>
      rw [if_neg hesc] <;> by_cases hend : byte = eightBitTerminator <;> simp [hend, hbel]
  · split_ifs <;> exact Nat.zero_le _

/-- Inside a capability string every byte but its end is taken as content. -/
lemma queryTrackerStep_dcs (content : List UInt8) (hesc : byte ≠ esc) (hbel : byte ≠ bel) :
    queryTrackerStep (dcsReader content) byte =
      if byte = eightBitTerminator then
        (⟨.ground, []⟩, hiddenQuery ⟨eightBitDcs, content⟩)
      else (dcsReader (content ++ [byte]), none) := by
  have hskipped : ∀ {content}, dcsReader content = ⟨.ignoreString, []⟩ →
      dcsReader (content ++ [byte]) = ⟨.ignoreString, []⟩ →
      hiddenQuery ⟨eightBitDcs, content⟩ = none →
      queryTrackerStep (dcsReader content) byte =
        if byte = eightBitTerminator then (⟨.ground, []⟩, hiddenQuery ⟨eightBitDcs, content⟩)
        else (dcsReader (content ++ [byte]), none) := by
    intro content hreader hmore hnone
    rw [hreader, hmore, hnone, queryTrackerStep_skipped (.inr (.inl rfl)) hesc hbel]
    split_ifs <;> rfl
  match content with
  | [] =>
    by_cases hend : byte = eightBitTerminator
    · rw [hend]
      rfl
    rw [if_neg hend]
    by_cases hplus : byte = plusByte
    · rw [hplus]
      rfl
    refine queryTrackerStep_of_short ?_ ?_
    · unfold queryTrackByte
      dsimp only [dcsReader, List.nil_append]
      rw [if_neg hplus, if_neg hesc, if_neg hend, if_neg hplus]
    · dsimp only [dcsReader, List.nil_append]
      rw [if_neg hplus]
      exact Nat.zero_le _
  | [plus] =>
    by_cases hplus : plus = plusByte
    · rw [hplus]
      by_cases hend : byte = eightBitTerminator
      · rw [hend]
        rfl
      rw [if_neg hend]
      by_cases hletter : byte = queryByte
      · rw [hletter]
        rfl
      have hnot : ¬ (plusByte = plusByte ∧ byte = queryByte) := fun h => hletter h.2
      refine queryTrackerStep_of_short ?_ ?_
      · unfold queryTrackByte
        dsimp only [dcsReader, List.cons_append, List.nil_append]
        rw [if_pos rfl, if_neg hnot]
        dsimp only
        rw [if_neg hletter, if_neg hesc, if_neg hend]
      · dsimp only [dcsReader, List.cons_append, List.nil_append]
        rw [if_neg hnot]
        exact Nat.zero_le _
    · exact hskipped (if_neg hplus) (if_neg fun h => hplus h.1) rfl
  | plus :: letter :: body =>
    by_cases hquery : plus = plusByte ∧ letter = queryByte
    · obtain ⟨rfl, rfl⟩ := hquery
      have hreader : ∀ body, dcsReader (plusByte :: queryByte :: body) =
          if body.length ≤ maxQueryBody then ⟨.dcsBody, body⟩ else ⟨.oversizedDcs, []⟩ :=
        fun body => by
          rw [dcsReader, if_pos ⟨rfl, rfl⟩]
      have hhidden : hiddenQuery ⟨eightBitDcs, plusByte :: queryByte :: body⟩ =
          if body.length ≤ maxQueryBody then some body else none := by
        unfold hiddenQuery
        simp
      rw [List.cons_append, List.cons_append, hreader, hreader, hhidden]
      by_cases hlength : body.length ≤ maxQueryBody
      · rw [if_pos hlength, if_pos hlength]
        unfold queryTrackerStep queryTrackByte
        dsimp only
        rw [if_neg hesc]
        by_cases hend : byte = eightBitTerminator
        · rw [if_pos hend, if_pos hend]
          exact if_neg (Nat.not_lt_zero _)
        · rw [if_neg hend, if_neg hend]
          by_cases hmore : (body ++ [byte]).length ≤ maxQueryBody
          · rw [if_pos hmore]
            exact if_neg (Nat.not_lt.mpr hmore)
          · rw [if_neg hmore]
            exact if_pos (Nat.lt_of_not_le hmore)
      · have hmore : ¬ (body ++ [byte]).length ≤ maxQueryBody := by
          rw [List.length_append]
          omega
        rw [if_neg hlength, if_neg hlength, if_neg hmore,
          queryTrackerStep_skipped (.inr (.inr rfl)) hesc hbel]
        split_ifs <;> rfl
    · refine hskipped (if_neg hquery) (if_neg hquery) ?_
      exact if_neg fun h => hquery ⟨h.2.1, h.2.2.1⟩

/-- In text the tracker does what a reader of eight-bit strings does. -/
lemma queryTrackerStep_text (opened : Option EightBitString) (hesc : byte ≠ esc)
    (hbel : byte ≠ bel) :
    queryTrackerStep (readerOf opened) byte =
      (readerOf (stringStep opened byte).1, (stringStep opened byte).2.bind hiddenQuery) := by
  cases opened with
  | none =>
    dsimp only [stringStep, readerOf]
    refine queryTrackerStep_of_short ?_ ?_
    · unfold queryTrackByte opensString
      dsimp only
      rw [if_neg hesc]
      by_cases hdcs : byte = eightBitDcs
      · rw [hdcs]
        rfl
      by_cases hosc : byte = eightBitOsc
      · rw [hosc]
        rfl
      rw [if_neg hdcs, if_neg hosc, decide_eq_false hdcs, decide_eq_false hosc, Bool.false_or,
        Bool.false_or]
      by_cases hother : (decide (byte = 0x98) || decide (byte = 0x9e) || decide (byte = 0x9f)) = true
      · rw [if_pos hother, if_pos hother]
        dsimp only
        rw [if_neg hdcs, if_neg hosc]
        rfl
      · rw [if_neg hother, if_neg hother]
        rfl
    · by_cases hopens : opensString byte = true
      · rw [if_pos hopens]
        dsimp only [dcsReader]
        split_ifs <;> exact Nat.zero_le _
      · rw [if_neg hopens]
        exact Nat.zero_le _
  | some string =>
    obtain ⟨start, content⟩ := string
    dsimp only [stringStep, readerOf]
    by_cases hdcs : start = eightBitDcs
    · rw [if_pos hdcs, hdcs, queryTrackerStep_dcs content hesc hbel]
      split_ifs <;> rfl
    · have hnone : hiddenQuery ⟨start, content⟩ = none := by
        unfold hiddenQuery
        dsimp only
        split
        · exact if_neg fun h => hdcs h.1
        · rfl
      rw [if_neg hdcs]
      by_cases hosc : start = eightBitOsc
      · rw [if_pos hosc, queryTrackerStep_skipped (.inl rfl) hesc hbel]
        by_cases hend : byte = eightBitTerminator
        · rw [if_pos hend, if_pos hend]
          exact congrArg _ hnone.symm
        · rw [if_neg hend, if_neg hend]
          dsimp only
          rw [if_neg hdcs, if_pos hosc]
          rfl
      · rw [if_neg hosc, queryTrackerStep_skipped (.inr (.inl rfl)) hesc hbel]
        by_cases hend : byte = eightBitTerminator
        · rw [if_pos hend, if_pos hend]
          exact congrArg _ hnone.symm
        · rw [if_neg hend, if_neg hend]
          dsimp only
          rw [if_neg hdcs, if_neg hosc]
          rfl

lemma scan_text (opened : Option EightBitString) (h : ∀ byte ∈ bytes, byte ≠ esc ∧ byte ≠ bel) :
    scan queryTrackerStep (readerOf opened) bytes =
      (readerOf (scan stringStep opened bytes).1,
        (scan stringStep opened bytes).2.filterMap hiddenQuery) :=
  scan_map_of_forall stringStep
    (fun opened byte hbyte => queryTrackerStep_text opened (h byte hbyte).1 (h byte hbyte).2) opened

lemma printable_bytes {chars : List Char} (h : ∀ c ∈ chars, isPrintable c = true) :
    ∀ byte ∈ chars.flatMap String.utf8EncodeChar, byte ≠ esc ∧ byte ≠ bel := by
  intro byte hbyte
  obtain ⟨c, hc, hbyte⟩ := List.mem_flatMap.mp hbyte
  have hprintable := h c hc
  unfold isPrintable at hprintable
  rw [Bool.and_eq_true, Bool.and_eq_true, decide_eq_true_eq] at hprintable
  have hlarge : 0x20 ≤ byte.toNat := by
    rcases byte_of_mem_utf8EncodeChar hbyte with h | h <;> omega
  constructor
  · rintro rfl
    revert hlarge
    decide
  · rintro rfl
    revert hlarge
    decide

/-! ### Queries -/

lemma joinNames_cons_cons (name next : List UInt8) (names : List (List UInt8)) :
    joinNames (name :: next :: names) = name ++ semicolon :: joinNames (next :: names) := by
  simp [joinNames, List.intercalate]

lemma names_bytes (h : ∀ name ∈ names, ∀ byte ∈ name, isAsciiHexdigit byte = true) :
    ∀ byte ∈ joinNames names, byte ≠ esc ∧ byte ≠ bel ∧ byte ≠ eightBitTerminator := by
  have hhex : ∀ byte, isAsciiHexdigit byte = true →
      byte ≠ esc ∧ byte ≠ bel ∧ byte ≠ eightBitTerminator := by
    intro byte hbyte
    refine ⟨?_, ?_, ?_⟩ <;>
    · rintro rfl
      revert hbyte
      decide
  induction names with
  | nil => exact fun byte hbyte => absurd hbyte List.not_mem_nil
  | cons name names ih =>
    have hrest := ih fun other hother => h other (List.mem_cons_of_mem name hother)
    intro byte hbyte
    cases names with
    | nil =>
      have hname : joinNames [name] = name := by simp [joinNames, List.intercalate]
      rw [hname] at hbyte
      exact hhex byte (h name List.mem_cons_self byte hbyte)
    | cons next names =>
      rw [joinNames_cons_cons, List.mem_append, List.mem_cons] at hbyte
      rcases hbyte with hbyte | rfl | hbyte
      · exact hhex byte (h name List.mem_cons_self byte hbyte)
      · decide
      · exact hrest byte hbyte

lemma xtgettcapResponses_joinNames
    (h : ∀ name ∈ names, ∀ byte ∈ name, isAsciiHexdigit byte = true) :
    xtgettcapResponses (joinNames names) = names.filterMap xtgettcapResponse := by
  cases names with
  | nil => rfl
  | cons name names =>
    unfold xtgettcapResponses joinNames
    rw [List.splitOn_intercalate semicolon _ (List.cons_ne_nil name names)]
    intro other hother hsep
    have hhex := h other hother semicolon hsep
    revert hhex
    decide

lemma scan_queryBody (h : ∀ byte ∈ bytes, byte ≠ esc ∧ byte ≠ bel ∧ byte ≠ eightBitTerminator)
    (hshort : (body ++ bytes).length ≤ maxQueryBody) :
    scan queryTrackerStep ⟨.dcsBody, body⟩ bytes = (⟨.dcsBody, body ++ bytes⟩, []) := by
  induction bytes generalizing body with
  | nil =>
    rw [List.append_nil]
    rfl
  | cons byte bytes ih =>
    obtain ⟨hesc, -, hend⟩ := h byte List.mem_cons_self
    have hpush : queryTrackerStep ⟨.dcsBody, body⟩ byte = (⟨.dcsBody, body ++ [byte]⟩, none) := by
      refine queryTrackerStep_of_short ?_ ?_
      · unfold queryTrackByte
        dsimp only
        rw [if_neg hesc, if_neg hend]
      · rw [List.length_append, List.length_cons] at hshort
        rw [List.length_append, List.length_singleton]
        omega
    rw [List.append_cons] at hshort
    rw [scan, hpush, ih (fun b hb => h b (List.mem_cons_of_mem byte hb)) hshort,
      List.append_assoc, List.singleton_append]
    rfl

/-- An escape and the introducer of a query leave an open string skipped. -/
lemma scan_intro (string : EightBitString) : ∃ state : XtgettcapTrackerState,
    (state = .ignoreOsc ∨ state = .ignoreString ∨ state = .oversizedDcs) ∧
      scan queryTrackerStep (readerOf (some string)) [esc, dcsByte] = (⟨state, []⟩, []) := by
  obtain ⟨start, content⟩ := string
  dsimp only [readerOf]
  have hstates : ∀ state : XtgettcapTrackerState, state = .dcsIntro ∨ state = .dcsIntroPlus ∨
      state = .ignoreString → scan queryTrackerStep ⟨state, []⟩ [esc, dcsByte] =
        (⟨.ignoreString, []⟩, []) := by
    rintro state (rfl | rfl | rfl) <;> rfl
  split_ifs with hdcs hosc
  · match content with
    | [] => exact ⟨.ignoreString, .inr (.inl rfl), hstates _ (.inl rfl)⟩
    | [plus] =>
      refine ⟨.ignoreString, .inr (.inl rfl), ?_⟩
      dsimp only [dcsReader]
      split_ifs
      · exact hstates _ (.inr (.inl rfl))
      · exact hstates _ (.inr (.inr rfl))
    | plus :: letter :: body =>
      dsimp only [dcsReader]
      split_ifs with hquery hlength
      · refine ⟨.ignoreString, .inr (.inl rfl), ?_⟩
        have hescape : queryTrackerStep ⟨.dcsBody, body⟩ esc = (⟨.dcsEscape, body⟩, none) :=
          queryTrackerStep_of_short rfl hlength
        rw [scan, hescape]
        rfl
      · exact ⟨.oversizedDcs, .inr (.inr rfl), rfl⟩
      · exact ⟨.ignoreString, .inr (.inl rfl), hstates _ (.inr (.inr rfl))⟩
  · exact ⟨.ignoreOsc, .inl rfl, rfl⟩
  · exact ⟨.ignoreString, .inr (.inl rfl), hstates _ (.inr (.inr rfl))⟩

/-- A query is completed if no string is open before it, and swallowed by one that is. -/
lemma scan_query (opened : Option EightBitString)
    (h : ∀ byte ∈ bytes, byte ≠ esc ∧ byte ≠ bel ∧ byte ≠ eightBitTerminator)
    (hshort : bytes.length ≤ maxQueryBody) :
    scan queryTrackerStep (readerOf opened)
        ([esc, dcsByte, plusByte, queryByte] ++ bytes ++ [esc, backslash]) =
      (⟨.ground, []⟩, if opened = none then [bytes] else []) := by
  cases opened with
  | none =>
    have hbegin : scan queryTrackerStep (readerOf none) [esc, dcsByte, plusByte, queryByte] =
        (⟨.dcsBody, []⟩, []) := rfl
    have hbody : scan queryTrackerStep ⟨.dcsBody, []⟩ bytes = (⟨.dcsBody, bytes⟩, []) :=
      scan_queryBody h hshort
    have hescape : queryTrackerStep ⟨.dcsBody, bytes⟩ esc = (⟨.dcsEscape, bytes⟩, none) :=
      queryTrackerStep_of_short rfl hshort
    have hend : scan queryTrackerStep ⟨.dcsBody, bytes⟩ [esc, backslash] =
        (⟨.ground, []⟩, [bytes]) := by
      rw [scan, hescape]
      rfl
    rw [scan_append, scan_append, hbegin, hbody, hend, if_pos rfl]
    rfl
  | some string =>
    obtain ⟨state, hstate, hbegin⟩ := scan_intro string
    have hskip : ∀ byte ∈ [plusByte, queryByte] ++ bytes,
        queryTrackerStep ⟨state, []⟩ byte = (⟨state, []⟩, none) := by
      intro byte hbyte
      have hclean : byte ≠ esc ∧ byte ≠ bel ∧ byte ≠ eightBitTerminator := by
        rcases List.mem_append.mp hbyte with hbyte | hbyte
        · simp only [List.mem_cons, List.not_mem_nil, or_false] at hbyte
          rcases hbyte with rfl | rfl <;> decide
        · exact h byte hbyte
      rw [queryTrackerStep_skipped hstate hclean.1 hclean.2.1, if_neg hclean.2.2]
    have hend : scan queryTrackerStep ⟨state, []⟩ [esc, backslash] = (⟨.ground, []⟩, []) := by
      rcases hstate with rfl | rfl | rfl <;> rfl
    have hsplit : [esc, dcsByte, plusByte, queryByte] ++ bytes ++ [esc, backslash] =
        [esc, dcsByte] ++ (([plusByte, queryByte] ++ bytes) ++ [esc, backslash]) := by
      simp
    rw [hsplit, scan_append, hbegin, scan_append, scan_fixed _ hskip, hend]
    rfl

/-! ### Streams of items -/

lemma openedBy_concat (seen : List OutputItem) (item : OutputItem) :
    openedBy (seen ++ [item]) = item.casesOn
      (fun chars printable =>
        (scan stringStep (openedBy seen) (OutputItem.text chars printable).bytes).1)
      (fun _ _ _ => none) := by
  unfold openedBy
  cases item <;> exact List.foldl_concat ..

/-- The tracker over one more item. -/
lemma scan_item (seen : List OutputItem) (item : OutputItem) :
    (scan queryTrackerStep (readerOf (openedBy seen)) item.bytes).1 =
      readerOf (openedBy (seen ++ [item])) := by
  rw [openedBy_concat]
  cases item with
  | text chars printable =>
    exact congrArg Prod.fst (scan_text (openedBy seen) (printable_bytes printable))
  | query names hex short =>
    exact congrArg Prod.fst (scan_query (openedBy seen) (names_bytes hex) short)

/-- The tracker behind the items, whatever they are. -/
lemma scan_items (items : List OutputItem) :
    (scan queryTrackerStep ⟨.ground, []⟩ (items.flatMap OutputItem.bytes)).1 =
      readerOf (openedBy items) := by
  induction items using List.reverseRecOn with
  | nil => rfl
  | append_singleton seen item ih =>
    rw [List.flatMap_append, List.flatMap_singleton, scan_append, ih]
    exact scan_item seen item

/-- What an item is answered with is what it asks for exactly when it is not disturbed. -/
lemma item_answered_iff (seen : List OutputItem) (item : OutputItem) :
    (scan queryTrackerStep (readerOf (openedBy seen)) item.bytes).2.flatMap xtgettcapResponses =
      item.responses ↔ Undisturbed seen item := by
  cases item with
  | text chars printable =>
    unfold OutputItem.bytes OutputItem.responses Undisturbed
    dsimp only
    rw [scan_text (openedBy seen) (printable_bytes printable), List.flatMap_eq_nil_iff]
    constructor
    · intro h string hstring body hbody
      exact h body (List.mem_filterMap.mpr ⟨string, hstring, hbody⟩)
    · intro h body hbody
      obtain ⟨string, hstring, hbody⟩ := List.mem_filterMap.mp hbody
      exact h string hstring body hbody
  | query names hex short =>
    unfold OutputItem.bytes OutputItem.responses Undisturbed
    dsimp only
    rw [scan_query (openedBy seen) (names_bytes hex) short]
    cases openedBy seen with
    | none =>
      dsimp only
      rw [if_pos rfl, List.flatMap_singleton, xtgettcapResponses_joinNames hex]
      exact ⟨fun _ => .inr rfl, fun _ => rfl⟩
    | some string =>
      refine ⟨fun h => .inl h.symm, ?_⟩
      rintro (h | h)
      · exact h.symm
      · cases h

/-- At every item the responses so far are those for the supported names of the queries so far,
however the stream is cut. -/
def AnswersQueries (items : List OutputItem) : Prop :=
  ∀ seen, seen <+: items → ∀ reads : List (List UInt8),
    reads.flatten = seen.flatMap OutputItem.bytes →
      XtgettcapQueryTracker.default.respondReads reads = seen.flatMap OutputItem.responses

/-- The queries of a stream are answered exactly when no item is disturbed by an open string that the
tracker finds in the text before it. -/
theorem answersQueries_iff (items : List OutputItem) :
    AnswersQueries items ↔ AllSteps Undisturbed items := by
  have hreads : AnswersQueries items ↔ ∀ seen, seen <+: items →
      (scan queryTrackerStep ⟨.ground, []⟩ (seen.flatMap OutputItem.bytes)).2.flatMap
        xtgettcapResponses = seen.flatMap OutputItem.responses := by
    refine forall₂_congr fun seen _ => ?_
    constructor
    · intro h
      have hone := h [seen.flatMap OutputItem.bytes] (List.flatten_singleton ..)
      rwa [XtgettcapQueryTracker.default, XtgettcapQueryTracker.respondReads_eq_scan,
        List.flatten_singleton] at hone
    · intro h reads hflatten
      rw [XtgettcapQueryTracker.default, XtgettcapQueryTracker.respondReads_eq_scan, hflatten, h]
  rw [hreads]
  refine forall_prefix_iff_allSteps rfl fun seen item _ hgood => ?_
  rw [List.flatMap_append, List.flatMap_append, List.flatMap_singleton, List.flatMap_singleton,
    scan_append, List.flatMap_append, hgood, List.append_cancel_left_eq, scan_items]
  exact item_answered_iff seen item

lemma isPrintable_cyrillic : ∀ c ∈ [Char.ofNat 0x410], isPrintable c = true := by
  intro c hc
  rw [List.mem_singleton.mp hc]
  rfl

/-- A Cyrillic letter, whose second byte is that of an eight-bit `DCS`, and a query. -/
def letterThenQuery : List OutputItem :=
  [.text [Char.ofNat 0x410] isPrintable_cyrillic,
    .query [asciiBytes "5463"] (by decide +kernel) (by decide +kernel)]

/-- The query behind the letter is not answered. -/
theorem letterThenQuery_unanswered : ¬ AnswersQueries letterThenQuery ∧
    XtgettcapQueryTracker.default.respondReads [letterThenQuery.flatMap OutputItem.bytes] = [] ∧
    letterThenQuery.flatMap OutputItem.responses = [asciiBytes "\x1bP1+r5463\x1b\\"] := by
  have hsilent :
      XtgettcapQueryTracker.default.respondReads [letterThenQuery.flatMap OutputItem.bytes] = [] := by
    decide
  have hexpected :
      letterThenQuery.flatMap OutputItem.responses = [asciiBytes "\x1bP1+r5463\x1b\\"] := by
    decide
  refine ⟨fun h => ?_, hsilent, hexpected⟩
  have hanswer := h letterThenQuery List.prefix_rfl _ (List.flatten_singleton ..)
  rw [hsilent, hexpected] at hanswer
  cases hanswer

end

end Ork3.Pane
