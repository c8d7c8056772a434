import Ork3.Library.Incremental
import Ork3.Model.RawInput

/-!
# Framing does not depend on where the stream is cut

Every recogniser of `extract_one_event` decides on a prefix of the buffer. An event found at the head
of the buffer is therefore found again, with the same length, when more bytes follow.
-/

namespace Ork3.Input
open Ork3.Library

/-! ### Searches -/

section Searches
variable {needle buf : List UInt8} {p : UInt8 → Bool} {i : Nat}

lemma findSubsequence_some (h : findSubsequence needle buf = some i) (more : List UInt8) :
    i + needle.length ≤ buf.length ∧ findSubsequence needle (buf ++ more) = some i := by
  induction buf generalizing i with
  | nil => cases h
  | cons b rest ih =>
    simp only [findSubsequence, List.cons_append] at h ⊢
    split_ifs at h with hp
    · cases h
      have hpre := List.isPrefixOf_iff_prefix.mp hp
      have hmore : needle.isPrefixOf (b :: (rest ++ more)) = true :=
        List.isPrefixOf_iff_prefix.mpr (hpre.trans (List.prefix_append (b :: rest) more))
      exact ⟨by simpa using hpre.length_le, if_pos hmore⟩
    · obtain ⟨j, hj, rfl⟩ := Option.map_eq_some_iff.mp h
      obtain ⟨hle, hrest⟩ := ih hj
      have hlong : needle.length ≤ (b :: rest).length := by
        rw [List.length_cons]
        omega
      have hno : ¬needle.isPrefixOf (b :: (rest ++ more)) = true := by
        rw [List.isPrefixOf_iff_prefix] at hp ⊢
        intro hpre
        exact hp (List.prefix_of_prefix_length_le hpre (List.prefix_append (b :: rest) more) hlong)
      rw [if_neg hno, hrest]
      exact ⟨by rw [List.length_cons]; omega, rfl⟩

/-- A needle missed so far can only end in the bytes that arrive later. -/
lemma findSubsequence_none {more : List UInt8} (hneedle : needle ≠ [])
    (h : findSubsequence needle buf = none) (hi : findSubsequence needle (buf ++ more) = some i) :
    buf.length < i + needle.length := by
  induction buf generalizing i with
  | nil =>
    have hpos := List.length_pos_iff.mpr hneedle
    rw [List.length_nil]
    omega
  | cons b rest ih =>
    simp only [findSubsequence, List.cons_append] at h hi
    split_ifs at h with hp
    rw [Option.map_eq_none_iff] at h
    split_ifs at hi with hq
    · cases hi
      rw [List.isPrefixOf_iff_prefix] at hp hq
      by_contra hle
      exact hp (List.prefix_of_prefix_length_le hq (List.prefix_append (b :: rest) more) (by omega))
    · obtain ⟨j, hj, rfl⟩ := Option.map_eq_some_iff.mp hi
      have hlt := ih h hj
      rw [List.length_cons]
      omega

lemma findIdx?_some_append (h : buf.findIdx? p = some i) (more : List UInt8) :
    i < buf.length ∧ (buf ++ more).findIdx? p = some i := by
  refine ⟨(List.findIdx?_eq_some_iff_getElem.mp h).1, ?_⟩
  rw [List.findIdx?_append, h, Option.some_or]

lemma findIdx?_none_append {more : List UInt8} (h : buf.findIdx? p = none)
    (hi : (buf ++ more).findIdx? p = some i) : buf.length ≤ i := by
  rw [List.findIdx?_append, h, Option.none_or, Option.map_eq_some_iff] at hi
  obtain ⟨j, -, rfl⟩ := hi
  omega

lemma startsWith_append {pre : List UInt8} (h : pre.length ≤ buf.length) (more : List UInt8) :
    startsWith pre (buf ++ more) = startsWith pre buf := by
  unfold startsWith
  rw [Bool.eq_iff_iff, List.isPrefixOf_iff_prefix, List.isPrefixOf_iff_prefix]
  exact ⟨fun hp => List.prefix_of_prefix_length_le hp (List.prefix_append buf more) h,
    fun hp => hp.trans (List.prefix_append buf more)⟩

lemma findCsiFinal_append {finals : List UInt8} (h : findCsiFinal buf finals = some i)
    (more : List UInt8) :
    2 < i ∧ i ≤ buf.length ∧ findCsiFinal (buf ++ more) finals = some i := by
  obtain ⟨j, hj, rfl⟩ := Option.map_eq_some_iff.mp h
  obtain ⟨hlt, happ⟩ := findIdx?_some_append hj more
  rw [List.length_drop] at hlt
  refine ⟨by omega, by omega, ?_⟩
  rw [findCsiFinal, List.drop_append_of_le_length (by omega), happ]
  rfl

end Searches

/-! ### Recognisers -/

section Recognisers
variable {buf : List UInt8} {n : Nat}

lemma oscStringTerminator_append (h : oscStringTerminator buf = some n) (more : List UInt8) :
    1 ≤ n ∧ n ≤ buf.length ∧ oscStringTerminator (buf ++ more) = some n := by
  have hne : ([esc, 0x5c] : List UInt8) ≠ [] := List.cons_ne_nil _ _
  unfold oscStringTerminator at h ⊢
  cases hs : findSubsequence [esc, 0x5c] buf with
  | some i =>
    obtain ⟨hi, hsm⟩ := findSubsequence_some hs more
    simp only [List.length_cons, List.length_nil] at hi
    rw [hs] at h
    rw [hsm]
    cases hb : buf.findIdx? (· = 0x07) with
    | some j =>
      obtain ⟨hj, hbm⟩ := findIdx?_some_append hb more
      rw [hb] at h
      rw [hbm]
      simp only [Option.map_some, Option.some.injEq] at h ⊢
      omega
    | none =>
      rw [hb] at h
      simp only [Option.map_some, Option.map_none, Option.some.injEq] at h
      cases hbm : (buf ++ more).findIdx? (· = 0x07) with
      | none =>
        simp only [Option.map_some, Option.map_none, Option.some.injEq]
        omega
      | some j =>
        have hj := findIdx?_none_append hb hbm
        simp only [Option.map_some, Option.some.injEq]
        omega
  | none =>
    rw [hs] at h
    cases hb : buf.findIdx? (· = 0x07) with
    | none => simp [hb] at h
    | some j =>
      obtain ⟨hj, hbm⟩ := findIdx?_some_append hb more
      rw [hb] at h
      rw [hbm]
      simp only [Option.map_some, Option.map_none, Option.some.injEq] at h
      cases hsm : findSubsequence [esc, 0x5c] (buf ++ more) with
      | none =>
        simp only [Option.map_some, Option.map_none, Option.some.injEq]
        omega
      | some i =>
        have hi := findSubsequence_none hne hs hsm
        simp only [List.length_cons, List.length_nil] at hi
        simp only [Option.map_some, Option.some.injEq]
        omega

lemma stStringTerminator_append (h : stStringTerminator buf = some n) (more : List UInt8) :
    1 ≤ n ∧ n ≤ buf.length ∧ stStringTerminator (buf ++ more) = some n := by
  obtain ⟨i, hi, rfl⟩ := Option.map_eq_some_iff.mp h
  obtain ⟨hle, happ⟩ := findSubsequence_some hi more
  refine ⟨by omega, hle, ?_⟩
  rw [stStringTerminator, happ]
  rfl

lemma terminatorForFamily_append {family : ControlStringFamily}
    (h : controlStringTerminatorForFamily buf family = some n) (more : List UInt8) :
    1 ≤ n ∧ n ≤ buf.length ∧ controlStringTerminatorForFamily (buf ++ more) family = some n := by
  have hfind : ∀ p : UInt8 → Bool, (buf.findIdx? p).map (· + 1) = some n →
      1 ≤ n ∧ n ≤ buf.length ∧ ((buf ++ more).findIdx? p).map (· + 1) = some n := by
    intro p hp
    obtain ⟨i, hi, rfl⟩ := Option.map_eq_some_iff.mp hp
    obtain ⟨hlt, happ⟩ := findIdx?_some_append hi more
    exact ⟨by omega, hlt, by rw [happ]; rfl⟩
  cases family with
  | osc => exact oscStringTerminator_append h more
  | stTerminated => exact stStringTerminator_append h more
  | hostColorSchemeCsi => exact hfind _ h
  | orphanedSgrMouseTail => exact hfind _ h

lemma completeCharLen_append {width : Nat} (h : completeCharLen buf width = some n)
    (more : List UInt8) :
    n = width ∧ n ≤ buf.length ∧ completeCharLen (buf ++ more) width = some n := by
  unfold completeCharLen at h ⊢
  split_ifs at h with hlt htext
  cases h
  have hle : n ≤ buf.length := Nat.le_of_not_lt hlt
  refine ⟨rfl, hle, ?_⟩
  rw [List.take_append_of_le_length hle, if_neg htext, if_neg]
  rw [List.length_append]
  omega

lemma one_le_utf8CharWidth {b : UInt8} {width : Nat} (h : utf8CharWidth b = some width) :
    1 ≤ width := by
  unfold utf8CharWidth at h
  split_ifs at h <;> cases h <;> omega

/-- A length found from the first two bytes on is found again in a longer buffer. -/
lemma singleEscapeLen_append {first second : UInt8} {rest : List UInt8}
    (h : singleEscapeLen (first :: second :: rest) second = some n) (more : List UInt8) :
    1 ≤ n ∧ n ≤ (first :: second :: rest).length ∧
      singleEscapeLen (first :: second :: (rest ++ more)) second = some n := by
  have happ : first :: second :: (rest ++ more) = (first :: second :: rest) ++ more := rfl
  have htwo : ∀ c : UInt8, startsWith [esc, c] (first :: second :: (rest ++ more)) =
      startsWith [esc, c] (first :: second :: rest) := fun c => by
    rw [happ]
    exact startsWith_append (by simp) more
  have hcsi : asciiBytes "\x1b[" = [esc, 0x5b] := by decide
  have hss3 : asciiBytes "\x1bO" = [esc, 0x4f] := by decide
  simp only [singleEscapeLen, hcsi, hss3, htwo] at h ⊢
  by_cases hc : startsWith [esc, 0x5b] (first :: second :: rest) = true
  · simp only [if_pos hc] at h ⊢
    cases rest with
    | nil =>
      split_ifs at h <;> simp [findCsiFinal] at h
    | cons third rest =>
      have hthree : startsWith (asciiBytes "\x1b[<") (first :: second :: (third :: rest ++ more)) =
          startsWith (asciiBytes "\x1b[<") (first :: second :: third :: rest) := by
        rw [happ]
        exact startsWith_append (by simp [asciiBytes]) more
      rw [hthree]
      split_ifs at h ⊢
      · obtain ⟨hlt, hle, hm⟩ := findCsiFinal_append h more
        exact ⟨by omega, hle, hm⟩
      · obtain ⟨hlt, hle, hm⟩ := findCsiFinal_append h more
        exact ⟨by omega, hle, hm⟩
  · simp only [if_neg hc] at h ⊢
    have hfam : controlStringFamily (first :: second :: (rest ++ more)) =
        controlStringFamily (first :: second :: rest) := rfl
    simp only [controlString, hfam] at h ⊢
    cases hf : controlStringFamily (first :: second :: rest) with
    | some family =>
      rw [hf] at h
      simp only [Option.map_some] at h ⊢
      cases ht : controlStringTerminatorForFamily (first :: second :: rest) family with
      | none => simp [ht] at h
      | some len =>
        obtain ⟨hpos, hle, hm⟩ := terminatorForFamily_append ht more
        rw [ht] at h
        cases h
        rw [happ, hm]
        exact ⟨hpos, hle, rfl⟩
    | none =>
      rw [hf] at h
      simp only [Option.map_none] at h ⊢
      by_cases ho : startsWith [esc, 0x4f] (first :: second :: rest) = true
      · simp only [if_pos ho] at h ⊢
        split_ifs at h with hlong
        cases h
        have hmore : (first :: second :: (rest ++ more)).length ≥ 3 := by
          rw [happ, List.length_append]
          omega
        exact ⟨by omega, hlong, if_pos hmore⟩
      · simp only [if_neg ho] at h ⊢
        obtain ⟨width, hw, hlen⟩ := Option.bind_eq_some_iff.mp h
        obtain ⟨k, hk, rfl⟩ := Option.map_eq_some_iff.mp hlen
        obtain ⟨rfl, hle, hm⟩ := completeCharLen_append hk more
        refine ⟨by omega, ?_, ?_⟩
        · simp only [List.tail_cons, List.length_cons] at hle ⊢
          omega
        · rw [hw, Option.bind_some, happ, List.tail_append_of_ne_nil (by simp), hm]
          rfl

/-- While a buffer is a proper beginning of `ESC ESC [ <`, no sequence is complete in it. -/
lemma completeEscapeSequenceLen_of_take (hpre : buf <+: asciiBytes "\x1b\x1b[<")
    (hlen : buf.length < 4) : completeEscapeSequenceLen buf = none := by
  rw [List.prefix_iff_eq_take] at hpre
  generalize buf.length = k at hpre hlen
  subst hpre
  have hall : ∀ k < 4, completeEscapeSequenceLen ((asciiBytes "\x1b\x1b[<").take k) = none := by
    decide
  exact hall k hlen

lemma completeEscapeSequenceLen_cons (first second : UInt8) (rest : List UInt8) :
    completeEscapeSequenceLen (first :: second :: rest) =
      (escapedMouseLen (first :: second :: rest)).getD
        (if first = esc ∧ second = esc then (completeEscapeSequenceLen (second :: rest)).map (· + 1)
        else singleEscapeLen (first :: second :: rest) second) := by
  rw [completeEscapeSequenceLen]
  cases escapedMouseLen (first :: second :: rest) <;> rfl

/-- Without the final byte of the mouse report behind it, a doubled ESC is not complete. -/
lemma completeEscapeSequenceLen_mouse_none {rest : List UInt8}
    (hpre : startsWith (asciiBytes "\x1b[<") rest = true)
    (hmouse : escapedMouseLen (esc :: rest) = none)
    (hnone : findCsiFinal rest mouseFinals = none) :
    completeEscapeSequenceLen (esc :: rest) = none := by
  obtain ⟨tail, rfl⟩ := List.isPrefixOf_iff_prefix.mp hpre
  have hcons : asciiBytes "\x1b[<" ++ tail = esc :: 0x5b :: 0x3c :: tail := rfl
  rw [hcons] at hmouse hnone ⊢
  have hsingle : completeEscapeSequenceLen (esc :: 0x5b :: 0x3c :: tail) = none := by
    simp [completeEscapeSequenceLen, escapedMouseLen, singleEscapeLen, startsWith, asciiBytes, esc]
      at hnone ⊢
    exact hnone
  rw [completeEscapeSequenceLen_cons, hmouse, hsingle]
  rfl

/-- Whether a mouse report behind the doubled ESC decides is settled with the sequence. -/
lemma escapedMouseLen_append (h : completeEscapeSequenceLen buf = some n) (more : List UInt8) :
    escapedMouseLen (buf ++ more) = escapedMouseLen buf ∧
      ∀ len, escapedMouseLen buf = some len → len = some 1 := by
  by_cases hpre : startsWith (asciiBytes "\x1b\x1b[<") buf = true
  · have hpre' : startsWith (asciiBytes "\x1b\x1b[<") (buf ++ more) = true := by
      rw [startsWith_append (List.isPrefixOf_iff_prefix.mp hpre).length_le, hpre]
    obtain ⟨rest, rfl, hrest⟩ : ∃ rest, buf = esc :: rest ∧
        startsWith (asciiBytes "\x1b[<") rest = true := by
      obtain ⟨tail, rfl⟩ := List.isPrefixOf_iff_prefix.mp hpre
      exact ⟨asciiBytes "\x1b[<" ++ tail, rfl,
        List.isPrefixOf_iff_prefix.mpr (List.prefix_append _ tail)⟩
    cases hf : findCsiFinal rest mouseFinals with
    | none =>
      have hm : escapedMouseLen (esc :: rest) = none := by
        rw [escapedMouseLen, if_pos hpre, List.tail_cons, hf]
      rw [completeEscapeSequenceLen_mouse_none hrest hm hf] at h
      cases h
    | some m =>
      obtain ⟨-, hle, hmore⟩ := findCsiFinal_append hf more
      have hlong : escapedMouseLen (esc :: rest ++ more) = escapedMouseLen (esc :: rest) := by
        rw [List.cons_append] at hpre' ⊢
        simp only [escapedMouseLen, if_pos hpre, if_pos hpre', List.tail_cons, hf, hmore,
          List.take_append_of_le_length hle]
      refine ⟨hlong, fun len hm => ?_⟩
      rw [escapedMouseLen, if_pos hpre, List.tail_cons, hf] at hm
      cases ht : utf8Text (rest.take m) with
      | some seq =>
        simp only [ht] at hm
        split_ifs at hm
        exact (Option.some.inj hm).symm
      | none =>
        have hnone : escapedMouseLen (esc :: rest) = some none := by
          rw [escapedMouseLen, if_pos hpre, List.tail_cons, hf]
          simp only [ht]
        cases rest with
        | nil => cases h
        | cons second rest =>
          rw [completeEscapeSequenceLen_cons, hnone] at h
          cases h
  · have hpre' : ¬startsWith (asciiBytes "\x1b\x1b[<") (buf ++ more) = true := by
      intro hp
      have hfour : (asciiBytes "\x1b\x1b[<").length = 4 := by decide
      by_cases hlen : 4 ≤ buf.length
      · rw [startsWith_append (by omega)] at hp
        exact hpre hp
      · have hbuf : buf <+: asciiBytes "\x1b\x1b[<" :=
          List.prefix_of_prefix_length_le (List.prefix_append buf more)
            (List.isPrefixOf_iff_prefix.mp hp) (by omega)
        rw [completeEscapeSequenceLen_of_take hbuf (by omega)] at h
        cases h
    rw [escapedMouseLen, escapedMouseLen, if_neg hpre, if_neg hpre']
    exact ⟨rfl, fun len hlen => by cases hlen⟩

theorem completeEscapeSequenceLen_append (h : completeEscapeSequenceLen buf = some n)
    (more : List UInt8) :
    1 ≤ n ∧ n ≤ buf.length ∧ completeEscapeSequenceLen (buf ++ more) = some n := by
  induction buf generalizing n with
  | nil => cases h
  | cons first tail ih =>
    cases tail with
    | nil => cases h
    | cons second rest =>
      obtain ⟨hmore, hone⟩ := escapedMouseLen_append h more
      simp only [List.cons_append] at hmore ⊢
      rw [completeEscapeSequenceLen_cons] at h ⊢
      rw [hmore]
      cases hm : escapedMouseLen (first :: second :: rest) with
      | some len =>
        rw [hm] at h
        cases hone len hm
        cases h
        exact ⟨Nat.le_refl 1, by simp, rfl⟩
      | none =>
        rw [hm] at h
        simp only [Option.getD_none] at h ⊢
        split_ifs at h ⊢ with hesc
        · obtain ⟨k, hk, rfl⟩ := Option.map_eq_some_iff.mp h
          obtain ⟨-, hle, happ⟩ := ih hk
          rw [List.cons_append] at happ
          exact ⟨by omega, by simpa using hle, by rw [happ]; rfl⟩
        · exact singleEscapeLen_append h more

end Recognisers

/-! ### Events -/

section Events
variable {buf : List UInt8} {n : Nat}

lemma firstCompleteUtf8CharLen_append (h : firstCompleteUtf8CharLen buf = some n)
    (more : List UInt8) :
    1 ≤ n ∧ n ≤ buf.length ∧ firstCompleteUtf8CharLen (buf ++ more) = some n := by
  obtain ⟨b, hb, h⟩ := Option.bind_eq_some_iff.mp h
  obtain ⟨width, hw, h⟩ := Option.bind_eq_some_iff.mp h
  obtain ⟨rfl, hle, happ⟩ := completeCharLen_append h more
  refine ⟨one_le_utf8CharWidth hw, hle, ?_⟩
  cases buf with
  | nil => cases hb
  | cons c rest =>
    cases hb
    simp only [firstCompleteUtf8CharLen, List.cons_append, List.head?_cons, Option.bind_eq_bind,
      Option.bind_some, hw]
    exact happ

lemma extractPaste_append {event : RawInputEvent} (h : extractPaste buf = some (event, n))
    (more : List UInt8) :
    1 ≤ n ∧ n ≤ buf.length ∧ extractPaste (buf ++ more) = some (event, n) := by
  obtain ⟨stop, hstop, h⟩ := Option.bind_eq_some_iff.mp h
  obtain ⟨content, hcontent, h⟩ := Option.bind_eq_some_iff.mp h
  cases h
  obtain ⟨hle, happ⟩ := findSubsequence_some hstop more
  have hend : bracketedPasteEnd.length = 6 := by decide
  refine ⟨by omega, hle, ?_⟩
  have htake : (buf ++ more).take stop = buf.take stop :=
    List.take_append_of_le_length (by omega)
  simp only [extractPaste, happ, htake, hcontent, Option.bind_eq_bind, Option.bind_some]
  rfl

lemma extractChar_append {event : RawInputEvent} (h : extractChar buf = some (event, n))
    (more : List UInt8) :
    1 ≤ n ∧ n ≤ buf.length ∧ extractChar (buf ++ more) = some (event, n) := by
  obtain ⟨consumed, hc, h⟩ := Option.bind_eq_some_iff.mp h
  obtain ⟨hpos, hle, happ⟩ := firstCompleteUtf8CharLen_append hc more
  have htake : (buf ++ more).take consumed = buf.take consumed :=
    List.take_append_of_le_length hle
  have hext : extractChar (buf ++ more) = some (event, n) := by
    simp only [extractChar, happ, htake, Option.bind_eq_bind, Option.bind_some]
    exact h
  obtain ⟨text, -, h⟩ := Option.bind_eq_some_iff.mp h
  obtain ⟨key, -, h⟩ := Option.bind_eq_some_iff.mp h
  cases h
  exact ⟨hpos, hle, hext⟩

/-- An escape sequence that was complete, whether it parsed or panicked, stays as it was. -/
lemma extractEscape_append (more : List UInt8) (h : extractEscape buf ≠ .ok none) :
    extractEscape (buf ++ more) = extractEscape buf ∧
      ∀ event n, extractEscape buf = .ok (some (event, n)) → 1 ≤ n ∧ n ≤ buf.length := by
  unfold extractEscape at h ⊢
  cases hlen : completeEscapeSequenceLen buf with
  | none => simp [hlen] at h
  | some len =>
    obtain ⟨hpos, hle, happ⟩ := completeEscapeSequenceLen_append hlen more
    simp only [happ, List.take_append_of_le_length hle, true_and]
    intro event n hevent
    cases ht : utf8Text (buf.take len) with
    | none => simp [ht] at hevent
    | some seq =>
      cases he : escapeEvent (buf.take len) seq with
      | error e => simp [ht, he, Except.map] at hevent
      | ok ev =>
        simp only [ht, he, Except.map, Except.ok.injEq, Option.some.injEq, Prod.mk.injEq] at hevent
        omega

/-- A proper beginning of the paste introducer is not yet an event. -/
lemma extractOneEvent_pasteStart (hpre : buf <+: bracketedPasteStart) (hlen : buf.length < 6) :
    extractOneEvent buf = .ok none := by
  rw [List.prefix_iff_eq_take] at hpre
  generalize buf.length = k at hpre hlen
  subst hpre
  have hall : ∀ k < 6, completeEscapeSequenceLen (bracketedPasteStart.take k) = none := by decide
  have hstart : ∀ k < 6, startsWith bracketedPasteStart (bracketedPasteStart.take k) = false := by
    decide
  have hhead : ∀ k < 6, (bracketedPasteStart.take k).isEmpty = true ∨
      (bracketedPasteStart.take k).head? = some esc := by decide
  simp only [extractOneEvent, hstart k hlen, extractEscape, hall k hlen]
  rcases hhead k hlen with hk | hk <;> simp [hk]

theorem extractOneEvent_append (more : List UInt8) (h : extractOneEvent buf ≠ .ok none) :
    extractOneEvent (buf ++ more) = extractOneEvent buf ∧
      ∀ event n, extractOneEvent buf = .ok (some (event, n)) → 1 ≤ n ∧ n ≤ buf.length := by
  have hne : buf.isEmpty = false := by
    cases buf with
    | nil => exact absurd rfl h
    | cons b rest => rfl
  have hne' : (buf ++ more).isEmpty = false := by
    cases buf with
    | nil => cases hne
    | cons b rest => rfl
  have hhead : (buf ++ more).head? = buf.head? := by
    cases buf with
    | nil => cases hne
    | cons b rest => rfl
  have hsix : bracketedPasteStart.length = 6 := by decide
  have hstart : startsWith bracketedPasteStart (buf ++ more) = startsWith bracketedPasteStart buf := by
    by_cases hlen : 6 ≤ buf.length
    · exact startsWith_append (by omega) more
    · have hshort : startsWith bracketedPasteStart buf = false := by
        rw [Bool.eq_false_iff]
        intro hb
        have hle := (List.isPrefixOf_iff_prefix.mp hb).length_le
        omega
      rw [hshort, Bool.eq_false_iff]
      intro hp
      exact h (extractOneEvent_pasteStart (List.prefix_of_prefix_length_le
        (List.prefix_append buf more) (List.isPrefixOf_iff_prefix.mp hp) (by omega)) (by omega))
  simp only [extractOneEvent, hne, hne', hstart, hhead, Bool.false_eq_true, if_false] at h ⊢
  split_ifs at h ⊢ with hp he
  · cases hx : extractPaste buf with
    | none => simp [hx] at h
    | some r =>
      obtain ⟨event, n⟩ := r
      obtain ⟨hpos, hle, happ⟩ := extractPaste_append hx more
      rw [happ]
      refine ⟨rfl, fun event' n' hr => ?_⟩
      cases hr
      exact ⟨hpos, hle⟩
  · exact extractEscape_append more h
  · cases hx : extractChar buf with
    | none => simp [hx] at h
    | some r =>
      obtain ⟨event, n⟩ := r
      obtain ⟨hpos, hle, happ⟩ := extractChar_append hx more
      rw [happ]
      refine ⟨rfl, fun event' n' hr => ?_⟩
      cases hr
      exact ⟨hpos, hle⟩

end Events

/-! ### The framer -/

/-- How many bytes the event at the head of the buffer takes. -/
def extractLen (buffer : List UInt8) : Except Panic (Option Nat) :=
  (extractOneEvent buffer).map fun r => r.map (·.2)

theorem extractLen_stable : ExtensionStable extractLen := by
  have hsome : ∀ {buf : List UInt8} {n : Nat}, extractLen buf = .ok (some n) →
      ∃ event, extractOneEvent buf = .ok (some (event, n)) := by
    intro buf n h
    unfold extractLen at h
    cases he : extractOneEvent buf with
    | error e => simp [he, Except.map] at h
    | ok r =>
      cases r with
      | none => simp [he, Except.map] at h
      | some p =>
        simp only [he, Except.map, Except.ok.injEq, Option.map_some, Option.some.injEq] at h
        exact ⟨p.1, by rw [← h]⟩
  constructor
  · rfl
  · intro buf n h
    obtain ⟨event, he⟩ := hsome h
    exact ((extractOneEvent_append [] (by simp [he])).2 event n he).1
  · intro buf n h
    obtain ⟨event, he⟩ := hsome h
    exact ((extractOneEvent_append [] (by simp [he])).2 event n he).2
  · intro buf n more h
    obtain ⟨event, he⟩ := hsome h
    rw [extractLen, (extractOneEvent_append more (by simp [he])).1]
    exact h
  · intro buf e more h
    have hne : extractOneEvent buf ≠ .ok none := by
      intro hnone
      simp [extractLen, hnone, Except.map] at h
    rw [extractLen, (extractOneEvent_append more hne).1]
    exact h

namespace RawInputByteFramer

/-- Nothing has been flushed that the next bytes would have to be checked against. -/
structure Steady (f : RawInputByteFramer) : Prop where
  no_escape : f.loneEscapeRecentlyFlushed = false
  no_discard : f.discardUntil = none

/-- The chunks and the bytes left. -/
def chunksAndRest (r : RawInputByteFramer × List (List UInt8)) : List (List UInt8) × List UInt8 :=
  (r.2, r.1.buffer)

lemma Steady.noteEvent {f : RawInputByteFramer} (hf : f.Steady) (event : RawInputEvent) :
    (f.noteEvent event).Steady := by
  cases event with
  | hostColorSchemeChanged appearance =>
    change (if f.hostColorSchemeChangeTracking then f.hostColorQuerySent else f).Steady
    split_ifs
    · exact ⟨hf.1, hf.2⟩
    · exact hf
  | hostDefaultColor kind color => exact ⟨hf.1, hf.2⟩
  | _ => exact hf

/-- On a steady framer the loop is plain extraction. -/
lemma drainLoop_steady (fuel : Nat) {f : RawInputByteFramer} (hf : f.Steady) :
    (f.drainLoop fuel).map chunksAndRest = drainFuel extractLen fuel f.buffer ∧
      ∀ r, f.drainLoop fuel = .ok r → r.1.Steady := by
  induction fuel generalizing f with
  | zero => exact ⟨rfl, fun r h => by cases h; exact hf⟩
  | succ fuel ih =>
    have hturn : f.turn = f.extractTurn := by
      simp [turn, plainTurn, hf.no_escape, hf.no_discard]
    simp only [RawInputByteFramer.drainLoop, drainFuel, hturn, extractTurn, extractLen]
    cases he : extractOneEvent f.buffer with
    | error e => exact ⟨rfl, fun r h => by cases h⟩
    | ok r =>
      cases r with
      | none => exact ⟨rfl, fun r h => by cases h; exact hf⟩
      | some p =>
        obtain ⟨event, n⟩ := p
        obtain ⟨ihm, ihs⟩ := @ih { f.noteEvent event with
            heldPendingColorEsc := false, buffer := f.buffer.drop n }
          ⟨(hf.noteEvent event).1, (hf.noteEvent event).2⟩
        simp only [Except.map, bind, Except.bind, Option.map_some] at ihm ⊢
        rw [← ihm]
        cases hd : RawInputByteFramer.drainLoop fuel { f.noteEvent event with
            heldPendingColorEsc := false, buffer := f.buffer.drop n } with
        | error e => exact ⟨rfl, fun r h => by cases h⟩
        | ok r =>
          refine ⟨rfl, fun r' h => ?_⟩
          cases h
          exact ihs r hd

lemma drain_steady {f : RawInputByteFramer} (hf : f.Steady) :
    f.drainAvailableChunks.map chunksAndRest = drainAll extractLen f.buffer ∧
      ∀ r, f.drainAvailableChunks = .ok r → r.1.Steady := by
  obtain ⟨hm, hs⟩ := drainLoop_steady f.fuelFor hf
  refine ⟨?_, hs⟩
  rw [drainAvailableChunks, hm, drainAll]
  exact drainFuel_eq extractLen_stable _ _ _ (by simp only [fuelFor]; omega) (Nat.le_refl _)

lemma push_steady {f : RawInputByteFramer} (hf : f.Steady) (data : List UInt8) :
    (f.push data).map chunksAndRest = drainAll extractLen (f.buffer ++ data) ∧
      ∀ r, f.push data = .ok r → r.1.Steady :=
  drain_steady (f := { f with buffer := f.buffer ++ data }) ⟨hf.1, hf.2⟩

/-- The pushes in order, with all their chunks. -/
def pushAll (f : RawInputByteFramer) :
    List (List UInt8) → Except Panic (RawInputByteFramer × List (List UInt8))
  | [] => .ok (f, [])
  | data :: pieces => do
    let (f, chunks) ← f.push data
    let (f, chunks') ← f.pushAll pieces
    return (f, chunks ++ chunks')

lemma pushAll_steady (pieces : List (List UInt8)) {f : RawInputByteFramer} (hf : f.Steady) :
    (f.pushAll pieces).map chunksAndRest = feed extractLen f.buffer pieces := by
  induction pieces generalizing f with
  | nil => rfl
  | cons data pieces ih =>
    obtain ⟨hm, hs⟩ := push_steady hf data
    rw [pushAll, feed, ← hm]
    cases hp : f.push data with
    | error e => rfl
    | ok r =>
      simp only [bind, Except.bind, Except.map, chunksAndRest]
      rw [← ih (hs r hp)]
      cases r.1.pushAll pieces <;> rfl

/-- A fresh framer given the same bytes in different pieces returns the same chunks and keeps the
same bytes; a stream that panics panics however it is cut. -/
theorem pushAll_cut_independent {pieces pieces' : List (List UInt8)}
    (h : pieces.flatten = pieces'.flatten) :
    (pushAll {} pieces).map chunksAndRest = (pushAll {} pieces').map chunksAndRest := by
  have hfresh : Steady {} := ⟨rfl, rfl⟩
  have hempty : drainAll extractLen [] = .ok ([], []) := rfl
  rw [pushAll_steady pieces hfresh, pushAll_steady pieces' hfresh,
    feed_eq_drainAll extractLen_stable pieces hempty,
    feed_eq_drainAll extractLen_stable pieces' hempty, h]

theorem pushAll_cut_independent_csi :
    (pushAll {} [[0x1b], [0x5b, 0x41, 0x61]]).map chunksAndRest =
      (pushAll {} [[0x1b, 0x5b], [0x41], [0x61]]).map chunksAndRest :=
  pushAll_cut_independent (by decide)

end RawInputByteFramer

end Ork3.Input
