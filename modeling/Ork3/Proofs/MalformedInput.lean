import Ork3.Library.Utf8
import Ork3.Proofs.ColorReplyFlush
import Ork3.Proofs.FramerSlices

/-!
# What stands behind malformed input

Extraction waits at bytes that will never be an event as it waits at the start of one. The flush that
ends the waiting drops the whole buffer, and the keys behind those bytes with it.
-/

namespace Ork3.Input

open Ork3.Library

/-- No event will ever be read at the head of the buffer, whatever arrives. -/
def NeverAnEvent (buffer : List UInt8) : Prop :=
  ∀ more, extractOneEvent (buffer ++ more) = .ok none

/-! ### Malformed bytes -/

section
variable {lead : UInt8} {rest content behind : List UInt8} {len : Nat}

lemma extractChar_of_invalid (h : firstChar lead rest = .invalid len) :
    extractChar (lead :: rest) = none := by
  cases hextract : extractChar (lead :: rest) with
  | none => rfl
  | some r =>
    obtain ⟨consumed, hlen, hrest⟩ := Option.bind_eq_some_iff.mp hextract
    obtain ⟨text, htext, -⟩ := Option.bind_eq_some_iff.mp hrest
    have hpos := (firstCompleteUtf8CharLen_append hlen []).1
    obtain ⟨k, rfl⟩ : ∃ k, consumed = k + 1 := ⟨consumed - 1, by omega⟩
    rw [List.take_succ_cons, utf8Text] at htext
    cases hdecode : fromUtf8 (lead :: rest.take k) with
    | error e =>
      rw [hdecode] at htext
      cases htext
    | ok s =>
      -- the decision about the taken bytes would be the one about all of them
      obtain ⟨c, width, hchar⟩ := firstChar_of_ok hdecode
      have hdecided : firstChar lead (rest.take k) ≠ .incomplete := by
        rw [hchar]
        exact FirstChar.noConfusion
      have hsame := firstChar_append hdecided (rest.drop k)
      rw [List.take_append_drop, h, hchar] at hsame
      cases hsame

/-- Bytes that are not UTF-8 never become an event. -/
lemma neverAnEvent_of_invalid (h : fromUtf8 (lead :: rest) = .error ⟨0, some len⟩) :
    NeverAnEvent (lead :: rest) := by
  intro more
  have hfirst := firstChar_of_invalid h
  have hdecided : firstChar lead rest ≠ .incomplete := by
    rw [hfirst]
    exact FirstChar.noConfusion
  have hinvalid : firstChar lead (rest ++ more) = .invalid len :=
    (firstChar_append hdecided more).trans hfirst
  have hne : lead ≠ esc := by
    rintro rfl
    cases hfirst
  have hstart : startsWith bracketedPasteStart (lead :: (rest ++ more)) = false := by
    rw [Bool.eq_false_iff]
    intro hstart
    obtain ⟨heq, -⟩ := List.cons_prefix_cons.mp (List.isPrefixOf_iff_prefix.mp hstart)
    exact hne heq.symm
  have hesc : (lead :: (rest ++ more)).head? ≠ some esc := fun heq => hne (Option.some.inj heq)
  rw [List.cons_append, extractOneEvent, if_neg (by simp), hstart, if_neg Bool.false_ne_true,
    if_neg hesc, extractChar_of_invalid hinvalid]

/-- A paste whose bytes are not UTF-8 never becomes an event. -/
lemma neverAnEvent_of_paste (hcontent : utf8Text content = none)
    (hend : findSubsequence bracketedPasteEnd (bracketedPasteStart ++ (content ++
      bracketedPasteEnd)) = some (bracketedPasteStart ++ content).length) :
    NeverAnEvent (bracketedPasteStart ++ (content ++ bracketedPasteEnd) ++ behind) := by
  intro more
  have hwhole : bracketedPasteStart ++ (content ++ bracketedPasteEnd) ++ behind ++ more =
      bracketedPasteStart ++ (content ++ bracketedPasteEnd ++ (behind ++ more)) := by
    simp only [List.append_assoc]
  have hfind := (findSubsequence_some hend (behind ++ more)).2
  have hcut : ((bracketedPasteStart ++ (content ++ bracketedPasteEnd ++ (behind ++ more))).take
      (bracketedPasteStart ++ content).length).drop bracketedPasteStart.length = content := by
    rw [List.append_assoc content, ← List.append_assoc bracketedPasteStart, List.take_left,
      List.drop_left]
  have hstart : startsWith bracketedPasteStart
      (bracketedPasteStart ++ (content ++ bracketedPasteEnd ++ (behind ++ more))) = true :=
    List.isPrefixOf_iff_prefix.mpr (List.prefix_append _ _)
  rw [List.append_assoc bracketedPasteStart] at hfind
  rw [hwhole, extractOneEvent, if_neg (by simp [bracketedPasteStart, asciiBytes]), if_pos hstart,
    extractPaste, hfind]
  simp only [Option.bind_eq_bind, Option.bind_some, hcut, hcontent, Option.bind_none]

end

/-! ### The key behind -/

namespace RawInputByteFramer

/-- A push and one flush deliver the key behind the malformed bytes. -/
def DeliversBehind (f : RawInputByteFramer) (before malformed key rest : List UInt8) : Prop :=
  ∃ mid post, f.emitted [.push (before ++ (malformed ++ (key ++ rest))), .flushTimeout] =
    f.emitted [.push before] ++ (mid ++ key :: post)

section
variable {f f' : RawInputByteFramer} {before malformed key rest : List UInt8}
  {chunks : List (List UInt8)}

/-- A push that reaches malformed bytes stops in front of them. -/
lemma push_stuck (hf : f.Steady) (hbuf : f.buffer = []) (hbefore : f.push before = .ok (f', chunks))
    (hbuf' : f'.buffer = []) {tail : List UInt8} (htail : extractOneEvent tail = .ok none) :
    ∃ f₁, f.push (before ++ tail) = .ok (f₁, chunks) ∧ f₁.Steady ∧ f₁.buffer = tail := by
  have hdrained : drainAll extractLen before = .ok (chunks, []) := by
    have hmap := (push_steady hf before).1
    rw [hbefore, hbuf, List.nil_append] at hmap
    rw [← hmap, Except.map, chunksAndRest, hbuf']
  have hstop : drainAll extractLen tail = .ok ([], tail) := by
    rw [drainAll_eq extractLen_stable, extractLen, htail]
    rfl
  have hall : drainAll extractLen (before ++ tail) = .ok (chunks, tail) := by
    rw [drainAll_append extractLen_stable, hdrained]
    simp only [bind, Except.bind, List.nil_append, hstop, List.append_nil]
    rfl
  obtain ⟨hmap, hsteady⟩ := push_steady hf (before ++ tail)
  rw [hbuf, List.nil_append, hall] at hmap
  cases hpush : f.push (before ++ tail) with
  | error e =>
    rw [hpush] at hmap
    cases hmap
  | ok r =>
    rw [hpush] at hmap
    obtain ⟨f₁, chunks₁⟩ := r
    cases hmap
    exact ⟨f₁, rfl, hsteady _ hpush, rfl⟩

/-- No key behind bytes that never become an event is delivered, nor anything else there. -/
theorem not_deliversBehind (hf : f.Steady) (hbuf : f.buffer = [])
    (hbefore : f.push before = .ok (f', chunks)) (hbuf' : f'.buffer = []) (hne : malformed ≠ [])
    (_hkey : ∃ k, extractOneEvent key = .ok (some (.key k, key.length)))
    (hnever : NeverAnEvent (malformed ++ (key ++ rest))) :
    ¬ f.DeliversBehind before malformed key rest := by
  have hstuck := hnever []
  rw [List.append_nil] at hstuck
  obtain ⟨f₁, hpush, hsteady, htail⟩ := push_stuck hf hbuf hbefore hbuf' hstuck
  have hflush : f₁.flushTimeout = .ok f₁.flushPending := by
    rw [← htail] at hstuck
    simp only [flushTimeout, drain_exit (turn_exit_of_none hsteady hstuck), bind, Except.bind,
      hsteady.no_discard, List.nil_append]
    rfl
  have hwhole := flushPending_whole f₁
  have hcalls : f.emitted [.push (before ++ (malformed ++ (key ++ rest))), .flushTimeout] =
      chunks ++ f₁.flushPending.2 := by
    simp only [emitted, Call.apply, hpush, hflush, List.append_nil]
  have hfront : f.emitted [.push before] = chunks := by
    simp only [emitted, Call.apply, hbefore, List.append_nil]
  rintro ⟨mid, post, heq⟩
  rw [hcalls, hfront, List.append_cancel_left_eq] at heq
  rcases hwhole with ⟨-, hnone⟩ | ⟨-, hall⟩
  · rw [hnone] at heq
    simp at heq
  · -- the whole buffer is longer than the key
    rw [hall, htail] at heq
    have hpos := List.length_pos_iff.mpr hne
    have hlen := congrArg List.length heq
    have hmid : mid = [] := by
      simp only [List.length_append, List.length_cons, List.length_nil] at hlen
      exact List.length_eq_zero_iff.mp (by omega)
    rw [hmid, List.nil_append, List.cons.injEq] at heq
    have hkeyLen := congrArg List.length heq.1
    simp only [List.length_append] at hkeyLen
    omega

/-- Behind a paste that is not UTF-8. -/
theorem not_deliversBehind_paste :
    ¬ ({} : RawInputByteFramer).DeliversBehind [] (bracketedPasteStart ++ ([0xff] ++
      bracketedPasteEnd)) [0x61] [] := by
  have hbefore : ({} : RawInputByteFramer).push [] = .ok ({}, []) := by decide
  have hkey : extractOneEvent [0x61] = .ok (some (.key (.new (.char 'a') .empty), 1)) := by decide
  exact not_deliversBehind ⟨rfl, rfl⟩ rfl hbefore rfl (by decide) ⟨_, hkey⟩
    (neverAnEvent_of_paste (by decide) (by decide))

/-- The key behind a byte that is not UTF-8 is dropped. -/
theorem key_behind_invalid_byte_dropped :
    extractOneEvent [0x61] = .ok (some (.key (.new (.char 'a') .empty), 1)) ∧
      NeverAnEvent [0xff, 0x61] ∧ ¬ ({} : RawInputByteFramer).DeliversBehind [] [0xff] [0x61] [] := by
  have hinvalid : fromUtf8 [0xff, 0x61] = .error ⟨0, some 1⟩ := by decide
  refine ⟨by decide, neverAnEvent_of_invalid hinvalid, ?_⟩
  have hnothing : ({} : RawInputByteFramer).emitted [.push [0xff, 0x61], .flushTimeout] = [] := by
    decide
  rintro ⟨mid, post, heq⟩
  have hlen := congrArg List.length heq
  simp [hnothing] at hlen

end

end RawInputByteFramer

end Ork3.Input
