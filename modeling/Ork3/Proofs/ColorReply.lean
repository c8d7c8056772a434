import Ork3.Proofs.RawInputFraming
import Mathlib.Data.List.Infix

/-!
# Colour replies cut by idle flushes

A framer that awaits a colour reply holds a lone ESC, waits once five bytes of the reply are there,
and discards the rest of a reply that was flushed at offset 2, 3 or 4. The discarding ends early at a
flush whose bytes are not in the plausible class, which lacks most hex digits.
-/

namespace Ork3.Input
open Ork3.Library

/-! ### Replies -/

def isHexDigitByte (b : UInt8) : Bool :=
  isAsciiDigit b || (0x61 ≤ b && b ≤ 0x66) || (0x41 ≤ b && b ≤ 0x46)

/-- An OSC 10 or OSC 11 reply: `ESC ] 10;rgb:h/h/h`, ended by BEL or `ESC \`. -/
structure ColorReply where
  background : Bool
  red : List UInt8
  green : List UInt8
  blue : List UInt8
  stTerminated : Bool
  red_ne : red ≠ []
  green_ne : green ≠ []
  blue_ne : blue ≠ []
  red_hex : ∀ b ∈ red, isHexDigitByte b = true
  green_hex : ∀ b ∈ green, isHexDigitByte b = true
  blue_hex : ∀ b ∈ blue, isHexDigitByte b = true

namespace ColorReply

/-- The bytes between `ESC ]` and the terminator. -/
def payload (reply : ColorReply) : List UInt8 :=
  [0x31, if reply.background then 0x31 else 0x30] ++ asciiBytes ";rgb:" ++
    (reply.red ++ 0x2f :: (reply.green ++ 0x2f :: reply.blue))

/-- The reply without its last byte. -/
def front (reply : ColorReply) : List UInt8 :=
  esc :: 0x5d :: (reply.payload ++ if reply.stTerminated then [esc] else [])

def lastByte (reply : ColorReply) : UInt8 := if reply.stTerminated then 0x5c else 0x07

def bytes (reply : ColorReply) : List UInt8 := reply.front ++ [reply.lastByte]

end ColorReply

/-- What holds of every byte of a reply. -/
structure ReplyByte (b : UInt8) : Prop where
  ascii : b < 0x80
  not_hash : b ≠ 0x23
  not_mouse : isMouseFinal b = false

/-- What holds of every byte of a reply but the last. -/
structure FrontByte (b : UInt8) : Prop extends ReplyByte b where
  not_bel : b ≠ 0x07
  not_backslash : b ≠ 0x5c

/-- What holds of every byte between `ESC ]` and the terminator. -/
structure PayloadByte (b : UInt8) : Prop extends FrontByte b where
  not_esc : b ≠ esc

lemma payloadByte_of_hex {b : UInt8} (h : isHexDigitByte b = true) : PayloadByte b := by
  have hne : ∀ c : UInt8, isHexDigitByte c = false → b ≠ c := by
    rintro c hc rfl
    rw [hc] at h
    cases h
  refine ⟨⟨⟨?_, hne _ (by decide), ?_⟩, hne _ (by decide), hne _ (by decide)⟩, hne _ (by decide)⟩
  · simp only [isHexDigitByte, isAsciiDigit, Bool.or_eq_true, Bool.and_eq_true, decide_eq_true_eq,
      UInt8.le_iff_toNat_le, UInt8.lt_iff_toNat_lt] at h ⊢
    simp only [UInt8.reduceToNat] at h ⊢
    omega
  · simp only [isMouseFinal, Bool.or_eq_false_iff, decide_eq_false_iff_not]
    exact ⟨hne _ (by decide), hne _ (by decide)⟩

lemma payloadByte_literal {b : UInt8} (h : b ∈ [0x30, 0x31, 0x3b, 0x72, 0x67, 0x62, 0x3a, 0x2f]) :
    PayloadByte b := by
  simp only [List.mem_cons, List.not_mem_nil, or_false] at h
  rcases h with rfl | rfl | rfl | rfl | rfl | rfl | rfl | rfl <;>
    exact ⟨⟨⟨by decide, by decide, by decide⟩, by decide, by decide⟩, by decide⟩

namespace ColorReply
variable (reply : ColorReply)

lemma payload_byte {b : UInt8} (h : b ∈ reply.payload) : PayloadByte b := by
  have hlit : asciiBytes ";rgb:" = [0x3b, 0x72, 0x67, 0x62, 0x3a] := by decide
  simp only [payload, hlit, List.mem_append, List.mem_cons, List.not_mem_nil, or_false] at h
  have hsep : ∀ c : UInt8, c = 0x2f → PayloadByte c := by
    rintro c rfl
    exact payloadByte_literal (by decide)
  rcases h with ((h | h) | h) | h | h | h | h | h
  · exact payloadByte_literal (by simp [h])
  · refine payloadByte_literal ?_
    rw [h]
    split_ifs <;> decide
  · refine payloadByte_literal ?_
    simp only [List.mem_cons, List.not_mem_nil, or_false]
    tauto
  · exact payloadByte_of_hex (reply.red_hex b h)
  · exact hsep b h
  · exact payloadByte_of_hex (reply.green_hex b h)
  · exact hsep b h
  · exact payloadByte_of_hex (reply.blue_hex b h)

lemma front_byte {b : UInt8} (h : b ∈ reply.front) : FrontByte b := by
  have hesc : FrontByte esc := ⟨⟨by decide, by decide, by decide⟩, by decide, by decide⟩
  simp only [front, List.mem_cons, List.mem_append] at h
  rcases h with rfl | rfl | h | h
  · exact hesc
  · exact ⟨⟨by decide, by decide, by decide⟩, by decide, by decide⟩
  · exact (reply.payload_byte h).toFrontByte
  · split_ifs at h
    · obtain rfl := List.mem_singleton.mp h
      exact hesc
    · cases h

lemma reply_byte {b : UInt8} (h : b ∈ reply.bytes) : ReplyByte b := by
  rw [bytes, List.mem_append, List.mem_singleton] at h
  rcases h with h | rfl
  · exact (reply.front_byte h).toReplyByte
  · unfold lastByte
    split_ifs <;> exact ⟨by decide, by decide, by decide⟩

end ColorReply

/-! ### Terminators -/

lemma findSubsequence_none_of_notMem {c d : UInt8} {xs : List UInt8} (h : d ∉ xs) :
    findSubsequence [c, d] xs = none := by
  induction xs with
  | nil => rfl
  | cons x xs ih =>
    rw [List.mem_cons, not_or] at h
    have hno : ¬[c, d].isPrefixOf (x :: xs) = true := by
      rw [List.isPrefixOf_iff_prefix]
      intro hp
      have hd := hp.subset (List.mem_cons_of_mem _ (List.mem_singleton_self d))
      rw [List.mem_cons] at hd
      exact hd.elim h.1 h.2
    rw [findSubsequence, if_neg hno, ih h.2]
    rfl

lemma findSubsequence_at_end {c d : UInt8} {xs : List UInt8} (h : d ∉ xs) (hcd : c ≠ d) :
    findSubsequence [c, d] (xs ++ [c, d]) = some xs.length := by
  induction xs with
  | nil => simp [findSubsequence]
  | cons x xs ih =>
    rw [List.mem_cons, not_or] at h
    have hno : ¬[c, d].isPrefixOf (x :: (xs ++ [c, d])) = true := by
      rw [List.isPrefixOf_iff_prefix]
      intro hp
      have hp' := (List.cons_prefix_cons.mp hp).2
      cases xs with
      | nil => exact hcd (List.cons_prefix_cons.mp hp').1.symm
      | cons y ys =>
        refine h.2 ?_
        rw [(List.cons_prefix_cons.mp hp').1]
        exact List.mem_cons_self
    rw [List.cons_append, findSubsequence, if_neg hno, ih h.2]
    rfl

lemma oscStringTerminator_none {xs : List UInt8} (hbel : 0x07 ∉ xs) (hst : 0x5c ∉ xs) :
    oscStringTerminator xs = none := by
  have hb : xs.findIdx? (· = 0x07) = none := by
    rw [List.findIdx?_eq_none_iff]
    intro x hx
    simpa using fun he : x = 0x07 => hbel (he ▸ hx)
  simp [oscStringTerminator, findSubsequence_none_of_notMem hst, hb]

namespace ColorReply
variable (reply : ColorReply)

lemma osc_none_of_subset {xs : List UInt8} (h : xs ⊆ reply.front) : oscStringTerminator xs = none :=
  oscStringTerminator_none (fun hb => (reply.front_byte (h hb)).not_bel rfl)
    (fun hb => (reply.front_byte (h hb)).not_backslash rfl)

lemma front_eq_esc (h : reply.stTerminated = true) :
    reply.front = (esc :: 0x5d :: reply.payload) ++ [esc] := by
  simp [front, h]

/-- From any offset up to the terminator on, the terminator ends the reply. -/
lemma osc_some_of_drop {a : Nat} (ha : a ≤ reply.payload.length + 2) :
    oscStringTerminator (reply.bytes.drop a) = some (reply.bytes.length - a) := by
  have hdrop : ∀ k, (reply.front.drop k) ⊆ reply.front := fun k => List.drop_subset k _
  cases hst : reply.stTerminated with
  | true =>
    have hbytes : reply.bytes = (esc :: 0x5d :: reply.payload) ++ [esc, 0x5c] := by
      simp [bytes, front, lastByte, hst]
    have hhead : (esc :: 0x5d :: reply.payload) ⊆ reply.front := by
      rw [reply.front_eq_esc hst]
      exact List.subset_append_left _ _
    have hno : ∀ c : UInt8, (∀ b, FrontByte b → b ≠ c) → c ∉ (esc :: 0x5d :: reply.payload).drop a :=
      fun c hc hm => hc c (reply.front_byte (hhead (List.drop_subset a _ hm))) rfl
    rw [hbytes, List.drop_append_of_le_length (by simpa using ha)]
    have hfind := findSubsequence_at_end (c := esc) (hno 0x5c fun b hb => hb.not_backslash) (by decide)
    have hbel : ((esc :: 0x5d :: reply.payload).drop a ++ [esc, 0x5c]).findIdx? (· = 0x07) = none := by
      rw [List.findIdx?_eq_none_iff]
      intro x hx
      rw [List.mem_append] at hx
      rcases hx with hx | hx
      · simpa using fun he : x = 0x07 => hno 0x07 (fun b hb => hb.not_bel) (he ▸ hx)
      · simp only [List.mem_cons, List.not_mem_nil, or_false] at hx
        rcases hx with rfl | rfl <;> decide
    simp only [oscStringTerminator, hfind, hbel, Option.map_some, Option.map_none,
      Option.some.injEq, List.length_append, List.length_drop, List.length_cons, List.length_nil]
    omega
  | false =>
    have hbytes : reply.bytes = reply.front ++ [0x07] := by simp [bytes, lastByte, hst]
    have hlen : reply.front.length = reply.payload.length + 2 := by simp [front, hst]
    rw [hbytes, List.drop_append_of_le_length (by omega)]
    have hfind : findSubsequence [esc, 0x5c] (reply.front.drop a ++ [0x07]) = none := by
      refine findSubsequence_none_of_notMem ?_
      simp only [List.mem_append, List.mem_singleton, not_or]
      exact ⟨fun hb => (reply.front_byte (hdrop a hb)).not_backslash rfl, by decide⟩
    have hbel : (reply.front.drop a ++ [0x07]).findIdx? (· = 0x07) =
        some (reply.front.drop a).length := by
      have hnone : (reply.front.drop a).findIdx? (· = 0x07) = none := by
        rw [List.findIdx?_eq_none_iff]
        intro x hx
        simpa using fun he : x = 0x07 => (reply.front_byte (hdrop a hx)).not_bel he
      rw [List.findIdx?_append, hnone]
      simp
    simp only [oscStringTerminator, hfind, hbel, Option.map_some, Option.map_none,
      Option.some.injEq, List.length_append, List.length_drop, List.length_cons, List.length_nil]
    omega

end ColorReply

/-! ### Parsing a reply -/

section Parsing

lemma utf8Text_ascii {bytes : List UInt8} (h : ∀ b ∈ bytes, b < 0x80) :
    utf8Text bytes = some (bytes.map fun b => Char.ofNat b.toNat) := by
  rw [utf8Text, fromUtf8_ascii h]
  rfl

lemma mem_of_stripPrefix {p s t : List Char} (h : stripPrefix p s = some t) : t ⊆ s := by
  unfold stripPrefix at h
  split_ifs at h
  cases h
  exact List.drop_subset _ _

lemma mem_of_stripSuffix {p s t : List Char} (h : stripSuffix p s = some t) : t ⊆ s := by
  unfold stripSuffix at h
  split_ifs at h
  cases h
  exact List.take_subset _ _

/-- Only a `#` colour is sliced, so only a `#` can make the reply parser panic. -/
lemma parseDefaultColorResponse_ok {seq : List Char} (h : '#' ∉ seq) :
    ∃ r, parseDefaultColorResponse seq = .ok r := by
  unfold parseDefaultColorResponse
  cases hb : defaultColorBody seq with
  | none => exact ⟨none, rfl⟩
  | some p =>
    obtain ⟨kind, value⟩ := p
    have hsub : value ⊆ seq := by
      obtain ⟨body, hbody, hb⟩ := Option.bind_eq_some_iff.mp hb
      obtain ⟨body', hbody', hb⟩ := Option.bind_eq_some_iff.mp hb
      obtain ⟨⟨command, value'⟩, hsplit, hb⟩ := Option.bind_eq_some_iff.mp hb
      obtain ⟨kind', -, hb⟩ := Option.bind_eq_some_iff.mp hb
      cases hb
      have hsub' : body' ⊆ body := by
        rcases Option.or_eq_some_iff.mp hbody' with hs | ⟨-, hs⟩
        · exact mem_of_stripSuffix hs
        · exact mem_of_stripSuffix hs
      obtain ⟨i, -, hi⟩ := Option.map_eq_some_iff.mp hsplit
      cases hi
      exact fun c hc => mem_of_stripPrefix hbody (hsub' (List.drop_subset _ _ hc))
    have hhash : stripPrefix ['#'] value = none := by
      unfold stripPrefix
      rw [if_neg]
      rw [List.isPrefixOf_iff_prefix]
      exact fun hp => h (hsub (hp.subset (List.mem_singleton_self '#')))
    simp only [parseRgbColor, hhash]
    cases stripPrefix "rgb:".toList value <;> exact ⟨_, rfl⟩

lemma escapeEvent_ok (bytes : List UInt8) {seq : List Char} (h : '#' ∉ seq) :
    ∃ event, escapeEvent bytes seq = .ok event := by
  obtain ⟨r, hr⟩ := parseDefaultColorResponse_ok h
  simp only [escapeEvent, hr, bind, Except.bind]
  cases r with
  | some p => exact ⟨_, rfl⟩
  | none =>
    simp only
    split_ifs
    · exact ⟨_, rfl⟩
    · exact ⟨_, rfl⟩
    · cases parseHostColorSchemeReport bytes with
      | some appearance => exact ⟨_, rfl⟩
      | none =>
        cases parseSgrMouse seq with
        | some mouse => exact ⟨_, rfl⟩
        | none => cases parseTerminalKeySequence seq <;> exact ⟨_, rfl⟩

lemma char_ne_hash {bytes : List UInt8} (h : ∀ b ∈ bytes, ReplyByte b) :
    '#' ∉ bytes.map fun b => Char.ofNat b.toNat := by
  rw [List.mem_map]
  rintro ⟨b, hb, hc⟩
  have hlt : b.toNat < 128 := by
    have := UInt8.lt_iff_toNat_lt.mp (h b hb).ascii
    simpa using this
  have hval : b.toNat = 35 := by
    have hn := congrArg Char.toNat hc
    rwa [toNat_ofNat_of_lt hlt] at hn
  exact (h b hb).not_hash (UInt8.toNat.inj (by simpa using hval))

/-- Bytes like those of a reply never make the extraction panic. -/
lemma extractOneEvent_ok (bytes : List UInt8) (h : ∀ b ∈ bytes, ReplyByte b) :
    ∃ r, extractOneEvent bytes = .ok r := by
  unfold extractOneEvent
  split_ifs
  · exact ⟨_, rfl⟩
  · exact ⟨_, rfl⟩
  · unfold extractEscape
    cases completeEscapeSequenceLen bytes with
    | none => exact ⟨_, rfl⟩
    | some len =>
      have hbytes : ∀ b ∈ bytes.take len, ReplyByte b := fun b hb => h b (List.take_subset _ _ hb)
      simp only [utf8Text_ascii fun b hb => (hbytes b hb).ascii]
      obtain ⟨event, he⟩ := escapeEvent_ok (bytes.take len) (char_ne_hash hbytes)
      rw [he]
      exact ⟨_, rfl⟩
  · exact ⟨_, rfl⟩

lemma lookupText_none {β : Type} {table : List (String × β)} {data : List Char} {i : Nat} {c : Char}
    (htable : ∀ e ∈ table, e.1.toList[i]? ≠ some c) (hdata : data[i]? = some c) :
    lookupText table data = none := by
  have hfind : table.find? (fun e => e.1.toList = data) = none := by
    rw [List.find?_eq_none]
    intro e he
    simp only [decide_eq_true_eq]
    rintro rfl
    exact htable e he hdata
  rw [lookupText, hfind]
  rfl

/-- No key sequence starts with `ESC ]` and goes on. -/
lemma parseTerminalKeySequence_osc (c : Char) (s : List Char) :
    parseTerminalKeySequence ('\x1b' :: ']' :: c :: s) = none := by
  have hprefix : ∀ p : List Char, stripPrefix ('\x1b' :: '[' :: p) ('\x1b' :: ']' :: c :: s) = none := by
    intro p
    simp [stripPrefix]
  have hspecial : lookupText legacySpecialTable ('\x1b' :: ']' :: c :: s) = none :=
    lookupText_none (i := 1) (c := ']') (by decide) rfl
  have hkey : lookupText legacyKeyTable ('\x1b' :: ']' :: c :: s) = none :=
    lookupText_none (i := 1) (c := ']') (by decide) rfl
  have hlegacy : parseLegacyKeySequence ('\x1b' :: ']' :: c :: s) = none := by
    simp [parseLegacyKeySequence, parseLegacySpecialSequence, parseXtermModifiedSpecialSequence,
      hspecial, hkey, hprefix]
  simp [parseTerminalKeySequence, parseKittyKeySequence, parseModifyOtherKeysSequence, hprefix,
    hlegacy]

lemma parseTerminalKeySequence_single (c : Char) : ∃ key, parseTerminalKeySequence [c] = some key := by
  have hprefix : ∀ p : List Char, stripPrefix ('\x1b' :: '[' :: p) [c] = none := by
    intro p
    simp [stripPrefix]
  have hlegacy : ∃ key, parseLegacyKeySequence [c] = some key := by
    unfold parseLegacyKeySequence
    cases parseLegacySpecialSequence [c] with
    | some key => exact ⟨key, rfl⟩
    | none =>
      cases hk : lookupText legacyKeyTable [c] with
      | some key => exact ⟨key, rfl⟩
      | none =>
        have hne : c ≠ '\x1b' := by
          rintro rfl
          revert hk
          decide
        simp only
        cases parseLegacyCtrlChar c <;> exact ⟨_, rfl⟩
  obtain ⟨key, hkey⟩ := hlegacy
  refine ⟨key, ?_⟩
  simp [parseTerminalKeySequence, parseKittyKeySequence, parseModifyOtherKeysSequence, hprefix, hkey]

end Parsing

/-! ### Extraction from a reply -/

section Extraction
variable (rest : List UInt8)

lemma completeEscapeSequenceLen_osc :
    completeEscapeSequenceLen (esc :: 0x5d :: rest) = oscStringTerminator (esc :: 0x5d :: rest) := by
  have hmouse : escapedMouseLen (esc :: 0x5d :: rest) = none := by
    simp [escapedMouseLen, startsWith, asciiBytes, esc]
  rw [completeEscapeSequenceLen_cons, hmouse]
  simp only [Option.getD_none, singleEscapeLen, controlString, controlStringFamily]
  simp only [esc, startsWith, asciiBytes]
  cases h : oscStringTerminator (0x1b :: 0x5d :: rest) <;>
    simp [controlStringTerminatorForFamily, h]

lemma extractOneEvent_osc :
    extractOneEvent (esc :: 0x5d :: rest) = extractEscape (esc :: 0x5d :: rest) := by
  simp [extractOneEvent, startsWith, bracketedPasteStart, asciiBytes, esc]

lemma extractOneEvent_osc_none (h : oscStringTerminator (esc :: 0x5d :: rest) = none) :
    extractOneEvent (esc :: 0x5d :: rest) = .ok none := by
  rw [extractOneEvent_osc, extractEscape, completeEscapeSequenceLen_osc, h]

/-- A whole control string is read as a colour or as unsupported, never as a key. -/
lemma escapeEvent_osc {bytes : List UInt8} {c : Char} {s : List Char} {event : RawInputEvent}
    (hbytes : bytes[1]? = some 0x5d)
    (h : escapeEvent bytes ('\x1b' :: ']' :: c :: s) = .ok event) : ∀ key, event ≠ .key key := by
  have hreport : parseHostColorSchemeReport bytes = none := by
    have hdark : ghosttyColorSchemeDarkReport[1]? ≠ some 0x5d := by decide
    have hlight : ghosttyColorSchemeLightReport[1]? ≠ some 0x5d := by decide
    unfold parseHostColorSchemeReport
    rw [if_neg, if_neg]
    · rintro rfl
      exact hlight hbytes
    · rintro rfl
      exact hdark hbytes
  have hmouse : parseSgrMouse ('\x1b' :: ']' :: c :: s) = none := by
    simp [parseSgrMouse, stripPrefix]
  have hfocus : ∀ d : Char, '\x1b' :: ']' :: c :: s ≠ ['\x1b', '[', d] := by
    intro d he
    simp at he
  have hgained : '\x1b' :: ']' :: c :: s ≠ "\x1b[I".toList := hfocus 'I'
  have hlost : '\x1b' :: ']' :: c :: s ≠ "\x1b[O".toList := hfocus 'O'
  unfold escapeEvent at h
  cases hd : parseDefaultColorResponse ('\x1b' :: ']' :: c :: s) with
  | error e =>
    rw [hd] at h
    cases h
  | ok r =>
    simp only [hd, bind, Except.bind, hreport, hmouse, parseTerminalKeySequence_osc, hgained, hlost,
      if_false] at h
    cases r with
    | some p =>
      cases h
      intro key he
      cases he
    | none =>
      cases h
      intro key he
      cases he

end Extraction

end Ork3.Input
