import Ork3.Proofs.ColorReply

/-!
# Which cuts of a colour reply leak keys

The framer is followed through the fragments of a reply: it waits with the bytes in its buffer, or
discards them after a flush at offset 2, 3 or 4, or has given the discarding up and reads the rest of
the reply as keys.
-/

namespace Ork3.Input
open Ork3.Library

/-! ### What the framer delivers -/

/-- The bytes pushed so far, the chunk and the event, for every event delivered when each fragment
is pushed and followed by an idle flush. A panic ends the deliveries. -/
def RawInputFramer.deliveries (f : RawInputFramer) (pushed : List UInt8) :
    List (List UInt8) → List (List UInt8 × List UInt8 × RawInputEvent)
  | [] => []
  | fragment :: fragments =>
    match f.push fragment with
    | .error _ => []
    | .ok (f, read) =>
      match f.flushTimeout with
      | .error _ => read.map (pushed ++ fragment, ·)
      | .ok (f, flushed) =>
        (read ++ flushed).map (pushed ++ fragment, ·) ++ f.deliveries (pushed ++ fragment) fragments

/-- No key is delivered once a byte after the leading ESC has been pushed. -/
def RawInputFramer.NoKeyAfterEscape (f : RawInputFramer) (pushed : List UInt8)
    (fragments : List (List UInt8)) : Prop :=
  ∀ d ∈ f.deliveries pushed fragments, ∀ key, d.2.2 = .key key → d.1.length ≤ 1

namespace RawInputByteFramer

lemma drain_exit {f f' : RawInputByteFramer} (h : f.turn = .ok (.exit f')) :
    f.drainAvailableChunks = .ok (f', []) := by
  rw [drainAvailableChunks, fuelFor, drainLoop, h]
  rfl

lemma drain_again {f f' f'' : RawInputByteFramer} (h : f.turn = .ok (.again f'))
    (h' : f'.turn = .ok (.exit f'')) : f.drainAvailableChunks = .ok (f'', []) := by
  simp only [drainAvailableChunks, fuelFor, drainLoop, h, bind, Except.bind, h']
  rfl

lemma drain_chunk {f f' f'' : RawInputByteFramer} {bytes : List UInt8}
    (h : f.turn = .ok (.chunk f' bytes)) (h' : f'.turn = .ok (.exit f'')) :
    f.drainAvailableChunks = .ok (f'', [bytes]) := by
  simp only [drainAvailableChunks, fuelFor, drainLoop, h, bind, Except.bind, h']
  rfl

lemma turn_exit_of_none {f : RawInputByteFramer} (hf : f.Steady)
    (h : extractOneEvent f.buffer = .ok none) : f.turn = .ok (.exit f) := by
  simp only [turn, plainTurn, hf.no_escape, hf.no_discard, extractTurn, h]
  rfl

lemma turn_empty {f : RawInputByteFramer} (hf : f.Steady) (h : f.buffer = []) :
    f.turn = .ok (.exit f) :=
  turn_exit_of_none hf (by rw [h]; rfl)

lemma flush_empty {f : RawInputByteFramer} (hf : f.Steady) (h : f.buffer = []) :
    f.flushTimeout = .ok (f, []) := by
  simp only [flushTimeout, drain_exit (turn_empty hf h), bind, Except.bind, hf.no_discard,
    flushPending, h]
  rfl

end RawInputByteFramer

lemma RawInputFramer.deliveries_silent {b b' b'' : RawInputByteFramer} {fragment : List UInt8}
    (hpush : b.push fragment = .ok (b', [])) (hflush : b'.flushTimeout = .ok (b'', []))
    (pushed : List UInt8) (fragments : List (List UInt8)) :
    (RawInputFramer.mk b).deliveries pushed (fragment :: fragments) =
      (RawInputFramer.mk b'').deliveries (pushed ++ fragment) fragments := by
  simp only [RawInputFramer.deliveries, RawInputFramer.push, hpush, RawInputFramer.flushTimeout,
    hflush, bind, Except.bind, RawInputFramer.eventsFromChunks, pure, Except.pure, List.append_nil,
    List.map_nil, List.nil_append]

/-! ### Prefixes of a reply -/

namespace ColorReply
variable (reply : ColorReply)

lemma bytes_eq : ∃ tail, reply.bytes =
    esc :: 0x5d :: 0x31 :: (if reply.background then 0x31 else 0x30) :: 0x3b :: tail := by
  have hlit : asciiBytes ";rgb:" = [0x3b, 0x72, 0x67, 0x62, 0x3a] := by decide
  simp only [bytes, front, payload, hlit, List.cons_append, List.nil_append, List.cons.injEq,
    true_and, exists_eq']

lemma bytes_length :
    reply.bytes.length = reply.payload.length + 3 + if reply.stTerminated then 1 else 0 := by
  simp only [bytes, front, List.length_append, List.length_cons, List.length_nil]
  split_ifs <;> simp only [List.length_cons, List.length_nil]

lemma seven_le_payload_length : 7 ≤ reply.payload.length := by
  have hlit : (asciiBytes ";rgb:").length = 5 := by decide
  simp only [payload, List.length_append, List.length_cons, hlit]
  omega

lemma take_subset_front {q : Nat} (hq : q < reply.bytes.length) :
    reply.bytes.take q ⊆ reply.front := by
  have hlen : q ≤ reply.front.length := by
    rw [bytes, List.length_append, List.length_singleton] at hq
    omega
  rw [bytes, List.take_append_of_le_length hlen]
  exact List.take_subset q _

lemma osc_none_of_take {q : Nat} (hq : q < reply.bytes.length) (a : Nat) :
    oscStringTerminator ((reply.bytes.take q).drop a) = none :=
  reply.osc_none_of_subset (List.Subset.trans (List.drop_subset a _) (reply.take_subset_front hq))

/-- A longer prefix of a reply than its ESC starts with `ESC ]`. -/
lemma take_eq_osc {q : Nat} (hq : 2 ≤ q) : ∃ rest, reply.bytes.take q = esc :: 0x5d :: rest := by
  obtain ⟨tail, htail⟩ := reply.bytes_eq
  obtain ⟨k, rfl⟩ := Nat.exists_eq_add_of_le' hq
  exact ⟨_, by rw [htail]; rfl⟩

lemma take_one : reply.bytes.take 1 = [esc] := by
  obtain ⟨tail, htail⟩ := reply.bytes_eq
  rw [htail]
  rfl

lemma take_head {q : Nat} (hq : 0 < q) : ∃ rest, reply.bytes.take q = esc :: rest := by
  obtain ⟨tail, htail⟩ := reply.bytes_eq
  obtain ⟨k, rfl⟩ := Nat.exists_eq_add_of_le' hq
  exact ⟨_, by rw [htail]; rfl⟩

/-- No proper prefix of a reply is an event. -/
lemma extract_take {q : Nat} (hq : q < reply.bytes.length) :
    extractOneEvent (reply.bytes.take q) = .ok none := by
  match q with
  | 0 => rfl
  | 1 =>
    rw [reply.take_one]
    rfl
  | q + 2 =>
    have hnone := reply.osc_none_of_take hq 0
    obtain ⟨rest, hrest⟩ := reply.take_eq_osc (q := q + 2) (by omega)
    rw [List.drop_zero, hrest] at hnone
    rw [hrest]
    exact extractOneEvent_osc_none rest hnone

/-- The whole reply is one event, and not a key. -/
lemma extract_bytes : ∃ event, extractOneEvent reply.bytes = .ok (some (event, reply.bytes.length)) ∧
    ∀ key, event ≠ .key key := by
  obtain ⟨tail, htail⟩ := reply.bytes_eq
  have hbytes : ∀ b ∈ reply.bytes, ReplyByte b := fun b hb => reply.reply_byte hb
  have htext := utf8Text_ascii fun b hb => (hbytes b hb).ascii
  obtain ⟨event, he⟩ := escapeEvent_ok reply.bytes (char_ne_hash hbytes)
  have hlen : completeEscapeSequenceLen reply.bytes = some reply.bytes.length := by
    have hsome := reply.osc_some_of_drop (Nat.zero_le _)
    rw [List.drop_zero, Nat.sub_zero] at hsome
    rw [← hsome, htail]
    exact completeEscapeSequenceLen_osc _
  have hextract : extractOneEvent reply.bytes = extractEscape reply.bytes := by
    rw [htail]
    exact extractOneEvent_osc _
  refine ⟨event, ?_, ?_⟩
  · rw [hextract, extractEscape, hlen]
    simp only [List.take_length, htext, he, Except.map]
  · rw [htail] at he
    exact escapeEvent_osc rfl he

end ColorReply

/-! ### Waiting -/

namespace RawInputByteFramer

/-- Behind an ESC, the check for an orphaned mouse tail only clears its flag. -/
lemma turn_reply (g : RawInputByteFramer) (hno : g.discardUntil = none)
    {rest : List UInt8} (hbuf : g.buffer = esc :: rest) (hb : ∀ b ∈ g.buffer, ReplyByte b) :
    g.turn = extractTurn { g with loneEscapeRecentlyFlushed := false } := by
  cases hl : g.loneEscapeRecentlyFlushed with
  | false =>
    have hg : { g with loneEscapeRecentlyFlushed := false } = g := by
      rw [← hl]
    rw [hg]
    simp only [turn, hl, plainTurn, hno, Bool.false_eq_true, if_false]
  | true =>
    have hincomplete : startsWithIncompleteOrphanedSgrMouseTail g.buffer = false := by
      rw [hbuf]
      simp [startsWithIncompleteOrphanedSgrMouseTail, startsWith, asciiBytes, esc, List.isPrefixOf]
    have hfind : g.buffer.findIdx? isMouseFinal = none := by
      rw [List.findIdx?_eq_none_iff]
      exact fun b hm => (hb b hm).not_mouse
    have hcomplete : discardCompleteOrphanedSgrMouseTail g.buffer = none := by
      simp [discardCompleteOrphanedSgrMouseTail, controlStringTerminatorForFamily, hfind]
    simp only [turn, hl, hincomplete, hcomplete, plainTurn, hno, if_true, Bool.false_eq_true, if_false]

/-- The framer holds the first `p` bytes of the reply and nothing else is going on. -/
structure Waiting (reply : ColorReply) (p : Nat) (f : RawInputByteFramer) : Prop where
  buffer : f.buffer = reply.bytes.take p
  no_discard : f.discardUntil = none
  no_escape : 0 < p → f.loneEscapeRecentlyFlushed = false
  awaited : p = 0 → 0 < f.hostColorRepliesAwaited ∧ f.heldPendingColorEsc = false

/-- The bytes of the reply from `c` to `p` were thrown away and the terminator is awaited. A
terminator split behind its ESC keeps that ESC in the buffer. -/
structure Discarding (reply : ColorReply) (c p : Nat) (f : RawInputByteFramer) : Prop where
  buffer : ∃ a ≤ reply.payload.length + 2, f.buffer = (reply.bytes.take p).drop a ∧
    (p ≤ reply.payload.length + 2 → a = p)
  discarding : f.discardUntil = some .osc
  no_escape : f.loneEscapeRecentlyFlushed = false
  count : f.discardedTailBytes = p - c
  start : 2 ≤ c ∧ c ≤ p

section Waiting
variable {reply : ColorReply} {p q : Nat} {f : RawInputByteFramer} {fragment : List UInt8}

lemma take_reply_byte : ∀ b ∈ reply.bytes.take q, ReplyByte b :=
  fun _ hb => reply.reply_byte (List.take_subset q _ hb)

lemma Waiting.push (h : Waiting reply p f) (hq : reply.bytes.take p ++ fragment = reply.bytes.take q)
    (hpos : 0 < q) (hlt : q < reply.bytes.length) :
    f.push fragment =
      .ok ({ f with buffer := reply.bytes.take q, loneEscapeRecentlyFlushed := false }, []) := by
  obtain ⟨rest, hrest⟩ := reply.take_head hpos
  rw [RawInputByteFramer.push, h.buffer, hq]
  refine drain_exit ?_
  rw [turn_reply { f with buffer := reply.bytes.take q } h.no_discard hrest take_reply_byte]
  simp only [extractTurn, reply.extract_take hlt, Except.map]

/-- The last fragment completes the reply, which is read as one event. -/
lemma Waiting.push_last (h : Waiting reply p f) (hq : reply.bytes.take p ++ fragment = reply.bytes) :
    ∃ f', f.push fragment = .ok (f', [reply.bytes]) ∧ f'.Steady ∧ f'.buffer = [] := by
  obtain ⟨event, hextract, -⟩ := reply.extract_bytes
  obtain ⟨tail, htail⟩ := reply.bytes_eq
  let g : RawInputByteFramer := { f with buffer := reply.bytes, loneEscapeRecentlyFlushed := false }
  let g' : RawInputByteFramer := { g.noteEvent event with
    heldPendingColorEsc := false, buffer := reply.bytes.drop reply.bytes.length }
  have hg : g.Steady := ⟨rfl, h.no_discard⟩
  have hg' : g'.Steady := ⟨(hg.noteEvent event).1, (hg.noteEvent event).2⟩
  have hempty : g'.buffer = [] := List.drop_length
  refine ⟨g', ?_, hg', hempty⟩
  rw [RawInputByteFramer.push, h.buffer, hq]
  have hturn : turn { f with buffer := reply.bytes } = .ok (.chunk g' reply.bytes) := by
    rw [turn_reply { f with buffer := reply.bytes } h.no_discard htail fun b hb => reply.reply_byte hb]
    simp only [extractTurn, hextract, Except.map, List.take_length]
    rfl
  exact drain_chunk hturn (turn_empty hg' hempty)

lemma flushPending_osc {rest : List UInt8} (hbuf : f.buffer = esc :: 0x5d :: rest)
    (hno : f.loneEscapeRecentlyFlushed = false) (hosc : oscStringTerminator f.buffer = none) :
    f.flushPending =
      if startsWith (asciiBytes "\x1b]10;") f.buffer || startsWith (asciiBytes "\x1b]11;") f.buffer then
        (f, [])
      else ({ f with discardUntil := some .osc, discardedTailBytes := 0, buffer := [] }, []) := by
  have hcontrol : controlString f.buffer = some (.incomplete .osc) := by
    rw [hbuf] at hosc ⊢
    simp only [controlString, controlStringTerminatorForFamily, controlStringFamily, Option.map]
    simp [hosc]
  have hempty : f.buffer.isEmpty = false := by rw [hbuf]; rfl
  have hsgr : startsWithIncompleteSgrMouseSequence f.buffer = false := by
    rw [hbuf]
    simp [startsWithIncompleteSgrMouseSequence, startsWith, asciiBytes, esc]
  have hpaste : startsWith bracketedPasteStart f.buffer = false := by
    rw [hbuf]
    have hlit : bracketedPasteStart = [esc, 0x5b, 0x32, 0x30, 0x30, 0x7e] := by decide
    simp [startsWith, hlit, List.isPrefixOf]
  have hscheme : startsWithIncompleteHostColorSchemeReport f.buffer = false := by
    rw [hbuf]
    simp [startsWithIncompleteHostColorSchemeReport, startsWith, asciiBytes, esc]
  simp only [flushPending, hempty, hno, hsgr, hpaste, hscheme, hcontrol,
    startsWithIncompleteDefaultColorResponse, Bool.false_eq_true, false_and, if_false, decide_true,
    Bool.true_and]

lemma startsWith_default_color (hq : 5 ≤ q) :
    (startsWith (asciiBytes "\x1b]10;") (reply.bytes.take q) ||
      startsWith (asciiBytes "\x1b]11;") (reply.bytes.take q)) = true := by
  obtain ⟨tail, htail⟩ := reply.bytes_eq
  obtain ⟨k, rfl⟩ := Nat.exists_eq_add_of_le' hq
  rw [htail]
  cases reply.background <;> simp [startsWith, asciiBytes, esc]

lemma not_startsWith_of_short {pre buf : List UInt8} (h : buf.length < pre.length) :
    startsWith pre buf = false := by
  rw [Bool.eq_false_iff]
  intro hp
  have hle := (List.isPrefixOf_iff_prefix.mp hp).length_le
  omega

/-- The flush that follows a fragment: a lone ESC is held, two to four bytes are discarded, and five
or more wait for their terminator. -/
lemma Waiting.flush (h : Waiting reply p f) (hpq : p < q) (hlt : q < reply.bytes.length) :
    ∃ f', flushTimeout { f with buffer := reply.bytes.take q, loneEscapeRecentlyFlushed := false } =
        .ok (f', []) ∧
      ((2 ≤ q ∧ q ≤ 4 ∧ Discarding reply q q f') ∨ (¬(2 ≤ q ∧ q ≤ 4) ∧ Waiting reply q f')) := by
  let g : RawInputByteFramer :=
    { f with buffer := reply.bytes.take q, loneEscapeRecentlyFlushed := false }
  have hg : g.Steady := ⟨rfl, h.no_discard⟩
  have hflush : g.flushTimeout = .ok g.flushPending := by
    simp only [flushTimeout, drain_exit (turn_exit_of_none hg (reply.extract_take hlt)), bind,
      Except.bind, hg.no_discard, List.nil_append]
    rfl
  by_cases hone : q = 1
  · subst hone
    obtain ⟨hawait, hheld⟩ := h.awaited (by omega)
    have hbuf : g.buffer = [esc] := reply.take_one
    have hpending : g.flushPending = ({ g with heldPendingColorEsc := true }, []) := by
      have hnone : controlString [esc] = none := rfl
      have hcond : 0 < g.hostColorRepliesAwaited ∧ (!g.heldPendingColorEsc) = true :=
        ⟨hawait, by simp [g, hheld]⟩
      unfold flushPending
      rw [hbuf, hnone]
      simp only [flushLoneEscape, gt_iff_lt, if_pos hcond]
      rfl
    refine ⟨{ g with heldPendingColorEsc := true }, by rw [hflush, hpending], .inr ⟨by omega, ?_⟩⟩
    exact ⟨rfl, h.no_discard, fun _ => rfl, fun h0 => by cases h0⟩
  · obtain ⟨rest, hrest⟩ := reply.take_eq_osc (q := q) (by omega)
    have hosc : oscStringTerminator g.buffer = none := by
      have hnone := reply.osc_none_of_take hlt 0
      rwa [List.drop_zero] at hnone
    have hpending := flushPending_osc (f := g) hrest rfl hosc
    by_cases hfive : 5 ≤ q
    · rw [startsWith_default_color hfive, if_pos rfl] at hpending
      refine ⟨g, by rw [hflush, hpending], .inr ⟨by omega, ?_⟩⟩
      exact ⟨rfl, h.no_discard, fun _ => rfl, fun h0 => by omega⟩
    · have hshort : (reply.bytes.take q).length < 5 := by
        rw [List.length_take]
        omega
      have h10 : startsWith (asciiBytes "\x1b]10;") g.buffer = false := not_startsWith_of_short hshort
      have h11 : startsWith (asciiBytes "\x1b]11;") g.buffer = false := not_startsWith_of_short hshort
      rw [h10, h11, Bool.or_self, if_neg (by decide)] at hpending
      refine ⟨_, by rw [hflush, hpending], .inl ⟨by omega, by omega, ?_⟩⟩
      have hpay := reply.seven_le_payload_length
      exact ⟨⟨q, by omega, by simp only [List.drop_take_self], fun _ => rfl⟩, rfl, rfl,
        (Nat.sub_self q).symm, by omega, Nat.le_refl q⟩

end Waiting

/-! ### Discarding -/

lemma discard_exit {f : RawInputByteFramer} (hno : f.loneEscapeRecentlyFlushed = false)
    (hdisc : f.discardUntil = some .osc) (hosc : oscStringTerminator f.buffer = none) :
    f.turn = .ok (.exit f) := by
  simp only [turn, hno, plainTurn, hdisc, discardTurn, controlStringTerminatorForFamily, hosc,
    Bool.false_eq_true, if_false, reduceCtorEq]

section Discarding
variable {reply : ColorReply} {c p q : Nat} {f : RawInputByteFramer} {fragment : List UInt8}

/-- Before the terminator the discarding leaves nothing in the buffer between two fragments. -/
lemma Discarding.push (h : Discarding reply c p f)
    (hq : reply.bytes.take p ++ fragment = reply.bytes.take q) (hpq : p < q)
    (hlt : q < reply.bytes.length) :
    f.push fragment = .ok ({ f with buffer := (reply.bytes.take q).drop p }, []) := by
  obtain ⟨a, -, hbuf, ha⟩ := h.buffer
  have hlen := reply.bytes_length
  have hp : p ≤ reply.payload.length + 2 := by split_ifs at hlen <;> omega
  have hplen : (reply.bytes.take p).length = p := by
    rw [List.length_take]
    omega
  have hfrag : f.buffer ++ fragment = (reply.bytes.take q).drop p := by
    rw [hbuf, ha hp, List.drop_take_self, List.nil_append, ← hq, List.drop_append_of_le_length
      (by omega), List.drop_of_length_le (by omega), List.nil_append]
  rw [RawInputByteFramer.push, hfrag]
  exact drain_exit (discard_exit h.no_escape h.discarding (reply.osc_none_of_take hlt p))

lemma Discarding.push_last (h : Discarding reply c p f)
    (hq : reply.bytes.take p ++ fragment = reply.bytes) (hp : p ≤ reply.bytes.length) :
    ∃ f', f.push fragment = .ok (f', []) ∧ f'.Steady ∧ f'.buffer = [] := by
  obtain ⟨a, ha, hbuf, hap⟩ := h.buffer
  have hle : a ≤ p := by
    by_cases hpay : p ≤ reply.payload.length + 2
    · exact (hap hpay).le
    · omega
  have hrest : f.buffer ++ fragment = reply.bytes.drop a := by
    rw [hbuf, ← List.drop_append_of_le_length (by rw [List.length_take]; omega), hq]
  have hosc := reply.osc_some_of_drop ha
  let g : RawInputByteFramer := { f with
    buffer := []
    discardUntil := none
    discardedTailBytes := 0
    loneEscapeRecentlyFlushed := false }
  have hg : g.Steady := ⟨rfl, rfl⟩
  have hturn : turn { f with buffer := reply.bytes.drop a } = .ok (.again g) := by
    simp only [turn, h.no_escape, plainTurn, h.discarding, discardTurn,
      controlStringTerminatorForFamily, hosc, Bool.false_eq_true, if_false, reduceCtorEq]
    rw [List.drop_of_length_le (by rw [List.length_drop])]
  refine ⟨g, ?_, hg, rfl⟩
  rw [RawInputByteFramer.push, hrest]
  exact drain_again hturn (turn_empty hg rfl)

lemma last_of_take (hp : p < q) (hq : q ≤ reply.bytes.length) :
    ((reply.bytes.take q).drop p).getLast? = reply.bytes[q - 1]? := by
  rw [List.getLast?_eq_getElem?, List.length_drop, List.length_take, List.getElem?_drop,
    List.getElem?_take, if_pos (by omega)]
  congr 1
  omega

lemma payload_byte_at {i : Nat} (hi : 2 ≤ i) (hlt : i < reply.payload.length + 2) :
    reply.bytes[i]? ≠ some esc := by
  obtain ⟨k, rfl⟩ := Nat.exists_eq_add_of_le' hi
  have hk : k < reply.payload.length := by omega
  have hget : reply.bytes[k + 2]? = some reply.payload[k] := by
    simp only [ColorReply.bytes, ColorReply.front, List.cons_append, List.getElem?_cons_succ,
      List.append_assoc, List.getElem?_append_left hk, List.getElem?_eq_getElem hk]
  rw [hget, Ne, Option.some.injEq]
  exact (reply.payload_byte (List.getElem_mem hk)).not_esc

/-- The flush after a discarded fragment goes on while the bytes stay plausible and few. -/
lemma Discarding.flush (h : Discarding reply c p f) (hpq : p < q) (hlt : q < reply.bytes.length) :
    ∃ f', flushTimeout { f with buffer := (reply.bytes.take q).drop p } = .ok (f', []) ∧
      if plausibleControlStringTail ((reply.bytes.take q).drop p) .osc = true ∧
          q - c ≤ maxDiscardedControlTailBytes then Discarding reply c q f'
      else f'.Steady ∧ f'.buffer = [] := by
  let g : RawInputByteFramer := { f with buffer := (reply.bytes.take q).drop p }
  have hflush : g.flushTimeout = .ok (g.flushDiscarding .osc, []) := by
    have hexit := discard_exit (f := g) h.no_escape h.discarding (reply.osc_none_of_take hlt p)
    have hdisc : g.discardUntil = some .osc := h.discarding
    simp only [flushTimeout, drain_exit hexit, bind, Except.bind, hdisc]
    rfl
  refine ⟨g.flushDiscarding .osc, hflush, ?_⟩
  have hlen := reply.bytes_length
  have hcount : g.discardedTailBytes + g.buffer.length = q - c := by
    have hc := h.count
    have hstart := h.start
    simp only [g, List.length_drop, List.length_take]
    omega
  split_ifs with hcond
  · have hkeep : g.flushDiscarding .osc =
        { g with buffer := if g.buffer.getLast? = some esc then [esc] else []
                 discardedTailBytes := q - c } := by
      have hcond' : plausibleControlStringTail g.buffer .osc = true ∧
          g.discardedTailBytes + g.buffer.length ≤ maxDiscardedControlTailBytes := by
        rw [hcount]
        exact hcond
      simp only [flushDiscarding, reduceCtorEq, if_false]
      rw [if_pos hcond', hcount]
    have hstart := h.start
    rw [hkeep]
    refine ⟨?_, h.discarding, h.no_escape, rfl, by omega, by omega⟩
    have hlast : g.buffer.getLast? = reply.bytes[q - 1]? := last_of_take hpq hlt.le
    by_cases hpay : q ≤ reply.payload.length + 2
    · refine ⟨q, hpay, ?_, fun _ => rfl⟩
      have hne := @payload_byte_at reply (q - 1) (by omega) (by omega)
      simp only [hlast, if_neg hne, List.drop_take_self]
    · refine ⟨reply.payload.length + 2, Nat.le_refl _, ?_, fun hq => absurd hq hpay⟩
      have hst : reply.stTerminated = true := by
        by_contra hno
        rw [if_neg hno] at hlen
        omega
      rw [if_pos hst] at hlen
      have hq : q = reply.payload.length + 3 := by omega
      have htake : reply.bytes.take q = (esc :: 0x5d :: reply.payload) ++ [esc] := by
        rw [← reply.front_eq_esc hst, ColorReply.bytes, List.take_append_of_le_length]
        · exact List.take_of_length_le (by rw [reply.front_eq_esc hst]; simp [hq])
        · rw [reply.front_eq_esc hst]
          simp [hq]
      have hesc : g.buffer.getLast? = some esc := by
        have hlong : p - (esc :: 0x5d :: reply.payload).length = 0 := by
          simp only [List.length_cons]
          omega
        simp only [g, htake, List.drop_append, hlong, List.drop_zero, List.getLast?_append,
          List.getLast?_singleton, Option.some_or]
      simp only [hesc, if_true, htake, List.drop_append]
      simp
  · have hstop : g.flushDiscarding .osc =
        { g with buffer := [], discardUntil := none, discardedTailBytes := 0 } := by
      have hcond' : ¬(plausibleControlStringTail g.buffer .osc = true ∧
          g.discardedTailBytes + g.buffer.length ≤ maxDiscardedControlTailBytes) := by
        rw [hcount]
        exact hcond
      simp only [flushDiscarding, reduceCtorEq, if_false]
      rw [if_neg hcond']
    rw [hstop]
    exact ⟨⟨h.no_escape, rfl⟩, rfl⟩

end Discarding

/-! ### Leaking -/

lemma extractOneEvent_char {x : UInt8} (hascii : x < 0x80) (hne : x ≠ esc) (xs : List UInt8) :
    ∃ key, extractOneEvent (x :: xs) = .ok (some (.key key, 1)) := by
  obtain ⟨key, hkey⟩ := parseTerminalKeySequence_single (Char.ofNat x.toNat)
  have htext : utf8Text [x] = some [Char.ofNat x.toNat] :=
    utf8Text_ascii (by simpa using hascii)
  have hlen : firstCompleteUtf8CharLen (x :: xs) = some 1 := by
    simp [firstCompleteUtf8CharLen, utf8CharWidth, if_pos hascii, completeCharLen, htext]
  have hpaste : startsWith bracketedPasteStart (x :: xs) = false := by
    have hlit : bracketedPasteStart = [esc, 0x5b, 0x32, 0x30, 0x30, 0x7e] := by decide
    simp [startsWith, hlit, List.isPrefixOf, hne.symm]
  refine ⟨key, ?_⟩
  simp [extractOneEvent, hpaste, hne, extractChar, hlen, htext, hkey]

lemma eventsFromChunks_ok {chunks : List (List UInt8)}
    (h : ∀ chunk ∈ chunks, ∀ b ∈ chunk, ReplyByte b) :
    ∃ events, RawInputFramer.eventsFromChunks chunks = .ok events := by
  induction chunks with
  | nil => exact ⟨[], rfl⟩
  | cons chunk chunks ih =>
    obtain ⟨events, hevents⟩ := ih fun c hc => h c (List.mem_cons_of_mem _ hc)
    obtain ⟨event, hevent⟩ : ∃ event, RawInputFramer.eventFromChunk chunk = .ok event := by
      unfold RawInputFramer.eventFromChunk
      split_ifs
      · exact ⟨_, rfl⟩
      · obtain ⟨r, hr⟩ := extractOneEvent_ok _ (h chunk List.mem_cons_self)
        exact ⟨_, by rw [hr]; rfl⟩
    simp only [RawInputFramer.eventsFromChunks, hevent, hevents, bind, Except.bind]
    cases event <;> exact ⟨_, rfl⟩

/-- A chunk read as a key at the head of what a push returns is delivered. -/
lemma key_delivered {f f' : RawInputByteFramer} {fragment chunk : List UInt8}
    {chunks : List (List UInt8)} {key : TerminalKey}
    (hpush : f.push fragment = .ok (f', chunk :: chunks))
    (hkey : RawInputFramer.eventFromChunk chunk = .ok (some (.key key)))
    (hok : ∀ c ∈ chunks, ∀ b ∈ c, ReplyByte b) (pushed : List UInt8)
    (fragments : List (List UInt8)) (hlong : 1 < (pushed ++ fragment).length) :
    ¬(RawInputFramer.mk f).NoKeyAfterEscape pushed (fragment :: fragments) := by
  obtain ⟨events, hevents⟩ := eventsFromChunks_ok hok
  have hread : (RawInputFramer.mk f).push fragment = .ok (⟨f'⟩, (chunk, .key key) :: events) := by
    simp only [RawInputFramer.push, hpush, bind, Except.bind, RawInputFramer.eventsFromChunks, hkey,
      hevents, pure, Except.pure]
  intro hno
  have hmem : (pushed ++ fragment, chunk, .key key) ∈
      (RawInputFramer.mk f).deliveries pushed (fragment :: fragments) := by
    simp only [RawInputFramer.deliveries, hread]
    cases RawInputFramer.flushTimeout ⟨f'⟩ with
    | error e => simp
    | ok r => simp
  have hle := hno _ hmem key rfl
  simp only at hle
  omega

section Leaking
variable {reply : ColorReply} {q : Nat} {f : RawInputByteFramer}

/-- An ESC behind the first two bytes begins the terminator. -/
lemma drop_of_esc (rest : List UInt8) (hq : 2 ≤ q) (h : reply.bytes.drop q = esc :: rest) :
    reply.bytes.drop q = [esc, 0x5c] := by
  have hget : reply.bytes[q]? = some esc := by
    rw [← List.head?_drop, h]
    rfl
  have hpay : reply.payload.length + 2 ≤ q := by
    by_contra hlt
    exact payload_byte_at hq (by omega) hget
  obtain ⟨k, rfl⟩ := Nat.exists_eq_add_of_le hpay
  have hlen : (esc :: 0x5d :: reply.payload).length = reply.payload.length + 2 := rfl
  cases hst : reply.stTerminated with
  | false =>
    have hbytes : reply.bytes = (esc :: 0x5d :: reply.payload) ++ [0x07] := by
      simp [ColorReply.bytes, ColorReply.front, ColorReply.lastByte, hst]
    rw [hbytes, List.getElem?_append_right (by omega), hlen, Nat.add_sub_cancel_left] at hget
    rcases k with _ | k
    · simp [esc] at hget
    · simp at hget
  | true =>
    have hbytes : reply.bytes = (esc :: 0x5d :: reply.payload) ++ [esc, 0x5c] := by
      simp [ColorReply.bytes, ColorReply.front, ColorReply.lastByte, hst]
    rw [hbytes, List.getElem?_append_right (by omega), hlen, Nat.add_sub_cancel_left] at hget
    rcases k with _ | _ | k
    · rw [hbytes]
      exact List.drop_left
    · simp [esc] at hget
    · simp at hget

lemma push_of_drainAll (hf : f.Steady) (data : List UInt8) {rest : List UInt8}
    {chunks : List (List UInt8)}
    (h : drainAll extractLen (f.buffer ++ data) = .ok (chunks, rest)) :
    ∃ f', f.push data = .ok (f', chunks) ∧ f'.Steady ∧ f'.buffer = rest := by
  obtain ⟨hm, hs⟩ := push_steady hf data
  rw [h] at hm
  cases hp : f.push data with
  | error e => simp [hp, Except.map] at hm
  | ok r =>
    simp only [hp, Except.map, chunksAndRest, Except.ok.injEq, Prod.mk.injEq] at hm
    exact ⟨r.1, by rw [← hm.1], hs r hp, hm.2⟩

lemma drainAll_st : drainAll extractLen [esc, 0x5c] = .ok ([[esc, 0x5c]], []) := by
  rfl

lemma drainAll_esc : drainAll extractLen [esc] = .ok ([], [esc]) := by
  rfl

lemma eventFromChunk_st :
    ∃ key, RawInputFramer.eventFromChunk [esc, 0x5c] = .ok (some (.key key)) :=
  ⟨.new (.char '\\') .ALT, by rfl⟩

/-- Once the discarding is given up behind the first two bytes, some byte of the rest is a key. -/
theorem leak (hf : f.Steady) (hbuf : f.buffer = []) (hq : 2 ≤ q) (hlt : q < reply.bytes.length)
    {fragments : List (List UInt8)} (hflat : fragments.flatten = reply.bytes.drop q)
    (hne : ∀ fragment ∈ fragments, fragment ≠ []) :
    ¬(RawInputFramer.mk f).NoKeyAfterEscape (reply.bytes.take q) fragments := by
  have hlong : ∀ fragment : List UInt8, 1 < (reply.bytes.take q ++ fragment).length := by
    intro fragment
    rw [List.length_append, List.length_take]
    omega
  have hbytes : ∀ b ∈ fragments.flatten, ReplyByte b := fun b hb =>
    reply.reply_byte (List.drop_subset q _ (hflat ▸ hb))
  cases fragments with
  | nil =>
    have hlen := congrArg List.length hflat
    rw [List.flatten_nil, List.length_nil, List.length_drop] at hlen
    omega
  | cons fragment fragments =>
    cases fragment with
    | nil => exact absurd rfl (hne [] List.mem_cons_self)
    | cons x xs =>
      have hsub : ∀ b ∈ x :: xs, ReplyByte b := fun b hb => hbytes b (by
        rw [List.flatten_cons]
        exact List.mem_append_left _ hb)
      by_cases hx : x = esc
      · subst hx
        have hdrop := drop_of_esc (xs ++ fragments.flatten) hq (by rw [← hflat]; simp)
        rw [hdrop, List.flatten_cons, List.cons_append, List.cons.injEq] at hflat
        obtain ⟨keySt, hkeySt⟩ := eventFromChunk_st
        cases xs with
        | cons y ys =>
          have hys : ys = [] ∧ y = 0x5c := by
            simp only [List.cons_append, List.cons.injEq, List.append_eq_nil_iff, true_and] at hflat
            exact ⟨hflat.2.1, hflat.1⟩
          obtain ⟨rfl, rfl⟩ := hys
          obtain ⟨f', hpush, -, -⟩ := push_of_drainAll hf [esc, 0x5c] (by
            rw [hbuf]
            exact drainAll_st)
          exact key_delivered hpush hkeySt (fun c hc => by cases hc) _ fragments (hlong _)
        | nil =>
          obtain ⟨f₁, hpush, hf₁, hbuf₁⟩ := push_of_drainAll hf [esc] (by
            rw [hbuf]
            exact drainAll_esc)
          have hturn : f₁.turn = .ok (.exit f₁) := turn_exit_of_none hf₁ (by rw [hbuf₁]; rfl)
          have hflush : f₁.flushTimeout = .ok f₁.flushLoneEscape := by
            have hpending : f₁.flushPending = f₁.flushLoneEscape := by
              have hnone : controlString [esc] = none := rfl
              unfold flushPending
              rw [hbuf₁, hnone, hf₁.no_escape]
              rfl
            simp only [flushTimeout, drain_exit hturn, bind, Except.bind, hf₁.no_discard, hpending,
              List.nil_append]
            rfl
          by_cases hhold : f₁.hostColorRepliesAwaited > 0 ∧ (!f₁.heldPendingColorEsc) = true
          · rw [flushLoneEscape, if_pos hhold] at hflush
            rw [RawInputFramer.NoKeyAfterEscape, RawInputFramer.deliveries_silent hpush hflush]
            let f₂ : RawInputByteFramer := { f₁ with heldPendingColorEsc := true }
            have hf₂ : f₂.Steady := ⟨hf₁.1, hf₁.2⟩
            cases fragments with
            | nil => simp at hflat
            | cons fragment fragments =>
              cases fragment with
              | nil => exact absurd rfl (hne [] (by simp))
              | cons y ys =>
                have hys : ys = [] ∧ y = 0x5c := by
                  simp only [List.nil_append, List.flatten_cons, List.cons_append, List.cons.injEq,
                    List.append_eq_nil_iff, true_and] at hflat
                  exact ⟨hflat.2.1, hflat.1⟩
                obtain ⟨rfl, rfl⟩ := hys
                obtain ⟨f', hpush', -, -⟩ := push_of_drainAll hf₂ [0x5c] (by
                  change drainAll extractLen (f₁.buffer ++ [0x5c]) = _
                  rw [hbuf₁]
                  exact drainAll_st)
                refine key_delivered hpush' hkeySt (fun c hc => by cases hc) _ fragments ?_
                rw [List.append_assoc]
                exact hlong _
          · rw [flushLoneEscape, if_neg hhold, hbuf₁] at hflush
            intro hno
            have hmem : (reply.bytes.take q ++ [esc], [esc], .key (.new .esc .empty)) ∈
                (RawInputFramer.mk f).deliveries (reply.bytes.take q) ([esc] :: fragments) := by
              simp only [RawInputFramer.deliveries, RawInputFramer.push, hpush,
                RawInputFramer.flushTimeout, hflush, bind, Except.bind,
                RawInputFramer.eventsFromChunks, RawInputFramer.eventFromChunk, if_true, pure,
                Except.pure, List.nil_append, List.map_cons, List.map_nil, List.mem_append,
                List.mem_singleton, true_or]
            have hle := hno _ hmem _ rfl
            have hgt := hlong [esc]
            simp only at hle
            omega
      · obtain ⟨key, hkey⟩ := extractOneEvent_char (hsub x List.mem_cons_self).ascii hx xs
        obtain ⟨key₁, hkey₁⟩ := extractOneEvent_char (hsub x List.mem_cons_self).ascii hx []
        obtain ⟨chunks, rest, hd, hchunks⟩ := drainAll_ok extractLen_stable xs fun s hs => by
          obtain ⟨r, hr⟩ := extractOneEvent_ok s fun b hb =>
            hsub b (List.mem_cons_of_mem _ (hs.subset hb))
          exact ⟨r.map (·.2), by rw [extractLen, hr]; rfl⟩
        have hdrain : drainAll extractLen (f.buffer ++ x :: xs) = .ok ([x] :: chunks, rest) := by
          have hone : extractLen (x :: xs) = .ok (some 1) := by rw [extractLen, hkey]; rfl
          rw [hbuf, List.nil_append, drainAll_eq extractLen_stable, hone]
          simp only [List.drop_succ_cons, List.drop_zero, hd]
          rfl
        obtain ⟨f', hpush, -, -⟩ := push_of_drainAll hf _ hdrain
        have hchunk : RawInputFramer.eventFromChunk [x] = .ok (some (.key key₁)) := by
          rw [RawInputFramer.eventFromChunk, if_neg (by simpa using hx), hkey₁]
          rfl
        exact key_delivered hpush hchunk
          (fun c hc b hb => hsub b (List.mem_cons_of_mem _ (hchunks c hc hb))) _ fragments (hlong _)

end Leaking

end RawInputByteFramer

/-! ### All fragments -/

/-- The offsets, from `p` on, at which one fragment ends and another begins. -/
def cutsFrom (p : Nat) : List (List UInt8) → List Nat
  | [] => []
  | [_] => []
  | fragment :: next :: fragments =>
    (p + fragment.length) :: cutsFrom (p + fragment.length) (next :: fragments)

/-- From the first cut at offset 2, 3 or 4 to the last cut, the bytes look like the tail of a control
string and are few enough to be discarded. -/
def CutTailPlausible (bytes : List UInt8) (cuts : List Nat) : Prop :=
  ∀ c, cuts.find? (fun p => 2 ≤ p && p ≤ 4) = some c → ∀ l, cuts.getLast? = some l →
    plausibleControlStringTail ((bytes.take l).drop c) .osc = true ∧
      l - c ≤ maxDiscardedControlTailBytes

lemma le_of_mem_cutsFrom {p : Nat} {fragments : List (List UInt8)} :
    ∀ x ∈ cutsFrom p fragments, p ≤ x := by
  fun_induction cutsFrom p fragments with
  | case1 => simp
  | case2 => simp
  | case3 p fragment next fragments ih =>
    intro x hx
    rcases List.mem_cons.mp hx with rfl | hx
    · omega
    · have hle := ih x hx
      omega

lemma plausible_of_subset {xs ys : List UInt8} (h : ys ⊆ xs)
    (hx : plausibleControlStringTail xs .osc = true) : plausibleControlStringTail ys .osc = true := by
  simp only [plausibleControlStringTail, List.all_eq_true] at hx ⊢
  exact fun b hb => hx b (h hb)

section Fragments
variable {reply : ColorReply} {fragments : List (List UInt8)}

/-- The first fragment ends at offset `p` plus its length, inside the reply unless it is the last. -/
lemma take_append_fragment {bytes fragment : List UInt8} {p : Nat} (hp : p ≤ bytes.length)
    (hflat : (fragment :: fragments).flatten = bytes.drop p) :
    bytes.take p ++ fragment = bytes.take (p + fragment.length) ∧
      fragments.flatten = bytes.drop (p + fragment.length) := by
  have hbytes : bytes = (bytes.take p ++ fragment) ++ fragments.flatten := by
    rw [List.append_assoc, ← List.flatten_cons, hflat, List.take_append_drop]
  have hlen : (bytes.take p ++ fragment).length = p + fragment.length := by
    rw [List.length_append, List.length_take, Nat.min_eq_left hp]
  constructor
  · conv_rhs => rw [hbytes, ← hlen, List.take_left']
  · conv_rhs => rw [hbytes, ← hlen, List.drop_left']

lemma lt_of_more_fragments {bytes next : List UInt8} {q : Nat} (hnext : next ≠ [])
    (hflat : (next :: fragments).flatten = bytes.drop q) : q < bytes.length := by
  have hlen := congrArg List.length hflat
  have hpos := List.length_pos_iff.mpr hnext
  rw [List.flatten_cons, List.length_append, List.length_drop] at hlen
  omega

theorem noKey_discarding {c p : Nat} {f : RawInputByteFramer}
    (h : RawInputByteFramer.Discarding reply c p f) (hp : p < reply.bytes.length)
    (hpl : plausibleControlStringTail ((reply.bytes.take p).drop c) .osc = true ∧
      p - c ≤ maxDiscardedControlTailBytes)
    (hflat : fragments.flatten = reply.bytes.drop p)
    (hne : ∀ fragment ∈ fragments, fragment ≠ []) :
    (RawInputFramer.mk f).NoKeyAfterEscape (reply.bytes.take p) fragments ↔
      plausibleControlStringTail
          ((reply.bytes.take ((cutsFrom p fragments).getLast?.getD p)).drop c) .osc = true ∧
        (cutsFrom p fragments).getLast?.getD p - c ≤ maxDiscardedControlTailBytes := by
  fun_induction cutsFrom p fragments generalizing f with
  | case1 =>
    have hlen := congrArg List.length hflat
    rw [List.flatten_nil, List.length_nil, List.length_drop] at hlen
    omega
  | case2 p fragment =>
    obtain ⟨hq, -⟩ := take_append_fragment hp.le hflat
    have hwhole : reply.bytes.take p ++ fragment = reply.bytes := by
      rw [List.flatten_cons, List.flatten_nil, List.append_nil] at hflat
      rw [hflat, List.take_append_drop]
    obtain ⟨f', hpush, hsteady, hempty⟩ := h.push_last hwhole hp.le
    have hflush := RawInputByteFramer.flush_empty hsteady hempty
    refine ⟨fun _ => hpl, fun _ => ?_⟩
    rw [RawInputFramer.NoKeyAfterEscape, RawInputFramer.deliveries_silent hpush hflush]
    exact fun d hd => by cases hd
  | case3 p fragment next fragments ih =>
    obtain ⟨hq, hrest⟩ := take_append_fragment hp.le hflat
    have hlt := lt_of_more_fragments (hne next (by simp)) hrest
    have hpos := List.length_pos_iff.mpr (hne fragment List.mem_cons_self)
    have hstart := h.start
    have hpush := h.push hq (by omega) hlt
    obtain ⟨f', hflush, hnext⟩ := h.flush (q := p + fragment.length) (by omega) hlt
    have hsplit : (reply.bytes.take (p + fragment.length)).drop c =
        (reply.bytes.take p).drop c ++ (reply.bytes.take (p + fragment.length)).drop p := by
      have hplen : (reply.bytes.take p).length = p := by
        rw [List.length_take]
        omega
      have hdrop : (reply.bytes.take p ++ fragment).drop p = fragment := List.drop_left' hplen
      rw [← hq, hdrop, List.drop_append_of_le_length (by omega)]
    rw [RawInputFramer.NoKeyAfterEscape, RawInputFramer.deliveries_silent hpush hflush, hq,
      List.getLast?_cons, Option.getD_some]
    split_ifs at hnext with hcond
    · refine ih hnext hlt ⟨?_, hcond.2⟩ hrest fun fr hfr => hne fr (List.mem_cons_of_mem _ hfr)
      rw [hsplit, plausibleControlStringTail, List.all_append, Bool.and_eq_true]
      exact ⟨hpl.1, hcond.1⟩
    · refine iff_of_false (RawInputByteFramer.leak hnext.1 hnext.2 (by omega) hlt hrest fun fr hfr =>
        hne fr (List.mem_cons_of_mem _ hfr)) fun hall => hcond ?_
      have hle : p + fragment.length ≤
          (cutsFrom (p + fragment.length) (next :: fragments)).getLast?.getD (p + fragment.length) := by
        cases hl : (cutsFrom (p + fragment.length) (next :: fragments)).getLast? with
        | none => exact Nat.le_refl _
        | some l => exact le_of_mem_cutsFrom l (List.mem_of_getLast? hl)
      refine ⟨plausible_of_subset ?_ hall.1, by omega⟩
      generalize (cutsFrom (p + fragment.length) (next :: fragments)).getLast?.getD
        (p + fragment.length) = l at hle
      have hshort : reply.bytes.take (p + fragment.length) =
          (reply.bytes.take l).take (p + fragment.length) := by
        rw [List.take_take, Nat.min_eq_left hle]
      have hdrop : ∀ xs : List UInt8, xs.drop p = (xs.drop c).drop (p - c) := by
        intro xs
        rw [List.drop_drop]
        congr 1
        omega
      rw [hshort, hdrop]
      refine List.Subset.trans (List.drop_subset _ _) fun b hb => ?_
      rw [List.drop_take] at hb
      exact List.take_subset _ _ hb

theorem noKey_waiting {p : Nat} {f : RawInputByteFramer}
    (h : RawInputByteFramer.Waiting reply p f) (hp : p < reply.bytes.length)
    (hflat : fragments.flatten = reply.bytes.drop p)
    (hne : ∀ fragment ∈ fragments, fragment ≠ []) :
    (RawInputFramer.mk f).NoKeyAfterEscape (reply.bytes.take p) fragments ↔
      CutTailPlausible reply.bytes (cutsFrom p fragments) := by
  fun_induction cutsFrom p fragments generalizing f with
  | case1 =>
    have hlen := congrArg List.length hflat
    rw [List.flatten_nil, List.length_nil, List.length_drop] at hlen
    omega
  | case2 p fragment =>
    refine ⟨fun _ c hc => (by cases hc), fun _ => ?_⟩
    have hwhole : reply.bytes.take p ++ fragment = reply.bytes := by
      rw [List.flatten_cons, List.flatten_nil, List.append_nil] at hflat
      rw [hflat, List.take_append_drop]
    obtain ⟨f', hpush, hsteady, hempty⟩ := h.push_last hwhole
    obtain ⟨event, hextract, hnokey⟩ := reply.extract_bytes
    have hne_esc : reply.bytes ≠ [esc] := by
      obtain ⟨tail, htail⟩ := reply.bytes_eq
      rw [htail]
      simp
    have hflush := RawInputByteFramer.flush_empty hsteady hempty
    intro d hd key hkey
    simp only [RawInputFramer.deliveries, RawInputFramer.push, hpush, RawInputFramer.flushTimeout,
      hflush, bind, Except.bind, RawInputFramer.eventsFromChunks, RawInputFramer.eventFromChunk,
      if_neg hne_esc, hextract, Except.map, Option.map_some, pure, Except.pure, List.append_nil,
      List.map_cons, List.map_nil, List.mem_singleton] at hd
    subst hd
    exact absurd hkey (hnokey key)
  | case3 p fragment next fragments ih =>
    obtain ⟨hq, hrest⟩ := take_append_fragment hp.le hflat
    have hlt := lt_of_more_fragments (hne next (by simp)) hrest
    have hpos := List.length_pos_iff.mpr (hne fragment List.mem_cons_self)
    have hne' : ∀ fr ∈ next :: fragments, fr ≠ [] := fun fr hfr => hne fr (List.mem_cons_of_mem _ hfr)
    have hpush := h.push hq (by omega) hlt
    obtain ⟨f', hflush, hnext⟩ := h.flush (q := p + fragment.length) (by omega) hlt
    rw [RawInputFramer.NoKeyAfterEscape, RawInputFramer.deliveries_silent hpush hflush, hq]
    rcases hnext with ⟨h₂, h₄, hdiscarding⟩ | ⟨hout, hwaiting⟩
    · have hfind : (2 ≤ p + fragment.length && p + fragment.length ≤ 4) = true := by
        simp [h₂, h₄]
      have hnone : plausibleControlStringTail
          ((reply.bytes.take (p + fragment.length)).drop (p + fragment.length)) .osc = true ∧
          p + fragment.length - (p + fragment.length) ≤ maxDiscardedControlTailBytes := by
        rw [List.drop_take_self, Nat.sub_self]
        exact ⟨rfl, Nat.zero_le _⟩
      refine (noKey_discarding hdiscarding hlt hnone hrest hne').trans ?_
      simp only [CutTailPlausible, List.find?_cons, hfind, List.getLast?_cons, Option.some.injEq]
      constructor
      · rintro hall c rfl l rfl
        exact hall
      · intro hall
        exact hall _ rfl _ rfl
    · have hfind : (2 ≤ p + fragment.length && p + fragment.length ≤ 4) = false := by
        rw [Bool.eq_false_iff, Ne, Bool.and_eq_true, decide_eq_true_eq, decide_eq_true_eq]
        exact hout
      refine (ih hwaiting hlt hrest hne').trans ?_
      simp only [CutTailPlausible, List.find?_cons, hfind, List.getLast?_cons]
      constructor
      · intro hall c hc l hl
        refine hall c hc l ?_
        cases hlast : (cutsFrom (p + fragment.length) (next :: fragments)).getLast? with
        | none =>
          rw [List.getLast?_eq_none_iff] at hlast
          rw [hlast] at hc
          cases hc
        | some l' =>
          rw [hlast] at hl
          exact hl
      · intro hall c hc l hl
        exact hall c hc l (by rw [hl]; rfl)

end Fragments

/-- With nothing pending when the colour query is sent, no byte of a reply after its ESC is delivered
as a key exactly when the bytes between the first cut at offset 2, 3 or 4 and the last cut are
plausible and few. -/
theorem colorReply_noKey_iff (f : RawInputFramer) (hbuf : f.byteFramer.buffer = [])
    (hdisc : f.byteFramer.discardUntil = none) (reply : ColorReply) {fragments : List (List UInt8)}
    (hflat : fragments.flatten = reply.bytes) (hne : ∀ fragment ∈ fragments, fragment ≠ []) :
    f.hostColorQuerySent.NoKeyAfterEscape [] fragments ↔
      CutTailPlausible reply.bytes (cutsFrom 0 fragments) := by
  have hwait : RawInputByteFramer.Waiting reply 0 f.byteFramer.hostColorQuerySent :=
    ⟨hbuf, hdisc, fun h0 => absurd h0 (Nat.lt_irrefl 0), fun _ => ⟨Nat.zero_lt_two, rfl⟩⟩
  have hpos : 0 < reply.bytes.length := by
    rw [reply.bytes_length]
    omega
  exact noKey_waiting hwait hpos hflat hne

/-- `ESC ] 10;rgb:f/f/f BEL`. -/
def whiteReply : ColorReply where
  background := false
  red := [0x66]
  green := [0x66]
  blue := [0x66]
  stTerminated := false
  red_ne := List.cons_ne_nil _ _
  green_ne := List.cons_ne_nil _ _
  blue_ne := List.cons_ne_nil _ _
  red_hex := by decide +kernel
  green_hex := by decide +kernel
  blue_hex := by decide +kernel

def whiteFragments : List (List UInt8) :=
  [asciiBytes "\x1b]", asciiBytes "10;rgb:f", asciiBytes "/f/f\x07"]

theorem colorReply_noKey_iff_white :
    (RawInputFramer.mk {}).hostColorQuerySent.NoKeyAfterEscape [] whiteFragments ↔
      CutTailPlausible whiteReply.bytes (cutsFrom 0 whiteFragments) :=
  colorReply_noKey_iff ⟨{}⟩ rfl rfl whiteReply (by decide) (by decide)

/-- The hex digit `f` ends the discarding, and the slash behind it is typed. -/
theorem colorReply_leaks_slash :
    whiteFragments.flatten = whiteReply.bytes ∧ (∀ fragment ∈ whiteFragments, fragment ≠ []) ∧
      ¬(RawInputFramer.mk {}).hostColorQuerySent.NoKeyAfterEscape [] whiteFragments := by
  refine ⟨by decide, by decide, fun hno => ?_⟩
  have hslash : (whiteReply.bytes, [0x2f], .key (.new (.char '/') .empty)) ∈
      (RawInputFramer.mk {}).hostColorQuerySent.deliveries [] whiteFragments := by decide
  have hle := hno _ hslash _ rfl
  revert hle
  decide

end Ork3.Input
