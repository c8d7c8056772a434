import Ork3.Library.Utf8
import Ork3.Proofs.ColorReplyFlush
import Ork3.Proofs.FramerSlices

/-!
# Pastes in pieces

A paste whose start marker has arrived is kept through every flush until its end marker is there.
-/

namespace Ork3.Input

open Ork3.Library

/-! ### Finding the end marker -/

section Finding
variable {c : UInt8} {cs xs : List UInt8}

/-- A needle whose first byte does not come again is found where it was put. -/
lemma findSubsequence_append_needle (hc : c ∉ cs) (h : ¬ (c :: cs) <:+: xs) :
    findSubsequence (c :: cs) (xs ++ c :: cs) = some xs.length := by
  induction xs with
  | nil =>
    have hpre : (c :: cs).isPrefixOf (c :: cs) = true :=
      List.isPrefixOf_iff_prefix.mpr (List.prefix_refl _)
    rw [List.nil_append, findSubsequence, if_pos hpre]
    rfl
  | cons x xs ih =>
    have hrest : ¬ (c :: cs) <:+: xs := fun hin => h (List.infix_cons hin)
    have hpre : ¬ (c :: cs).isPrefixOf (x :: (xs ++ c :: cs)) = true := by
      rw [List.isPrefixOf_iff_prefix]
      intro hpre
      obtain ⟨rfl, htail⟩ := List.cons_prefix_cons.mp hpre
      by_cases hle : cs.length ≤ xs.length
      · have hin : cs <+: xs := List.prefix_of_prefix_length_le htail (List.prefix_append _ _) hle
        apply h
        exact (List.cons_prefix_cons.mpr ⟨rfl, hin⟩).isInfix
      · -- the needle would run into its own first byte
        have hlonger : xs ++ [c] <+: cs := by
          have hfront : xs ++ [c] <+: xs ++ c :: cs := by
            rw [List.append_cons xs c cs]
            exact List.prefix_append _ _
          apply List.prefix_of_prefix_length_le hfront htail
          rw [List.length_append, List.length_singleton]
          omega
        exact hc (hlonger.subset (List.mem_append_right _ List.mem_cons_self))
    rw [List.cons_append, findSubsequence, if_neg hpre, ih hrest]
    rfl

lemma not_infix_append_of_notMem {ys : List UInt8} (hys : c ∉ ys) (h : ¬ (c :: cs) <:+: xs) :
    ¬ (c :: cs) <:+: ys ++ xs := by
  induction ys with
  | nil => exact h
  | cons y ys ih =>
    intro hin
    rcases List.infix_cons_iff.mp hin with hpre | hin
    · obtain ⟨rfl, -⟩ := List.cons_prefix_cons.mp hpre
      exact hys List.mem_cons_self
    · exact ih (fun hmem => hys (List.mem_cons_of_mem _ hmem)) hin

end Finding

/-! ### The bytes of a paste -/

/-- A text that can be pasted: its bytes do not contain the end marker. -/
def Pasteable (text : List Char) : Prop :=
  ¬ bracketedPasteEnd <:+: text.flatMap String.utf8EncodeChar

instance Pasteable.decidable (text : List Char) : Decidable (Pasteable text) :=
  inferInstanceAs (Decidable (¬ bracketedPasteEnd <:+: text.flatMap String.utf8EncodeChar))

/-- What comes behind the start marker. -/
def pasteBody (text : List Char) : List UInt8 :=
  text.flatMap String.utf8EncodeChar ++ bracketedPasteEnd

section
variable {text : List Char}

lemma not_infix_pasteStart (h : Pasteable text) :
    ¬ bracketedPasteEnd <:+: bracketedPasteStart ++ text.flatMap String.utf8EncodeChar := by
  have htail : ¬ bracketedPasteEnd <:+:
      bracketedPasteStart.tail ++ text.flatMap String.utf8EncodeChar :=
    not_infix_append_of_notMem (by decide) h
  intro hin
  rcases List.infix_cons_iff.mp hin with hpre | hin
  · have hlen : bracketedPasteEnd.length ≤ bracketedPasteStart.length := by decide
    have hstart : bracketedPasteEnd <+: bracketedPasteStart :=
      List.prefix_of_prefix_length_le hpre (List.prefix_append _ _) hlen
    exact absurd hstart (by decide)
  · exact htail hin

lemma findSubsequence_paste (h : Pasteable text) :
    findSubsequence bracketedPasteEnd (bracketedPasteStart ++ pasteBody text) =
      some (bracketedPasteStart ++ text.flatMap String.utf8EncodeChar).length := by
  unfold pasteBody
  rw [← List.append_assoc]
  exact findSubsequence_append_needle (by decide) (not_infix_pasteStart h)

/-- Before the last byte of the end marker, the marker is not found. -/
lemma findSubsequence_open (h : Pasteable text) {part : List UInt8} (hpart : part <+: pasteBody text)
    (hne : part ≠ pasteBody text) :
    findSubsequence bracketedPasteEnd (bracketedPasteStart ++ part) = none := by
  obtain ⟨more, hmore⟩ := hpart
  cases hfind : findSubsequence bracketedPasteEnd (bracketedPasteStart ++ part) with
  | none => rfl
  | some i =>
    obtain ⟨hle, happ⟩ := findSubsequence_some hfind more
    rw [List.append_assoc, hmore, findSubsequence_paste h, Option.some.injEq] at happ
    have hlen := congrArg List.length hmore
    rw [pasteBody] at hlen
    simp only [List.length_append] at hlen happ hle
    have hnil : more = [] := List.length_eq_zero_iff.mp (by omega)
    rw [hnil, List.append_nil] at hmore
    exact absurd hmore hne

lemma startsWith_pasteStart (part : List UInt8) :
    startsWith bracketedPasteStart (bracketedPasteStart ++ part) = true :=
  List.isPrefixOf_iff_prefix.mpr (List.prefix_append _ _)

lemma extractOneEvent_pasteStart_append (part : List UInt8) :
    extractOneEvent (bracketedPasteStart ++ part) =
      .ok (extractPaste (bracketedPasteStart ++ part)) := by
  have hne : (bracketedPasteStart ++ part).isEmpty = false := rfl
  unfold extractOneEvent
  rw [if_neg (by rw [hne]; exact Bool.false_ne_true), if_pos (startsWith_pasteStart part)]

lemma extractOneEvent_open (h : Pasteable text) {part : List UInt8}
    (hpart : part <+: pasteBody text) (hne : part ≠ pasteBody text) :
    extractOneEvent (bracketedPasteStart ++ part) = .ok none := by
  rw [extractOneEvent_pasteStart_append, extractPaste, findSubsequence_open h hpart hne]
  rfl

lemma extractOneEvent_paste (h : Pasteable text) :
    extractOneEvent (bracketedPasteStart ++ pasteBody text) =
      .ok (some (.paste text, (bracketedPasteStart ++ pasteBody text).length)) := by
  have hdecode : utf8Text (text.flatMap String.utf8EncodeChar) = some text := by
    rw [utf8Text, fromUtf8_flatMap]
    rfl
  have hcontent : ((bracketedPasteStart ++ pasteBody text).take
      (bracketedPasteStart ++ text.flatMap String.utf8EncodeChar).length).drop
        bracketedPasteStart.length = text.flatMap String.utf8EncodeChar := by
    rw [pasteBody, ← List.append_assoc, List.take_left, List.drop_left]
  have hlen : (bracketedPasteStart ++ text.flatMap String.utf8EncodeChar).length +
      bracketedPasteEnd.length = (bracketedPasteStart ++ pasteBody text).length := by
    rw [pasteBody, ← List.append_assoc]
    exact (List.length_append).symm
  rw [extractOneEvent_pasteStart_append, extractPaste, findSubsequence_paste h]
  simp only [Option.bind_eq_bind, Option.bind_some, hcontent, hdecode, hlen]
  rfl

end

/-! ### Behind an ESC -/

lemma utf8Text_cons {b : UInt8} (hb : b < 0x80) (rest : List UInt8) :
    utf8Text (b :: rest) = (utf8Text rest).map (Char.ofNat b.toNat :: ·) :=
  toOption_fromUtf8_cons hb rest

/-- What starts with an ESC is no tail of a mouse report. -/
lemma discardComplete_esc (rest : List UInt8) :
    discardCompleteOrphanedSgrMouseTail (esc :: rest) = none := by
  unfold discardCompleteOrphanedSgrMouseTail
  cases hterminator : controlStringTerminatorForFamily (esc :: rest) .orphanedSgrMouseTail with
  | none => rfl
  | some len =>
    have hpos := (terminatorForFamily_append hterminator []).1
    obtain ⟨k, rfl⟩ : ∃ k, len = k + 1 := ⟨len - 1, by omega⟩
    have htext : (utf8Text (esc :: (esc :: rest).take (k + 1))).bind
        (fun sequence => if (parseSgrMouse sequence).isNone then none
          else some ((esc :: rest).drop (k + 1))) = none := by
      rw [List.take_succ_cons, utf8Text_cons (by decide), utf8Text_cons (by decide)]
      cases utf8Text (rest.take k) with
      | none => rfl
      | some s => rfl
    simp only [Option.bind_eq_bind, Option.bind_some]
    split_ifs
    · rfl
    · cases hseq : utf8Text (esc :: (esc :: rest).take (k + 1)) with
      | none => rfl
      | some sequence =>
        rw [hseq] at htext
        exact htext

/-- Where the buffer starts with an ESC, a lone ESC flushed before has no part in a turn. -/
lemma RawInputByteFramer.turn_esc {f : RawInputByteFramer} {rest : List UInt8}
    (hbuf : f.buffer = esc :: rest) :
    f.turn = ({ f with loneEscapeRecentlyFlushed := false } : RawInputByteFramer).turn := by
  have htail : startsWithIncompleteOrphanedSgrMouseTail f.buffer = false := by
    rw [hbuf]
    simp [startsWithIncompleteOrphanedSgrMouseTail, startsWith, asciiBytes, esc, List.isPrefixOf]
  have hcomplete : discardCompleteOrphanedSgrMouseTail f.buffer = none := by
    rw [hbuf]
    exact discardComplete_esc rest
  cases hescape : f.loneEscapeRecentlyFlushed with
  | false =>
    have hsame : ({ f with loneEscapeRecentlyFlushed := false } : RawInputByteFramer) = f := by
      rw [← hescape]
    rw [hsame]
  | true =>
    simp only [turn, hescape, htail, hcomplete, if_true, Bool.false_eq_true, if_false]

lemma RawInputByteFramer.drain_esc {f : RawInputByteFramer} {rest : List UInt8}
    (hbuf : f.buffer = esc :: rest) :
    f.drainAvailableChunks =
      ({ f with loneEscapeRecentlyFlushed := false } : RawInputByteFramer).drainAvailableChunks := by
  unfold drainAvailableChunks fuelFor
  rw [drainLoop, drainLoop, turn_esc hbuf]

/-! ### Delivery -/

/-- Nothing is buffered and nothing is being discarded. -/
structure RawInputByteFramer.Idle (f : RawInputByteFramer) : Prop where
  empty : f.buffer = []
  no_discard : f.discardUntil = none

/-- The events of one call. -/
def RawInputByteFramer.Call.deliver (call : RawInputByteFramer.Call) (f : RawInputFramer) :
    Except Panic (RawInputFramer × List (List UInt8 × RawInputEvent)) := do
  let (byteFramer, chunks) ← call.apply f.byteFramer
  return (⟨byteFramer⟩, ← RawInputFramer.eventsFromChunks chunks)

/-- The events of a run of calls. -/
def RawInputFramer.deliverAll (f : RawInputFramer) :
    List RawInputByteFramer.Call →
      Except Panic (RawInputFramer × List (List UInt8 × RawInputEvent))
  | [] => .ok (f, [])
  | call :: calls => do
    let (f, events) ← call.deliver f
    let (f, events') ← f.deliverAll calls
    return (f, events ++ events')

namespace RawInputByteFramer

section
variable {text : List Char} {part data : List UInt8} {f : RawInputByteFramer}

/-- The framer holds the start marker and a part of what follows it, not yet all of it. -/
structure PasteOpen (text : List Char) (part : List UInt8) (f : RawInputByteFramer) : Prop where
  steady : f.Steady
  buffer : f.buffer = bracketedPasteStart ++ part
  part_begins : part <+: pasteBody text
  not_all : part ≠ pasteBody text

lemma PasteOpen.drain (h : Pasteable text) (hf : PasteOpen text part f) :
    f.drainAvailableChunks = .ok (f, []) := by
  apply drain_exit (turn_exit_of_none hf.steady _)
  rw [hf.buffer]
  exact extractOneEvent_open h hf.part_begins hf.not_all

lemma PasteOpen.flush (h : Pasteable text) (hf : PasteOpen text part f) :
    f.flushTimeout = .ok (f, []) := by
  have hempty : f.buffer.isEmpty = false := by
    rw [hf.buffer]
    rfl
  have hmouse : startsWithIncompleteSgrMouseSequence f.buffer = false := by
    rw [hf.buffer]
    rfl
  have hstart : startsWith bracketedPasteStart f.buffer = true := by
    rw [hf.buffer]
    exact startsWith_pasteStart part
  have hfind : (findSubsequence bracketedPasteEnd f.buffer).isNone = true := by
    rw [hf.buffer, findSubsequence_open h hf.part_begins hf.not_all]
    rfl
  simp only [flushTimeout, hf.drain h, bind, Except.bind, hf.steady.no_discard, flushPending,
    hempty, Bool.false_eq_true, if_false, hf.steady.no_escape, false_and, hmouse, hstart, hfind,
    and_self, if_true]
  rfl

/-- The whole paste is in the buffer. -/
lemma drain_paste (h : Pasteable text) (hf : f.Steady)
    (hbuf : f.buffer = bracketedPasteStart ++ pasteBody text) :
    ∃ f', f.drainAvailableChunks = .ok (f', [bracketedPasteStart ++ pasteBody text]) ∧
      f'.Steady ∧ f'.buffer = [] := by
  have hturn : f.turn = .ok (.chunk { f with
      heldPendingColorEsc := false
      buffer := [] } (bracketedPasteStart ++ pasteBody text)) := by
    simp only [turn, plainTurn, hf.no_escape, hf.no_discard, extractTurn, hbuf,
      extractOneEvent_paste h, Bool.false_eq_true, if_false, Except.map, List.take_length,
      List.drop_length, noteEvent]
  exact ⟨_, drain_chunk hturn (turn_empty ⟨hf.1, hf.2⟩ rfl), ⟨hf.1, hf.2⟩, rfl⟩

/-- What a part of a paste brings. -/
lemma PasteOpen.push (h : Pasteable text) (hf : PasteOpen text part f)
    (hdata : part ++ data <+: pasteBody text) :
    (part ++ data ≠ pasteBody text → ∃ f', f.push data = .ok (f', []) ∧
      PasteOpen text (part ++ data) f') ∧
    (part ++ data = pasteBody text → ∃ f', f.push data =
        .ok (f', [bracketedPasteStart ++ pasteBody text]) ∧ f'.Steady ∧ f'.buffer = []) := by
  have hbuf : f.buffer ++ data = bracketedPasteStart ++ (part ++ data) := by
    rw [hf.buffer, List.append_assoc]
  refine ⟨fun hne => ?_, fun heq => ?_⟩
  · have hopen : PasteOpen text (part ++ data) { f with buffer := f.buffer ++ data } :=
      ⟨⟨hf.steady.1, hf.steady.2⟩, hbuf, hdata, hne⟩
    exact ⟨_, hopen.drain h, hopen⟩
  · have hsteady : Steady { f with buffer := f.buffer ++ data } := ⟨hf.steady.1, hf.steady.2⟩
    exact drain_paste h hsteady (hbuf.trans (by rw [heq]))

/-- A call that brings nothing leaves an empty framer empty. -/
lemma Steady.apply_empty (hf : f.Steady) (hbuf : f.buffer = []) {call : Call}
    (hdata : call.data = []) :
    ∃ f', call.apply f = .ok (f', []) ∧ f'.Steady ∧ f'.buffer = [] := by
  cases call with
  | push data =>
    have hnil : data = [] := hdata
    subst hnil
    have hsame : f.buffer ++ [] = [] := by rw [List.append_nil, hbuf]
    have hturn := turn_empty (f := { f with buffer := f.buffer ++ [] }) ⟨hf.1, hf.2⟩ hsame
    exact ⟨_, drain_exit hturn, ⟨hf.1, hf.2⟩, hsame⟩
  | flushTimeout => exact ⟨f, flush_empty hf hbuf, hf, hbuf⟩
  | hostColorQuerySent => exact ⟨_, rfl, ⟨hf.1, hf.2⟩, hbuf⟩
  | enableHostColorSchemeChangeTracking => exact ⟨_, rfl, ⟨hf.1, hf.2⟩, hbuf⟩

/-- A call during a paste. -/
lemma PasteOpen.apply (h : Pasteable text) (hf : PasteOpen text part f) {call : Call}
    (hdata : part ++ call.data <+: pasteBody text) :
    (part ++ call.data ≠ pasteBody text → ∃ f', call.apply f = .ok (f', []) ∧
      PasteOpen text (part ++ call.data) f') ∧
    (part ++ call.data = pasteBody text → ∃ f', call.apply f =
        .ok (f', [bracketedPasteStart ++ pasteBody text]) ∧ f'.Steady ∧ f'.buffer = []) := by
  cases call with
  | push data => exact hf.push h hdata
  | flushTimeout =>
    simp only [Call.data, List.append_nil]
    exact ⟨fun _ => ⟨f, hf.flush h, hf⟩, fun heq => absurd heq hf.not_all⟩
  | hostColorQuerySent =>
    simp only [Call.data, List.append_nil]
    have hopen : PasteOpen text part f.hostColorQuerySent :=
      ⟨⟨hf.steady.1, hf.steady.2⟩, hf.buffer, hf.part_begins, hf.not_all⟩
    exact ⟨fun _ => ⟨_, rfl, hopen⟩, fun heq => absurd heq hf.not_all⟩
  | enableHostColorSchemeChangeTracking =>
    simp only [Call.data, List.append_nil]
    have hopen : PasteOpen text part f.enableHostColorSchemeChangeTracking :=
      ⟨⟨hf.steady.1, hf.steady.2⟩, hf.buffer, hf.part_begins, hf.not_all⟩
    exact ⟨fun _ => ⟨_, rfl, hopen⟩, fun heq => absurd heq hf.not_all⟩

end

end RawInputByteFramer

namespace RawInputFramer

open RawInputByteFramer

section
variable {text : List Char} {part : List UInt8}

lemma deliverAll_cons {f f' : RawInputFramer} {b : RawInputByteFramer} {call : Call}
    {calls : List Call} {chunks : List (List UInt8)} {events events' : List (List UInt8 × RawInputEvent)}
    (hcall : call.apply f.byteFramer = .ok (b, chunks)) (hevents : eventsFromChunks chunks = .ok events)
    (hcalls : deliverAll ⟨b⟩ calls = .ok (f', events')) :
    f.deliverAll (call :: calls) = .ok (f', events ++ events') := by
  simp only [deliverAll, Call.deliver, hcall, hevents, bind, Except.bind, pure, Except.pure, hcalls]

lemma deliverAll_empty {b : RawInputByteFramer} (hb : b.Steady) (hbuf : b.buffer = [])
    {calls : List Call} (hdata : calls.flatMap Call.data = []) :
    ∃ f', deliverAll ⟨b⟩ calls = .ok (f', []) ∧ f'.byteFramer.Idle := by
  induction calls generalizing b with
  | nil => exact ⟨⟨b⟩, rfl, hbuf, hb.no_discard⟩
  | cons call calls ih =>
    rw [List.flatMap_cons, List.append_eq_nil_iff] at hdata
    obtain ⟨b', hcall, hb', hbuf'⟩ := hb.apply_empty hbuf hdata.1
    obtain ⟨f', hcalls, hidle⟩ := ih hb' hbuf' hdata.2
    exact ⟨f', deliverAll_cons hcall rfl hcalls, hidle⟩

lemma eventsFromChunks_paste (h : Pasteable text) :
    eventsFromChunks [bracketedPasteStart ++ pasteBody text] =
      .ok [(bracketedPasteStart ++ pasteBody text, .paste text)] := by
  have hne : bracketedPasteStart ++ pasteBody text ≠ [esc] := by
    intro heq
    have hlen := congrArg List.length heq
    rw [List.length_append] at hlen
    have hstart : bracketedPasteStart.length = 6 := rfl
    rw [hstart, List.length_singleton] at hlen
    omega
  simp only [eventsFromChunks, eventFromChunk, if_neg hne, extractOneEvent_paste h, Except.map,
    Option.map_some, bind, Except.bind]
  rfl

/-- What is left of an open paste, in any pieces. -/
lemma deliverAll_open (h : Pasteable text) {b : RawInputByteFramer} (hb : PasteOpen text part b)
    {calls : List Call} (hcalls : part ++ calls.flatMap Call.data = pasteBody text) :
    ∃ f', deliverAll ⟨b⟩ calls =
        .ok (f', [(bracketedPasteStart ++ pasteBody text, .paste text)]) ∧
      f'.byteFramer.Idle := by
  induction calls generalizing part b with
  | nil =>
    rw [List.flatMap_nil, List.append_nil] at hcalls
    exact absurd hcalls hb.not_all
  | cons call calls ih =>
    rw [List.flatMap_cons, ← List.append_assoc] at hcalls
    have hdata : part ++ call.data <+: pasteBody text := ⟨_, hcalls⟩
    obtain ⟨hopen, hclose⟩ := hb.apply h hdata
    by_cases hall : part ++ call.data = pasteBody text
    · obtain ⟨b', hcall, hb', hbuf'⟩ := hclose hall
      rw [hall, List.append_right_eq_self] at hcalls
      obtain ⟨f', hrest, hidle⟩ := deliverAll_empty hb' hbuf' hcalls
      exact ⟨f', deliverAll_cons hcall (eventsFromChunks_paste h) hrest, hidle⟩
    · obtain ⟨b', hcall, hb'⟩ := hopen hall
      obtain ⟨f', hrest, hidle⟩ := ih hb' hcalls
      exact ⟨f', deliverAll_cons hcall rfl hrest, hidle⟩

/-- A paste whose start marker arrives whole is delivered once and whole, in whatever pieces the
rest arrives and whatever is called between them. -/
theorem paste_delivered {f : RawInputFramer} (hf : f.byteFramer.Idle) (h : Pasteable text)
    {calls : List Call} (hcalls : part ++ calls.flatMap Call.data = pasteBody text) :
    ∃ f', f.deliverAll (.push (bracketedPasteStart ++ part) :: calls) =
        .ok (f', [(bracketedPasteStart ++ pasteBody text, .paste text)]) ∧
      f'.byteFramer.Idle := by
  have hbuf : f.byteFramer.buffer ++ (bracketedPasteStart ++ part) = bracketedPasteStart ++ part := by
    rw [hf.empty, List.nil_append]
  have hpush : Call.apply f.byteFramer (.push (bracketedPasteStart ++ part)) =
      ({ f.byteFramer with
        buffer := bracketedPasteStart ++ part
        loneEscapeRecentlyFlushed := false } : RawInputByteFramer).drainAvailableChunks := by
    change drainAvailableChunks { f.byteFramer with
      buffer := f.byteFramer.buffer ++ (bracketedPasteStart ++ part) } = _
    rw [hbuf]
    exact drain_esc rfl
  have hsteady : Steady { f.byteFramer with
      buffer := bracketedPasteStart ++ part
      loneEscapeRecentlyFlushed := false } := ⟨rfl, hf.no_discard⟩
  by_cases hall : part = pasteBody text
  · obtain ⟨b', hdrain, hb', hbuf'⟩ := drain_paste h hsteady (by rw [hall])
    rw [hall, List.append_right_eq_self] at hcalls
    obtain ⟨f', hrest, hidle⟩ := deliverAll_empty hb' hbuf' hcalls
    exact ⟨f', deliverAll_cons (hpush.trans hdrain) (eventsFromChunks_paste h) hrest, hidle⟩
  · have hopen : PasteOpen text part { f.byteFramer with
        buffer := bracketedPasteStart ++ part
        loneEscapeRecentlyFlushed := false } := ⟨hsteady, rfl, ⟨_, hcalls⟩, hall⟩
    obtain ⟨f', hrest, hidle⟩ := deliverAll_open h hopen hcalls
    exact ⟨f', deliverAll_cons (hpush.trans (hopen.drain h)) rfl hrest, hidle⟩

/-- A character and the end marker are cut. -/
theorem paste_delivered_cut :
    ∃ f', deliverAll ⟨{}⟩ [.push (bracketedPasteStart ++ [0x68, 0xc3]), .flushTimeout,
        .push [0xa9, 0x1b, 0x5b], .flushTimeout, .flushTimeout, .push [0x32, 0x30, 0x31, 0x7e]] =
      .ok (f', [(bracketedPasteStart ++ pasteBody ['h', 'é'], .paste ['h', 'é'])]) ∧
      f'.byteFramer.Idle :=
  paste_delivered ⟨rfl, rfl⟩ (by decide +kernel) (by decide +kernel)

end

end RawInputFramer

end Ork3.Input
