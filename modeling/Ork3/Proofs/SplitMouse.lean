import Ork3.Proofs.PasteDelivery

/-!
# Mouse reports in two pieces

The flush takes the first piece for lost and discards what follows up to the end of the report.
-/

namespace Ork3.Input

open Ork3.Library RawInputByteFramer

/-- An SGR mouse report that `parse_sgr_mouse` accepts, of digits and semicolons. -/
structure SgrMouseReport where
  params : List UInt8
  final : UInt8
  event : MouseEvent
  params_digits : ∀ b ∈ params, isSgrDigit b = true
  final_mouse : isMouseFinal final = true
  parses : (utf8Text (esc :: 0x5b :: 0x3c :: (params ++ [final]))).bind parseSgrMouse = some event

namespace SgrMouseReport

variable (report : SgrMouseReport)

def bytes : List UInt8 := esc :: 0x5b :: 0x3c :: (report.params ++ [report.final])

lemma bytes_length : report.bytes.length = report.params.length + 4 := by
  simp [bytes]

lemma not_digit_final : (!isSgrDigit report.final) = true := by
  have hfinal := report.final_mouse
  simp only [isMouseFinal, Bool.or_eq_true, decide_eq_true_eq] at hfinal
  rcases hfinal with hfinal | hfinal <;> rw [hfinal] <;> decide

lemma not_mouse_of_digit {b : UInt8} (h : isSgrDigit b = true) : isMouseFinal b = false := by
  unfold isMouseFinal
  rw [Bool.or_eq_false_iff, decide_eq_false_iff_not, decide_eq_false_iff_not]
  constructor
  · rintro rfl
    exact absurd h (by decide)
  · rintro rfl
    exact absurd h (by decide)

/-- The first element behind a stretch that a search passes over. -/
lemma findIdx?_append_cons {α : Type} {p : α → Bool} {xs : List α} {x : α} (ys : List α)
    (hxs : ∀ y ∈ xs, p y = false) (hx : p x = true) :
    (xs ++ x :: ys).findIdx? p = some xs.length := by
  induction xs with
  | nil => simp [List.findIdx?_cons, hx]
  | cons y xs ih =>
    have hrest := ih fun z hz => hxs z (List.mem_cons_of_mem _ hz)
    rw [List.cons_append, List.findIdx?_cons, hxs y List.mem_cons_self, hrest]
    rfl

/-! ### The whole report -/

section
variable (more : List UInt8)

lemma contains_mouseFinals (b : UInt8) : mouseFinals.contains b = isMouseFinal b := by
  simp [mouseFinals, isMouseFinal]

lemma findCsiFinal_bytes :
    findCsiFinal (report.bytes ++ more) mouseFinals = some report.bytes.length := by
  have hfind : ((report.bytes ++ more).drop 2).findIdx? (fun b => mouseFinals.contains b) =
      some (report.params.length + 1) := by
    have hsplit : (report.bytes ++ more).drop 2 = (0x3c :: report.params) ++ report.final :: more := by
      simp [bytes]
    rw [hsplit]
    apply findIdx?_append_cons
    · intro b hb
      rw [contains_mouseFinals]
      rcases List.mem_cons.mp hb with rfl | hb
      · rfl
      · exact not_mouse_of_digit (report.params_digits b hb)
    · rw [contains_mouseFinals]
      exact report.final_mouse
  rw [findCsiFinal, hfind, report.bytes_length]
  rfl

lemma completeEscapeSequenceLen_bytes :
    completeEscapeSequenceLen (report.bytes ++ more) = some report.bytes.length := by
  have hcsi := report.findCsiFinal_bytes more
  have hbytes : report.bytes ++ more =
      esc :: 0x5b :: (0x3c :: (report.params ++ [report.final]) ++ more) := rfl
  have hne : ¬ (esc = esc ∧ (0x5b : UInt8) = esc) := by decide
  have hsingle : singleEscapeLen (esc :: 0x5b :: (0x3c :: (report.params ++ [report.final]) ++ more))
      0x5b = some report.bytes.length := hcsi
  rw [hbytes, completeEscapeSequenceLen_cons, if_neg hne, hsingle]
  rfl

lemma escapeEvent_mouse {bytes : List UInt8} {seq : List Char} {event : MouseEvent}
    (hbytes : bytes[2]? = some 0x3c) (hseq : seq[2]? = some '<')
    (hparse : parseSgrMouse seq = some event) : escapeEvent bytes seq = .ok (.mouse event) := by
  have hcolor : parseDefaultColorResponse seq = .ok none := by
    have hstrip : stripPrefix ['\x1b', ']'] seq = none := by
      unfold parseSgrMouse at hparse
      obtain ⟨body, hbody, -⟩ := Option.bind_eq_some_iff.mp hparse
      unfold stripPrefix at hbody ⊢
      split_ifs at hbody with hpre
      rw [if_neg]
      intro hosc
      obtain ⟨rest, rfl⟩ := List.isPrefixOf_iff_prefix.mp hpre
      simp [List.isPrefixOf] at hosc
    simp [parseDefaultColorResponse, defaultColorBody, hstrip]
  have hgained : seq ≠ "\x1b[I".toList := by
    rintro rfl
    cases hseq
  have hlost : seq ≠ "\x1b[O".toList := by
    rintro rfl
    cases hseq
  have hreport : parseHostColorSchemeReport bytes = none := by
    unfold parseHostColorSchemeReport
    rw [if_neg, if_neg]
    · rintro rfl
      cases hbytes
    · rintro rfl
      cases hbytes
  simp only [escapeEvent, hcolor, bind, Except.bind, hgained, hlost, if_false, hreport, hparse]
  rfl

/-- A whole report is a mouse event. -/
lemma extractOneEvent_bytes :
    extractOneEvent (report.bytes ++ more) = .ok (some (.mouse report.event, report.bytes.length)) := by
  obtain ⟨seq, hseq, hparse⟩ := Option.bind_eq_some_iff.mp report.parses
  have htext : utf8Text ((report.bytes ++ more).take report.bytes.length) = some seq := by
    rw [List.take_left]
    exact hseq
  have hevent : escapeEvent ((report.bytes ++ more).take report.bytes.length) seq =
      .ok (.mouse report.event) := by
    rw [List.take_left]
    apply escapeEvent_mouse rfl _ hparse
    rw [utf8Text_cons (by decide), utf8Text_cons (by decide), utf8Text_cons (by decide)] at hseq
    cases hrest : utf8Text (report.params ++ [report.final]) with
    | none =>
      rw [hrest] at hseq
      cases hseq
    | some s =>
      rw [hrest] at hseq
      cases hseq
      rfl
  have hextract : extractEscape (report.bytes ++ more) =
      .ok (some (.mouse report.event, report.bytes.length)) := by
    rw [extractEscape, report.completeEscapeSequenceLen_bytes more]
    simp only [htext, hevent, Except.map]
  rw [← hextract]
  rfl

end

/-! ### The first piece -/

section
variable {p : Nat} {f : RawInputByteFramer}

lemma take_bytes (hp : 3 ≤ p) (hlt : p < report.bytes.length) :
    report.bytes.take p = esc :: 0x5b :: 0x3c :: report.params.take (p - 3) ∧
      report.bytes.drop p = report.params.drop (p - 3) ++ [report.final] := by
  rw [bytes_length] at hlt
  obtain ⟨k, rfl⟩ : ∃ k, p = k + 3 := ⟨p - 3, by omega⟩
  have hk : k ≤ report.params.length := by omega
  rw [Nat.add_sub_cancel]
  constructor
  · simp only [bytes, List.take_succ_cons, List.take_append_of_le_length hk]
  · simp only [bytes, List.drop_succ_cons, List.drop_append_of_le_length hk]

lemma extractOneEvent_take (k : Nat) :
    extractOneEvent (esc :: 0x5b :: 0x3c :: report.params.take k) = .ok none := by
  have hcsi : findCsiFinal (esc :: 0x5b :: 0x3c :: report.params.take k) mouseFinals = none := by
    have hfind : (0x3c :: report.params.take k).findIdx? (fun b => mouseFinals.contains b) = none := by
      rw [List.findIdx?_eq_none_iff]
      intro b hb
      rw [contains_mouseFinals]
      rcases List.mem_cons.mp hb with rfl | hb
      · rfl
      · exact not_mouse_of_digit (report.params_digits b (List.mem_of_mem_take hb))
    rw [findCsiFinal, List.drop_succ_cons, List.drop_succ_cons, List.drop_zero, hfind]
    rfl
  have hne : ¬ (esc = esc ∧ (0x5b : UInt8) = esc) := by decide
  have hlen : completeEscapeSequenceLen (esc :: 0x5b :: 0x3c :: report.params.take k) = none := by
    have hsingle : singleEscapeLen (esc :: 0x5b :: 0x3c :: report.params.take k) 0x5b = none := hcsi
    rw [completeEscapeSequenceLen_cons, if_neg hne, hsingle]
    rfl
  have hextract : extractEscape (esc :: 0x5b :: 0x3c :: report.params.take k) = .ok none := by
    rw [extractEscape, hlen]
  rw [← hextract]
  rfl

/-- The framer after the flush between the two pieces. -/
lemma flush_first (hf : f.Idle) (hp : 3 ≤ p) (hlt : p < report.bytes.length)
    (hlong : report.bytes.length ≤ maxDiscardedControlTailBytes) :
    ∃ f₁ f₂, f.push (report.bytes.take p) = .ok (f₁, []) ∧ f₁.flushTimeout = .ok (f₂, []) ∧
      f₂.buffer = [] ∧ f₂.loneEscapeRecentlyFlushed = false ∧
      f₂.discardUntil = some .orphanedSgrMouseTail ∧ f₂.discardedTailBytes = p := by
  obtain ⟨htake, -⟩ := report.take_bytes hp hlt
  have hlength : (esc :: 0x5b :: 0x3c :: report.params.take (p - 3)).length = p := by
    rw [← htake, List.length_take]
    omega
  have hnone := report.extractOneEvent_take (p - 3)
  have hincomplete : startsWithIncompleteSgrMouseSequence
      (esc :: 0x5b :: 0x3c :: report.params.take (p - 3)) = true := by
    have hall : (report.params.take (p - 3)).all isSgrDigit = true :=
      List.all_eq_true.mpr fun b hb => report.params_digits b (List.mem_of_mem_take hb)
    simpa [startsWithIncompleteSgrMouseSequence, startsWith, asciiBytes, esc] using hall
  have hshort : p ≤ maxDiscardedControlTailBytes := by omega
  rw [htake]
  set piece := esc :: 0x5b :: 0x3c :: report.params.take (p - 3) with hpiece
  have hpush : f.push piece =
      ({ f with buffer := piece, loneEscapeRecentlyFlushed := false } :
        RawInputByteFramer).drainAvailableChunks := by
    change RawInputByteFramer.drainAvailableChunks { f with buffer := f.buffer ++ piece } = _
    rw [hf.empty, List.nil_append]
    exact RawInputByteFramer.drain_esc hpiece
  have hexit := RawInputByteFramer.drain_exit (RawInputByteFramer.turn_exit_of_none
    (f := { f with buffer := piece, loneEscapeRecentlyFlushed := false }) ⟨rfl, hf.no_discard⟩ hnone)
  have hflush : ({ f with buffer := piece, loneEscapeRecentlyFlushed := false } :
      RawInputByteFramer).flushTimeout = .ok ({ f with
        buffer := []
        loneEscapeRecentlyFlushed := false
        discardUntil := some .orphanedSgrMouseTail
        discardedTailBytes := p }, []) := by
    have hempty : piece.isEmpty = false := rfl
    rw [RawInputByteFramer.flushTimeout, hexit]
    simp only [bind, Except.bind, hf.no_discard, RawInputByteFramer.flushPending, hempty,
      hincomplete, hlength, hshort, if_true, Bool.false_eq_true, false_and, if_false]
    rfl
  exact ⟨_, _, hpush.trans hexit, hflush, rfl, rfl, rfl, rfl⟩

/-- The second piece is discarded and what follows it is read. -/
lemma push_second (hp : 3 ≤ p) (hlt : p < report.bytes.length)
    (hlong : report.bytes.length ≤ maxDiscardedControlTailBytes) (hbuf : f.buffer = [])
    (hescape : f.loneEscapeRecentlyFlushed = false)
    (hdiscard : f.discardUntil = some .orphanedSgrMouseTail) (hcount : f.discardedTailBytes = p)
    (more : List UInt8) :
    (f.push (report.bytes.drop p ++ more)).map RawInputByteFramer.chunksAndRest =
        drainAll extractLen more ∧
      ∀ r, f.push (report.bytes.drop p ++ more) = .ok r → r.1.Steady := by
  obtain ⟨-, hdrop⟩ := report.take_bytes hp hlt
  have hlen := report.bytes_length
  set digits := report.params.drop (p - 3) with hdigits
  have hcount' : digits.length = report.params.length - (p - 3) := List.length_drop
  have hdata : report.bytes.drop p ++ more = digits ++ report.final :: more := by
    rw [hdrop, List.append_assoc, List.singleton_append]
  have hsearch : ∀ n, digits.length < n →
      ((digits ++ report.final :: more).take n).findIdx? (fun b => !isSgrDigit b) =
        some digits.length := by
    intro n hn
    obtain ⟨k, hk⟩ : ∃ k, n - digits.length = k + 1 := ⟨n - digits.length - 1, by omega⟩
    rw [List.take_append, List.take_of_length_le hn.le, hk, List.take_succ_cons]
    have hdigit : ∀ b ∈ digits, (!isSgrDigit b) = false := by
      intro b hb
      rw [report.params_digits b (List.mem_of_mem_drop hb)]
      rfl
    exact findIdx?_append_cons (p := fun b => !isSgrDigit b) _ hdigit report.not_digit_final
  have hat : (digits ++ report.final :: more)[digits.length]? = some report.final := by
    simp
  have hrest : (digits ++ report.final :: more).drop (digits.length + 1) = more := by
    rw [List.drop_append, List.drop_of_length_le (by omega), Nat.add_sub_cancel_left]
    rfl
  have hdiscarded : discardOrphanedSgrMouseTail (digits ++ report.final :: more) p =
      (more, p, true) := by
    have hinspected : digits.length < min (digits ++ report.final :: more).length
        (maxDiscardedControlTailBytes - p) := by
      rw [List.length_append, List.length_cons]
      omega
    simp only [discardOrphanedSgrMouseTail, hsearch _ hinspected, hat, Option.map_some,
      report.final_mouse, Option.getD_some, if_true, hrest]
  have hturn : ({ f with buffer := digits ++ report.final :: more } : RawInputByteFramer).turn =
      .ok (.again { f with
        buffer := more
        discardUntil := none
        discardedTailBytes := 0 }) := by
    simp only [RawInputByteFramer.turn, hescape, Bool.false_eq_true, if_false,
      RawInputByteFramer.plainTurn, hdiscard, RawInputByteFramer.discardTurn, if_true, hcount,
      hdiscarded]
  have hpush : f.push (report.bytes.drop p ++ more) = RawInputByteFramer.drainLoop
      (2 * (digits ++ report.final :: more).length + 1)
      { f with
        buffer := more
        discardUntil := none
        discardedTailBytes := 0 } := by
    rw [hdata]
    change RawInputByteFramer.drainAvailableChunks { f with
      buffer := f.buffer ++ (digits ++ report.final :: more) } = _
    rw [hbuf, List.nil_append, RawInputByteFramer.drainAvailableChunks, RawInputByteFramer.fuelFor,
      RawInputByteFramer.drainLoop, hturn]
    rfl
  obtain ⟨hmap, hsteady⟩ := RawInputByteFramer.drainLoop_steady
    (2 * (digits ++ report.final :: more).length + 1)
    (f := { f with
        buffer := more
        discardUntil := none
        discardedTailBytes := 0 }) ⟨hescape, rfl⟩
  rw [hpush]
  refine ⟨?_, hsteady⟩
  rw [hmap, drainAll]
  apply drainFuel_eq extractLen_stable _ _ _ _ le_rfl
  rw [List.length_append, List.length_cons]
  dsimp only
  omega

end

end SgrMouseReport

/-! ### Events of pushes -/

namespace RawInputFramer

/-- The events of a run of pushes. -/
def eventsOfPushes (f : RawInputFramer) (pieces : List (List UInt8)) :
    Except Panic (List (List UInt8 × RawInputEvent)) :=
  (f.deliverAll (pieces.map .push)).map Prod.snd

lemma eventsFromChunks_append (chunks chunks' : List (List UInt8)) :
    eventsFromChunks (chunks ++ chunks') = do
      let events ← eventsFromChunks chunks
      let events' ← eventsFromChunks chunks'
      return events ++ events' := by
  induction chunks with
  | nil =>
    cases h : eventsFromChunks chunks' with
    | error e => simp only [List.nil_append, h, eventsFromChunks, bind, Except.bind]
    | ok events => simp only [List.nil_append, h, eventsFromChunks, bind, Except.bind]; rfl
  | cons chunk chunks ih =>
    rw [List.cons_append, eventsFromChunks, ih, eventsFromChunks]
    cases eventFromChunk chunk with
    | error e => rfl
    | ok event =>
      cases eventsFromChunks chunks with
      | error e => rfl
      | ok events =>
        cases eventsFromChunks chunks' with
        | error e => cases event <;> rfl
        | ok events' => cases event <;> rfl

/-- The events of pushes are read from their chunks. -/
lemma eventsOfPushes_eq (b : RawInputByteFramer) (pieces : List (List UInt8)) :
    eventsOfPushes ⟨b⟩ pieces =
      ((b.pushAll pieces).map chunksAndRest).bind fun r => eventsFromChunks r.1 := by
  induction pieces generalizing b with
  | nil => rfl
  | cons data pieces ih =>
    cases hpush : b.push data with
    | error e =>
      simp only [eventsOfPushes, List.map_cons, deliverAll, Call.deliver, Call.apply, hpush, bind,
        Except.bind, pushAll, Except.map]
    | ok r =>
      obtain ⟨b', chunks⟩ := r
      have hrest := ih b'
      have hcall : eventsOfPushes ⟨b⟩ (data :: pieces) = do
          let events ← eventsFromChunks chunks
          let events' ← eventsOfPushes ⟨b'⟩ pieces
          return events ++ events' := by
        simp only [eventsOfPushes, List.map_cons, deliverAll, Call.deliver, Call.apply, hpush, bind,
          Except.bind]
        cases eventsFromChunks chunks with
        | error e => rfl
        | ok events =>
          simp only [pure, Except.pure]
          cases deliverAll ⟨b'⟩ (pieces.map .push) <;> rfl
      rw [hcall, hrest]
      simp only [pushAll, hpush, bind, Except.bind]
      cases b'.pushAll pieces with
      | error e =>
        -- there is one panic, so it does not matter which one comes first
        cases e
        cases eventsFromChunks chunks with
        | error e =>
          cases e
          rfl
        | ok events => rfl
      | ok r =>
        have happend := eventsFromChunks_append chunks r.2
        simp only [bind, Except.bind] at happend
        simp only [Except.map, chunksAndRest, pure, Except.pure, happend]

/-- A push to an empty steady framer, and the pushes after it. -/
lemma chunks_of_push {b : RawInputByteFramer} {data : List UInt8}
    {r : Except Panic (List (List UInt8) × List UInt8)}
    (hpush : (b.push data).map chunksAndRest = r)
    (hsteady : ∀ r, b.push data = .ok r → r.1.Steady) (pieces : List (List UInt8)) :
    (b.pushAll (data :: pieces)).map chunksAndRest = do
      let (chunks, rest) ← r
      let (chunks', rest') ← feed extractLen rest pieces
      return (chunks ++ chunks', rest') := by
  subst hpush
  rw [pushAll]
  cases hp : b.push data with
  | error e => rfl
  | ok r =>
    simp only [bind, Except.bind, Except.map, chunksAndRest]
    rw [← pushAll_steady pieces (hsteady r hp)]
    cases r.1.pushAll pieces <;> rfl

end RawInputFramer

namespace SgrMouseReport

open RawInputFramer

section
variable (report : SgrMouseReport) {p : Nat} {f : RawInputFramer} (more : List UInt8)
  (pieces : List (List UInt8))

lemma eventFromChunk_bytes : eventFromChunk report.bytes = .ok (some (.mouse report.event)) := by
  have hne : report.bytes ≠ [esc] := by
    intro heq
    have hlen := congrArg List.length heq
    rw [bytes_length, List.length_singleton] at hlen
    omega
  have hextract := report.extractOneEvent_bytes []
  rw [List.append_nil] at hextract
  rw [eventFromChunk, if_neg hne, hextract]
  rfl

/-- The whole report is one chunk. -/
lemma push_whole (hf : f.byteFramer.Idle) :
    (f.byteFramer.push (report.bytes ++ more)).map chunksAndRest =
        (drainAll extractLen more).map (fun (chunks, rest) => (report.bytes :: chunks, rest)) ∧
      ∀ r, f.byteFramer.push (report.bytes ++ more) = .ok r → r.1.Steady := by
  have hpush : f.byteFramer.push (report.bytes ++ more) =
      ({ f.byteFramer with
        buffer := report.bytes ++ more
        loneEscapeRecentlyFlushed := false } : RawInputByteFramer).drainAvailableChunks := by
    change drainAvailableChunks { f.byteFramer with
      buffer := f.byteFramer.buffer ++ (report.bytes ++ more) } = _
    rw [hf.empty, List.nil_append]
    exact drain_esc rfl
  have hlen : extractLen (report.bytes ++ more) = .ok (some report.bytes.length) := by
    rw [extractLen, report.extractOneEvent_bytes more]
    rfl
  obtain ⟨hmap, hsteady⟩ := drain_steady (f := { f.byteFramer with
    buffer := report.bytes ++ more
    loneEscapeRecentlyFlushed := false }) ⟨rfl, hf.no_discard⟩
  rw [hpush]
  refine ⟨?_, hsteady⟩
  rw [hmap, drainAll_eq extractLen_stable, hlen]
  simp only [List.take_left, List.drop_left]

/-- A report of at most 128 bytes in two pieces with a flush between them: nothing is delivered until
the second piece has come, and from then on what a framer delivers that never saw the report; the
whole report is a mouse event in front of that. -/
theorem split_report_delivered (hf : f.byteFramer.Idle) (hp : 3 ≤ p)
    (hlt : p < report.bytes.length)
    (hlong : report.bytes.length ≤ maxDiscardedControlTailBytes) :
    ∃ f₁ f₂, f.push (report.bytes.take p) = .ok (f₁, []) ∧ f₁.flushTimeout = .ok (f₂, []) ∧
      f₂.eventsOfPushes ((report.bytes.drop p ++ more) :: pieces) =
        eventsOfPushes ⟨{}⟩ (more :: pieces) ∧
      f.eventsOfPushes ((report.bytes ++ more) :: pieces) =
        (f₂.eventsOfPushes ((report.bytes.drop p ++ more) :: pieces)).map
          ((report.bytes, .mouse report.event) :: ·) := by
  obtain ⟨b₁, b₂, hpush, hflush, hbuf, hescape, hdiscard, hcount⟩ :=
    report.flush_first hf hp hlt hlong
  obtain ⟨hmap, hsteady⟩ := report.push_second hp hlt hlong hbuf hescape hdiscard hcount more
  have hsecond := chunks_of_push hmap hsteady pieces
  have hfresh : (({} : RawInputByteFramer).pushAll (more :: pieces)).map chunksAndRest =
      (b₂.pushAll ((report.bytes.drop p ++ more) :: pieces)).map chunksAndRest := by
    have hnew : Steady {} := ⟨rfl, rfl⟩
    rw [hsecond, chunks_of_push (push_steady hnew more).1 (push_steady hnew more).2 pieces]
    rfl
  have hunsplit : (f.byteFramer.pushAll ((report.bytes ++ more) :: pieces)).map chunksAndRest =
      ((b₂.pushAll ((report.bytes.drop p ++ more) :: pieces)).map chunksAndRest).map
        fun (chunks, rest) => (report.bytes :: chunks, rest) := by
    obtain ⟨hwhole, hwholeSteady⟩ := report.push_whole more hf
    rw [chunks_of_push hwhole hwholeSteady pieces, hsecond]
    cases drainAll extractLen more with
    | error e => rfl
    | ok r =>
      simp only [Except.map, bind, Except.bind]
      cases feed extractLen r.2 pieces <;> rfl
  refine ⟨⟨b₁⟩, ⟨b₂⟩, ?_, ?_, ?_, ?_⟩
  · simp only [RawInputFramer.push, hpush, bind, Except.bind]
    rfl
  · simp only [RawInputFramer.flushTimeout, hflush, bind, Except.bind]
    rfl
  · rw [eventsOfPushes_eq, eventsOfPushes_eq, hfresh]
  · change eventsOfPushes ⟨f.byteFramer⟩ _ = _
    rw [eventsOfPushes_eq, eventsOfPushes_eq, hunsplit]
    cases (b₂.pushAll ((report.bytes.drop p ++ more) :: pieces)).map chunksAndRest with
    | error e => rfl
    | ok r =>
      simp only [Except.map, Except.bind, eventsFromChunks, report.eventFromChunk_bytes, bind]
      cases eventsFromChunks r.1 <;> rfl

end

/-- A press of the left button at the first cell. -/
def leftPress : SgrMouseReport where
  params := asciiBytes "0;1;1"
  final := 0x4d
  event := ⟨.down .left, 0, 0, .empty⟩
  params_digits := by decide +kernel
  final_mouse := by decide
  parses := by decide

theorem split_report_delivered_leftPress :
    ∃ f₁ f₂, RawInputFramer.push ⟨{}⟩ (leftPress.bytes.take 3) = .ok (f₁, []) ∧
      f₁.flushTimeout = .ok (f₂, []) ∧
      f₂.eventsOfPushes [leftPress.bytes.drop 3 ++ [0x61]] = eventsOfPushes ⟨{}⟩ [[0x61]] ∧
      eventsOfPushes ⟨{}⟩ [leftPress.bytes ++ [0x61]] =
        (f₂.eventsOfPushes [leftPress.bytes.drop 3 ++ [0x61]]).map
          ((leftPress.bytes, .mouse leftPress.event) :: ·) :=
  leftPress.split_report_delivered [0x61] [] ⟨rfl, rfl⟩ (by decide) (by decide) (by decide)

/-- The same press with 121 more zeros in front of its button. -/
def paddedPress : SgrMouseReport where
  params := List.replicate 121 0x30 ++ asciiBytes "0;1;1"
  final := 0x4d
  event := ⟨.down .left, 0, 0, .empty⟩
  params_digits := by decide +kernel
  final_mouse := by decide
  parses := by decide +kernel

/-- Its first 129 bytes are more than the discarding may count, and the last byte is a key. -/
theorem paddedPress_leaks_key :
    ∃ f₁ f₂, RawInputFramer.push ⟨{}⟩ (paddedPress.bytes.take 129) = .ok (f₁, []) ∧
      f₁.flushTimeout = .ok (f₂, []) ∧
      f₂.eventsOfPushes [paddedPress.bytes.drop 129] =
        .ok [([0x4d], .key (.new (.char 'M') { shift := true }))] := by
  refine ⟨⟨{ buffer := paddedPress.bytes.take 129 }⟩, ⟨{ discardedTailBytes := 129 }⟩, ?_, ?_, ?_⟩
  · decide +kernel
  · decide +kernel
  · decide

end SgrMouseReport

end Ork3.Input
