import Ork3.Model.Wire

/-!
# Messages survive the wire

Whatever the pieces in which a frame arrives, reading it takes exactly its bytes and gives back its
message. A frame that claims more than the limit is refused before its body is allocated.
-/

namespace Ork3.Protocol

open Ork3.Library

section
variable {M ε : Type*} {codec : Codec M} {reader : List (ReadEvent UInt8 ε)} {max : Nat}

/-! ### The length prefix -/

lemma u32FromLeBytes_toLeBytes {n : Nat} (hn : n ≤ u32Max) :
    u32FromLeBytes (u32ToLeBytes n) = n := by
  unfold u32Max at hn
  simp only [u32FromLeBytes, u32ToLeBytes, List.foldr_cons, List.foldr_nil, UInt8.toNat_ofNat']
  omega

lemma readExactOrEof_of_le {n : Nat} (h : Unfailing reader) (hn : n ≤ (streamed reader).length) :
    ∃ left, readExactOrEof n reader = (.ok ((streamed reader).take n), left) ∧
      streamed left = (streamed reader).drop n ∧ Unfailing left := by
  obtain ⟨left, hread, hleft, hfailing⟩ := readExact_of_le h hn
  refine ⟨left, ?_, hleft, hfailing⟩
  unfold readExactOrEof
  rw [hread]

/-! ### One message -/

/-- Decoding gives back every message that was encoded, and says that it consumed its bytes. -/
def Codec.Inverse (codec : Codec M) : Prop :=
  ∀ msg payload, codec.encode msg = .ok payload → codec.decode payload = .ok (msg, payload.length)

/-- The payload of this message is within the limit. -/
def Codec.Fits (codec : Codec M) (max : Nat) (msg : M) : Prop :=
  ∀ payload, codec.encode msg = .ok payload → payload.length ≤ max

/-- A written frame is the length of its payload and the payload. -/
lemma writeMessage_ok {writer frame : List UInt8} {msg : M}
    (h : writeMessage (ε := ε) codec writer msg = .ok frame) :
    ∃ payload, codec.encode msg = .ok payload ∧ payload.length ≤ u32Max ∧
      frame = writer ++ (u32ToLeBytes payload.length ++ payload) := by
  unfold writeMessage at h
  cases hencode : codec.encode msg with
  | error e => simp [hencode] at h
  | ok payload =>
    rw [hencode] at h
    dsimp only at h
    split at h
    · cases h
    · next hlen =>
      refine ⟨payload, rfl, not_lt.mp hlen, ?_⟩
      rw [← Except.ok.inj h, List.append_assoc]

/-- A stream that starts with a length prefix: what is read is decided by the claimed length. -/
lemma readMessage_of_lenBuf (codec : Codec M) (max : Nat) (h : Unfailing reader)
    {lenBuf body : List UInt8} (hfour : lenBuf.length = lengthPrefixBytes)
    (hstream : streamed reader = lenBuf ++ body) :
    ∃ left, streamed left = body ∧ Unfailing left ∧ readMessage codec max reader =
      if u32FromLeBytes lenBuf > max then
        ⟨.error (.oversized (u32FromLeBytes lenBuf) max), left, []⟩
      else readBody codec (u32FromLeBytes lenBuf) left := by
  obtain ⟨left, hread, hleft, hfailing⟩ := readExactOrEof_of_le (n := lengthPrefixBytes) h
    (by rw [hstream, List.length_append]; omega)
  rw [hstream, ← hfour, List.drop_left] at hleft
  rw [hstream, ← hfour, List.take_left] at hread
  refine ⟨left, hleft, hfailing, ?_⟩
  unfold readMessage
  rw [← hfour, hread]

/-- A body that is there is decoded, and its bytes are consumed. -/
lemma readBody_of_stream (codec : Codec M) (h : Unfailing reader) {payload more : List UInt8}
    (hstream : streamed reader = payload ++ more) :
    ∃ left, readBody codec payload.length reader =
        ⟨decodePayload codec payload payload.length, left, [payload.length]⟩ ∧
      streamed left = more ∧ Unfailing left := by
  obtain ⟨left, hbody, hleft, hfailing⟩ := readExactOrEof_of_le (n := payload.length) h
    (by rw [hstream, List.length_append]; omega)
  rw [hstream, List.drop_left] at hleft
  rw [hstream, List.take_left] at hbody
  refine ⟨left, ?_, hleft, hfailing⟩
  unfold readBody
  rw [hbody]

/-- A written frame within the limit is read back, byte for byte. -/
lemma readMessage_of_written (hcodec : codec.Inverse) (h : Unfailing reader) {msg : M}
    (hfits : codec.Fits max msg) {writer frame more : List UInt8}
    (hwrite : writeMessage (ε := ε) codec writer msg = .ok frame)
    (hstream : writer ++ streamed reader = frame ++ more) :
    ∃ left allocated, readMessage codec max reader = ⟨.ok msg, left, allocated⟩ ∧
      streamed left = more ∧ Unfailing left := by
  obtain ⟨payload, hencode, hlen, rfl⟩ := writeMessage_ok hwrite
  have hstream : streamed reader = u32ToLeBytes payload.length ++ (payload ++ more) := by
    simpa using hstream
  obtain ⟨left, hleft, hfailing, hread⟩ := readMessage_of_lenBuf codec max h rfl hstream
  rw [u32FromLeBytes_toLeBytes hlen] at hread
  obtain ⟨left', hbody, hleft', hfailing'⟩ := readBody_of_stream codec hfailing hleft
  refine ⟨left', [payload.length], ?_, hleft', hfailing'⟩
  have hdecode : decodePayload (ε := ε) codec payload payload.length = .ok msg := by
    unfold decodePayload
    rw [hcodec msg payload hencode]
    exact if_neg (not_not.mpr rfl)
  rw [hread, if_neg (not_lt.mpr (hfits payload hencode)), hbody, hdecode]

/-! ### Many messages -/

/-- What is written first stays in front. -/
lemma writeMessages_append {writer frames : List UInt8} {msgs : List M}
    (h : writeMessages (ε := ε) codec writer msgs = .ok frames) :
    ∃ more, frames = writer ++ more := by
  induction msgs generalizing writer with
  | nil => exact ⟨[], by rw [← Except.ok.inj h, List.append_nil]⟩
  | cons msg msgs ih =>
    unfold writeMessages at h
    cases hwrite : writeMessage (ε := ε) codec writer msg with
    | error e => simp [hwrite] at h
    | ok writer' =>
      rw [hwrite] at h
      obtain ⟨more, hmore⟩ := ih h
      obtain ⟨payload, -, -, rfl⟩ := writeMessage_ok hwrite
      exact ⟨_, hmore.trans (List.append_assoc _ _ _)⟩

/-- Messages written one after another are read back one after another. -/
lemma readMessages_of_written (hcodec : codec.Inverse) (h : Unfailing reader) {msgs : List M}
    (hfits : ∀ msg ∈ msgs, codec.Fits max msg) {writer frames more : List UInt8}
    (hwrite : writeMessages (ε := ε) codec writer msgs = .ok frames)
    (hstream : writer ++ streamed reader = frames ++ more) :
    ∃ left, readMessages codec max msgs.length reader = (.ok msgs, left) ∧
      streamed left = more ∧ Unfailing left := by
  induction msgs generalizing writer reader with
  | nil =>
    obtain rfl := Except.ok.inj hwrite
    exact ⟨reader, rfl, List.append_cancel_left hstream, h⟩
  | cons msg msgs ih =>
    unfold writeMessages at hwrite
    cases hone : writeMessage (ε := ε) codec writer msg with
    | error e => simp [hone] at hwrite
    | ok writer' =>
      rw [hone] at hwrite
      obtain ⟨frames', rfl⟩ := writeMessages_append hwrite
      rw [List.append_assoc] at hstream
      obtain ⟨left, allocated, hread, hleft, hfailing⟩ :=
        readMessage_of_written hcodec h (hfits msg List.mem_cons_self) hone hstream
      obtain ⟨left', hrest, hleft', hfailing'⟩ :=
        ih hfailing (fun m hm => hfits m (List.mem_cons_of_mem _ hm)) hwrite
          (by rw [hleft, List.append_assoc])
      refine ⟨left', ?_, hleft', hfailing'⟩
      rw [List.length_cons, readMessages, hread]
      dsimp only
      rw [hrest]
      rfl

/-! ### Refusals -/

/-- A claimed length over the limit is refused with nothing allocated. -/
lemma readMessage_of_oversized (codec : Codec M) (max : Nat) (h : Unfailing reader)
    {lenBuf body : List UInt8} (hfour : lenBuf.length = lengthPrefixBytes) (hover : max < u32FromLeBytes lenBuf)
    (hstream : streamed reader = lenBuf ++ body) :
    ∃ left, readMessage codec max reader =
      ⟨.error (.oversized (u32FromLeBytes lenBuf) max), left, []⟩ := by
  obtain ⟨left, -, -, hread⟩ := readMessage_of_lenBuf codec max h hfour hstream
  exact ⟨left, by rw [hread, if_pos hover]⟩

/-- A body of which the decoder leaves bytes is refused. -/
lemma readMessage_of_trailing (h : Unfailing reader) {lenBuf payload more : List UInt8} {msg : M}
    {consumed : Nat} (hfour : lenBuf.length = lengthPrefixBytes)
    (hlen : u32FromLeBytes lenBuf = payload.length)
    (hstream : streamed reader = lenBuf ++ (payload ++ more))
    (hdecode : codec.decode payload = .ok (msg, consumed)) (htrailing : consumed < payload.length) :
    ∃ e, (readMessage codec max reader).result = .error e := by
  obtain ⟨left, hleft, hfailing, hread⟩ := readMessage_of_lenBuf codec max h hfour hstream
  obtain ⟨left', hbody, -, -⟩ := readBody_of_stream codec hfailing hleft
  rw [hlen] at hread
  by_cases hover : payload.length > max
  · exact ⟨_, by rw [hread, if_pos hover]⟩
  · rw [hread, if_neg hover, hbody, decodePayload, hdecode]
    exact ⟨_, if_pos (Nat.ne_of_lt htrailing)⟩

/-- No buffer is larger than the limit. -/
lemma allocated_le (codec : Codec M) (max : Nat) (reader : List (ReadEvent UInt8 ε)) :
    ∀ size ∈ (readMessage codec max reader).allocated, size ≤ max := by
  unfold readMessage readBody
  split
  · simp
  · dsimp only
    split
    · simp
    · next hle =>
      split <;> simpa using not_lt.mp hle

/-- Messages written within the reader's limit are read back as the same sequence from any split of
the stream, and exactly their bytes are consumed. A length over the limit and a body with trailing
bytes are errors, and no buffer is ever larger than the limit. -/
theorem messages_survive_framing (hcodec : codec.Inverse) (h : Unfailing reader) :
    (∀ msgs frames more, (∀ msg ∈ msgs, codec.Fits max msg) →
      writeMessages (ε := ε) codec [] msgs = .ok frames → streamed reader = frames ++ more →
      ∃ left, readMessages codec max msgs.length reader = (.ok msgs, left) ∧
        streamed left = more) ∧
    (∀ lenBuf body, lenBuf.length = lengthPrefixBytes → max < u32FromLeBytes lenBuf →
      streamed reader = lenBuf ++ body →
      ∃ left, readMessage codec max reader =
        ⟨.error (.oversized (u32FromLeBytes lenBuf) max), left, []⟩) ∧
    (∀ lenBuf payload more msg consumed, lenBuf.length = lengthPrefixBytes →
      u32FromLeBytes lenBuf = payload.length → streamed reader = lenBuf ++ (payload ++ more) →
      codec.decode payload = .ok (msg, consumed) → consumed < payload.length →
      ∃ e, (readMessage codec max reader).result = .error e) ∧
    ∀ size ∈ (readMessage codec max reader).allocated, size ≤ max := by
  refine ⟨?_, ?_, ?_, allocated_le codec max reader⟩
  · intro msgs frames more hfits hwrite hstream
    have hstream : [] ++ streamed reader = frames ++ more := by rw [List.nil_append, hstream]
    obtain ⟨left, hread, hleft, -⟩ := readMessages_of_written hcodec h hfits hwrite hstream
    exact ⟨left, hread, hleft⟩
  · intro lenBuf body hfour hover hstream
    exact readMessage_of_oversized codec max h hfour hover hstream
  · intro lenBuf payload more msg consumed hfour hlen hstream hdecode htrailing
    exact readMessage_of_trailing h hfour hlen hstream hdecode htrailing

end

/-! ### Examples -/

/-- Messages that are their own encoding. -/
def bytesCodec : Codec (List UInt8) where
  encode := .ok
  decode := fun payload => .ok (payload, payload.length)

/-- Two messages, split in the middle of the second length, before a byte of a third. -/
def splitReader : List (ReadEvent UInt8 String) :=
  [.piece 1 [0, 0, 0, 7, 2, 0], .interrupted, .piece 0 [0, 8, 9, 5]]

/-- The messages are read under either limit. -/
theorem split_messages_read :
    (∃ left, readMessages bytesCodec maxFrameSize 2 splitReader = (.ok [[7], [8, 9]], left) ∧
      streamed left = [5]) ∧
    ∃ left, readMessages bytesCodec maxGraphicsFrameSize 2 splitReader =
      (.ok [[7], [8, 9]], left) ∧ streamed left = [5] := by
  have hcodec : bytesCodec.Inverse := by
    intro msg payload h
    obtain rfl := Except.ok.inj h
    rfl
  have hfits : ∀ max, 2 ≤ max → ∀ msg ∈ [[7], [8, 9]], bytesCodec.Fits max msg := by
    intro max hmax msg hmsg payload h
    obtain rfl := Except.ok.inj h
    have hshort : msg.length ≤ 2 := by
      simp only [List.mem_cons, List.not_mem_nil, or_false] at hmsg
      rcases hmsg with rfl | rfl <;> decide
    exact hshort.trans hmax
  have hunfailing : Unfailing splitReader := by
    intro e
    simp [splitReader]
  constructor
  · exact (messages_survive_framing hcodec hunfailing).1 [[7], [8, 9]]
      [1, 0, 0, 0, 7, 2, 0, 0, 0, 8, 9] [5] (hfits maxFrameSize (by decide)) (by decide +kernel) rfl
  · exact (messages_survive_framing hcodec hunfailing).1 [[7], [8, 9]]
      [1, 0, 0, 0, 7, 2, 0, 0, 0, 8, 9] [5] (hfits maxGraphicsFrameSize (by decide))
      (by decide +kernel) rfl

/-- A message over the limit of its reader is written, and refused when it is read. -/
theorem written_message_refused :
    ∃ (msg frame : List UInt8) (reader : List (ReadEvent UInt8 String)),
      bytesCodec.Inverse ∧ writeMessage (ε := String) bytesCodec [] msg = .ok frame ∧
      Unfailing reader ∧ streamed reader = frame ∧
      (readMessage bytesCodec maxFrameSize reader).result ≠ .ok msg := by
  have hlen : (List.replicate (maxFrameSize + 1) (0 : UInt8)).length = maxFrameSize + 1 :=
    List.length_replicate
  generalize hmsg : List.replicate (maxFrameSize + 1) (0 : UInt8) = msg at hlen
  have hbound : maxFrameSize + 1 ≤ u32Max := by decide
  have hwrite : writeMessage (ε := String) bytesCodec [] msg =
      .ok (u32ToLeBytes msg.length ++ msg) := by
    unfold writeMessage bytesCodec
    dsimp only
    rw [if_neg (by omega), List.nil_append]
  have hstream : streamed (putBack (u32ToLeBytes msg.length ++ msg)
      ([] : List (ReadEvent UInt8 String))) = u32ToLeBytes msg.length ++ msg := by
    rw [streamed_putBack]
    exact List.append_nil _
  have hunfailing : Unfailing (putBack (u32ToLeBytes msg.length ++ msg)
      ([] : List (ReadEvent UInt8 String))) := Unfailing.putBack (by intro e; simp) _
  refine ⟨msg, _, _, ?_, hwrite, hunfailing, hstream, ?_⟩
  · intro m payload h
    obtain rfl := Except.ok.inj h
    rfl
  · obtain ⟨left, hread⟩ := readMessage_of_oversized bytesCodec maxFrameSize hunfailing rfl
      (by rw [u32FromLeBytes_toLeBytes (by omega)]; omega) hstream
    rw [hread]
    simp

end Ork3.Protocol
