import Ork3.Model.KittyData

/-!
# Image data in chunks
-/

namespace Ork3.Graphics

open Ork3.Library

/-- The bound of the protocol on the payload of one escape sequence. -/
def kittyPayloadBound : Nat := 4096

section
variable (base64 : Base64) (control : Option (List Char)) (pieces : List (List UInt8))

lemma length_kittyMessages : (kittyMessages base64 control pieces).length = pieces.length := by
  induction pieces generalizing control with
  | nil => rfl
  | cons chunk behind ih => rw [kittyMessages, List.length_cons, List.length_cons, ih]

lemma receivedData_kittyMessages :
    receivedData base64 (kittyMessages base64 control pieces) = some pieces.flatten := by
  induction pieces generalizing control with
  | nil => rfl
  | cons chunk behind ih =>
    rw [kittyMessages, receivedData, base64.decode_encode, ih, List.flatten_cons]
    rfl

/-- The message at a position holds the chunk there, and says whether one follows. -/
lemma getElem?_kittyMessages {i : Nat} {message : KittyMessage}
    (h : (kittyMessages base64 control pieces)[i]? = some message) :
    (message.more = true ↔ i + 1 < pieces.length) ∧
      message.control = (if i = 0 then control else none) ∧
      ∃ chunk, pieces[i]? = some chunk ∧ message.payload = base64.encode chunk := by
  induction pieces generalizing control i with
  | nil => simp [kittyMessages] at h
  | cons chunk behind ih =>
    rw [kittyMessages] at h
    cases i with
    | zero =>
      rw [List.getElem?_cons_zero, Option.some_inj] at h
      subst h
      refine ⟨?_, by simp, chunk, by simp, rfl⟩
      cases behind <;> simp
    | succ i =>
      rw [List.getElem?_cons_succ] at h
      obtain ⟨hmore, hcontrol, piece, hpiece, hpayload⟩ := ih none h
      refine ⟨?_, ?_, piece, by simpa using hpiece, hpayload⟩
      · rw [hmore, List.length_cons]
        omega
      · rw [hcontrol]
        simp

end

/-- What is sent for the data is a run of messages. The terminal that decodes their payloads has
the data, every message but the last announces another one, only the first has control data, and
a payload is at most as long as the protocol allows, one that is continued a multiple of four. -/
theorem encodeKittyData_chunks (base64 : Base64) (out control : List Char) (data : List UInt8) :
    ∃ messages, encodeKittyData base64 out control data = out ++ messages.flatMap KittyMessage.text ∧
      receivedData base64 messages = some data ∧
      (messages = [] ↔ data = []) ∧
      ∀ i message, messages[i]? = some message →
        (message.more = true ↔ i + 1 < messages.length) ∧
        message.control = (if i = 0 then some control else none) ∧
        message.payload.length ≤ kittyPayloadBound ∧
        (message.more = true → 4 ∣ message.payload.length) := by
  have hsize : 0 < kittyChunkBytes := by decide
  refine ⟨_, rfl, ?_, ?_, ?_⟩
  · rw [receivedData_kittyMessages, flatten_chunks hsize]
  · rw [← List.length_eq_zero_iff, length_kittyMessages, length_chunks, ← List.length_eq_zero_iff,
      Nat.div_eq_zero_iff]
    omega
  · intro i message h
    obtain ⟨hmore, hcontrol, chunk, hchunk, hpayload⟩ := getElem?_kittyMessages _ _ _ h
    have hlength := length_le_of_mem_chunks (List.mem_of_getElem? hchunk)
    rw [length_kittyMessages, hpayload, base64.length_encode]
    refine ⟨hmore, hcontrol, ?_, fun _ => Nat.dvd_mul_right 4 _⟩
    have hbytes : kittyChunkBytes = 3072 := rfl
    have hbound : kittyPayloadBound = 4096 := rfl
    omega

example : encodeKittyData Base64.standard [] "a=t".toList "hi".toUTF8.toList =
    "\x1b_Ga=t,m=0;aGk=\x1b\\".toList := by
  decide +kernel

end Ork3.Graphics
