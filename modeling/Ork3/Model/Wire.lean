import Ork3.Library.SplitStream

/-!
# Length-prefixed messages

The framing of `protocol/wire.rs`: a little-endian `u32` length and the bincode payload. The
encoding of a message is a parameter; what a reader allocates on the heap is part of the outcome.
-/

namespace Ork3.Protocol

open Ork3.Library

/-- Maximum allowed frame payload size (2 MB). -/
def maxFrameSize : Nat := 2 * 1024 * 1024

/-- The cap on server-to-client frames with Kitty graphics. -/
def maxGraphicsFrameSize : Nat := 32 * 1024 * 1024

def lengthPrefixBytes : Nat := 4

def u32Max : Nat := 2 ^ 32 - 1

inductive FramingError (ε : Type*)
  | oversized (claimed max : Nat)
  | io (error : ε)
  | bincode (message : String)
  | unexpectedEof
  deriving DecidableEq

section
variable {M ε : Type*}

/-- `encode_to_vec` and `decode_from_slice`, which also says how many bytes it consumed. -/
structure Codec (M : Type*) where
  encode : M → Except String (List UInt8)
  decode : List UInt8 → Except String (M × Nat)

def u32ToLeBytes (n : Nat) : List UInt8 :=
  [UInt8.ofNat n, UInt8.ofNat (n / 2 ^ 8), UInt8.ofNat (n / 2 ^ 16), UInt8.ofNat (n / 2 ^ 24)]

def u32FromLeBytes (bytes : List UInt8) : Nat :=
  bytes.foldr (fun byte n => byte.toNat + 2 ^ 8 * n) 0

/-- Appends the frame of a message to what was written. -/
def writeMessage (codec : Codec M) (writer : List UInt8) (msg : M) :
    Except (FramingError ε) (List UInt8) :=
  match codec.encode msg with
  | .error e => .error (.bincode e)
  | .ok payload =>
    let len := payload.length
    if len > u32Max then
      .error (.bincode ("payload length " ++ toString len ++ " exceeds u32::MAX (" ++
        toString u32Max ++ "), would be truncated by length prefix"))
    else .ok (writer ++ u32ToLeBytes len ++ payload)

/-- `read_exact` with its own error for the end of the stream. -/
def readExactOrEof (n : Nat) (reader : List (ReadEvent UInt8 ε)) :
    Except (FramingError ε) (List UInt8) × List (ReadEvent UInt8 ε) :=
  match readExact n reader with
  | (.ok bytes, reader) => (.ok bytes, reader)
  | (.error .unexpectedEof, reader) => (.error .unexpectedEof, reader)
  | (.error (.failed e), reader) => (.error (.io e), reader)

/-- What reading a message gives, what it leaves to be read and the buffers it allocated. -/
structure ReadOutcome (M ε : Type*) where
  result : Except (FramingError ε) M
  reader : List (ReadEvent UInt8 ε)
  allocated : List Nat

/-- Decodes a payload, all of which the decoder has to consume. -/
def decodePayload (codec : Codec M) (payload : List UInt8) (claimedLen : Nat) :
    Except (FramingError ε) M :=
  match codec.decode payload with
  | .error e => .error (.bincode e)
  | .ok (msg, consumed) =>
    if consumed ≠ claimedLen then
      .error (.bincode ("decoded " ++ toString consumed ++ " bytes but payload length was " ++
        toString claimedLen ++ "; trailing bytes are not allowed"))
    else .ok msg

/-- The part of `read_message` after the length prefix was accepted. -/
def readBody (codec : Codec M) (claimedLen : Nat) (reader : List (ReadEvent UInt8 ε)) :
    ReadOutcome M ε :=
  match readExactOrEof claimedLen reader with
  | (.error e, reader) => ⟨.error e, reader, [claimedLen]⟩
  | (.ok payload, reader) => ⟨decodePayload codec payload claimedLen, reader, [claimedLen]⟩

def readMessage (codec : Codec M) (maxFrameSize : Nat) (reader : List (ReadEvent UInt8 ε)) :
    ReadOutcome M ε :=
  match readExactOrEof lengthPrefixBytes reader with
  | (.error e, reader) => ⟨.error e, reader, []⟩
  | (.ok lenBuf, reader) =>
    let claimedLen := u32FromLeBytes lenBuf
    if claimedLen > maxFrameSize then ⟨.error (.oversized claimedLen maxFrameSize), reader, []⟩
    else readBody codec claimedLen reader

/-- Reads messages one after another, up to the first error. -/
def readMessages (codec : Codec M) (maxFrameSize : Nat) :
    Nat → List (ReadEvent UInt8 ε) → Except (FramingError ε) (List M) × List (ReadEvent UInt8 ε)
  | 0, reader => (.ok [], reader)
  | count + 1, reader =>
    match readMessage codec maxFrameSize reader with
    | ⟨.error e, reader, _⟩ => (.error e, reader)
    | ⟨.ok msg, reader, _⟩ =>
      let (rest, reader) := readMessages codec maxFrameSize count reader
      (rest.map (msg :: ·), reader)

/-- Writes messages one after another, up to the first error. -/
def writeMessages (codec : Codec M) (writer : List UInt8) :
    List M → Except (FramingError ε) (List UInt8)
  | [] => .ok writer
  | msg :: msgs =>
    match writeMessage codec writer msg with
    | .error e => .error e
    | .ok writer => writeMessages codec writer msgs

end

end Ork3.Protocol
