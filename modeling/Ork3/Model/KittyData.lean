import Ork3.Library.Base64
import Ork3.Library.Chunks

/-!
# Image data sent to the host terminal

`kitty_graphics.rs`, `encode_kitty_data`. The pixel data of an image goes out in chunks, each in
an escape sequence of its own. The base64 engine is a parameter.
-/

namespace Ork3.Graphics

open Ork3.Library

def kittyChunkBytes : Nat := 3072

/-- One escape sequence with a chunk of the data. Only the first one has control data. -/
structure KittyMessage where
  control : Option (List Char)
  more : Bool
  payload : List Char
  deriving DecidableEq

def KittyMessage.text (message : KittyMessage) : List Char :=
  let keys := message.control.elim [] fun control => control ++ [',']
  let more := if message.more then '1' else '0'
  "\x1b_G".toList ++ keys ++ "m=".toList ++ [more, ';'] ++ message.payload ++ "\x1b\\".toList

/-- The loop over the chunks; `peek` tells whether there is one behind. -/
def kittyMessages (base64 : Base64) (control : Option (List Char)) :
    List (List UInt8) → List KittyMessage
  | [] => []
  | chunk :: behind =>
    ⟨control, !behind.isEmpty, base64.encode chunk⟩ :: kittyMessages base64 none behind

def encodeKittyData (base64 : Base64) (out control : List Char) (data : List UInt8) : List Char :=
  out ++ (kittyMessages base64 (some control) (chunks kittyChunkBytes data)).flatMap
    KittyMessage.text

/-- What the terminal has when it has read the messages in turn. -/
def receivedData (base64 : Base64) : List KittyMessage → Option (List UInt8)
  | [] => some []
  | message :: behind => do
    let chunk ← base64.decode message.payload
    let data ← receivedData base64 behind
    some (chunk ++ data)

end Ork3.Graphics
