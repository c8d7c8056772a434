import Ork3.Library.Scanner
import Ork3.Library.Text

/-!
# Escape strings in the output of a pane

The byte automata of `pane/osc.rs` that read the output of a child: the tracker of default-colour
queries, which knows every kind of escape string, and the forwarder of clipboard writes, which knows
only the operating system commands.
-/

namespace Ork3.Pane

open Ork3.Library

/-! ### The automata -/

inductive DefaultColorOscTrackerState
  | ground | escape | oscBody | oscEscape | ignoreString | ignoreStringEscape | oversizedOsc
  | oversizedOscEscape
  deriving DecidableEq, Repr

inductive Osc52ForwarderState
  | ground | escape | oscBody | oscEscape
  deriving DecidableEq, Repr

def esc : UInt8 := 0x1b
def bel : UInt8 := 0x07
def rightBracket : UInt8 := 0x5d
def backslash : UInt8 := 0x5c
def semicolon : UInt8 := 0x3b

/-- The introducers of DCS, APC, PM and SOS strings. -/
def isIgnoredStringIntro (byte : UInt8) : Bool :=
  byte = 0x50 || byte = 0x5f || byte = 0x5e || byte = 0x58

/-- A state and the body of the command that is being read. -/
structure OscReader (σ : Type) where
  state : σ
  body : List UInt8
  deriving DecidableEq

/-- The branches of the trackers on one byte, with the body of a command that it ends. -/
def trackByte (reader : OscReader DefaultColorOscTrackerState) (byte : UInt8) :
    OscReader DefaultColorOscTrackerState × Option (List UInt8) :=
  match reader.state with
  | .ground => if byte = esc then (⟨.escape, reader.body⟩, none) else (reader, none)
  | .escape =>
    if byte = rightBracket then (⟨.oscBody, []⟩, none)
    else if isIgnoredStringIntro byte then (⟨.ignoreString, []⟩, none)
    else if byte = esc then (⟨.escape, reader.body⟩, none)
    else (⟨.ground, reader.body⟩, none)
  | .oscBody =>
    if byte = bel then (⟨.ground, []⟩, some reader.body)
    else if byte = esc then (⟨.oscEscape, reader.body⟩, none)
    else (⟨.oscBody, reader.body ++ [byte]⟩, none)
  | .oscEscape =>
    if byte = backslash then (⟨.ground, []⟩, some reader.body)
    else (⟨.oscBody, reader.body ++ [esc, byte]⟩, none)
  | .ignoreString =>
    if byte = esc then (⟨.ignoreStringEscape, reader.body⟩, none) else (reader, none)
  | .ignoreStringEscape =>
    if byte = backslash then (⟨.ground, reader.body⟩, none)
    else if byte ≠ esc then (⟨.ignoreString, reader.body⟩, none)
    else (reader, none)
  | .oversizedOsc =>
    if byte = esc then (⟨.oversizedOscEscape, reader.body⟩, none)
    else if byte = bel then (⟨.ground, reader.body⟩, none)
    else (reader, none)
  | .oversizedOscEscape =>
    if byte = backslash then (⟨.ground, reader.body⟩, none)
    else if byte ≠ esc then (⟨.oversizedOsc, reader.body⟩, none)
    else (reader, none)

attribute [grind =] trackByte

/-- One round of the trackers: a body over the limit is thrown away, and the rest of its command
skipped. -/
def trackerStep (limit : Nat) (reader : OscReader DefaultColorOscTrackerState) (byte : UInt8) :
    OscReader DefaultColorOscTrackerState × Option (List UInt8) :=
  let (reader, completed) := trackByte reader byte
  if reader.body.length > limit then (⟨.oversizedOsc, []⟩, completed) else (reader, completed)

attribute [grind =] trackerStep

/-- The branches of the forwarder on one byte. -/
def forwardByte (reader : OscReader Osc52ForwarderState) (byte : UInt8) :
    OscReader Osc52ForwarderState × Option (List UInt8) :=
  match reader.state with
  | .ground => if byte = esc then (⟨.escape, reader.body⟩, none) else (reader, none)
  | .escape =>
    if byte = rightBracket then (⟨.oscBody, []⟩, none)
    else if byte = esc then (⟨.escape, reader.body⟩, none)
    else (⟨.ground, reader.body⟩, none)
  | .oscBody =>
    if byte = bel then (⟨.ground, []⟩, some reader.body)
    else if byte = esc then (⟨.oscEscape, reader.body⟩, none)
    else (⟨.oscBody, reader.body ++ [byte]⟩, none)
  | .oscEscape =>
    if byte = backslash then (⟨.ground, []⟩, some reader.body)
    else (⟨.oscBody, reader.body ++ [esc, byte]⟩, none)

/-- One round of the forwarder: a body over the limit is thrown away. -/
def forwarderStep (limit : Nat) (reader : OscReader Osc52ForwarderState) (byte : UInt8) :
    OscReader Osc52ForwarderState × Option (List UInt8) :=
  let (reader, completed) := forwardByte reader byte
  if reader.body.length > limit then (⟨.ground, []⟩, completed) else (reader, completed)

/-! ### Default colours -/

inductive DefaultColorQuery
  | foreground | background | cursor
  deriving DecidableEq, Repr

inductive DefaultColorEvent
  | query (query : DefaultColorQuery)
  | set (query : DefaultColorQuery)
  | reset (query : DefaultColorQuery)
  | paletteQuery (index : UInt8)
  deriving DecidableEq, Repr

structure DefaultColorTrackedEvent where
  endOffset : Nat
  event : DefaultColorEvent
  deriving DecidableEq, Repr

/-- `strip_prefix` on bytes. -/
def stripFront (front bytes : List UInt8) : Option (List UInt8) :=
  if front.isPrefixOf bytes then some (bytes.drop front.length) else none

/-- `strip_suffix` on bytes. -/
def stripBack (back bytes : List UInt8) : Option (List UInt8) :=
  if back.isSuffixOf bytes then some (bytes.take (bytes.length - back.length)) else none

def parsePaletteColorQuery (body : List UInt8) : Option DefaultColorEvent := do
  let index ← stripBack (asciiBytes ";?") (← stripFront (asciiBytes "4;") body)
  if index.isEmpty || index.length > 3 || !index.all isAsciiDigit then none
  else
    let value := index.foldl (fun value digit => value * 10 + (digit.toNat - 0x30)) 0
    if value < 256 then some (.paletteQuery (UInt8.ofNat value)) else none

def parseDefaultColorSetEvent (body : List UInt8) : Option DefaultColorEvent := do
  let separator ← body.idxOf? semicolon
  let query ←
    if body.take separator = asciiBytes "10" then some DefaultColorQuery.foreground
    else if body.take separator = asciiBytes "11" then some .background
    else none
  let value := body.drop (separator + 1)
  if !value.isEmpty && value ≠ asciiBytes "?" then some (.set query) else none

def parseDefaultColorEvent (body : List UInt8) : Option DefaultColorEvent :=
  if body = asciiBytes "10;?" then some (.query .foreground)
  else if body = asciiBytes "11;?" then some (.query .background)
  else if body = asciiBytes "12;?" then some (.query .cursor)
  else if body = asciiBytes "110" || body = asciiBytes "110;" then some (.reset .foreground)
  else if body = asciiBytes "111" || body = asciiBytes "111;" then some (.reset .background)
  else (parsePaletteColorQuery body).or (parseDefaultColorSetEvent body)

structure DefaultColorEventTracker where
  reader : OscReader DefaultColorOscTrackerState
  pending : List DefaultColorTrackedEvent

namespace DefaultColorEventTracker

def maxBody : Nat := 1024

def default : DefaultColorEventTracker where
  reader := ⟨.ground, []⟩
  pending := []

/-- One byte at this index of a read. -/
def observeByte (tracker : DefaultColorEventTracker) (index : Nat) (byte : UInt8) :
    DefaultColorEventTracker :=
  let (reader, completed) := trackerStep maxBody tracker.reader byte
  let event := completed.bind parseDefaultColorEvent
  { reader := reader
    pending := tracker.pending ++ (event.map fun event => ⟨index + 1, event⟩).toList }

def observe (tracker : DefaultColorEventTracker) (bytes : List UInt8) : DefaultColorEventTracker :=
  bytes.zipIdx.foldl (fun tracker entry => tracker.observeByte entry.2 entry.1) tracker

def drainPending (tracker : DefaultColorEventTracker) :
    List DefaultColorTrackedEvent × DefaultColorEventTracker :=
  (tracker.pending, { tracker with pending := [] })

end DefaultColorEventTracker

/-! ### Clipboard writes -/

/-- 256 KiB of base64. -/
def osc52MaxPayloadBytes : Nat := 256 * 1024

/-- Accepts `52;c;<base64>` and `52;;<base64>`; `decode` is the decoder of standard base64. -/
def parseOsc52ClipboardWrite (decode : List UInt8 → Option (List UInt8)) (body : List UInt8) :
    Option (List UInt8) := do
  let rest ← stripFront (asciiBytes "52;") body
  let sep ← rest.idxOf? semicolon
  let selector := rest.take sep
  let data := rest.drop (sep + 1)
  if !(selector.isEmpty || selector = asciiBytes "c") || data = asciiBytes "?" then none
  else decode data

structure Osc52Forwarder where
  reader : OscReader Osc52ForwarderState
  pending : List (List UInt8)
  deriving DecidableEq

namespace Osc52Forwarder

variable (decode : List UInt8 → Option (List UInt8))

def default : Osc52Forwarder where
  reader := ⟨.ground, []⟩
  pending := []

def observeByte (forwarder : Osc52Forwarder) (byte : UInt8) : Osc52Forwarder :=
  let (reader, completed) := forwarderStep osc52MaxPayloadBytes forwarder.reader byte
  let content := completed.bind (parseOsc52ClipboardWrite decode)
  { reader := reader
    pending := forwarder.pending ++ content.toList }

def observe (forwarder : Osc52Forwarder) (bytes : List UInt8) : Osc52Forwarder :=
  bytes.foldl (observeByte decode) forwarder

def drainPending (forwarder : Osc52Forwarder) : List (List UInt8) × Osc52Forwarder :=
  (forwarder.pending, { forwarder with pending := [] })

/-- Observes one read after another and forwards what each one completed. -/
def forwardReads (forwarder : Osc52Forwarder) : List (List UInt8) → List (List UInt8)
  | [] => []
  | bytes :: reads =>
    let (writes, forwarder) := (forwarder.observe decode bytes).drainPending
    writes ++ forwardReads forwarder reads

attribute [grind =] forwardReads

end Osc52Forwarder

/-! ### Clearing the scrollback -/

/-- `\x1b[3J`. -/
def scrollbackClear : List UInt8 := [esc, 0x5b, 0x33, 0x4a]

/-- `\x1b[?3J`. -/
def privateScrollbackClear : List UInt8 := [esc, 0x5b, 0x3f, 0x33, 0x4a]

def containsScrollbackClearSequence (bytes : List UInt8) : Bool :=
  bytes.tails.any (fun window => scrollbackClear.isPrefixOf window) ||
    bytes.tails.any fun window => privateScrollbackClear.isPrefixOf window

/-- The loop over the remaining bytes; `skip` of them are passed over. -/
def filterScrollbackClear : Nat → List UInt8 → List UInt8
  | _, [] => []
  | skip + 1, _ :: rest => filterScrollbackClear skip rest
  | 0, byte :: rest =>
    if scrollbackClear.isPrefixOf (byte :: rest) then filterScrollbackClear 3 rest
    else if privateScrollbackClear.isPrefixOf (byte :: rest) then filterScrollbackClear 4 rest
    else byte :: filterScrollbackClear 0 rest

def stripScrollbackClearSequences (bytes : List UInt8) : List UInt8 :=
  if !containsScrollbackClearSequence bytes then bytes else filterScrollbackClear 0 bytes

end Ork3.Pane
