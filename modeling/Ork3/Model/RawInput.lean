import Ork3.Model.TerminalKey

/-!
# The raw input framer

`raw_input.rs` splits the bytes read from the host terminal into one chunk per event. The loop of
`drain_available_chunks` runs on a fuel that covers every iteration it can make. `Panic` is the
slicing of a `#` colour inside a character.
-/

namespace Ork3.Input
open Ork3.Library

/-! ### Host replies -/

inductive DefaultColorKind where
  | foreground
  | background
deriving DecidableEq, Repr

structure RgbColor where
  r : UInt8
  g : UInt8
  b : UInt8
deriving DecidableEq, Repr

inductive HostAppearance where
  | dark
  | light
deriving DecidableEq, Repr

def parseHexComponent (component : List Char) : Option UInt8 := do
  let digits := byteLen component
  if component.isEmpty || digits > 4 || !component.all (fun c => (hexDigit c).isSome) then none
  let value ← digitsValue 16 hexDigit component
  let max := 2 ^ (digits * 4) - 1
  return UInt8.ofNat ((value * 255 + max / 2) / max)

/-- The slices are cut one after the other, and only while the components before them parse. -/
def parseHashColor (hex : List Char) : Except Panic (Option RgbColor) := do
  let digits := byteLen hex / 3
  if digits < 1 || digits > 4 || byteLen hex ≠ digits * 3 then return none
  let some r := parseHexComponent (← sliceBytes hex 0 digits) | return none
  let some g := parseHexComponent (← sliceBytes hex digits (digits * 2)) | return none
  let some b := parseHexComponent (← sliceBytes hex (digits * 2) (byteLen hex)) | return none
  return some ⟨r, g, b⟩

def parseRgbComponents (rgb : List Char) : Option RgbColor := do
  let parts := rgb.splitOn '/'
  let r ← parseHexComponent (← parts[0]?)
  let g ← parseHexComponent (← parts[1]?)
  let b ← parseHexComponent (← parts[2]?)
  if parts[3]?.isSome then none else some ⟨r, g, b⟩

def parseRgbColor (value : List Char) : Except Panic (Option RgbColor) :=
  match stripPrefix "rgb:".toList value with
  | some rgb => .ok (parseRgbComponents rgb)
  | none =>
    match stripPrefix ['#'] value with
    | some hex => parseHashColor hex
    | none => .ok none

/-- The command and the value between `ESC ]` and the terminator. -/
def defaultColorBody (sequence : List Char) : Option (DefaultColorKind × List Char) := do
  let body ← stripPrefix ['\x1b', ']'] sequence
  let body ← (stripSuffix ['\x1b', '\\'] body).or (stripSuffix ['\x07'] body)
  let (command, value) ← splitOnce ';' body
  let kind ← lookupText [("10", .foreground), ("11", .background)] command
  return (kind, value)

def parseDefaultColorResponse (sequence : List Char) :
    Except Panic (Option (DefaultColorKind × RgbColor)) :=
  match defaultColorBody sequence with
  | none => .ok none
  | some (kind, value) => (parseRgbColor value).map fun color => color.map (kind, ·)

/-! ### Mouse reports -/

inductive MouseButton where
  | left | middle | right
deriving DecidableEq, Repr

inductive MouseEventKind where
  | down (b : MouseButton)
  | up (b : MouseButton)
  | drag (b : MouseButton)
  | moved | scrollUp | scrollDown | scrollLeft | scrollRight
deriving DecidableEq, Repr

structure MouseEvent where
  kind : MouseEventKind
  column : Nat
  row : Nat
  modifiers : KeyModifiers
deriving DecidableEq, Repr

def parseMouseCb (cb : Nat) : Option (MouseEventKind × KeyModifiers) := do
  let buttonNumber := (cb &&& 0b00000011) ||| ((cb &&& 0b11000000) >>> 4)
  let kind ← match buttonNumber, cb.testBit 5 with
    | 0, false => some (.down .left)
    | 1, false => some (.down .middle)
    | 2, false => some (.down .right)
    | 0, true => some (.drag .left)
    | 1, true => some (.drag .middle)
    | 2, true => some (.drag .right)
    | 3, false => some (.up .left)
    | 3, true => some .moved
    | 4, true => some .moved
    | 5, true => some .moved
    | 4, false => some .scrollUp
    | 5, false => some .scrollDown
    | 6, false => some .scrollLeft
    | 7, false => some .scrollRight
    | _, _ => (none : Option MouseEventKind)
  return (kind, { shift := cb.testBit 2, alt := cb.testBit 3, control := cb.testBit 4 })

/-- `parse::<u16>().ok()?.checked_sub(1)?`. -/
def parseCoordinate (text : List Char) : Option Nat := do
  let n ← parseUnsigned 65535 text
  if n = 0 then none else some (n - 1)

def parseSgrMouse (sequence : List Char) : Option MouseEvent := do
  let body ← stripPrefix ['\x1b', '[', '<'] sequence
  let finalChar ← body.getLast?
  if finalChar ≠ 'M' ∧ finalChar ≠ 'm' then none
  let parts := body.dropLast.splitOn ';'
  let cb ← parseUnsigned 255 (← parts[0]?)
  let column ← parseCoordinate (← parts[1]?)
  let row ← parseCoordinate (← parts[2]?)
  let (kind, modifiers) ← parseMouseCb cb
  let kind := if finalChar = 'm' then
      match kind with
      | .down button => .up button
      | other => other
    else kind
  return ⟨kind, column, row, modifiers⟩

/-! ### Recognisers -/

def esc : UInt8 := 0x1b
def ghosttyColorSchemeDarkReport : List UInt8 := asciiBytes "\x1b[?997;1n"
def ghosttyColorSchemeLightReport : List UInt8 := asciiBytes "\x1b[?997;2n"
def bracketedPasteStart : List UInt8 := asciiBytes "\x1b[200~"
def bracketedPasteEnd : List UInt8 := asciiBytes "\x1b[201~"
def hostColorQueryReplies : Nat := 2
def maxOrphanedSgrMouseTailBytes : Nat := 32
def maxDiscardedControlTailBytes : Nat := 128

inductive RawInputEvent where
  | key (key : TerminalKey)
  | paste (text : List Char)
  | mouse (event : MouseEvent)
  | outerFocusGained
  | outerFocusLost
  | hostDefaultColor (kind : DefaultColorKind) (color : RgbColor)
  | hostColorSchemeChanged (appearance : HostAppearance)
  | unsupported
deriving DecidableEq, Repr

inductive ControlStringFamily where
  | osc | stTerminated | hostColorSchemeCsi | orphanedSgrMouseTail
deriving DecidableEq, Repr

inductive ControlString where
  | complete (len : Nat) (family : ControlStringFamily)
  | incomplete (family : ControlStringFamily)
deriving DecidableEq, Repr

def startsWith (pre buffer : List UInt8) : Bool := pre.isPrefixOf buffer

def stStringTerminator (buffer : List UInt8) : Option Nat :=
  (findSubsequence [esc, 0x5c] buffer).map (· + 2)

def oscStringTerminator (buffer : List UInt8) : Option Nat :=
  let st := (findSubsequence [esc, 0x5c] buffer).map (· + 2)
  let bel := (buffer.findIdx? (· = 0x07)).map (· + 1)
  match st, bel with
  | some st, some bel => some (min st bel)
  | some st, none => some st
  | none, some bel => some bel
  | none, none => none

def isMouseFinal (b : UInt8) : Bool := b = 0x4d || b = 0x6d

def controlStringTerminatorForFamily (buffer : List UInt8) : ControlStringFamily → Option Nat
  | .osc => oscStringTerminator buffer
  | .stTerminated => stStringTerminator buffer
  | .hostColorSchemeCsi => (buffer.findIdx? (· = 0x6e)).map (· + 1)
  | .orphanedSgrMouseTail => (buffer.findIdx? isMouseFinal).map (· + 1)

/-- The family that the first two bytes announce. -/
def controlStringFamily : List UInt8 → Option ControlStringFamily
  | first :: second :: _ =>
    if first ≠ esc then none
    else if second = 0x5d then some .osc
    else if second = 0x50 ∨ second = 0x5f ∨ second = 0x5e ∨ second = 0x58 then some .stTerminated
    else none
  | _ => none

def controlString (buffer : List UInt8) : Option ControlString :=
  (controlStringFamily buffer).map fun family =>
    match controlStringTerminatorForFamily buffer family with
    | some len => .complete len family
    | none => .incomplete family

def findCsiFinal (buffer : List UInt8) (finals : List UInt8) : Option Nat :=
  ((buffer.drop 2).findIdx? (fun b => finals.contains b)).map (· + 3)

def utf8CharWidth (first : UInt8) : Option Nat :=
  if first < 0x80 then some 1
  else if first &&& 0b11100000 = 0b11000000 then some 2
  else if first &&& 0b11110000 = 0b11100000 then some 3
  else if first &&& 0b11111000 = 0b11110000 then some 4
  else none

/-- `std::str::from_utf8(..).ok()`. -/
def utf8Text (bytes : List UInt8) : Option (List Char) := (fromUtf8 bytes).toOption

/-- `width` when the buffer starts with a whole character of that many bytes. -/
def completeCharLen (buffer : List UInt8) (width : Nat) : Option Nat :=
  if buffer.length < width then none
  else if (utf8Text (buffer.take width)).isNone then none
  else some width

def firstCompleteUtf8CharLen (buffer : List UInt8) : Option Nat := do
  let width ← utf8CharWidth (← buffer.head?)
  completeCharLen buffer width

def startsWithIncompleteUtf8Char (buffer : List UInt8) : Bool :=
  match fromUtf8 buffer with
  | .ok _ => false
  | .error err => err.validUpTo = 0 && err.errorLen.isNone

def csiFinals : List UInt8 :=
  asciiBytes "@ABCDEFGHIJKLMNOPQRSTUVWXYZ[\\]^_`abcdefghijklmnopqrstuvwxyz\x7b|\x7d~"

def mouseFinals : List UInt8 := [0x4d, 0x6d]

/-- A doubled ESC in front of an SGR mouse report: `some` when this case decides the length. -/
def escapedMouseLen (buffer : List UInt8) : Option (Option Nat) :=
  if startsWith (asciiBytes "\x1b\x1b[<") buffer then
    match findCsiFinal buffer.tail mouseFinals with
    | some mouseLen =>
      match utf8Text (buffer.tail.take mouseLen) with
      | some mouseSequence => if (parseSgrMouse mouseSequence).isSome then some (some 1) else none
      | none => some none
    | none => none
  else none

/-- The length of an escape sequence that starts with one ESC. -/
def singleEscapeLen (buffer : List UInt8) (second : UInt8) : Option Nat :=
  if startsWith (asciiBytes "\x1b[") buffer then
    if startsWith (asciiBytes "\x1b[<") buffer then findCsiFinal buffer mouseFinals
    else findCsiFinal buffer csiFinals
  else
    match controlString buffer with
    | some (.complete len _) => some len
    | some (.incomplete _) => none
    | none =>
      if startsWith (asciiBytes "\x1bO") buffer then
        if buffer.length ≥ 3 then some 3 else none
      else
        (utf8CharWidth second).bind fun escapedCharWidth =>
          (completeCharLen buffer.tail escapedCharWidth).map (1 + ·)

def completeEscapeSequenceLen : List UInt8 → Option Nat
  | [] => none
  | [_] => none
  | first :: second :: rest =>
    match escapedMouseLen (first :: second :: rest) with
    | some len => len
    | none =>
      if first = esc ∧ second = esc then
        (completeEscapeSequenceLen (second :: rest)).map (· + 1)
      else singleEscapeLen (first :: second :: rest) second

def parseHostColorSchemeReport (buffer : List UInt8) : Option HostAppearance :=
  if buffer = ghosttyColorSchemeDarkReport then some .dark
  else if buffer = ghosttyColorSchemeLightReport then some .light
  else none

/-- The event of a complete escape sequence. -/
def escapeEvent (bytes : List UInt8) (seq : List Char) : Except Panic RawInputEvent := do
  if let some (kind, color) ← parseDefaultColorResponse seq then
    return .hostDefaultColor kind color
  if seq = "\x1b[I".toList then return .outerFocusGained
  if seq = "\x1b[O".toList then return .outerFocusLost
  if let some appearance := parseHostColorSchemeReport bytes then
    return .hostColorSchemeChanged appearance
  if let some mouse := parseSgrMouse seq then return .mouse mouse
  if let some key := parseTerminalKeySequence seq then return .key key
  return .unsupported

def extractPaste (buffer : List UInt8) : Option (RawInputEvent × Nat) := do
  let stop ← findSubsequence bracketedPasteEnd buffer
  let content ← utf8Text ((buffer.take stop).drop bracketedPasteStart.length)
  return (.paste content, stop + bracketedPasteEnd.length)

def extractEscape (buffer : List UInt8) : Except Panic (Option (RawInputEvent × Nat)) :=
  match completeEscapeSequenceLen buffer with
  | none => .ok none
  | some seqLen =>
    match utf8Text (buffer.take seqLen) with
    | none => .ok none
    | some seq => (escapeEvent (buffer.take seqLen) seq).map fun event => some (event, seqLen)

def extractChar (buffer : List UInt8) : Option (RawInputEvent × Nat) := do
  let consumed ← firstCompleteUtf8CharLen buffer
  let text ← utf8Text (buffer.take consumed)
  let key ← parseTerminalKeySequence text
  return (.key key, consumed)

def extractOneEvent (buffer : List UInt8) : Except Panic (Option (RawInputEvent × Nat)) :=
  if buffer.isEmpty then .ok none
  else if startsWith bracketedPasteStart buffer then .ok (extractPaste buffer)
  else if buffer.head? = some esc then extractEscape buffer
  else .ok (extractChar buffer)

/-! ### The byte framer -/

structure RawInputByteFramer where
  buffer : List UInt8 := []
  discardUntil : Option ControlStringFamily := none
  discardedTailBytes : Nat := 0
  loneEscapeRecentlyFlushed : Bool := false
  hostColorRepliesAwaited : Nat := 0
  heldPendingColorEsc : Bool := false
  hostColorSchemeChangeTracking : Bool := false
deriving DecidableEq, Repr

def isSgrDigit (b : UInt8) : Bool := isAsciiDigit b || b = 0x3b

def startsWithIncompleteSgrMouseSequence (buffer : List UInt8) : Bool :=
  startsWith (asciiBytes "\x1b[<") buffer && (buffer.drop 3).all isSgrDigit

def startsWithIncompleteOrphanedSgrMouseTail (buffer : List UInt8) : Bool :=
  if buffer.length > maxOrphanedSgrMouseTailBytes then false
  else
    (buffer.length < 3 && startsWith buffer (asciiBytes "[<")) ||
      (startsWith (asciiBytes "[<") buffer && (buffer.drop 2).all isSgrDigit)

/-- The buffer without the tail, when a complete one was there. -/
def discardCompleteOrphanedSgrMouseTail (buffer : List UInt8) : Option (List UInt8) := do
  let terminatorLen ← controlStringTerminatorForFamily buffer .orphanedSgrMouseTail
  if terminatorLen > maxOrphanedSgrMouseTailBytes then none
  let sequence ← utf8Text (esc :: buffer.take terminatorLen)
  if (parseSgrMouse sequence).isNone then none
  return buffer.drop terminatorLen

/-- The buffer, the count of discarded bytes, and whether the discarding is over. -/
def discardOrphanedSgrMouseTail (buffer : List UInt8) (discardedTailBytes : Nat) :
    List UInt8 × Nat × Bool :=
  let remaining := maxDiscardedControlTailBytes - discardedTailBytes
  let inspected := min buffer.length remaining
  match (buffer.take inspected).findIdx? (fun b => !isSgrDigit b) with
  | some index =>
    if (buffer[index]?.map isMouseFinal).getD false then
      (buffer.drop (index + 1), discardedTailBytes, true)
    else (buffer.drop index, discardedTailBytes, true)
  | none =>
    ([], discardedTailBytes + inspected, decide (inspected < buffer.length))

def plausibleControlStringTail (buffer : List UInt8) : ControlStringFamily → Bool
  | .osc => buffer.all fun b => isAsciiDigit b || (asciiBytes ";:/#?._-+rgbRGB\x1b").contains b
  | .stTerminated => buffer.getLast? = some esc
  | .hostColorSchemeCsi => buffer.all fun b => isAsciiDigit b || (asciiBytes ";?n").contains b
  | .orphanedSgrMouseTail => buffer.all fun b => isAsciiDigit b || (asciiBytes ";Mm").contains b

def startsWithIncompleteDefaultColorResponse (buffer : List UInt8) : Bool :=
  controlString buffer = some (.incomplete .osc) &&
    (startsWith (asciiBytes "\x1b]10;") buffer || startsWith (asciiBytes "\x1b]11;") buffer)

def startsWithIncompleteHostColorSchemeReport (buffer : List UInt8) : Bool :=
  startsWith (asciiBytes "\x1b[?") buffer &&
    (startsWith buffer ghosttyColorSchemeDarkReport ||
      startsWith buffer ghosttyColorSchemeLightReport) &&
    buffer.length < ghosttyColorSchemeDarkReport.length

namespace RawInputByteFramer

def hostColorQuerySent (f : RawInputByteFramer) : RawInputByteFramer :=
  { f with hostColorRepliesAwaited := hostColorQueryReplies, heldPendingColorEsc := false }

def enableHostColorSchemeChangeTracking (f : RawInputByteFramer) : RawInputByteFramer :=
  { f with hostColorSchemeChangeTracking := true }

/-- What one turn of the loop does: leave it, go round again, or go round with a chunk. -/
inductive Turn where
  | exit (f : RawInputByteFramer)
  | again (f : RawInputByteFramer)
  | chunk (f : RawInputByteFramer) (bytes : List UInt8)

def noteEvent (f : RawInputByteFramer) : RawInputEvent → RawInputByteFramer
  | .hostDefaultColor _ _ => { f with hostColorRepliesAwaited := f.hostColorRepliesAwaited - 1 }
  | .hostColorSchemeChanged _ => if f.hostColorSchemeChangeTracking then f.hostColorQuerySent else f
  | _ => f

def extractTurn (f : RawInputByteFramer) : Except Panic Turn :=
  (extractOneEvent f.buffer).map fun
    | none => .exit f
    | some (event, consumed) =>
      .chunk { f.noteEvent event with
          heldPendingColorEsc := false
          buffer := f.buffer.drop consumed }
        (f.buffer.take consumed)

def discardTurn (f : RawInputByteFramer) (family : ControlStringFamily) : Turn :=
  if family = .orphanedSgrMouseTail then
    match discardOrphanedSgrMouseTail f.buffer f.discardedTailBytes with
    | (buffer, _, true) => .again { f with buffer := buffer, discardUntil := none, discardedTailBytes := 0 }
    | (buffer, discarded, false) => .exit { f with buffer := buffer, discardedTailBytes := discarded }
  else
    match controlStringTerminatorForFamily f.buffer family with
    | none => .exit f
    | some terminatorLen =>
      .again { f with
        buffer := f.buffer.drop terminatorLen
        discardUntil := none
        discardedTailBytes := 0 }

/-- The turn once no lone escape is pending. -/
def plainTurn (f : RawInputByteFramer) : Except Panic Turn :=
  match f.discardUntil with
  | some family => .ok (f.discardTurn family)
  | none => f.extractTurn

def turn (f : RawInputByteFramer) : Except Panic Turn :=
  if f.loneEscapeRecentlyFlushed then
    if startsWithIncompleteOrphanedSgrMouseTail f.buffer then .ok (.exit f)
    else
      match discardCompleteOrphanedSgrMouseTail f.buffer with
      | some buffer => .ok (.again { f with buffer := buffer, loneEscapeRecentlyFlushed := false })
      | none => plainTurn { f with loneEscapeRecentlyFlushed := false }
  else f.plainTurn

def drainLoop : Nat → RawInputByteFramer → Except Panic (RawInputByteFramer × List (List UInt8))
  | 0, f => .ok (f, [])
  | fuel + 1, f => do
    match ← f.turn with
    | .exit f => return (f, [])
    | .again f => drainLoop fuel f
    | .chunk f bytes =>
      let (f, chunks) ← drainLoop fuel f
      return (f, bytes :: chunks)

/-- A turn that goes round again takes bytes off the buffer or ends a discarding. -/
def fuelFor (f : RawInputByteFramer) : Nat := 2 * f.buffer.length + 2

def drainAvailableChunks (f : RawInputByteFramer) :
    Except Panic (RawInputByteFramer × List (List UInt8)) :=
  drainLoop f.fuelFor f

def push (f : RawInputByteFramer) (data : List UInt8) :
    Except Panic (RawInputByteFramer × List (List UInt8)) :=
  drainAvailableChunks { f with buffer := f.buffer ++ data }

/-- A flush while a control string is being discarded. -/
def flushDiscarding (f : RawInputByteFramer) (family : ControlStringFamily) : RawInputByteFramer :=
  if family = .orphanedSgrMouseTail then
    { f with buffer := [], discardUntil := none, discardedTailBytes := 0 }
  else
    let keepSplitSt := f.buffer.getLast? = some esc
    let keepDiscarding := plausibleControlStringTail f.buffer family
    let discarded := f.discardedTailBytes + f.buffer.length
    if keepDiscarding ∧ discarded ≤ maxDiscardedControlTailBytes then
      { f with buffer := if keepSplitSt then [esc] else [], discardedTailBytes := discarded }
    else { f with buffer := [], discardUntil := none, discardedTailBytes := 0 }

/-- `discard_or_buffer_orphaned_sgr_mouse_tail`. -/
def discardOrBufferOrphanedSgrMouseTail (f : RawInputByteFramer) : RawInputByteFramer :=
  match discardCompleteOrphanedSgrMouseTail f.buffer with
  | some buffer => { f with buffer := buffer }
  | none => { f with
      discardedTailBytes := f.buffer.length
      discardUntil := if f.buffer.length ≤ maxDiscardedControlTailBytes then
        some .orphanedSgrMouseTail else none
      buffer := [] }

/-- The flush of a lone ESC: held once while a colour reply is awaited, then released. -/
def flushLoneEscape (f : RawInputByteFramer) : RawInputByteFramer × List (List UInt8) :=
  if f.hostColorRepliesAwaited > 0 ∧ !f.heldPendingColorEsc then
    ({ f with heldPendingColorEsc := true }, [])
  else
    ({ f with
        hostColorRepliesAwaited := 0
        heldPendingColorEsc := false
        loneEscapeRecentlyFlushed := true
        buffer := [] }, [f.buffer])

/-- The flush of bytes that are neither a control string nor a lone ESC. -/
def flushText (f : RawInputByteFramer) : RawInputByteFramer × List (List UInt8) :=
  if ((utf8Text f.buffer).bind parseTerminalKeySequence).isSome then
    ({ f with buffer := [] }, [f.buffer])
  else if startsWithIncompleteUtf8Char f.buffer then (f, [])
  else if f.buffer.head? = some esc ∧ startsWithIncompleteUtf8Char f.buffer.tail then (f, [])
  else ({ f with loneEscapeRecentlyFlushed := false, buffer := [] }, [])

/-- The flush of a buffer in which nothing complete is left and nothing is being discarded. -/
def flushPending (f : RawInputByteFramer) : RawInputByteFramer × List (List UInt8) :=
  if f.buffer.isEmpty then (f, [])
  else if f.loneEscapeRecentlyFlushed ∧ startsWith (asciiBytes "[<") f.buffer then
    ({ f.discardOrBufferOrphanedSgrMouseTail with loneEscapeRecentlyFlushed := false }, [])
  else if startsWithIncompleteSgrMouseSequence f.buffer then
    ({ f with
        discardedTailBytes := f.buffer.length
        discardUntil := if f.buffer.length ≤ maxDiscardedControlTailBytes then
          some .orphanedSgrMouseTail else none
        buffer := [] }, [])
  else if startsWith bracketedPasteStart f.buffer ∧
      (findSubsequence bracketedPasteEnd f.buffer).isNone then (f, [])
  else if startsWithIncompleteDefaultColorResponse f.buffer then (f, [])
  else if startsWithIncompleteHostColorSchemeReport f.buffer then
    ({ f with discardUntil := some .hostColorSchemeCsi, discardedTailBytes := 0, buffer := [] }, [])
  else
    match controlString f.buffer with
    | some (.incomplete family) =>
      ({ f with discardUntil := some family, discardedTailBytes := 0, buffer := [] }, [])
    | _ => if f.buffer = [esc] then f.flushLoneEscape else f.flushText

def flushTimeout (f : RawInputByteFramer) : Except Panic (RawInputByteFramer × List (List UInt8)) := do
  let (f, chunks) ← f.drainAvailableChunks
  match f.discardUntil with
  | some family => return (f.flushDiscarding family, chunks)
  | none =>
    let (f, flushed) := f.flushPending
    return (f, chunks ++ flushed)

end RawInputByteFramer

/-! ### The event framer -/

structure RawInputFramer where
  byteFramer : RawInputByteFramer := {}
deriving DecidableEq, Repr

namespace RawInputFramer

def eventFromChunk (chunk : List UInt8) : Except Panic (Option RawInputEvent) :=
  if chunk = [esc] then .ok (some (.key (.new .esc .empty)))
  else (extractOneEvent chunk).map fun r => r.map (·.1)

/-- Each event with the chunk it was read from. -/
def eventsFromChunks : List (List UInt8) → Except Panic (List (List UInt8 × RawInputEvent))
  | [] => .ok []
  | chunk :: chunks => do
    let event ← eventFromChunk chunk
    let events ← eventsFromChunks chunks
    match event with
    | some event => return (chunk, event) :: events
    | none => return events

def push (f : RawInputFramer) (data : List UInt8) :
    Except Panic (RawInputFramer × List (List UInt8 × RawInputEvent)) := do
  let (byteFramer, chunks) ← f.byteFramer.push data
  return (⟨byteFramer⟩, ← eventsFromChunks chunks)

def hostColorQuerySent (f : RawInputFramer) : RawInputFramer := ⟨f.byteFramer.hostColorQuerySent⟩

def flushTimeout (f : RawInputFramer) :
    Except Panic (RawInputFramer × List (List UInt8 × RawInputEvent)) := do
  let (byteFramer, chunks) ← f.byteFramer.flushTimeout
  return (⟨byteFramer⟩, ← eventsFromChunks chunks)

end RawInputFramer

end Ork3.Input
