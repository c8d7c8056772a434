import Ork3.Model.RawInput
import Ork3.Model.Xtgettcap

/-!
# The order of responses to a child

`write_pty_bytes_with_ordered_responses` of `pane/terminal.rs`: a chunk is written to the terminal in
slices, between which the queries that the trackers found in it are answered. The terminal is a
parameter; what its callback receives during a write is part of what `write` returns.
-/

namespace Ork3.Pane

open Ork3.Library
open Ork3.Input (RgbColor DefaultColorKind)

structure TerminalTheme where
  foreground : Option RgbColor
  background : Option RgbColor
deriving DecidableEq

/-- The calls of the terminal that the answers need; a failed call answers `none`. -/
structure TerminalCalls (T : Type) where
  write : T → List UInt8 → T × List (List UInt8)
  effectiveCursorColor : T → Option RgbColor
  effectiveForegroundColor : T → Option RgbColor
  paletteColor : T → UInt8 → Option RgbColor

/-- The parts of a pane that a write reads or changes. -/
structure GhosttyPane (T : Type) where
  terminal : T
  hostTerminalTheme : TerminalTheme
  childDefaultForegroundChanged : Bool
  childDefaultBackgroundChanged : Bool
  transientDefaultColorOwnerPgid : Option UInt32
  pendingPtyResponses : List (List UInt8)

inductive OrderedPtyResponseEvent
  | defaultColor (event : DefaultColorTrackedEvent)
  | xtgettcap (response : XtgettcapResponse)
deriving DecidableEq

def OrderedPtyResponseEvent.endOffset : OrderedPtyResponseEvent → Nat
  | .defaultColor event => event.endOffset
  | .xtgettcap response => response.endOffset

/-! ### Texts -/

def hexDigitLower (n : Nat) : UInt8 := if n < 10 then UInt8.ofNat (0x30 + n) else UInt8.ofNat (0x57 + n)

/-- `{:02x}` of a byte. -/
def hexByte (byte : UInt8) : List UInt8 :=
  [hexDigitLower (byte.toNat / 16), hexDigitLower (byte.toNat % 16)]

/-- `{:04x}` of a number below 2^16. -/
def hexWord (n : Nat) : List UInt8 :=
  [hexDigitLower (n / 4096), hexDigitLower (n / 256 % 16), hexDigitLower (n / 16 % 16),
    hexDigitLower (n % 16)]

def decimalBytes (n : Nat) : List UInt8 := (Nat.toDigits 10 n).map fun c => UInt8.ofNat c.toNat

def oscRgbResponse (command : List UInt8) (r g b : UInt8) : List UInt8 :=
  [esc, rightBracket] ++ command ++ asciiBytes ";rgb:" ++ hexWord (r.toNat * 257) ++ asciiBytes "/" ++
    hexWord (g.toNat * 257) ++ asciiBytes "/" ++ hexWord (b.toNat * 257) ++ [esc, backslash]

def DefaultColorQuery.oscNumber : DefaultColorQuery → Nat
  | .foreground => 10
  | .background => 11
  | .cursor => 12

def oscSetDefaultColorSequence (kind : DefaultColorKind) (color : RgbColor) : List UInt8 :=
  let command := match kind with
    | .foreground => 10
    | .background => 11
  [esc, rightBracket] ++ decimalBytes command ++ asciiBytes ";rgb:" ++ hexByte color.r ++
    asciiBytes "/" ++ hexByte color.g ++ asciiBytes "/" ++ hexByte color.b ++ [esc, backslash]

def oscResetDefaultColorSequence : DefaultColorKind → List UInt8
  | .foreground => asciiBytes "\x1b]110\x1b\\"
  | .background => asciiBytes "\x1b]111\x1b\\"

namespace GhosttyPane

variable {T : Type} (calls : TerminalCalls T)

/-- A write; the callback collects the terminal's own responses. -/
def writeTerminal (pane : GhosttyPane T) (bytes : List UInt8) : GhosttyPane T :=
  { pane with
    terminal := (calls.write pane.terminal bytes).1
    pendingPtyResponses := pane.pendingPtyResponses ++ (calls.write pane.terminal bytes).2 }

def drainPendingPtyResponses (pane : GhosttyPane T) : List (List UInt8) × GhosttyPane T :=
  (pane.pendingPtyResponses, { pane with pendingPtyResponses := [] })

/-! ### Default colours -/

def cursorColorQueryColor (pane : GhosttyPane T) : Option RgbColor :=
  (calls.effectiveCursorColor pane.terminal).or
    (if pane.childDefaultForegroundChanged then calls.effectiveForegroundColor pane.terminal
    else pane.hostTerminalTheme.foreground.or (calls.effectiveForegroundColor pane.terminal))

def defaultColorQueryResponse (pane : GhosttyPane T) (query : DefaultColorQuery) :
    Option (List UInt8) :=
  let color := match query with
    | .foreground =>
      if !pane.childDefaultForegroundChanged then pane.hostTerminalTheme.foreground else none
    | .background =>
      if !pane.childDefaultBackgroundChanged then pane.hostTerminalTheme.background else none
    | .cursor => pane.cursorColorQueryColor calls
  color.map fun color => oscRgbResponse (decimalBytes query.oscNumber) color.r color.g color.b

def paletteColorQueryResponse (pane : GhosttyPane T) (index : UInt8) : Option (List UInt8) :=
  (calls.paletteColor pane.terminal index).map fun color =>
    oscRgbResponse (asciiBytes "4;" ++ decimalBytes index.toNat) color.r color.g color.b

def markChildDefaultColorChanged (pane : GhosttyPane T) (query : DefaultColorQuery)
    (changed : Bool) : GhosttyPane T :=
  match query with
  | .foreground => { pane with childDefaultForegroundChanged := changed }
  | .background => { pane with childDefaultBackgroundChanged := changed }
  | .cursor => pane

def writeHostDefaultColor (pane : GhosttyPane T) (kind : DefaultColorKind)
    (color : Option RgbColor) : GhosttyPane T :=
  pane.writeTerminal calls (match color with
    | some color => oscSetDefaultColorSequence kind color
    | none => oscResetDefaultColorSequence kind)

def applyCachedHostDefaultColor (pane : GhosttyPane T) (query : DefaultColorQuery) :
    GhosttyPane T :=
  match query with
  | .foreground => pane.writeHostDefaultColor calls .foreground pane.hostTerminalTheme.foreground
  | .background => pane.writeHostDefaultColor calls .background pane.hostTerminalTheme.background
  | .cursor => pane

/-- The pane afterwards, and the response that is pushed. -/
def respondToDefaultColorEvent (pane : GhosttyPane T) (event : DefaultColorEvent) :
    GhosttyPane T × List (List UInt8) :=
  match event with
  | .query query => (pane, (pane.defaultColorQueryResponse calls query).toList)
  | .paletteQuery index => (pane, (pane.paletteColorQueryResponse calls index).toList)
  | .set query => (pane.markChildDefaultColorChanged query true, [])
  | .reset query =>
    ((pane.markChildDefaultColorChanged query false).applyCachedHostDefaultColor calls query, [])

/-! ### The write -/

def respondTo (pane : GhosttyPane T) (event : OrderedPtyResponseEvent) :
    GhosttyPane T × List (List UInt8) :=
  match event with
  | .defaultColor event => pane.respondToDefaultColorEvent calls event.event
  | .xtgettcap response => (pane, [response.bytes])

/-- The loop's variables. -/
structure WriteState (T : Type) where
  pane : GhosttyPane T
  written : Nat
  terminalResponses : List (List UInt8)

/-- A write of a part of the chunk, and what the terminal answers to it. -/
def writeSlice (s : WriteState T) (slice : List UInt8) (written : Nat) : WriteState T :=
  let (drained, pane) := (s.pane.writeTerminal calls slice).drainPendingPtyResponses
  ⟨pane, written, s.terminalResponses ++ drained⟩

def writeEvent (bytes : List UInt8) (s : WriteState T) (event : OrderedPtyResponseEvent) :
    WriteState T :=
  let endOffset := min event.endOffset bytes.length
  let s := if endOffset > s.written then
      writeSlice calls s ((bytes.take endOffset).drop s.written) endOffset
    else s
  let (pane, responses) := s.pane.respondTo calls event
  { s with
    pane := pane
    terminalResponses := s.terminalResponses ++ responses }

def orderedEvents (defaultColorEvents : List DefaultColorTrackedEvent)
    (xtgettcapResponses : List XtgettcapResponse) : List OrderedPtyResponseEvent :=
  let events := defaultColorEvents.map OrderedPtyResponseEvent.defaultColor ++
    xtgettcapResponses.map OrderedPtyResponseEvent.xtgettcap
  events.mergeSort fun a b => decide (a.endOffset ≤ b.endOffset)

def writePtyBytesWithOrderedResponses (pane : GhosttyPane T) (bytes : List UInt8)
    (defaultColorEvents : List DefaultColorTrackedEvent)
    (xtgettcapResponses : List XtgettcapResponse) (terminalResponses : List (List UInt8)) :
    GhosttyPane T × List (List UInt8) :=
  let s := (orderedEvents defaultColorEvents xtgettcapResponses).foldl (writeEvent calls bytes)
    ⟨pane, 0, terminalResponses⟩
  let s := if s.written < bytes.length then writeSlice calls s (bytes.drop s.written) s.written else s
  let pane := if !s.pane.childDefaultForegroundChanged && !s.pane.childDefaultBackgroundChanged then
      { s.pane with transientDefaultColorOwnerPgid := none }
    else s.pane
  (pane, s.terminalResponses)

end GhosttyPane

end Ork3.Pane
