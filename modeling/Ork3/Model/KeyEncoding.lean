import Ork3.Model.TerminalKey

/-!
# Encoding of keys

The bytes that a key event sends to the program of a pane (`input/encode.rs`).
-/

namespace Ork3.Input

open Ork3.Library

/-- `String::into_bytes`. -/
def intoBytes (s : List Char) : List UInt8 := s.flatMap String.utf8EncodeChar

inductive KeyboardProtocol where
  | legacy
  | kitty (flags : UInt16)
deriving DecidableEq, Repr

namespace KeyboardProtocol

def reportsEventTypes : KeyboardProtocol → Bool
  | .legacy => false
  | .kitty flags => flags &&& 0b0000_0010 != 0

end KeyboardProtocol

def kittyFlagReportEventTypes : UInt16 := 0b0000_0010
def kittyFlagReportAlternateKeys : UInt16 := 0b0000_0100
def kittyFlagReportAllKeys : UInt16 := 0b0000_1000

namespace KeyModifiers

def isEmpty (m : KeyModifiers) : Bool := m = empty

/-- The modifiers without `ALT`. -/
def withoutAlt (m : KeyModifiers) : KeyModifiers := { m with alt := false }

end KeyModifiers

/-- `1 + shift(1) + alt(2) + ctrl(4)`. -/
def xtermModifier (mods : KeyModifiers) : Nat :=
  1 + (if mods.shift then 1 else 0) + (if mods.alt then 2 else 0) + (if mods.control then 4 else 0)

/-- The xterm modifier with the bits of Super, Hyper and Meta. -/
def kittyModifier (mods : KeyModifiers) : Nat :=
  xtermModifier mods + (if mods.super then 8 else 0) + (if mods.hyper then 16 else 0) +
    (if mods.metaKey then 32 else 0)

/-! ### Text -/

def isShiftedAsciiPunctuation (ch : Char) : Bool :=
  ch ∈ ['!', '@', '#', '$', '%', '^', '&', '*', '(', ')', '_', '+', '\x7b', '\x7d', '|', ':', '"',
    '<', '>', '?', '~']

def shiftedTextChar (key : TerminalKey) (ch : Char) : Option Char :=
  match key.shiftedCodepoint.bind charFromU32 with
  | some shifted => some shifted
  | none =>
    if ch.isUpper then some ch
    else if ch.isLower then some ch.toUpper
    else if isShiftedAsciiPunctuation ch then some ch
    else none

def encodeTextInput (key : TerminalKey) : Option (List UInt8) :=
  match key.code with
  | .char ch =>
    if key.modifiers.isEmpty then
      match key.kind with
      | .press | .repeat => some (String.utf8EncodeChar ch)
      | .release => some []
    else if key.modifiers ≠ .SHIFT then none
    else
      match shiftedTextChar key ch with
      | none => none
      | some shiftedCh =>
        match key.kind with
        | .press | .repeat => some (String.utf8EncodeChar shiftedCh)
        | .release => some []
  | _ => none

attribute [grind =] encodeTextInput

/-! ### Kitty sequences -/

def canonicalKittyChar (ch : Char) (mods : KeyModifiers) : Char :=
  if mods.shift && ch.isUpper then ch.toLower else ch

def alternateShiftedCodepoint (key : TerminalKey) (flags : UInt16) : Option Nat :=
  if flags &&& kittyFlagReportAlternateKeys = 0 then none
  else
    match key.shiftedCodepoint with
    | some shifted => some shifted
    | none =>
      match key.code with
      | .char ch => if key.modifiers.shift && ch.isUpper then some ch.toNat else none
      | _ => none

def kittyEventSuffix (key : TerminalKey) (flags : UInt16) : Option Nat :=
  if flags &&& kittyFlagReportEventTypes = 0 then none
  else
    match key.kind with
    | .press => some 1
    | .repeat => some 2
    | .release => some 3

/-- The keys that the legacy encoder takes where no event is reported. -/
def hasXtermForm : KeyCode → Bool
  | .up | .down | .left | .right | .home | .endKey | .pageUp | .pageDown | .insert | .delete
  | .f _ => true
  | _ => false

/-- The codepoint of the key and the shifted one beside it. -/
def csiUCodepoints (key : TerminalKey) (flags : UInt16) : Option (Nat × Option Nat) :=
  match key.code with
  | .char c =>
    some ((canonicalKittyChar c key.modifiers).toNat, alternateShiftedCodepoint key flags)
  | .enter => some (13, none)
  | .tab => some (9, none)
  | .backspace => some (127, none)
  | .esc => some (27, none)
  | .left => some (57417, none)
  | .right => some (57418, none)
  | .up => some (57419, none)
  | .down => some (57420, none)
  | .pageUp => some (57421, none)
  | .pageDown => some (57422, none)
  | .home => some (57423, none)
  | .endKey => some (57424, none)
  | .insert => some (57425, none)
  | .delete => some (57426, none)
  | _ => none

/-- `:number` where there is one. -/
def subField : Option Nat → List Char
  | some n => ':' :: Nat.toDigits 10 n
  | none => []

/-- `ESC [ codepoint :shifted ; modifier :event u`. -/
def csiUSequence (codepoint : Nat) (alternateShifted : Option Nat) (modifier : Nat)
    (eventSuffix : Option Nat) : List Char :=
  ['\x1b', '['] ++ ((Nat.toDigits 10 codepoint ++ subField alternateShifted) ++
    ';' :: (Nat.toDigits 10 modifier ++ subField eventSuffix)) ++ ['u']

def tryEncodeCsiU (key : TerminalKey) (flags : UInt16) : Option (List UInt8) :=
  let mods := key.modifiers
  let eventSuffix := kittyEventSuffix key flags
  let reportAllKeys := flags &&& kittyFlagReportAllKeys != 0
  if !reportAllKeys && mods.isEmpty &&
      (key.code = .enter || key.code = .tab || key.code = .backspace) then none
  else if mods.isEmpty && eventSuffix.isNone && !reportAllKeys then none
  else if hasXtermForm key.code && eventSuffix.isNone && !reportAllKeys then none
  else
    (csiUCodepoints key flags).map fun (codepoint, alternateShifted) =>
      intoBytes (csiUSequence codepoint alternateShifted (kittyModifier mods) eventSuffix)

/-! ### Legacy sequences -/

def encodeFKey : Nat → List UInt8
  | 1 => [27, 79, 80]
  | 2 => [27, 79, 81]
  | 3 => [27, 79, 82]
  | 4 => [27, 79, 83]
  | 5 => [27, 91, 49, 53, 126]
  | 6 => [27, 91, 49, 55, 126]
  | 7 => [27, 91, 49, 56, 126]
  | 8 => [27, 91, 49, 57, 126]
  | 9 => [27, 91, 50, 48, 126]
  | 10 => [27, 91, 50, 49, 126]
  | 11 => [27, 91, 50, 51, 126]
  | 12 => [27, 91, 50, 52, 126]
  | _ => []

/-- The byte of a character with Control; the last case is `ch as u8`. -/
def controlByte (ch : Char) : UInt8 :=
  let upper := ch.toUpper
  if 'A' ≤ upper ∧ upper ≤ 'Z' then UInt8.ofNat (upper.toNat - 64)
  else if upper = ' ' ∨ upper = '@' ∨ upper = '2' then 0
  else if upper = '[' ∨ upper = '3' then 27
  else if upper = '\\' ∨ upper = '4' then 28
  else if upper = ']' ∨ upper = '5' then 29
  else if upper = '^' ∨ upper = '6' then 30
  else if upper = '_' ∨ upper = '/' ∨ upper = '7' ∨ upper = '-' then 31
  else UInt8.ofNat ch.toNat

def encodeLegacyInner (key : TerminalKey) : List UInt8 :=
  match key.code with
  | .char ch =>
    if key.modifiers.control then [controlByte ch]
    else
      String.utf8EncodeChar
        (if key.modifiers = .SHIFT then (shiftedTextChar key ch).getD ch else ch)
  | .enter => [13]
  | .backspace => [127]
  | .tab => [9]
  | .backTab => [27, 91, 90]
  | .esc => [27]
  | .left => [27, 91, 68]
  | .right => [27, 91, 67]
  | .up => [27, 91, 65]
  | .down => [27, 91, 66]
  | .home => [27, 91, 72]
  | .endKey => [27, 91, 70]
  | .pageUp => [27, 91, 53, 126]
  | .pageDown => [27, 91, 54, 126]
  | .delete => [27, 91, 51, 126]
  | .insert => [27, 91, 50, 126]
  | .f n => encodeFKey n
  | _ => []

/-- `ESC [ 1 ; modifier letter`. -/
def xtermLetter (modifier : Nat) (letter : Char) : List UInt8 :=
  intoBytes (['\x1b', '[', '1', ';'] ++ Nat.toDigits 10 modifier ++ [letter])

/-- `ESC [ code ; modifier ~`. -/
def xtermTilde (code modifier : Nat) : List UInt8 :=
  intoBytes (['\x1b', '['] ++ Nat.toDigits 10 code ++ [';'] ++ Nat.toDigits 10 modifier ++ ['~'])

def encodeModifiedSpecial (code : KeyCode) (mods : KeyModifiers) : Option (List UInt8) :=
  let modifier := xtermModifier mods
  if modifier ≤ 1 then none
  else
    match code with
    | .up => some (xtermLetter modifier 'A')
    | .down => some (xtermLetter modifier 'B')
    | .right => some (xtermLetter modifier 'C')
    | .left => some (xtermLetter modifier 'D')
    | .home => some (xtermLetter modifier 'H')
    | .endKey => some (xtermLetter modifier 'F')
    | .insert => some (xtermTilde 2 modifier)
    | .delete => some (xtermTilde 3 modifier)
    | .pageUp => some (xtermTilde 5 modifier)
    | .pageDown => some (xtermTilde 6 modifier)
    | .f 1 => some (xtermLetter modifier 'P')
    | .f 2 => some (xtermLetter modifier 'Q')
    | .f 3 => some (xtermLetter modifier 'R')
    | .f 4 => some (xtermLetter modifier 'S')
    | .f 5 => some (xtermTilde 15 modifier)
    | .f 6 => some (xtermTilde 17 modifier)
    | .f 7 => some (xtermTilde 18 modifier)
    | .f 8 => some (xtermTilde 19 modifier)
    | .f 9 => some (xtermTilde 20 modifier)
    | .f 10 => some (xtermTilde 21 modifier)
    | .f 11 => some (xtermTilde 23 modifier)
    | .f 12 => some (xtermTilde 24 modifier)
    | _ => none

/-- Modified special keys have the xterm form; Alt on other keys is an `ESC` before the rest. -/
def encodeLegacy (key : TerminalKey) : List UInt8 :=
  let special := if key.modifiers.isEmpty then none
    else encodeModifiedSpecial key.code key.modifiers
  match special with
  | some bytes => bytes
  | none =>
    if key.modifiers.alt then
      0x1b :: encodeLegacyInner { key with modifiers := key.modifiers.withoutAlt }
    else encodeLegacyInner key

def encodeTerminalKey (key : TerminalKey) (protocol : KeyboardProtocol) : List UInt8 :=
  if key.kind = .release && !protocol.reportsEventTypes then []
  else
    match encodeTextInput key with
    | some bytes => bytes
    | none =>
      let csiU := match protocol with
        | .kitty flags => tryEncodeCsiU key flags
        | .legacy => none
      match csiU with
      | some bytes => bytes
      | none =>
        if key.kind = .release && protocol.reportsEventTypes then [] else encodeLegacy key

attribute [grind =] encodeTerminalKey

end Ork3.Input
