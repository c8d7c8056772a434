import Ork3.Library.Text

/-!
# Terminal keys

The key events of the input model and the parser of their escape sequences (`input/parse.rs`).
Literal sequences are kept in the source's order, as tables.
-/

namespace Ork3.Input
open Ork3.Library

structure KeyModifiers where
  shift : Bool := false
  alt : Bool := false
  control : Bool := false
  super : Bool := false
  hyper : Bool := false
  metaKey : Bool := false
deriving DecidableEq, Repr

namespace KeyModifiers

def empty : KeyModifiers := {}
def SHIFT : KeyModifiers := { shift := true }
def ALT : KeyModifiers := { alt := true }
def CONTROL : KeyModifiers := { control := true }

def union (a b : KeyModifiers) : KeyModifiers where
  shift := a.shift || b.shift
  alt := a.alt || b.alt
  control := a.control || b.control
  super := a.super || b.super
  hyper := a.hyper || b.hyper
  metaKey := a.metaKey || b.metaKey

end KeyModifiers

inductive MediaKeyCode where
  | play | pause | playPause | reverse | stop | fastForward | rewind | trackNext | trackPrevious
  | record | lowerVolume | raiseVolume | muteVolume
deriving DecidableEq, Repr

inductive ModifierKeyCode where
  | leftShift | leftControl | leftAlt | leftSuper | leftHyper | leftMeta
  | rightShift | rightControl | rightAlt | rightSuper | rightHyper | rightMeta
  | isoLevel3Shift | isoLevel5Shift
deriving DecidableEq, Repr

inductive KeyCode where
  | backspace | enter | left | right | up | down | home | endKey | pageUp | pageDown
  | tab | backTab | delete | insert | null | esc
  | capsLock | scrollLock | numLock | printScreen | pause | menu | keypadBegin
  | f (n : Nat)
  | char (c : Char)
  | media (m : MediaKeyCode)
  | modifier (m : ModifierKeyCode)
deriving DecidableEq, Repr

inductive KeyEventKind where
  | press | repeat | release
deriving DecidableEq, Repr

structure TerminalKey where
  code : KeyCode
  modifiers : KeyModifiers
  kind : KeyEventKind := .press
  shiftedCodepoint : Option Nat := none
deriving DecidableEq, Repr

def TerminalKey.new (code : KeyCode) (modifiers : KeyModifiers) : TerminalKey :=
  { code := code, modifiers := modifiers }

def TerminalKey.withKind (k : TerminalKey) (kind : KeyEventKind) : TerminalKey :=
  { k with kind := kind }

/-- The first entry whose literal is the text. -/
def lookupText {β : Type} (table : List (String × β)) (data : List Char) : Option β :=
  (table.find? fun e => e.1.toList = data).map (·.2)

attribute [grind =] lookupText

def splitModifierAndEvent (input : List Char) : List Char × Option (List Char) :=
  match splitOnce ':' input with
  | some (modifier, event) => if modifier.isEmpty then (input, none) else (modifier, some event)
  | none => (input, none)

def parseKittyEventType (value : Option (List Char)) : Option KeyEventKind :=
  lookupText [("1", .press), ("2", .repeat), ("3", .release)] (value.getD ['1'])

def isKittyFunctionalCodepoint (codepoint : Nat) : Bool := 57358 ≤ codepoint && codepoint ≤ 57454

/-- The codepoints with a key code of their own. -/
def kittyTable : List (Nat × KeyCode) :=
  [(8, .backspace), (127, .backspace), (9, .tab), (13, .enter), (57414, .enter), (27, .esc),
   (57358, .capsLock), (57359, .scrollLock), (57360, .numLock), (57361, .printScreen),
   (57362, .pause), (57363, .menu),
   (57399, .char '0'), (57400, .char '1'), (57401, .char '2'), (57402, .char '3'),
   (57403, .char '4'), (57404, .char '5'), (57405, .char '6'), (57406, .char '7'),
   (57407, .char '8'), (57408, .char '9'), (57409, .char '.'), (57410, .char '/'),
   (57411, .char '*'), (57412, .char '-'), (57413, .char '+'), (57415, .char '='),
   (57416, .char ','), (57417, .left), (57418, .right), (57419, .up), (57420, .down),
   (57421, .pageUp), (57422, .pageDown), (57423, .home), (57424, .endKey), (57425, .insert),
   (57426, .delete), (57427, .keypadBegin),
   (57428, .media .play), (57429, .media .pause), (57430, .media .playPause),
   (57431, .media .reverse), (57432, .media .stop), (57433, .media .fastForward),
   (57434, .media .rewind), (57435, .media .trackNext), (57436, .media .trackPrevious),
   (57437, .media .record), (57438, .media .lowerVolume), (57439, .media .raiseVolume),
   (57440, .media .muteVolume),
   (57441, .modifier .leftShift), (57442, .modifier .leftControl), (57443, .modifier .leftAlt),
   (57444, .modifier .leftSuper), (57445, .modifier .leftHyper), (57446, .modifier .leftMeta),
   (57447, .modifier .rightShift), (57448, .modifier .rightControl), (57449, .modifier .rightAlt),
   (57450, .modifier .rightSuper), (57451, .modifier .rightHyper), (57452, .modifier .rightMeta),
   (57453, .modifier .isoLevel3Shift), (57454, .modifier .isoLevel5Shift)]

def kittyCodepointToKeycode (codepoint : Nat) : Option KeyCode :=
  match kittyTable.lookup codepoint with
  | some code => some code
  | none =>
    if 57376 ≤ codepoint ∧ codepoint ≤ 57398 then some (.f (codepoint - 57376 + 13))
    else if isKittyFunctionalCodepoint codepoint then none
    else (charFromU32 codepoint).map .char

def keyModifiersFromU8 (modifier : Nat) : KeyModifiers where
  shift := modifier.testBit 0
  alt := modifier.testBit 1
  control := modifier.testBit 2
  super := modifier.testBit 3
  hyper := modifier.testBit 4
  metaKey := modifier.testBit 5

/-- `parse::<u8>().ok()?.checked_sub(1)?`. -/
def parseModifier (text : List Char) : Option Nat := do
  let n ← parseUnsigned 255 text
  if n = 0 then none else some (n - 1)

def parseKittyKeySequence (data : List Char) : Option TerminalKey := do
  let body ← stripSuffix ['u'] (← stripPrefix ['\x1b', '['] data)
  let fields := body.splitOn ';'
  let keyPart ← fields[0]?
  let modifierPart := fields[1]?.getD ['1']
  let associatedText := fields[2]?
  if fields[3]?.isSome then none
  let (modifierText, eventType) := splitModifierAndEvent modifierPart
  let modifier ← parseModifier modifierText
  let keyFields := keyPart.splitOn ':'
  let codepoint ← parseUnsigned 4294967295 (← keyFields[0]?)
  let shiftedCodepoint := (keyFields[1]?.filter (!·.isEmpty)).bind (parseUnsigned 4294967295)
  if let some text := associatedText then
    if (← parseUnsigned 4294967295 text) ≠ codepoint then none
  let code ← kittyCodepointToKeycode codepoint
  let kind ← parseKittyEventType eventType
  return {
    code := code
    modifiers := keyModifiersFromU8 modifier
    kind := kind
    shiftedCodepoint := shiftedCodepoint }

def parseModifyOtherKeysSequence (data : List Char) : Option TerminalKey := do
  let body ← stripSuffix ['~'] (← stripPrefix ['\x1b', '[', '2', '7', ';'] data)
  let (modifierPart, codepointPart) ← splitOnce ';' body
  let modifier ← parseModifier modifierPart
  let codepoint ← parseUnsigned 4294967295 codepointPart
  return .new (← kittyCodepointToKeycode codepoint) (keyModifiersFromU8 modifier)

/-- Final letters of `ESC [ 1 ; modifier letter`. -/
def xtermLetterTable : List (Char × KeyCode) :=
  [('A', .up), ('B', .down), ('C', .right), ('D', .left), ('H', .home), ('F', .endKey),
   ('P', .f 1), ('Q', .f 2), ('R', .f 3), ('S', .f 4)]

/-- Codes of `ESC [ code ; modifier ~`. -/
def xtermTildeTable : List (String × KeyCode) :=
  [("2", .insert), ("3", .delete), ("5", .pageUp), ("6", .pageDown), ("15", .f 5), ("17", .f 6),
   ("18", .f 7), ("19", .f 8), ("20", .f 9), ("21", .f 10), ("23", .f 11), ("24", .f 12)]

def parseXtermModifiedLetter (body : List Char) (suffixChar : Char) : Option TerminalKey := do
  let modifierAndEvent ← stripSuffix [suffixChar] body
  let (modifierText, eventType) := splitModifierAndEvent modifierAndEvent
  let modValue ← parseModifier modifierText
  let code ← xtermLetterTable.lookup suffixChar
  let kind ← parseKittyEventType eventType
  return (TerminalKey.new code (keyModifiersFromU8 modValue)).withKind kind

def parseXtermModifiedTilde (body : List Char) : Option TerminalKey := do
  let tildeBody ← stripSuffix ['~'] body
  let (codePart, modifierPart) ← splitOnce ';' tildeBody
  let (modifierText, eventType) := splitModifierAndEvent modifierPart
  let modValue ← parseModifier modifierText
  let code ← lookupText xtermTildeTable codePart
  let kind ← parseKittyEventType eventType
  return (TerminalKey.new code (keyModifiersFromU8 modValue)).withKind kind

def parseXtermModifiedSpecialSequence (data : List Char) : Option TerminalKey := do
  let body ← stripPrefix ['\x1b', '['] data
  match stripPrefix ['1', ';'] body with
  | some rest =>
    -- an empty rest ends the parse; a last character that is no letter falls through to `~`
    let suffixChar ← rest.getLast?
    if suffixChar.isAlpha then parseXtermModifiedLetter rest suffixChar
    else parseXtermModifiedTilde body
  | none => parseXtermModifiedTilde body

/-- The literal sequences of `parse_legacy_special_sequence`. -/
def legacySpecialTable : List (String × TerminalKey) :=
  [("\x1b\x1b[A", .new .up .ALT), ("\x1b\x1b[B", .new .down .ALT),
   ("\x1b\x1b[C", .new .right .ALT), ("\x1b\x1b[D", .new .left .ALT),
   ("\x1b[A", .new .up .empty), ("\x1bOA", .new .up .empty),
   ("\x1b[B", .new .down .empty), ("\x1bOB", .new .down .empty),
   ("\x1b[C", .new .right .empty), ("\x1bOC", .new .right .empty),
   ("\x1b[D", .new .left .empty), ("\x1bOD", .new .left .empty),
   ("\x1b[H", .new .home .empty), ("\x1bOH", .new .home .empty),
   ("\x1b[1~", .new .home .empty), ("\x1b[7~", .new .home .empty),
   ("\x1b[F", .new .endKey .empty), ("\x1bOF", .new .endKey .empty),
   ("\x1b[4~", .new .endKey .empty), ("\x1b[8~", .new .endKey .empty),
   ("\x1b[5~", .new .pageUp .empty), ("\x1b[6~", .new .pageDown .empty),
   ("\x1b[2~", .new .insert .empty), ("\x1b[3~", .new .delete .empty),
   ("\x1bOp", .new (.char '0') .empty), ("\x1bOq", .new (.char '1') .empty),
   ("\x1bOr", .new (.char '2') .empty), ("\x1bOs", .new (.char '3') .empty),
   ("\x1bOt", .new (.char '4') .empty), ("\x1bOu", .new (.char '5') .empty),
   ("\x1bOv", .new (.char '6') .empty), ("\x1bOw", .new (.char '7') .empty),
   ("\x1bOx", .new (.char '8') .empty), ("\x1bOy", .new (.char '9') .empty),
   ("\x1bOn", .new (.char '.') .empty), ("\x1bOl", .new (.char ',') .empty),
   ("\x1bOm", .new (.char '-') .empty), ("\x1bOk", .new (.char '+') .empty),
   ("\x1bOj", .new (.char '*') .empty), ("\x1bOo", .new (.char '/') .empty),
   ("\x1bOM", .new .enter .empty),
   ("\x1bOP", .new (.f 1) .empty), ("\x1b[11~", .new (.f 1) .empty),
   ("\x1bOQ", .new (.f 2) .empty), ("\x1b[12~", .new (.f 2) .empty),
   ("\x1bOR", .new (.f 3) .empty), ("\x1b[13~", .new (.f 3) .empty),
   ("\x1bOS", .new (.f 4) .empty), ("\x1b[14~", .new (.f 4) .empty),
   ("\x1b[15~", .new (.f 5) .empty), ("\x1b[17~", .new (.f 6) .empty),
   ("\x1b[18~", .new (.f 7) .empty), ("\x1b[19~", .new (.f 8) .empty),
   ("\x1b[20~", .new (.f 9) .empty), ("\x1b[21~", .new (.f 10) .empty),
   ("\x1b[23~", .new (.f 11) .empty), ("\x1b[24~", .new (.f 12) .empty),
   ("\x1b[Z", .new .backTab .SHIFT)]

def parseLegacySpecialSequence (data : List Char) : Option TerminalKey :=
  match lookupText legacySpecialTable data with
  | some key => some key
  | none => parseXtermModifiedSpecialSequence data

def parseLegacyCtrlChar (ch : Char) : Option TerminalKey :=
  let n := ch.toNat
  if n = 0 then some (.new (.char ' ') .CONTROL)
  else if 1 ≤ n ∧ n ≤ 26 then (charFromU32 (n + 96)).map fun c => .new (.char c) .CONTROL
  else if n = 27 then some (.new (.char '[') .CONTROL)
  else if n = 28 then some (.new (.char '\\') .CONTROL)
  else if n = 29 then some (.new (.char ']') .CONTROL)
  else if n = 30 then some (.new (.char '^') .CONTROL)
  else if n = 31 then some (.new (.char '-') .CONTROL)
  else none

/-- The literals of `parse_legacy_key_sequence`. -/
def legacyKeyTable : List (String × TerminalKey) :=
  [("\r", .new .enter .empty), ("\t", .new .tab .empty), ("\x1b", .new .esc .empty),
   ("\x1b\x7f", .new .backspace .ALT), ("\x7f", .new .backspace .empty)]

def parseLegacyKeySequence (data : List Char) : Option TerminalKey :=
  match parseLegacySpecialSequence data with
  | some key => some key
  | none =>
    match lookupText legacyKeyTable data with
    | some key => some key
    | none =>
      match data with
      | ['\x1b', ch] =>
        some (.new (.char ch)
          (if ch.isUpper then KeyModifiers.ALT.union .SHIFT else .ALT))
      | '\x1b' :: _ => none
      | [ch] =>
        match parseLegacyCtrlChar ch with
        | some key => some key
        | none => some (.new (.char ch) (if ch.isUpper then .SHIFT else .empty))
      | _ => none

attribute [grind =] parseLegacyKeySequence

def parseTerminalKeySequence (data : List Char) : Option TerminalKey :=
  ((parseKittyKeySequence data).or (parseModifyOtherKeysSequence data)).or
    (parseLegacyKeySequence data)

end Ork3.Input
