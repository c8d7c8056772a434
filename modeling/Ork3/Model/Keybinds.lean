import Ork3.Model.AgentIdentity
import Ork3.Model.TerminalKey

/-!
# Key bindings

Parsing, labelling and matching of key bindings, and their registration for a configuration
(`config/keybinds.rs`).
-/

namespace Ork3.Input

open Ork3.Library Ork3.Terminal

namespace KeyModifiers

def SUPER : KeyModifiers := { super := true }
def HYPER : KeyModifiers := { hyper := true }
def META : KeyModifiers := { metaKey := true }

def withoutShift (m : KeyModifiers) : KeyModifiers := { m with shift := false }

end KeyModifiers

abbrev KeyCombo := KeyCode × KeyModifiers

inductive BindingTrigger where
  | direct (combo : KeyCombo)
  | prefixed (combo : KeyCombo)
deriving DecidableEq, Repr

namespace BindingTrigger

def combo : BindingTrigger → KeyCombo
  | direct combo | prefixed combo => combo

def isDirect : BindingTrigger → Bool
  | direct _ => true
  | prefixed _ => false

def isPrefixed : BindingTrigger → Bool
  | direct _ => false
  | prefixed _ => true

end BindingTrigger

structure ResolvedBinding where
  trigger : BindingTrigger
  label : List Char
deriving DecidableEq, Repr

inductive ParsedBinding where
  | single (binding : ResolvedBinding)
  | range (bindings : List ResolvedBinding)
deriving DecidableEq, Repr

/-! ### Parsing a combination -/

def lowercase (s : List Char) : List Char := s.map lowercaseChar

def modifierTokens : List (String × KeyModifiers) :=
  [("ctrl", .CONTROL), ("control", .CONTROL), ("shift", .SHIFT), ("alt", .ALT), ("option", .ALT),
   ("meta", .ALT), ("cmd", .SUPER), ("command", .SUPER), ("super", .SUPER), ("hyper", .HYPER)]

def parseModifierToken (token : List Char) : Option KeyModifiers :=
  lookupText modifierTokens (lowercase token)

def parseRangeModifiers (s : List Char) : Option KeyModifiers := do
  let (modifiers, sawRange) ← (s.splitOn '+').foldlM (fun (modifiers, sawRange) part =>
    let trimmed := trim part
    if trimmed = ['1', '.', '.', '9'] then
      if sawRange then none else some (modifiers, true)
    else (parseModifierToken trimmed).map fun m => (modifiers.union m, sawRange))
    (KeyModifiers.empty, false)
  if sawRange then some modifiers else none

def parseModifierCombo (s : List Char) : Option KeyModifiers := do
  let modifiers ← (s.splitOn '+').foldlM (fun modifiers part =>
    let trimmed := trim part
    if trimmed.isEmpty then none
    else (parseModifierToken trimmed).map modifiers.union)
    KeyModifiers.empty
  if modifiers = .empty then none else some modifiers

def normalizeKeyCombo : KeyCombo → KeyCombo
  | (.tab, modifiers) =>
    if modifiers.shift then (.backTab, modifiers.withoutShift) else (.tab, modifiers)
  | (.backTab, modifiers) => (.backTab, modifiers.withoutShift)
  | combo => combo

/-- The names of keys but for `tab`, which depends on Shift. -/
def keyNames : List (String × KeyCode) :=
  [("space", .char ' '), (" ", .char ' '), ("enter", .enter), ("return", .enter), ("esc", .esc),
   ("escape", .esc), ("backspace", .backspace), ("bs", .backspace), ("left", .left),
   ("right", .right), ("up", .up), ("down", .down), ("minus", .char '-'), ("comma", .char ','),
   ("period", .char '.'), ("slash", .char '/'), ("backslash", .char '\\'), ("quote", .char '\''),
   ("double_quote", .char '"'), ("double-quote", .char '"'), ("semicolon", .char ';'),
   ("colon", .char ':'), ("percent", .char '%'), ("ampersand", .char '&'), ("backtick", .char '`'),
   ("plus", .char '+')]

def singleKeyChar : List Char → Option Char
  | [ch] => some ch
  | _ => none

/-- The modifiers and the one other part of a combination. -/
def comboParts : List (List Char) → KeyModifiers → Option (List Char) →
    Option (KeyModifiers × Option (List Char))
  | [], modifiers, keyStr => some (modifiers, keyStr)
  | part :: parts, modifiers, keyStr =>
    let trimmed := trim part
    if trimmed.isEmpty then none
    else
      match parseModifierToken trimmed with
      | some modifier => comboParts parts (modifiers.union modifier) keyStr
      | none => if keyStr.isSome then none else comboParts parts modifiers (some trimmed)

/-- The key that the text names, with the modifiers it changes. -/
def keyOfText (keyStr : List Char) (modifiers : KeyModifiers) : Option KeyCombo :=
  let lower := lowercase keyStr
  if lower = ['t', 'a', 'b'] then
    if modifiers.shift then some (.backTab, modifiers.withoutShift) else some (.tab, modifiers)
  else
    match lookupText keyNames lower with
    | some code => some (code, modifiers)
    | none =>
      match singleKeyChar keyStr with
      | some ch =>
        if ch.isUpper then some (.char ch.toLower, modifiers.union .SHIFT)
        else some (.char ch, modifiers)
      | none =>
        match lower with
        | 'f' :: digits => (parseUnsigned 255 digits).map fun n => (.f n, modifiers)
        | _ => none

def parseKeyCombo (s : List Char) : Option KeyCombo := do
  let (modifiers, keyStr) ← comboParts (s.splitOn '+') .empty none
  (keyOfText (← keyStr) modifiers).map normalizeKeyCombo

/-! ### Labels -/

/-- The label of Super depends on the platform. -/
def superModifierLabel (macos : Bool) : List Char :=
  if macos then "cmd".toList else "super".toList

/-- The lowercased debug names of the other keys. -/
def otherKeyLabel : KeyCode → String
  | .home => "home"
  | .endKey => "end"
  | .pageUp => "pageup"
  | .pageDown => "pagedown"
  | .delete => "delete"
  | .insert => "insert"
  | .null => "null"
  | .capsLock => "capslock"
  | .scrollLock => "scrolllock"
  | .numLock => "numlock"
  | .printScreen => "printscreen"
  | .pause => "pause"
  | .menu => "menu"
  | .keypadBegin => "keypadbegin"
  | .media .play => "media(play)"
  | .media .pause => "media(pause)"
  | .media .playPause => "media(playpause)"
  | .media .reverse => "media(reverse)"
  | .media .stop => "media(stop)"
  | .media .fastForward => "media(fastforward)"
  | .media .rewind => "media(rewind)"
  | .media .trackNext => "media(tracknext)"
  | .media .trackPrevious => "media(trackprevious)"
  | .media .record => "media(record)"
  | .media .lowerVolume => "media(lowervolume)"
  | .media .raiseVolume => "media(raisevolume)"
  | .media .muteVolume => "media(mutevolume)"
  | .modifier .leftShift => "modifier(leftshift)"
  | .modifier .leftControl => "modifier(leftcontrol)"
  | .modifier .leftAlt => "modifier(leftalt)"
  | .modifier .leftSuper => "modifier(leftsuper)"
  | .modifier .leftHyper => "modifier(lefthyper)"
  | .modifier .leftMeta => "modifier(leftmeta)"
  | .modifier .rightShift => "modifier(rightshift)"
  | .modifier .rightControl => "modifier(rightcontrol)"
  | .modifier .rightAlt => "modifier(rightalt)"
  | .modifier .rightSuper => "modifier(rightsuper)"
  | .modifier .rightHyper => "modifier(righthyper)"
  | .modifier .rightMeta => "modifier(rightmeta)"
  | .modifier .isoLevel3Shift => "modifier(isolevel3shift)"
  | .modifier .isoLevel5Shift => "modifier(isolevel5shift)"
  | _ => ""

def keyLabel : KeyCode → List Char
  | .char c => if c = ' ' then "space".toList else [c]
  | .enter => "enter".toList
  | .esc => "esc".toList
  | .tab => "tab".toList
  | .backTab => "shift+tab".toList
  | .backspace => "backspace".toList
  | .left => "left".toList
  | .right => "right".toList
  | .up => "up".toList
  | .down => "down".toList
  | .f n => 'f' :: Nat.toDigits 10 n
  | code => (otherKeyLabel code).toList

/-- The labels of the modifiers; Shift is part of the label of the back tab. -/
def modifierLabels (macos : Bool) (code : KeyCode) (modifiers : KeyModifiers) :
    List (List Char) :=
  (if modifiers.control then ["ctrl".toList] else []) ++
    (if modifiers.alt then ["alt".toList] else []) ++
    (if modifiers.shift && code ≠ .backTab then ["shift".toList] else []) ++
    (if modifiers.super then [superModifierLabel macos] else []) ++
    (if modifiers.hyper then ["hyper".toList] else []) ++
    (if modifiers.metaKey then ["meta".toList] else [])

def formatKeyCombo (macos : Bool) (binding : KeyCombo) : List Char :=
  ['+'].intercalate (modifierLabels macos binding.1 binding.2 ++ [keyLabel binding.1])

/-- `prefix+`. -/
def triggerPrefix : List Char := "prefix+".toList

def triggerOf (triggerPrefixed : Bool) (combo : KeyCombo) : BindingTrigger :=
  if triggerPrefixed then .prefixed combo else .direct combo

def triggerLabel (triggerPrefixed : Bool) (label : List Char) : List Char :=
  if triggerPrefixed then triggerPrefix ++ label else label

/-- The binding of a combination, under its own label. -/
def labelledBinding (macos triggerPrefixed : Bool) (combo : KeyCombo) : ResolvedBinding where
  trigger := triggerOf triggerPrefixed combo
  label := triggerLabel triggerPrefixed (formatKeyCombo macos combo)

def digitKeys : List Char := ['1', '2', '3', '4', '5', '6', '7', '8', '9']

/-- Whether the text starts with `prefix+`, and what stands behind it. -/
def splitTrigger (trimmed : List Char) : Bool × List Char :=
  match stripPrefix triggerPrefix trimmed with
  | some rest => (true, rest)
  | none => (false, trimmed)

def parseBindingBody (macos triggerPrefixed : Bool) (body : List Char) : Option ParsedBinding :=
  match parseRangeModifiers body with
  | some rangeModifiers =>
    some (.range (digitKeys.map fun digit =>
      labelledBinding macos triggerPrefixed (.char digit, rangeModifiers)))
  | none => (parseKeyCombo body).map fun combo =>
      .single (labelledBinding macos triggerPrefixed combo)

def parseBindingString (macos : Bool) (raw : List Char) : Option ParsedBinding :=
  let trigger := splitTrigger (trim raw)
  parseBindingBody macos trigger.1 trigger.2

end Ork3.Input
