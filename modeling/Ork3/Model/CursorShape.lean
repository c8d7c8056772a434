import Ork3.Library.History
import Ork3.Library.Text
import Ork3.Model.Osc

/-!
# The cursor shape of a pane

`DecscusrTracker` of `pane/cursor.rs`, which reads the output of a child for cursor shape commands,
and the shape that `pane/terminal.rs` reports. Additions of `u16` wrap, as in a release build;
`overflows` says where a checked build would stop.
-/

namespace Ork3.Pane

open Ork3.Library

inductive DecscusrParseState
  | ground
  | escape
  | csi (firstParam : Option UInt16) (collectingFirstParam hasSpaceIntermediate : Bool)
deriving DecidableEq, Repr

structure DecscusrTracker where
  state : DecscusrParseState
  cursorShapeOverridden : Bool
deriving DecidableEq, Repr

def leftBracket : UInt8 := 0x5b
def spaceByte : UInt8 := 0x20
def colonByte : UInt8 := 0x3a
def letterQ : UInt8 := 0x71

/-- `saturating_mul(10)`. -/
def saturatingMulTen (value : UInt16) : UInt16 := UInt16.ofNat (min (value.toNat * 10) 65535)

def digitValue (byte : UInt8) : UInt16 := UInt16.ofNat (byte.toNat - 0x30)

namespace DecscusrTracker

def default : DecscusrTracker := ⟨.ground, false⟩

def observeByte (tracker : DecscusrTracker) (byte : UInt8) : DecscusrTracker :=
  match tracker.state with
  | .ground => if byte = esc then { tracker with state := .escape } else tracker
  | .escape =>
    if byte = leftBracket then { tracker with state := .csi none true false }
    else if byte = esc then { tracker with state := .escape }
    else { tracker with state := .ground }
  | .csi firstParam collectingFirstParam hasSpaceIntermediate =>
    if byte = esc then { tracker with state := .escape }
    else if isAsciiDigit byte && collectingFirstParam then
      let value := saturatingMulTen (firstParam.getD 0) + digitValue byte
      { tracker with state := .csi (some value) collectingFirstParam hasSpaceIntermediate }
    else if byte = semicolon || byte = colonByte then
      { tracker with state := .csi firstParam false hasSpaceIntermediate }
    else if byte = spaceByte then { tracker with state := .csi firstParam false true }
    else if 0x40 ≤ byte && byte ≤ 0x7e then
      if byte = letterQ && hasSpaceIntermediate && decide (firstParam.getD 0 ≤ 6) then
        ⟨.ground, decide (firstParam.getD 0 ≠ 0)⟩
      else { tracker with state := .ground }
    else if !(0x20 ≤ byte && byte ≤ 0x3f) then { tracker with state := .ground }
    else tracker

/-- The addition of this byte's digit leaves `u16`. -/
def overflows (tracker : DecscusrTracker) (byte : UInt8) : Bool :=
  match tracker.state with
  | .csi firstParam true _ => isAsciiDigit byte &&
      decide (65535 < (saturatingMulTen (firstParam.getD 0)).toNat + (digitValue byte).toNat)
  | _ => false

def observe (tracker : DecscusrTracker) (bytes : List UInt8) : DecscusrTracker :=
  bytes.foldl observeByte tracker

end DecscusrTracker

/-! ### The reported shape -/

inductive CursorVisualStyle
  | block | blockHollow | underline | bar
deriving DecidableEq, Repr

def decscusrCursorShape : CursorVisualStyle → Bool → UInt8
  | .block, true | .blockHollow, true => 1
  | .block, false | .blockHollow, false => 2
  | .underline, true => 3
  | .underline, false => 4
  | .bar, true => 5
  | .bar, false => 6

/-- The shape of `cursor_state_from_render_state`; the arguments are what the render state answers. -/
def cursorShape (tracker : DecscusrTracker) (style : Option CursorVisualStyle)
    (blinking : Option Bool) : UInt8 :=
  if tracker.cursorShapeOverridden then
    match style, blinking with
    | some style, some blinking => decscusrCursorShape style blinking
    | _, _ => 0
  else 0

/-! ### What the commands of a stream ask for -/

/-- The number that a string of digits writes. -/
def decimalValue (digits : List UInt8) : Nat :=
  digits.foldl (fun value digit => value * 10 + (digit.toNat - 0x30)) 0

/-- The complete command `CSI Ps SP q`. -/
def decscusr (digits : List UInt8) : List UInt8 :=
  [esc, leftBracket] ++ digits ++ [spaceByte, letterQ]

/-- The bytes end in a complete command of this value. -/
def EndsInDecscusr (bytes : List UInt8) (value : Nat) : Prop :=
  ∃ front digits, bytes = front ++ decscusr digits ∧ (∀ digit ∈ digits, isAsciiDigit digit = true) ∧
    decimalValue digits = value

/-- The last complete command whose value is at most 6 asks for a shape. -/
def ShapeSet (stream : List UInt8) : Prop :=
  ∃ value, value ≠ 0 ∧
    Latest (fun bytes value => EndsInDecscusr bytes value ∧ value ≤ 6) stream value

/-- The parameter and intermediate bytes behind the last `CSI`, while no other byte follows it. -/
def csiBody (bytes : List UInt8) : Option (List UInt8) :=
  match behindLast esc bytes with
  | some (bracket :: body) =>
    if bracket = leftBracket ∧ body.all (fun byte => 0x20 ≤ byte && byte ≤ 0x3f) then some body
    else none
  | _ => none

/-- A byte that ends the first parameter. -/
def endsFirstParam (byte : UInt8) : Bool :=
  byte = semicolon || byte = colonByte || byte = spaceByte

/-- The digits of the first parameter; other bytes among them are passed over. -/
def firstParamDigits (body : List UInt8) : List UInt8 :=
  (body.takeWhile fun byte => !endsFirstParam byte).filter isAsciiDigit

/-- The byte is admitted behind the others: a digit takes the first parameter past `u16` only if it
is a 0, and a sequence ending in `SP … q` that is no plain command either has a first parameter
above 6 or asks for what the last command asked for. -/
def Admitted (seen : List UInt8) (byte : UInt8) : Prop :=
  ∀ body, csiBody seen = some body →
    (isAsciiDigit byte = true → body.all (fun b => !endsFirstParam b) = true →
      decimalValue (firstParamDigits body ++ [byte]) ≤ 65535 ∨ byte = 0x30) ∧
    (byte = letterQ → spaceByte ∈ body →
      (∀ digits, (∀ digit ∈ digits, isAsciiDigit digit = true) → body ≠ digits ++ [spaceByte]) →
      decimalValue (firstParamDigits body) ≤ 6 →
      (decimalValue (firstParamDigits body) ≠ 0 ↔ ShapeSet seen))

end Ork3.Pane
