import Ork3.Library.RingStack
import Ork3.Model.KittyKeyboard

/-!
# The keyboard flags of the terminal of a pane

The part of the vendored terminal that the Kitty keyboard sequences and the switches of the screen
reach: the stack of flags (`kitty/key.zig`), the parameters of a control sequence (`Parser.zig` and
the fast path of `stream.zig`), what is dispatched for them (`stream.zig`, `stream_terminal.zig`) and
the two screens (`Terminal.zig`). Below it the sequences that a program writes.
-/

namespace Ork3.Pane.KittyKeyboard

open Ork3.Library

/-! ### The stack of flags -/

/-- A packed struct of five bits. -/
abbrev Flags := BitVec 5

inductive SetMode
  | set | or | not
  deriving DecidableEq, Repr

structure FlagStack where
  flags : Fin 8 → Flags
  idx : Fin 8
  deriving DecidableEq

namespace FlagStack

def empty : FlagStack := ⟨fun _ => 0, 0⟩

def current (s : FlagStack) : Flags := s.flags s.idx

def set (s : FlagStack) (mode : SetMode) (v : Flags) : FlagStack :=
  let flags :=
    match mode with
    | .set => v
    | .or => s.current ||| v
    | .not => s.current &&& ~~~v
  { s with flags := Function.update s.flags s.idx flags }

/-- The index wraps, so that a full stack loses its oldest entry. -/
def push (s : FlagStack) (flags : Flags) : FlagStack :=
  ⟨Function.update s.flags (s.idx + 1) flags, s.idx + 1⟩

/-- One round of the loop of `pop`. -/
def popOne (s : FlagStack) : FlagStack := ⟨Function.update s.flags s.idx 0, s.idx - 1⟩

def pop (s : FlagStack) (n : Nat) : FlagStack := if 8 ≤ n then empty else popOne^[n] s

/-- The flags in force are entry 0, those that `k` pops uncover are entry `k`. A stack without an
entry there has no flags. -/
def entry (s : FlagStack) (k : Nat) : Flags := ringEntry s.flags s.idx 0 k

end FlagStack

/-! ### The parameters of a sequence -/

def maxParams : Nat := 24

/-- The parser inside the parameters: those that have ended, the one that is read, and whether that
has a digit. -/
structure ParamReader where
  params : List Nat
  acc : Nat
  digits : Bool
  deriving DecidableEq, Repr

namespace ParamReader

def start : ParamReader := ⟨[], 0, false⟩

/-- A digit or a semicolon. Sums and products saturate at 16 bits. -/
def read (p : ParamReader) (byte : UInt8) : ParamReader :=
  if maxParams ≤ p.params.length then p
  else if byte = semicolonByte then ⟨p.params ++ [p.acc], 0, false⟩
  else { p with acc := min (min (p.acc * 10) 65535 + (byte.toNat - 0x30)) 65535, digits := true }

/-- The parameters at the final byte; a sequence with too many is ignored. -/
def finish (p : ParamReader) : Option (List Nat) :=
  if maxParams ≤ p.params.length then none
  else some (if p.digits then p.params ++ [p.acc] else p.params)

end ParamReader

/-- The parameters after the first byte of a sequence. One with other bytes among them is ignored by
the parser, or has a second intermediate byte, with which nothing below is dispatched. -/
def csiParams (bytes : List UInt8) : Option (List Nat) :=
  if ∀ byte ∈ bytes, isAsciiDigit byte ∨ byte = semicolonByte then
    (bytes.foldl ParamReader.read .start).finish
  else none

/-! ### The screens -/

/-- The modes that switch the screen. -/
inductive ScreenMode
  | altScreenLegacy | altScreen | altScreenSaveCursorClearEnter
  deriving DecidableEq, Repr

/-- `modeFromInt`, for these modes. -/
def ScreenMode.fromInt : Nat → Option ScreenMode
  | 47 => some .altScreenLegacy
  | 1047 => some .altScreen
  | 1049 => some .altScreenSaveCursorClearEnter
  | _ => none

/-- The stacks of the screen that is shown and of the other one, and the values and saved values of
the modes that switch between them. -/
structure Terminal where
  active : FlagStack
  inactive : FlagStack
  alternate : Bool
  values : ScreenMode → Bool
  saved : ScreenMode → Bool

namespace Terminal

def start : Terminal := ⟨.empty, .empty, false, fun _ => false, fun _ => false⟩

def switchScreen (t : Terminal) (alternate : Bool) : Terminal :=
  if t.alternate = alternate then t
  else { t with active := t.inactive, inactive := t.active, alternate := alternate }

/-- `setMode`, which switches the screen in each of these modes. -/
def setMode (t : Terminal) (mode : ScreenMode) (enabled : Bool) : Terminal :=
  { t with values := Function.update t.values mode enabled }.switchScreen enabled

def saveMode (t : Terminal) (mode : ScreenMode) : Terminal :=
  { t with saved := Function.update t.saved mode (t.values mode) }

def restoreMode (t : Terminal) (mode : ScreenMode) : Terminal := t.setMode mode (t.saved mode)

/-- `CSI ? … h`, `l`, `s` and `r`. -/
def dispatchModes (t : Terminal) (params : List Nat) (final : UInt8) : Terminal :=
  let modes := params.filterMap ScreenMode.fromInt
  if final = 0x68 then modes.foldl (fun t mode => t.setMode mode true) t
  else if final = 0x6c then modes.foldl (fun t mode => t.setMode mode false) t
  else if final = 0x73 then modes.foldl saveMode t
  else if final = 0x72 then modes.foldl restoreMode t
  else t

/-- `CSI > … u`; flags of more than five bits are ignored. -/
def dispatchPush (t : Terminal) (params : List Nat) : Terminal :=
  match params with
  | [flags] => if flags < 32 then { t with active := t.active.push (.ofNat 5 flags) } else t
  | _ => { t with active := t.active.push 0 }

/-- `CSI < … u`. -/
def dispatchPop (t : Terminal) (params : List Nat) : Terminal :=
  match params with
  | [number] => { t with active := t.active.pop number }
  | _ => { t with active := t.active.pop 1 }

/-- `CSI = … u`. -/
def dispatchSet (t : Terminal) (params : List Nat) : Terminal :=
  let flags := params.head?.getD 0
  let mode : Option SetMode :=
    match params[1]?.getD 1 with
    | 1 => some .set
    | 2 => some .or
    | 3 => some .not
    | _ => none
  if flags < 32 then
    match mode with
    | some mode => { t with active := t.active.set mode (.ofNat 5 flags) }
    | none => t
  else t

/-- A control sequence with one intermediate byte, as far as it reaches this state. -/
def csiDispatch (t : Terminal) (intermediate : UInt8) (params : List Nat) (final : UInt8) :
    Terminal :=
  if intermediate = 0x3f then t.dispatchModes params final
  else if final ≠ uByte then t
  else if intermediate = 0x3e then t.dispatchPush params
  else if intermediate = 0x3c then t.dispatchPop params
  else if intermediate = 0x3d then t.dispatchSet params
  else t

/-- The sequence with these bytes between its introducer and its final byte. -/
def csi (t : Terminal) (bytes : List UInt8) (final : UInt8) : Terminal :=
  match bytes with
  | [] => t
  | intermediate :: rest =>
    match csiParams rest with
    | some params => t.csiDispatch intermediate params final
    | none => t

end Terminal

/-! ### The sequences of a program -/

/-- A decimal parameter, which may have leading zeros. -/
structure Param where
  zeros : Nat
  value : Nat
  deriving Repr

def Param.digits (p : Param) : List Char := List.replicate p.zeros '0' ++ Nat.toDigits 10 p.value

/-- The digits of a parameter that may be omitted. -/
def optionalDigits (p : Option Param) : List Char := (p.map Param.digits).getD []

def SetMode.number : SetMode → Char
  | .set => '1'
  | .or => '2'
  | .not => '3'

/-- What a program writes: the Kitty keyboard sequences, any other control sequence, and text. -/
inductive KeyboardSequence
  | push (flags : Option Param)
  | set (flags : Option Param) (mode : Option (Nat × SetMode))
  | pop (count : Option Param)
  | other (params : List UInt8) (final : UInt8)
  | text (bytes : List UInt8)

namespace KeyboardSequence

/-- The parameters of a Kitty keyboard sequence, after its introducer. The mode may have leading
zeros. -/
def operands : KeyboardSequence → List Char
  | push flags => optionalDigits flags
  | set flags none => optionalDigits flags
  | set flags (some (zeros, mode)) =>
    optionalDigits flags ++ ';' :: (List.replicate zeros '0' ++ [mode.number])
  | pop count => optionalDigits count
  | _ => []

/-- The bytes between the introducer of a control sequence and its final byte, and that byte. -/
def csi : KeyboardSequence → Option (List UInt8 × UInt8)
  | s@(push _) => some (0x3e :: ascii s.operands, uByte)
  | s@(set _ _) => some (0x3d :: ascii s.operands, uByte)
  | s@(pop _) => some (0x3c :: ascii s.operands, uByte)
  | other params final => some (params, final)
  | text _ => none

def bytes (s : KeyboardSequence) : List UInt8 :=
  match s, s.csi with
  | text bytes, _ => bytes
  | _, some (params, final) => [escByte, bracketByte] ++ params ++ [final]
  | _, none => []

/-- A control sequence has parameter and intermediate bytes and a final byte; another one than those
of the protocol does not end in `u` after one of its introducers. Text has no escape. -/
def WellFormed : KeyboardSequence → Prop
  | other params final => (∀ byte ∈ params, 0x20 ≤ byte ∧ byte ≤ 0x3f) ∧ isFinalByte final = true ∧
      (final = uByte → ∀ kind ∈ params.head?, kind ≠ 0x3e ∧ kind ≠ 0x3d ∧ kind ≠ 0x3c)
  | text bytes => escByte ∉ bytes
  | _ => True

end KeyboardSequence

/-- What the terminal makes of a sequence. -/
def Terminal.apply (t : Terminal) (s : KeyboardSequence) : Terminal :=
  match s.csi with
  | some (params, final) => t.csi params final
  | none => t

end Ork3.Pane.KittyKeyboard
