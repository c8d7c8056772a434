import Ork3.Library.Decimal

/-!
# The keyboard tracker of a pane

`pane/kitty_keyboard.rs`: the tracker that follows the Kitty keyboard sequences in the output of a
pane, and the sequences that bring a fresh tracker to its state.
-/

namespace Ork3.Pane.KittyKeyboard

open Ork3.Library

/-! ### The tracker -/

/-- `stack` is in the order of the vector: the last entry is on top. -/
structure KittyKeyboardTracker where
  pending : List UInt8
  stack : List UInt16
  flags : UInt16
  deriving DecidableEq, Repr

namespace KittyKeyboardTracker

/-- `KittyKeyboardTracker::default`. -/
def fresh : KittyKeyboardTracker := ⟨[], [], 0⟩

end KittyKeyboardTracker

def escByte : UInt8 := 0x1b
def bracketByte : UInt8 := 0x5b
def semicolonByte : UInt8 := 0x3b
def uByte : UInt8 := 0x75

/-- The bytes that end a control sequence. -/
def isFinalByte (byte : UInt8) : Bool := 0x40 ≤ byte && byte ≤ 0x7e

def parseKittyKeyboardFlags (bytes : List UInt8) : UInt16 :=
  let firstParam := bytes.takeWhile (· ≠ semicolonByte)
  match fromUtf8 firstParam with
  | .ok value => ((parseUnsigned 65535 value).map UInt16.ofNat).getD 0
  | .error _ => 0

namespace KittyKeyboardTracker

def push (t : KittyKeyboardTracker) (flags : UInt16) : KittyKeyboardTracker :=
  { t with
    stack := t.stack ++ [t.flags]
    flags := flags }

def pop (t : KittyKeyboardTracker) : KittyKeyboardTracker :=
  { t with
    stack := t.stack.dropLast
    flags := t.stack.getLast?.getD 0 }

def observeCsiU (t : KittyKeyboardTracker) (params : List UInt8) : KittyKeyboardTracker :=
  match params with
  | [] => t
  | kind :: rest =>
    if kind = 0x3e then t.push (parseKittyKeyboardFlags rest)
    else if kind = 0x3d then { t with flags := parseKittyKeyboardFlags rest }
    else if kind = 0x3c then pop^[max (parseKittyKeyboardFlags rest).toNat 1] t
    else t

attribute [grind =] observeCsiU

def storePending (t : KittyKeyboardTracker) (bytes : List UInt8) : KittyKeyboardTracker :=
  { t with pending := if bytes.length ≤ 64 then bytes else [] }

/-- The loop of `observe` at the bytes that are left; `skip` bytes before the index are passed. -/
def observeBytes (t : KittyKeyboardTracker) : List UInt8 → (skip : Nat) → KittyKeyboardTracker
  | [], _ => t
  | _ :: rest, skip + 1 => observeBytes t rest skip
  | byte :: rest, 0 =>
    if byte ≠ escByte then observeBytes t rest 0
    else
      match rest with
      | [] => t.storePending [byte]
      | next :: body =>
        if next ≠ bracketByte then observeBytes t (next :: body) 0
        else
          match body.findIdx? isFinalByte with
          | none => t.storePending (byte :: next :: body)
          | some length =>
            let seen := if body[length]? = some uByte then t.observeCsiU (body.take length) else t
            observeBytes seen (next :: body) (length + 2)

attribute [grind =] observeBytes

def observe (t : KittyKeyboardTracker) (bytes : List UInt8) : KittyKeyboardTracker :=
  observeBytes { t with pending := [] } (t.pending ++ bytes) 0

/-- The chunks one after the other. -/
def observeAll (t : KittyKeyboardTracker) (chunks : List (List UInt8)) : KittyKeyboardTracker :=
  chunks.foldl observe t

/-- `ESC [ intro flags u`. -/
def csiU (intro : Char) (flags : UInt16) : List Char :=
  ['\x1b', '[', intro] ++ Nat.toDigits 10 flags.toNat ++ ['u']

def replayAnsi (t : KittyKeyboardTracker) : Option (List Char) :=
  match t.stack with
  | [] => if t.flags ≠ 0 then some (csiU '=' t.flags) else none
  | baseline :: rest =>
    let ansi := if baseline ≠ 0 then csiU '=' baseline else []
    let ansi := (rest ++ [t.flags]).foldl (fun ansi flags => ansi ++ csiU '>' flags) ansi
    if ansi.isEmpty then none else some ansi

/-- A tracker that is seeded with what another one replays. -/
def seed (t : KittyKeyboardTracker) (ansi : Option (List Char)) : KittyKeyboardTracker :=
  match ansi with
  | none => t
  | some ansi => t.observe (ansi.map fun c => UInt8.ofNat c.toNat)

end KittyKeyboardTracker

namespace KeyboardSequence

/-- The bytes of a text of ASCII characters. -/
def ascii (text : List Char) : List UInt8 := text.map fun c => UInt8.ofNat c.toNat

attribute [grind =] ascii

end KeyboardSequence

end Ork3.Pane.KittyKeyboard
