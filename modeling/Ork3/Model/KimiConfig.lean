import Ork3.Library.LineJoin
import Ork3.Model.AgentIdentity

/-!
# The block of hooks in Kimi's settings

Kimi's settings hold the hooks between two marker lines. Installing takes the old block out and writes
a new one at the end.
-/

namespace Ork3.Integration

open Ork3.Library
open Ork3.Terminal (trim isWhitespace)

def kimiConfigBlockBegin : List Char := "# >>> herdr kimi integration".toList

def kimiConfigBlockEnd : List Char := "# <<< herdr kimi integration".toList

/-- Each event with the action that it reports. -/
def kimiHookEvents : List (List Char × List Char) :=
  [("SessionStart".toList, "session".toList), ("UserPromptSubmit".toList, "working".toList),
    ("PreToolUse".toList, "working".toList), ("SubagentStart".toList, "working".toList),
    ("PreCompact".toList, "working".toList), ("PermissionRequest".toList, "blocked".toList),
    ("PermissionResult".toList, "working".toList), ("Stop".toList, "idle".toList),
    ("Interrupt".toList, "idle".toList)]

def hexDigitUpper (n : Nat) : Char := ("0123456789ABCDEF".toList[n]?).getD '0'

/-- `{:04X}` of a character below 256. -/
def escapeControl (c : Char) : List Char :=
  ['\\', 'u', '0', '0', hexDigitUpper (c.toNat / 16), hexDigitUpper (c.toNat % 16)]

def escapeChar (c : Char) : List Char :=
  if c = '"' then ['\\', '"']
  else if c = '\\' then ['\\', '\\']
  else if c = '\x08' then ['\\', 'b']
  else if c = '\t' then ['\\', 't']
  else if c = '\n' then ['\\', 'n']
  else if c = '\x0c' then ['\\', 'f']
  else if c = '\r' then ['\\', 'r']
  else if c.toNat ≤ 0x1f ∨ c.toNat = 0x7f then escapeControl c
  else [c]

def tomlBasicString (value : List Char) : List Char := '"' :: value.flatMap escapeChar ++ ['"']

/-- `hook_command` for one hook path gives the command of each action. -/
def kimiHookTable (hookCommand : List Char → List Char) (event action : List Char) : List Char :=
  "[[hooks]]\nevent = ".toList ++ tomlBasicString event ++ "\ncommand = ".toList ++
    tomlBasicString (hookCommand action) ++ "\ntimeout = 10\n\n".toList

def joinTomlLines (lines : List (List Char)) (trailingNewline : Bool) : List Char :=
  let result := ['\n'].intercalate lines
  if trailingNewline || result.isEmpty then result ++ ['\n'] else result

/-- `while result.ends_with("\n\n") { result.pop(); }` on the reversed text. -/
def popNewlines : List Char → List Char
  | '\n' :: rest => if rest.head? = some '\n' then popNewlines rest else '\n' :: rest
  | text => text

structure KimiScan where
  lines : List (List Char)
  inBlock : Bool
  removedBlock : Bool

def KimiScan.line (s : KimiScan) (line : List Char) : KimiScan :=
  if trim line = kimiConfigBlockBegin then { s with inBlock := true, removedBlock := true }
  else if s.inBlock then
    if trim line = kimiConfigBlockEnd then { s with inBlock := false } else s
  else { s with lines := s.lines ++ [line] }

attribute [grind =] KimiScan.line

def removeKimiConfigBlock (content : List Char) : List Char :=
  let trailingNewline := endsInLineFeed content
  let s := (lines content).foldl KimiScan.line ⟨[], false, false⟩
  if !s.removedBlock then content
  else
    let result := (popNewlines (joinTomlLines s.lines trailingNewline).reverse).reverse
    if result = ['\n'] then [] else result

def buildKimiConfigWithHooks (hookCommand : List Char → List Char) (content : List Char) :
    List Char :=
  let result := trimNewlines (removeKimiConfigBlock content)
  let result := if result.isEmpty then result else result ++ ['\n', '\n']
  result ++ kimiConfigBlockBegin ++ ['\n'] ++
    kimiHookEvents.flatMap (fun hook => kimiHookTable hookCommand hook.1 hook.2) ++
    kimiConfigBlockEnd ++ ['\n']

end Ork3.Integration
