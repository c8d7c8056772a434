import Mathlib

/-!
# Hooks in the settings of an agent

Four formats of hook files are edited in place: each event has an array of entries, and the format
says which entries carry a command. Installing adds one entry, uninstalling takes the command's
hooks out again.
-/

namespace Ork3.Integration

/-- `serde_json::Number`. -/
inductive Number
  | posInt (n : UInt64)
  | negInt (n : Int64)
  | float (bits : UInt64)
  deriving DecidableEq

/-- `serde_json::Value`. An object is its lookup: its keys have no order of their own. -/
inductive Value
  | null
  | bool (b : Bool)
  | number (n : Number)
  | string (s : String)
  | array (items : List Value)
  | object (fields : String → Option Value)

/-- `serde_json::Map`. -/
abbrev Map := String → Option Value

namespace Map

def empty : Map := fun _ => none

def insert (map : Map) (key : String) (value : Value) : Map := Function.update map key (some value)

def remove (map : Map) (key : String) : Map := Function.update map key none

/-- `entry(key).or_insert_with(..)`. -/
def orInsert (map : Map) (key : String) (value : Value) : Map :=
  match map key with
  | none => map.insert key value
  | some _ => map

end Map

namespace Value

def get (value : Value) (key : String) : Option Value :=
  match value with
  | .object fields => fields key
  | _ => none

def asStr : Value → Option String
  | .string s => some s
  | _ => none

def asArray : Value → Option (List Value)
  | .array items => some items
  | _ => none

end Value

open Value

/-! ### Which entries carry a command -/

def isMatchingCommandHook (hook : Value) (command : String) : Bool :=
  (hook.get "type").bind asStr = some "command" && (hook.get "command").bind asStr = some command

/-- The test of `ensure_command_hook`: a hook of the group runs the command. -/
def isInstalledGroup (entry : Value) (command : String) : Bool :=
  ((entry.get "hooks").bind asArray).any fun hookEntries =>
    hookEntries.any fun hook => isMatchingCommandHook hook command

def isMatchingDirectCommandEntry (entry : Value) (command : String) : Bool :=
  (entry.get "command").bind asStr = some command || (entry.get "bash").bind asStr = some command ||
    (entry.get "powershell").bind asStr = some command

def isDirectCommandEntry (entry : Value) (command : String) : Bool :=
  (entry.get "type").bind asStr = some "command" && isMatchingDirectCommandEntry entry command

def isSimpleCommandEntry (entry : Value) (command : String) : Bool :=
  (entry.get "command").bind asStr = some command

/-! ### Installing a hook -/

def notAnArray (event : String) : String := s!"hook entries for {event} must be an array"

/-- An entry is pushed unless one is installed. -/
def ensureEntry (installed : Value → Bool) (entry : Value) (hooks : Map) (event : String) :
    Except String Map :=
  let hooks := hooks.orInsert event (.array [])
  match hooks event with
  | some (.array entries) =>
    if entries.any installed then .ok hooks
    else .ok (hooks.insert event (.array (entries ++ [entry])))
  | _ => .error (notAnArray event)

def commandGroup (command : String) (timeout : UInt64) (matcher : Option String) : Value :=
  let hook := (Map.empty.insert "type" (.string "command")).insert "command" (.string command)
  let hook := hook.insert "timeout" (.number (.posInt timeout))
  let entry := match matcher with
    | some matcher => Map.empty.insert "matcher" (.string matcher)
    | none => Map.empty
  .object (entry.insert "hooks" (.array [.object hook]))

def ensureCommandHook (hooks : Map) (event command : String) (timeout : UInt64)
    (matcher : Option String) : Except String Map :=
  ensureEntry (isInstalledGroup · command) (commandGroup command timeout matcher) hooks event

def flatEntry (command : String) (timeoutMs : UInt64) : Value :=
  let entry := (Map.empty.insert "type" (.string "command")).insert "command" (.string command)
  let entry := entry.insert "timeout" (.number (.posInt timeoutMs))
  .object (entry.insert "description" (.string "Report MastraCode agent state to Herdr"))

def ensureFlatCommandHook (hooks : Map) (event command : String) (timeoutMs : UInt64) :
    Except String Map :=
  ensureEntry (isMatchingCommandHook · command) (flatEntry command timeoutMs) hooks event

def simpleEntry (command : String) : Value := .object (Map.empty.insert "command" (.string command))

def ensureSimpleCommandHook (hooks : Map) (event command : String) : Except String Map :=
  ensureEntry (isSimpleCommandEntry · command) (simpleEntry command) hooks event

def directCommandField (windows : Bool) : String := if windows then "powershell" else "bash"

/-- What becomes of the entry that already runs the command. -/
def updateDirectEntry (windows : Bool) (command : String) (timeoutSec : UInt64)
    (matcher : Option String) : Value → Value
  | .object fields =>
    let fields : Map := fields
    let fields := ((fields.remove "command").remove "bash").remove "powershell"
    let fields := fields.insert (directCommandField windows) (.string command)
    let fields := fields.insert "timeoutSec" (.number (.posInt timeoutSec))
    .object (match matcher with
      | some matcher => fields.insert "matcher" (.string matcher)
      | none => fields.remove "matcher")
  | entry => entry

def directEntry (windows : Bool) (command : String) (timeoutSec : UInt64)
    (matcher : Option String) : Value :=
  let entry := Map.empty.insert "type" (.string "command")
  let entry := match matcher with
    | some matcher => entry.insert "matcher" (.string matcher)
    | none => entry
  let entry := entry.insert (directCommandField windows) (.string command)
  .object (entry.insert "timeoutSec" (.number (.posInt timeoutSec)))

/-- The first entry that carries the command is brought up to date, where there is one. -/
def ensureDirectCommandHook (windows : Bool) (hooks : Map) (event command : String)
    (timeoutSec : UInt64) (matcher : Option String) : Except String Map :=
  let hooks := hooks.orInsert event (.array [])
  match hooks event with
  | some (.array entries) =>
    if entries.any (isDirectCommandEntry · command) then
      let update := updateDirectEntry windows command timeoutSec matcher
      .ok (hooks.insert event (.array (entries.replaceF fun entry =>
        if isDirectCommandEntry entry command then some (update entry) else none)))
    else
      .ok (hooks.insert event
        (.array (entries ++ [directEntry windows command timeoutSec matcher])))
  | _ => .error (notAnArray event)

/-! ### Uninstalling a hook -/

/-- An event without entries is taken out. -/
def setEntries (hooks : Map) (event : String) (entries : List Value) : Map :=
  if entries.isEmpty then hooks.remove event else hooks.insert event (.array entries)

/-- The body of `retain_mut`: what is kept of an entry, and whether a hook was removed. -/
def retainGroup (command : String) (entry : Value) : Option Value × Bool :=
  match entry with
  | .object fields =>
    match fields "hooks" with
    | some (.array hookEntries) =>
      let kept := hookEntries.filter fun hook => !isMatchingCommandHook hook command
      (if kept.isEmpty then none else some (.object (Map.insert fields "hooks" (.array kept))),
        kept.length != hookEntries.length)
    | _ => (some entry, false)
  | _ => (some entry, false)

def removeCommandHook (hooks : Map) (event command : String) : Except String (Map × Bool) :=
  match hooks event with
  | none => .ok (hooks, false)
  | some (.array entries) =>
    .ok (setEntries hooks event (entries.filterMap fun entry => (retainGroup command entry).1),
      entries.any fun entry => (retainGroup command entry).2)
  | some _ => .error (notAnArray event)

/-- The entries that match are taken out. -/
def removeEntries (matching : Value → Bool) (hooks : Map) (event : String) :
    Except String (Map × Bool) :=
  match hooks event with
  | none => .ok (hooks, false)
  | some (.array entries) =>
    let kept := entries.filter fun entry => !matching entry
    .ok (setEntries hooks event kept, kept.length != entries.length)
  | some _ => .error (notAnArray event)

def removeFlatCommandHook (hooks : Map) (event command : String) : Except String (Map × Bool) :=
  removeEntries (isMatchingCommandHook · command) hooks event

def removeDirectCommandHook (hooks : Map) (event command : String) : Except String (Map × Bool) :=
  removeEntries (isDirectCommandEntry · command) hooks event

def removeSimpleCommandHook (hooks : Map) (event command : String) : Except String (Map × Bool) :=
  removeEntries (isSimpleCommandEntry · command) hooks event

end Ork3.Integration
