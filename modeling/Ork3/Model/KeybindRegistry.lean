import Ork3.Model.Keybinds

/-!
# Registration and matching of key bindings

The registry of claimed combinations, the passes over a configuration that fill it, and the match
of a key event with a binding (`config/keybinds.rs`).
-/

namespace Ork3.Input

open Ork3.Library Ork3.Terminal

/-! ### Matching -/

def isShiftedPunctuation (ch : Char) : Bool :=
  ch ∈ ['!', '@', '#', '$', '%', '^', '&', '*', '(', ')', '_', '+', '\x7b', '\x7d', '|', ':', '"',
    '<', '>', '?', '~']

def shiftedCharMatchesExpected (actual : KeyCode) (shiftedCodepoint : Option Nat)
    (expected : KeyCode) : Bool :=
  match expected with
  | .char expected =>
    shiftedCodepoint.bind charFromU32 = some expected ||
      (actual = .char expected && isShiftedPunctuation expected)
  | _ => false

def keyCodesMatch (actual : KeyCode) (actualModifiers : KeyModifiers) (expected : KeyCode)
    (expectedModifiers : KeyModifiers) (shiftedCodepoint : Option Nat) : Bool :=
  match actual, expected with
  | .char actual, .char expected =>
    if actual.isAlpha && expected.isAlpha then
      actual = expected ||
        (actualModifiers.shift && expectedModifiers.shift && actual.toLower = expected.toLower)
    else
      actual = expected ||
        shiftedCharMatchesExpected (.char actual) shiftedCodepoint (.char expected)
  | actual, expected => actual = expected

def legacyShiftedAsciiLetterMatches (actual : KeyCode) (actualModifiers : KeyModifiers)
    (expected : KeyCode) (expectedModifiers : KeyModifiers) : Bool :=
  if actualModifiers.shift then false
  else
    match actual, expected with
    | .char actual, .char expected =>
      actual.isUpper && expected.isLower && actual.toLower = expected &&
        actualModifiers.union .SHIFT = expectedModifiers
    | _, _ => false

def keyPartsMatchCombo (actual : KeyCombo) (shiftedCodepoint : Option Nat) (combo : KeyCombo) :
    Bool :=
  let (actualCode, actualModifiers) := normalizeKeyCombo actual
  let (expectedCode, expectedModifiers) := normalizeKeyCombo combo
  if actualModifiers = expectedModifiers &&
      keyCodesMatch actualCode actualModifiers expectedCode expectedModifiers shiftedCodepoint then
    true
  else
    (actualModifiers.shift && actualModifiers.withoutShift = expectedModifiers &&
      shiftedCharMatchesExpected actualCode shiftedCodepoint expectedCode) ||
    legacyShiftedAsciiLetterMatches actualCode actualModifiers expectedCode expectedModifiers

def terminalKeyMatchesCombo (key : TerminalKey) (combo : KeyCombo) : Bool :=
  keyPartsMatchCombo (key.code, key.modifiers) key.shiftedCodepoint combo

def shiftedNumberSymbols : List (Char × Char) :=
  [('1', '!'), ('2', '@'), ('3', '#'), ('4', '$'), ('5', '%'), ('6', '^'), ('7', '&'), ('8', '*'),
   ('9', '(')]

def shiftedNumberSymbol (ch : Char) : Option Char :=
  (shiftedNumberSymbols.find? fun e => e.2 = ch).map Prod.fst

def indexedShiftedNumberMatches (key : TerminalKey) (combo : KeyCombo) (number : Char) : Bool :=
  let (expectedCode, expectedModifiers) := normalizeKeyCombo combo
  expectedCode = .char number && expectedModifiers.shift &&
    key.modifiers = expectedModifiers.withoutShift

/-- The index that an indexed binding takes from a key. -/
def ResolvedBinding.matchedIndex (binding : ResolvedBinding) (key : TerminalKey) : Option Nat :=
  match key.code with
  | .char c =>
    if '1' ≤ c ∧ c ≤ '9' then
      if terminalKeyMatchesCombo key binding.trigger.combo then some (c.toNat - '1'.toNat) else none
    else
      match shiftedNumberSymbol c with
      | none => none
      | some number =>
        if indexedShiftedNumberMatches key binding.trigger.combo number then
          some (number.toNat - '1'.toNat)
        else none
  | _ => none

def matchesPrefixKey (bindings : List ResolvedBinding) (key : TerminalKey) : Bool :=
  bindings.any fun b => b.trigger.isPrefixed && terminalKeyMatchesCombo key b.trigger.combo

def matchesDirectKey (bindings : List ResolvedBinding) (key : TerminalKey) : Bool :=
  bindings.any fun b => b.trigger.isDirect && terminalKeyMatchesCombo key b.trigger.combo

def isUnmodifiedPrintable (combo : KeyCombo) : Bool :=
  match combo.1 with
  | .char ch => !isControl ch && combo.2.withoutShift = .empty
  | _ => false

/-! ### The registry -/

inductive BindingSource where
  | default | user
deriving DecidableEq, Repr

structure RegisteredBinding where
  field : String
  source : BindingSource
deriving DecidableEq, Repr

/-- The claimed combinations, the newest entry of a combination first. -/
structure BindingRegistry where
  prefixCombo : KeyCombo
  prefixSource : BindingSource
  direct : List (KeyCombo × RegisteredBinding)
  prefixed : List (KeyCombo × RegisteredBinding)
deriving DecidableEq, Repr

namespace BindingRegistry

def new (prefixCombo : KeyCombo) (prefixSource : BindingSource) : BindingRegistry where
  prefixCombo := normalizeKeyCombo prefixCombo
  prefixSource := prefixSource
  direct := []
  prefixed := []

def reserveDirect (r : BindingRegistry) (combo : KeyCombo) (field : String)
    (source : BindingSource) : BindingRegistry :=
  if (r.direct.lookup (normalizeKeyCombo combo)).isSome then r
  else { r with direct := (normalizeKeyCombo combo, ⟨field, source⟩) :: r.direct }

def prefixRhsIsReserved (r : BindingRegistry) (combo : KeyCombo) : Bool :=
  normalizeKeyCombo combo = r.prefixCombo

def conflict (r : BindingRegistry) (binding : ResolvedBinding) : Option RegisteredBinding :=
  match binding.trigger with
  | .direct combo => r.direct.lookup (normalizeKeyCombo combo)
  | .prefixed combo => r.prefixed.lookup (normalizeKeyCombo combo)

def register (r : BindingRegistry) (binding : ResolvedBinding) (field : String)
    (source : BindingSource) : BindingRegistry :=
  match binding.trigger with
  | .direct combo =>
    { r with direct := (normalizeKeyCombo combo, ⟨field, source⟩) :: r.direct }
  | .prefixed combo =>
    { r with prefixed := (normalizeKeyCombo combo, ⟨field, source⟩) :: r.prefixed }

end BindingRegistry

/-! ### Diagnostics -/

inductive KeybindDiagnostic where
  | invalidPrefix (field : String) (raw : List Char)
  | invalid (field : String) (raw : List Char)
  | rangeNotIndexed (field : String) (raw : List Char)
  | notAnIndex (field : String) (label : List Char)
  | invalidIndexed (field : String) (configuredLabel : List Char)
  | reserved (field : String) (label : List Char)
  | conflict (label : List Char) (firstField field : String)
  | unsafeDirect (field : String) (label suggestion : List Char)
  | navigatePrefix (field : String) (label : List Char)
  | navigateEsc (field : String) (label : List Char)
  | emptyCommand (commandField : String)
  | popupSize (index : Nat)
deriving DecidableEq, Repr

namespace KeybindDiagnostic

/-- The text of a diagnostic; `debug` quotes a text. -/
def text (debug : List Char → String) : KeybindDiagnostic → String
  | invalidPrefix field raw =>
    "invalid keybinding: " ++ field ++ " = " ++ debug raw ++ "; using fallback"
  | invalid field raw =>
    "invalid keybinding: " ++ field ++ " = " ++ debug raw ++ "; disabling binding"
  | rangeNotIndexed field raw =>
    "range keybinding is only valid for indexed actions: " ++ field ++ " = " ++ debug raw ++
      "; disabling binding"
  | notAnIndex field label =>
    "indexed keybinding must use 1..9: " ++ field ++ " = " ++ debug label ++ "; disabling binding"
  | invalidIndexed field configuredLabel =>
    "invalid indexed keybinding: " ++ field ++ " = " ++ debug configuredLabel ++
      "; disabling binding"
  | reserved field label =>
    "reserved keybinding: " ++ field ++ " = " ++ debug label ++
      " uses keys.prefix as the prefix-mode key; pressing the prefix twice sends a literal " ++
      "prefix key, so this binding is disabled"
  | conflict label firstField field =>
    String.ofList label ++ ": kept " ++ firstField ++ ", disabled " ++ field
  | unsafeDirect field label suggestion =>
    "unsafe direct keybinding: " ++ field ++ " = " ++ debug label ++
      " would intercept typing; use " ++ debug suggestion ++
      " to require the prefix; disabling binding"
  | navigatePrefix field label =>
    "navigate keybinding must not include prefix: " ++ field ++ " = " ++ debug label ++
      "; disabling binding"
  | navigateEsc field label =>
    "navigate keybinding cannot use esc: " ++ field ++ " = " ++ debug label ++
      "; disabling binding"
  | emptyCommand commandField =>
    "empty custom command: " ++ commandField ++ "; disabling custom command"
  | popupSize index =>
    "popup size on non-popup custom command: keys.command[" ++ toString index ++
      "]; ignoring width and height"

end KeybindDiagnostic

/-- The verdict on a claimed combination, with the diagnostic that is reported. -/
def rejectConflict (r : BindingRegistry) (field : String) (binding : ResolvedBinding)
    (source : BindingSource) : Option (List KeybindDiagnostic) :=
  (r.conflict binding).map fun first =>
    if source = .default ∧ first.source = .user then []
    else [.conflict binding.label first.field field]

/-- `some` with what is reported where the binding is rejected. -/
def rejectBinding (field : String) (binding : ResolvedBinding) (r : BindingRegistry)
    (source : BindingSource) : Option (List KeybindDiagnostic) :=
  if binding.trigger.isPrefixed && r.prefixRhsIsReserved binding.trigger.combo then
    if source = .default ∧ r.prefixSource = .user then some []
    else some [.reserved field binding.label]
  else
    match rejectConflict r field binding source with
    | some diagnostics => some diagnostics
    | none =>
      if binding.trigger.isDirect && isUnmodifiedPrintable binding.trigger.combo then
        some [.unsafeDirect field binding.label (triggerPrefix ++ binding.label)]
      else none

def rejectNavigateBinding (field : String) (binding : ResolvedBinding) (r : BindingRegistry)
    (source : BindingSource) : Option (List KeybindDiagnostic) :=
  if binding.trigger.isPrefixed then some [.navigatePrefix field binding.label]
  else if (normalizeKeyCombo binding.trigger.combo).1 = .esc then
    some [.navigateEsc field binding.label]
  else rejectConflict r field binding source

/-! ### Bindings of a field -/

inductive BindingConfig where
  | one (value : List Char)
  | many (values : List (List Char))
deriving DecidableEq, Repr

namespace BindingConfig

def empty : BindingConfig := .one []

def values : BindingConfig → List (List Char)
  | one value => [value]
  | many values => values

end BindingConfig

/-- What the parsing of a field works on: its registry, the diagnostics and the bindings kept. -/
structure FieldState where
  registry : BindingRegistry
  diagnostics : List KeybindDiagnostic
  bindings : List ResolvedBinding

namespace FieldState

def report (s : FieldState) (diagnostics : List KeybindDiagnostic) : FieldState :=
  { s with diagnostics := s.diagnostics ++ diagnostics }

/-- A binding that is not rejected is registered and kept. -/
def claim (s : FieldState) (field : String) (binding : ResolvedBinding) (source : BindingSource)
    (rejected : Option (List KeybindDiagnostic)) : FieldState :=
  match rejected with
  | some diagnostics => s.report diagnostics
  | none =>
    { s with
      registry := s.registry.register binding field source
      bindings := s.bindings ++ [binding] }

end FieldState

section
variable (macos : Bool)

/-- `parse_action_bindings` and `parse_navigate_bindings`, which differ in what they reject. -/
def parseFieldBindings
    (reject : String → ResolvedBinding → BindingRegistry → BindingSource →
      Option (List KeybindDiagnostic))
    (field : String) (config : BindingConfig) (source : BindingSource) (s : FieldState) :
    FieldState :=
  config.values.foldl (fun s raw =>
    let raw := trim raw
    if raw.isEmpty then s
    else
      match parseBindingString macos raw with
      | some (.single binding) =>
        s.claim field binding source (reject field binding s.registry source)
      | some (.range _) => s.report [.rangeNotIndexed field raw]
      | none => s.report [.invalid field raw]) s

def parseActionBindings := parseFieldBindings macos rejectBinding

def parseNavigateBindings := parseFieldBindings macos rejectNavigateBinding

def pushIndexedBinding (field : String) (source : BindingSource) (s : FieldState)
    (binding : ResolvedBinding) : FieldState :=
  match binding.trigger.combo.1 with
  | .char c =>
    if '1' ≤ c ∧ c ≤ '9' then
      s.claim field binding source (rejectBinding field binding s.registry source)
    else s.report [.notAnIndex field binding.label]
  | _ => s.report [.notAnIndex field binding.label]

def parseIndexedBindings (field : String) (config : BindingConfig) (source : BindingSource)
    (s : FieldState) : FieldState :=
  config.values.foldl (fun s raw =>
    let raw := trim raw
    if raw.isEmpty then s
    else
      match parseBindingString macos raw with
      | some (.single binding) => pushIndexedBinding field source s binding
      | some (.range range) => range.foldl (pushIndexedBinding field source) s
      | none => s.report [.invalid field raw]) s

end

/-- The binding of a digit under an entry of `keys.indexed`. -/
def legacyIndexedBinding (configuredLabel : List Char) (modifiers : KeyModifiers) (digit : Char) :
    ResolvedBinding where
  trigger := .direct (.char digit, modifiers)
  label := trim configuredLabel ++ ['+', digit]

def appendLegacyIndexedBindings (field : String) (configuredLabel : List Char)
    (source : BindingSource) (s : FieldState) : FieldState :=
  if (trim configuredLabel).isEmpty then s
  else
    match parseModifierCombo configuredLabel with
    | none => s.report [.invalidIndexed field configuredLabel]
    | some modifiers =>
      digitKeys.foldl (fun s digit =>
        let binding := legacyIndexedBinding configuredLabel modifiers digit
        s.claim field binding source (rejectBinding field binding s.registry source)) s

/-! ### The fields of a configuration -/

inductive NavigateField where
  | workspaceUp | workspaceDown | paneLeft | paneDown | paneUp | paneRight
deriving DecidableEq, Repr

inductive ActionField where
  | help | settings | newWorkspace | newWorktree | openWorktree | removeWorktree | renameWorkspace
  | closeWorkspace | workspacePicker | goto | detach | reloadConfig | openNotificationTarget
  | previousWorkspace | nextWorkspace | previousAgent | nextAgent | newTab | renameTab
  | previousTab | nextTab | closeTab | renamePane | editScrollback | copyMode | focusPaneLeft
  | focusPaneDown | focusPaneUp | focusPaneRight | swapPaneLeft | swapPaneDown | swapPaneUp
  | swapPaneRight | lastPane | cyclePaneNext | cyclePanePrevious | splitVertical | splitHorizontal
  | closePane | zoom | resizeMode | toggleSidebar
deriving DecidableEq, Repr

inductive IndexedField where
  | focusAgent | switchTab | switchWorkspace
deriving DecidableEq, Repr

inductive KeyField where
  | navigate (field : NavigateField)
  | action (field : ActionField)
  | indexed (field : IndexedField)
deriving DecidableEq, Repr

/-- The fields in the order of a pass. -/
def KeyField.passOrder : List KeyField :=
  [.navigate .workspaceUp, .navigate .workspaceDown, .navigate .paneLeft, .navigate .paneDown,
   .navigate .paneUp, .navigate .paneRight, .action .help, .action .settings,
   .action .newWorkspace, .action .newWorktree, .action .openWorktree, .action .removeWorktree,
   .action .renameWorkspace, .action .closeWorkspace, .action .workspacePicker, .action .goto,
   .action .detach, .action .reloadConfig, .action .openNotificationTarget,
   .action .previousWorkspace, .action .nextWorkspace, .action .previousAgent, .action .nextAgent,
   .indexed .focusAgent, .action .newTab, .action .renameTab, .action .previousTab,
   .action .nextTab, .indexed .switchTab, .indexed .switchWorkspace, .action .closeTab,
   .action .renamePane, .action .editScrollback, .action .copyMode, .action .focusPaneLeft,
   .action .focusPaneDown, .action .focusPaneUp, .action .focusPaneRight, .action .swapPaneLeft,
   .action .swapPaneDown, .action .swapPaneUp, .action .swapPaneRight, .action .lastPane,
   .action .cyclePaneNext, .action .cyclePanePrevious, .action .splitVertical,
   .action .splitHorizontal, .action .closePane, .action .zoom, .action .resizeMode,
   .action .toggleSidebar]

namespace KeyField

/-- The name of a field in the configuration. -/
def name : KeyField → String
  | navigate .workspaceUp => "navigate_workspace_up"
  | navigate .workspaceDown => "navigate_workspace_down"
  | navigate .paneLeft => "navigate_pane_left"
  | navigate .paneDown => "navigate_pane_down"
  | navigate .paneUp => "navigate_pane_up"
  | navigate .paneRight => "navigate_pane_right"
  | action .help => "help"
  | action .settings => "settings"
  | action .newWorkspace => "new_workspace"
  | action .newWorktree => "new_worktree"
  | action .openWorktree => "open_worktree"
  | action .removeWorktree => "remove_worktree"
  | action .renameWorkspace => "rename_workspace"
  | action .closeWorkspace => "close_workspace"
  | action .workspacePicker => "workspace_picker"
  | action .goto => "goto"
  | action .detach => "detach"
  | action .reloadConfig => "reload_config"
  | action .openNotificationTarget => "open_notification_target"
  | action .previousWorkspace => "previous_workspace"
  | action .nextWorkspace => "next_workspace"
  | action .previousAgent => "previous_agent"
  | action .nextAgent => "next_agent"
  | action .newTab => "new_tab"
  | action .renameTab => "rename_tab"
  | action .previousTab => "previous_tab"
  | action .nextTab => "next_tab"
  | action .closeTab => "close_tab"
  | action .renamePane => "rename_pane"
  | action .editScrollback => "edit_scrollback"
  | action .copyMode => "copy_mode"
  | action .focusPaneLeft => "focus_pane_left"
  | action .focusPaneDown => "focus_pane_down"
  | action .focusPaneUp => "focus_pane_up"
  | action .focusPaneRight => "focus_pane_right"
  | action .swapPaneLeft => "swap_pane_left"
  | action .swapPaneDown => "swap_pane_down"
  | action .swapPaneUp => "swap_pane_up"
  | action .swapPaneRight => "swap_pane_right"
  | action .lastPane => "last_pane"
  | action .cyclePaneNext => "cycle_pane_next"
  | action .cyclePanePrevious => "cycle_pane_previous"
  | action .splitVertical => "split_vertical"
  | action .splitHorizontal => "split_horizontal"
  | action .closePane => "close_pane"
  | action .zoom => "zoom"
  | action .resizeMode => "resize_mode"
  | action .toggleSidebar => "toggle_sidebar"
  | indexed .focusAgent => "focus_agent"
  | indexed .switchTab => "switch_tab"
  | indexed .switchWorkspace => "switch_workspace"

end KeyField

structure IndexedKeysConfig where
  tabs : List Char := []
  workspaces : List Char := []
  agents : List Char := []

inductive CommandKeybindType where
  | shell | pane | popup | pluginAction
deriving DecidableEq, Repr

inductive PopupSize where
  | cells (n : Nat)
  | percent (n : Nat)
deriving DecidableEq, Repr

structure CommandKeybindConfig where
  key : BindingConfig
  command : List Char
  actionType : CommandKeybindType
  description : Option String
  width : Option PopupSize
  height : Option PopupSize

structure KeysConfig where
  prefixKey : List Char
  bindings : KeyField → BindingConfig
  indexed : IndexedKeysConfig
  command : List CommandKeybindConfig
  userFields : List String

def KeysConfig.fieldSource (config : KeysConfig) (field : String) : BindingSource :=
  if field ∈ config.userFields then .user else .default

/-- The entry of `keys.indexed` that stands for an indexed field, and its name. -/
def IndexedKeysConfig.legacy (config : IndexedKeysConfig) : IndexedField → List Char
  | .switchTab => config.tabs
  | .switchWorkspace => config.workspaces
  | .focusAgent => config.agents

def IndexedField.legacyField : IndexedField → String
  | .switchTab => "keys.indexed.tabs"
  | .switchWorkspace => "keys.indexed.workspaces"
  | .focusAgent => "keys.indexed.agents"

/-! ### The passes -/

structure CustomCommandKeybind where
  bindings : List ResolvedBinding
  label : List Char
  command : List Char
  action : CommandKeybindType
  description : Option String
  width : Option PopupSize
  height : Option PopupSize

/-- `Keybinds`, with one list of bindings for each field. -/
structure Keybinds where
  fields : KeyField → List ResolvedBinding
  customCommands : List CustomCommandKeybind

def Keybinds.empty : Keybinds where
  fields _ := []
  customCommands := []

structure PassState where
  registry : BindingRegistry
  navigateRegistry : BindingRegistry
  diagnostics : List KeybindDiagnostic
  keybinds : Keybinds

namespace PassState

/-- The bindings of a field are parsed with the registry of its kind and assigned. -/
def assign (s : PassState) (field : KeyField) (parsed : FieldState) : PassState :=
  { s with
    diagnostics := parsed.diagnostics
    keybinds :=
      { s.keybinds with fields := Function.update s.keybinds.fields field parsed.bindings } }

def applyField (macos : Bool) (config : KeysConfig) (source : BindingSource) (s : PassState)
    (field : KeyField) : PassState :=
  if config.fieldSource field.name ≠ source then s
  else
    let path := "keys." ++ field.name
    match field with
    | .navigate _ =>
      let parsed := parseNavigateBindings macos path (config.bindings field) source
        ⟨s.navigateRegistry, s.diagnostics, []⟩
      { s.assign field parsed with navigateRegistry := parsed.registry }
    | .action _ =>
      let parsed := parseActionBindings macos path (config.bindings field) source
        ⟨s.registry, s.diagnostics, []⟩
      { s.assign field parsed with registry := parsed.registry }
    | .indexed indexed =>
      -- a legacy entry displaces the default
      if source = .default ∧ ¬(trim (config.indexed.legacy indexed)).isEmpty then s
      else
        let parsed := parseIndexedBindings macos path (config.bindings field) source
          ⟨s.registry, s.diagnostics, []⟩
        { s.assign field parsed with registry := parsed.registry }

def appendLegacy (config : KeysConfig) (source : BindingSource) (s : PassState)
    (indexed : IndexedField) : PassState :=
  let parsed := appendLegacyIndexedBindings indexed.legacyField (config.indexed.legacy indexed)
    source ⟨s.registry, s.diagnostics, s.keybinds.fields (.indexed indexed)⟩
  { s.assign (.indexed indexed) parsed with registry := parsed.registry }

def appendCustomCommand (macos : Bool) (s : PassState) (entry : CommandKeybindConfig × Nat) :
    PassState :=
  let (command, index) := entry
  let field := "keys.command[" ++ toString index ++ "]"
  if (trim command.command).isEmpty then
    { s with diagnostics := s.diagnostics ++ [.emptyCommand (field ++ ".command")] }
  else
    let parsed := parseActionBindings macos (field ++ ".key") command.key .user
      ⟨s.registry, s.diagnostics, []⟩
    let s := { s with
      registry := parsed.registry
      diagnostics := parsed.diagnostics }
    if parsed.bindings.isEmpty then s
    else
      let popup := decide (command.actionType = .popup)
      let misplaced := !popup && (command.width.isSome || command.height.isSome)
      let label := [' ', '/', ' '].intercalate (parsed.bindings.map ResolvedBinding.label)
      { s with
        diagnostics := s.diagnostics ++ (if misplaced then [.popupSize index] else [])
        keybinds :=
          { s.keybinds with
            customCommands := s.keybinds.customCommands ++ [{
              bindings := parsed.bindings
              label := label
              command := command.command
              action := command.actionType
              description := command.description
              width := if popup then command.width else none
              height := if popup then command.height else none }] } }

def pass (macos : Bool) (config : KeysConfig) (s : PassState) (source : BindingSource) :
    PassState :=
  let s := KeyField.passOrder.foldl (applyField macos config source) s
  let s := if source = config.fieldSource "indexed" then
      [IndexedField.switchTab, .switchWorkspace, .focusAgent].foldl (appendLegacy config source) s
    else s
  if source = .user then config.command.zipIdx.foldl (appendCustomCommand macos) s else s

end PassState

def reserveNavigateRuntimeKeys (r : BindingRegistry) : BindingRegistry :=
  ([(KeyCode.esc, KeyModifiers.empty), (.enter, .empty), (.tab, .empty), (.backTab, .empty),
    (.tab, .SHIFT), (.left, .empty), (.right, .empty)] ++
    digitKeys.map fun digit => (KeyCode.char digit, KeyModifiers.empty)).foldl
      (fun r combo => r.reserveDirect combo "navigate reserved keys" .default) r

/-- The prefix, the keybinds and the diagnostics of a configuration. -/
def validatedKeybinds (macos : Bool) (config : KeysConfig) :
    Option KeybindDiagnostic × KeyCombo × List KeybindDiagnostic × Keybinds :=
  let (prefixCombo, prefixDiag) := match parseKeyCombo config.prefixKey with
    | some binding => (binding, none)
    | none => ((.char 'b', .CONTROL),
        some (KeybindDiagnostic.invalidPrefix "keys.prefix" config.prefixKey))
  let prefixSource := config.fieldSource "prefix"
  let registry := (BindingRegistry.new prefixCombo prefixSource).reserveDirect prefixCombo
    "keys.prefix" prefixSource
  let result := [BindingSource.user, .default].foldl (PassState.pass macos config)
    ⟨registry, reserveNavigateRuntimeKeys registry, [], .empty⟩
  (prefixDiag, prefixCombo, result.diagnostics, result.keybinds)

end Ork3.Input
