import Ork3.Library.Lines
import Ork3.Model.AgentIdentity

/-!
# The regions of a screen

The regions of `detect/manifest.rs` on which the rules of a manifest are evaluated. The arms that
`region` and `validate_region_name` share are `regionName`. `Panic` is a slice inside a character.
-/

namespace Ork3.Detect

open Ork3.Library
open Ork3.Terminal (isWhitespace trim)

structure DetectionInput where
  screen : List Char
  oscTitle : List Char
  oscProgress : List Char

inductive RegionName
  | oscTitle
  | oscProgress
  | wholeRecent
  | afterLastPromptMarker
  | beforeCurrentPromptMarker
  | wholeRecentWithoutCurrentPromptMarker
  | currentPromptBlockMarker
  | afterCurrentPromptBlockMarker
  | promptBoxBody
  | abovePromptBox
  | lastNonEmptyAbovePromptBox
  | afterLastHorizontalRule
  | bottomLines (count : Nat)
  | bottomNonEmptyLines (count : Nat)
deriving DecidableEq, Repr

/-- The largest `usize`. -/
def usizeMax : Nat := 2 ^ 64 - 1

def regionCount (spec name : List Char) : Option Nat := do
  let rest ← stripPrefix name spec
  let rest ← stripPrefix ['('] rest
  let count ← stripSuffix [')'] rest
  parseUnsigned usizeMax count

def regionName (trimmed : List Char) : Option RegionName :=
  if trimmed = "osc_title".toList then some .oscTitle
  else if trimmed = "osc_progress".toList then some .oscProgress
  else if trimmed = "whole_recent".toList then some .wholeRecent
  else if trimmed = "after_last_prompt_marker".toList then some .afterLastPromptMarker
  else if trimmed = "before_current_prompt_marker".toList then some .beforeCurrentPromptMarker
  else if trimmed = "whole_recent_without_current_prompt_marker".toList then
    some .wholeRecentWithoutCurrentPromptMarker
  else if trimmed = "current_prompt_block_marker".toList then some .currentPromptBlockMarker
  else if trimmed = "after_current_prompt_block_marker".toList then
    some .afterCurrentPromptBlockMarker
  else if trimmed = "prompt_box_body".toList then some .promptBoxBody
  else if trimmed = "above_prompt_box".toList then some .abovePromptBox
  else if trimmed = "last_non_empty_above_prompt_box".toList then some .lastNonEmptyAbovePromptBox
  else if trimmed = "after_last_horizontal_rule".toList then some .afterLastHorizontalRule
  else
    ((regionCount trimmed "bottom_lines".toList).map .bottomLines).or
      ((regionCount trimmed "bottom_non_empty_lines".toList).map .bottomNonEmptyLines)

def validateRegionName (spec : List Char) : Except (List Char) Unit :=
  match regionName (trim spec) with
  | some _ => .ok ()
  | none => .error (trim spec)

/-! ### Lines of the screen -/

/-- `Iterator::rposition`. -/
def rposition {α : Type} (p : α → Bool) (xs : List α) : Option Nat :=
  (xs.reverse.findIdx? p).map fun i => xs.length - 1 - i

def codexPromptLine (line : List Char) : Bool :=
  line = "›".toList || "› ".toList.isPrefixOf line

def codexBlockMarkerLine (line : List Char) : Bool :=
  ['•'].isPrefixOf line || ['■'].isPrefixOf line || ['✗'].isPrefixOf line || ['✓'].isPrefixOf line

def currentCodexPromptIndex (lines : List (List Char)) : Option Nat := do
  let promptIndex ← rposition codexPromptLine lines
  if (lines.drop (promptIndex + 1)).any codexBlockMarkerLine then none else some promptIndex

def isHorizontalRule (line : List Char) : Bool :=
  let trimmed := trim line
  if trimmed.isEmpty then false
  else
    let ruleChars := (trimmed.takeWhile (· = '─')).length
    if ruleChars = 0 then false
    else
      let suffix := (trimmed.drop ruleChars).dropWhile isWhitespace
      suffix.isEmpty || ruleChars ≥ 3

/-- The loop of `prompt_box_top_border_index` over the lines that are left, the last one first. -/
def topBorderLoop : List (List Char × Nat) → (borderCount : Nat) → Option Nat
  | [], _ => none
  | (line, index) :: rest, borderCount =>
    if isHorizontalRule line then
      if borderCount + 1 = 2 then some index else topBorderLoop rest (borderCount + 1)
    else topBorderLoop rest borderCount

def promptBoxTopBorderIndex (lines : List (List Char)) : Option Nat :=
  topBorderLoop lines.zipIdx.reverse 0

/-! ### Slices -/

def lineStartOffset (content : List Char) (lines : List (List Char)) (index : Nat) : Nat :=
  min ((lines.take (min index lines.length)).map fun line => byteLen line + 1).sum (byteLen content)

def sliceFromLineIndex (content : List Char) (lines : List (List Char)) (index : Nat) :
    Except Panic (List Char) :=
  let byteOffset := lineStartOffset content lines index
  sliceBytes content (min byteOffset (byteLen content)) (byteLen content)

def bottomLines (content : List Char) (count : Nat) : Except Panic (List Char) :=
  let lines := lines content
  sliceFromLineIndex content lines (lines.length - count)

/-- The first of the last `count` lines that are not blank. -/
def bottomNonEmptyStart (lines : List (List Char)) (count : Nat) : Option Nat :=
  (((lines.zipIdx.reverse.filter fun e => !(trim e.1).isEmpty).take count).getLast?).map (·.2)

def bottomNonEmptyLines (content : List Char) (count : Nat) : Except Panic (List Char) :=
  let lines := lines content
  match bottomNonEmptyStart lines count with
  | none => .ok []
  | some startIndex => sliceFromLineIndex content lines startIndex

def afterLastPromptMarker (content : List Char) : Except Panic (List Char) :=
  let lines := lines content
  match rposition codexPromptLine lines with
  | none => .ok content
  | some index => sliceFromLineIndex content lines (index + 1)

def beforeCurrentPromptMarker (content : List Char) : Except Panic (List Char) :=
  let lines := lines content
  match currentCodexPromptIndex lines with
  | none => .ok content
  | some index =>
    let byteOffset := ((lines.take index).map fun line => byteLen line + 1).sum
    sliceBytes content 0 (min byteOffset (byteLen content))

def wholeRecentWithoutCurrentPromptMarker (content : List Char) : List Char :=
  if (currentCodexPromptIndex (lines content)).isSome then [] else content

def currentPromptBlockMarker (content : List Char) : Option (List Char) := do
  let lines := lines content
  let promptIndex ← currentCodexPromptIndex lines
  (lines.take promptIndex).reverse.find? codexBlockMarkerLine

def afterCurrentPromptBlockMarker (content : List Char) : Except Panic (List Char) :=
  let lines := lines content
  match currentCodexPromptIndex lines with
  | none => .ok []
  | some promptIndex =>
    match rposition codexBlockMarkerLine (lines.take promptIndex) with
    | none => .ok []
    | some blockIndex => sliceFromLineIndex content lines blockIndex

/-- The rule below the top border, or the end of the screen. -/
def promptBoxEnd (lines : List (List Char)) (top : Nat) : Nat :=
  match (lines.drop (top + 1)).findIdx? isHorizontalRule with
  | some relative => top + 1 + relative
  | none => lines.length

def promptBoxBody (content : List Char) : Except Panic (List Char) :=
  let lines := lines content
  match promptBoxTopBorderIndex lines with
  | none => .ok []
  | some top =>
    let start := lineStartOffset content lines (top + 1)
    let stop := lineStartOffset content lines (promptBoxEnd lines top)
    sliceBytes content (min start (byteLen content)) (min stop (byteLen content))

def abovePromptBox (content : List Char) : Except Panic (List Char) :=
  let lines := lines content
  match promptBoxTopBorderIndex lines with
  | none => .ok content
  | some top =>
    let stop := lineStartOffset content lines top
    sliceBytes content 0 (min stop (byteLen content))

/-- The loop's variables are the end of the last rule and the offset. -/
def lastRuleEnd (content : List Char) : Nat :=
  ((lines content).foldl (fun (s : Nat × Nat) line =>
    let nextOffset := s.2 + byteLen line + 1
    (if isHorizontalRule line then min nextOffset (byteLen content) else s.1, nextOffset)) (0, 0)).1

def afterLastHorizontalRule (content : List Char) : Except Panic (List Char) :=
  sliceBytes content (lastRuleEnd content) (byteLen content)

def lastNonEmptyLine (content : List Char) : List Char :=
  ((lines content).reverse.find? fun line => !(trim line).isEmpty).getD []

def region (input : DetectionInput) (spec : List Char) : Except Panic (List Char) :=
  let content := input.screen
  match regionName (trim spec) with
  | some .oscTitle => .ok input.oscTitle
  | some .oscProgress => .ok input.oscProgress
  | some .wholeRecent => .ok content
  | some .afterLastPromptMarker => afterLastPromptMarker content
  | some .beforeCurrentPromptMarker => beforeCurrentPromptMarker content
  | some .wholeRecentWithoutCurrentPromptMarker =>
    .ok (wholeRecentWithoutCurrentPromptMarker content)
  | some .currentPromptBlockMarker => .ok ((currentPromptBlockMarker content).getD [])
  | some .afterCurrentPromptBlockMarker => afterCurrentPromptBlockMarker content
  | some .promptBoxBody => promptBoxBody content
  | some .abovePromptBox => abovePromptBox content
  | some .lastNonEmptyAbovePromptBox => (abovePromptBox content).map lastNonEmptyLine
  | some .afterLastHorizontalRule => afterLastHorizontalRule content
  | some (.bottomLines count) => bottomLines content count
  | some (.bottomNonEmptyLines count) => bottomNonEmptyLines content count
  | none => .ok []

end Ork3.Detect
