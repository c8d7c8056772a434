import Ork3.Library.Occurrence
import Ork3.Library.Words
import Ork3.Model.AgentIdentity

/-!
# Titles from user messages

`projects/adapters.rs`, `safe_title` and `strip_injected_preamble`. Harnesses put instruction
blocks before the first message of a user; they are stripped before the message becomes a title.
-/

namespace Ork3.Projects

open Ork3.Library

def injectedPreambleMarkers : List (List Char) :=
  ["<user_instructions>".toList, "<environment_context>".toList,
    "AGENTS.md instructions".toList, "[Assistant Rules - You MUST follow".toList,
    "# Repository Guidelines".toList, "<INSTRUCTIONS>".toList,
    "Codebase and user instructions are shown below".toList]

def titleMaxChars : Nat := 96

/-- `is_ascii_alphanumeric()` or an underscore. -/
def isTagChar (c : Char) : Bool := c.isAlphanum || c = '_'

/-- The name of the tag a text begins with. -/
def leadingTag : List Char → Option (List Char)
  | '<' :: rest =>
    let tag := rest.takeWhile (· ≠ '>')
    if '>' ∈ rest ∧ tag.all isTagChar = true then some tag else none
  | _ => none

attribute [grind =] leadingTag

def closingTag (tag : List Char) : List Char := '<' :: '/' :: (tag ++ ['>'])

def instructionsEnd : List Char := "</INSTRUCTIONS>".toList

/-- A marker may sit behind a heading. -/
def beginsWithMarker (text : List Char) : Bool :=
  let unprefixed := text.dropWhile fun c => c = '#' || c = ' '
  injectedPreambleMarkers.any fun marker => marker.isPrefixOf unprefixed

lemma length_dropWhile_le {p : Char → Bool} (s : List Char) :
    (s.dropWhile p).length ≤ s.length :=
  (List.dropWhile_suffix p).length_le

lemma length_trim_le (s : List Char) : (Terminal.trim s).length ≤ s.length := by
  unfold Terminal.trim
  rw [List.length_reverse]
  apply (length_dropWhile_le _).trans
  rw [List.length_reverse]
  exact length_dropWhile_le s

/-- The loop over the leading tags; `none` when a block is not closed. -/
def stripTags (rest : List Char) : Option (List Char) :=
  let trimmed := rest.dropWhile Terminal.isWhitespace
  match leadingTag trimmed with
  | none => some rest
  | some tag =>
    match _hbehind : afterFirst (closingTag tag) trimmed with
    | none => none
    | some behind => stripTags behind
termination_by rest.length
decreasing_by
  exact (afterFirst_length_lt (List.cons_ne_nil _ _) _hbehind).trans_le (length_dropWhile_le rest)

attribute [grind =] stripTags

lemma stripTags_length_le {s rest : List Char} (h : stripTags s = some rest) :
    rest.length ≤ s.length := by
  fun_induction stripTags s with
  | case1 s trimmed htag =>
    rw [Option.some.inj h]
  | case2 s trimmed tag htag hnone => cases h
  | case3 s trimmed tag htag behind hbehind ih =>
    have hlt := afterFirst_length_lt (List.cons_ne_nil _ _) hbehind
    exact (ih h).trans (hlt.le.trans (length_dropWhile_le s))

def stripInjectedPreamble (value : List Char) : List Char :=
  match _htags : stripTags (Terminal.trim value) with
  | none => []
  | some rest =>
    if beginsWithMarker (Terminal.trim rest) then
      match _hbehind : afterFirst instructionsEnd (Terminal.trim rest) with
      | none => []
      | some behind => stripInjectedPreamble behind
    else Terminal.trim rest
termination_by value.length
decreasing_by
  have hbehind := afterFirst_length_lt (by decide) _hbehind
  have hrest := length_trim_le rest
  have htags := stripTags_length_le _htags
  have hvalue := length_trim_le value
  omega

def safeTitle (value : List Char) : Option (List Char) :=
  let cleaned := stripInjectedPreamble value
  let normalized := (spaced Terminal.isWhitespace ' ' cleaned).take titleMaxChars
  if normalized = [] then none else some normalized

attribute [grind =] safeTitle

end Ork3.Projects
