import Ork3.Library.Decimal
import Ork3.Library.Utf8
import Ork3.Model.KeyEncoding

/-!
# Kitty key sequences

The parser reads the sequence of a character key back, field by field.
-/

namespace Ork3.Input

open Ork3.Library

/-! ### The fields of a sequence -/

section
variable {n : Nat} {sub : Option Nat}

lemma notMem_subField {c : Char} (hdigit : c.isDigit = false) (hcolon : c ≠ ':') :
    c ∉ subField sub := by
  cases sub with
  | none => exact List.not_mem_nil
  | some n =>
    intro hmem
    rcases List.mem_cons.mp hmem with rfl | hmem
    · exact hcolon rfl
    · exact notMem_decimal hdigit hmem

lemma isEmpty_decimal : (Nat.toDigits 10 n).isEmpty = false := by
  simp [Nat.toDigits_ne_nil]

lemma splitModifierAndEvent_subField (n : Nat) (sub : Option Nat) :
    splitModifierAndEvent (Nat.toDigits 10 n ++ subField sub) =
      (Nat.toDigits 10 n, sub.map (Nat.toDigits 10)) := by
  have hcolon : ':' ∉ Nat.toDigits 10 n := notMem_decimal (by decide)
  unfold splitModifierAndEvent
  cases sub with
  | none =>
    have hfield : Nat.toDigits 10 n ++ subField none = Nat.toDigits 10 n := List.append_nil _
    rw [hfield, splitOnce_of_notMem hcolon]
    rfl
  | some m =>
    have hfield : subField (some m) = ':' :: Nat.toDigits 10 m := rfl
    rw [hfield, splitOnce_append hcolon]
    dsimp only
    rw [isEmpty_decimal]
    rfl

lemma splitOn_subField (n : Nat) (sub : Option Nat) :
    (Nat.toDigits 10 n ++ subField sub).splitOn ':' =
      Nat.toDigits 10 n :: (sub.map (Nat.toDigits 10)).toList := by
  have hcolon (m : Nat) : ':' ∉ Nat.toDigits 10 m := notMem_decimal (by decide)
  cases sub with
  | none =>
    have hfield : Nat.toDigits 10 n ++ subField none = Nat.toDigits 10 n := List.append_nil _
    rw [hfield, List.splitOn_eq_singleton (hcolon n)]
    rfl
  | some m =>
    have hfield : subField (some m) = ':' :: Nat.toDigits 10 m := rfl
    rw [hfield, List.splitOn_append_cons_self_of_not_mem (hcolon n),
      List.splitOn_eq_singleton (hcolon m)]
    rfl

end

/-! ### The parser on a sequence -/

section
variable {codepoint modifier : Nat} {shifted event : Option Nat} {code : KeyCode}
  {kind : KeyEventKind}

lemma parseModifier_decimal (hone : 1 ≤ modifier) (hmax : modifier ≤ 255) :
    parseModifier (Nat.toDigits 10 modifier) = some (modifier - 1) := by
  unfold parseModifier
  rw [parseUnsigned_decimal hmax]
  change (if modifier = 0 then none else some (modifier - 1)) = _
  rw [if_neg (by omega)]

lemma filter_bind_parseUnsigned (hshifted : ∀ n ∈ shifted, n ≤ 4294967295) :
    (((shifted.map (Nat.toDigits 10)).filter (!·.isEmpty)).bind (parseUnsigned 4294967295)) =
      shifted := by
  cases shifted with
  | none => rfl
  | some n =>
    have hn := hshifted n rfl
    have hfield : (some (Nat.toDigits 10 n)).filter (fun field => !field.isEmpty) =
        some (Nat.toDigits 10 n) := by simp [isEmpty_decimal]
    rw [Option.map_some, hfield, Option.bind_some, parseUnsigned_decimal hn]

/-- The parser reads the fields of a Kitty sequence. -/
lemma parseKittyKeySequence_csiUSequence (hcodepoint : codepoint ≤ 4294967295)
    (hshifted : ∀ n ∈ shifted, n ≤ 4294967295) (hone : 1 ≤ modifier) (hmax : modifier ≤ 255)
    (hcode : kittyCodepointToKeycode codepoint = some code)
    (hkind : parseKittyEventType (event.map (Nat.toDigits 10)) = some kind) :
    parseKittyKeySequence (csiUSequence codepoint shifted modifier event) =
      some ⟨code, keyModifiersFromU8 (modifier - 1), kind, shifted⟩ := by
  have hkey : ';' ∉ Nat.toDigits 10 codepoint ++ subField shifted := by
    rw [List.mem_append, not_or]
    exact ⟨notMem_decimal (by decide), notMem_subField (by decide) (by decide)⟩
  have hmodifier : ';' ∉ Nat.toDigits 10 modifier ++ subField event := by
    rw [List.mem_append, not_or]
    exact ⟨notMem_decimal (by decide), notMem_subField (by decide) (by decide)⟩
  have hfields : ((Nat.toDigits 10 codepoint ++ subField shifted) ++
      ';' :: (Nat.toDigits 10 modifier ++ subField event)).splitOn ';' =
        [Nat.toDigits 10 codepoint ++ subField shifted,
          Nat.toDigits 10 modifier ++ subField event] := by
    rw [List.splitOn_append_cons_self_of_not_mem hkey, List.splitOn_eq_singleton hmodifier]
  have hoption : (Nat.toDigits 10 codepoint :: (shifted.map (Nat.toDigits 10)).toList)[1]? =
      shifted.map (Nat.toDigits 10) := by
    cases shifted <;> rfl
  unfold parseKittyKeySequence csiUSequence
  rw [List.append_assoc, stripPrefix_append]
  simp only [Option.bind_eq_bind, Option.bind_some]
  rw [stripSuffix_append]
  simp only [Option.bind_some, hfields]
  simp only [List.getElem?_cons_zero, List.getElem?_cons_succ, List.getElem?_nil, Option.bind_some,
    Option.getD_some, Option.isSome_none, Bool.false_eq_true, if_false,
    splitModifierAndEvent_subField, parseModifier_decimal hone hmax, splitOn_subField, hoption,
    filter_bind_parseUnsigned hshifted, parseUnsigned_decimal hcodepoint, hcode, hkind]
  rfl

end

/-! ### Character keys -/

section
variable {c : Char} {mods : KeyModifiers} {kind : KeyEventKind} {shifted : Option Nat}
  {flags : UInt16}

lemma keyModifiersFromU8_kittyModifier (mods : KeyModifiers) :
    keyModifiersFromU8 (kittyModifier mods - 1) = mods := by
  have hall : ∀ s a c u h m : Bool,
      keyModifiersFromU8 (kittyModifier ⟨s, a, c, u, h, m⟩ - 1) = ⟨s, a, c, u, h, m⟩ := by decide
  exact hall _ _ _ _ _ _

lemma kittyModifier_bounds (mods : KeyModifiers) :
    1 ≤ kittyModifier mods ∧ kittyModifier mods ≤ 255 := by
  unfold kittyModifier xtermModifier
  split_ifs <;> omega

lemma parseKittyEventType_kittyEventSuffix (key : TerminalKey) (flags : UInt16) :
    parseKittyEventType ((kittyEventSuffix key flags).map (Nat.toDigits 10)) =
      some (if flags &&& kittyFlagReportEventTypes = 0 then .press else key.kind) := by
  unfold kittyEventSuffix
  by_cases hflag : flags &&& kittyFlagReportEventTypes = 0
  · rw [if_pos hflag, if_pos hflag]
    rfl
  · rw [if_neg hflag, if_neg hflag]
    cases key.kind <;> decide

lemma charFromU32_toNat (c : Char) : charFromU32 c.toNat = some c := by
  have hvalid : c.toNat < 0xD800 ∨ 0xDFFF < c.toNat ∧ c.toNat < 0x110000 := c.valid
  unfold charFromU32
  rw [if_pos hvalid, Char.ofNat_toNat]

/-- A codepoint that is no control character and no functional key stands for its character. -/
lemma kittyCodepointToKeycode_of_char (hcontrol : isControl c = false)
    (hfunctional : isKittyFunctionalCodepoint c.toNat = false) :
    kittyCodepointToKeycode c.toNat = some (.char c) := by
  have htable : ∀ p ∈ kittyTable, p.1 ≤ 0x1f ∨ (0x7f ≤ p.1 ∧ p.1 ≤ 0x9f) ∨
      isKittyFunctionalCodepoint p.1 = true := by decide
  have hnotControl : ¬(c.toNat ≤ 0x1f ∨ 0x7f ≤ c.toNat ∧ c.toNat ≤ 0x9f) := by
    simpa [isControl] using hcontrol
  have hlookup : kittyTable.lookup c.toNat = none := by
    rw [List.lookup_eq_none_iff]
    intro p hp
    rw [bne_iff_ne]
    intro heq
    rcases htable p hp with h | h | h
    · exact hnotControl (Or.inl (heq ▸ h))
    · exact hnotControl (Or.inr (heq ▸ h))
    · rw [← heq, hfunctional] at h
      cases h
  have hrange : ¬(57376 ≤ c.toNat ∧ c.toNat ≤ 57398) := by
    intro h
    have htrue : isKittyFunctionalCodepoint c.toNat = true := by
      simp [isKittyFunctionalCodepoint]
      omega
    rw [hfunctional] at htrue
    cases htrue
  unfold kittyCodepointToKeycode
  simp only [hlookup, if_neg hrange, hfunctional, Bool.false_eq_true, if_false, charFromU32_toNat]
  rfl

lemma isUpper_bounds (h : c.isUpper = true) : 65 ≤ c.toNat ∧ c.toNat ≤ 90 := by
  simpa [Char.isUpper, UInt32.le_iff_toNat_le] using h

/-- The character of a Kitty sequence is the key's or a lower-case letter. -/
lemma canonicalKittyChar_cases (c : Char) (mods : KeyModifiers) :
    canonicalKittyChar c mods = c ∨
      97 ≤ (canonicalKittyChar c mods).toNat ∧ (canonicalKittyChar c mods).toNat ≤ 122 := by
  unfold canonicalKittyChar
  split
  · next h =>
    have hupper : c.isUpper = true := (Bool.and_eq_true_iff.mp h).2
    have hbounds := isUpper_bounds hupper
    have hlower : c.toLower.toNat = c.toNat + 32 := by
      rw [Char.toLower_eq_of_isUpper hupper, toNat_ofNat_of_lt (by omega)]
    rw [hlower]
    omega
  · exact Or.inl rfl

lemma kittyCodepointToKeycode_canonicalKittyChar (hcontrol : isControl c = false)
    (hfunctional : isKittyFunctionalCodepoint c.toNat = false) :
    kittyCodepointToKeycode (canonicalKittyChar c mods).toNat =
      some (.char (canonicalKittyChar c mods)) := by
  rcases canonicalKittyChar_cases c mods with heq | hlower
  · rw [heq]
    exact kittyCodepointToKeycode_of_char hcontrol hfunctional
  · apply kittyCodepointToKeycode_of_char
    · simp [isControl]
      omega
    · simp [isKittyFunctionalCodepoint]
      omega

lemma alternateShiftedCodepoint_char (c : Char) (mods : KeyModifiers) (kind : KeyEventKind)
    (shifted : Option Nat) (flags : UInt16) :
    alternateShiftedCodepoint ⟨.char c, mods, kind, shifted⟩ flags =
      if flags &&& kittyFlagReportAlternateKeys = 0 then none
      else shifted.or (if mods.shift && c.isUpper then some c.toNat else none) := by
  unfold alternateShiftedCodepoint
  cases shifted <;> rfl

/-- The key is sent as a Kitty sequence. -/
def TakesCsiU (key : TerminalKey) (flags : UInt16) : Prop :=
  (key.kind = .release → (KeyboardProtocol.kitty flags).reportsEventTypes = true) ∧
    encodeTextInput key = none ∧ (tryEncodeCsiU key flags).isSome

lemma encodeTerminalKey_of_takesCsiU {key : TerminalKey} (h : TakesCsiU key flags) :
    some (encodeTerminalKey key (.kitty flags)) = tryEncodeCsiU key flags := by
  obtain ⟨hkind, htext, hsome⟩ := h
  obtain ⟨bytes, hbytes⟩ := Option.isSome_iff_exists.mp hsome
  have hrelease : ¬(decide (key.kind = .release) &&
      !(KeyboardProtocol.kitty flags).reportsEventTypes) = true := by
    rw [Bool.and_eq_true, decide_eq_true_eq, Bool.not_eq_true']
    rintro ⟨hrelease, hreports⟩
    rw [hkind hrelease] at hreports
    cases hreports
  unfold encodeTerminalKey
  rw [if_neg hrelease, htext]
  simp only [hbytes]

lemma tryEncodeCsiU_char {bytes : List UInt8}
    (h : tryEncodeCsiU ⟨.char c, mods, kind, shifted⟩ flags = some bytes) :
    bytes = intoBytes (csiUSequence (canonicalKittyChar c mods).toNat
      (alternateShiftedCodepoint ⟨.char c, mods, kind, shifted⟩ flags) (kittyModifier mods)
      (kittyEventSuffix ⟨.char c, mods, kind, shifted⟩ flags)) := by
  unfold tryEncodeCsiU at h
  dsimp only at h
  split at h
  · cases h
  split at h
  · cases h
  split at h
  · cases h
  exact (Option.some.inj h).symm

/-- A character key that is sent as a Kitty sequence is read back: its modifiers, its character up
to the case of a shifted letter, and what the flags report of its kind and its shifted
codepoint. -/
theorem parseTerminalKeySequence_csiU (c : Char) (mods : KeyModifiers) (kind : KeyEventKind)
    (shifted : Option Nat) (flags : UInt16) (hshifted : ∀ n ∈ shifted, n ≤ 4294967295)
    (hcontrol : isControl c = false) (hfunctional : isKittyFunctionalCodepoint c.toNat = false)
    (htakes : TakesCsiU ⟨.char c, mods, kind, shifted⟩ flags) :
    ∃ text, fromUtf8 (encodeTerminalKey ⟨.char c, mods, kind, shifted⟩ (.kitty flags)) = .ok text ∧
      parseTerminalKeySequence text = some
        { code := .char (if mods.shift && c.isUpper then c.toLower else c)
          modifiers := mods
          kind := if flags &&& kittyFlagReportEventTypes = 0 then .press else kind
          shiftedCodepoint := if flags &&& kittyFlagReportAlternateKeys = 0 then none
            else shifted.or (if mods.shift && c.isUpper then some c.toNat else none) } := by
  obtain ⟨bytes, hbytes⟩ := Option.isSome_iff_exists.mp htakes.2.2
  have hencoded := encodeTerminalKey_of_takesCsiU htakes
  rw [hbytes] at hencoded
  rw [Option.some.inj hencoded, tryEncodeCsiU_char hbytes]
  refine ⟨_, fromUtf8_flatMap _, ?_⟩
  have hcodepoint : (canonicalKittyChar c mods).toNat ≤ 4294967295 := by
    have := (canonicalKittyChar c mods).val.toNat_lt
    exact Nat.le_of_lt_succ this
  have halternate : ∀ n ∈ alternateShiftedCodepoint ⟨.char c, mods, kind, shifted⟩ flags,
      n ≤ 4294967295 := by
    intro n hn
    rw [alternateShiftedCodepoint_char] at hn
    split at hn
    · cases hn
    rcases shifted with _ | m
    · rw [Option.none_or] at hn
      split at hn
      · rw [← Option.some.inj hn]
        exact Nat.le_of_lt_succ c.val.toNat_lt
      · cases hn
    · exact hshifted n hn
  obtain ⟨hone, hmax⟩ := kittyModifier_bounds mods
  have hparsed := parseKittyKeySequence_csiUSequence hcodepoint halternate hone hmax
    (kittyCodepointToKeycode_canonicalKittyChar hcontrol hfunctional)
    (parseKittyEventType_kittyEventSuffix ⟨.char c, mods, kind, shifted⟩ flags)
  unfold parseTerminalKeySequence
  rw [hparsed, keyModifiersFromU8_kittyModifier, alternateShiftedCodepoint_char]
  rfl

/-- Shift and Alt with a letter, released. -/
theorem parseTerminalKeySequence_csiU_released :
    ∃ text, fromUtf8 (encodeTerminalKey
        ⟨.char 'A', ⟨true, true, false, false, false, false⟩, .release, none⟩ (.kitty 7)) =
          .ok text ∧
      parseTerminalKeySequence text = some
        ⟨.char 'a', ⟨true, true, false, false, false, false⟩, .release, some 65⟩ :=
  parseTerminalKeySequence_csiU 'A' ⟨true, true, false, false, false, false⟩ .release none 7
    (by simp) (by decide) (by decide) (by unfold TakesCsiU; decide)

end

end Ork3.Input
