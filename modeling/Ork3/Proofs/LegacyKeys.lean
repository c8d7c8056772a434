import Ork3.Proofs.KeyEncoding

/-!
# Legacy key sequences

What the legacy encoder sends for a pressed key is read back as a key that is sent the same way.
It is not for Control with a character outside ASCII, whose codepoint is cut to a byte, and not for
Alt with a key that has no form of its own or has one that the parser knows without Alt only.
-/

namespace Ork3.Input

open Ork3.Library

/-- The parser reads the bytes as one key, which is encoded to the same bytes. -/
def ReadsBack (bytes : List UInt8) : Prop :=
  ∃ text key, fromUtf8 bytes = .ok text ∧ parseTerminalKeySequence text = some key ∧
    encodeTerminalKey key .legacy = bytes

/-- The special keys with a legacy sequence. -/
def legacySpecialKeys : List KeyCode :=
  [.enter, .backspace, .tab, .backTab, .esc, .left, .right, .up, .down, .home, .endKey, .pageUp,
    .pageDown, .delete, .insert, .f 1, .f 2, .f 3, .f 4, .f 5, .f 6, .f 7, .f 8, .f 9, .f 10,
    .f 11, .f 12]

def hasLegacyForm : KeyCode → Bool
  | .char _ => true
  | code => code ∈ legacySpecialKeys

/-- What the legacy encoder owes to a pressed key. -/
structure LegacyLaw (key : TerminalKey) : Prop where
  readsBack : encodeTerminalKey key .legacy = [] ∨ ReadsBack (encodeTerminalKey key .legacy)
  /-- No stray byte and no control byte of another key. -/
  control : key.modifiers.control = true → ∀ c, key.code = .char c → 128 ≤ c.toNat →
    ∀ b, encodeTerminalKey key .legacy ≠ [b] ∧ encodeTerminalKey key .legacy ≠ [0x1b, b]
  loneEsc : key.modifiers ≠ .empty → hasLegacyForm key.code = false →
    encodeTerminalKey key .legacy ≠ [0x1b]

section
variable {bytes : List UInt8} {text : List Char} {c : Char}

lemma readsBack_of_decoded (htext : fromUtf8 bytes = .ok text)
    (hkey : (parseTerminalKeySequence text).map (encodeTerminalKey · .legacy) = some bytes) :
    ReadsBack bytes := by
  obtain ⟨key, hparsed, hencoded⟩ := Option.map_eq_some_iff.mp hkey
  exact ⟨text, key, htext, hparsed, hencoded⟩

/-! ### One character -/

lemma lookupText_eq_none {β : Type} {table : List (String × β)} {data : List Char}
    (h : ∀ e ∈ table, e.1.toList.length ≠ data.length) : lookupText table data = none := by
  unfold lookupText
  rw [Option.map_eq_none_iff, List.find?_eq_none]
  intro e he heq
  exact h e he (congrArg List.length (of_decide_eq_true heq))

lemma stripPrefix_of_length {p s : List Char} (h : s.length < p.length) :
    stripPrefix p s = none := by
  unfold stripPrefix
  rw [if_neg]
  intro hstart
  have hle := (List.isPrefixOf_iff_prefix.mp hstart).length_le
  omega

/-- No literal of a special sequence is one or two characters long. -/
lemma parseLegacySpecialSequence_short {data : List Char} (h : data.length ≤ 2)
    (hrest : ∀ rest, stripPrefix ['\x1b', '['] data = some rest → rest = []) :
    parseLegacySpecialSequence data = none := by
  have htable : ∀ e ∈ legacySpecialTable, 3 ≤ e.1.toList.length := by decide
  have hlookup : lookupText legacySpecialTable data = none := by
    apply lookupText_eq_none
    intro e he
    have := htable e he
    omega
  unfold parseLegacySpecialSequence parseXtermModifiedSpecialSequence
  rw [hlookup]
  cases hstart : stripPrefix ['\x1b', '['] data with
  | none => rfl
  | some rest =>
    rw [hrest rest hstart]
    rfl

lemma parseKittyKeySequence_short {data : List Char}
    (hrest : ∀ rest, stripPrefix ['\x1b', '['] data = some rest → rest = []) :
    parseKittyKeySequence data = none := by
  unfold parseKittyKeySequence
  cases hstart : stripPrefix ['\x1b', '['] data with
  | none => rfl
  | some rest =>
    rw [hrest rest hstart]
    rfl

lemma parseModifyOtherKeysSequence_short {data : List Char} (h : data.length ≤ 2) :
    parseModifyOtherKeysSequence data = none := by
  have hstart : stripPrefix ['\x1b', '[', '2', '7', ';'] data = none :=
    stripPrefix_of_length (by change data.length < 5; omega)
  unfold parseModifyOtherKeysSequence
  rw [hstart]
  rfl

/-- A key sequence of one or two characters is none of the long ones. -/
lemma parseTerminalKeySequence_short {data : List Char} (h : data.length ≤ 2) :
    parseTerminalKeySequence data = parseLegacyKeySequence data ∧
      parseLegacySpecialSequence data = none := by
  have hrest : ∀ rest, stripPrefix ['\x1b', '['] data = some rest → rest = [] := by
    intro rest hstart
    unfold stripPrefix at hstart
    split at hstart
    · rw [← Option.some.inj hstart]
      exact List.drop_eq_nil_of_le h
    · cases hstart
  refine ⟨?_, parseLegacySpecialSequence_short h hrest⟩
  unfold parseTerminalKeySequence
  rw [parseKittyKeySequence_short hrest, parseModifyOtherKeysSequence_short h]
  rfl

/-! ### One character -/

lemma encodeTextInput_shifted (c : Char) (shifted : Option Nat) :
    encodeTextInput ⟨.char c, .SHIFT, .press, shifted⟩ =
      (shiftedTextChar ⟨.char c, .SHIFT, .press, shifted⟩ c).map String.utf8EncodeChar := by
  cases hchar : shiftedTextChar ⟨.char c, .SHIFT, .press, shifted⟩ c with
  | none =>
    unfold encodeTextInput
    simp only [hchar]
    rfl
  | some d =>
    unfold encodeTextInput
    simp only [hchar]
    rfl

lemma encodeTerminalKey_char (c : Char) :
    encodeTerminalKey (.new (.char c) (if c.isUpper then .SHIFT else .empty)) .legacy =
      String.utf8EncodeChar c := by
  cases hupper : c.isUpper with
  | true =>
    have htext : encodeTextInput (.new (.char c) .SHIFT) = some (String.utf8EncodeChar c) := by
      unfold TerminalKey.new
      rw [encodeTextInput_shifted]
      change (if c.isUpper = true then some c else _).map _ = _
      rw [if_pos hupper]
      rfl
    change encodeTerminalKey (.new (.char c) .SHIFT) .legacy = _
    unfold encodeTerminalKey
    rw [htext]
    rfl
  | false => rfl

lemma fromUtf8_utf8EncodeChar (c : Char) : fromUtf8 (String.utf8EncodeChar c) = .ok [c] := by
  have hdecoded := fromUtf8_flatMap [c]
  rwa [List.flatMap_singleton] at hdecoded

lemma parseLegacyCtrlChar_of_le (h : 32 ≤ c.toNat) : parseLegacyCtrlChar c = none := by
  unfold parseLegacyCtrlChar
  dsimp only
  split_ifs <;> first | omega | rfl

/-- A single character is read as a key that is sent as this character. -/
lemma readsBack_char (c : Char) : ReadsBack (String.utf8EncodeChar c) := by
  have hcontrol : ∀ n < 32, (parseTerminalKeySequence [Char.ofNat n]).map
      (encodeTerminalKey · .legacy) = some (String.utf8EncodeChar (Char.ofNat n)) := by
    decide
  apply readsBack_of_decoded (fromUtf8_utf8EncodeChar c)
  by_cases hlow : c.toNat < 32
  · have hchar := hcontrol c.toNat hlow
    rwa [Char.ofNat_toNat] at hchar
  by_cases hdelete : c = '\x7f'
  · rw [hdelete]
    decide
  have hlookup : lookupText legacyKeyTable [c] = none := by
    have htable : ∀ e ∈ legacyKeyTable, (e.1.toList.all fun d => d.toNat < 32 || d = '\x7f') =
        true ∨ e.1.toList.length = 2 := by decide
    unfold lookupText
    rw [Option.map_eq_none_iff, List.find?_eq_none]
    intro e he heq
    rw [decide_eq_true_eq] at heq
    rcases htable e he with hall | hlength
    · rw [heq] at hall
      simp [hlow, hdelete] at hall
    · rw [heq] at hlength
      cases hlength
  obtain ⟨hparse, hspecial⟩ := @parseTerminalKeySequence_short [c] (by simp)
  have hlegacy : parseLegacyKeySequence [c] =
      some (.new (.char c) (if c.isUpper then .SHIFT else .empty)) := by
    have hescape : '\x1b' ≠ c := by
      rintro rfl
      exact hlow (by decide)
    unfold parseLegacyKeySequence
    rw [hspecial, hlookup]
    dsimp only
    split
    · next ch heq => exact absurd (List.cons.inj heq).1.symm hescape
    · next heq => exact absurd (List.cons.inj heq).1.symm hescape
    · next ch hone heq =>
      obtain rfl : c = ch := (List.cons.inj heq).1
      rw [parseLegacyCtrlChar_of_le (by omega)]
    · next hthree => exact absurd rfl (hthree c)
  rw [hparse, hlegacy, Option.map_some, encodeTerminalKey_char]

/-! ### An escape before a character -/

lemma encodeTerminalKey_altChar (c : Char) :
    encodeTerminalKey (.new (.char c) (if c.isUpper then KeyModifiers.ALT.union .SHIFT else .ALT))
      .legacy = 0x1b :: String.utf8EncodeChar c := by
  cases hupper : c.isUpper with
  | true =>
    change 0x1b :: String.utf8EncodeChar ((if c.isUpper = true then some c else _).getD c) = _
    rw [if_pos hupper]
    rfl
  | false => rfl

/-- An escape and a character are read as this character with Alt. -/
lemma readsBack_escape (c : Char) : ReadsBack (0x1b :: String.utf8EncodeChar c) := by
  have htext : fromUtf8 (0x1b :: String.utf8EncodeChar c) = .ok ['\x1b', c] := by
    have hdecoded := fromUtf8_flatMap ['\x1b', c]
    rwa [List.flatMap_cons, List.flatMap_singleton] at hdecoded
  apply readsBack_of_decoded htext
  by_cases hdelete : c = '\x7f'
  · rw [hdelete]
    decide
  have hlookup : lookupText legacyKeyTable ['\x1b', c] = none := by
    have htable : ∀ e ∈ legacyKeyTable, e.1.toList.length = 1 ∨
        e.1.toList = ['\x1b', '\x7f'] := by decide
    unfold lookupText
    rw [Option.map_eq_none_iff, List.find?_eq_none]
    intro e he heq
    rw [decide_eq_true_eq] at heq
    rcases htable e he with hlength | hlist
    · rw [heq] at hlength
      cases hlength
    · rw [heq] at hlist
      simp [hdelete] at hlist
  obtain ⟨hparse, hspecial⟩ := @parseTerminalKeySequence_short ['\x1b', c] (by simp)
  have hlegacy : parseLegacyKeySequence ['\x1b', c] =
      some (.new (.char c) (if c.isUpper then KeyModifiers.ALT.union .SHIFT else .ALT)) := by
    unfold parseLegacyKeySequence
    rw [hspecial, hlookup]
    rfl
  rw [hparse, hlegacy, Option.map_some, encodeTerminalKey_altChar]

/-! ### Character keys -/

lemma encodeTerminalKey_legacy {key : TerminalKey} (h : key.kind = .press) :
    encodeTerminalKey key .legacy = (encodeTextInput key).getD (encodeLegacy key) := by
  unfold encodeTerminalKey
  rw [h]
  cases encodeTextInput key <;> rfl

variable {code : KeyCode} {shift alt control : Bool} {shifted : Option Nat}

/-- With Control a character becomes a byte, behind an escape with Alt. -/
lemma encodeTerminalKey_control (c : Char) (shift alt : Bool) (shifted : Option Nat) :
    encodeTerminalKey ⟨.char c, ⟨shift, alt, true, false, false, false⟩, .press, shifted⟩ .legacy =
      if alt then [0x1b, controlByte c] else [controlByte c] := by
  cases shift <;> cases alt <;> rfl

/-- Without Control a character is sent, behind an escape with Alt. -/
lemma encodeTerminalKey_plain (c : Char) (shift alt : Bool) (shifted : Option Nat) :
    ∃ d, encodeTerminalKey ⟨.char c, ⟨shift, alt, false, false, false, false⟩, .press, shifted⟩
      .legacy = if alt then 0x1b :: String.utf8EncodeChar d else String.utf8EncodeChar d := by
  cases shift with
  | false => cases alt <;> exact ⟨c, rfl⟩
  | true =>
    cases alt with
    | true => exact ⟨_, rfl⟩
    | false =>
      rw [encodeTerminalKey_legacy rfl]
      refine ⟨(shiftedTextChar ⟨.char c, ⟨true, false, false, false, false, false⟩, .press,
        shifted⟩ c).getD c, ?_⟩
      have htext : encodeTextInput ⟨.char c, ⟨true, false, false, false, false, false⟩, .press,
          shifted⟩ = (shiftedTextChar ⟨.char c, ⟨true, false, false, false, false, false⟩, .press,
            shifted⟩ c).map String.utf8EncodeChar := by
        exact encodeTextInput_shifted c shifted
      rw [htext]
      cases hchar : shiftedTextChar ⟨.char c, ⟨true, false, false, false, false, false⟩, .press,
          shifted⟩ c with
      | some d => rfl
      | none =>
        change String.utf8EncodeChar ((shiftedTextChar ⟨.char c, _, .press, shifted⟩ c).getD c) = _
        rw [hchar]
        rfl

lemma utf8EncodeChar_controlByte (h : c.toNat < 128) :
    ∃ d, String.utf8EncodeChar d = [controlByte c] := by
  have hall : ∀ n < 128, String.utf8EncodeChar (Char.ofNat (controlByte (Char.ofNat n)).toNat) =
      [controlByte (Char.ofNat n)] := by decide +kernel
  have hone := hall c.toNat h
  rw [Char.ofNat_toNat] at hone
  exact ⟨_, hone⟩

/-- Every character key is read back, but for Control with a character outside ASCII. -/
lemma readsBack_charKey (h : control = true → c.toNat < 128) :
    ReadsBack (encodeTerminalKey ⟨.char c, ⟨shift, alt, control, false, false, false⟩, .press,
      shifted⟩ .legacy) := by
  cases control with
  | true =>
    obtain ⟨d, hd⟩ := utf8EncodeChar_controlByte (h rfl)
    rw [encodeTerminalKey_control, ← hd]
    cases alt with
    | true => exact readsBack_escape d
    | false => exact readsBack_char d
  | false =>
    obtain ⟨d, hd⟩ := encodeTerminalKey_plain c shift alt shifted
    rw [hd]
    cases alt with
    | true => exact readsBack_escape d
    | false => exact readsBack_char d

/-! ### Special keys -/

/-- The shifted codepoint of a special key is not sent. -/
lemma encodeTerminalKey_special (hcode : ∀ c, code ≠ .char c) (mods : KeyModifiers)
    (shifted : Option Nat) : encodeTerminalKey ⟨code, mods, .press, shifted⟩ .legacy =
      encodeTerminalKey ⟨code, mods, .press, none⟩ .legacy := by
  cases code with
  | char c => exact absurd rfl (hcode c)
  | _ => rfl

/-- The decoded and parsed bytes, encoded again. -/
def reencoded (bytes : List UInt8) : Option (List UInt8) :=
  match fromUtf8 bytes with
  | .ok text => (parseTerminalKeySequence text).map (encodeTerminalKey · .legacy)
  | .error _ => none

lemma readsBack_iff_reencoded : ReadsBack bytes ↔ reencoded bytes = some bytes := by
  unfold reencoded
  constructor
  · rintro ⟨text, key, htext, hparsed, hencoded⟩
    rw [htext]
    dsimp only
    rw [hparsed, Option.map_some, hencoded]
  · intro h
    cases htext : fromUtf8 bytes with
    | error e =>
      rw [htext] at h
      cases h
    | ok text =>
      rw [htext] at h
      exact readsBack_of_decoded htext h

/-- A special key with a legacy sequence is read back, but for Alt with the back tab. -/
lemma readsBack_special (hcode : code ∈ legacySpecialKeys)
    (hbackTab : alt = true → code ≠ .backTab) :
    ReadsBack (encodeTerminalKey ⟨code, ⟨shift, alt, control, false, false, false⟩, .press, none⟩
      .legacy) := by
  rw [readsBack_iff_reencoded]
  -- one evaluation for each set of modifiers keeps what the kernel holds at once small
  revert code
  revert shift
  cases alt with
  | true =>
    cases control with
    | true => decide
    | false => decide
  | false =>
    cases control with
    | true => decide
    | false => decide

lemma not_readsBack_altBackTab (shift control : Bool) (shifted : Option Nat) :
    ¬ReadsBack (encodeTerminalKey ⟨.backTab, ⟨shift, true, control, false, false, false⟩, .press,
      shifted⟩ .legacy) := by
  have hbytes : encodeTerminalKey ⟨.backTab, ⟨shift, true, control, false, false, false⟩, .press,
      shifted⟩ .legacy = [27, 27, 91, 90] := by
    cases shift <;> cases control <;> rfl
  rw [hbytes, readsBack_iff_reencoded]
  decide

lemma encodeFKey_eq_nil {n : Nat} (h : KeyCode.f n ∉ legacySpecialKeys) : encodeFKey n = [] := by
  unfold encodeFKey
  split <;> first | rfl | exact absurd (by decide) h

lemma encodeModifiedSpecial_eq_none (hcode : code ∉ legacySpecialKeys) (mods : KeyModifiers) :
    encodeModifiedSpecial code mods = none := by
  unfold encodeModifiedSpecial
  dsimp only
  split
  · rfl
  split <;> first | rfl | exact absurd (by decide) hcode

/-- A key without a legacy sequence is sent as nothing, with Alt as an escape. -/
lemma encodeTerminalKey_of_notMem (hcode : hasLegacyForm code = false) (shift alt control : Bool)
    (shifted : Option Nat) :
    encodeTerminalKey ⟨code, ⟨shift, alt, control, false, false, false⟩, .press, shifted⟩ .legacy =
      if alt then [0x1b] else [] := by
  have hmem : code ∉ legacySpecialKeys := by
    cases code with
    | char c => cases hcode
    | _ => exact of_decide_eq_false hcode
  have hinner (mods : KeyModifiers) : encodeLegacyInner ⟨code, mods, .press, shifted⟩ = [] := by
    cases code with
    | char c => cases hcode
    | f n => exact encodeFKey_eq_nil hmem
    | _ => first | rfl | exact absurd (by decide) hmem
  have htext (mods : KeyModifiers) : encodeTextInput ⟨code, mods, .press, shifted⟩ = none := by
    cases code with
    | char c => cases hcode
    | _ => rfl
  rw [encodeTerminalKey_legacy rfl, htext, Option.getD_none]
  unfold encodeLegacy
  dsimp only
  rw [encodeModifiedSpecial_eq_none hmem, ite_self]
  dsimp only
  rw [hinner, hinner]

/-! ### The law -/

/-- The keys for which the legacy encoder keeps its law: Control only with ASCII characters, Alt
only with a key that has a sequence of its own and is not the back tab. -/
def KeepsLegacyLaw (code : KeyCode) (alt control : Bool) : Prop :=
  (control = true → ∀ c, code = .char c → c.toNat < 128) ∧
    (alt = true → hasLegacyForm code = true ∧ code ≠ .backTab)

lemma legacyLaw_of_keeps (h : KeepsLegacyLaw code alt control) :
    LegacyLaw ⟨code, ⟨shift, alt, control, false, false, false⟩, .press, shifted⟩ := by
  obtain ⟨hcontrol, halt⟩ := h
  cases hform : hasLegacyForm code with
  | false =>
    have halt' : alt = false := by
      rw [← Bool.not_eq_true]
      intro htrue
      rw [(halt htrue).1] at hform
      cases hform
    have hbytes := encodeTerminalKey_of_notMem hform shift alt control shifted
    rw [halt'] at hbytes ⊢
    refine ⟨Or.inl hbytes, ?_, ?_⟩
    · rintro - c hc - b
      rw [hbytes]
      simp
    · rintro - -
      rw [hbytes]
      simp
  | true =>
    refine ⟨Or.inr ?_, ?_, ?_⟩
    · by_cases hchar : ∃ c, code = .char c
      · obtain ⟨c, rfl⟩ := hchar
        exact readsBack_charKey fun htrue => hcontrol htrue c rfl
      · rw [not_exists] at hchar
        have hmem : code ∈ legacySpecialKeys := by
          cases code with
          | char c => exact absurd rfl (hchar c)
          | _ => exact of_decide_eq_true hform
        rw [encodeTerminalKey_special hchar]
        exact readsBack_special hmem fun htrue => (halt htrue).2
    · intro htrue c hc hlarge
      have := hcontrol htrue c hc
      omega
    · rintro - hnone
      change hasLegacyForm code = false at hnone
      rw [hform] at hnone
      cases hnone

/-- The legacy encoder keeps its law for a pressed key exactly where Control is held only with ASCII
characters, and Alt only with a key that has a legacy sequence and is not the back tab. -/
theorem legacyLaw_iff (code : KeyCode) (shift alt control : Bool) (shifted : Option Nat) :
    LegacyLaw ⟨code, ⟨shift, alt, control, false, false, false⟩, .press, shifted⟩ ↔
      KeepsLegacyLaw code alt control := by
  refine ⟨fun h => ⟨?_, ?_⟩, legacyLaw_of_keeps⟩
  · rintro rfl c rfl
    by_contra hlarge
    obtain ⟨hone, htwo⟩ := h.control rfl c rfl (by omega) (controlByte c)
    rw [encodeTerminalKey_control] at hone htwo
    cases alt with
    | true => exact htwo rfl
    | false => exact hone rfl
  · rintro rfl
    constructor
    · by_contra hform
      rw [Bool.not_eq_true] at hform
      apply h.loneEsc _ hform
      · rw [encodeTerminalKey_of_notMem hform]
        rfl
      · intro hempty
        cases congrArg KeyModifiers.alt hempty
    · rintro rfl
      rcases h.readsBack with hnil | hread
      · revert hnil
        cases shift <;> cases control <;> exact fun hnil => nomatch hnil
      · exact not_readsBack_altBackTab shift control shifted hread

/-- Control and `é` is sent as the byte `0xe9`, which is no UTF-8. -/
theorem legacyLaw_fails_controlLatin :
    ¬LegacyLaw ⟨.char 'é', .CONTROL, .press, none⟩ := by
  intro h
  exact (h.control rfl 'é' rfl (by decide) 0xe9).1 (by decide)

end

end Ork3.Input
