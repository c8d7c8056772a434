import Ork3.Library.Decimal
import Ork3.Library.Tokens
import Ork3.Library.Utf8
import Ork3.Model.KeybindRegistry

/-!
# Labels of key bindings

A combination that was parsed is read back from its label, unless its key is the separator itself:
`plus` is written as `+`, which the parser does not read.
-/

namespace Ork3.Input

open Ork3.Library Ork3.Terminal

/-! ### Tokens -/

section
variable {c : Char} {s part keyStr : List Char} {parts : List (List Char)}
  {m m₀ : KeyModifiers} {k k₀ : Option (List Char)}

lemma trim_of_forall (h : ∀ c ∈ s, isWhitespace c = false) : trim s = s := trimBy_of_forall h

lemma lookupText_isSome_iff {β : Type} {table : List (String × β)} :
    (lookupText table s).isSome ↔ ∃ e ∈ table, e.1.toList = s := by
  unfold lookupText
  rw [Option.isSome_map, List.find?_isSome]
  simp

lemma lookupText_eq_none_of_forall {β : Type} {table : List (String × β)}
    (h : ∀ e ∈ table, e.1.toList ≠ s) : lookupText table s = none := by
  rw [← Option.not_isSome_iff_eq_none, lookupText_isSome_iff]
  rintro ⟨e, he, heq⟩
  exact h e he heq

lemma metaKey_of_parseModifierToken (h : parseModifierToken s = some m) : m.metaKey = false := by
  have htable : ∀ e ∈ modifierTokens, e.2.metaKey = false := by decide
  unfold parseModifierToken lookupText at h
  obtain ⟨e, he, rfl⟩ := Option.map_eq_some_iff.mp h
  exact htable e (List.mem_of_find?_eq_some he)

/-- What the parts of a combination are: modifiers, and at most one other text. -/
lemma comboParts_spec (h : comboParts parts m₀ k₀ = some (m, k)) :
    (m₀.metaKey = false → m.metaKey = false) ∧
      (∀ part ∈ parts, trim part ≠ [] ∧
        ((parseModifierToken (trim part)).isSome ∨ k = some (trim part))) ∧
      (k₀.isSome → k = k₀) ∧
      (k₀ = none → ∀ y, k = some y → parseModifierToken y = none ∧
        ∃ part ∈ parts, trim part = y) := by
  induction parts generalizing m₀ k₀ with
  | nil =>
    obtain ⟨rfl, rfl⟩ := Prod.mk.inj (Option.some.inj h)
    refine ⟨id, fun part hpart => absurd hpart List.not_mem_nil, fun _ => rfl, ?_⟩
    rintro rfl y hy
    cases hy
  | cons part parts ih =>
    unfold comboParts at h
    dsimp only at h
    split at h
    · cases h
    next hne =>
    have hne' : trim part ≠ [] := fun heq => hne (by rw [heq]; rfl)
    cases htoken : parseModifierToken (trim part) with
    | some modifier =>
      rw [htoken] at h
      obtain ⟨hmeta, hparts, hkept, hfound⟩ := ih h
      refine ⟨fun h₀ => hmeta ?_, ?_, hkept, ?_⟩
      · change (m₀.metaKey || modifier.metaKey) = false
        rw [h₀, metaKey_of_parseModifierToken htoken]
        rfl
      · intro part' hmem
        rcases List.mem_cons.mp hmem with rfl | hmem
        · rw [htoken]
          exact ⟨hne', Or.inl rfl⟩
        · exact hparts part' hmem
      · intro hnone y hy
        obtain ⟨hy', part', hmem, heq⟩ := hfound hnone y hy
        exact ⟨hy', part', List.mem_cons_of_mem _ hmem, heq⟩
    | none =>
      rw [htoken] at h
      dsimp only at h
      split at h
      · cases h
      next hnone =>
      obtain ⟨hmeta, hparts, hkept, -⟩ := ih h
      have hk : k = some (trim part) := hkept rfl
      refine ⟨hmeta, ?_, ?_, ?_⟩
      · intro part' hmem
        rcases List.mem_cons.mp hmem with rfl | hmem
        · exact ⟨hne', Or.inr hk⟩
        · exact hparts part' hmem
      · intro hsome
        exact absurd hsome hnone
      · rintro rfl y hy
        rw [hk] at hy
        obtain rfl := Option.some.inj hy
        exact ⟨htoken, part, List.mem_cons_self, rfl⟩

end

/-! ### The keys that are parsed -/

/-- What a parsed combination can be, but for the separator. -/
inductive ParsedKey : KeyCode → KeyModifiers → Prop where
  | named (code : KeyCode) (m : KeyModifiers)
      (h : code ∈ [KeyCode.enter, .esc, .backspace, .left, .right, .up, .down, .char ' ']) :
      ParsedKey code m
  | tab (m : KeyModifiers) (h : m.shift = false) : ParsedKey .tab m
  | backTab (m : KeyModifiers) (h : m.shift = false) : ParsedKey .backTab m
  | char (c : Char) (m : KeyModifiers) (hws : isWhitespace c = false) (hplus : c ≠ '+')
      (hupper : c.isUpper = false) : ParsedKey (.char c) m
  | f (n : Nat) (m : KeyModifiers) (h : n ≤ 255) : ParsedKey (.f n) m

/-- Some part of the text is the name of the separator key. -/
def NamesPlus (s : List Char) : Prop :=
  ∃ part ∈ s.splitOn '+', lowercase (trim part) = "plus".toList

section
variable {c : Char} {s keyStr : List Char} {m : KeyModifiers} {combo : KeyCombo} {code : KeyCode}

/-- The characters with a name. -/
def punctuationKeys : List Char := ['-', ',', '.', '/', '\\', '\'', '"', ';', ':', '%', '&', '`']

lemma punctuationKeys_spec (hc : c ∈ punctuationKeys) :
    isWhitespace c = false ∧ c ≠ '+' ∧ c.isUpper = false := by
  have hall : (punctuationKeys.all fun c => !isWhitespace c && c != '+' && !c.isUpper) = true := by
    decide
  simpa [and_assoc] using List.all_eq_true.mp hall c hc

lemma lookupText_keyNames {lower : List Char} (h : lookupText keyNames lower = some code) :
    (lower ≠ "plus".toList ∧ ∀ m, ParsedKey code m) ∨
      (lower = "plus".toList ∧ code = .char '+') := by
  have htable : ∀ e ∈ keyNames,
      (e.1.toList ≠ "plus".toList ∧
        (e.2 ∈ [KeyCode.enter, .esc, .backspace, .left, .right, .up, .down, .char ' '] ∨
          e.2 ∈ punctuationKeys.map KeyCode.char)) ∨
      (e.1.toList = "plus".toList ∧ e.2 = .char '+') := by decide +kernel
  obtain ⟨e, he, rfl⟩ := Option.map_eq_some_iff.mp h
  have hlower : e.1.toList = lower := by
    have := List.find?_some he
    exact of_decide_eq_true this
  rw [← hlower]
  rcases htable e (List.mem_of_find?_eq_some he) with ⟨hne, hnamed | hmem⟩ | hplus
  · exact Or.inl ⟨hne, fun m => .named _ m hnamed⟩
  · obtain ⟨c, hc, hcode⟩ := List.mem_map.mp hmem
    obtain ⟨hws, hplus, hupper⟩ := punctuationKeys_spec hc
    rw [← hcode]
    exact Or.inl ⟨hne, fun m => .char c m hws hplus hupper⟩
  · exact Or.inr hplus

lemma withoutShift_of_shift (h : m.shift = false) : m.withoutShift = m := by
  cases m
  cases h
  rfl

lemma normalizeKeyCombo_of_parsedKey (h : ParsedKey code m) :
    normalizeKeyCombo (code, m) = (code, m) := by
  cases h with
  | named _ _ hnamed =>
    have hall : ∀ code ∈ [KeyCode.enter, .esc, .backspace, .left, .right, .up, .down, .char ' '],
        ∀ m, normalizeKeyCombo (code, m) = (code, m) := by
      intro code hcode m
      fin_cases hcode <;> rfl
    exact hall _ hnamed m
  | tab _ hshift =>
    change (if m.shift = true then _ else _) = _
    rw [hshift]
    rfl
  | backTab _ hshift =>
    change (KeyCode.backTab, m.withoutShift) = _
    rw [withoutShift_of_shift hshift]
  | char => rfl
  | f => rfl

lemma toLower_letter (h : c.isUpper = true) :
    isWhitespace c.toLower = false ∧ c.toLower ≠ '+' := by
  have hbounds : 65 ≤ c.toNat ∧ c.toNat ≤ 90 := by
    simpa [Char.isUpper, UInt32.le_iff_toNat_le] using h
  have hlower : c.toLower.toNat = c.toNat + 32 := by
    rw [Char.toLower_eq_of_isUpper h, toNat_ofNat_of_lt (by omega)]
  constructor
  · unfold isWhitespace
    dsimp only
    rw [hlower]
    simp
    omega
  · intro heq
    rw [heq] at hlower
    change 43 = _ at hlower
    omega

lemma length_lowercase (s : List Char) : (lowercase s).length = s.length := List.length_map _

lemma singleKeyChar_eq_some (h : singleKeyChar keyStr = some c) : keyStr = [c] := by
  unfold singleKeyChar at h
  split at h
  · rw [Option.some.inj h]
  · cases h

lemma parseUnsigned_le {max n : Nat} (h : parseUnsigned max s = some n) : n ≤ max := by
  have hdigits (digits : List Char) (h : (if digits.isEmpty = true then none
      else (digitsValue 10 decimalDigit digits).filter (· ≤ max)) = some n) : n ≤ max := by
    split at h
    · cases h
    · exact of_decide_eq_true (Option.filter_eq_some_iff.mp h).2
  exact hdigits _ h

/-- The key of a text without blanks around it and without a separator: it is named `plus`, or it
is a parsed key. -/
lemma keyOfText_spec (hends : ∀ c ∈ keyStr.head?, isWhitespace c = false) (hsep : '+' ∉ keyStr)
    (h : keyOfText keyStr m = some combo) :
    combo.2.metaKey = m.metaKey ∧
      ((lowercase keyStr ≠ "plus".toList ∧ ParsedKey combo.1 combo.2) ∨
        (lowercase keyStr = "plus".toList ∧ combo.1 = .char '+')) := by
  unfold keyOfText at h
  dsimp only at h
  split at h
  · next htab =>
    have hne : lowercase keyStr ≠ "plus".toList := by
      rw [htab]
      decide
    split at h
    · next hshift =>
      rw [← Option.some.inj h]
      exact ⟨rfl, Or.inl ⟨hne, .backTab _ rfl⟩⟩
    · next hshift =>
      rw [← Option.some.inj h]
      exact ⟨rfl, Or.inl ⟨hne, .tab _ (Bool.eq_false_of_not_eq_true hshift)⟩⟩
  cases hname : lookupText keyNames (lowercase keyStr) with
  | some code =>
    rw [hname] at h
    rw [← Option.some.inj h]
    refine ⟨rfl, ?_⟩
    rcases lookupText_keyNames hname with ⟨hne, hparsed⟩ | ⟨heq, hcode⟩
    · exact Or.inl ⟨hne, hparsed m⟩
    · exact Or.inr ⟨heq, hcode⟩
  | none =>
    rw [hname] at h
    have hne : lowercase keyStr ≠ "plus".toList := by
      intro heq
      rw [heq] at hname
      revert hname
      decide
    dsimp only at h
    cases hsingle : singleKeyChar keyStr with
    | some ch =>
      rw [hsingle] at h
      dsimp only at h
      obtain rfl := singleKeyChar_eq_some hsingle
      have hws := hends ch rfl
      have hplus : ch ≠ '+' := fun heq => hsep (heq ▸ List.mem_singleton_self ch)
      split at h
      · next hupper =>
        obtain ⟨hws', hplus'⟩ := toLower_letter hupper
        rw [← Option.some.inj h]
        refine ⟨?_, Or.inl ⟨hne, .char _ _ hws' hplus' (Char.isUpper_toLower_eq_false ch)⟩⟩
        exact Bool.or_false _
      · next hupper =>
        rw [← Option.some.inj h]
        exact ⟨rfl, Or.inl ⟨hne, .char ch m hws hplus (Bool.eq_false_of_not_eq_true hupper)⟩⟩
    | none =>
      rw [hsingle] at h
      dsimp only at h
      split at h
      · next digits hf =>
        obtain ⟨n, hn, rfl⟩ := Option.map_eq_some_iff.mp h
        refine ⟨rfl, Or.inl ⟨hne, .f n m ?_⟩⟩
        exact parseUnsigned_le hn
      · cases h

/-- What `parse_key_combo` returns: a parsed key, or the separator for a text that names it. -/
lemma parseKeyCombo_spec (h : parseKeyCombo s = some combo) :
    combo.2.metaKey = false ∧
      ((¬NamesPlus s ∧ ParsedKey combo.1 combo.2) ∨ (NamesPlus s ∧ combo.1 = .char '+')) := by
  unfold parseKeyCombo at h
  obtain ⟨⟨m, k⟩, hparts, h⟩ := Option.bind_eq_some_iff.mp h
  obtain ⟨keyStr, rfl, h⟩ := Option.bind_eq_some_iff.mp h
  obtain ⟨parsed, hkey, rfl⟩ := Option.map_eq_some_iff.mp h
  obtain ⟨hmeta, hall, -, hfound⟩ := comboParts_spec hparts
  obtain ⟨htoken, part, hpart, rfl⟩ := hfound rfl _ rfl
  have hends : ∀ c ∈ (trim part).head?, isWhitespace c = false := fun c hc => ws_head_trimBy hc
  have hsep : '+' ∉ trim part := fun hmem => notMem_of_mem_splitOn hpart (mem_of_mem_trimBy hmem)
  have hplus : NamesPlus s ↔ lowercase (trim part) = "plus".toList := by
    constructor
    · rintro ⟨part', hpart', heq⟩
      rcases (hall part' hpart').2 with hmodifier | hsame
      · have hnone : parseModifierToken (trim part') = none := by
          unfold parseModifierToken
          rw [heq]
          decide
        rw [hnone] at hmodifier
        cases hmodifier
      · rw [Option.some.inj hsame]
        exact heq
    · intro heq
      exact ⟨part, hpart, heq⟩
  obtain ⟨hmetaKey, hcase⟩ := keyOfText_spec hends hsep hkey
  rw [hmeta rfl] at hmetaKey
  rw [hplus]
  rcases hcase with ⟨hne, hparsed⟩ | ⟨heq, hcode⟩
  · have hnormal := normalizeKeyCombo_of_parsedKey hparsed
    rw [Prod.mk.eta] at hnormal
    rw [hnormal]
    exact ⟨hmetaKey, Or.inl ⟨hne, hparsed⟩⟩
  · have hnormal : normalizeKeyCombo parsed = parsed := by
      obtain ⟨code, mods⟩ := parsed
      obtain rfl : code = .char '+' := hcode
      rfl
    rw [hnormal]
    exact ⟨hmetaKey, Or.inr ⟨heq, hcode⟩⟩

end

/-! ### The parts of a label -/

/-- The parts of the label of a key, between separators. -/
def keyParts : KeyCode → List (List Char)
  | .backTab => ["shift".toList, "tab".toList]
  | .char c => if c = '+' then [[], []] else [keyLabel (.char c)]
  | code => [keyLabel code]

section
variable {c : Char} {s : List Char} {m : KeyModifiers} {combo : KeyCombo} {code : KeyCode}
  {macos : Bool}

lemma keyParts_ne_nil (code : KeyCode) : keyParts code ≠ [] := by
  cases code with
  | char c =>
    unfold keyParts
    dsimp only
    split <;> exact List.cons_ne_nil _ _
  | _ => exact List.cons_ne_nil _ _

lemma intercalate_concat_separator (ls : List (List Char)) (a b : List Char) :
    ['+'].intercalate (ls ++ [a ++ '+' :: b]) = ['+'].intercalate (ls ++ [a, b]) := by
  induction ls with
  | nil => simp [List.intercalate]
  | cons l ls ih =>
    have hne₁ : ls ++ [a ++ '+' :: b] ≠ [] := by simp
    have hne₂ : ls ++ [a, b] ≠ [] := by simp
    rw [List.cons_append, List.cons_append, List.intercalate_cons_of_ne_nil hne₁,
      List.intercalate_cons_of_ne_nil hne₂, ih]

lemma formatKeyCombo_eq (macos : Bool) (code : KeyCode) (m : KeyModifiers) :
    formatKeyCombo macos (code, m) =
      ['+'].intercalate (modifierLabels macos code m ++ keyParts code) := by
  cases code with
  | backTab => exact intercalate_concat_separator _ "shift".toList "tab".toList
  | char c =>
    by_cases hc : c = '+'
    · rw [hc]
      exact intercalate_concat_separator _ [] []
    · unfold keyParts
      dsimp only
      rw [if_neg hc]
      rfl
  | _ => rfl

/-- The labels of the modifiers. -/
def modifierNames (macos : Bool) : List (List Char) :=
  ["ctrl".toList, "alt".toList, "shift".toList, superModifierLabel macos, "hyper".toList,
    "meta".toList]

lemma mem_modifierNames {l : List Char} (h : l ∈ modifierLabels macos code m) :
    l ∈ modifierNames macos := by
  unfold modifierLabels at h
  simp only [List.mem_append, List.mem_ite_nil_right, List.mem_singleton] at h
  unfold modifierNames
  simp only [List.mem_cons]
  tauto

lemma modifierNames_spec {l : List Char} (h : l ∈ modifierNames macos) :
    '+' ∉ l ∧ (∀ c ∈ l, isWhitespace c = false) ∧ l ≠ "prefix".toList ∧ l ≠ [] := by
  have hall : ∀ macos, ((modifierNames macos).all fun l =>
      !l.contains '+' && (l.all fun c => !isWhitespace c) && l ≠ "prefix".toList &&
        l ≠ []) = true := by decide
  have hl := List.all_eq_true.mp (hall macos) l h
  simp only [Bool.and_eq_true, Bool.not_eq_true', decide_eq_true_eq, List.all_eq_true] at hl
  obtain ⟨⟨⟨hplus, hws⟩, hstart⟩, hne⟩ := hl
  refine ⟨?_, hws, hstart, hne⟩
  intro hmem
  rw [List.contains_iff_mem.mpr hmem] at hplus
  cases hplus

lemma isWhitespace_of_isDigit (h : c.isDigit = true) : isWhitespace c = false := by
  rw [Char.isDigit_iff_toNat] at h
  change 48 ≤ c.toNat ∧ c.toNat ≤ 57 at h
  unfold isWhitespace
  simp
  omega

/-- No part of the label of a parsed key has a separator or a blank, and none is `prefix`. -/
lemma keyParts_spec (h : ParsedKey code m) {l : List Char} (hl : l ∈ keyParts code) :
    '+' ∉ l ∧ (∀ c ∈ l, isWhitespace c = false) ∧ l ≠ "prefix".toList ∧ l ≠ [] := by
  have hcheck (l : List Char) (h : (!l.contains '+' && (l.all fun c => !isWhitespace c) &&
      l ≠ "prefix".toList && l ≠ []) = true) :
      '+' ∉ l ∧ (∀ c ∈ l, isWhitespace c = false) ∧ l ≠ "prefix".toList ∧ l ≠ [] := by
    simp only [Bool.and_eq_true, Bool.not_eq_true', decide_eq_true_eq, List.all_eq_true] at h
    obtain ⟨⟨⟨hplus, hws⟩, hstart⟩, hne⟩ := h
    refine ⟨fun hmem => ?_, hws, hstart, hne⟩
    rw [List.contains_iff_mem.mpr hmem] at hplus
    cases hplus
  cases h with
  | named _ _ hnamed =>
    have hall : ∀ code ∈ [KeyCode.enter, .esc, .backspace, .left, .right, .up, .down, .char ' '],
        ((keyParts code).all fun l => !l.contains '+' && (l.all fun c => !isWhitespace c) &&
          l ≠ "prefix".toList && l ≠ []) = true := by decide
    exact hcheck l (List.all_eq_true.mp (hall _ hnamed) l hl)
  | tab =>
    rw [List.mem_singleton.mp hl]
    exact hcheck _ (by decide)
  | backTab =>
    have hall : (([ "shift".toList, "tab".toList]).all fun l => !l.contains '+' &&
        (l.all fun c => !isWhitespace c) && l ≠ "prefix".toList && l ≠ []) = true := by decide
    exact hcheck l (List.all_eq_true.mp hall l hl)
  | char c _ hws hplus _ =>
    have hspace : c ≠ ' ' := by
      rintro rfl
      revert hws
      decide
    have hkey : keyParts (.char c) = [[c]] := by
      change (if c = '+' then [[], []] else [if c = ' ' then _ else [c]]) = _
      rw [if_neg hplus, if_neg hspace]
    rw [hkey, List.mem_singleton] at hl
    rw [hl]
    refine ⟨fun hmem => hplus (List.mem_singleton.mp hmem).symm, ?_, ?_, List.cons_ne_nil _ _⟩
    · intro d hd
      rw [List.mem_singleton.mp hd]
      exact hws
    · intro heq
      cases congrArg List.length heq
  | f n =>
    rw [List.mem_singleton.mp hl]
    refine ⟨?_, ?_, ?_, List.cons_ne_nil _ _⟩
    · intro hmem
      rcases List.mem_cons.mp hmem with heq | hmem
      · revert heq
        decide
      · exact notMem_decimal (by decide) hmem
    · intro d hd
      rcases List.mem_cons.mp hd with rfl | hd
      · decide
      · exact isWhitespace_of_isDigit (isDigit_of_mem_decimal hd)
    · intro heq
      have hhead := (List.cons.inj heq).1
      revert hhead
      decide

/-! ### A label is read back -/

variable {l : List Char} {m₀ mods : KeyModifiers} {k : Option (List Char)}
  {rest : List (List Char)}

lemma comboParts_modifier (htrim : trim l = l) (hne : l ≠ []) (htoken : parseModifierToken l = some m)
    (rest : List (List Char)) (m₀ : KeyModifiers) (k : Option (List Char)) :
    comboParts (l :: rest) m₀ k = comboParts rest (m₀.union m) k := by
  have hempty : l.isEmpty = false := by simpa using hne
  rw [comboParts, htrim, hempty, htoken]
  rfl

lemma comboParts_key (htrim : trim l = l) (hne : l ≠ []) (htoken : parseModifierToken l = none)
    (m₀ : KeyModifiers) : comboParts [l] m₀ none = some (m₀, some l) := by
  have hempty : l.isEmpty = false := by simpa using hne
  rw [comboParts, htrim, hempty, htoken]
  rfl

lemma comboParts_optional (b : Bool) (htrim : trim l = l) (hne : l ≠ [])
    (htoken : parseModifierToken l = some m) (rest : List (List Char)) (m₀ : KeyModifiers)
    (k : Option (List Char)) :
    comboParts ((if b = true then [l] else []) ++ rest) m₀ k =
      comboParts rest (if b = true then m₀.union m else m₀) k := by
  cases b with
  | true => exact comboParts_modifier htrim hne htoken rest m₀ k
  | false => rfl

lemma parseModifierToken_superModifierLabel (macos : Bool) :
    trim (superModifierLabel macos) = superModifierLabel macos ∧ superModifierLabel macos ≠ [] ∧
      parseModifierToken (superModifierLabel macos) = some .SUPER := by
  cases macos <;> decide

/-- The labels of the modifiers are read as the modifiers, Shift aside for the back tab. -/
lemma comboParts_modifierLabels (macos : Bool) (code : KeyCode) (hmeta : m.metaKey = false)
    (rest : List (List Char)) :
    comboParts (modifierLabels macos code m ++ rest) .empty none =
      comboParts rest (if code = .backTab then m.withoutShift else m) none := by
  obtain ⟨htrim, hne, htoken⟩ := parseModifierToken_superModifierLabel macos
  unfold modifierLabels
  rw [hmeta, if_neg Bool.false_ne_true, List.append_nil]
  simp only [List.append_assoc]
  rw [comboParts_optional _ (by decide) (by decide) (m := .CONTROL) (by decide),
    comboParts_optional _ (by decide) (by decide) (m := .ALT) (by decide),
    comboParts_optional _ (by decide) (by decide) (m := .SHIFT) (by decide),
    comboParts_optional _ htrim hne htoken,
    comboParts_optional _ (by decide) (by decide) (m := .HYPER) (by decide)]
  congr 1
  obtain ⟨shift, alt, control, super, hyper, metaKey⟩ := m
  obtain rfl : metaKey = false := hmeta
  have hbackTab : decide (code ≠ .backTab) = !decide (code = .backTab) := decide_not
  by_cases hcode : code = .backTab
  · simp only [hcode]
    revert shift alt control super hyper
    decide
  · simp only [hbackTab, hcode]
    revert shift alt control super hyper
    decide

lemma lowercaseChar_eq_blank (h : lowercaseChar c = ' ') : c = ' ' := by
  unfold lowercaseChar at h
  split at h
  · exact absurd h (by decide)
  · by_cases hupper : c.isUpper = true
    · have hblank := (toLower_letter hupper).1
      rw [h] at hblank
      exact absurd hblank (by decide)
    · rwa [Char.toLower_eq_of_not_isUpper hupper] at h

lemma lowercase_of_digits {digits : List Char} (h : ∀ c ∈ digits, c.isDigit = true) :
    lowercase digits = digits := by
  conv_rhs => rw [← List.map_id digits]
  apply List.map_congr_left
  intro c hc
  have hbounds : 48 ≤ c.toNat ∧ c.toNat ≤ 57 := Char.isDigit_iff_toNat.mp (h c hc)
  have hupper : ¬c.isUpper = true := by
    simp [Char.isUpper, UInt32.le_iff_toNat_le]
    change 65 ≤ c.toNat → 90 < c.toNat
    omega
  unfold lowercaseChar
  rw [if_neg (by omega), Char.toLower_eq_of_not_isUpper hupper]
  rfl

/-- The key of a label is read as the key. -/
lemma comboParts_keyParts (h : ParsedKey code m) :
    ∃ mods keyStr, comboParts (keyParts code) (if code = .backTab then m.withoutShift else m) none =
      some (mods, some keyStr) ∧ keyOfText keyStr mods = some (code, m) := by
  cases h with
  | named _ _ hnamed =>
    have hall : ∀ code ∈ [KeyCode.enter, .esc, .backspace, .left, .right, .up, .down, .char ' '],
        keyParts code = [keyLabel code] ∧ trim (keyLabel code) = keyLabel code ∧
          keyLabel code ≠ [] ∧ parseModifierToken (keyLabel code) = none ∧
          code ≠ .backTab ∧ lowercase (keyLabel code) ≠ ['t', 'a', 'b'] ∧
          lookupText keyNames (lowercase (keyLabel code)) = some code := by decide
    obtain ⟨hparts, htrim, hne, htoken, hbackTab, htab, hname⟩ := hall _ hnamed
    refine ⟨m, keyLabel code, ?_, ?_⟩
    · rw [if_neg hbackTab, hparts]
      exact comboParts_key htrim hne htoken m
    · unfold keyOfText
      dsimp only
      rw [if_neg htab, hname]
  | tab _ hshift =>
    refine ⟨m, "tab".toList, comboParts_key (by decide) (by decide) (by decide) m, ?_⟩
    change (if m.shift = true then _ else some (KeyCode.tab, m)) = _
    rw [hshift]
    rfl
  | backTab _ hshift =>
    refine ⟨m.union .SHIFT, "tab".toList, ?_, ?_⟩
    · rw [if_pos rfl, withoutShift_of_shift hshift]
      change comboParts ("shift".toList :: ["tab".toList]) m none = _
      rw [comboParts_modifier (by decide) (by decide) (m := .SHIFT) (by decide)]
      exact comboParts_key (by decide) (by decide) (by decide) _
    · obtain ⟨shift, alt, control, super, hyper, metaKey⟩ := m
      obtain rfl : shift = false := hshift
      revert alt control super hyper metaKey
      decide
  | char c _ hws hplus hupper =>
    have hspace : c ≠ ' ' := by
      rintro rfl
      revert hws
      decide
    have hkey : keyParts (.char c) = [[c]] := by
      change (if c = '+' then [[], []] else [if c = ' ' then _ else [c]]) = _
      rw [if_neg hplus, if_neg hspace]
    have hlength : ∀ e ∈ modifierTokens, e.1.toList.length ≠ 1 := by decide
    have htoken : parseModifierToken [c] = none :=
      lookupText_eq_none_of_forall fun e he heq =>
        hlength e he ((congrArg List.length heq).trans (length_lowercase [c]))
    have hnames : ∀ e ∈ keyNames, e.1.toList.length ≠ 1 ∨ e.1.toList = [' '] := by decide
    have hname : lookupText keyNames (lowercase [c]) = none := by
      apply lookupText_eq_none_of_forall
      intro e he heq
      rcases hnames e he with hlong | hblank
      · exact hlong ((congrArg List.length heq).trans (length_lowercase [c]))
      · rw [hblank] at heq
        have hblank := lowercaseChar_eq_blank (List.cons.inj heq).1.symm
        exact hspace hblank
    refine ⟨m, [c], ?_, ?_⟩
    · rw [if_neg (fun h => nomatch h), hkey]
      exact comboParts_key (trim_of_forall fun d hd => by rwa [List.mem_singleton.mp hd])
        (List.cons_ne_nil _ _) htoken m
    · unfold keyOfText
      dsimp only
      rw [if_neg (fun heq => by cases congrArg List.length heq), hname]
      change (if c.isUpper = true then _ else _) = _
      rw [hupper]
      rfl
  | f n _ hn =>
    have hlower : lowercase ('f' :: Nat.toDigits 10 n) = 'f' :: Nat.toDigits 10 n := by
      change lowercaseChar 'f' :: lowercase (Nat.toDigits 10 n) = _
      rw [lowercase_of_digits fun c hc => isDigit_of_mem_decimal hc]
      rfl
    have htokens : ∀ e ∈ modifierTokens, e.1.toList.head? ≠ some 'f' := by decide
    have hnames : ∀ e ∈ keyNames, e.1.toList.head? ≠ some 'f' := by decide
    have htoken : parseModifierToken ('f' :: Nat.toDigits 10 n) = none := by
      apply lookupText_eq_none_of_forall
      intro e he heq
      rw [hlower] at heq
      exact htokens e he (congrArg List.head? heq)
    have hname : lookupText keyNames ('f' :: Nat.toDigits 10 n) = none :=
      lookupText_eq_none_of_forall fun e he heq => hnames e he (congrArg List.head? heq)
    have hsingle : singleKeyChar ('f' :: Nat.toDigits 10 n) = none := by
      obtain ⟨d, ds, hdigits⟩ := List.exists_cons_of_ne_nil (@Nat.toDigits_ne_nil n 10)
      rw [hdigits]
      rfl
    have hparts := keyParts_spec (ParsedKey.f n m hn) (List.mem_singleton_self _)
    refine ⟨m, 'f' :: Nat.toDigits 10 n, ?_, ?_⟩
    · rw [if_neg (fun h => nomatch h)]
      exact comboParts_key (trim_of_forall hparts.2.1) hparts.2.2.2 htoken m
    · unfold keyOfText
      dsimp only
      rw [hlower, if_neg (fun heq => absurd (List.cons.inj heq).1 (by decide)), hname]
      dsimp only
      rw [hsingle]
      change (parseUnsigned 255 (Nat.toDigits 10 n)).map _ = _
      rw [parseUnsigned_decimal hn]
      rfl

/-- The parts of the label of a parsed key or of the separator. -/
lemma keyParts_clean (h : ParsedKey code m ∨ code = .char '+') {l : List Char}
    (hl : l ∈ keyParts code) :
    '+' ∉ l ∧ (∀ c ∈ l, isWhitespace c = false) ∧ l ≠ "prefix".toList := by
  rcases h with h | rfl
  · obtain ⟨hplus, hws, hstart, -⟩ := keyParts_spec h hl
    exact ⟨hplus, hws, hstart⟩
  · have hnil : l = [] := by
      rcases List.mem_cons.mp hl with rfl | hl
      · rfl
      · exact List.mem_singleton.mp hl
    rw [hnil]
    exact ⟨List.not_mem_nil, fun c hc => absurd hc List.not_mem_nil, by decide⟩

lemma labelParts_clean (h : ParsedKey code m ∨ code = .char '+') {l : List Char}
    (hl : l ∈ modifierLabels macos code m ++ keyParts code) :
    '+' ∉ l ∧ (∀ c ∈ l, isWhitespace c = false) ∧ l ≠ "prefix".toList := by
  rcases List.mem_append.mp hl with hl | hl
  · obtain ⟨hplus, hws, hstart, -⟩ := modifierNames_spec (mem_modifierNames hl)
    exact ⟨hplus, hws, hstart⟩
  · exact keyParts_clean h hl

lemma splitOn_formatKeyCombo (h : ParsedKey code m ∨ code = .char '+') :
    (formatKeyCombo macos (code, m)).splitOn '+' = modifierLabels macos code m ++ keyParts code := by
  rw [formatKeyCombo_eq]
  apply List.splitOn_intercalate
  · exact fun l hl => (labelParts_clean h hl).1
  · intro hnil
    exact keyParts_ne_nil code (List.append_eq_nil_iff.mp hnil).2

/-- A parsed combination is read back from its label. -/
lemma parseKeyCombo_formatKeyCombo (macos : Bool) (h : ParsedKey code m)
    (hmeta : m.metaKey = false) :
    parseKeyCombo (formatKeyCombo macos (code, m)) = some (code, m) := by
  obtain ⟨mods, keyStr, hparts, hkey⟩ := comboParts_keyParts h
  unfold parseKeyCombo
  rw [splitOn_formatKeyCombo (Or.inl h), comboParts_modifierLabels macos code hmeta, hparts]
  simp only [Option.bind_eq_bind, Option.bind_some, hkey, Option.map_some,
    normalizeKeyCombo_of_parsedKey h]

lemma nil_mem_splitOn_plus (macos : Bool) (m : KeyModifiers) :
    [] ∈ (formatKeyCombo macos (.char '+', m)).splitOn '+' := by
  rw [splitOn_formatKeyCombo (Or.inr rfl)]
  exact List.mem_append_right _ List.mem_cons_self

/-- The label of the separator is not read. -/
lemma parseKeyCombo_plus (macos : Bool) (m : KeyModifiers) :
    parseKeyCombo (formatKeyCombo macos (.char '+', m)) = none := by
  unfold parseKeyCombo
  cases hparts : comboParts ((formatKeyCombo macos (.char '+', m)).splitOn '+') .empty none with
  | none => rfl
  | some result =>
    obtain ⟨mods, k⟩ := result
    obtain ⟨-, hall, -, -⟩ := comboParts_spec hparts
    exact absurd rfl (hall [] (nil_mem_splitOn_plus macos m)).1

/-! ### Bindings are read back from their labels -/

/-- A part that is neither the range nor a modifier. -/
lemma parseRangeModifiers_eq_none
    (h : ∃ part ∈ s.splitOn '+', trim part ≠ ['1', '.', '.', '9'] ∧
      parseModifierToken (trim part) = none) : parseRangeModifiers s = none := by
  obtain ⟨part, hpart, hrange, htoken⟩ := h
  obtain ⟨before, after, hsplit⟩ := List.append_of_mem hpart
  unfold parseRangeModifiers
  rw [hsplit, List.foldlM_append]
  cases (before.foldlM _ _ : Option (KeyModifiers × Bool)) with
  | none => rfl
  | some state =>
    simp only [Option.bind_eq_bind, Option.bind_some, List.foldlM_cons, if_neg hrange, htoken]
    rfl

lemma parseRangeModifiers_of_combo (h : parseKeyCombo s = some combo) :
    parseRangeModifiers s = none := by
  unfold parseKeyCombo at h
  obtain ⟨⟨mods, k⟩, hparts, h⟩ := Option.bind_eq_some_iff.mp h
  obtain ⟨keyStr, rfl, h⟩ := Option.bind_eq_some_iff.mp h
  obtain ⟨parsed, hkey, -⟩ := Option.map_eq_some_iff.mp h
  obtain ⟨-, -, -, hfound⟩ := comboParts_spec hparts
  obtain ⟨htoken, part, hpart, rfl⟩ := hfound rfl _ rfl
  refine parseRangeModifiers_eq_none ⟨part, hpart, ?_, htoken⟩
  intro heq
  rw [heq] at hkey
  cases hkey

lemma parseBindingBody_of_combo (h : parseKeyCombo s = some combo) :
    parseBindingBody macos p s = some (.single (labelledBinding macos p combo)) := by
  unfold parseBindingBody
  rw [parseRangeModifiers_of_combo h, h]
  rfl

lemma mem_intercalate {ls : List (List Char)} (hc : c ∈ ['+'].intercalate ls) :
    c = '+' ∨ ∃ l ∈ ls, c ∈ l := by
  induction ls with
  | nil => exact absurd hc List.not_mem_nil
  | cons l ls ih =>
    by_cases hne : ls = []
    · rw [hne, List.intercalate_singleton] at hc
      exact Or.inr ⟨l, List.mem_cons_self, hc⟩
    · rw [List.intercalate_cons_of_ne_nil hne, List.mem_append, List.mem_append] at hc
      rcases hc with (hc | hc) | hc
      · exact Or.inr ⟨l, List.mem_cons_self, hc⟩
      · exact Or.inl (List.mem_singleton.mp hc)
      · rcases ih hc with hplus | ⟨l', hl', hc⟩
        · exact Or.inl hplus
        · exact Or.inr ⟨l', List.mem_cons_of_mem _ hl', hc⟩

/-- A label has no blanks. -/
lemma isWhitespace_of_mem_label (h : ParsedKey code m ∨ code = .char '+')
    (hc : c ∈ formatKeyCombo macos (code, m)) : isWhitespace c = false := by
  rw [formatKeyCombo_eq] at hc
  rcases mem_intercalate hc with rfl | ⟨l, hl, hc⟩
  · decide
  · exact (labelParts_clean h hl).2.1 c hc

lemma stripPrefix_eq_some {p rest : List Char} (h : stripPrefix p s = some rest) :
    s = p ++ rest := by
  unfold stripPrefix at h
  split at h
  · next hstart =>
    obtain ⟨t, rfl⟩ := List.isPrefixOf_iff_prefix.mp hstart
    rw [← Option.some.inj h, List.drop_left]
  · cases h

lemma splitOn_triggerPrefix (rest : List Char) :
    (triggerPrefix ++ rest).splitOn '+' = "prefix".toList :: rest.splitOn '+' := by
  have hstart : triggerPrefix ++ rest = "prefix".toList ++ '+' :: rest := rfl
  rw [hstart, List.splitOn_append_cons_self_of_not_mem (by decide)]

lemma stripPrefix_label (h : ParsedKey code m ∨ code = .char '+') :
    stripPrefix triggerPrefix (formatKeyCombo macos (code, m)) = none := by
  cases hstrip : stripPrefix triggerPrefix (formatKeyCombo macos (code, m)) with
  | none => rfl
  | some rest =>
    have hsplit : (formatKeyCombo macos (code, m)).splitOn '+' =
        modifierLabels macos code m ++ keyParts code := splitOn_formatKeyCombo h
    rw [stripPrefix_eq_some hstrip, splitOn_triggerPrefix] at hsplit
    have hmem : "prefix".toList ∈ modifierLabels macos code m ++ keyParts code := by
      rw [← hsplit]
      exact List.mem_cons_self
    exact absurd rfl (labelParts_clean h hmem).2.2

/-- The parser on a label sees the trigger and the combination. -/
lemma splitTrigger_label (h : ParsedKey code m ∨ code = .char '+') (p : Bool) :
    splitTrigger (trim (triggerLabel p (formatKeyCombo macos (code, m)))) =
      (p, formatKeyCombo macos (code, m)) := by
  have hws : ∀ c ∈ formatKeyCombo macos (code, m), isWhitespace c = false :=
    fun c hc => isWhitespace_of_mem_label h hc
  have hstart : ∀ c ∈ triggerPrefix, isWhitespace c = false := by
    have hall : (triggerPrefix.all fun c => !isWhitespace c) = true := by decide
    simpa using hall
  unfold splitTrigger triggerLabel
  cases p with
  | false =>
    rw [if_neg Bool.false_ne_true, trim_of_forall hws, stripPrefix_label h]
  | true =>
    have htrim : trim (triggerPrefix ++ formatKeyCombo macos (code, m)) =
        triggerPrefix ++ formatKeyCombo macos (code, m) := by
      apply trim_of_forall
      intro c hc
      rcases List.mem_append.mp hc with hc | hc
      · exact hstart c hc
      · exact hws c hc
    rw [if_pos rfl, htrim, stripPrefix_append]

lemma parseBindingString_label (h : ParsedKey code m ∨ code = .char '+')
    (hrange : parseRangeModifiers (formatKeyCombo macos (code, m)) = none) (p : Bool) :
    parseBindingString macos (triggerLabel p (formatKeyCombo macos (code, m))) =
      (parseKeyCombo (formatKeyCombo macos (code, m))).map fun combo =>
        .single (labelledBinding macos p combo) := by
  unfold parseBindingString
  dsimp only
  rw [splitTrigger_label h]
  unfold parseBindingBody
  dsimp only
  rw [hrange]

/-- The label of a parsed combination is read as its binding. -/
lemma parseBindingString_labelled (macos p : Bool) (h : ParsedKey code m)
    (hmeta : m.metaKey = false) :
    parseBindingString macos (triggerLabel p (formatKeyCombo macos (code, m))) =
      some (.single (labelledBinding macos p (code, m))) := by
  have hcombo := parseKeyCombo_formatKeyCombo macos h hmeta
  rw [parseBindingString_label (Or.inl h) (parseRangeModifiers_of_combo hcombo), hcombo]
  rfl

lemma parseBindingString_plus (macos p : Bool) (m : KeyModifiers) :
    parseBindingString macos (triggerLabel p (formatKeyCombo macos (.char '+', m))) = none := by
  have hrange : parseRangeModifiers (formatKeyCombo macos (.char '+', m)) = none :=
    parseRangeModifiers_eq_none ⟨[], nil_mem_splitOn_plus macos m, by decide, by decide⟩
  rw [parseBindingString_label (Or.inr rfl) hrange, parseKeyCombo_plus]
  rfl

end

/-! ### What the parser and the registry write -/

def ParsedBinding.bindings : ParsedBinding → List ResolvedBinding
  | .single binding => [binding]
  | .range bindings => bindings

/-- The suggestion to require the prefix is read as the combination behind the prefix. -/
def SuggestionReadsBack (macos : Bool) (binding : ResolvedBinding) : Prop :=
  ∀ field registry source reports label suggestion,
    rejectBinding field binding registry source = some reports →
      KeybindDiagnostic.unsafeDirect field label suggestion ∈ reports →
        ∃ read, parseBindingString macos suggestion = some (.single read) ∧
          read.trigger = .prefixed binding.trigger.combo

structure LabelsReadBack (macos : Bool) (parsed : ParsedBinding) : Prop where
  labels : ∀ binding ∈ parsed.bindings,
    parseBindingString macos binding.label = some (.single binding)
  suggestions : ∀ binding ∈ parsed.bindings, SuggestionReadsBack macos binding

section
variable {s raw configured : List Char} {m : KeyModifiers} {combo : KeyCombo} {code : KeyCode}
  {macos : Bool} {parsed : ParsedBinding} {binding : ResolvedBinding} {digit : Char}

/-- The only suggestion is the label of a direct binding behind the prefix. -/
lemma suggestion_of_rejectBinding {field : String} {registry : BindingRegistry}
    {source : BindingSource} {reports : List KeybindDiagnostic} {label suggestion : List Char}
    (h : rejectBinding field binding registry source = some reports)
    (hmem : KeybindDiagnostic.unsafeDirect field label suggestion ∈ reports) :
    suggestion = triggerPrefix ++ binding.label ∧
      binding.trigger = .direct binding.trigger.combo := by
  unfold rejectBinding at h
  split at h
  · split at h
    · rw [← Option.some.inj h] at hmem
      exact absurd hmem List.not_mem_nil
    · rw [← Option.some.inj h] at hmem
      cases List.mem_singleton.mp hmem
  cases hconflict : rejectConflict registry field binding source with
  | some diagnostics =>
    rw [hconflict] at h
    obtain rfl := Option.some.inj h
    obtain ⟨first, -, rfl⟩ := Option.map_eq_some_iff.mp hconflict
    split at hmem
    · exact absurd hmem List.not_mem_nil
    · cases List.mem_singleton.mp hmem
  | none =>
    rw [hconflict] at h
    dsimp only at h
    split at h
    · next hdirect =>
      rw [← Option.some.inj h] at hmem
      refine ⟨(KeybindDiagnostic.unsafeDirect.inj (List.mem_singleton.mp hmem)).2.2, ?_⟩
      have hisDirect := (Bool.and_eq_true_iff.mp hdirect).1
      cases htrigger : binding.trigger with
      | direct combo => rfl
      | prefixed combo =>
        rw [htrigger] at hisDirect
        cases hisDirect
    · cases h

/-- A binding under the label of a parsed combination is read back, and so is its suggestion. -/
lemma labelledBinding_readsBack (macos p : Bool) (h : ParsedKey code m)
    (hmeta : m.metaKey = false) :
    parseBindingString macos (labelledBinding macos p (code, m)).label =
        some (.single (labelledBinding macos p (code, m))) ∧
      SuggestionReadsBack macos (labelledBinding macos p (code, m)) := by
  refine ⟨parseBindingString_labelled macos p h hmeta, ?_⟩
  intro field registry source reports label suggestion hreject hmem
  obtain ⟨rfl, hdirect⟩ := suggestion_of_rejectBinding hreject hmem
  cases p with
  | true => cases hdirect
  | false => exact ⟨_, parseBindingString_labelled macos true h hmeta, rfl⟩

lemma mem_tokens_iff : NamesPlus s ↔ ∃ t ∈ tokens isWhitespace '+' s,
    lowercase t = "plus".toList := by
  unfold NamesPlus tokens
  constructor
  · rintro ⟨part, hpart, heq⟩
    exact ⟨trim part, List.mem_map_of_mem hpart, heq⟩
  · rintro ⟨t, ht, heq⟩
    obtain ⟨part, hpart, rfl⟩ := List.mem_map.mp ht
    exact ⟨part, hpart, heq⟩

/-- The name of the separator is in the text if it is behind the trigger. -/
lemma namesPlus_splitTrigger (raw : List Char) :
    NamesPlus (splitTrigger (trim raw)).2 ↔ NamesPlus raw := by
  have htrim : NamesPlus (trim raw) ↔ NamesPlus raw := by
    have htokens : tokens isWhitespace '+' (trim raw) = tokens isWhitespace '+' raw :=
      tokens_trimBy (by decide) raw
    rw [mem_tokens_iff, mem_tokens_iff, htokens]
  rw [← htrim]
  unfold splitTrigger
  cases hstrip : stripPrefix triggerPrefix (trim raw) with
  | none => rfl
  | some rest =>
    rw [stripPrefix_eq_some hstrip]
    unfold NamesPlus
    rw [splitOn_triggerPrefix]
    constructor
    · rintro ⟨part, hpart, heq⟩
      exact ⟨part, List.mem_cons_of_mem _ hpart, heq⟩
    · rintro ⟨part, hpart, heq⟩
      rcases List.mem_cons.mp hpart with rfl | hpart
      · exact absurd heq (by decide)
      · exact ⟨part, hpart, heq⟩

lemma foldlM_invariant {α β : Type} {f : β → α → Option β} (P : β → Prop)
    (hstep : ∀ b a b', P b → f b a = some b' → P b') {xs : List α} {b b' : β} (hb : P b)
    (h : xs.foldlM f b = some b') : P b' := by
  induction xs generalizing b with
  | nil => exact Option.some.inj h ▸ hb
  | cons a xs ih =>
    obtain ⟨next, hnext, hrest⟩ := Option.bind_eq_some_iff.mp h
    exact ih (hstep b a next hb hnext) hrest

/-- A range names no separator and has modifiers without Meta. -/
lemma parseRangeModifiers_spec (h : parseRangeModifiers s = some m) :
    ¬NamesPlus s ∧ m.metaKey = false := by
  refine ⟨?_, ?_⟩
  · rintro ⟨part, hpart, heq⟩
    have hnone : parseRangeModifiers s = none := by
      refine parseRangeModifiers_eq_none ⟨part, hpart, ?_, ?_⟩
      · intro hrange
        rw [hrange] at heq
        exact absurd heq (by decide)
      · unfold parseModifierToken
        rw [heq]
        decide
    rw [hnone] at h
    cases h
  · unfold parseRangeModifiers at h
    obtain ⟨⟨mods, sawRange⟩, hfold, h⟩ := Option.bind_eq_some_iff.mp h
    have hmods : mods.metaKey = false := by
      refine foldlM_invariant (fun state : KeyModifiers × Bool => state.1.metaKey = false)
        (fun state part state' hstate hstep => ?_) rfl hfold
      dsimp only at hstep
      split at hstep
      · split at hstep
        · cases hstep
        · rw [← Option.some.inj hstep]
          exact hstate
      · obtain ⟨token, htoken, rfl⟩ := Option.map_eq_some_iff.mp hstep
        change (state.1.metaKey || token.metaKey) = false
        rw [hstate, metaKey_of_parseModifierToken htoken]
        rfl
    dsimp only at h
    split at h
    · rw [← Option.some.inj h]
      exact hmods
    · cases h

/-- Labels and suggestions are read back unless the text names the separator. -/
lemma labelsReadBack_iff (h : parseBindingString macos raw = some parsed) :
    LabelsReadBack macos parsed ↔ ¬NamesPlus raw := by
  rw [← namesPlus_splitTrigger raw]
  unfold parseBindingString parseBindingBody at h
  dsimp only at h
  generalize splitTrigger (trim raw) = trigger at h ⊢
  obtain ⟨p, body⟩ := trigger
  dsimp only at h ⊢
  cases hrange : parseRangeModifiers body with
  | some rangeModifiers =>
    rw [hrange] at h
    obtain rfl := Option.some.inj h
    obtain ⟨hplus, hmeta⟩ := parseRangeModifiers_spec hrange
    refine ⟨fun _ => hplus, fun _ => ?_⟩
    have hdigits : (digitKeys.all fun c => !isWhitespace c && c != '+' && !c.isUpper) = true := by
      decide
    have hread : ∀ binding ∈ (ParsedBinding.range (digitKeys.map fun digit =>
        labelledBinding macos p (.char digit, rangeModifiers))).bindings,
        parseBindingString macos binding.label = some (.single binding) ∧
          SuggestionReadsBack macos binding := by
      intro binding hbinding
      obtain ⟨digit, hdigit, rfl⟩ := List.mem_map.mp hbinding
      have hchar := List.all_eq_true.mp hdigits digit hdigit
      simp only [Bool.and_eq_true, Bool.not_eq_true', bne_iff_ne] at hchar
      obtain ⟨⟨hws, hne⟩, hupper⟩ := hchar
      exact labelledBinding_readsBack macos p (.char digit rangeModifiers hws hne hupper) hmeta
    exact ⟨fun b hb => (hread b hb).1, fun b hb => (hread b hb).2⟩
  | none =>
    rw [hrange] at h
    obtain ⟨combo, hcombo, rfl⟩ := Option.map_eq_some_iff.mp h
    obtain ⟨code, m⟩ := combo
    obtain ⟨hmeta, ⟨hplus, hparsed⟩ | ⟨hplus, hcode⟩⟩ := parseKeyCombo_spec hcombo
    · refine ⟨fun _ => hplus, fun _ => ?_⟩
      obtain ⟨hlabel, hsuggestion⟩ := labelledBinding_readsBack macos p hparsed hmeta
      constructor
      · intro b hb
        rw [List.mem_singleton.mp hb]
        exact hlabel
      · intro b hb
        rw [List.mem_singleton.mp hb]
        exact hsuggestion
    · obtain rfl : code = .char '+' := hcode
      refine ⟨fun hread => ?_, fun hnot => absurd hplus hnot⟩
      have hlabel := hread.labels _ (List.mem_singleton_self _)
      change parseBindingString macos (triggerLabel p (formatKeyCombo macos (.char '+', m))) = _
        at hlabel
      rw [parseBindingString_plus] at hlabel
      cases hlabel

/-! ### Entries of the indexed keys -/

/-- The modifiers of a trimmed part are added. -/
def addModifier (modifiers : KeyModifiers) (token : List Char) : Option KeyModifiers :=
  if token.isEmpty then none else (parseModifierToken token).map modifiers.union

lemma foldlM_tokens (s : List Char) (m₀ : KeyModifiers) :
    (s.splitOn '+').foldlM (fun modifiers part => addModifier modifiers (trim part)) m₀ =
      (tokens isWhitespace '+' s).foldlM addModifier m₀ := by
  unfold tokens
  rw [List.foldlM_map]
  rfl

lemma comboParts_append_of_foldlM {parts rest : List (List Char)} {m₀ : KeyModifiers}
    (h : parts.foldlM (fun modifiers part => addModifier modifiers (trim part)) m₀ = some m) :
    comboParts (parts ++ rest) m₀ none = comboParts rest m none := by
  induction parts generalizing m₀ with
  | nil =>
    obtain rfl := Option.some.inj h
    rfl
  | cons part parts ih =>
    obtain ⟨next, hnext, hrest⟩ := Option.bind_eq_some_iff.mp h
    unfold addModifier at hnext
    dsimp only at hnext
    split at hnext
    · cases hnext
    · next hne =>
      obtain ⟨token, htoken, rfl⟩ := Option.map_eq_some_iff.mp hnext
      rw [List.cons_append, comboParts, if_neg hne, htoken]
      exact ih hrest

/-- The digit behind a list of modifiers is read with them. -/
lemma parseKeyCombo_legacyLabel (h : parseModifierCombo configured = some m)
    (hdigit : digit ∈ digitKeys) :
    parseKeyCombo (trim configured ++ ['+', digit]) = some (.char digit, m) := by
  unfold parseModifierCombo at h
  obtain ⟨mods, hfold, h⟩ := Option.bind_eq_some_iff.mp h
  split at h
  · cases h
  obtain rfl := Option.some.inj h
  have htrimmed : ((trim configured).splitOn '+').foldlM
      (fun modifiers part => addModifier modifiers (trim part)) .empty = some mods := by
    have htokens : tokens isWhitespace '+' (trim configured) = tokens isWhitespace '+' configured :=
      tokens_trimBy (by decide) configured
    rw [foldlM_tokens, htokens, ← foldlM_tokens]
    exact hfold
  have hdigits : (digitKeys.all fun c => decide (c ≠ '+' ∧ trim [c] = [c] ∧
      parseModifierToken [c] = none ∧ lowercase [c] ≠ ['t', 'a', 'b'] ∧
      lookupText keyNames (lowercase [c]) = none ∧ c.isUpper = false)) = true := by decide
  obtain ⟨hplus, htrim, htoken, htab, hname, hupper⟩ :=
    of_decide_eq_true (List.all_eq_true.mp hdigits digit hdigit)
  have hsplit : (trim configured ++ ['+', digit]).splitOn '+' =
      (trim configured).splitOn '+' ++ [[digit]] := by
    have hsingle : [digit].splitOn '+' = [[digit]] :=
      List.splitOn_eq_singleton fun hmem => hplus (List.mem_singleton.mp hmem).symm
    rw [List.splitOn_append_cons_self, hsingle]
  have hkey : keyOfText [digit] mods = some (.char digit, mods) := by
    unfold keyOfText
    dsimp only
    rw [if_neg htab, hname]
    change (if digit.isUpper = true then _ else _) = _
    rw [hupper]
    rfl
  unfold parseKeyCombo
  rw [hsplit, comboParts_append_of_foldlM htrimmed,
    comboParts_key htrim (List.cons_ne_nil _ _) htoken]
  simp only [Option.bind_eq_bind, Option.bind_some, hkey, Option.map_some]
  rfl

/-- The suggestion for an entry of the indexed keys is read back. -/
lemma legacyIndexedBinding_readsBack (macos : Bool) (h : parseModifierCombo configured = some m)
    (hdigit : digit ∈ digitKeys) :
    SuggestionReadsBack macos (legacyIndexedBinding configured m digit) := by
  intro field registry source reports label suggestion hreject hmem
  obtain ⟨rfl, -⟩ := suggestion_of_rejectBinding hreject hmem
  have hcombo := parseKeyCombo_legacyLabel h hdigit
  have hws : isWhitespace digit = false := by
    have hall : (digitKeys.all fun c => !isWhitespace c) = true := by decide
    simpa using List.all_eq_true.mp hall digit hdigit
  have htrim : trim (triggerPrefix ++ (legacyIndexedBinding configured m digit).label) =
      triggerPrefix ++ (legacyIndexedBinding configured m digit).label := by
    apply trimBy_of_ends
    · intro c hc
      rw [← Option.some.inj hc]
      decide
    · intro c hc
      have hlabel : triggerPrefix ++ (legacyIndexedBinding configured m digit).label =
          (triggerPrefix ++ trim configured ++ ['+']) ++ [digit] := by
        unfold legacyIndexedBinding
        simp
      rw [hlabel, List.getLast?_concat] at hc
      rw [← Option.some.inj hc]
      exact hws
  refine ⟨labelledBinding macos true (.char digit, m), ?_, rfl⟩
  unfold parseBindingString splitTrigger
  dsimp only
  rw [htrim, stripPrefix_append]
  dsimp only
  exact parseBindingBody_of_combo hcombo

/-- A combination is read back from its label, a binding from the label that names it and from the
suggestion to require the prefix, exactly where the text does not name the key `plus`. -/
theorem keyLabels_readBack (macos : Bool) :
    (∀ s combo, parseKeyCombo s = some combo →
      (parseKeyCombo (formatKeyCombo macos combo) = some combo ↔ ¬NamesPlus s)) ∧
    (∀ raw parsed, parseBindingString macos raw = some parsed →
      (LabelsReadBack macos parsed ↔ ¬NamesPlus raw)) ∧
    (∀ configured m, parseModifierCombo configured = some m → ∀ digit ∈ digitKeys,
      SuggestionReadsBack macos (legacyIndexedBinding configured m digit)) := by
  refine ⟨fun s combo h => ?_, fun raw parsed h => labelsReadBack_iff h,
    fun configured m h digit hdigit => legacyIndexedBinding_readsBack macos h hdigit⟩
  obtain ⟨code, m⟩ := combo
  obtain ⟨hmeta, ⟨hplus, hparsed⟩ | ⟨hplus, hcode⟩⟩ := parseKeyCombo_spec h
  · exact ⟨fun _ => hplus, fun _ => parseKeyCombo_formatKeyCombo macos hparsed hmeta⟩
  · obtain rfl : code = .char '+' := hcode
    refine ⟨fun hread => ?_, fun hnot => absurd hplus hnot⟩
    rw [parseKeyCombo_plus] at hread
    cases hread

/-- `prefix+plus` is accepted, and its label `prefix++` is not read. -/
theorem keyLabels_plus :
    parseKeyCombo "plus".toList = some (.char '+', .empty) ∧
      parseKeyCombo (formatKeyCombo false (.char '+', .empty)) = none ∧
      parseBindingString false "prefix+plus".toList =
        some (.single ⟨.prefixed (.char '+', .empty), "prefix++".toList⟩) ∧
      parseBindingString false "prefix++".toList = none := by decide +kernel

end

end Ork3.Input
