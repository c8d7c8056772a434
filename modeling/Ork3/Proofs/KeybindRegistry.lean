import Ork3.Proofs.KeyLabels

/-!
# Registered key bindings

Conflicts are found by the normalised combination, and events are matched by a wider relation. The
two agree but for punctuation with Shift, for the symbols of the digits without it and for the
shifted codepoint of another key. For all other events one trigger kind belongs to one owner, within
the actions and within the navigate keys.
-/

namespace Ork3.Input

open Ork3.Library Ork3.Terminal

/-! ### Events and combinations -/

/-- The event is no shifted punctuation with Shift, and shows no shifted codepoint but a capital
letter. -/
def PlainKey (key : TerminalKey) : Prop :=
  (∀ c, key.code = .char c → key.modifiers.shift = true → isShiftedPunctuation c = false) ∧
    ∀ e, key.shiftedCodepoint.bind charFromU32 = some e → e.isUpper = true

/-- The digit whose symbol with Shift the event is. -/
def digitOfSymbol (key : TerminalKey) : Option Char :=
  match key.code with
  | .char c => shiftedNumberSymbol c
  | _ => none

/-- No capital letter is the key of a combination. -/
def NoCapital (combo : KeyCombo) : Prop := ∀ c, combo.1 = .char c → c.isUpper = false

/-- A capital letter is the letter with Shift. -/
def foldCapital : KeyCombo → KeyCombo
  | (.char c, modifiers) =>
    if c.isUpper then (.char c.toLower, modifiers.union .SHIFT) else (.char c, modifiers)
  | combo => combo

section
variable {key : TerminalKey} {combo : KeyCombo} {c e : Char} {actual expected : KeyCode}
  {m n : KeyModifiers} {shifted : Option Nat}

lemma normalizeKeyCombo_char (c : Char) (m : KeyModifiers) :
    normalizeKeyCombo (.char c, m) = (.char c, m) := rfl

lemma normalizeKeyCombo_eq_char (h : (normalizeKeyCombo combo).1 = .char c) :
    normalizeKeyCombo combo = combo := by
  obtain ⟨code, m⟩ := combo
  cases code with
  | tab =>
    unfold normalizeKeyCombo at h
    dsimp only at h
    split at h <;> cases h
  | backTab => cases h
  | _ => rfl

lemma NoCapital.normalize (h : NoCapital combo) : NoCapital (normalizeKeyCombo combo) := by
  intro c hc
  rw [normalizeKeyCombo_eq_char hc] at hc
  exact h c hc

/-- Only shifted punctuation and the shifted codepoint are matched for a shifted key. -/
lemma shiftedCharMatchesExpected_iff : shiftedCharMatchesExpected actual shifted expected = true ↔
    ∃ e, expected = .char e ∧ (shifted.bind charFromU32 = some e ∨
      (actual = .char e ∧ isShiftedPunctuation e = true)) := by
  unfold shiftedCharMatchesExpected
  split
  · next e =>
    simp only [Bool.or_eq_true, Bool.and_eq_true, decide_eq_true_eq]
    constructor
    · intro h
      exact ⟨e, rfl, h⟩
    · rintro ⟨e', heq, h⟩
      cases heq
      exact h
  · next hne =>
    constructor
    · intro h
      cases h
    · rintro ⟨e, heq, -⟩
      exact absurd heq (hne e)

/-- The shifted side of a plain event matches its own punctuation only. -/
lemma shiftedCharMatchesExpected_plain
    (hshifted : ∀ e, shifted.bind charFromU32 = some e → e.isUpper = true)
    (hexpected : ∀ c, expected = .char c → c.isUpper = false)
    (h : shiftedCharMatchesExpected actual shifted expected = true) :
    actual = expected ∧ ∃ e, actual = .char e ∧ isShiftedPunctuation e = true := by
  obtain ⟨e, rfl, hcodepoint | ⟨rfl, hpunct⟩⟩ := shiftedCharMatchesExpected_iff.mp h
  · have hupper := hshifted e hcodepoint
    rw [hexpected e rfl] at hupper
    cases hupper
  · exact ⟨rfl, e, rfl, hpunct⟩

lemma union_shift_of_shift (h : m.shift = true) : m.union .SHIFT = m := by
  obtain ⟨shift, alt, control, super, hyper, metaKey⟩ := m
  obtain rfl : shift = true := h
  revert alt control super hyper metaKey
  decide

/-- The key that a plain event and a combination agree on. -/
lemma keyCodesMatch_plain
    (hshifted : ∀ e, shifted.bind charFromU32 = some e → e.isUpper = true)
    (hexpected : ∀ c, expected = .char c → c.isUpper = false)
    (h : keyCodesMatch actual m expected m shifted = true) :
    (expected, m) = foldCapital (actual, m) := by
  have hside (h : shiftedCharMatchesExpected actual shifted expected = true) :=
    shiftedCharMatchesExpected_plain hshifted hexpected h
  unfold keyCodesMatch at h
  split at h
  · next a e =>
    have he := hexpected e rfl
    have hsame (heq : a = e) : (KeyCode.char e, m) = foldCapital (.char a, m) := by
      rw [heq]
      unfold foldCapital
      dsimp only
      rw [he]
      rfl
    split at h
    · rw [Bool.or_eq_true, decide_eq_true_eq, Bool.and_eq_true, Bool.and_eq_true,
        decide_eq_true_eq] at h
      rcases h with heq | ⟨⟨hshift, -⟩, hlower⟩
      · exact hsame heq
      · have he' : e.toLower = e := Char.toLower_eq_of_not_isUpper (by simp [he])
        rw [he'] at hlower
        by_cases ha : a.isUpper = true
        · unfold foldCapital
          dsimp only
          rw [if_pos ha, hlower, union_shift_of_shift hshift]
        · apply hsame
          rw [← hlower, Char.toLower_eq_of_not_isUpper ha]
    · rw [Bool.or_eq_true, decide_eq_true_eq] at h
      rcases h with heq | hshape
      · exact hsame heq
      · exact hsame (KeyCode.char.inj (hside hshape).1)
  · next hne =>
    obtain rfl := of_decide_eq_true h
    unfold foldCapital
    split
    · next a m' heq =>
      obtain ⟨rfl, rfl⟩ := Prod.mk.inj heq
      exact absurd rfl (hne a a rfl)
    · rfl

/-- A plain event matches one normalised combination at most. -/
lemma terminalKeyMatchesCombo_plain (hplain : PlainKey key) (hcombo : NoCapital combo)
    (h : terminalKeyMatchesCombo key combo = true) :
    normalizeKeyCombo combo = foldCapital (normalizeKeyCombo (key.code, key.modifiers)) := by
  have hexpected := hcombo.normalize
  have hpunctuation : ∀ c, (normalizeKeyCombo (key.code, key.modifiers)).1 = .char c →
      (normalizeKeyCombo (key.code, key.modifiers)).2.shift = true →
        isShiftedPunctuation c = false := by
    intro c hc hshift
    have hnormal := normalizeKeyCombo_eq_char hc
    rw [hnormal] at hc hshift
    exact hplain.1 c hc hshift
  unfold terminalKeyMatchesCombo keyPartsMatchCombo at h
  generalize normalizeKeyCombo (key.code, key.modifiers) = actual at h hpunctuation ⊢
  unfold NoCapital at hexpected
  generalize normalizeKeyCombo combo = expected at h hexpected ⊢
  obtain ⟨actualCode, actualModifiers⟩ := actual
  obtain ⟨expectedCode, expectedModifiers⟩ := expected
  have hside (h : shiftedCharMatchesExpected actualCode key.shiftedCodepoint expectedCode = true) :=
    shiftedCharMatchesExpected_plain hplain.2 hexpected h
  dsimp only at h hside hpunctuation
  split at h
  · next hsame =>
    rw [Bool.and_eq_true, decide_eq_true_eq] at hsame
    obtain ⟨rfl, hcodes⟩ := hsame
    exact keyCodesMatch_plain hplain.2 hexpected hcodes
  · rw [Bool.or_eq_true, Bool.and_eq_true, Bool.and_eq_true] at h
    replace h := h.resolve_left fun hshifted => by
      obtain ⟨⟨hshift, -⟩, hshape⟩ := hshifted
      obtain ⟨-, e, he, hpunct⟩ := hside hshape
      rw [hpunctuation e he hshift] at hpunct
      cases hpunct
    unfold legacyShiftedAsciiLetterMatches at h
    split at h
    · cases h
    · split at h
      · next a e =>
        simp only [Bool.and_eq_true, decide_eq_true_eq] at h
        obtain ⟨⟨⟨ha, -⟩, hlower⟩, hmodifiers⟩ := h
        unfold foldCapital
        dsimp only
        rw [if_pos ha, hlower, hmodifiers]
      · cases h

lemma union_shift_withoutShift (h : m.shift = true) : m.withoutShift.union .SHIFT = m := by
  obtain ⟨shift, alt, control, super, hyper, metaKey⟩ := m
  obtain rfl : shift = true := h
  revert alt control super hyper metaKey
  decide

/-- The combination that an indexed binding must have to take an index from a plain event. -/
def indexedCombo (key : TerminalKey) : KeyCombo :=
  match digitOfSymbol key with
  | some number => (.char number, key.modifiers.union .SHIFT)
  | none => foldCapital (normalizeKeyCombo (key.code, key.modifiers))

lemma digitOfSymbol_of_digit (hcode : key.code = .char c) (hdigit : '1' ≤ c ∧ c ≤ '9') :
    digitOfSymbol key = none := by
  have htable : ∀ e ∈ shiftedNumberSymbols, ¬('1' ≤ e.2 ∧ e.2 ≤ '9') := by decide
  unfold digitOfSymbol shiftedNumberSymbol
  rw [hcode]
  dsimp only
  rw [Option.map_eq_none_iff, List.find?_eq_none]
  intro e he heq
  have hsymbol := htable e he
  rw [of_decide_eq_true heq] at hsymbol
  exact hsymbol hdigit

/-- The symbol of a digit is matched with Shift, every other event as by other bindings. -/
lemma matchedIndex_plain {b : ResolvedBinding} (hplain : PlainKey key)
    (hcombo : NoCapital b.trigger.combo) (h : (b.matchedIndex key).isSome) :
    normalizeKeyCombo b.trigger.combo = indexedCombo key := by
  unfold ResolvedBinding.matchedIndex at h
  split at h
  · next c hc =>
    split at h
    · next hdigit =>
      split at h
      · next hmatch =>
        unfold indexedCombo
        rw [digitOfSymbol_of_digit hc hdigit]
        exact terminalKeyMatchesCombo_plain hplain hcombo hmatch
      · cases h
    · cases hsymbol : shiftedNumberSymbol c with
      | none =>
        rw [hsymbol] at h
        cases h
      | some number =>
        rw [hsymbol] at h
        dsimp only at h
        split at h
        · next hnumber =>
          unfold indexedShiftedNumberMatches at hnumber
          simp only [Bool.and_eq_true, decide_eq_true_eq] at hnumber
          obtain ⟨⟨hexpected, hshift⟩, hmods⟩ := hnumber
          have hdigit : digitOfSymbol key = some number := by
            unfold digitOfSymbol
            rw [hc]
            exact hsymbol
          unfold indexedCombo
          rw [hdigit, hmods]
          dsimp only
          rw [union_shift_withoutShift hshift, ← hexpected]
        · cases h
  · cases h

/-! ### Events that type a character -/

lemma isControl_of_isAlpha (h : e.isAlpha = true) : isControl e = false := by
  have hbounds : (65 ≤ e.toNat ∧ e.toNat ≤ 90) ∨ (97 ≤ e.toNat ∧ e.toNat ≤ 122) := by
    simpa [Char.isAlpha, Char.isUpper, Char.isLower, UInt32.le_iff_toNat_le] using h
  unfold isControl
  simp
  omega

/-- A combination that an event of a printable character matches has such a character itself. -/
lemma keyCodesMatch_char (h : keyCodesMatch (.char c) m expected n shifted = true) :
    ∃ e, expected = .char e ∧
      (e = c ∨ e.isAlpha = true ∨ shifted.bind charFromU32 = some e) := by
  unfold keyCodesMatch at h
  split at h
  · next a e heq =>
    obtain rfl := KeyCode.char.inj heq
    refine ⟨e, rfl, ?_⟩
    split at h
    · next halpha =>
      exact Or.inr (Or.inl (Bool.and_eq_true_iff.mp halpha).2)
    · rw [Bool.or_eq_true, decide_eq_true_eq, shiftedCharMatchesExpected_iff] at h
      rcases h with rfl | ⟨e', heq', hside | ⟨hcode, -⟩⟩
      · exact Or.inl rfl
      · rw [KeyCode.char.inj heq']
        exact Or.inr (Or.inr hside)
      · rw [KeyCode.char.inj heq', KeyCode.char.inj hcode]
        exact Or.inl rfl
  · next hne =>
    have heq := of_decide_eq_true h
    exact absurd heq.symm (hne c c rfl)

lemma withoutShift_withoutShift (m : KeyModifiers) :
    m.withoutShift.withoutShift = m.withoutShift := rfl

lemma withoutShift_union_shift (m : KeyModifiers) :
    (m.union .SHIFT).withoutShift = m.withoutShift := by
  obtain ⟨shift, alt, control, super, hyper, metaKey⟩ := m
  revert shift alt control super hyper metaKey
  decide

/-- An event that types a character is matched by printable combinations without modifiers. -/
lemma isUnmodifiedPrintable_of_match (hcode : key.code = .char c) (hprintable : isControl c = false)
    (hmodifiers : key.modifiers.withoutShift = .empty)
    (hshifted : ∀ d, key.shiftedCodepoint.bind charFromU32 = some d → isControl d = false)
    (h : terminalKeyMatchesCombo key combo = true) : isUnmodifiedPrintable combo = true := by
  have hgoal : ∃ e, (normalizeKeyCombo combo).1 = .char e ∧ isControl e = false ∧
      (normalizeKeyCombo combo).2.withoutShift = .empty := by
    unfold terminalKeyMatchesCombo keyPartsMatchCombo at h
    rw [hcode, normalizeKeyCombo_char] at h
    generalize normalizeKeyCombo combo = expected at h ⊢
    obtain ⟨expectedCode, expectedModifiers⟩ := expected
    dsimp only at h ⊢
    split at h
    · next hsame =>
      rw [Bool.and_eq_true, decide_eq_true_eq] at hsame
      obtain ⟨hmods, hcodes⟩ := hsame
      rw [← hmods]
      obtain ⟨e, he, rfl | halpha | hside⟩ := keyCodesMatch_char hcodes
      · exact ⟨e, he, hprintable, hmodifiers⟩
      · exact ⟨e, he, isControl_of_isAlpha halpha, hmodifiers⟩
      · exact ⟨e, he, hshifted e hside, hmodifiers⟩
    · rw [Bool.or_eq_true, Bool.and_eq_true, Bool.and_eq_true, decide_eq_true_eq] at h
      rcases h with ⟨⟨-, hmods⟩, hside⟩ | hlegacy
      · rw [← hmods, withoutShift_withoutShift]
        obtain ⟨e, he, hcodepoint | ⟨hsame, -⟩⟩ := shiftedCharMatchesExpected_iff.mp hside
        · exact ⟨e, he, hshifted e hcodepoint, hmodifiers⟩
        · rw [← KeyCode.char.inj hsame] at he
          exact ⟨c, he, hprintable, hmodifiers⟩
      · unfold legacyShiftedAsciiLetterMatches at hlegacy
        split at hlegacy
        · cases hlegacy
        · split at hlegacy
          · next a e _ _ =>
            simp only [Bool.and_eq_true, decide_eq_true_eq] at hlegacy
            obtain ⟨⟨⟨-, hlower⟩, -⟩, hmods⟩ := hlegacy
            refine ⟨e, rfl, isControl_of_isAlpha ?_, ?_⟩
            · unfold Char.isAlpha
              rw [hlower, Bool.or_true]
            · rw [← hmods, withoutShift_union_shift, hmodifiers]
          · cases hlegacy
  obtain ⟨e, he, hcontrol, hmods⟩ := hgoal
  have hnormal := normalizeKeyCombo_eq_char he
  rw [hnormal] at he hmods
  unfold isUnmodifiedPrintable
  rw [he]
  dsimp only
  rw [hcontrol, hmods]
  rfl

/-- The same for the symbol of a shifted digit that an indexed binding takes. -/
lemma isUnmodifiedPrintable_of_matchedIndex {b : ResolvedBinding} (hcode : key.code = .char c)
    (hprintable : isControl c = false) (hmodifiers : key.modifiers.withoutShift = .empty)
    (hshifted : ∀ d, key.shiftedCodepoint.bind charFromU32 = some d → isControl d = false)
    (h : (b.matchedIndex key).isSome) : isUnmodifiedPrintable b.trigger.combo = true := by
  unfold ResolvedBinding.matchedIndex at h
  rw [hcode] at h
  dsimp only at h
  split at h
  · split at h
    · next hmatch =>
      exact isUnmodifiedPrintable_of_match hcode hprintable hmodifiers hshifted hmatch
    · cases h
  · cases hsymbol : shiftedNumberSymbol c with
    | none =>
      rw [hsymbol] at h
      cases h
    | some number =>
      rw [hsymbol] at h
      dsimp only at h
      split at h
      · next hnumber =>
        unfold indexedShiftedNumberMatches at hnumber
        simp only [Bool.and_eq_true, decide_eq_true_eq] at hnumber
        obtain ⟨⟨hexpected, -⟩, hmods⟩ := hnumber
        have htable : ∀ e ∈ shiftedNumberSymbols, isControl e.1 = false := by decide
        have hcontrol : isControl number = false := by
          obtain ⟨e, he, rfl⟩ := Option.map_eq_some_iff.mp hsymbol
          exact htable e (List.mem_of_find?_eq_some he)
        rw [hmods, withoutShift_withoutShift, normalizeKeyCombo_eq_char hexpected] at hmodifiers
        rw [normalizeKeyCombo_eq_char hexpected] at hexpected
        unfold isUnmodifiedPrintable
        rw [hexpected]
        dsimp only
        rw [hcontrol, hmodifiers]
        rfl
      · cases h

end

/-! ### Claims of a field -/

/-- What a combination claims: the kind of its trigger and its normal form. -/
def claimOf (t : BindingTrigger) : Bool × KeyCombo := (t.isPrefixed, normalizeKeyCombo t.combo)

namespace BindingRegistry

/-- The claims that are entered in the registry. -/
def Holds (r : BindingRegistry) (claim : Bool × KeyCombo) : Prop :=
  ((if claim.1 then r.prefixed else r.direct).lookup claim.2).isSome

end BindingRegistry

section
variable {r : BindingRegistry} {b b' : ResolvedBinding} {field : String} {source : BindingSource}
  {claim : Bool × KeyCombo}

lemma holds_claimOf_iff : r.Holds (claimOf b.trigger) ↔ (r.conflict b).isSome := by
  unfold BindingRegistry.Holds BindingRegistry.conflict claimOf
  cases b.trigger <;> rfl

lemma lookup_cons_isSome {α β : Type} [BEq α] [LawfulBEq α] {a a' : α} {x : β} {l : List (α × β)} :
    (((a, x) :: l).lookup a').isSome ↔ a' = a ∨ (l.lookup a').isSome := by
  rw [List.lookup_cons]
  by_cases h : a' = a
  · simp [h]
  · have hbeq : (a' == a) = false := by simpa using h
    rw [hbeq]
    simp only [h, false_or]

/-- A registered binding is held, and nothing else changes. -/
lemma holds_register : (r.register b field source).Holds claim ↔
    claim = claimOf b.trigger ∨ r.Holds claim := by
  obtain ⟨prefixed, combo⟩ := claim
  unfold BindingRegistry.Holds BindingRegistry.register claimOf
  cases b.trigger with
  | direct c =>
    cases prefixed with
    | true =>
      simp [BindingTrigger.isPrefixed]
    | false =>
      rw [if_neg Bool.false_ne_true, if_neg Bool.false_ne_true]
      dsimp only
      rw [lookup_cons_isSome]
      simp [BindingTrigger.isPrefixed, BindingTrigger.combo]
  | prefixed c =>
    cases prefixed with
    | true =>
      rw [if_pos rfl, if_pos rfl]
      dsimp only
      rw [lookup_cons_isSome]
      simp [BindingTrigger.isPrefixed, BindingTrigger.combo]
    | false =>
      simp [BindingTrigger.isPrefixed]

lemma conflict_eq_none (h : rejectConflict r field b source = none) :
    ¬r.Holds (claimOf b.trigger) := by
  rw [holds_claimOf_iff, Option.map_eq_none_iff.mp h]
  exact fun h => nomatch h

/-- A direct binding that is kept does not intercept typing. -/
lemma rejectBinding_eq_none (h : rejectBinding field b r source = none) :
    ¬r.Holds (claimOf b.trigger) ∧
      (b.trigger.isDirect = true → isUnmodifiedPrintable b.trigger.combo = false) := by
  unfold rejectBinding at h
  split at h
  · split at h <;> cases h
  cases hconflict : rejectConflict r field b source with
  | some diagnostics =>
    rw [hconflict] at h
    cases h
  | none =>
    rw [hconflict] at h
    dsimp only at h
    split at h
    · cases h
    · next hsafe =>
      refine ⟨conflict_eq_none hconflict, fun hdirect => ?_⟩
      rw [hdirect, Bool.true_and] at hsafe
      exact Bool.eq_false_of_not_eq_true hsafe

lemma rejectNavigateBinding_eq_none (h : rejectNavigateBinding field b r source = none) :
    ¬r.Holds (claimOf b.trigger) := by
  unfold rejectNavigateBinding at h
  split at h
  · cases h
  split at h
  · cases h
  exact conflict_eq_none h

end

/-- Bindings were kept whose claims were free and are held now. -/
def Adds (good : ResolvedBinding → Prop) (s s' : FieldState) : Prop :=
  ∃ new, s'.bindings = s.bindings ++ new ∧
    (∀ b ∈ new, good b ∧ ¬s.registry.Holds (claimOf b.trigger) ∧
      s'.registry.Holds (claimOf b.trigger)) ∧
    ∀ claim, s.registry.Holds claim → s'.registry.Holds claim

section
variable {good : ResolvedBinding → Prop} {s s' s'' : FieldState} {b : ResolvedBinding}
  {field : String} {source : BindingSource} {macos : Bool} {raw configured : List Char}

lemma adds_report (s : FieldState) (ds : List KeybindDiagnostic) : Adds good s (s.report ds) :=
  ⟨[], (List.append_nil _).symm, fun _ hb => absurd hb List.not_mem_nil, fun _ h => h⟩

lemma adds_refl (s : FieldState) : Adds good s s :=
  ⟨[], (List.append_nil _).symm, fun _ hb => absurd hb List.not_mem_nil, fun _ h => h⟩

lemma Adds.trans (h : Adds good s s') (h' : Adds good s' s'') : Adds good s s'' := by
  obtain ⟨new, hbindings, hnew, hkept⟩ := h
  obtain ⟨new', hbindings', hnew', hkept'⟩ := h'
  refine ⟨new ++ new', ?_, ?_, fun claim hclaim => hkept' claim (hkept claim hclaim)⟩
  · rw [hbindings', hbindings, List.append_assoc]
  · intro b hb
    rcases List.mem_append.mp hb with hb | hb
    · obtain ⟨hgood, hfree, hheld⟩ := hnew b hb
      exact ⟨hgood, hfree, hkept' _ hheld⟩
    · obtain ⟨hgood, hfree, hheld⟩ := hnew' b hb
      exact ⟨hgood, fun hclaim => hfree (hkept _ hclaim), hheld⟩

lemma adds_claim {rejected : Option (List KeybindDiagnostic)}
    (h : rejected = none → good b ∧ ¬s.registry.Holds (claimOf b.trigger)) :
    Adds good s (s.claim field b source rejected) := by
  cases rejected with
  | some diagnostics => exact adds_report s diagnostics
  | none =>
    obtain ⟨hgood, hfree⟩ := h rfl
    refine ⟨[b], rfl, fun b' hb' => ?_, fun claim hclaim => holds_register.mpr (Or.inr hclaim)⟩
    rw [List.mem_singleton.mp hb']
    exact ⟨hgood, hfree, holds_register.mpr (Or.inl rfl)⟩

lemma adds_foldl {α : Type} {step : FieldState → α → FieldState} {xs : List α}
    (h : ∀ s, ∀ x ∈ xs, Adds good s (step s x)) (s : FieldState) :
    Adds good s (xs.foldl step s) := by
  induction xs generalizing s with
  | nil => exact adds_refl s
  | cons x xs ih =>
    exact (h s x List.mem_cons_self).trans
      (ih (fun s x hx => h s x (List.mem_cons_of_mem _ hx)) (step s x))

/-! ### The fields -/

def KeptNavigate (b : ResolvedBinding) : Prop := NoCapital b.trigger.combo

def KeptAction (b : ResolvedBinding) : Prop :=
  NoCapital b.trigger.combo ∧
    (b.trigger.isDirect = true → isUnmodifiedPrintable b.trigger.combo = false)

lemma noCapital_digit {digit : Char} (h : digit ∈ digitKeys) (m : KeyModifiers) :
    NoCapital (.char digit, m) := by
  have hall : (digitKeys.all fun c => !c.isUpper) = true := by decide
  intro c hc
  rw [← KeyCode.char.inj hc]
  simpa using List.all_eq_true.mp hall digit h

lemma noCapital_of_parsedKey {code : KeyCode} {m : KeyModifiers} (h : ParsedKey code m) :
    NoCapital (code, m) := by
  rintro c rfl
  cases h with
  | named _ _ hnamed =>
    have heq : KeyCode.char c = .char ' ' := by simpa using hnamed
    rw [KeyCode.char.inj heq]
    decide
  | char _ _ _ _ hupper => exact hupper

/-- No parsed binding is on a capital letter. -/
lemma noCapital_of_parseBindingString {parsed : ParsedBinding}
    (h : parseBindingString macos raw = some parsed) :
    ∀ b ∈ parsed.bindings, NoCapital b.trigger.combo := by
  have hlabelled (p : Bool) (combo : KeyCombo) :
      (labelledBinding macos p combo).trigger.combo = combo := by
    cases p <;> rfl
  unfold parseBindingString parseBindingBody at h
  dsimp only at h
  split at h
  · rw [← Option.some.inj h]
    intro b hb
    obtain ⟨digit, hdigit, rfl⟩ := List.mem_map.mp hb
    rw [hlabelled]
    exact noCapital_digit hdigit _
  · obtain ⟨combo, hcombo, rfl⟩ := Option.map_eq_some_iff.mp h
    intro b hb
    rw [List.mem_singleton.mp hb, hlabelled]
    obtain ⟨-, ⟨-, hparsed⟩ | ⟨-, hplus⟩⟩ := parseKeyCombo_spec hcombo
    · exact noCapital_of_parsedKey hparsed
    · intro c hc
      rw [hplus] at hc
      rw [← KeyCode.char.inj hc]
      decide

lemma adds_parseFieldBindings
    {reject : String → ResolvedBinding → BindingRegistry → BindingSource →
      Option (List KeybindDiagnostic)}
    (h : ∀ b r, NoCapital b.trigger.combo → reject field b r source = none →
      good b ∧ ¬r.Holds (claimOf b.trigger)) (config : BindingConfig) (s : FieldState) :
    Adds good s (parseFieldBindings macos reject field config source s) := by
  unfold parseFieldBindings
  apply adds_foldl
  intro s raw _
  dsimp only
  split
  · exact adds_refl s
  · cases hparsed : parseBindingString macos (trim raw) with
    | none => exact adds_report s _
    | some parsed =>
      cases parsed with
      | single b =>
        have hcapital := noCapital_of_parseBindingString hparsed b (List.mem_singleton_self b)
        exact adds_claim (h b s.registry hcapital)
      | range bs => exact adds_report s _

lemma keptAction_of_rejectBinding {r : BindingRegistry} (hcapital : NoCapital b.trigger.combo)
    (h : rejectBinding field b r source = none) :
    KeptAction b ∧ ¬r.Holds (claimOf b.trigger) := by
  obtain ⟨hfree, hsafe⟩ := rejectBinding_eq_none h
  exact ⟨⟨hcapital, hsafe⟩, hfree⟩

lemma adds_parseActionBindings (config : BindingConfig) (s : FieldState) :
    Adds KeptAction s (parseActionBindings macos field config source s) :=
  adds_parseFieldBindings (fun _ _ => keptAction_of_rejectBinding) config s

lemma adds_parseNavigateBindings (config : BindingConfig) (s : FieldState) :
    Adds KeptNavigate s (parseNavigateBindings macos field config source s) :=
  adds_parseFieldBindings (fun _ _ hcapital h => ⟨hcapital, rejectNavigateBinding_eq_none h⟩)
    config s

lemma adds_pushIndexedBinding (hcapital : NoCapital b.trigger.combo) (s : FieldState) :
    Adds KeptAction s (pushIndexedBinding field source s b) := by
  unfold pushIndexedBinding
  split
  · split
    · exact adds_claim (keptAction_of_rejectBinding hcapital)
    · exact adds_report s _
  · exact adds_report s _

lemma adds_parseIndexedBindings (config : BindingConfig) (s : FieldState) :
    Adds KeptAction s (parseIndexedBindings macos field config source s) := by
  unfold parseIndexedBindings
  apply adds_foldl
  intro s raw _
  dsimp only
  split
  · exact adds_refl s
  · cases hparsed : parseBindingString macos (trim raw) with
    | none => exact adds_report s _
    | some parsed =>
      have hcapital := noCapital_of_parseBindingString hparsed
      cases parsed with
      | single b => exact adds_pushIndexedBinding (hcapital b (List.mem_singleton_self b)) s
      | range bs => exact adds_foldl (fun s b hb => adds_pushIndexedBinding (hcapital b hb) s) s

lemma adds_appendLegacyIndexedBindings (s : FieldState) :
    Adds KeptAction s (appendLegacyIndexedBindings field configured source s) := by
  unfold appendLegacyIndexedBindings
  split
  · exact adds_refl s
  · cases parseModifierCombo configured with
    | none => exact adds_report s _
    | some m =>
      apply adds_foldl
      intro s digit hdigit
      exact adds_claim (keptAction_of_rejectBinding (noCapital_digit hdigit m))

end

/-! ### The owners of bindings -/

inductive KeyOwner where
  | field (field : KeyField)
  | command (index : Nat)
deriving DecidableEq

/-- The keys of navigate mode have a registry of their own. -/
def KeyOwner.isNavigate : KeyOwner → Bool
  | field (.navigate _) => true
  | _ => false

def KeyOwner.isIndexed : KeyOwner → Bool
  | field (.indexed _) => true
  | _ => false

def Keybinds.bindingsOf (k : Keybinds) : KeyOwner → List ResolvedBinding
  | .field f => k.fields f
  | .command index => (k.customCommands[index]?.map CustomCommandKeybind.bindings).getD []

def Kept (navigate : Bool) : ResolvedBinding → Prop :=
  if navigate then KeptNavigate else KeptAction

namespace PassState

def registryOf (s : PassState) (navigate : Bool) : BindingRegistry :=
  if navigate then s.navigateRegistry else s.registry

/-- Every binding is kept and held by its registry, and no two owners of one registry share a
claim. -/
structure Separated (s : PassState) : Prop where
  held : ∀ o, ∀ b ∈ s.keybinds.bindingsOf o, (s.registryOf o.isNavigate).Holds (claimOf b.trigger)
  kept : ∀ o, ∀ b ∈ s.keybinds.bindingsOf o, Kept o.isNavigate b
  apart : ∀ o₁ o₂, o₁ ≠ o₂ → o₁.isNavigate = o₂.isNavigate →
    ∀ b₁ ∈ s.keybinds.bindingsOf o₁, ∀ b₂ ∈ s.keybinds.bindingsOf o₂,
      claimOf b₁.trigger ≠ claimOf b₂.trigger

section
variable {s s' : PassState} {o : KeyOwner} {base parsed : FieldState} {macos : Bool}
  {config : KeysConfig} {source : BindingSource}

/-- The bindings of one owner are parsed with the registry of its kind. -/
lemma Separated.assign (h : s.Separated) (o : KeyOwner)
    (hadds : Adds (Kept o.isNavigate) base parsed)
    (hregistry : base.registry = s.registryOf o.isNavigate)
    (hbase : ∀ b ∈ base.bindings, b ∈ s.keybinds.bindingsOf o)
    (howner : s'.keybinds.bindingsOf o = parsed.bindings)
    (hothers : ∀ o' ≠ o, s'.keybinds.bindingsOf o' = s.keybinds.bindingsOf o')
    (hregistry' : s'.registryOf o.isNavigate = parsed.registry)
    (hother : s'.registryOf (!o.isNavigate) = s.registryOf (!o.isNavigate)) : s'.Separated := by
  obtain ⟨new, hbindings, hnew, hkept⟩ := hadds
  rw [hregistry] at hnew hkept
  have hmem : ∀ b ∈ s'.keybinds.bindingsOf o, b ∈ s.keybinds.bindingsOf o ∨ b ∈ new := by
    intro b hb
    rw [howner, hbindings] at hb
    exact (List.mem_append.mp hb).imp_left (hbase b)
  have hmono : ∀ navigate claim, (s.registryOf navigate).Holds claim →
      (s'.registryOf navigate).Holds claim := by
    intro navigate claim hclaim
    by_cases hsame : navigate = o.isNavigate
    · rw [hsame] at hclaim ⊢
      rw [hregistry']
      exact hkept claim hclaim
    · obtain rfl : navigate = !o.isNavigate := Bool.eq_not_of_ne hsame
      rwa [hother]
  -- a new binding of the owner and an old one of another
  have hapart : ∀ o' ≠ o, o'.isNavigate = o.isNavigate → ∀ b ∈ s'.keybinds.bindingsOf o,
      ∀ b' ∈ s.keybinds.bindingsOf o', claimOf b.trigger ≠ claimOf b'.trigger := by
    intro o' hne hsame b hb b' hb'
    rcases hmem b hb with hold | hb
    · exact h.apart o o' hne.symm hsame.symm b hold b' hb'
    · intro heq
      have hheld := h.held o' b' hb'
      rw [hsame, ← heq] at hheld
      exact (hnew b hb).2.1 hheld
  refine ⟨fun o' b hb => ?_, fun o' b hb => ?_, fun o₁ o₂ hne hsame b₁ hb₁ b₂ hb₂ => ?_⟩
  · by_cases ho : o' = o
    · subst ho
      rcases hmem b hb with hold | hb
      · exact hmono _ _ (h.held o' b hold)
      · rw [hregistry']
        exact (hnew b hb).2.2
    · rw [hothers o' ho] at hb
      exact hmono _ _ (h.held o' b hb)
  · by_cases ho : o' = o
    · subst ho
      rcases hmem b hb with hold | hb
      · exact h.kept o' b hold
      · exact (hnew b hb).1
    · rw [hothers o' ho] at hb
      exact h.kept o' b hb
  · by_cases ho₁ : o₁ = o
    · subst ho₁
      rw [hothers o₂ hne.symm] at hb₂
      exact hapart o₂ hne.symm hsame.symm b₁ hb₁ b₂ hb₂
    · by_cases ho₂ : o₂ = o
      · subst ho₂
        rw [hothers o₁ ho₁] at hb₁
        exact fun heq => hapart o₁ hne hsame b₂ hb₂ b₁ hb₁ heq.symm
      · rw [hothers o₁ ho₁] at hb₁
        rw [hothers o₂ ho₂] at hb₂
        exact h.apart o₁ o₂ hne hsame b₁ hb₁ b₂ hb₂

lemma bindingsOf_assign (s : PassState) (f : KeyField) (parsed : FieldState) :
    (s.assign f parsed).keybinds.bindingsOf (.field f) = parsed.bindings ∧
      ∀ o' ≠ KeyOwner.field f,
        (s.assign f parsed).keybinds.bindingsOf o' = s.keybinds.bindingsOf o' := by
  refine ⟨Function.update_self f _ _, fun o' hne => ?_⟩
  cases o' with
  | field g => exact Function.update_of_ne (fun heq => hne (congrArg KeyOwner.field heq)) _ _
  | command index => rfl

lemma Separated.applyField (h : s.Separated) (f : KeyField) :
    (PassState.applyField macos config source s f).Separated := by
  unfold PassState.applyField
  split
  · exact h
  dsimp only
  cases f with
  | navigate f =>
    obtain ⟨howner, hothers⟩ := bindingsOf_assign s (.navigate f)
      (parseNavigateBindings macos ("keys." ++ (KeyField.navigate f).name)
        (config.bindings (.navigate f)) source ⟨s.navigateRegistry, s.diagnostics, []⟩)
    exact h.assign (.field (.navigate f)) (adds_parseNavigateBindings _ _) rfl
      (fun _ hb => absurd hb List.not_mem_nil) howner hothers rfl rfl
  | action f =>
    obtain ⟨howner, hothers⟩ := bindingsOf_assign s (.action f)
      (parseActionBindings macos ("keys." ++ (KeyField.action f).name)
        (config.bindings (.action f)) source ⟨s.registry, s.diagnostics, []⟩)
    exact h.assign (.field (.action f)) (adds_parseActionBindings _ _) rfl
      (fun _ hb => absurd hb List.not_mem_nil) howner hothers rfl rfl
  | indexed f =>
    dsimp only
    split
    · exact h
    · obtain ⟨howner, hothers⟩ := bindingsOf_assign s (.indexed f)
        (parseIndexedBindings macos ("keys." ++ (KeyField.indexed f).name)
          (config.bindings (.indexed f)) source ⟨s.registry, s.diagnostics, []⟩)
      exact h.assign (.field (.indexed f)) (adds_parseIndexedBindings _ _) rfl
        (fun _ hb => absurd hb List.not_mem_nil) howner hothers rfl rfl

lemma Separated.appendLegacy (h : s.Separated) (f : IndexedField) :
    (PassState.appendLegacy config source s f).Separated := by
  obtain ⟨howner, hothers⟩ := bindingsOf_assign s (.indexed f)
    (appendLegacyIndexedBindings f.legacyField (config.indexed.legacy f) source
      ⟨s.registry, s.diagnostics, s.keybinds.fields (.indexed f)⟩)
  exact h.assign (.field (.indexed f)) (adds_appendLegacyIndexedBindings _) rfl
    (fun b hb => hb) howner hothers rfl rfl

/-- The owner of the next custom command. -/
def nextCommand (s : PassState) : KeyOwner := .command s.keybinds.customCommands.length

lemma bindingsOf_nextCommand (s : PassState) : s.keybinds.bindingsOf s.nextCommand = [] := by
  unfold nextCommand Keybinds.bindingsOf
  dsimp only
  rw [List.getElem?_eq_none (le_refl _)]
  rfl

lemma bindingsOf_concat (k : Keybinds) (c : CustomCommandKeybind) :
    ({ k with customCommands := k.customCommands ++ [c] } : Keybinds).bindingsOf
        (.command k.customCommands.length) = c.bindings ∧
      ∀ o' ≠ KeyOwner.command k.customCommands.length,
        ({ k with customCommands := k.customCommands ++ [c] } : Keybinds).bindingsOf o' =
          k.bindingsOf o' := by
  constructor
  · unfold Keybinds.bindingsOf
    dsimp only
    rw [List.getElem?_concat_length]
    rfl
  · intro o' hne
    cases o' with
    | field f => rfl
    | command index =>
      have hindex : index ≠ k.customCommands.length := fun heq => hne (congrArg _ heq)
      unfold Keybinds.bindingsOf
      dsimp only
      rcases Nat.lt_or_gt_of_ne hindex with hlt | hgt
      · rw [List.getElem?_append_left hlt]
      · rw [List.getElem?_eq_none (by simp; omega), List.getElem?_eq_none (by omega)]

lemma Separated.appendCustomCommand (h : s.Separated) (entry : CommandKeybindConfig × Nat) :
    (PassState.appendCustomCommand macos s entry).Separated := by
  obtain ⟨command, index⟩ := entry
  unfold PassState.appendCustomCommand
  dsimp only
  split
  · exact ⟨h.held, h.kept, h.apart⟩
  have hadds : Adds KeptAction ⟨s.registry, s.diagnostics, []⟩
      (parseActionBindings macos ("keys.command[" ++ toString index ++ "]" ++ ".key") command.key
        .user ⟨s.registry, s.diagnostics, []⟩) := adds_parseActionBindings _ _
  generalize parseActionBindings macos ("keys.command[" ++ toString index ++ "]" ++ ".key")
    command.key .user ⟨s.registry, s.diagnostics, []⟩ = parsed at hadds ⊢
  split
  · next hempty =>
    refine h.assign s.nextCommand hadds rfl (fun _ hb => absurd hb List.not_mem_nil) ?_
      (fun _ _ => rfl) rfl rfl
    rw [List.isEmpty_iff.mp hempty]
    exact bindingsOf_nextCommand s
  · obtain ⟨howner, hothers⟩ := bindingsOf_concat s.keybinds {
      bindings := parsed.bindings
      label := [' ', '/', ' '].intercalate (parsed.bindings.map ResolvedBinding.label)
      command := command.command
      action := command.actionType
      description := command.description
      width := if decide (command.actionType = .popup) = true then command.width else none
      height := if decide (command.actionType = .popup) = true then command.height else none }
    exact h.assign s.nextCommand hadds rfl (fun _ hb => absurd hb List.not_mem_nil) howner hothers
      rfl rfl

lemma separated_foldl {α : Type} {step : PassState → α → PassState} {xs : List α}
    (hstep : ∀ s, s.Separated → ∀ x, (step s x).Separated) (h : s.Separated) :
    (xs.foldl step s).Separated := by
  induction xs generalizing s with
  | nil => exact h
  | cons x xs ih => exact ih (hstep s h x)

lemma Separated.pass (h : s.Separated) (source : BindingSource) :
    (PassState.pass macos config s source).Separated := by
  have hfields : (KeyField.passOrder.foldl (PassState.applyField macos config source) s).Separated :=
    separated_foldl (fun s hs f => hs.applyField f) h
  unfold PassState.pass
  dsimp only
  generalize KeyField.passOrder.foldl (PassState.applyField macos config source) s = fields
    at hfields ⊢
  have hlegacy : (if source = config.fieldSource "indexed" then
      [IndexedField.switchTab, .switchWorkspace, .focusAgent].foldl
        (PassState.appendLegacy config source) fields else fields).Separated := by
    split
    · exact separated_foldl (fun s hs f => hs.appendLegacy f) hfields
    · exact hfields
  split
  · exact separated_foldl (fun s hs entry => hs.appendCustomCommand entry) hlegacy
  · exact hlegacy

lemma separated_empty (registry navigateRegistry : BindingRegistry)
    (diagnostics : List KeybindDiagnostic) :
    Separated ⟨registry, navigateRegistry, diagnostics, .empty⟩ := by
  have hnone : ∀ o, Keybinds.empty.bindingsOf o = [] := by
    intro o
    cases o <;> rfl
  refine ⟨fun o b hb => ?_, fun o b hb => ?_, fun o₁ o₂ _ _ b₁ hb₁ => ?_⟩
  · exact absurd (hnone o ▸ hb) List.not_mem_nil
  · exact absurd (hnone o ▸ hb) List.not_mem_nil
  · exact absurd (hnone o₁ ▸ hb₁) List.not_mem_nil

end

end PassState

/-! ### Unambiguous keybinds -/

inductive TriggerKind where
  | direct | prefixed
deriving DecidableEq

def TriggerKind.ofTrigger (t : BindingTrigger) : TriggerKind :=
  if t.isPrefixed then .prefixed else .direct

/-- The event matches a binding of the owner, indexed bindings by their index. -/
def Keybinds.Matches (k : Keybinds) (o : KeyOwner) (kind : TriggerKind) (key : TerminalKey) :
    Prop :=
  match o, kind with
  | .field (.indexed f), kind => ∃ b ∈ k.bindingsOf (.field (.indexed f)),
      TriggerKind.ofTrigger b.trigger = kind ∧ (b.matchedIndex key).isSome
  | o, .direct => matchesDirectKey (k.bindingsOf o) key = true
  | o, .prefixed => matchesPrefixKey (k.bindingsOf o) key = true

instance (k : Keybinds) :
    (o : KeyOwner) → (kind : TriggerKind) → (key : TerminalKey) → Decidable (k.Matches o kind key)
  | .field (.indexed _), _, _ => inferInstanceAs (Decidable (∃ _ ∈ _, _ ∧ _))
  | .field (.action _), .direct, _ => inferInstanceAs (Decidable (_ = true))
  | .field (.action _), .prefixed, _ => inferInstanceAs (Decidable (_ = true))
  | .field (.navigate _), .direct, _ => inferInstanceAs (Decidable (_ = true))
  | .field (.navigate _), .prefixed, _ => inferInstanceAs (Decidable (_ = true))
  | .command _, .direct, _ => inferInstanceAs (Decidable (_ = true))
  | .command _, .prefixed, _ => inferInstanceAs (Decidable (_ = true))

/-- The event types a character: it is printable, with no modifier but Shift. -/
def TypesCharacter (key : TerminalKey) : Prop :=
  (∃ c, key.code = .char c ∧ isControl c = false) ∧ key.modifiers.withoutShift = .empty

/-- No event belongs to two owners, and none that types a character to a direct binding. -/
structure Unambiguous (k : Keybinds) : Prop where
  apart : ∀ key kind o₁ o₂, o₁ ≠ o₂ → ¬(k.Matches o₁ kind key ∧ k.Matches o₂ kind key)
  typing : ∀ key o, TypesCharacter key → ¬k.Matches o .direct key

/-- The same for plain events and within one registry, where the symbol of a shifted digit may belong
to an indexed action beside another one, and outside navigate mode for events whose shifted codepoint
is no control character. -/
structure UnambiguousWithin (k : Keybinds) : Prop where
  apart : ∀ key, PlainKey key → ∀ kind o₁ o₂, o₁ ≠ o₂ → o₁.isNavigate = o₂.isNavigate →
    (digitOfSymbol key = none ∨ o₁.isIndexed = o₂.isIndexed) →
      ¬(k.Matches o₁ kind key ∧ k.Matches o₂ kind key)
  typing : ∀ key, TypesCharacter key →
    (∀ d, key.shiftedCodepoint.bind charFromU32 = some d → isControl d = false) →
      ∀ o, o.isNavigate = false → ¬k.Matches o .direct key

section
variable {k : Keybinds} {o : KeyOwner} {kind : TriggerKind} {key : TerminalKey}

/-- A match comes from a binding of the kind, by its index or by its combination. -/
lemma Keybinds.Matches.exists_binding (h : k.Matches o kind key) :
    ∃ b ∈ k.bindingsOf o, TriggerKind.ofTrigger b.trigger = kind ∧
      if o.isIndexed then (b.matchedIndex key).isSome = true
      else terminalKeyMatchesCombo key b.trigger.combo = true := by
  have hdirect (bindings : List ResolvedBinding) (hany : matchesDirectKey bindings key = true) :
      ∃ b ∈ bindings, TriggerKind.ofTrigger b.trigger = .direct ∧
        terminalKeyMatchesCombo key b.trigger.combo = true := by
    obtain ⟨b, hb, hmatch⟩ := List.any_eq_true.mp hany
    rw [Bool.and_eq_true] at hmatch
    refine ⟨b, hb, ?_, hmatch.2⟩
    cases htrigger : b.trigger with
    | direct combo => rfl
    | prefixed combo =>
      rw [htrigger] at hmatch
      cases hmatch.1
  have hprefixed (bindings : List ResolvedBinding) (hany : matchesPrefixKey bindings key = true) :
      ∃ b ∈ bindings, TriggerKind.ofTrigger b.trigger = .prefixed ∧
        terminalKeyMatchesCombo key b.trigger.combo = true := by
    obtain ⟨b, hb, hmatch⟩ := List.any_eq_true.mp hany
    rw [Bool.and_eq_true] at hmatch
    refine ⟨b, hb, ?_, hmatch.2⟩
    unfold TriggerKind.ofTrigger
    rw [if_pos hmatch.1]
  cases o with
  | command index =>
    cases kind with
    | direct => exact hdirect _ h
    | prefixed => exact hprefixed _ h
  | field f =>
    cases f with
    | indexed f => exact h
    | action f =>
      cases kind with
      | direct => exact hdirect _ h
      | prefixed => exact hprefixed _ h
    | navigate f =>
      cases kind with
      | direct => exact hdirect _ h
      | prefixed => exact hprefixed _ h

lemma noCapital_of_kept {navigate : Bool} {b : ResolvedBinding} (h : Kept navigate b) :
    NoCapital b.trigger.combo := by
  cases navigate with
  | true => exact h
  | false => exact h.1

lemma isPrefixed_eq_of_kind {t : BindingTrigger} :
    t.isPrefixed = decide (TriggerKind.ofTrigger t = .prefixed) := by
  cases t <;> rfl

/-- The keybinds of a configuration are unambiguous for plain events within one registry, and no
event that types a character belongs to a direct binding outside navigate mode. -/
theorem validatedKeybinds_unambiguous (macos : Bool) (config : KeysConfig) :
    UnambiguousWithin (validatedKeybinds macos config).2.2.2 := by
  have hseparated : ∃ s : PassState, s.Separated ∧
      (validatedKeybinds macos config).2.2.2 = s.keybinds :=
    ⟨_, PassState.separated_foldl (fun s hs source => hs.pass source)
      (PassState.separated_empty _ _ _), rfl⟩
  obtain ⟨s, hs, hkeybinds⟩ := hseparated
  rw [hkeybinds]
  refine ⟨?_, ?_⟩
  · rintro key hplain kind o₁ o₂ hne hsame hindexed ⟨h₁, h₂⟩
    -- What an owner must have claimed to match the event.
    have hclaim : ∀ o, s.keybinds.Matches o kind key → ∃ b ∈ s.keybinds.bindingsOf o,
        claimOf b.trigger = (decide (kind = .prefixed), if o.isIndexed then indexedCombo key
          else foldCapital (normalizeKeyCombo (key.code, key.modifiers))) := by
      intro o hmatches
      obtain ⟨b, hb, rfl, hmatch⟩ := hmatches.exists_binding
      have hcapital := noCapital_of_kept (hs.kept o b hb)
      refine ⟨b, hb, ?_⟩
      unfold claimOf
      rw [isPrefixed_eq_of_kind]
      by_cases ho : o.isIndexed = true
      · rw [if_pos ho] at hmatch ⊢
        rw [matchedIndex_plain hplain hcapital hmatch]
      · rw [if_neg ho] at hmatch ⊢
        rw [terminalKeyMatchesCombo_plain hplain hcapital hmatch]
    obtain ⟨b₁, hb₁, hclaim₁⟩ := hclaim o₁ h₁
    obtain ⟨b₂, hb₂, hclaim₂⟩ := hclaim o₂ h₂
    have htarget : (if o₁.isIndexed then indexedCombo key
          else foldCapital (normalizeKeyCombo (key.code, key.modifiers))) =
        if o₂.isIndexed then indexedCombo key
          else foldCapital (normalizeKeyCombo (key.code, key.modifiers)) := by
      rcases hindexed with hnone | hboth
      · have hsame : indexedCombo key =
            foldCapital (normalizeKeyCombo (key.code, key.modifiers)) := by
          unfold indexedCombo
          rw [hnone]
        rw [hsame, ite_self, ite_self]
      · rw [hboth]
    rw [htarget] at hclaim₁
    exact hs.apart o₁ o₂ hne hsame b₁ hb₁ b₂ hb₂ (hclaim₁.trans hclaim₂.symm)
  · rintro key ⟨⟨c, hcode, hprintable⟩, hmodifiers⟩ hshifted o hnavigate hmatches
    obtain ⟨b, hb, hkind, hmatch⟩ := hmatches.exists_binding
    have hkept : KeptAction b := by
      have := hs.kept o b hb
      rwa [hnavigate] at this
    have hdirect : b.trigger.isDirect = true := by
      cases htrigger : b.trigger with
      | direct combo => rfl
      | prefixed combo =>
        rw [htrigger] at hkind
        cases hkind
    have hsafe := hkept.2 hdirect
    have hunsafe : isUnmodifiedPrintable b.trigger.combo = true := by
      by_cases ho : o.isIndexed = true
      · rw [if_pos ho] at hmatch
        exact isUnmodifiedPrintable_of_matchedIndex hcode hprintable hmodifiers hshifted hmatch
      · rw [if_neg ho] at hmatch
        exact isUnmodifiedPrintable_of_match hcode hprintable hmodifiers hshifted hmatch
    rw [hsafe] at hunsafe
    cases hunsafe

end

/-- A configuration with the symbols of digits beside shifted digits, punctuation with and without
Shift, one key in both registries, a letter in navigate mode and a control character. -/
def overlapping : KeysConfig where
  prefixKey := "ctrl+b".toList
  bindings
    | .action .help => .one "prefix+!".toList
    | .indexed .switchWorkspace => .one "prefix+shift+1..9".toList
    | .action .settings => .one "prefix+?".toList
    | .action .newTab => .one "prefix+shift+?".toList
    | .navigate .paneLeft => .one ['h']
    | .navigate .paneDown => .one "ctrl+n".toList
    | .action .nextTab => .one "ctrl+n".toList
    | .action .zoom => .one ['\x01']
    | _ => .empty
  indexed := {}
  command := []
  userFields := []

/-- Each event belongs to two owners: the symbol of a shifted digit, punctuation with Shift, a key with
a shifted codepoint, and a key of both registries. A letter of navigate mode and a key whose shifted
codepoint is a control character are typed and matched. -/
theorem validatedKeybinds_overlapping :
    let k := (validatedKeybinds false overlapping).2.2.2
    let both (key : TerminalKey) (kind : TriggerKind) (f f' : KeyField) : Prop :=
      k.Matches (.field f) kind key ∧ k.Matches (.field f') kind key
    ¬Unambiguous k ∧
    both (.new (.char '!') .empty) .prefixed (.action .help) (.indexed .switchWorkspace) ∧
    both (.new (.char '?') .SHIFT) .prefixed (.action .settings) (.action .newTab) ∧
    both { TerminalKey.new (.char '1') .SHIFT with shiftedCodepoint := some 33 } .prefixed
      (.action .help) (.indexed .switchWorkspace) ∧
    both (.new (.char 'n') .CONTROL) .direct (.navigate .paneDown) (.action .nextTab) ∧
    k.Matches (.field (.navigate .paneLeft)) .direct (.new (.char 'h') .empty) ∧
    k.Matches (.field (.action .zoom)) .direct
      { TerminalKey.new (.char 'a') .empty with shiftedCodepoint := some 1 } := by
  intro k both
  have hsymbol : both (.new (.char '!') .empty) .prefixed (.action .help)
      (.indexed .switchWorkspace) := by
    decide +kernel
  refine ⟨fun h => ?_, hsymbol, by decide +kernel, by decide +kernel, by decide +kernel,
    by decide +kernel, by decide +kernel⟩
  exact h.apart _ _ _ _ (by decide) hsymbol

end Ork3.Input
