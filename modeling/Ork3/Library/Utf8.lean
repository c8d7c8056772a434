import Ork3.Library.Text

/-!
# Encoded texts

The decoder reads back a text from the bytes of its characters, and the pieces of a text are found
where they were put.
-/

namespace Ork3.Library

section
variable {c : Char} {n : Nat}

lemma toNat_ofNat_byte (h : n < 256) : (UInt8.ofNat n).toNat = n := by
  rw [UInt8.toNat_ofNat']
  omega

lemma isContinuation_ofNat (h : n < 64) : isContinuation (UInt8.ofNat (n + 0x80)) = true := by
  have hn : (UInt8.ofNat (n + 0x80)).toNat = n + 0x80 := toNat_ofNat_byte (by omega)
  unfold isContinuation
  rw [Bool.and_eq_true, decide_eq_true_eq, decide_eq_true_eq, UInt8.le_iff_toNat_le,
    UInt8.le_iff_toNat_le, hn]
  exact ⟨by simp, by simpa using Nat.le_of_lt_succ h⟩

/-- The second byte of a character of three or four bytes is allowed. -/
lemma secondByteAllowed_ofNat {lead : Nat} (hlead : lead < 256) (h : n < 64)
    (hE0 : lead = 0xE0 → 32 ≤ n) (hED : lead = 0xED → n < 32) (hF0 : lead = 0xF0 → 16 ≤ n)
    (hF4 : lead = 0xF4 → n < 16) :
    secondByteAllowed (UInt8.ofNat lead) (UInt8.ofNat (n + 0x80)) = true := by
  have hn : (UInt8.ofNat (n + 0x80)).toNat = n + 0x80 := toNat_ofNat_byte (by omega)
  have hl := toNat_ofNat_byte hlead
  unfold secondByteAllowed
  simp only [← UInt8.toNat_inj, hl, UInt8.le_iff_toNat_le, hn]
  split_ifs with h₁ h₂ h₃ h₄
  · have := hE0 h₁
    simp
    omega
  · have := hED h₂
    simp
    omega
  · have := hF0 h₃
    simp
    omega
  · have := hF4 h₄
    simp
    omega
  · exact isContinuation_ofNat h

/-- The bytes of a character, whatever follows, are read as this character. -/
lemma firstChar_utf8EncodeChar (c : Char) (rest : List UInt8) :
    ∃ b tail, String.utf8EncodeChar c = b :: tail ∧
      firstChar b (tail ++ rest) = .char c (tail.length + 1) := by
  have hvalid : c.toNat < 0xD800 ∨ 0xDFFF < c.toNat ∧ c.toNat < 0x110000 := c.valid
  have hchar : Char.ofNat c.toNat = c := Char.ofNat_toNat c
  unfold String.utf8EncodeChar
  change ∃ b tail, (if c.toNat ≤ 0x7f then _ else _) = b :: tail ∧ _
  change ∃ b tail, (if c.toNat ≤ 0x7f then [UInt8.ofNat c.toNat] else if c.toNat ≤ 0x7ff then
    [UInt8.ofNat (c.toNat / 64 % 0x20 + 0xc0), UInt8.ofNat (c.toNat % 0x40 + 0x80)]
    else if c.toNat ≤ 0xffff then
    [UInt8.ofNat (c.toNat / 4096 % 0x10 + 0xe0), UInt8.ofNat (c.toNat / 64 % 0x40 + 0x80),
      UInt8.ofNat (c.toNat % 0x40 + 0x80)] else
    [UInt8.ofNat (c.toNat / 262144 % 0x08 + 0xf0), UInt8.ofNat (c.toNat / 4096 % 0x40 + 0x80),
      UInt8.ofNat (c.toNat / 64 % 0x40 + 0x80), UInt8.ofNat (c.toNat % 0x40 + 0x80)]) = b :: tail ∧ _
  generalize c.toNat = v at *
  have hb₀ : (UInt8.ofNat (v % 0x40 + 0x80)).toNat = v % 0x40 + 0x80 :=
    toNat_ofNat_byte (by omega)
  have hb₁ : (UInt8.ofNat (v / 64 % 0x40 + 0x80)).toNat = v / 64 % 0x40 + 0x80 :=
    toNat_ofNat_byte (by omega)
  have hb₂ : (UInt8.ofNat (v / 4096 % 0x40 + 0x80)).toNat = v / 4096 % 0x40 + 0x80 :=
    toNat_ofNat_byte (by omega)
  have hcont₀ : isContinuation (UInt8.ofNat (v % 0x40 + 0x80)) = true :=
    isContinuation_ofNat (by omega)
  have hcont₁ : isContinuation (UInt8.ofNat (v / 64 % 0x40 + 0x80)) = true :=
    isContinuation_ofNat (by omega)
  by_cases h₁ : v ≤ 0x7f
  · rw [if_pos h₁]
    have hlead : (UInt8.ofNat v).toNat = v := toNat_ofNat_byte (by omega)
    refine ⟨_, _, rfl, ?_⟩
    unfold firstChar
    rw [if_pos, hlead, hchar]
    · rfl
    · rw [UInt8.lt_iff_toNat_lt, hlead]
      exact Nat.lt_succ_of_le h₁
  rw [if_neg h₁]
  by_cases h₂ : v ≤ 0x7ff
  · rw [if_pos h₂]
    have hlead : (UInt8.ofNat (v / 64 % 0x20 + 0xc0)).toNat = v / 64 + 0xc0 := by
      rw [toNat_ofNat_byte (by omega)]
      omega
    refine ⟨_, _, rfl, ?_⟩
    unfold firstChar
    simp only [UInt8.lt_iff_toNat_lt, UInt8.le_iff_toNat_le, hlead, List.cons_append, hcont₀, hb₀]
    rw [if_neg (by simp), if_pos (by simp; omega), if_pos trivial]
    have hv : (v / 64 + 0xc0 - 0xc0) * 64 + (v % 0x40 + 0x80 - 0x80) = v := by omega
    rw [hv, hchar]
    rfl
  rw [if_neg h₂]
  by_cases h₃ : v ≤ 0xffff
  · rw [if_pos h₃]
    have hlead : (UInt8.ofNat (v / 4096 % 0x10 + 0xe0)).toNat = v / 4096 + 0xe0 := by
      rw [toNat_ofNat_byte (by omega)]
      omega
    have hsecond : secondByteAllowed (UInt8.ofNat (v / 4096 % 0x10 + 0xe0))
        (UInt8.ofNat (v / 64 % 0x40 + 0x80)) = true :=
      secondByteAllowed_ofNat (by omega) (by omega) (by omega) (by omega) (by omega) (by omega)
    refine ⟨_, _, rfl, ?_⟩
    unfold firstChar
    simp only [UInt8.lt_iff_toNat_lt, UInt8.le_iff_toNat_le, hlead, List.cons_append, hcont₀, hb₀,
      hb₁, hsecond]
    rw [if_neg (by simp), if_neg (by simp), if_pos (by simp; omega), if_pos trivial,
      if_pos trivial]
    have hv : ((v / 4096 + 0xe0 - 0xe0) * 64 + (v / 64 % 0x40 + 0x80 - 0x80)) * 64 +
        (v % 0x40 + 0x80 - 0x80) = v := by omega
    rw [hv, hchar]
    rfl
  · rw [if_neg h₃]
    have hlead : (UInt8.ofNat (v / 262144 % 0x08 + 0xf0)).toNat = v / 262144 + 0xf0 := by
      rw [toNat_ofNat_byte (by omega)]
      omega
    have hsecond : secondByteAllowed (UInt8.ofNat (v / 262144 % 0x08 + 0xf0))
        (UInt8.ofNat (v / 4096 % 0x40 + 0x80)) = true :=
      secondByteAllowed_ofNat (by omega) (by omega) (by omega) (by omega) (by omega) (by omega)
    refine ⟨_, _, rfl, ?_⟩
    unfold firstChar
    simp only [UInt8.lt_iff_toNat_lt, UInt8.le_iff_toNat_le, hlead, List.cons_append, hcont₀,
      hcont₁, hb₀, hb₁, hb₂, hsecond]
    rw [if_neg (by simp), if_neg (by simp), if_neg (by simp), if_pos (by simp; omega),
      if_pos trivial, if_pos trivial, if_pos trivial]
    have hv : (((v / 262144 + 0xf0 - 0xf0) * 64 + (v / 4096 % 0x40 + 0x80 - 0x80)) * 64 +
        (v / 64 % 0x40 + 0x80 - 0x80)) * 64 + (v % 0x40 + 0x80 - 0x80) = v := by omega
    rw [hv, hchar]
    rfl

/-- An encoded character is its own byte, or has no byte of the ASCII range. -/
lemma byte_of_mem_utf8EncodeChar {c : Char} {b : UInt8} (hb : b ∈ String.utf8EncodeChar c) :
    b.toNat = c.toNat ∨ 0x80 ≤ b.toNat := by
  unfold String.utf8EncodeChar at hb
  change b ∈ (if c.toNat ≤ 0x7f then [UInt8.ofNat c.toNat] else if c.toNat ≤ 0x7ff then
    [UInt8.ofNat (c.toNat / 64 % 0x20 + 0xc0), UInt8.ofNat (c.toNat % 0x40 + 0x80)]
    else if c.toNat ≤ 0xffff then
    [UInt8.ofNat (c.toNat / 4096 % 0x10 + 0xe0), UInt8.ofNat (c.toNat / 64 % 0x40 + 0x80),
      UInt8.ofNat (c.toNat % 0x40 + 0x80)] else
    [UInt8.ofNat (c.toNat / 262144 % 0x08 + 0xf0), UInt8.ofNat (c.toNat / 4096 % 0x40 + 0x80),
      UInt8.ofNat (c.toNat / 64 % 0x40 + 0x80), UInt8.ofNat (c.toNat % 0x40 + 0x80)]) at hb
  generalize c.toNat = v at hb ⊢
  split_ifs at hb with h₁ h₂ h₃
  · rw [List.mem_singleton.mp hb]
    exact .inl (toNat_ofNat_byte (by omega))
  all_goals
    simp only [List.mem_cons, List.not_mem_nil, or_false] at hb
    right
  · rcases hb with rfl | rfl <;> rw [toNat_ofNat_byte (by omega)] <;> omega
  · rcases hb with rfl | rfl | rfl <;> rw [toNat_ofNat_byte (by omega)] <;> omega
  · rcases hb with rfl | rfl | rfl | rfl <;> rw [toNat_ofNat_byte (by omega)] <;> omega

lemma fromUtf8From_skip (tail rest : List UInt8) :
    fromUtf8From n (tail ++ rest) tail.length = fromUtf8From n rest 0 := by
  induction tail with
  | nil => rfl
  | cons b tail ih => exact ih

lemma fromUtf8From_flatMap (s : List Char) :
    fromUtf8From n (s.flatMap String.utf8EncodeChar) 0 = .ok s := by
  induction s generalizing n with
  | nil => rfl
  | cons c s ih =>
    obtain ⟨b, tail, htail, hfirst⟩ :=
      firstChar_utf8EncodeChar c (s.flatMap String.utf8EncodeChar)
    rw [List.flatMap_cons, htail, List.cons_append]
    unfold fromUtf8From
    simp only [hfirst, Nat.add_sub_cancel, fromUtf8From_skip, ih]
    rfl

/-- An encoded text is decoded. -/
theorem fromUtf8_flatMap (s : List Char) : fromUtf8 (s.flatMap String.utf8EncodeChar) = .ok s :=
  fromUtf8From_flatMap s

end

/-! ### Pieces of a text -/

section
variable {sep : Char} {before : List Char}

lemma stripPrefix_append (p s : List Char) : stripPrefix p (p ++ s) = some s := by
  unfold stripPrefix
  rw [if_pos (by simp), List.drop_left]

lemma stripSuffix_append (p s : List Char) : stripSuffix p (s ++ p) = some s := by
  unfold stripSuffix
  rw [if_pos (by simp)]
  simp

lemma splitOnce_of_notMem (h : sep ∉ before) : splitOnce sep before = none := by
  unfold splitOnce
  rw [Option.map_eq_none_iff, List.findIdx?_eq_none_iff]
  intro c hc
  exact decide_eq_false fun heq => h (heq ▸ hc)

lemma splitOnce_append (h : sep ∉ before) (rest : List Char) :
    splitOnce sep (before ++ sep :: rest) = some (before, rest) := by
  have hindex : (before ++ sep :: rest).findIdx? (· = sep) = some before.length := by
    rw [List.findIdx?_append, List.findIdx?_eq_none_iff.mpr]
    · simp [List.findIdx?_cons]
    · intro c hc
      exact decide_eq_false fun heq => h (heq ▸ hc)
  unfold splitOnce
  rw [hindex]
  simp

/-- Whether bytes are a text does not depend on the position they are counted from. -/
lemma toOption_fromUtf8From (m n : Nat) (bytes : List UInt8) (skip : Nat) :
    (fromUtf8From m bytes skip).toOption = (fromUtf8From n bytes skip).toOption := by
  induction bytes generalizing m n skip with
  | nil => rfl
  | cons b rest ih =>
    cases skip with
    | succ skip => exact ih m n skip
    | zero =>
      unfold fromUtf8From
      cases firstChar b rest with
      | char c width =>
        have hrest := ih (m + width) (n + width) (width - 1)
        dsimp only
        cases hm : fromUtf8From (m + width) rest (width - 1) <;>
          cases hn : fromUtf8From (n + width) rest (width - 1) <;>
          simp_all [Except.map, Except.toOption]
      | incomplete => rfl
      | invalid len => rfl

/-- An ASCII byte is a character of its own. -/
lemma toOption_fromUtf8_cons {b : UInt8} (hb : b < 0x80) (rest : List UInt8) :
    (fromUtf8 (b :: rest)).toOption =
      ((fromUtf8 rest).toOption).map (Char.ofNat b.toNat :: ·) := by
  have hrest := toOption_fromUtf8From 1 0 rest 0
  have hfirst : firstChar b rest = .char (Char.ofNat b.toNat) 1 := if_pos hb
  unfold fromUtf8
  rw [← hrest, fromUtf8From.eq_def]
  simp only [hfirst]
  cases fromUtf8From 1 rest 0 <;> rfl

/-- A decision about the first character stands when more bytes follow. -/
lemma firstChar_append {lead : UInt8} {rest : List UInt8}
    (h : firstChar lead rest ≠ .incomplete) (more : List UInt8) :
    firstChar lead (rest ++ more) = firstChar lead rest := by
  unfold firstChar at h ⊢
  split_ifs at h ⊢ with h₁ h₂ h₃ h₄
  · rfl
  · cases rest with
    | nil => exact absurd rfl h
    | cons b rest => rfl
  · cases rest with
    | nil => exact absurd rfl h
    | cons b rest =>
      dsimp only [List.cons_append] at h ⊢
      split_ifs at h ⊢
      · cases rest with
        | nil => exact absurd rfl h
        | cons c rest => rfl
      · rfl
  · cases rest with
    | nil => exact absurd rfl h
    | cons b rest =>
      dsimp only [List.cons_append] at h ⊢
      split_ifs at h ⊢
      · cases rest with
        | nil => exact absurd rfl h
        | cons c rest =>
          dsimp only [List.cons_append] at h ⊢
          split_ifs at h ⊢
          · cases rest with
            | nil => exact absurd rfl h
            | cons d rest => rfl
          · rfl
      · rfl
  · rfl

lemma le_validUpTo {bytes : List UInt8} {skip : Nat} {e : Utf8Error}
    (h : fromUtf8From n bytes skip = .error e) : n ≤ e.validUpTo := by
  induction bytes generalizing n skip with
  | nil => cases h
  | cons b rest ih =>
    cases skip with
    | succ skip => exact ih h
    | zero =>
      unfold fromUtf8From at h
      cases hfirst : firstChar b rest with
      | char c width =>
        rw [hfirst] at h
        dsimp only at h
        cases hrest : fromUtf8From (n + width) rest (width - 1) with
        | ok s =>
          rw [hrest] at h
          cases h
        | error e' =>
          rw [hrest] at h
          cases h
          have hle := ih hrest
          omega
      | incomplete =>
        rw [hfirst] at h
        cases h
        exact le_rfl
      | invalid len =>
        rw [hfirst] at h
        cases h
        exact le_rfl

lemma one_le_width {lead : UInt8} {rest : List UInt8} {width : Nat}
    (h : firstChar lead rest = .char c width) : 1 ≤ width := by
  unfold firstChar at h
  repeat' split at h
  all_goals
    simp only [FirstChar.char.injEq, reduceCtorEq] at h
  all_goals omega

/-- Ill-formed bytes at the start are seen at the first character. -/
lemma firstChar_of_invalid {lead : UInt8} {rest : List UInt8} {len : Nat}
    (h : fromUtf8 (lead :: rest) = .error ⟨0, some len⟩) : firstChar lead rest = .invalid len := by
  unfold fromUtf8 fromUtf8From at h
  cases hfirst : firstChar lead rest with
  | char c width =>
    rw [hfirst] at h
    dsimp only at h
    cases hrest : fromUtf8From (0 + width) rest (width - 1) with
    | ok s =>
      rw [hrest] at h
      cases h
    | error e =>
      rw [hrest] at h
      cases h
      have hle := le_validUpTo hrest
      have hpos := one_le_width hfirst
      dsimp only at hle
      omega
  | incomplete =>
    rw [hfirst] at h
    cases h
  | invalid len' =>
    rw [hfirst] at h
    cases h
    rfl

/-- Bytes that are a text start with a character. -/
lemma firstChar_of_ok {lead : UInt8} {rest : List UInt8} {s : List Char}
    (h : fromUtf8 (lead :: rest) = .ok s) : ∃ c width, firstChar lead rest = .char c width := by
  unfold fromUtf8 fromUtf8From at h
  cases hfirst : firstChar lead rest with
  | char c width => exact ⟨c, width, rfl⟩
  | incomplete =>
    rw [hfirst] at h
    cases h
  | invalid len =>
    rw [hfirst] at h
    cases h

end

end Ork3.Library
