import Mathlib

/-!
# The grammar of JSON texts

The texts of the JSON values, and what a scanner that knows only strings and braces can rely on: the
text of every value is built from plain characters, strings and texts in braces.
-/

namespace Ork3.Library.JsonText

/-! ### Blanks, numbers and strings -/

def IsBlank (s : List Char) : Prop := ∀ c ∈ s, c ∈ [' ', '\t', '\n', '\r']

def IsDigits (s : List Char) : Prop := s ≠ [] ∧ ∀ c ∈ s, c.isDigit = true

def IsInteger (s : List Char) : Prop := IsDigits s ∧ (s.head? = some '0' → s = ['0'])

def IsFraction (s : List Char) : Prop := s = [] ∨ ∃ digits, IsDigits digits ∧ s = '.' :: digits

def IsExponent (s : List Char) : Prop :=
  s = [] ∨ ∃ e ∈ ['e', 'E'], ∃ sign ∈ [[], ['+'], ['-']], ∃ digits, IsDigits digits ∧
    s = e :: (sign ++ digits)

def IsNumber (s : List Char) : Prop :=
  ∃ sign ∈ [[], ['-']], ∃ integer, IsInteger integer ∧ ∃ fraction, IsFraction fraction ∧
    ∃ exponent, IsExponent exponent ∧ s = sign ++ (integer ++ (fraction ++ exponent))

def isHexDigit (c : Char) : Bool :=
  c.isDigit || ('a' ≤ c && c ≤ 'f') || ('A' ≤ c && c ≤ 'F')

/-- What stands between the quotes of a string. -/
inductive StringBody : List Char → Prop
  | nil : StringBody []
  | plain {c s} (hquote : c ≠ '"') (hbackslash : c ≠ '\\') (hcontrol : 0x20 ≤ c.toNat)
      (hs : StringBody s) : StringBody (c :: s)
  | escape {c s} (hc : c ∈ ['"', '\\', '/', 'b', 'f', 'n', 'r', 't']) (hs : StringBody s) :
      StringBody ('\\' :: c :: s)
  | unicode {digits s} (hlength : digits.length = 4) (hdigits : ∀ c ∈ digits, isHexDigit c = true)
      (hs : StringBody s) : StringBody ('\\' :: 'u' :: (digits ++ s))

def IsString (s : List Char) : Prop := ∃ body, StringBody body ∧ s = '"' :: (body ++ ['"'])

/-! ### Values -/

inductive Phrase
  | value
  | object
  | elements
  | members
  deriving DecidableEq

/-- The texts of the phrases; a blank may stand around every value and every key. -/
inductive Derives : Phrase → List Char → Prop
  | literal {w} (hw : w ∈ ["null".toList, "true".toList, "false".toList]) : Derives .value w
  | number {w} (hw : IsNumber w) : Derives .value w
  | string {w} (hw : IsString w) : Derives .value w
  | emptyArray {b} (hb : IsBlank b) : Derives .value ('[' :: (b ++ [']']))
  | array {w} (hw : Derives .elements w) : Derives .value ('[' :: (w ++ [']']))
  | ofObject {w} (hw : Derives .object w) : Derives .value w
  | emptyObject {b} (hb : IsBlank b) : Derives .object ('{' :: (b ++ ['}']))
  | object {w} (hw : Derives .members w) : Derives .object ('{' :: (w ++ ['}']))
  | element {b w b'} (hb : IsBlank b) (hw : Derives .value w) (hb' : IsBlank b') :
      Derives .elements (b ++ (w ++ b'))
  | elements {b w b' ws} (hb : IsBlank b) (hw : Derives .value w) (hb' : IsBlank b')
      (hws : Derives .elements ws) : Derives .elements (b ++ (w ++ (b' ++ ',' :: ws)))
  | member {b k b' b₁ w b₂} (hb : IsBlank b) (hk : IsString k) (hb' : IsBlank b')
      (hb₁ : IsBlank b₁) (hw : Derives .value w) (hb₂ : IsBlank b₂) :
      Derives .members (b ++ (k ++ (b' ++ ':' :: (b₁ ++ (w ++ b₂)))))
  | members {b k b' b₁ w b₂ ws} (hb : IsBlank b) (hk : IsString k) (hb' : IsBlank b')
      (hb₁ : IsBlank b₁) (hw : Derives .value w) (hb₂ : IsBlank b₂)
      (hws : Derives .members ws) :
      Derives .members (b ++ (k ++ (b' ++ ':' :: (b₁ ++ (w ++ (b₂ ++ ',' :: ws))))))

/-! ### What a scanner for strings and braces sees -/

/-- A character that neither opens nor closes a string or an object. -/
def IsPlain (c : Char) : Prop := c ≠ '"' ∧ c ≠ '{' ∧ c ≠ '}'

instance : DecidablePred IsPlain := fun _ => inferInstanceAs (Decidable (_ ∧ _))

/-- Texts in which strings are complete and every brace outside of them has its partner. -/
inductive Nested : List Char → Prop
  | nil : Nested []
  | plain {c s} (hc : IsPlain c) (hs : Nested s) : Nested (c :: s)
  | string {w s} (hw : IsString w) (hs : Nested s) : Nested (w ++ s)
  | braces {w s} (hw : Nested w) (hs : Nested s) : Nested ('{' :: (w ++ '}' :: s))

section
variable {c : Char} {s w : List Char}

namespace Nested

lemma append (hs : Nested s) (hw : Nested w) : Nested (s ++ w) := by
  induction hs with
  | nil => exact hw
  | plain hc _ ih => exact .plain hc ih
  | string hv _ ih =>
    rw [List.append_assoc]
    exact .string hv ih
  | braces hv _ _ ih =>
    rw [List.cons_append, List.append_assoc, List.cons_append]
    exact .braces hv ih

lemma of_isString (hw : IsString w) : Nested w := by
  have h := Nested.string hw .nil
  rwa [List.append_nil] at h

lemma of_forall (h : ∀ c ∈ s, IsPlain c) : Nested s := by
  induction s with
  | nil => exact .nil
  | cons c s ih =>
    exact .plain (h c List.mem_cons_self) (ih fun d hd => h d (List.mem_cons_of_mem c hd))

lemma of_isBlank (hs : IsBlank s) : Nested s := by
  have hplain : ∀ c ∈ [' ', '\t', '\n', '\r'], IsPlain c := by simp [IsPlain]
  exact of_forall fun c hc => hplain c (hs c hc)

lemma isPlain_of_isDigit (hc : c.isDigit = true) : IsPlain c := by
  refine ⟨?_, ?_, ?_⟩ <;> rintro rfl <;> exact absurd hc (by decide)

lemma of_isDigits (hs : IsDigits s) : Nested s :=
  of_forall fun c hc => isPlain_of_isDigit (hs.2 c hc)

lemma of_isFraction (hs : IsFraction s) : Nested s := by
  rcases hs with rfl | ⟨digits, hdigits, rfl⟩
  · exact .nil
  · exact .plain (by decide) (of_isDigits hdigits)

lemma of_isExponent (hs : IsExponent s) : Nested s := by
  rcases hs with rfl | ⟨e, he, sign, hsign, digits, hdigits, rfl⟩
  · exact .nil
  · have hplain : ∀ e ∈ ['e', 'E'], IsPlain e := by simp [IsPlain]
    have hsigns : ∀ sign ∈ [[], ['+'], ['-']], ∀ c ∈ sign, IsPlain c := by simp [IsPlain]
    apply Nested.plain (hplain e he)
    exact (of_forall (hsigns sign hsign)).append (of_isDigits hdigits)

lemma of_isNumber (hs : IsNumber s) : Nested s := by
  obtain ⟨sign, hsign, integer, hinteger, fraction, hfraction, exponent, hexponent, rfl⟩ := hs
  have hsigns : ∀ sign ∈ [[], ['-']], ∀ c ∈ sign, IsPlain c := by simp [IsPlain]
  apply (of_forall (hsigns sign hsign)).append
  apply (of_isDigits hinteger.1).append
  exact (of_isFraction hfraction).append (of_isExponent hexponent)

end Nested

/-- The text of every phrase is nested, and that of an object is a nested text in braces. -/
theorem Derives.nested {phrase : Phrase} (h : Derives phrase w) :
    Nested w ∧ (phrase = .object → ∃ body, Nested body ∧ w = '{' :: (body ++ ['}'])) := by
  induction h with
  | literal hw =>
    have hplain : ∀ w ∈ ["null".toList, "true".toList, "false".toList], ∀ c ∈ w, IsPlain c := by
      simp [IsPlain]
    exact ⟨.of_forall (hplain _ hw), nofun⟩
  | number hw => exact ⟨.of_isNumber hw, nofun⟩
  | string hw => exact ⟨.of_isString hw, nofun⟩
  | emptyArray hb =>
    exact ⟨.plain (by decide) ((Nested.of_isBlank hb).append (.plain (by decide) .nil)), nofun⟩
  | array _ ih => exact ⟨.plain (by decide) (ih.1.append (.plain (by decide) .nil)), nofun⟩
  | ofObject _ ih => exact ⟨ih.1, nofun⟩
  | emptyObject hb =>
    exact ⟨.braces (.of_isBlank hb) .nil, fun _ => ⟨_, .of_isBlank hb, rfl⟩⟩
  | object _ ih => exact ⟨.braces ih.1 .nil, fun _ => ⟨_, ih.1, rfl⟩⟩
  | element hb _ hb' ih =>
    exact ⟨(Nested.of_isBlank hb).append (ih.1.append (.of_isBlank hb')), nofun⟩
  | elements hb _ hb' _ ih ihs =>
    refine ⟨(Nested.of_isBlank hb).append (ih.1.append ?_), nofun⟩
    exact (Nested.of_isBlank hb').append (.plain (by decide) ihs.1)
  | member hb hk hb' hb₁ _ hb₂ ih =>
    refine ⟨(Nested.of_isBlank hb).append (.string hk ?_), nofun⟩
    apply (Nested.of_isBlank hb').append
    apply Nested.plain (by decide)
    exact (Nested.of_isBlank hb₁).append (ih.1.append (.of_isBlank hb₂))
  | members hb hk hb' hb₁ _ hb₂ _ ih ihs =>
    refine ⟨(Nested.of_isBlank hb).append (.string hk ?_), nofun⟩
    apply (Nested.of_isBlank hb').append
    apply Nested.plain (by decide)
    apply (Nested.of_isBlank hb₁).append
    apply ih.1.append
    exact (Nested.of_isBlank hb₂).append (.plain (by decide) ihs.1)

end

end Ork3.Library.JsonText
