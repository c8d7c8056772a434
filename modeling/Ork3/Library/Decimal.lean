import Ork3.Library.Text

/-!
# Decimal numerals

Numbers written in decimal digits are read back.
-/

namespace Ork3.Library

section
variable {digits : List Char} {max n : Nat}

lemma decimalDigit_of_isDigit {c : Char} (h : c.isDigit = true) :
    decimalDigit c = some (c.toNat - '0'.toNat) := by
  rw [Char.isDigit_iff_toNat] at h
  have hbounds : '0' ≤ c ∧ c ≤ '9' := by
    rw [Char.le_def, Char.le_def, UInt32.le_iff_toNat_le, UInt32.le_iff_toNat_le]
    exact h
  unfold decimalDigit
  rw [if_pos hbounds]

lemma digitsValue_of_digits (h : ∀ c ∈ digits, c.isDigit = true) :
    digitsValue 10 decimalDigit digits = some (Nat.ofDigitChars 10 digits 0) := by
  have hfold (init : Nat) : digits.foldlM (fun acc c => (decimalDigit c).map (acc * 10 + ·)) init =
      some (Nat.ofDigitChars 10 digits init) := by
    induction digits generalizing init with
    | nil => simp
    | cons c digits ih =>
      have hc := decimalDigit_of_isDigit (h c List.mem_cons_self)
      have hrest := ih fun d hd => h d (List.mem_cons_of_mem c hd)
      simp only [List.foldlM_cons, hc, Option.map_some, Nat.ofDigitChars_cons]
      rw [Nat.mul_comm 10 init]
      apply hrest
  exact hfold 0

/-- A numeral of digits is read as its value, if the type holds it. -/
lemma parseUnsigned_of_digits (hne : digits ≠ []) (h : ∀ c ∈ digits, c.isDigit = true) :
    parseUnsigned max digits = (some (Nat.ofDigitChars 10 digits 0)).filter (· ≤ max) := by
  have hplus : ∀ rest, digits ≠ '+' :: rest := by
    rintro rest rfl
    have hdigit := h '+' List.mem_cons_self
    revert hdigit
    decide
  have hempty : digits.isEmpty = false := by
    simp [hne]
  unfold parseUnsigned
  split
  · next rest => exact absurd rfl (hplus rest)
  · simp only [hempty, digitsValue_of_digits h]
    rfl

lemma isDigit_of_mem_decimal {c : Char} (h : c ∈ Nat.toDigits 10 n) : c.isDigit = true :=
  Nat.isDigit_of_mem_toDigits (by omega) (by omega) h

/-- A number that is written in decimal is read back. -/
theorem parseUnsigned_decimal (h : n ≤ max) : parseUnsigned max (Nat.toDigits 10 n) = some n := by
  rw [parseUnsigned_of_digits Nat.toDigits_ne_nil fun c hc => isDigit_of_mem_decimal hc]
  simp [h]

lemma notMem_decimal {c : Char} (h : c.isDigit = false) : c ∉ Nat.toDigits 10 n := by
  intro hmem
  rw [isDigit_of_mem_decimal hmem] at h
  cases h

end

end Ork3.Library
