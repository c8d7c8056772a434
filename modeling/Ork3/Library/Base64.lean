import Mathlib

/-!
# Base64

Three bytes become four letters of six bits each. One or two bytes at the end are padded.
-/

namespace Ork3.Library

/-- An encoder of bytes as letters, with its decoder: four letters for three bytes. -/
structure Base64 where
  encode : List UInt8 → List Char
  decode : List Char → Option (List UInt8)
  decode_encode : ∀ xs, decode (encode xs) = some xs
  length_encode : ∀ xs, (encode xs).length = 4 * ((xs.length + 2) / 3)

namespace Base64

/-! ### The standard alphabet -/

def alphabet : List Char :=
  "ABCDEFGHIJKLMNOPQRSTUVWXYZabcdefghijklmnopqrstuvwxyz0123456789+/".toList

def letter (value : Nat) : Char := alphabet.getD (value % 64) 'A'

attribute [grind =] letter

def letterValue (c : Char) : Option Nat := alphabet.idxOf? c

lemma letterValue_letter_of_lt : ∀ value < 64, letterValue (letter value) = some value := by
  decide

lemma letter_ne_pad_of_lt : ∀ value < 64, letter value ≠ '=' := by
  decide +kernel

lemma letterValue_letter (value : Nat) : letterValue (letter value) = some (value % 64) := by
  have hmod : letter value = letter (value % 64) := by rw [letter, letter, Nat.mod_mod]
  rw [hmod]
  exact letterValue_letter_of_lt _ (Nat.mod_lt _ (by omega))

lemma letter_ne_pad (value : Nat) : letter value ≠ '=' := by
  have hmod : letter value = letter (value % 64) := by rw [letter, letter, Nat.mod_mod]
  rw [hmod]
  exact letter_ne_pad_of_lt _ (Nat.mod_lt _ (by omega))

def standardEncode : List UInt8 → List Char
  | a :: b :: c :: rest =>
    letter (a.toNat / 4) :: letter (a.toNat * 16 + b.toNat / 16) ::
      letter (b.toNat * 4 + c.toNat / 64) :: letter c.toNat :: standardEncode rest
  | [a, b] => [letter (a.toNat / 4), letter (a.toNat * 16 + b.toNat / 16), letter (b.toNat * 4), '=']
  | [a] => [letter (a.toNat / 4), letter (a.toNat * 16), '=', '=']
  | [] => []

attribute [grind =] standardEncode

def firstByte (v w : Nat) : UInt8 := UInt8.ofNat (v * 4 + w / 16)

def secondByte (w x : Nat) : UInt8 := UInt8.ofNat (w % 16 * 16 + x / 4)

def thirdByte (x y : Nat) : UInt8 := UInt8.ofNat (x % 4 * 64 + y)

def standardDecode : List Char → Option (List UInt8)
  | [] => some []
  | a :: b :: c :: d :: rest => do
    let v ← letterValue a
    let w ← letterValue b
    if c = '=' then
      if d = '=' ∧ rest = [] then some [firstByte v w] else none
    else do
      let x ← letterValue c
      if d = '=' then
        if rest = [] then some [firstByte v w, secondByte w x] else none
      else do
        let y ← letterValue d
        let decoded ← standardDecode rest
        some (firstByte v w :: secondByte w x :: thirdByte x y :: decoded)
  | _ => none

attribute [grind =] standardDecode

section
variable (a b c : UInt8)

lemma firstByte_eq : firstByte (a.toNat / 4 % 64) ((a.toNat * 16 + b.toNat / 16) % 64) = a := by
  have ha := a.toNat_lt
  have hb := b.toNat_lt
  have heq : a.toNat / 4 % 64 * 4 + (a.toNat * 16 + b.toNat / 16) % 64 / 16 = a.toNat := by omega
  rw [firstByte, heq, UInt8.ofNat_toNat]

lemma firstByte_last : firstByte (a.toNat / 4 % 64) (a.toNat * 16 % 64) = a := by
  have ha := a.toNat_lt
  have heq : a.toNat / 4 % 64 * 4 + a.toNat * 16 % 64 / 16 = a.toNat := by omega
  rw [firstByte, heq, UInt8.ofNat_toNat]

lemma secondByte_eq : secondByte ((a.toNat * 16 + b.toNat / 16) % 64)
    ((b.toNat * 4 + c.toNat / 64) % 64) = b := by
  have hb := b.toNat_lt
  have hc := c.toNat_lt
  have heq : (a.toNat * 16 + b.toNat / 16) % 64 % 16 * 16 + (b.toNat * 4 + c.toNat / 64) % 64 / 4 =
      b.toNat := by omega
  rw [secondByte, heq, UInt8.ofNat_toNat]

lemma secondByte_last : secondByte ((a.toNat * 16 + b.toNat / 16) % 64) (b.toNat * 4 % 64) = b := by
  have hb := b.toNat_lt
  have heq : (a.toNat * 16 + b.toNat / 16) % 64 % 16 * 16 + b.toNat * 4 % 64 / 4 = b.toNat := by
    omega
  rw [secondByte, heq, UInt8.ofNat_toNat]

lemma thirdByte_eq : thirdByte ((b.toNat * 4 + c.toNat / 64) % 64) (c.toNat % 64) = c := by
  have hc := c.toNat_lt
  have heq : (b.toNat * 4 + c.toNat / 64) % 64 % 4 * 64 + c.toNat % 64 = c.toNat := by omega
  rw [thirdByte, heq, UInt8.ofNat_toNat]

end

lemma standardDecode_standardEncode (xs : List UInt8) :
    standardDecode (standardEncode xs) = some xs := by
  induction xs using standardEncode.induct with
  | case1 a b c rest ih =>
    simp only [standardEncode, standardDecode, letterValue_letter, letter_ne_pad, if_false, ih,
      Option.bind_eq_bind, Option.bind_some]
    rw [firstByte_eq, secondByte_eq, thirdByte_eq]
  | case2 a b =>
    simp only [standardEncode, standardDecode, letterValue_letter, letter_ne_pad, if_false, if_true,
      Option.bind_eq_bind, Option.bind_some]
    rw [firstByte_eq, secondByte_last]
  | case3 a =>
    simp only [standardEncode, standardDecode, letterValue_letter, if_true, and_self,
      Option.bind_eq_bind, Option.bind_some]
    rw [firstByte_last]
  | case4 => rfl

lemma length_standardEncode (xs : List UInt8) :
    (standardEncode xs).length = 4 * ((xs.length + 2) / 3) := by
  induction xs using standardEncode.induct with
  | case1 a b c rest ih =>
    simp only [standardEncode, List.length_cons, ih]
    omega
  | case2 a b => simp [standardEncode]
  | case3 a => simp [standardEncode]
  | case4 => rfl

/-- The standard alphabet with padding. -/
def standard : Base64 where
  encode := standardEncode
  decode := standardDecode
  decode_encode := standardDecode_standardEncode
  length_encode := length_standardEncode

example : standard.encode "hello".toUTF8.toList = "aGVsbG8=".toList := by decide +kernel

end Base64

end Ork3.Library
