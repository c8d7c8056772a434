import Mathlib

/-!
# Byte strings and texts

Texts are lists of characters. `fromUtf8` validates and decodes a byte string with the error
positions of the standard decoder: `errorLen = none` says that the input ended inside a character.
-/

namespace Ork3.Library

/-- The ways the modelled code can panic on a text. -/
inductive Panic where
  | charBoundary
deriving DecidableEq, Repr

/-! ### Decoding -/

structure Utf8Error where
  validUpTo : Nat
  errorLen : Option Nat
deriving DecidableEq, Repr

inductive FirstChar where
  | char (c : Char) (width : Nat)
  | incomplete
  | invalid (len : Nat)
deriving DecidableEq, Repr

def isContinuation (b : UInt8) : Bool := 0x80 ≤ b && b ≤ 0xBF

/-- The second bytes allowed after the lead byte of a character of three or four bytes. -/
def secondByteAllowed (lead b : UInt8) : Bool :=
  if lead = 0xE0 then 0xA0 ≤ b && b ≤ 0xBF
  else if lead = 0xED then 0x80 ≤ b && b ≤ 0x9F
  else if lead = 0xF0 then 0x90 ≤ b && b ≤ 0xBF
  else if lead = 0xF4 then 0x80 ≤ b && b ≤ 0x8F
  else isContinuation b

def firstChar (lead : UInt8) (rest : List UInt8) : FirstChar :=
  if lead < 0x80 then .char (Char.ofNat lead.toNat) 1
  else if 0xC2 ≤ lead ∧ lead ≤ 0xDF then
    match rest with
    | [] => .incomplete
    | b :: _ =>
      if isContinuation b then
        .char (Char.ofNat ((lead.toNat - 0xC0) * 64 + (b.toNat - 0x80))) 2
      else .invalid 1
  else if 0xE0 ≤ lead ∧ lead ≤ 0xEF then
    match rest with
    | [] => .incomplete
    | b :: rest =>
      if secondByteAllowed lead b then
        match rest with
        | [] => .incomplete
        | c :: _ =>
          if isContinuation c then
            .char (Char.ofNat (((lead.toNat - 0xE0) * 64 + (b.toNat - 0x80)) * 64 +
              (c.toNat - 0x80))) 3
          else .invalid 2
      else .invalid 1
  else if 0xF0 ≤ lead ∧ lead ≤ 0xF4 then
    match rest with
    | [] => .incomplete
    | b :: rest =>
      if secondByteAllowed lead b then
        match rest with
        | [] => .incomplete
        | c :: rest =>
          if isContinuation c then
            match rest with
            | [] => .incomplete
            | d :: _ =>
              if isContinuation d then
                .char (Char.ofNat ((((lead.toNat - 0xF0) * 64 + (b.toNat - 0x80)) * 64 +
                  (c.toNat - 0x80)) * 64 + (d.toNat - 0x80))) 4
              else .invalid 3
          else .invalid 2
      else .invalid 1
  else .invalid 1

/-- Decodes from position `validUpTo` on, passing over the bytes of the character just read. -/
def fromUtf8From (validUpTo : Nat) : List UInt8 → (skip : Nat) → Except Utf8Error (List Char)
  | [], _ => .ok []
  | _ :: rest, skip + 1 => fromUtf8From validUpTo rest skip
  | b :: rest, 0 =>
    match firstChar b rest with
    | .char c width => (fromUtf8From (validUpTo + width) rest (width - 1)).map (c :: ·)
    | .incomplete => .error ⟨validUpTo, none⟩
    | .invalid len => .error ⟨validUpTo, some len⟩

def fromUtf8 (bytes : List UInt8) : Except Utf8Error (List Char) := fromUtf8From 0 bytes 0

lemma toNat_ofNat_of_lt {n : Nat} (h : n < 0x80) : (Char.ofNat n).toNat = n := by
  have hvalid : n.isValidChar := Or.inl (by omega)
  simp [Char.ofNat, hvalid, Char.ofNatAux, Char.toNat]

lemma fromUtf8From_ascii (n : Nat) {bytes : List UInt8} (h : ∀ b ∈ bytes, b < 0x80) :
    fromUtf8From n bytes 0 = .ok (bytes.map fun b => Char.ofNat b.toNat) := by
  induction bytes generalizing n with
  | nil => rfl
  | cons b rest ih =>
    have hb : b < 0x80 := h b List.mem_cons_self
    simp only [fromUtf8From, firstChar, if_pos hb, Nat.sub_self,
      ih (n + 1) fun c hc => h c (List.mem_cons_of_mem _ hc), List.map_cons]
    rfl

/-- A byte string of ASCII bytes decodes to one character a byte. -/
theorem fromUtf8_ascii {bytes : List UInt8} (h : ∀ b ∈ bytes, b < 0x80) :
    fromUtf8 bytes = .ok (bytes.map fun b => Char.ofNat b.toNat) :=
  fromUtf8From_ascii 0 h

/-- Decodes with a replacement character for each ill-formed part. -/
def fromUtf8LossyFrom : List UInt8 → (skip : Nat) → List Char
  | [], _ => []
  | _ :: rest, skip + 1 => fromUtf8LossyFrom rest skip
  | b :: rest, 0 =>
    match firstChar b rest with
    | .char c width => c :: fromUtf8LossyFrom rest (width - 1)
    | .incomplete => [Char.ofNat 0xFFFD]
    | .invalid len => Char.ofNat 0xFFFD :: fromUtf8LossyFrom rest (len - 1)

def fromUtf8Lossy (bytes : List UInt8) : List Char := fromUtf8LossyFrom bytes 0

lemma fromUtf8LossyFrom_of_ok {n skip : Nat} {bytes : List UInt8} {s : List Char}
    (h : fromUtf8From n bytes skip = .ok s) : fromUtf8LossyFrom bytes skip = s := by
  induction bytes generalizing n skip s with
  | nil =>
    obtain rfl := Except.ok.inj h
    rfl
  | cons b rest ih =>
    cases skip with
    | succ skip => exact ih h
    | zero =>
      unfold fromUtf8From at h
      unfold fromUtf8LossyFrom
      cases hc : firstChar b rest with
      | incomplete => simp [hc] at h
      | invalid len => simp [hc] at h
      | char c width =>
        simp only [hc] at h ⊢
        cases hr : fromUtf8From (n + width) rest (width - 1) with
        | error e => simp [hr, Except.map] at h
        | ok r =>
          rw [hr] at h
          rw [ih hr]
          exact Except.ok.inj h

/-- A well-formed byte string is decoded without replacement. -/
lemma fromUtf8Lossy_of_ok {bytes : List UInt8} {s : List Char} (h : fromUtf8 bytes = .ok s) :
    fromUtf8Lossy bytes = s :=
  fromUtf8LossyFrom_of_ok h

/-! ### Searching bytes -/

def findSubsequence (needle : List UInt8) : List UInt8 → Option Nat
  | [] => none
  | b :: rest =>
    if needle.isPrefixOf (b :: rest) then some 0 else (findSubsequence needle rest).map (· + 1)

/-- The bytes of an ASCII literal. -/
def asciiBytes (s : String) : List UInt8 := s.toList.map fun c => UInt8.ofNat c.toNat

def isAsciiDigit (b : UInt8) : Bool := 0x30 ≤ b && b ≤ 0x39

/-! ### Texts -/

def stripPrefix (p s : List Char) : Option (List Char) :=
  if p.isPrefixOf s then some (s.drop p.length) else none

attribute [grind =] stripPrefix

def stripSuffix (p s : List Char) : Option (List Char) :=
  if p.isSuffixOf s then some (s.take (s.length - p.length)) else none

def splitOnce (sep : Char) (s : List Char) : Option (List Char × List Char) :=
  (s.findIdx? (· = sep)).map fun i => (s.take i, s.drop (i + 1))

def digitsValue (radix : Nat) (digit : Char → Option Nat) (s : List Char) : Option Nat :=
  s.foldlM (fun acc c => (digit c).map (acc * radix + ·)) 0

def decimalDigit (c : Char) : Option Nat :=
  if '0' ≤ c ∧ c ≤ '9' then some (c.toNat - '0'.toNat) else none

def hexDigit (c : Char) : Option Nat :=
  if '0' ≤ c ∧ c ≤ '9' then some (c.toNat - '0'.toNat)
  else if 'a' ≤ c ∧ c ≤ 'f' then some (c.toNat - 'a'.toNat + 10)
  else if 'A' ≤ c ∧ c ≤ 'F' then some (c.toNat - 'A'.toNat + 10)
  else none

/-- `str::parse` at an unsigned type whose largest value is `max`: one leading `+` is allowed. -/
def parseUnsigned (max : Nat) (s : List Char) : Option Nat :=
  let digits := match s with
    | '+' :: rest => rest
    | s => s
  if digits.isEmpty then none
  else (digitsValue 10 decimalDigit digits).filter (· ≤ max)

def charFromU32 (n : Nat) : Option Char :=
  if n < 0xD800 ∨ (0xDFFF < n ∧ n < 0x110000) then some (Char.ofNat n) else none

/-- `char::is_control`. -/
def isControl (c : Char) : Bool :=
  c.toNat ≤ 0x1f || (0x7f ≤ c.toNat && c.toNat ≤ 0x9f)

/-- `str::len`. -/
def byteLen (s : List Char) : Nat := (s.map Char.utf8Size).sum

/-- The text cut at byte offset `n`; slicing inside a character or past the end panics. -/
def splitAtByte : Nat → List Char → Except Panic (List Char × List Char)
  | 0, s => .ok ([], s)
  | _ + 1, [] => .error .charBoundary
  | n + 1, c :: rest =>
    if c.utf8Size ≤ n + 1 then
      (splitAtByte (n + 1 - c.utf8Size) rest).map fun (a, b) => (c :: a, b)
    else .error .charBoundary

def sliceBytes (s : List Char) (lo hi : Nat) : Except Panic (List Char) := do
  let (_, tail) ← splitAtByte lo s
  let (middle, _) ← splitAtByte (hi - lo) tail
  return middle

end Ork3.Library
