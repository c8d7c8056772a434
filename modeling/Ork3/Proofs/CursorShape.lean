import Ork3.Model.CursorShape

/-!
# The cursor shape follows the commands of the stream

The tracker's state is read off from the bytes behind the last escape; it knows the shape that the
last command of the stream asks for as long as its steps are admitted.
-/

namespace Ork3.Pane

open Ork3.Library

section
variable {seen body digits bytes : List UInt8} {byte : UInt8} {value : Nat}

/-! ### Digits -/

lemma decimalValue_concat (digits : List UInt8) (byte : UInt8) :
    decimalValue (digits ++ [byte]) = decimalValue digits * 10 + (byte.toNat - 0x30) := by
  unfold decimalValue
  rw [List.foldl_concat]

lemma isAsciiDigit_iff : isAsciiDigit byte = true ↔ 0x30 ≤ byte.toNat ∧ byte.toNat ≤ 0x39 := by
  unfold isAsciiDigit
  rw [Bool.and_eq_true, decide_eq_true_eq, decide_eq_true_eq, UInt8.le_iff_toNat_le,
    UInt8.le_iff_toNat_le]
  rfl

lemma endsFirstParam_iff : endsFirstParam byte = true ↔
    byte.toNat = 0x3b ∨ byte.toNat = 0x3a ∨ byte.toNat = 0x20 := by
  unfold endsFirstParam
  rw [Bool.or_eq_true, Bool.or_eq_true, decide_eq_true_eq, decide_eq_true_eq, decide_eq_true_eq,
    ← UInt8.toNat_inj, ← UInt8.toNat_inj, ← UInt8.toNat_inj, or_assoc]
  rfl

lemma not_endsFirstParam_of_digit (h : isAsciiDigit byte = true) : endsFirstParam byte = false := by
  rw [isAsciiDigit_iff] at h
  rw [Bool.eq_false_iff]
  intro hends
  rw [endsFirstParam_iff] at hends
  omega

/-- As long as the first parameter is being collected, its digits grow with the body. -/
lemma firstParamDigits_concat (h : body.all (fun b => !endsFirstParam b) = true) (byte : UInt8) :
    firstParamDigits (body ++ [byte]) =
      firstParamDigits body ++ if isAsciiDigit byte = true then [byte] else [] := by
  rw [List.all_eq_true] at h
  unfold firstParamDigits
  rw [List.takeWhile_append_of_pos h, List.takeWhile_eq_self_iff.mpr h, List.filter_append]
  congr 1
  by_cases hdigit : isAsciiDigit byte = true
  · have hends := not_endsFirstParam_of_digit hdigit
    simp [hdigit, hends]
  · rw [if_neg hdigit, List.filter_eq_nil_iff]
    intro b hb
    obtain rfl := List.mem_singleton.mp ((List.takeWhile_subset _) hb)
    exact hdigit

/-- Behind the first parameter its digits stay. -/
lemma firstParamDigits_concat_of_ended (h : body.all (fun b => !endsFirstParam b) = false)
    (byte : UInt8) : firstParamDigits (body ++ [byte]) = firstParamDigits body := by
  unfold firstParamDigits
  rw [List.takeWhile_append]
  split
  · next hlength =>
    have hself := (List.takeWhile_prefix (fun b => !endsFirstParam b) (l := body)).eq_of_length hlength
    rw [List.takeWhile_eq_self_iff, ← List.all_eq_true, h] at hself
    cases hself
  · rfl

lemma firstParamDigits_of_digits (h : ∀ digit ∈ digits, isAsciiDigit digit = true) :
    firstParamDigits (digits ++ [spaceByte]) = digits := by
  have hall : digits.all (fun b => !endsFirstParam b) = true := by
    rw [List.all_eq_true]
    intro digit hdigit
    rw [not_endsFirstParam_of_digit (h digit hdigit)]
    rfl
  rw [firstParamDigits_concat hall, if_neg (by decide), List.append_nil]
  unfold firstParamDigits
  rw [List.takeWhile_eq_self_iff.mpr (List.all_eq_true.mp hall), List.filter_eq_self.mpr h]

/-! ### The state of the tracker -/

/-- The parameter that the tracker holds for these digits. -/
def heldParam (digits : List UInt8) : Option UInt16 :=
  if digits = [] then none else some (UInt16.ofNat (min (decimalValue digits) 65535))

lemma heldParam_toNat (digits : List UInt8) :
    ((heldParam digits).getD 0).toNat = min (decimalValue digits) 65535 := by
  unfold heldParam
  split
  · next h =>
    rw [h]
    rfl
  · rw [Option.getD_some, UInt16.toNat_ofNat']
    omega

lemma saturatingMulTen_toNat (value : UInt16) :
    (saturatingMulTen value).toNat = min (value.toNat * 10) 65535 := by
  unfold saturatingMulTen
  rw [UInt16.toNat_ofNat']
  omega

lemma digitValue_toNat (h : isAsciiDigit byte = true) :
    (digitValue byte).toNat = byte.toNat - 0x30 := by
  rw [isAsciiDigit_iff] at h
  unfold digitValue
  rw [UInt16.toNat_ofNat']
  omega

/-- The digit stays within `u16` exactly when it may follow the digits before it. -/
lemma digit_fits_iff (h : isAsciiDigit byte = true) :
    (saturatingMulTen ((heldParam digits).getD 0)).toNat + (digitValue byte).toNat ≤ 65535 ↔
      decimalValue (digits ++ [byte]) ≤ 65535 ∨ byte = 0x30 := by
  have hzero : byte = 0x30 ↔ byte.toNat = 0x30 := UInt8.toNat_inj.symm
  rw [hzero, saturatingMulTen_toNat, heldParam_toNat, digitValue_toNat h, decimalValue_concat]
  rw [isAsciiDigit_iff] at h
  omega

lemma heldParam_concat (h : isAsciiDigit byte = true)
    (hfits : decimalValue (digits ++ [byte]) ≤ 65535 ∨ byte = 0x30) :
    some (saturatingMulTen ((heldParam digits).getD 0) + digitValue byte) =
      heldParam (digits ++ [byte]) := by
  have hheld : heldParam (digits ++ [byte]) =
      some (UInt16.ofNat (min (decimalValue (digits ++ [byte])) 65535)) :=
    if_neg (List.append_ne_nil_of_right_ne_nil _ (List.cons_ne_nil _ _))
  have hzero : byte = 0x30 ↔ byte.toNat = 0x30 := UInt8.toNat_inj.symm
  rw [hheld, Option.some_inj, ← UInt16.toNat_inj, UInt16.toNat_add, UInt16.toNat_ofNat',
    saturatingMulTen_toNat, heldParam_toNat, digitValue_toNat h]
  rw [hzero] at hfits
  rw [decimalValue_concat] at hfits ⊢
  rw [isAsciiDigit_iff] at h
  omega

/-- The state of the tracker, from the bytes behind the last escape. -/
def stateOf : Option (List UInt8) → DecscusrParseState
  | none => .ground
  | some [] => .escape
  | some (bracket :: body) =>
    if bracket = leftBracket ∧ body.all (fun byte => 0x20 ≤ byte && byte ≤ 0x3f) then
      .csi (heldParam (firstParamDigits body)) (body.all fun b => !endsFirstParam b)
        (decide (spaceByte ∈ body))
    else .ground

lemma csiBody_eq_some_iff : csiBody seen = some body ↔
    behindLast esc seen = some (leftBracket :: body) ∧
      body.all (fun byte => 0x20 ≤ byte && byte ≤ 0x3f) = true := by
  unfold csiBody
  cases h : behindLast esc seen with
  | none => simp
  | some rest =>
    cases rest with
    | nil => simp
    | cons bracket rest =>
      dsimp only
      constructor
      · intro hbody
        split at hbody
        · next hall =>
          obtain rfl := Option.some.inj hbody
          rw [hall.1]
          exact ⟨rfl, hall.2⟩
        · cases hbody
      · rintro ⟨hrest, hall⟩
        obtain ⟨rfl, rfl⟩ := List.cons.inj (Option.some.inj hrest)
        rw [if_pos ⟨rfl, hall⟩]

/-- A byte that may stand in the body of a sequence. -/
def isBodyByte (byte : UInt8) : Bool := 0x20 ≤ byte && byte ≤ 0x3f

lemma isBodyByte_iff : isBodyByte byte = true ↔ 0x20 ≤ byte.toNat ∧ byte.toNat ≤ 0x3f := by
  unfold isBodyByte
  rw [Bool.and_eq_true, decide_eq_true_eq, decide_eq_true_eq, UInt8.le_iff_toNat_le,
    UInt8.le_iff_toNat_le]
  rfl

lemma stateOf_csi (h : body.all isBodyByte = true) : stateOf (some (leftBracket :: body)) =
    .csi (heldParam (firstParamDigits body)) (body.all fun b => !endsFirstParam b)
      (decide (spaceByte ∈ body)) :=
  if_pos ⟨rfl, h⟩

lemma stateOf_ground {bracket : UInt8} (h : ¬ (bracket = leftBracket ∧ body.all isBodyByte = true)) :
    stateOf (some (bracket :: body)) = .ground :=
  if_neg h

/-- The tracker in the middle of a sequence. -/
def inCsi (body : List UInt8) (overridden : Bool) : DecscusrTracker :=
  ⟨.csi (heldParam (firstParamDigits body)) (body.all fun b => !endsFirstParam b)
    (decide (spaceByte ∈ body)), overridden⟩

/-- Only a byte of a body keeps the sequence open, and the body grows by it. -/
lemma state_inCsi (hbody : body.all isBodyByte = true) (hesc : byte ≠ esc)
    (hfits : isAsciiDigit byte = true → body.all (fun b => !endsFirstParam b) = true →
      decimalValue (firstParamDigits body ++ [byte]) ≤ 65535 ∨ byte = 0x30) (overridden : Bool) :
    ((inCsi body overridden).observeByte byte).state =
      stateOf (some (leftBracket :: (body ++ [byte]))) := by
  have hall : (body ++ [byte]).all isBodyByte = isBodyByte byte := by
    rw [List.all_append, hbody, Bool.true_and, List.all_cons, List.all_nil, Bool.and_true]
  have hends : (body ++ [byte]).all (fun b => !endsFirstParam b) =
      (body.all (fun b => !endsFirstParam b) && !endsFirstParam byte) := by
    rw [List.all_append, List.all_cons, List.all_nil, Bool.and_true]
  have hspace : decide (spaceByte ∈ body ++ [byte]) =
      (decide (spaceByte ∈ body) || decide (byte = spaceByte)) := by
    rw [← Bool.decide_or]
    simp [eq_comm]
  unfold inCsi DecscusrTracker.observeByte
  dsimp only
  rw [if_neg hesc]
  by_cases hcollected : isAsciiDigit byte = true ∧ body.all (fun b => !endsFirstParam b) = true
  · obtain ⟨hdigit, hcollecting⟩ := hcollected
    have hnumber := isAsciiDigit_iff.mp hdigit
    have hbyte : isBodyByte byte = true := isBodyByte_iff.mpr (by omega)
    have hnospace : byte ≠ spaceByte := by
      rintro rfl
      revert hdigit
      decide
    rw [if_pos (by rw [hdigit, hcollecting]; rfl), stateOf_csi (hall.trans hbyte), hends, hspace,
      firstParamDigits_concat hcollecting, if_pos hdigit,
      heldParam_concat hdigit (hfits hdigit hcollecting), not_endsFirstParam_of_digit hdigit,
      decide_eq_false hnospace, Bool.or_false, Bool.not_false, Bool.and_true]
  have hdigits : firstParamDigits (body ++ [byte]) = firstParamDigits body := by
    cases hcollecting : body.all (fun b => !endsFirstParam b) with
    | true =>
      rw [firstParamDigits_concat hcollecting, if_neg fun hdigit => hcollected ⟨hdigit, hcollecting⟩,
        List.append_nil]
    | false => exact firstParamDigits_concat_of_ended hcollecting byte
  have hnot : (isAsciiDigit byte && body.all (fun b => !endsFirstParam b)) ≠ true := by
    rwa [Ne, Bool.and_eq_true]
  rw [if_neg hnot]
  by_cases hsep : byte = semicolon ∨ byte = colonByte
  · have hclean : isBodyByte byte = true ∧ endsFirstParam byte = true ∧ byte ≠ spaceByte := by
      rcases hsep with rfl | rfl <;> decide
    rw [if_pos (by simpa using hsep), stateOf_csi (hall.trans hclean.1), hends, hspace, hdigits,
      hclean.2.1, decide_eq_false hclean.2.2, Bool.or_false, Bool.not_true, Bool.and_false]
  rw [if_neg (by simpa using hsep)]
  by_cases hsp : byte = spaceByte
  · have hclean : isBodyByte byte = true ∧ endsFirstParam byte = true := by
      rw [hsp]
      decide
    rw [if_pos hsp, stateOf_csi (hall.trans hclean.1), hends, hspace, hdigits, hclean.2,
      decide_eq_true hsp, Bool.or_true, Bool.not_true, Bool.and_false]
  rw [if_neg hsp]
  have hnotends : endsFirstParam byte = false := by
    unfold endsFirstParam
    simp [hsp, not_or.mp hsep]
  cases hbyte : isBodyByte byte with
  | true =>
    have hnumber := isBodyByte_iff.mp hbyte
    have hfinal : ¬ (0x40 ≤ byte ∧ byte ≤ 0x7e) := by
      rw [UInt8.le_iff_toNat_le]
      change ¬ (64 ≤ _ ∧ _)
      omega
    rw [if_neg (by simpa using hfinal), if_neg (by unfold isBodyByte at hbyte; simp [hbyte]),
      stateOf_csi (hall.trans hbyte), hends, hspace, hdigits, hnotends, decide_eq_false hsp,
      Bool.or_false, Bool.not_false, Bool.and_true]
  | false =>
    have hground : stateOf (some (leftBracket :: (body ++ [byte]))) = .ground := by
      refine stateOf_ground fun h => ?_
      rw [hall, hbyte] at h
      cases h.2
    rw [hground]
    split
    · split <;> rfl
    · rw [if_pos (by unfold isBodyByte at hbyte; simp [hbyte])]

lemma state_observeByte_esc (tracker : DecscusrTracker) :
    (tracker.observeByte esc).state = .escape := by
  obtain ⟨state, overridden⟩ := tracker
  cases state <;> rfl

/-- The tracker's state is that of the bytes behind the last escape. -/
lemma state_observeByte {tracker : DecscusrTracker}
    (hstate : tracker.state = stateOf (behindLast esc seen))
    (hfits : ∀ body, csiBody seen = some body → isAsciiDigit byte = true →
      body.all (fun b => !endsFirstParam b) = true →
      decimalValue (firstParamDigits body ++ [byte]) ≤ 65535 ∨ byte = 0x30) :
    (tracker.observeByte byte).state = stateOf (behindLast esc (seen ++ [byte])) := by
  rw [behindLast_concat]
  by_cases hesc : byte = esc
  · rw [if_pos hesc, hesc, state_observeByte_esc]
    rfl
  rw [if_neg hesc]
  obtain ⟨state, overridden⟩ := tracker
  obtain rfl : state = _ := hstate
  cases h : behindLast esc seen with
  | none =>
    unfold DecscusrTracker.observeByte
    dsimp only [stateOf]
    rw [if_neg hesc]
    rfl
  | some rest =>
    cases rest with
    | nil =>
      unfold DecscusrTracker.observeByte
      dsimp only [stateOf]
      by_cases hbracket : byte = leftBracket
      · rw [if_pos hbracket, hbracket]
        rfl
      · rw [if_neg hbracket, if_neg hesc]
        exact (stateOf_ground fun h => hbracket h.1).symm
    | cons bracket body =>
      by_cases hbody : bracket = leftBracket ∧ body.all isBodyByte = true
      · obtain ⟨rfl, hbody⟩ := hbody
        have hcsi : csiBody seen = some body := csiBody_eq_some_iff.mpr ⟨h, hbody⟩
        rw [stateOf_csi hbody]
        exact state_inCsi hbody hesc (hfits body hcsi) overridden
      · have hmore : ¬ (bracket = leftBracket ∧ (body ++ [byte]).all isBodyByte = true) := by
          rw [List.all_append, Bool.and_eq_true]
          exact fun hall => hbody ⟨hall.1, hall.2.1⟩
        rw [stateOf_ground hbody]
        change _ = stateOf (some (bracket :: (body ++ [byte])))
        rw [stateOf_ground hmore]
        unfold DecscusrTracker.observeByte
        dsimp only
        rw [if_neg hesc]

/-! ### Commands -/

/-- A command is completed by a `q` behind a body of digits and a space. -/
lemma endsInDecscusr_concat : EndsInDecscusr (seen ++ [byte]) value ↔ byte = letterQ ∧
    ∃ digits, csiBody seen = some (digits ++ [spaceByte]) ∧
      (∀ digit ∈ digits, isAsciiDigit digit = true) ∧ decimalValue digits = value := by
  constructor
  · rintro ⟨front, digits, h, hdigits, hvalue⟩
    have hsplit : seen ++ [byte] =
        (front ++ esc :: leftBracket :: (digits ++ [spaceByte])) ++ [letterQ] := by
      rw [h]
      simp [decscusr]
    obtain ⟨hseen, hbyte⟩ := List.append_inj' hsplit rfl
    have hesc : esc ∉ digits := by
      intro hmem
      have hdigit := hdigits esc hmem
      revert hdigit
      decide
    have hall : ∀ b ∈ digits ++ [spaceByte], isBodyByte b = true := by
      intro b hb
      rcases List.mem_append.mp hb with hb | hb
      · have hnumber := isAsciiDigit_iff.mp (hdigits b hb)
        exact isBodyByte_iff.mpr (by omega)
      · rw [List.mem_singleton.mp hb]
        decide
    refine ⟨List.singleton_injective hbyte, digits, csiBody_eq_some_iff.mpr
      ⟨behindLast_eq_some_iff.mpr ⟨front, hseen, ?_⟩, List.all_eq_true.mpr hall⟩, hdigits, hvalue⟩
    simp only [List.mem_cons, List.mem_append, List.not_mem_nil, or_false, not_or]
    exact ⟨by decide, hesc, by decide⟩
  · rintro ⟨rfl, digits, hbody, hdigits, hvalue⟩
    obtain ⟨front, hseen, -⟩ := behindLast_eq_some_iff.mp (csiBody_eq_some_iff.mp hbody).1
    refine ⟨front, digits, ?_, hdigits, hvalue⟩
    rw [hseen]
    simp [decscusr]

/-- A completed command of at most 6 decides the shape. -/
lemma shapeSet_concat_of_command
    (hbody : csiBody seen = some (digits ++ [spaceByte]))
    (hdigits : ∀ digit ∈ digits, isAsciiDigit digit = true) (hle : decimalValue digits ≤ 6) :
    ShapeSet (seen ++ [letterQ]) ↔ decimalValue digits ≠ 0 := by
  have hends : EndsInDecscusr (seen ++ [letterQ]) (decimalValue digits) :=
    endsInDecscusr_concat.mpr ⟨rfl, digits, hbody, hdigits, rfl⟩
  have hunique : ∀ w, EndsInDecscusr (seen ++ [letterQ]) w ∧ w ≤ 6 → w = decimalValue digits := by
    rintro w ⟨hw, -⟩
    obtain ⟨-, digits', hbody', -, rfl⟩ := endsInDecscusr_concat.mp hw
    rw [hbody, Option.some_inj] at hbody'
    rw [List.append_inj_left' hbody' rfl]
  unfold ShapeSet
  constructor
  · rintro ⟨v, hv, hlatest⟩
    rwa [← (latest_concat_of_event ⟨hends, hle⟩ hunique).mp hlatest]
  · exact fun h => ⟨_, h, (latest_concat_of_event ⟨hends, hle⟩ hunique).mpr rfl⟩

/-- Any other byte leaves the shape that was asked for. -/
lemma shapeSet_concat_of_not (h : ∀ value, EndsInDecscusr (seen ++ [byte]) value → 6 < value) :
    ShapeSet (seen ++ [byte]) ↔ ShapeSet seen := by
  have hnone : ∀ w, ¬ (EndsInDecscusr (seen ++ [byte]) w ∧ w ≤ 6) := by
    rintro w ⟨hw, hle⟩
    exact absurd (h w hw) (by omega)
  unfold ShapeSet
  exact exists_congr fun v => and_congr_right fun _ => latest_concat_of_not hnone

/-! ### One byte -/

variable (byte) in
/-- The flag after a byte. -/
lemma overridden_observeByte {tracker : DecscusrTracker}
    (hstate : tracker.state = stateOf (behindLast esc seen)) :
    (∃ body, csiBody seen = some body ∧ byte = letterQ ∧ spaceByte ∈ body ∧
      decimalValue (firstParamDigits body) ≤ 6 ∧
      (tracker.observeByte byte).cursorShapeOverridden =
        decide (decimalValue (firstParamDigits body) ≠ 0)) ∨
    (∀ body, csiBody seen = some body → byte = letterQ → spaceByte ∈ body →
      6 < decimalValue (firstParamDigits body)) ∧
      (tracker.observeByte byte).cursorShapeOverridden = tracker.cursorShapeOverridden := by
  obtain ⟨state, overridden⟩ := tracker
  obtain rfl : state = _ := hstate
  cases hcsi : csiBody seen with
  | none =>
    refine .inr ⟨fun body h => (nomatch h), ?_⟩
    have hstate : stateOf (behindLast esc seen) = .ground ∨
        stateOf (behindLast esc seen) = .escape := by
      cases h : behindLast esc seen with
      | none => exact .inl rfl
      | some rest =>
        cases rest with
        | nil => exact .inr rfl
        | cons bracket body =>
          refine .inl (stateOf_ground fun hbody => ?_)
          obtain ⟨rfl, hbody⟩ := hbody
          rw [csiBody_eq_some_iff.mpr ⟨h, hbody⟩] at hcsi
          cases hcsi
    rcases hstate with h | h <;>
    · rw [h]
      unfold DecscusrTracker.observeByte
      dsimp only
      split_ifs <;> rfl
  | some body =>
    obtain ⟨hbehind, hbody⟩ := csiBody_eq_some_iff.mp hcsi
    have hle : (heldParam (firstParamDigits body)).getD 0 ≤ 6 ↔
        decimalValue (firstParamDigits body) ≤ 6 := by
      rw [UInt16.le_iff_toNat_le, heldParam_toNat]
      change _ ≤ 6 ↔ _
      omega
    have hzero : (heldParam (firstParamDigits body)).getD 0 ≠ 0 ↔
        decimalValue (firstParamDigits body) ≠ 0 := by
      rw [Ne, ← UInt16.toNat_inj, heldParam_toNat]
      change ¬ _ = 0 ↔ _
      omega
    rw [hbehind, stateOf_csi hbody]
    by_cases hcommand : byte = letterQ ∧ spaceByte ∈ body ∧ decimalValue (firstParamDigits body) ≤ 6
    · obtain ⟨rfl, hspace, hvalue⟩ := hcommand
      refine .inl ⟨body, rfl, rfl, hspace, hvalue, ?_⟩
      have hq : isAsciiDigit letterQ = false := by decide
      unfold DecscusrTracker.observeByte
      dsimp only
      rw [if_neg (by decide), hq, Bool.false_and, if_neg Bool.false_ne_true, if_neg (by decide),
        if_neg (by decide), if_pos (by decide), if_pos (by simp [hspace, hle, hvalue])]
      exact decide_eq_decide.mpr hzero
    · refine .inr ⟨?_, ?_⟩
      · rintro body' h rfl hspace
        obtain rfl := Option.some.inj h
        by_contra hvalue
        exact hcommand ⟨rfl, hspace, by omega⟩
      · unfold DecscusrTracker.observeByte
        dsimp only
        split_ifs with _ _ _ _ _ hset
        all_goals first | rfl | skip
        simp only [Bool.and_eq_true, decide_eq_true_eq] at hset
        exact absurd ⟨hset.1.1, hset.1.2, hle.mp hset.2⟩ hcommand

/-- The byte stays within `u16` exactly when the digits before it admit it. -/
lemma overflows_eq_false_iff {tracker : DecscusrTracker}
    (hstate : tracker.state = stateOf (behindLast esc seen)) :
    tracker.overflows byte = false ↔ ∀ body, csiBody seen = some body → isAsciiDigit byte = true →
      body.all (fun b => !endsFirstParam b) = true →
      decimalValue (firstParamDigits body ++ [byte]) ≤ 65535 ∨ byte = 0x30 := by
  obtain ⟨state, overridden⟩ := tracker
  obtain rfl : state = _ := hstate
  cases hcsi : csiBody seen with
  | none =>
    refine ⟨fun _ body h => (nomatch h), fun _ => ?_⟩
    cases h : behindLast esc seen with
    | none => rfl
    | some rest =>
      cases rest with
      | nil => rfl
      | cons bracket body =>
        rw [stateOf_ground]
        · rfl
        · rintro ⟨rfl, hbody⟩
          rw [csiBody_eq_some_iff.mpr ⟨h, hbody⟩] at hcsi
          cases hcsi
  | some body =>
    obtain ⟨hbehind, hbody⟩ := csiBody_eq_some_iff.mp hcsi
    rw [hbehind, stateOf_csi hbody]
    unfold DecscusrTracker.overflows
    cases hcollecting : body.all (fun b => !endsFirstParam b) with
    | false =>
      refine ⟨fun _ body' h _ hall => ?_, fun _ => rfl⟩
      rw [← Option.some.inj h, hcollecting] at hall
      cases hall
    | true =>
      dsimp only
      rw [Bool.and_eq_false_imp, decide_eq_false_iff_not, not_lt]
      constructor
      · rintro h body' hbody' hdigit -
        rw [← Option.some.inj hbody', ← digit_fits_iff hdigit]
        exact h hdigit
      · intro h hdigit
        exact (digit_fits_iff hdigit).mpr (h body rfl hdigit hcollecting)

/-- The flag follows the stream over a byte exactly when a sequence that is no command leaves it. -/
lemma overridden_follows_iff {tracker : DecscusrTracker}
    (hstate : tracker.state = stateOf (behindLast esc seen))
    (hflag : tracker.cursorShapeOverridden = true ↔ ShapeSet seen) :
    ((tracker.observeByte byte).cursorShapeOverridden = true ↔ ShapeSet (seen ++ [byte])) ↔
      ∀ body, csiBody seen = some body → byte = letterQ → spaceByte ∈ body →
        (∀ digits, (∀ digit ∈ digits, isAsciiDigit digit = true) → body ≠ digits ++ [spaceByte]) →
        decimalValue (firstParamDigits body) ≤ 6 →
        (decimalValue (firstParamDigits body) ≠ 0 ↔ ShapeSet seen) := by
  rcases overridden_observeByte byte hstate with
    ⟨body, hcsi, rfl, hspace, hle, hset⟩ | ⟨hno, hkept⟩
  · rw [hset, decide_eq_true_eq]
    by_cases hplain : ∃ digits, (∀ digit ∈ digits, isAsciiDigit digit = true) ∧
        body = digits ++ [spaceByte]
    · obtain ⟨digits, hdigits, rfl⟩ := hplain
      rw [firstParamDigits_of_digits hdigits] at hle ⊢
      refine ⟨fun _ body' h _ _ hnot => ?_, fun _ => ?_⟩
      · rw [hcsi, Option.some_inj] at h
        exact absurd h.symm (hnot digits hdigits)
      · exact (shapeSet_concat_of_command hcsi hdigits hle).symm
    · push Not at hplain
      have hshape : ShapeSet (seen ++ [letterQ]) ↔ ShapeSet seen := by
        refine shapeSet_concat_of_not fun value hvalue => ?_
        obtain ⟨-, digits, hbody, hdigits, -⟩ := endsInDecscusr_concat.mp hvalue
        rw [hcsi, Option.some_inj] at hbody
        exact absurd hbody (hplain digits hdigits)
      rw [hshape]
      refine ⟨fun h body' hbody' _ _ _ _ => ?_, fun h => h body hcsi rfl hspace hplain hle⟩
      rw [hcsi, Option.some_inj] at hbody'
      rwa [← hbody']
  · have hshape : ShapeSet (seen ++ [byte]) ↔ ShapeSet seen := by
      refine shapeSet_concat_of_not fun value hvalue => ?_
      obtain ⟨hq, digits, hbody, hdigits, rfl⟩ := endsInDecscusr_concat.mp hvalue
      have hlarge := hno _ hbody hq (List.mem_append_right _ (List.mem_singleton_self _))
      rwa [firstParamDigits_of_digits hdigits] at hlarge
    rw [hkept, hflag, hshape]
    refine ⟨fun _ body hbody hq hspace _ hle => ?_, fun _ => Iff.rfl⟩
    have hlarge := hno body hbody hq hspace
    omega

/-! ### Streams -/

/-- What the tracker is for: no addition leaves `u16`, and at every point of the stream it knows
whether the last command asks for a shape. -/
structure FollowsShape (stream : List UInt8) : Prop where
  fits : ∀ seen byte, seen ++ [byte] <+: stream →
    (DecscusrTracker.default.observe seen).overflows byte = false
  shape : ∀ seen, seen <+: stream →
    ((DecscusrTracker.default.observe seen).cursorShapeOverridden = true ↔ ShapeSet seen)

lemma state_observe (h : AllSteps Admitted bytes) :
    (DecscusrTracker.default.observe bytes).state = stateOf (behindLast esc bytes) :=
  @foldl_history _ _ bytes DecscusrTracker.observeByte
    (fun seen tracker => tracker.state = stateOf (behindLast esc seen)) Admitted .default rfl
    (fun _ _ _ hstate hok => state_observeByte hstate fun body hbody => (hok body hbody).1) h

lemma observe_concat (seen : List UInt8) (byte : UInt8) :
    DecscusrTracker.default.observe (seen ++ [byte]) =
      (DecscusrTracker.default.observe seen).observeByte byte :=
  List.foldl_concat ..

/-- Over one more byte the tracker follows the stream exactly when the byte is admitted. -/
lemma follows_concat_iff (hseen : AllSteps Admitted seen)
    (hflag : (DecscusrTracker.default.observe seen).cursorShapeOverridden = true ↔ ShapeSet seen) :
    ((DecscusrTracker.default.observe seen).overflows byte = false ∧
      ((DecscusrTracker.default.observe (seen ++ [byte])).cursorShapeOverridden = true ↔
        ShapeSet (seen ++ [byte]))) ↔ Admitted seen byte := by
  have hstate := state_observe hseen
  rw [observe_concat, overflows_eq_false_iff hstate, overridden_follows_iff hstate hflag]
  unfold Admitted
  exact ⟨fun h body hbody => ⟨h.1 body hbody, h.2 body hbody⟩,
    fun h => ⟨fun body hbody => (h body hbody).1, fun body hbody => (h body hbody).2⟩⟩

lemma shapeSet_nil : ¬ ShapeSet [] := by
  rintro ⟨value, -, hlatest⟩
  refine latest_nil ?_ hlatest
  rintro v ⟨⟨front, digits, h, -⟩, -⟩
  cases front <;> cases h

/-- However the stream is cut, the tracker follows it exactly as long as every byte is admitted
behind the ones before it. -/
theorem observe_followsShape_iff (chunks : List (List UInt8)) :
    chunks.foldl DecscusrTracker.observe .default = DecscusrTracker.default.observe chunks.flatten ∧
      (FollowsShape chunks.flatten ↔ AllSteps Admitted chunks.flatten) := by
  refine ⟨List.foldl_flatten.symm, ?_⟩
  have hgood : FollowsShape chunks.flatten ↔ ∀ seen, seen <+: chunks.flatten →
      (∀ front byte, seen = front ++ [byte] →
        (DecscusrTracker.default.observe front).overflows byte = false) ∧
      ((DecscusrTracker.default.observe seen).cursorShapeOverridden = true ↔ ShapeSet seen) := by
    constructor
    · rintro ⟨hfits, hshape⟩ seen hseen
      refine ⟨?_, hshape seen hseen⟩
      rintro front byte rfl
      exact hfits front byte hseen
    · intro h
      exact ⟨fun seen byte hseen => (h _ hseen).1 seen byte rfl, fun seen hseen => (h seen hseen).2⟩
  rw [hgood]
  refine forall_prefix_iff_allSteps ⟨fun front byte h => ?_, ?_⟩ ?_
  · exact absurd h.symm (List.append_ne_nil_of_right_ne_nil _ (List.cons_ne_nil _ _))
  · exact ⟨fun h => (nomatch h), fun h => absurd h shapeSet_nil⟩
  · rintro seen byte hseen ⟨-, hflag⟩
    rw [← follows_concat_iff hseen hflag]
    refine and_congr_left fun _ => ⟨fun h => h seen byte rfl, ?_⟩
    rintro h front byte' hfront
    obtain ⟨rfl, hlast⟩ := List.append_inj' hfront rfl
    obtain rfl := List.singleton_injective hlast
    exact h

/-- Shape 1, then a parameter of 65536, which a `u16` takes for 0. -/
def largeParam : List UInt8 := asciiBytes "\x1b[1 q\x1b[65536 q"

/-- The last digit leaves `u16`, and the tracker drops the shape that is still set. -/
theorem largeParam_not_followed : ¬ FollowsShape [largeParam].flatten ∧
    (DecscusrTracker.default.observe (largeParam.take 11)).overflows 0x36 = true ∧
    (DecscusrTracker.default.observe largeParam).cursorShapeOverridden = false := by
  have hoverflow : (DecscusrTracker.default.observe (largeParam.take 11)).overflows 0x36 = true := by
    decide
  refine ⟨fun h => ?_, hoverflow, by decide⟩
  have hfits := h.fits (largeParam.take 11) 0x36 (by decide)
  rw [hoverflow] at hfits
  cases hfits

/-- The terminal's own shape is reported unless the last command asks for another. -/
lemma cursorShape_eq_zero (h : FollowsShape bytes) (hset : ¬ ShapeSet bytes)
    (style : Option CursorVisualStyle) (blinking : Option Bool) :
    cursorShape (DecscusrTracker.default.observe bytes) style blinking = 0 := by
  have hflag := (h.shape bytes List.prefix_rfl).not.mpr hset
  unfold cursorShape
  rw [if_neg hflag]

end

end Ork3.Pane
