import Ork3.Model.KeyboardTerminal
import Ork3.Proofs.KittyKeyboard

/-!
# The keyboard tracker and the terminal

The tracker takes every change of the flags for a replacement, follows one screen only, reads the
count of a pop as a positive number of 16 bits and has no limit on its stack. Where that makes no
difference it has the flags of the terminal, and under them what the terminal has on the stack of the
screen that is shown.
-/

namespace Ork3.Pane.KittyKeyboard

open Ork3.Library

namespace KeyboardSequence

/-- The bytes of a run. -/
def runBytes (seqs : List KeyboardSequence) : List UInt8 := (seqs.map bytes).flatten

/-- The parameters that the tracker sees of a sequence. -/
def seen (s : KeyboardSequence) : List (List UInt8) :=
  match s.csi with
  | some (params, final) => if final = uByte then [params] else []
  | none => []

end KeyboardSequence

/-- The value of a parameter; one that is omitted is zero. -/
def valueOf (p : Option Param) : Nat := (p.map Param.value).getD 0

/-- The entries of the tracker, counted as those of the terminal. -/
def KittyKeyboardTracker.entry (t : KittyKeyboardTracker) (k : Nat) : UInt16 :=
  (t.flags :: t.stack.reverse)[k]?.getD 0

/-- The tracker and the terminal have the same flags now and after any number of pops. -/
def Agrees (t : KittyKeyboardTracker) (s : FlagStack) : Prop :=
  ∀ k, t.entry k = UInt16.ofNat (s.entry k).toNat

namespace Terminal

/-- The screen that a control sequence leaves shown, if it switches at all. -/
def switchTarget (t : Terminal) (params : List UInt8) (final : UInt8) : Option Bool :=
  match params with
  | [] => none
  | intermediate :: rest =>
    let mode := (((csiParams rest).getD []).filterMap ScreenMode.fromInt).getLast?
    if intermediate ≠ 0x3f then none
    else if final = 0x68 then mode.map fun _ => true
    else if final = 0x6c then mode.map fun _ => false
    else if final = 0x72 then mode.map t.saved
    else none

/-- The tracker does with the sequence what the terminal does: flags have five bits, those that are
added hold all that are in force, those that are cleared leave what is cleared, a push moves no flags
out of the ring, a pop has a count from 1 to 65535 or finds nothing for which the count matters, and
the screen that is switched to has the flags of the one that is left. -/
def Followed (t : Terminal) : KeyboardSequence → Prop
  | .push flags => valueOf flags < 32 ∧ t.active.entry 7 = 0
  | .set flags (some (_, .or)) =>
    valueOf flags < 32 ∧ t.active.current ||| .ofNat 5 (valueOf flags) = .ofNat 5 (valueOf flags)
  | .set flags (some (_, .not)) => valueOf flags = 0 ∧ t.active.current = 0
  | .set flags _ => valueOf flags < 32
  | .pop none => True
  | .pop (some count) =>
    (1 ≤ count.value ∧ count.value ≤ 65535) ∨ (count.value = 0 ∧ ∀ k < 8, t.active.entry k = 0) ∨
      (65535 < count.value ∧ ∀ k < 7, t.active.entry (k + 1) = 0)
  | .other params final => ∀ alternate ∈ t.switchTarget params final,
      t.alternate = alternate ∨ ∀ k < 8, t.inactive.entry k = t.active.entry k
  | .text _ => True

instance (t : Terminal) : (s : KeyboardSequence) → Decidable (t.Followed s)
  | .push _ => inferInstanceAs (Decidable (_ ∧ _))
  | .set _ none => inferInstanceAs (Decidable (_ < _))
  | .set _ (some (_, .set)) => inferInstanceAs (Decidable (_ < _))
  | .set _ (some (_, .or)) => inferInstanceAs (Decidable (_ ∧ _))
  | .set _ (some (_, .not)) => inferInstanceAs (Decidable (_ ∧ _))
  | .pop none => isTrue trivial
  | .pop (some _) => inferInstanceAs (Decidable (_ ∨ _ ∨ _))
  | .other _ _ => inferInstanceAs (Decidable (∀ _ ∈ _, _ ∨ _))
  | .text _ => isTrue trivial

/-- Every sequence of the run is followed. -/
def AllFollowed (t : Terminal) : List KeyboardSequence → Prop
  | [] => True
  | s :: seqs => t.Followed s ∧ (t.apply s).AllFollowed seqs

instance instDecidableAllFollowed :
    (t : Terminal) → (seqs : List KeyboardSequence) → Decidable (t.AllFollowed seqs)
  | _, [] => isTrue trivial
  | t, s :: seqs =>
    have := instDecidableAllFollowed (t.apply s) seqs
    inferInstanceAs (Decidable (_ ∧ _))

end Terminal

namespace KeyboardSequence

/-! ### The bytes of a sequence -/

lemma isDigit_optionalDigits (p : Option Param) : ∀ c ∈ optionalDigits p, c.isDigit = true := by
  intro c hc
  cases p with
  | none => cases hc
  | some p =>
    rcases List.mem_append.mp hc with hzero | hdigit
    · rw [List.eq_of_mem_replicate hzero]
      decide
    · exact isDigit_of_mem_decimal hdigit

lemma isDigit_mode (zeros : Nat) (mode : SetMode) :
    ∀ c ∈ List.replicate zeros '0' ++ [mode.number], c.isDigit = true := by
  intro c hc
  rcases List.mem_append.mp hc with hzero | hmode
  · rw [List.eq_of_mem_replicate hzero]
    decide
  · rw [List.mem_singleton.mp hmode]
    cases mode <;> decide

/-- The operands of a set with a mode are two parameters. -/
lemma ascii_set (flags : Option Param) (zeros : Nat) (mode : SetMode) :
    ascii (set flags (some (zeros, mode))).operands =
      ascii (optionalDigits flags) ++ semicolonByte ::
        ascii (List.replicate zeros '0' ++ [mode.number]) := by
  simp [operands, ascii, semicolonByte]

lemma not_final_operands (s : KeyboardSequence) :
    ∀ byte ∈ ascii s.operands, isFinalByte byte = false := by
  intro byte hb
  cases s with
  | push flags => exact not_final_digits (isDigit_optionalDigits flags) byte hb
  | set flags mode =>
    rcases mode with _ | ⟨zeros, mode⟩
    · exact not_final_digits (isDigit_optionalDigits flags) byte hb
    · rw [ascii_set] at hb
      rcases List.mem_append.mp hb with hflags | hmode
      · exact not_final_digits (isDigit_optionalDigits flags) byte hflags
      · rcases List.mem_cons.mp hmode with rfl | hmode
        · decide
        · exact not_final_digits (isDigit_mode zeros mode) byte hmode
  | pop count => exact not_final_digits (isDigit_optionalDigits count) byte hb
  | other params final => cases hb
  | text bytes => cases hb

/-- A control sequence ends at its final byte and not before. -/
lemma final_of_csi {s : KeyboardSequence} (h : s.WellFormed) {params : List UInt8} {final : UInt8}
    (hcsi : s.csi = some (params, final)) :
    (∀ byte ∈ params, isFinalByte byte = false) ∧ isFinalByte final = true := by
  have hkitty {kind : UInt8} (hkind : isFinalByte kind = false)
      (heq : some (kind :: ascii s.operands, uByte) = some (params, final)) :
      (∀ byte ∈ params, isFinalByte byte = false) ∧ isFinalByte final = true := by
    cases heq
    refine ⟨fun byte hb => ?_, by decide⟩
    rcases List.mem_cons.mp hb with rfl | hb
    · exact hkind
    · exact not_final_operands s byte hb
  cases s with
  | push flags => exact hkitty (by decide) hcsi
  | set flags mode => exact hkitty (by decide) hcsi
  | pop count => exact hkitty (by decide) hcsi
  | other params' final' =>
    cases hcsi
    obtain ⟨hparams, hfinal, -⟩ := h
    refine ⟨fun byte hb => ?_, hfinal⟩
    have hle := (hparams byte hb).2
    have hlt : ¬(0x40 : UInt8) ≤ byte := by
      rw [UInt8.le_iff_toNat_le] at hle ⊢
      change byte.toNat ≤ 63 at hle
      change ¬64 ≤ byte.toNat
      omega
    simp [isFinalByte, hlt]
  | text bytes => cases hcsi

lemma bytes_of_csi {s : KeyboardSequence} {params : List UInt8} {final : UInt8}
    (h : s.csi = some (params, final)) :
    s.bytes = escByte :: bracketByte :: (params ++ [final]) := by
  cases s with
  | text bytes => cases h
  | _ =>
    cases h
    rfl

/-- A complete sequence leaves the reader on the ground. -/
lemma scan_bytes {s : KeyboardSequence} (h : s.WellFormed) (rest : List UInt8) :
    scan CsiReader.step .ground (s.bytes ++ rest) =
      ((scan CsiReader.step .ground rest).1, s.seen ++ (scan CsiReader.step .ground rest).2) := by
  cases hcsi : s.csi with
  | some control =>
    obtain ⟨params, final⟩ := control
    obtain ⟨hparams, hfinal⟩ := final_of_csi h hcsi
    have hsplit : s.bytes ++ rest = escByte :: bracketByte :: (params ++ final :: rest) := by
      simp [bytes_of_csi hcsi]
    unfold seen
    rw [hsplit, CsiReader.scan_csi hparams hfinal, hcsi]
  | none =>
    cases s with
    | text bytes =>
      have htext : ∀ text : List UInt8, escByte ∉ text →
          scan CsiReader.step .ground (text ++ rest) = scan CsiReader.step .ground rest := by
        intro text htext
        induction text with
        | nil => rfl
        | cons byte text ih =>
          have hbyte : byte ≠ escByte := fun heq => htext (heq ▸ List.mem_cons_self)
          rw [List.cons_append, CsiReader.scan_text hbyte]
          exact ih fun hmem => htext (List.mem_cons_of_mem byte hmem)
      exact htext bytes h
    | _ => cases hcsi

lemma scan_runBytes {seqs : List KeyboardSequence} (h : ∀ s ∈ seqs, s.WellFormed) :
    scan CsiReader.step .ground (runBytes seqs) = (.ground, seqs.flatMap seen) := by
  induction seqs with
  | nil => rfl
  | cons s seqs ih =>
    have hrest := ih fun s' hs' => h s' (List.mem_cons_of_mem s hs')
    have hfirst := scan_bytes (h s List.mem_cons_self) (runBytes seqs)
    rw [hrest] at hfirst
    exact hfirst

end KeyboardSequence

/-! ### Parameters -/

lemma ofDigitChars_zeros (zeros value : Nat) :
    Nat.ofDigitChars 10 (List.replicate zeros '0' ++ Nat.toDigits 10 value) 0 = value := by
  rw [Nat.ofDigitChars_append, Nat.ofDigitChars_replicate_zero, Nat.mul_zero,
    Nat.ofDigitChars_ten_toDigits]

lemma ofDigitChars_optionalDigits (p : Option Param) :
    Nat.ofDigitChars 10 (optionalDigits p) 0 = valueOf p := by
  cases p with
  | none => rfl
  | some p => exact ofDigitChars_zeros p.zeros p.value

/-- A parameter as the tracker reads it. -/
lemma parse_param (p : Option Param) (rest : List UInt8)
    (hrest : rest = [] ∨ rest.head? = some semicolonByte) :
    parseKittyKeyboardFlags (KeyboardSequence.ascii (optionalDigits p) ++ rest) =
      if valueOf p ≤ 65535 then UInt16.ofNat (valueOf p) else 0 := by
  have hdigits := KeyboardSequence.isDigit_optionalDigits p
  rw [parseKittyKeyboardFlags_digits hdigits rest hrest]
  cases p with
  | none => rfl
  | some p =>
    change ((parseUnsigned 65535 p.digits).map UInt16.ofNat).getD 0 =
      if p.value ≤ 65535 then UInt16.ofNat p.value else 0
    have hne : p.digits ≠ [] := by
      simp [Param.digits, Nat.toDigits_ne_nil]
    have hvalue : Nat.ofDigitChars 10 p.digits 0 = p.value := ofDigitChars_optionalDigits (some p)
    rw [parseUnsigned_of_digits hne hdigits, hvalue]
    by_cases hle : p.value ≤ 65535
    · rw [if_pos hle, Option.filter_some, if_pos (by simpa using hle)]
      rfl
    · rw [if_neg hle, Option.filter_some, if_neg (by simpa using hle)]
      rfl

namespace ParamReader

/-- Digits go to the parameter that is read. -/
lemma foldl_digits {digits : List Char} (h : ∀ c ∈ digits, c.isDigit = true) (params : List Nat)
    (hparams : params.length < maxParams) (value : Nat) (hasDigit : Bool) :
    (KeyboardSequence.ascii digits).foldl read ⟨params, min value 65535, hasDigit⟩ =
      ⟨params, min (Nat.ofDigitChars 10 digits value) 65535, hasDigit || !digits.isEmpty⟩ := by
  induction digits generalizing value hasDigit with
  | nil => simp [KeyboardSequence.ascii]
  | cons c digits ih =>
    obtain ⟨hbyte, hlow, hhigh⟩ := byte_of_digit (h c List.mem_cons_self)
    have hne : UInt8.ofNat c.toNat ≠ semicolonByte := by
      intro heq
      have hval := congrArg UInt8.toNat heq
      rw [hbyte] at hval
      change c.toNat = 59 at hval
      omega
    have hfirst : read ⟨params, min value 65535, hasDigit⟩ (UInt8.ofNat c.toNat) =
        ⟨params, min (10 * value + (c.toNat - 48)) 65535, true⟩ := by
      unfold read
      rw [if_neg (Nat.not_le.mpr hparams), if_neg hne, hbyte]
      dsimp only
      congr 1
      omega
    have hrest := ih (fun d hd => h d (List.mem_cons_of_mem c hd)) (10 * value + (c.toNat - 48)) true
    have hzero : '0'.toNat = 48 := rfl
    change (KeyboardSequence.ascii digits).foldl read (read _ (UInt8.ofNat c.toNat)) = _
    rw [hfirst, hrest, Nat.ofDigitChars_cons, hzero]
    simp

end ParamReader

lemma digits_or_semicolon {digits : List Char} (h : ∀ c ∈ digits, c.isDigit = true) :
    ∀ byte ∈ KeyboardSequence.ascii digits, isAsciiDigit byte ∨ byte = semicolonByte := by
  intro byte hb
  obtain ⟨hlow, hhigh⟩ := ascii_digit h hb
  left
  unfold isAsciiDigit
  rw [Bool.and_eq_true, decide_eq_true_eq, decide_eq_true_eq, UInt8.le_iff_toNat_le,
    UInt8.le_iff_toNat_le]
  exact ⟨hlow, hhigh⟩

/-- A parameter as the terminal reads it. -/
lemma csiParams_optional (p : Option Param) :
    csiParams (KeyboardSequence.ascii (optionalDigits p)) =
      some ((p.map fun p => min p.value 65535).toList) := by
  have hdigits := KeyboardSequence.isDigit_optionalDigits p
  have hread := ParamReader.foldl_digits hdigits [] (by decide) 0 false
  unfold csiParams
  rw [if_pos (digits_or_semicolon hdigits)]
  change ((KeyboardSequence.ascii (optionalDigits p)).foldl ParamReader.read
    ⟨[], min 0 65535, false⟩).finish = _
  rw [hread]
  cases p with
  | none => rfl
  | some p =>
    have hne : (optionalDigits (some p)).isEmpty = false := by
      simp [optionalDigits, Param.digits, Nat.toDigits_ne_nil]
    rw [hne, ofDigitChars_optionalDigits]
    rfl

def SetMode.value : SetMode → Nat
  | .set => 1
  | .or => 2
  | .not => 3

lemma csiParams_set (flags : Option Param) (zeros : Nat) (mode : SetMode) :
    csiParams (KeyboardSequence.ascii (KeyboardSequence.set flags (some (zeros, mode))).operands) =
      some [min (valueOf flags) 65535, mode.value] := by
  have hflags := KeyboardSequence.isDigit_optionalDigits flags
  have hmode := KeyboardSequence.isDigit_mode zeros mode
  have hall : ∀ byte ∈ KeyboardSequence.ascii (optionalDigits flags) ++ semicolonByte ::
      KeyboardSequence.ascii (List.replicate zeros '0' ++ [mode.number]),
      isAsciiDigit byte ∨ byte = semicolonByte := by
    intro byte hb
    rcases List.mem_append.mp hb with hb | hb
    · exact digits_or_semicolon hflags byte hb
    · rcases List.mem_cons.mp hb with rfl | hb
      · exact .inr rfl
      · exact digits_or_semicolon hmode byte hb
  have hfirst := ParamReader.foldl_digits hflags [] (by decide) 0 false
  have hsecond := ParamReader.foldl_digits hmode [min (valueOf flags) 65535]
    (Nat.one_lt_succ_succ 22) 0 false
  have hnumber : Nat.ofDigitChars 10 (List.replicate zeros '0' ++ [mode.number]) 0 = mode.value := by
    rw [Nat.ofDigitChars_append, Nat.ofDigitChars_replicate_zero, Nat.mul_zero]
    cases mode <;> rfl
  have hsemicolon : ParamReader.read ⟨[], min (valueOf flags) 65535,
      false || !(optionalDigits flags).isEmpty⟩ semicolonByte =
        ⟨[min (valueOf flags) 65535], min 0 65535, false⟩ := rfl
  unfold csiParams
  rw [KeyboardSequence.ascii_set, if_pos hall, List.foldl_append, List.foldl_cons]
  change (List.foldl _ (ParamReader.read (List.foldl _ ⟨[], min 0 65535, false⟩ _) _) _).finish = _
  rw [hfirst, ofDigitChars_optionalDigits, hsemicolon, hsecond, hnumber]
  cases mode <;> simp [ParamReader.finish, SetMode.value, maxParams]

/-! ### Entries -/

namespace FlagStack

@[simp] lemma entry_zero (s : FlagStack) : s.entry 0 = s.current := ringEntry_zero s.flags s.idx 0

lemma entry_of_le (s : FlagStack) {k : Nat} (h : 8 ≤ k) : s.entry k = 0 :=
  ringEntry_of_le s.flags s.idx 0 h

@[simp] lemma current_push (s : FlagStack) (flags : Flags) : (s.push flags).current = flags := by
  simp [current, push]

@[simp] lemma current_set (s : FlagStack) (mode : SetMode) (v : Flags) :
    (s.set mode v).current =
      match mode with
      | .set => v
      | .or => s.current ||| v
      | .not => s.current &&& ~~~v := by
  cases mode <;> simp [current, set]

lemma entry_push (s : FlagStack) (flags : Flags) (k : Nat) :
    (s.push flags).entry (k + 1) = if k + 1 < 8 then s.entry k else 0 :=
  ringEntry_push s.flags s.idx 0 flags k

lemma entry_set (s : FlagStack) (mode : SetMode) (v : Flags) (k : Nat) :
    (s.set mode v).entry (k + 1) = s.entry (k + 1) :=
  ringEntry_update s.flags s.idx 0 _ k

lemma entry_popOne (s : FlagStack) (k : Nat) : s.popOne.entry k = s.entry (k + 1) :=
  ringEntry_pop s.flags s.idx 0 k

lemma entry_empty (k : Nat) : empty.entry k = 0 := ite_self 0

lemma entry_pop (s : FlagStack) (n k : Nat) : (s.pop n).entry k = s.entry (k + n) := by
  unfold pop
  by_cases hn : 8 ≤ n
  · rw [if_pos hn, entry_empty, entry_of_le s (by omega)]
  · rw [if_neg hn]
    clear hn
    induction n generalizing s with
    | zero => rfl
    | succ n ih => rw [Function.iterate_succ_apply, ih, entry_popOne, Nat.add_assoc]

end FlagStack

namespace KittyKeyboardTracker

@[simp] lemma entry_zero (t : KittyKeyboardTracker) : t.entry 0 = t.flags := rfl

lemma entry_push (t : KittyKeyboardTracker) (flags : UInt16) (k : Nat) :
    (t.push flags).entry (k + 1) = t.entry k := by
  simp [entry, push]

lemma entry_pop (t : KittyKeyboardTracker) (k : Nat) : t.pop.entry k = t.entry (k + 1) := by
  unfold entry pop
  rcases List.eq_nil_or_concat t.stack with hstack | ⟨below, top, hstack⟩
  · cases k <;> simp [hstack]
  · simp [hstack]

lemma entry_pop_iterate (t : KittyKeyboardTracker) (n k : Nat) :
    (pop^[n] t).entry k = t.entry (k + n) := by
  induction n generalizing t with
  | zero => rfl
  | succ n ih => rw [Function.iterate_succ_apply, ih, entry_pop, Nat.add_assoc]

/-! ### One sequence -/

section
variable {t : KittyKeyboardTracker} {m : Terminal}

lemma observeCsiU_push (operands : List UInt8) :
    t.observeCsiU (0x3e :: operands) = t.push (parseKittyKeyboardFlags operands) := by
  unfold observeCsiU
  dsimp only
  rw [if_pos rfl]

lemma observeCsiU_set (operands : List UInt8) :
    t.observeCsiU (0x3d :: operands) = { t with flags := parseKittyKeyboardFlags operands } := by
  unfold observeCsiU
  dsimp only
  rw [if_neg (by decide), if_pos rfl]

lemma observeCsiU_pop (operands : List UInt8) :
    t.observeCsiU (0x3c :: operands) = pop^[max (parseKittyKeyboardFlags operands).toNat 1] t := by
  unfold observeCsiU
  dsimp only
  rw [if_neg (by decide), if_neg (by decide), if_pos rfl]

/-- The tracker reads the flags of a set as it does those of a push, whatever mode stands behind. -/
lemma parse_operands {flags : Option Param} (h : valueOf flags < 32)
    (mode : Option (Nat × SetMode)) :
    parseKittyKeyboardFlags (KeyboardSequence.ascii (KeyboardSequence.set flags mode).operands) =
      UInt16.ofNat (valueOf flags) := by
  rcases mode with _ | ⟨zeros, mode⟩
  · have hparsed := parse_param flags [] (.inl rfl)
    rw [List.append_nil, if_pos (by omega)] at hparsed
    exact hparsed
  · rw [KeyboardSequence.ascii_set, parse_param flags _ (.inr rfl), if_pos (by omega)]

/-- Flags of five bits are the same number in both. -/
lemma ofNat_flags {value : Nat} (h : value < 32) :
    UInt16.ofNat value = UInt16.ofNat (BitVec.ofNat 5 value).toNat := by
  rw [BitVec.toNat_ofNat, Nat.mod_eq_of_lt h]

lemma agrees_push {s : FlagStack} (h : Agrees t s) {value : Nat} (hvalue : value < 32)
    (hlast : s.entry 7 = 0) : Agrees (t.push (UInt16.ofNat value)) (s.push (.ofNat 5 value)) := by
  intro k
  cases k with
  | zero =>
    rw [FlagStack.entry_zero, FlagStack.current_push]
    exact ofNat_flags hvalue
  | succ k =>
    rw [entry_push, FlagStack.entry_push, h k]
    by_cases hk : k + 1 < 8
    · rw [if_pos hk]
    · have hzero : s.entry k = 0 := by
        by_cases hseven : k = 7
        · rw [hseven, hlast]
        · exact s.entry_of_le (by omega)
      rw [if_neg hk, hzero]

lemma agrees_set {s : FlagStack} (h : Agrees t s) {value : Nat} (hvalue : value < 32)
    {mode : SetMode} (hcurrent : (s.set mode (.ofNat 5 value)).current = .ofNat 5 value) :
    Agrees { t with flags := UInt16.ofNat value } (s.set mode (.ofNat 5 value)) := by
  intro k
  cases k with
  | zero =>
    rw [FlagStack.entry_zero, hcurrent]
    exact ofNat_flags hvalue
  | succ k =>
    rw [FlagStack.entry_set]
    exact h (k + 1)

/-- The tracker pops `n` entries and the terminal `number`. -/
lemma agrees_pop {s : FlagStack} (h : Agrees t s) {n number : Nat}
    (hsame : ∀ k, s.entry (k + n) = s.entry (k + number)) :
    Agrees (pop^[n] t) (s.pop number) := by
  intro k
  rw [entry_pop_iterate, FlagStack.entry_pop, h, hsame]

end

end KittyKeyboardTracker

namespace Terminal

section
variable {t : Terminal}

lemma apply_push {flags : Option Param} (h : valueOf flags < 32) :
    t.apply (.push flags) = { t with active := t.active.push (.ofNat 5 (valueOf flags)) } := by
  have hparams := csiParams_optional flags
  change t.csi (0x3e :: KeyboardSequence.ascii (optionalDigits flags)) uByte = _
  unfold csi
  dsimp only
  rw [hparams]
  cases flags with
  | none => rfl
  | some p =>
    have hvalue : p.value < 32 := h
    have hmin : min p.value 65535 = p.value := by omega
    change t.dispatchPush [min p.value 65535] = _
    unfold dispatchPush
    dsimp only
    rw [hmin, if_pos hvalue]
    rfl

lemma apply_set {flags : Option Param} (h : valueOf flags < 32) (mode : Option (Nat × SetMode)) :
    t.apply (.set flags mode) =
      { t with active :=
          t.active.set ((mode.map Prod.snd).getD .set) (.ofNat 5 (valueOf flags)) } := by
  rcases mode with _ | ⟨zeros, mode⟩
  · have hparams := csiParams_optional flags
    change t.csi (0x3d :: KeyboardSequence.ascii (optionalDigits flags)) uByte = _
    unfold csi
    dsimp only
    rw [hparams]
    cases flags with
    | none => rfl
    | some p =>
      have hvalue : p.value < 32 := h
      have hmin : min p.value 65535 = p.value := by omega
      change t.dispatchSet [min p.value 65535] = _
      rw [hmin]
      exact if_pos hvalue
  · have hparams := csiParams_set flags zeros mode
    have hmin : min (valueOf flags) 65535 = valueOf flags := by omega
    change t.csi (0x3d :: KeyboardSequence.ascii
      (KeyboardSequence.set flags (some (zeros, mode))).operands) uByte = _
    unfold csi
    dsimp only
    rw [hparams, hmin]
    change t.dispatchSet [valueOf flags, mode.value] = _
    cases mode <;> exact if_pos h

/-- The number that the terminal pops. -/
def poppedBy (count : Option Param) : Nat := (count.map fun p => min p.value 65535).getD 1

lemma apply_pop (count : Option Param) :
    t.apply (.pop count) = { t with active := t.active.pop (poppedBy count) } := by
  have hparams := csiParams_optional count
  change t.csi (0x3c :: KeyboardSequence.ascii (optionalDigits count)) uByte = _
  unfold csi
  dsimp only
  rw [hparams]
  cases count <;> rfl

/-! ### Switches of the screen -/

/-- The stacks of `t'` are those of `t`, swapped if another screen is shown. -/
structure Switched (t t' : Terminal) : Prop where
  active : t'.active = if t'.alternate = t.alternate then t.active else t.inactive
  inactive : t'.inactive = if t'.alternate = t.alternate then t.inactive else t.active

lemma Switched.refl (t : Terminal) : Switched t t := ⟨(if_pos rfl).symm, (if_pos rfl).symm⟩

lemma switched_setMode {t' : Terminal} (h : Switched t t') (mode : ScreenMode) (enabled : Bool) :
    Switched t (t'.setMode mode enabled) := by
  obtain ⟨hactive, hinactive⟩ := h
  unfold setMode switchScreen
  dsimp only
  by_cases hsame : t'.alternate = enabled
  · rw [if_pos hsame]
    exact ⟨hactive, hinactive⟩
  · rw [if_neg hsame]
    by_cases hback : t'.alternate = t.alternate
    · have hgone : ¬enabled = t.alternate := fun heq => hsame (hback.trans heq.symm)
      rw [if_pos hback] at hactive hinactive
      exact ⟨hinactive.trans (if_neg hgone).symm, hactive.trans (if_neg hgone).symm⟩
    · have hagain : enabled = t.alternate :=
        (Bool.eq_not_of_ne (Ne.symm hsame)).trans (Bool.eq_not_of_ne (Ne.symm hback)).symm
      rw [if_neg hback] at hactive hinactive
      exact ⟨hinactive.trans (if_pos hagain).symm, hactive.trans (if_pos hagain).symm⟩

@[simp] lemma alternate_setMode (mode : ScreenMode) (enabled : Bool) :
    (t.setMode mode enabled).alternate = enabled := by
  unfold setMode switchScreen
  dsimp only
  split
  · assumption
  · rfl

@[simp] lemma saved_setMode (mode : ScreenMode) (enabled : Bool) :
    (t.setMode mode enabled).saved = t.saved := by
  unfold setMode switchScreen
  split <;> rfl

/-- Modes that are set to values that the switches do not change. -/
lemma switched_foldl (modes : List ScreenMode) (value : ScreenMode → Bool) {t' : Terminal}
    (h : Switched t t') :
    let last := modes.foldl (fun t mode => t.setMode mode (value mode)) t'
    Switched t last ∧ last.alternate = (modes.getLast?.map value).getD t'.alternate := by
  induction modes generalizing t' with
  | nil => exact ⟨h, rfl⟩
  | cons mode modes ih =>
    obtain ⟨hswitched, halternate⟩ := ih (switched_setMode h mode (value mode))
    refine ⟨hswitched, halternate.trans ?_⟩
    rw [alternate_setMode, List.getLast?_cons]
    cases modes.getLast? <;> rfl

/-- What is saved is not changed by what is restored. -/
lemma foldl_restoreMode (modes : List ScreenMode) (t : Terminal) :
    modes.foldl restoreMode t = modes.foldl (fun s mode => s.setMode mode (t.saved mode)) t := by
  have hfold : ∀ s : Terminal, s.saved = t.saved →
      modes.foldl restoreMode s = modes.foldl (fun s mode => s.setMode mode (t.saved mode)) s := by
    induction modes with
    | nil => exact fun s _ => rfl
    | cons mode modes ih =>
      intro s hsaved
      have hstep : s.restoreMode mode = s.setMode mode (t.saved mode) := by
        unfold restoreMode
        rw [hsaved]
      rw [List.foldl_cons, List.foldl_cons, hstep]
      apply ih
      rw [saved_setMode, hsaved]
  exact hfold t rfl

lemma switched_foldl_saveMode (modes : List ScreenMode) {t' : Terminal} (h : Switched t t') :
    Switched t (modes.foldl saveMode t') ∧ (modes.foldl saveMode t').alternate = t'.alternate := by
  induction modes generalizing t' with
  | nil => exact ⟨h, rfl⟩
  | cons mode modes ih =>
    have hfirst : Switched t (t'.saveMode mode) := ⟨h.active, h.inactive⟩
    exact ih hfirst

/-- A control sequence that is not one of the protocol switches the screen to its target, if it has
one, and leaves the stacks of both. -/
lemma switched_apply_other {params : List UInt8} {final : UInt8}
    (h : (KeyboardSequence.other params final).WellFormed) :
    Switched t (t.apply (.other params final)) ∧
      (t.apply (.other params final)).alternate =
        (t.switchTarget params final).getD t.alternate := by
  obtain ⟨-, -, hkind⟩ := h
  change Switched t (t.csi params final) ∧ (t.csi params final).alternate = _
  cases params with
  | nil => exact ⟨.refl t, rfl⟩
  | cons intermediate rest =>
    by_cases hmark : intermediate = 0x3f
    · subst hmark
      unfold csi switchTarget
      dsimp only
      rw [if_neg (not_not.mpr rfl)]
      cases csiParams rest with
      | none =>
        refine ⟨.refl t, ?_⟩
        split_ifs <;> rfl
      | some ps =>
        change Switched t (t.dispatchModes ps final) ∧ (t.dispatchModes ps final).alternate = _
        unfold dispatchModes
        dsimp only [Option.getD_some]
        generalize ps.filterMap ScreenMode.fromInt = modes
        by_cases hset : final = 0x68
        · rw [if_pos hset, if_pos hset]
          exact switched_foldl modes (fun _ => true) (.refl t)
        by_cases hreset : final = 0x6c
        · rw [if_neg hset, if_neg hset, if_pos hreset, if_pos hreset]
          exact switched_foldl modes (fun _ => false) (.refl t)
        by_cases hrestore : final = 0x72
        · have hsave : ¬final = 0x73 := by
            rw [hrestore]
            decide
          rw [if_neg hset, if_neg hset, if_neg hreset, if_neg hreset, if_neg hsave, if_pos hrestore,
            if_pos hrestore, foldl_restoreMode]
          exact switched_foldl modes t.saved (.refl t)
        · rw [if_neg hset, if_neg hset, if_neg hreset, if_neg hreset, if_neg hrestore,
            if_neg hrestore]
          split_ifs
          · exact switched_foldl_saveMode modes (.refl t)
          · exact ⟨.refl t, rfl⟩
    · have hsame : t.csi (intermediate :: rest) final = t := by
        unfold csi
        dsimp only
        cases csiParams rest with
        | none => rfl
        | some ps =>
          dsimp only
          unfold csiDispatch
          rw [if_neg hmark]
          by_cases hu : final = uByte
          · obtain ⟨hpush, hset, hpop⟩ := hkind hu intermediate rfl
            rw [if_neg (not_not.mpr hu), if_neg hpush, if_neg hpop, if_neg hset]
          · rw [if_pos hu]
      have htarget : t.switchTarget (intermediate :: rest) final = none := if_pos hmark
      rw [hsame, htarget]
      exact ⟨.refl t, rfl⟩

/-- Where the switch is followed the screen that is shown has the entries of the one before. -/
lemma entry_apply_other {params : List UInt8} {final : UInt8}
    (h : (KeyboardSequence.other params final).WellFormed)
    (hfollowed : t.Followed (.other params final)) (k : Nat) :
    (t.apply (.other params final)).active.entry k = t.active.entry k := by
  obtain ⟨hswitched, halternate⟩ := switched_apply_other (t := t) h
  rw [hswitched.active]
  by_cases hsame : (t.apply (.other params final)).alternate = t.alternate
  · rw [if_pos hsame]
  · rw [if_neg hsame]
    cases htarget : t.switchTarget params final with
    | none =>
      rw [htarget] at halternate
      exact absurd halternate hsame
    | some alternate =>
      rw [htarget] at halternate
      have hother := (hfollowed alternate htarget).resolve_left fun heq =>
        hsame (halternate.trans heq.symm)
      by_cases hk : k < 8
      · exact hother k hk
      · rw [FlagStack.entry_of_le _ (by omega), FlagStack.entry_of_le _ (by omega)]

end

end Terminal

/-! ### Runs -/

namespace KittyKeyboardTracker

section
variable {t : KittyKeyboardTracker} {m : Terminal}

/-- What the tracker sees of an unrelated sequence leaves it alone. -/
lemma foldl_seen_other {params : List UInt8} {final : UInt8}
    (h : (KeyboardSequence.other params final).WellFormed) :
    (KeyboardSequence.other params final).seen.foldl observeCsiU t = t := by
  obtain ⟨-, -, hkind⟩ := h
  change (if final = uByte then [params] else []).foldl observeCsiU t = t
  by_cases hu : final = uByte
  · rw [if_pos hu]
    cases params with
    | nil => rfl
    | cons kind rest =>
      obtain ⟨hpush, hset, hpop⟩ := hkind hu kind rfl
      change t.observeCsiU (kind :: rest) = t
      unfold observeCsiU
      dsimp only
      rw [if_neg hpush, if_neg hset, if_neg hpop]
  · rw [if_neg hu]
    rfl

/-- The numbers that both pop, where the count is followed. -/
lemma popped_followed {count : Option Param} (h : m.Followed (.pop count)) (k : Nat) :
    m.active.entry (k + max (parseKittyKeyboardFlags
        (KeyboardSequence.ascii (optionalDigits count))).toNat 1) =
      m.active.entry (k + Terminal.poppedBy count) := by
  have hparsed := parse_param count [] (.inl rfl)
  rw [List.append_nil] at hparsed
  rw [hparsed]
  cases count with
  | none => rfl
  | some p =>
    have hnumber : Terminal.poppedBy (some p) = min p.value 65535 := rfl
    change m.active.entry (k + max (if p.value ≤ 65535 then UInt16.ofNat p.value else 0).toNat 1) = _
    rw [hnumber]
    rcases h with ⟨hpos, hle⟩ | ⟨hzero, hempty⟩ | ⟨hlarge, hbelow⟩
    · have hnat : (UInt16.ofNat p.value).toNat = p.value := by
        rw [UInt16.toNat_ofNat']
        omega
      rw [if_pos hle, hnat, max_eq_left hpos, min_eq_left hle]
    · have hall : ∀ j, m.active.entry j = 0 := by
        intro j
        by_cases hj : j < 8
        · exact hempty j hj
        · exact m.active.entry_of_le (by omega)
      rw [hall, hall]
    · have hnone : m.active.entry (k + 1) = 0 := by
        by_cases hk : k < 7
        · exact hbelow k hk
        · exact m.active.entry_of_le (by omega)
      rw [if_neg (Nat.not_le.mpr hlarge), min_eq_right hlarge.le,
        FlagStack.entry_of_le _ (by omega : 8 ≤ k + 65535)]
      exact hnone

/-- A sequence that is followed. -/
lemma agrees_apply {s : KeyboardSequence} (h : Agrees t m.active) (hs : s.WellFormed)
    (hfollowed : m.Followed s) : Agrees (s.seen.foldl observeCsiU t) (m.apply s).active := by
  cases s with
  | push flags =>
    obtain ⟨hvalue, hlast⟩ := hfollowed
    have hparsed : parseKittyKeyboardFlags (KeyboardSequence.ascii (optionalDigits flags)) = _ :=
      parse_operands hvalue none
    have hseen : (KeyboardSequence.push flags).seen.foldl observeCsiU t =
        t.push (UInt16.ofNat (valueOf flags)) := by
      change t.observeCsiU (0x3e :: KeyboardSequence.ascii (optionalDigits flags)) = _
      rw [observeCsiU_push, hparsed]
    rw [hseen, Terminal.apply_push hvalue]
    exact agrees_push h hvalue hlast
  | set flags mode =>
    have hvalue : valueOf flags < 32 := by
      rcases mode with _ | ⟨zeros, _ | _ | _⟩
      · exact hfollowed
      · exact hfollowed
      · exact hfollowed.1
      · have hzero : valueOf flags = 0 := hfollowed.1
        omega
    have hseen : (KeyboardSequence.set flags mode).seen.foldl observeCsiU t =
        { t with flags := UInt16.ofNat (valueOf flags) } := by
      change t.observeCsiU
        (0x3d :: KeyboardSequence.ascii (KeyboardSequence.set flags mode).operands) = _
      rw [observeCsiU_set, parse_operands hvalue]
    rw [hseen, Terminal.apply_set hvalue]
    apply agrees_set h hvalue
    rw [FlagStack.current_set]
    rcases mode with _ | ⟨zeros, _ | _ | _⟩
    · rfl
    · rfl
    · exact hfollowed.2
    · obtain ⟨hzero, hcurrent⟩ := hfollowed
      change m.active.current &&& ~~~BitVec.ofNat 5 (valueOf flags) = BitVec.ofNat 5 (valueOf flags)
      rw [hzero, hcurrent]
      rfl
  | pop count =>
    change Agrees (t.observeCsiU (0x3c :: KeyboardSequence.ascii (optionalDigits count))) _
    rw [observeCsiU_pop, Terminal.apply_pop]
    exact agrees_pop h (popped_followed hfollowed)
  | other params final =>
    intro k
    rw [foldl_seen_other hs, Terminal.entry_apply_other hs hfollowed]
    exact h k
  | text bytes => exact h

lemma agrees_foldl {seqs : List KeyboardSequence} (h : Agrees t m.active)
    (hseqs : ∀ s ∈ seqs, s.WellFormed) (hfollowed : m.AllFollowed seqs) :
    Agrees ((seqs.flatMap KeyboardSequence.seen).foldl observeCsiU t)
      (seqs.foldl Terminal.apply m).active := by
  induction seqs generalizing t m with
  | nil => exact h
  | cons s seqs ih =>
    obtain ⟨hfirst, hrest⟩ := hfollowed
    rw [List.flatMap_cons, List.foldl_append, List.foldl_cons]
    apply ih _ (fun s' hs' => hseqs s' (List.mem_cons_of_mem s hs')) hrest
    exact agrees_apply h (hseqs s List.mem_cons_self) hfirst

end

lemma agrees_fresh : Agrees fresh FlagStack.empty := by
  intro k
  rw [FlagStack.entry_empty]
  cases k <;> rfl

/-- In a run whose sequences are all followed the tracker has the flags and the stack of the screen
that the terminal shows, whatever chunks it comes in. -/
theorem modes_observeAll (seqs : List KeyboardSequence) (chunks : List (List UInt8))
    (hchunks : chunks.flatten = KeyboardSequence.runBytes seqs) (hstored : Stored chunks)
    (hseqs : ∀ s ∈ seqs, s.WellFormed) (hfollowed : Terminal.start.AllFollowed seqs) :
    Agrees (fresh.observeAll chunks) (seqs.foldl Terminal.apply .start).active := by
  have htracks := tracks_observeAll chunks hstored
  rw [hchunks] at htracks
  have hrun := agrees_foldl (t := fresh) (m := .start) agrees_fresh hseqs hfollowed
  have hscan := KeyboardSequence.scan_runBytes hseqs
  have hstack := htracks.stack
  have hflags := htracks.flags
  rw [hscan] at hstack hflags
  intro k
  unfold entry
  rw [hstack, hflags]
  exact hrun k

/-- An editor pushes flags on the alternate screen, adds to them, hides the cursor and pops before it
goes back with a restored mode. The stream is cut inside the second sequence. -/
def editorRun : List KeyboardSequence :=
  [.other [0x3f, 0x31, 0x30, 0x34, 0x39] 0x73, .other [0x3f, 0x31, 0x30, 0x34, 0x39] 0x68,
    .push (some ⟨0, 1⟩), .set (some ⟨1, 5⟩) (some (0, .or)), .other [0x3f, 0x32, 0x35] 0x6c,
    .text [0x68, 0x69], .pop none, .other [0x3f, 0x31, 0x30, 0x34, 0x39] 0x72]

theorem modes_observeAll_editor :
    Agrees (fresh.observeAll [(KeyboardSequence.runBytes editorRun).take 12,
        (KeyboardSequence.runBytes editorRun).drop 12])
      (editorRun.foldl Terminal.apply .start).active :=
  modes_observeAll editorRun _ (by decide)
    (stored_of_shortSequences (by decide +kernel))
    (by
      have hmode {params : List UInt8} {final : UInt8}
          (hparams : ∀ byte ∈ params, 0x20 ≤ byte ∧ byte ≤ 0x3f)
          (hfinal : isFinalByte final = true) (hu : final ≠ uByte) :
          (KeyboardSequence.other params final).WellFormed :=
        ⟨hparams, hfinal, fun h => absurd h hu⟩
      intro s hs
      simp only [editorRun, List.mem_cons, List.not_mem_nil, or_false] at hs
      rcases hs with rfl | rfl | rfl | rfl | rfl | rfl | rfl | rfl
      · exact hmode (by decide +kernel) (by decide) (by decide)
      · exact hmode (by decide +kernel) (by decide) (by decide)
      · trivial
      · trivial
      · exact hmode (by decide +kernel) (by decide) (by decide)
      · have htext : escByte ∉ [(0x68 : UInt8), 0x69] := by decide
        exact htext
      · trivial
      · exact hmode (by decide +kernel) (by decide) (by decide)) (by decide +kernel)

/-- Flags that are added to those in force replace them in the tracker. -/
theorem added_flags_replace :
    let seqs : List KeyboardSequence :=
      [.push (some ⟨0, 1⟩), .set (some ⟨0, 2⟩) (some (0, .or))]
    (fresh.observe (KeyboardSequence.runBytes seqs)).flags = 2 ∧
      (seqs.foldl Terminal.apply .start).active.current = 3 := by
  decide +kernel

/-- The flags of a program on the alternate screen stay in the tracker when it leaves. -/
example :
    let seqs : List KeyboardSequence :=
      [.other [0x3f, 0x31, 0x30, 0x34, 0x39] 0x68, .push (some ⟨0, 5⟩),
        .other [0x3f, 0x31, 0x30, 0x34, 0x39] 0x6c]
    (fresh.observe (KeyboardSequence.runBytes seqs)).flags = 5 ∧
      (seqs.foldl Terminal.apply .start).active.current = 0 := by
  decide +kernel

/-- The ninth entry is lost in the terminal, and a pop of eight resets it. -/
example :
    let seqs : List KeyboardSequence :=
      List.replicate 9 (.push (some ⟨0, 1⟩)) ++ [.pop (some ⟨0, 8⟩)]
    (fresh.observe (KeyboardSequence.runBytes seqs)).flags = 1 ∧
      (seqs.foldl Terminal.apply .start).active.current = 0 := by
  decide +kernel

end KittyKeyboardTracker

end Ork3.Pane.KittyKeyboard
