import Ork3.Library.Scanner
import Ork3.Model.KittyKeyboard

/-!
# The keyboard tracker over any cut of its stream

The tracker reads its stream as an automaton over bytes would, whatever chunks it comes in, as long
as no unfinished sequence outgrows what it stores between them. What it replays brings a fresh
tracker to its state.
-/

namespace Ork3.Pane.KittyKeyboard

open Ork3.Library

/-! ### The sequences of a stream -/

/-- Where a reader of control sequences is in its stream. -/
inductive CsiReader
  | ground
  | escape
  | params (read : List UInt8)
  deriving DecidableEq, Repr

namespace CsiReader

/-- One byte, with the parameters of a sequence that it ends, if that ends in `u`. -/
def step : CsiReader → UInt8 → CsiReader × Option (List UInt8)
  | ground, byte => if byte = escByte then (escape, none) else (ground, none)
  | escape, byte =>
    if byte = bracketByte then (params [], none)
    else if byte = escByte then (escape, none)
    else (ground, none)
  | params read, byte =>
    if isFinalByte byte then (ground, if byte = uByte then some read else none)
    else (params (read ++ [byte]), none)

/-- The bytes of the sequence that has not ended. -/
def unfinished : CsiReader → List UInt8
  | ground => []
  | escape => [escByte]
  | params read => escByte :: bracketByte :: read

/-- The parameters that have been read have no final byte among them. -/
def Open : CsiReader → Prop
  | params read => ∀ byte ∈ read, isFinalByte byte = false
  | _ => True

lemma open_step {s : CsiReader} (hs : s.Open) (byte : UInt8) : (s.step byte).1.Open := by
  cases s with
  | ground =>
    change (if byte = escByte then (escape, none) else (ground, none)).1.Open
    split_ifs <;> trivial
  | escape =>
    change (if byte = bracketByte then (params [], none)
      else if byte = escByte then (escape, none) else (ground, none)).1.Open
    split_ifs
    · intro b hb
      cases hb
    · trivial
    · trivial
  | params read =>
    change (if isFinalByte byte then (ground, if byte = uByte then some read else none)
      else (params (read ++ [byte]), none)).1.Open
    cases hbyte : isFinalByte byte with
    | true => trivial
    | false =>
      intro b hb
      rcases List.mem_append.mp hb with hold | hnew
      · apply hs b hold
      · rw [List.mem_singleton.mp hnew]
        exact hbyte

lemma scan_params {body : List UInt8} (h : ∀ byte ∈ body, isFinalByte byte = false)
    (read : List UInt8) : scan step (params read) body = (params (read ++ body), []) := by
  induction body generalizing read with
  | nil => simp [scan]
  | cons byte body ih =>
    have hbyte : isFinalByte byte = false := h byte List.mem_cons_self
    have hstep : step (params read) byte = (params (read ++ [byte]), none) := by
      simp [step, hbyte]
    have hrest := ih (fun b hb => h b (List.mem_cons_of_mem byte hb)) (read ++ [byte])
    simp [scan, hstep, hrest]

lemma scan_text {byte : UInt8} (h : byte ≠ escByte) (rest : List UInt8) :
    scan step ground (byte :: rest) = scan step ground rest := by
  simp [scan, step, h]

lemma scan_escape {next : UInt8} (h : next ≠ bracketByte) (rest : List UInt8) :
    scan step ground (escByte :: next :: rest) = scan step ground (next :: rest) := by
  have hstep : step escape next = step ground next := by
    simp [step, h]
  have hfirst : step ground escByte = (escape, none) := by
    simp [step]
  simp [scan, hfirst, hstep]

/-- A complete sequence. -/
lemma scan_csi {body : List UInt8} (h : ∀ byte ∈ body, isFinalByte byte = false) {final : UInt8}
    (hfinal : isFinalByte final = true) (rest : List UInt8) :
    scan step ground (escByte :: bracketByte :: (body ++ final :: rest)) =
      ((scan step ground rest).1,
        (if final = uByte then [body] else []) ++ (scan step ground rest).2) := by
  have hbody : scan step (params []) (body ++ final :: rest) =
      ((scan step ground rest).1,
        (if final = uByte then [body] else []) ++ (scan step ground rest).2) := by
    rw [scan_append, scan_params h, List.nil_append, List.nil_append]
    have hstep : step (params body) final =
        (ground, if final = uByte then some body else none) := by
      simp [step, hfinal]
    rw [scan, hstep]
    split <;> rfl
  exact hbody

/-- A reader is where the bytes of its unfinished sequence lead. -/
lemma scan_unfinished {s : CsiReader} (hs : s.Open) :
    scan step ground s.unfinished = (s, []) := by
  cases s with
  | ground => rfl
  | escape => rfl
  | params read =>
    have hread := scan_params hs []
    change ((scan step (params []) read).1, (scan step (params []) read).2) = _
    rw [hread, List.nil_append]

end CsiReader

/-- No unfinished sequence of the stream has more than 64 bytes. -/
def ShortSequences (stream : List UInt8) : Prop :=
  Avoids CsiReader.step (fun s byte => 64 < (s.step byte).1.unfinished.length) .ground stream

instance (stream : List UInt8) : Decidable (ShortSequences stream) :=
  inferInstanceAs (Decidable (Avoids _ _ _ _))

namespace KittyKeyboardTracker

section
variable {t : KittyKeyboardTracker} {bytes : List UInt8}

/-! ### The loop and the automaton -/

lemma pop_iterate_pending (n : Nat) (t : KittyKeyboardTracker) : (pop^[n] t).pending = t.pending := by
  induction n generalizing t with
  | zero => rfl
  | succ n ih =>
    rw [Function.iterate_succ_apply, ih]
    rfl

@[simp] lemma observeCsiU_pending (t : KittyKeyboardTracker) (params : List UInt8) :
    (t.observeCsiU params).pending = t.pending := by
  unfold observeCsiU
  split
  · rfl
  · split_ifs
    · rfl
    · rfl
    · apply pop_iterate_pending
    · rfl

lemma observeBytes_skip (t : KittyKeyboardTracker) (bytes : List UInt8) (skip : Nat) :
    t.observeBytes bytes skip = t.observeBytes (bytes.drop skip) 0 := by
  induction bytes generalizing skip with
  | nil => simp [observeBytes]
  | cons byte rest ih =>
    cases skip with
    | zero => rfl
    | succ skip =>
      rw [observeBytes, ih, List.drop_succ_cons]

lemma storePending_nil (h : t.pending = []) : t.storePending [] = t := by
  cases t
  cases h
  rfl

lemma observeBytes_text {byte : UInt8} (h : byte ≠ escByte) (rest : List UInt8) :
    t.observeBytes (byte :: rest) 0 = t.observeBytes rest 0 := by
  rw [observeBytes.eq_def]
  simp [h]

lemma observeBytes_escape {next : UInt8} (h : next ≠ bracketByte) (rest : List UInt8) :
    t.observeBytes (escByte :: next :: rest) 0 = t.observeBytes (next :: rest) 0 := by
  rw [observeBytes.eq_def]
  simp [h]

lemma observeBytes_open {body : List UInt8} (h : ∀ byte ∈ body, isFinalByte byte = false) :
    t.observeBytes (escByte :: bracketByte :: body) 0 =
      t.storePending (escByte :: bracketByte :: body) := by
  have hnone : body.findIdx? isFinalByte = none := by
    rw [List.findIdx?_eq_none_iff]
    exact h
  rw [observeBytes.eq_def]
  simp [hnone]

/-- A list with a final byte has a first one. -/
lemma exists_first_final {body : List UInt8} (h : ¬∀ byte ∈ body, isFinalByte byte = false) :
    ∃ params final rest, body = params ++ final :: rest ∧
      (∀ byte ∈ params, isFinalByte byte = false) ∧ isFinalByte final = true := by
  induction body with
  | nil => exact absurd (fun _ hb => nomatch hb) h
  | cons byte body ih =>
    cases hbyte : isFinalByte byte with
    | true => exact ⟨[], byte, body, rfl, fun _ hb => (nomatch hb), hbyte⟩
    | false =>
      obtain ⟨params, final, rest, rfl, hparams, hfinal⟩ := ih fun hbody =>
        h fun b hb => (List.mem_cons.mp hb).elim (fun heq => heq ▸ hbyte) (hbody b)
      refine ⟨byte :: params, final, rest, rfl, fun b hb => ?_, hfinal⟩
      rcases List.mem_cons.mp hb with rfl | hb
      · exact hbyte
      · exact hparams b hb

lemma observeBytes_csi {body : List UInt8} (h : ∀ byte ∈ body, isFinalByte byte = false)
    {final : UInt8} (hfinal : isFinalByte final = true) (rest : List UInt8) :
    t.observeBytes (escByte :: bracketByte :: (body ++ final :: rest)) 0 =
      (if final = uByte then t.observeCsiU body else t).observeBytes rest 0 := by
  have hnone : body.findIdx? isFinalByte = none := by
    rw [List.findIdx?_eq_none_iff]
    exact h
  have hlength : (body ++ final :: rest).findIdx? isFinalByte = some body.length := by
    rw [List.findIdx?_append, hnone, List.findIdx?_cons, if_pos hfinal]
    simp
  have hrest (s : KittyKeyboardTracker) :
      s.observeBytes (bracketByte :: (body ++ final :: rest)) (body.length + 2) =
        s.observeBytes rest 0 := by
    rw [observeBytes_skip, List.drop_succ_cons, ← List.drop_drop, List.drop_left]
    rfl
  rw [observeBytes.eq_def]
  simp [hlength, hrest]

/-- The loop sees the sequences of its bytes and stores the one that has not ended. -/
lemma observeBytes_eq (h : t.pending = []) (bytes : List UInt8) :
    t.observeBytes bytes 0 =
      ((scan CsiReader.step .ground bytes).2.foldl observeCsiU t).storePending
        (scan CsiReader.step .ground bytes).1.unfinished := by
  induction hn : bytes.length using Nat.strong_induction_on generalizing t bytes with
  | _ n ih =>
    rcases bytes with _ | ⟨byte, rest⟩
    · exact (storePending_nil h).symm
    rw [List.length_cons] at hn
    by_cases hesc : byte = escByte
    · subst hesc
      rcases rest with _ | ⟨next, body⟩
      · rfl
      rw [List.length_cons] at hn
      by_cases hbracket : next = bracketByte
      · subst hbracket
        by_cases hopen : ∀ b ∈ body, isFinalByte b = false
        · have hscan : scan CsiReader.step .ground (escByte :: bracketByte :: body) =
              (.params body, []) :=
            CsiReader.scan_params hopen []
          rw [hscan, observeBytes_open hopen]
          rfl
        · obtain ⟨params, final, tail, rfl, hparams, hfinal⟩ := exists_first_final hopen
          have hseen : (if final = uByte then t.observeCsiU params else t).pending = [] := by
            split
            · rw [observeCsiU_pending, h]
            · exact h
          have htail := ih tail.length (by simp at hn; omega) hseen tail rfl
          rw [CsiReader.scan_csi hparams hfinal, observeBytes_csi hparams hfinal, htail,
            List.foldl_append]
          split <;> rfl
      · rw [CsiReader.scan_escape hbracket, observeBytes_escape hbracket]
        exact ih (next :: body).length (by simp; omega) h (next :: body) rfl
    · rw [CsiReader.scan_text hesc, observeBytes_text hesc]
      exact ih rest.length (by omega) h rest rfl

/-! ### Chunks -/

/-- A tracker that has seen a stream: it holds what the sequences of the stream leave and the bytes
of the one that has not ended. -/
structure Tracks (t : KittyKeyboardTracker) (stream : List UInt8) : Prop where
  pending : t.pending = (scan CsiReader.step .ground stream).1.unfinished
  stack : t.stack = ((scan CsiReader.step .ground stream).2.foldl observeCsiU fresh).stack
  flags : t.flags = ((scan CsiReader.step .ground stream).2.foldl observeCsiU fresh).flags

lemma pop_iterate_congr {t t' : KittyKeyboardTracker} (hstack : t'.stack = t.stack)
    (hflags : t'.flags = t.flags) (n : Nat) :
    (pop^[n] t').stack = (pop^[n] t).stack ∧ (pop^[n] t').flags = (pop^[n] t).flags := by
  induction n generalizing t t' with
  | zero => exact ⟨hstack, hflags⟩
  | succ n ih =>
    apply ih
    · exact congrArg List.dropLast hstack
    · exact congrArg (fun stack : List UInt16 => stack.getLast?.getD 0) hstack

/-- What a sequence does to the flags and the stack does not depend on what is pending. -/
lemma observeCsiU_congr {t t' : KittyKeyboardTracker} (hstack : t'.stack = t.stack)
    (hflags : t'.flags = t.flags) (params : List UInt8) :
    (t'.observeCsiU params).stack = (t.observeCsiU params).stack ∧
      (t'.observeCsiU params).flags = (t.observeCsiU params).flags := by
  unfold observeCsiU
  split
  · exact ⟨hstack, hflags⟩
  · split_ifs
    · simp [push, hstack, hflags]
    · exact ⟨hstack, rfl⟩
    · apply pop_iterate_congr hstack hflags
    · exact ⟨hstack, hflags⟩

lemma foldl_observeCsiU_congr (seen : List (List UInt8)) {t t' : KittyKeyboardTracker}
    (hstack : t'.stack = t.stack) (hflags : t'.flags = t.flags) :
    (seen.foldl observeCsiU t').stack = (seen.foldl observeCsiU t).stack ∧
      (seen.foldl observeCsiU t').flags = (seen.foldl observeCsiU t).flags := by
  induction seen generalizing t t' with
  | nil => exact ⟨hstack, hflags⟩
  | cons params seen ih =>
    obtain ⟨hstack', hflags'⟩ := observeCsiU_congr hstack hflags params
    apply ih hstack' hflags'

lemma open_scan (stream : List UInt8) : (scan CsiReader.step .ground stream).1.Open := by
  have hground : CsiReader.Open .ground := trivial
  exact scan_invariant CsiReader.step
    (fun s byte (hs : CsiReader.Open s) => CsiReader.open_step hs byte) hground stream

lemma tracks_observe {stream chunk : List UInt8} (h : t.Tracks stream)
    (hshort : (scan CsiReader.step .ground (stream ++ chunk)).1.unfinished.length ≤ 64) :
    (t.observe chunk).Tracks (stream ++ chunk) := by
  have hreader := open_scan stream
  have hstream : scan CsiReader.step .ground (t.pending ++ chunk) =
      scan CsiReader.step (scan CsiReader.step .ground stream).1 chunk := by
    rw [h.pending, scan_append, CsiReader.scan_unfinished hreader, List.nil_append]
  have hobserved := observeBytes_eq (t := { t with pending := [] }) rfl (t.pending ++ chunk)
  rw [hstream] at hobserved
  rw [scan_append] at hshort
  have hsame := @foldl_observeCsiU_congr
    (scan CsiReader.step (scan CsiReader.step .ground stream).1 chunk).2
    ((scan CsiReader.step .ground stream).2.foldl observeCsiU fresh) { t with pending := [] }
    h.stack h.flags
  unfold observe
  rw [hobserved]
  refine ⟨?_, ?_, ?_⟩
  · rw [scan_append]
    exact if_pos hshort
  · rw [scan_append, List.foldl_append]
    exact hsame.1
  · rw [scan_append, List.foldl_append]
    exact hsame.2

/-- What every chunk leaves unfinished is stored. -/
def Stored (chunks : List (List UInt8)) : Prop :=
  ∀ n, (scan CsiReader.step .ground (chunks.take n).flatten).1.unfinished.length ≤ 64

lemma tracks_observeAll (chunks : List (List UInt8)) (h : Stored chunks) :
    (fresh.observeAll chunks).Tracks chunks.flatten := by
  have htaken (n : Nat) : (fresh.observeAll (chunks.take n)).Tracks (chunks.take n).flatten := by
    induction n with
    | zero => exact ⟨rfl, rfl, rfl⟩
    | succ n ih =>
      have hshort := h (n + 1)
      rw [List.take_add_one] at hshort ⊢
      cases hchunk : chunks[n]? with
      | none => simpa [hchunk] using ih
      | some chunk =>
        rw [hchunk] at hshort
        simp only [Option.toList_some, List.flatten_append, List.flatten_cons, List.flatten_nil,
          List.append_nil] at hshort ⊢
        have hlast := tracks_observe ih hshort
        unfold observeAll at hlast ⊢
        rw [List.foldl_append]
        exact hlast
  have hall := htaken chunks.length
  rw [List.take_length] at hall
  exact hall

/-- Every prefix of a stream of short sequences leaves a short one unfinished. -/
lemma unfinished_le {before after : List UInt8} (h : ShortSequences (before ++ after)) :
    (scan CsiReader.step .ground before).1.unfinished.length ≤ 64 := by
  have hbefore := ((avoids_append _ _ _ _ _).mp h).1
  rcases List.eq_nil_or_concat before with rfl | ⟨earlier, byte, rfl⟩
  · simp [scan, CsiReader.unfinished]
  · rw [List.concat_eq_append] at hbefore ⊢
    have hlast := ((avoids_append _ _ _ _ _).mp hbefore).2.1
    rw [scan_append]
    simpa [scan] using hlast

lemma stored_of_shortSequences {chunks : List (List UInt8)} (h : ShortSequences chunks.flatten) :
    Stored chunks := by
  intro n
  have hsplit : (chunks.take n).flatten ++ (chunks.drop n).flatten = chunks.flatten := by
    rw [← List.flatten_append, List.take_append_drop]
  rw [← hsplit] at h
  apply unfinished_le h

end

end KittyKeyboardTracker

/-! ### Decimal parameters -/

section
variable {digits : List Char}

lemma byte_of_digit {c : Char} (h : c.isDigit = true) :
    (UInt8.ofNat c.toNat).toNat = c.toNat ∧ 48 ≤ c.toNat ∧ c.toNat ≤ 57 := by
  have hbounds : 48 ≤ c.toNat ∧ c.toNat ≤ 57 := Char.isDigit_iff_toNat.mp h
  refine ⟨?_, hbounds⟩
  rw [UInt8.toNat_ofNat']
  omega

lemma ascii_digit {byte : UInt8} (h : ∀ c ∈ digits, c.isDigit = true)
    (hb : byte ∈ KeyboardSequence.ascii digits) : 48 ≤ byte.toNat ∧ byte.toNat ≤ 57 := by
  obtain ⟨c, hc, rfl⟩ := List.mem_map.mp hb
  obtain ⟨hbyte, hbounds⟩ := byte_of_digit (h c hc)
  rw [hbyte]
  exact hbounds

lemma fromUtf8_digits (h : ∀ c ∈ digits, c.isDigit = true) :
    fromUtf8 (KeyboardSequence.ascii digits) = .ok digits := by
  have hascii : ∀ byte ∈ KeyboardSequence.ascii digits, byte < 0x80 := by
    intro byte hb
    have hbounds := ascii_digit h hb
    rw [UInt8.lt_iff_toNat_lt]
    change byte.toNat < 128
    omega
  rw [fromUtf8_ascii hascii]
  unfold KeyboardSequence.ascii
  rw [List.map_map]
  congr 1
  calc digits.map ((fun b : UInt8 => Char.ofNat b.toNat) ∘ fun c => UInt8.ofNat c.toNat)
      = digits.map id := by
        apply List.map_congr_left
        intro c hc
        simp [(byte_of_digit (h c hc)).1]
    _ = digits := List.map_id digits

/-- The first parameter is read up to the separator. -/
lemma parseKittyKeyboardFlags_digits (h : ∀ c ∈ digits, c.isDigit = true) (rest : List UInt8)
    (hrest : rest = [] ∨ rest.head? = some semicolonByte) :
    parseKittyKeyboardFlags (KeyboardSequence.ascii digits ++ rest) =
      ((parseUnsigned 65535 digits).map UInt16.ofNat).getD 0 := by
  have hdigits : ∀ byte ∈ KeyboardSequence.ascii digits, decide (byte ≠ semicolonByte) = true := by
    intro byte hb
    have hbounds := ascii_digit h hb
    rw [decide_eq_true_eq]
    rintro rfl
    revert hbounds
    decide
  have hend : rest.takeWhile (fun byte => decide (byte ≠ semicolonByte)) = [] := by
    rcases hrest with rfl | hhead
    · rfl
    · obtain ⟨tail, rfl⟩ := List.head?_eq_some_iff.mp hhead
      simp
  have hfirst : (KeyboardSequence.ascii digits ++ rest).takeWhile
      (fun byte => decide (byte ≠ semicolonByte)) = KeyboardSequence.ascii digits := by
    rw [List.takeWhile_append_of_pos hdigits, hend, List.append_nil]
  unfold parseKittyKeyboardFlags
  rw [hfirst]
  dsimp only
  rw [fromUtf8_digits h]

lemma not_final_digits (h : ∀ c ∈ digits, c.isDigit = true) :
    ∀ byte ∈ KeyboardSequence.ascii digits, isFinalByte byte = false := by
  intro byte hb
  have hbounds := ascii_digit h hb
  have hlt : ¬(0x40 : UInt8) ≤ byte := by
    rw [UInt8.le_iff_toNat_le]
    change ¬64 ≤ byte.toNat
    omega
  simp [isFinalByte, hlt]

lemma parseKittyKeyboardFlags_decimal (flags : UInt16) :
    parseKittyKeyboardFlags (KeyboardSequence.ascii (Nat.toDigits 10 flags.toNat)) = flags := by
  have hle : flags.toNat ≤ 65535 := by
    have := flags.toNat_lt
    omega
  have hparsed : parseKittyKeyboardFlags
      (KeyboardSequence.ascii (Nat.toDigits 10 flags.toNat) ++ []) =
        ((parseUnsigned 65535 (Nat.toDigits 10 flags.toNat)).map UInt16.ofNat).getD 0 :=
    parseKittyKeyboardFlags_digits (fun c hc => isDigit_of_mem_decimal hc) [] (.inl rfl)
  rw [List.append_nil] at hparsed
  rw [hparsed, parseUnsigned_decimal hle]
  simp

end

namespace KittyKeyboardTracker

/-! ### Replay -/

section
variable {t : KittyKeyboardTracker}

/-- One sequence of the replay. -/
lemma scan_csiU {intro : Char} (hintro : intro = '=' ∨ intro = '>') (flags : UInt16)
    (rest : List UInt8) :
    scan CsiReader.step .ground (KeyboardSequence.ascii (csiU intro flags) ++ rest) =
      ((scan CsiReader.step .ground rest).1,
        (UInt8.ofNat intro.toNat :: KeyboardSequence.ascii (Nat.toDigits 10 flags.toNat)) ::
          (scan CsiReader.step .ground rest).2) := by
  have hbody : ∀ byte ∈ UInt8.ofNat intro.toNat ::
      KeyboardSequence.ascii (Nat.toDigits 10 flags.toNat), isFinalByte byte = false := by
    intro byte hb
    rcases List.mem_cons.mp hb with rfl | hb
    · rcases hintro with rfl | rfl <;> decide
    · exact not_final_digits (fun c hc => isDigit_of_mem_decimal hc) byte hb
  have hbytes : KeyboardSequence.ascii (csiU intro flags) ++ rest = escByte :: bracketByte ::
      ((UInt8.ofNat intro.toNat :: KeyboardSequence.ascii (Nat.toDigits 10 flags.toNat)) ++
        uByte :: rest) := by
    simp [csiU, KeyboardSequence.ascii, escByte, bracketByte, uByte]
  have hfinal : isFinalByte uByte = true := by decide
  rw [hbytes, CsiReader.scan_csi hbody hfinal]
  simp

/-- The pushes of the replay. -/
lemma scan_pushes (pushed : List UInt16) :
    scan CsiReader.step .ground (KeyboardSequence.ascii (pushed.flatMap (csiU '>'))) =
      (.ground, pushed.map fun flags =>
        0x3e :: KeyboardSequence.ascii (Nat.toDigits 10 flags.toNat)) := by
  induction pushed with
  | nil => rfl
  | cons flags pushed ih =>
    have hfirst := scan_csiU (.inr rfl) flags (KeyboardSequence.ascii (pushed.flatMap (csiU '>')))
    rw [ih] at hfirst
    have happend : KeyboardSequence.ascii ((flags :: pushed).flatMap (csiU '>')) =
        KeyboardSequence.ascii (csiU '>' flags) ++
          KeyboardSequence.ascii (pushed.flatMap (csiU '>')) := by
      simp [KeyboardSequence.ascii]
    rw [happend, hfirst]
    rfl

/-- Pushes move the flags in force below those that are pushed. -/
lemma foldl_pushes (pushed : List UInt16) (t : KittyKeyboardTracker) :
    let r := (pushed.map fun flags =>
      0x3e :: KeyboardSequence.ascii (Nat.toDigits 10 flags.toNat)).foldl observeCsiU t
    r.stack ++ [r.flags] = t.stack ++ t.flags :: pushed := by
  induction pushed generalizing t with
  | nil => rfl
  | cons flags pushed ih =>
    have hfirst : t.observeCsiU (0x3e :: KeyboardSequence.ascii (Nat.toDigits 10 flags.toNat)) =
        t.push flags := by
      unfold observeCsiU
      dsimp only
      rw [if_pos rfl, parseKittyKeyboardFlags_decimal]
    have hrest := ih (t.push flags)
    dsimp only at hrest ⊢
    rw [List.map_cons, List.foldl_cons, hfirst, hrest]
    simp [push]

lemma observe_fresh (bytes : List UInt8) :
    (fresh.observe bytes).stack =
        ((scan CsiReader.step .ground bytes).2.foldl observeCsiU fresh).stack ∧
      (fresh.observe bytes).flags =
        ((scan CsiReader.step .ground bytes).2.foldl observeCsiU fresh).flags := by
  have hobserved : fresh.observe bytes = _ := observeBytes_eq rfl bytes
  rw [hobserved]
  exact ⟨rfl, rfl⟩

/-- The sequence that sets the lowest flags, which a fresh tracker has if they are zero. -/
lemma foldl_baseline (flags : UInt16) (rest : List UInt8) :
    let ansi := if flags ≠ 0 then csiU '=' flags else []
    let seen := (scan CsiReader.step .ground (KeyboardSequence.ascii ansi ++ rest)).2
    seen.foldl observeCsiU fresh =
      (scan CsiReader.step .ground rest).2.foldl observeCsiU { fresh with flags := flags } := by
  dsimp only
  by_cases hflags : flags = 0
  · rw [if_neg (not_not.mpr hflags), hflags]
    rfl
  · have hset : fresh.observeCsiU
        (0x3d :: KeyboardSequence.ascii (Nat.toDigits 10 flags.toNat)) =
        { fresh with flags := flags } := by
      unfold observeCsiU
      dsimp only
      rw [if_neg (by decide), if_pos rfl, parseKittyKeyboardFlags_decimal]
    rw [if_pos hflags, scan_csiU (.inl rfl)]
    exact congrArg (fun s => List.foldl observeCsiU s (scan CsiReader.step .ground rest).2) hset

/-- A fresh tracker that observes what a tracker replays comes to its state. -/
lemma seed_replayAnsi (t : KittyKeyboardTracker) :
    (fresh.seed t.replayAnsi).flags = t.flags ∧ (fresh.seed t.replayAnsi).stack = t.stack := by
  unfold replayAnsi
  cases hstack : t.stack with
  | nil =>
    have hbaseline := foldl_baseline t.flags []
    dsimp only at hbaseline ⊢
    rw [List.append_nil] at hbaseline
    by_cases hflags : t.flags = 0
    · rw [if_neg (not_not.mpr hflags), hflags]
      exact ⟨rfl, rfl⟩
    · rw [if_pos hflags] at hbaseline ⊢
      obtain ⟨hstack', hflags'⟩ := observe_fresh (KeyboardSequence.ascii (csiU '=' t.flags))
      rw [hbaseline] at hstack' hflags'
      exact ⟨hflags', hstack'⟩
  | cons baseline rest =>
    have hbaseline := foldl_baseline baseline
      (KeyboardSequence.ascii ((rest ++ [t.flags]).flatMap (csiU '>')))
    dsimp only at hbaseline ⊢
    generalize (if baseline ≠ 0 then csiU '=' baseline else []) = ansi at hbaseline ⊢
    have hansi : (rest ++ [t.flags]).foldl (fun ansi flags => ansi ++ csiU '>' flags) ansi =
        ansi ++ (rest ++ [t.flags]).flatMap (csiU '>') := by
      rw [List.foldl_append_eq_append, List.flatMap_def]
    have hne : (ansi ++ (rest ++ [t.flags]).flatMap (csiU '>')).isEmpty = false := by
      simp [csiU]
    rw [hansi, hne, if_neg Bool.false_ne_true]
    have hbytes : KeyboardSequence.ascii (ansi ++ (rest ++ [t.flags]).flatMap (csiU '>')) =
        KeyboardSequence.ascii ansi ++
          KeyboardSequence.ascii ((rest ++ [t.flags]).flatMap (csiU '>')) := by
      simp [KeyboardSequence.ascii]
    obtain ⟨hstack', hflags'⟩ := observe_fresh
      (KeyboardSequence.ascii (ansi ++ (rest ++ [t.flags]).flatMap (csiU '>')))
    rw [hbytes, hbaseline, scan_pushes] at hstack' hflags'
    have hpushed := foldl_pushes (rest ++ [t.flags]) { fresh with flags := baseline }
    dsimp only at hpushed
    rw [← hstack', ← hflags', ← hbytes] at hpushed
    have hsplit : (fresh.observe (KeyboardSequence.ascii
        (ansi ++ (rest ++ [t.flags]).flatMap (csiU '>')))).stack ++ [(fresh.observe
        (KeyboardSequence.ascii (ansi ++ (rest ++ [t.flags]).flatMap (csiU '>')))).flags] =
        (baseline :: rest) ++ [t.flags] :=
      hpushed
    obtain ⟨hstack'', hflags''⟩ := List.append_inj' hsplit rfl
    exact ⟨List.singleton_inj.mp hflags'', hstack''⟩

end

/-- Over every cut of the stream the flags and the stack are those of the whole stream, and they
are brought to a fresh tracker by the replay. -/
theorem observeAll_eq_observe (chunks : List (List UInt8)) (h : ShortSequences chunks.flatten) :
    let t := fresh.observeAll chunks
    (t.flags = (fresh.observe chunks.flatten).flags ∧
        t.stack = (fresh.observe chunks.flatten).stack) ∧
      (fresh.seed t.replayAnsi).flags = t.flags ∧ (fresh.seed t.replayAnsi).stack = t.stack := by
  have hcut := tracks_observeAll chunks (stored_of_shortSequences h)
  have hwhole := observe_fresh chunks.flatten
  refine ⟨⟨?_, ?_⟩, seed_replayAnsi _⟩
  · rw [hcut.flags, hwhole.2]
  · rw [hcut.stack, hwhole.1]

/-- A stream of two pushes and a pop, cut inside the second push and the pop. -/
theorem observeAll_eq_observe_nested :
    let chunks : List (List UInt8) := [[0x1b, 0x5b, 0x3e, 0x31, 0x75, 0x1b, 0x5b, 0x3e, 0x35],
      [0x75, 0x1b, 0x5b, 0x3c], [0x75]]
    let t := fresh.observeAll chunks
    (t.flags = (fresh.observe chunks.flatten).flags ∧
        t.stack = (fresh.observe chunks.flatten).stack) ∧
      (fresh.seed t.replayAnsi).flags = t.flags ∧ (fresh.seed t.replayAnsi).stack = t.stack :=
  observeAll_eq_observe _ (by decide)

end KittyKeyboardTracker

end Ork3.Pane.KittyKeyboard
