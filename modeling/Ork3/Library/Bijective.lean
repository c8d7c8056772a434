import Mathlib

/-!
# Bijective numerals

Numbers in the base `b` with the digits `1` to `b`. No digit stands for zero, so that every number
has exactly one numeral. The digits are the letters of an alphabet, in their order.
-/

namespace Ork3.Library

section
variable {α : Type*} (alphabet : List α)

/-- The letters of a number, the lowest digit first; `fuel` is at least the number. -/
def lettersFrom : Nat → Nat → List α
  | 0, _ => []
  | fuel + 1, value =>
    if value = 0 then []
    else
      alphabet[(value - 1) % alphabet.length]?.toList ++
        lettersFrom fuel ((value - 1) / alphabet.length)

def letters (value : Nat) : List α := lettersFrom alphabet value value

lemma mem_of_mem_lettersFrom {fuel value : Nat} {c : α} (h : c ∈ lettersFrom alphabet fuel value) :
    c ∈ alphabet := by
  induction fuel generalizing value with
  | zero => cases h
  | succ fuel ih =>
    rw [lettersFrom] at h
    split at h
    · cases h
    · rw [List.mem_append, Option.mem_toList] at h
      obtain h | h := h
      · exact List.mem_of_getElem? h
      · exact ih h

lemma mem_of_mem_letters {value : Nat} {c : α} (h : c ∈ letters alphabet value) : c ∈ alphabet :=
  mem_of_mem_lettersFrom alphabet h

variable {alphabet}

/-- More fuel than the number changes nothing. -/
lemma lettersFrom_eq_letters {fuel value : Nat} (hfuel : value ≤ fuel) :
    lettersFrom alphabet fuel value = letters alphabet value := by
  have hmore : ∀ fuel fuel' value : Nat, value ≤ fuel → value ≤ fuel' →
      lettersFrom alphabet fuel value = lettersFrom alphabet fuel' value := by
    intro fuel
    induction fuel with
    | zero =>
      intro fuel' value hle _
      obtain rfl : value = 0 := by omega
      cases fuel' <;> simp [lettersFrom]
    | succ fuel ih =>
      intro fuel' value hle hle'
      cases fuel' with
      | zero =>
        obtain rfl : value = 0 := by omega
        simp [lettersFrom]
      | succ fuel' =>
        have hdiv : (value - 1) / alphabet.length ≤ value - 1 := Nat.div_le_self _ _
        simp only [lettersFrom]
        split
        · rfl
        · rw [ih fuel' _ (by omega) (by omega)]
  exact hmore fuel value value hfuel le_rfl

lemma letters_add {decoded digit : Nat} (hdigit : digit < alphabet.length) :
    letters alphabet (decoded * alphabet.length + (digit + 1)) =
      alphabet[digit] :: letters alphabet decoded := by
  have hlength : 0 < alphabet.length := by omega
  have hmod : (decoded * alphabet.length + digit) % alphabet.length = digit := by
    rw [Nat.mul_add_mod', Nat.mod_eq_of_lt hdigit]
  have hdiv : (decoded * alphabet.length + digit) / alphabet.length = decoded := by
    rw [Nat.mul_comm, Nat.mul_add_div hlength, Nat.div_eq_of_lt hdigit, Nat.add_zero]
  have hle : decoded ≤ decoded * alphabet.length := Nat.le_mul_of_pos_right decoded hlength
  have hpred : decoded * alphabet.length + (digit + 1) - 1 =
      decoded * alphabet.length + digit := by omega
  rw [letters, ← Nat.add_assoc, lettersFrom, if_neg (by omega), Nat.add_assoc, hpred, hmod, hdiv,
    List.getElem?_eq_getElem hdigit, lettersFrom_eq_letters (by omega)]
  rfl

variable (alphabet) [DecidableEq α]

/-- One more letter, with both operations checked against the bound. -/
def addLetter (bound decoded : Nat) (c : α) : Option Nat := do
  let digit ← alphabet.idxOf? c
  let shifted ← if decoded * alphabet.length < bound then some (decoded * alphabet.length) else none
  if shifted + (digit + 1) < bound then some (shifted + (digit + 1)) else none

/-- The number of a numeral, the highest digit first. -/
def valueOf (bound : Nat) (numeral : List α) : Option Nat :=
  numeral.foldlM (addLetter alphabet bound) 0

variable {alphabet}

lemma addLetter_getElem (hnodup : alphabet.Nodup) {bound decoded digit : Nat}
    (hdigit : digit < alphabet.length) (hbound : decoded * alphabet.length + (digit + 1) < bound) :
    addLetter alphabet bound decoded alphabet[digit] =
      some (decoded * alphabet.length + (digit + 1)) := by
  have hidx : alphabet.idxOf? alphabet[digit] = some digit := by
    rw [List.idxOf?_eq_some_iff]
    refine ⟨hdigit, rfl, fun j hj heq => ?_⟩
    exact hj.ne ((List.Nodup.getElem_inj_iff hnodup).mp (by simpa using heq))
  have hshift : decoded * alphabet.length < bound := by omega
  rw [addLetter, hidx, Option.bind_eq_bind, Option.bind_some, if_pos hshift]
  exact if_pos hbound

/-- A numeral is read back as its number. -/
lemma valueOf_lettersFrom (hnodup : alphabet.Nodup) (hne : alphabet ≠ []) {bound fuel value : Nat}
    (hfuel : value ≤ fuel) (hbound : value < bound) :
    valueOf alphabet bound (lettersFrom alphabet fuel value).reverse = some value := by
  induction fuel generalizing value with
  | zero =>
    obtain rfl : value = 0 := by omega
    rfl
  | succ fuel ih =>
    rw [lettersFrom]
    split
    case isTrue hzero =>
      rw [hzero]
      rfl
    case isFalse hpos =>
      have hlength : 0 < alphabet.length := List.length_pos_iff.mpr hne
      have hdigit := Nat.mod_lt (value - 1) hlength
      have hdiv : (value - 1) / alphabet.length ≤ value - 1 := Nat.div_le_self _ _
      have hsplit : (value - 1) / alphabet.length * alphabet.length +
          ((value - 1) % alphabet.length + 1) = value := by
        have := Nat.div_add_mod' (value - 1) alphabet.length
        omega
      have hfuel : (value - 1) / alphabet.length ≤ fuel := by omega
      have hrest := ih hfuel (by omega)
      rw [List.getElem?_eq_getElem hdigit, Option.toList_some, List.singleton_append,
        List.reverse_cons, valueOf, List.foldlM_append]
      rw [valueOf] at hrest
      rw [hrest, Option.bind_eq_bind, Option.bind_some, List.foldlM_cons,
        addLetter_getElem hnodup hdigit (by omega), hsplit]
      rfl

theorem valueOf_letters (hnodup : alphabet.Nodup) (hne : alphabet ≠ []) {bound value : Nat}
    (hbound : value < bound) :
    valueOf alphabet bound (letters alphabet value).reverse = some value :=
  valueOf_lettersFrom hnodup hne le_rfl hbound

theorem letters_injective (hnodup : alphabet.Nodup) (hne : alphabet ≠ []) :
    Function.Injective (letters alphabet) := by
  intro a b h
  have ha := valueOf_letters hnodup hne (Nat.lt_succ_of_le (le_max_left a b))
  have hb := valueOf_letters hnodup hne (Nat.lt_succ_of_le (le_max_right a b))
  rw [h, hb] at ha
  exact (Option.some.inj ha).symm

/-! ### Every numeral is the one of its number -/

/-- The number of a numeral, however large. -/
def unboundedValue (alphabet numeral : List α) : Option Nat :=
  numeral.foldlM (fun decoded c =>
    (alphabet.idxOf? c).map fun digit => decoded * alphabet.length + (digit + 1)) 0

lemma unboundedValue_concat (numeral : List α) (c : α) :
    unboundedValue alphabet (numeral ++ [c]) =
      (unboundedValue alphabet numeral).bind fun decoded =>
        (alphabet.idxOf? c).map fun digit => decoded * alphabet.length + (digit + 1) := by
  unfold unboundedValue
  rw [List.foldlM_append]
  apply bind_congr
  intro decoded
  cases hidx : alphabet.idxOf? c <;> simp [hidx]

lemma letters_of_unboundedValue {numeral : List α} {value : Nat}
    (h : unboundedValue alphabet numeral = some value) :
    (letters alphabet value).reverse = numeral := by
  induction numeral using List.reverseRecOn generalizing value with
  | nil =>
    obtain rfl : 0 = value := Option.some.inj h
    rfl
  | append_singleton numeral c ih =>
    rw [unboundedValue_concat, Option.bind_eq_some_iff] at h
    obtain ⟨decoded, hdecoded, hlast⟩ := h
    obtain ⟨digit, hidx, rfl⟩ := Option.map_eq_some_iff.mp hlast
    obtain ⟨hdigit, hget, -⟩ := List.idxOf?_eq_some_iff.mp hidx
    rw [letters_add hdigit, List.reverse_cons, ih hdecoded, hget]

lemma valueOf_concat (bound : Nat) (numeral : List α) (c : α) :
    valueOf alphabet bound (numeral ++ [c]) =
      (valueOf alphabet bound numeral).bind fun decoded => addLetter alphabet bound decoded c := by
  unfold valueOf
  rw [List.foldlM_append]
  apply bind_congr
  intro decoded
  cases hadd : addLetter alphabet bound decoded c <;> simp [hadd]

/-- A number that reaches the bound is rejected, whatever letters follow. -/
theorem valueOf_eq_filter {bound : Nat} (hbound : 0 < bound) (numeral : List α) :
    valueOf alphabet bound numeral = (unboundedValue alphabet numeral).filter (· < bound) := by
  induction numeral using List.reverseRecOn with
  | nil => simp [valueOf, unboundedValue, Option.filter, hbound]
  | append_singleton numeral c ih =>
    rw [valueOf_concat, unboundedValue_concat, ih]
    cases hvalue : unboundedValue alphabet numeral with
    | none => rfl
    | some decoded =>
      cases hidx : alphabet.idxOf? c with
      | none => by_cases hlt : decoded < bound <;> simp [addLetter, hidx, Option.filter, hlt]
      | some digit =>
        obtain ⟨hdigit, -⟩ := List.idxOf?_eq_some_iff.mp hidx
        have hle : decoded ≤ decoded * alphabet.length :=
          Nat.le_mul_of_pos_right decoded (by omega)
        by_cases htotal : decoded * alphabet.length + (digit + 1) < bound
        · have hlt : decoded < bound := by omega
          have hshift : decoded * alphabet.length < bound := by omega
          simp [addLetter, hidx, Option.filter, hlt, hshift, htotal]
        · by_cases hlt : decoded < bound
          · by_cases hshift : decoded * alphabet.length < bound <;>
              simp [addLetter, hidx, Option.filter, hlt, hshift, htotal]
          · simp [Option.filter, hlt, htotal]

end

end Ork3.Library
