import Ork3.Library.Excision
import Ork3.Model.Osc

/-!
# Stripping the sequences that clear the scrollback

Both sequences begin with an escape and have no other, so each occurrence is cut out. What is left has
one again where a sequence stood inside another one.
-/

namespace Ork3.Pane

open Ork3.Library

def scrollbackClears : List (List UInt8) := [scrollbackClear, privateScrollbackClear]

/-- What is asked of stripping: no sequence is left, only sequences are cut out, and stripping again
changes nothing. -/
structure StripLaws (bytes : List UInt8) : Prop where
  clean : ∀ sequence ∈ scrollbackClears, ¬ sequence <:+: stripScrollbackClearSequences bytes
  kept : Excised scrollbackClears bytes (stripScrollbackClearSequences bytes)
  idempotent : stripScrollbackClearSequences (stripScrollbackClearSequences bytes) =
    stripScrollbackClearSequences bytes

/-- No sequence has other sequences between its bytes. -/
def Uninterrupted (bytes : List UInt8) : Prop :=
  ∀ sequence ∈ scrollbackClears, ∀ spread, Spread scrollbackClears sequence spread →
    spread <:+: bytes → spread = sequence

lemma markedBy_scrollbackClears : MarkedBy scrollbackClears esc where
  marked := by
    intro sequence hsequence
    simp only [scrollbackClears, List.mem_cons, List.not_mem_nil, or_false] at hsequence
    rcases hsequence with rfl | rfl
    · exact ⟨_, rfl, by decide⟩
    · exact ⟨_, rfl, by decide⟩
  antichain := by decide

/-! ### The loop cuts out the sequences -/

lemma filterScrollbackClear_eq (skip : Nat) (bytes : List UInt8) :
    filterScrollbackClear skip bytes = excise scrollbackClears skip bytes := by
  fun_induction filterScrollbackClear skip bytes with
  | case1 => rw [excise]
  | case2 skip byte rest ih => rw [excise, ih]
  | case3 byte rest h ih =>
    have hfind : scrollbackClears.find? (fun word => word.isPrefixOf (byte :: rest)) =
        some scrollbackClear := by
      simp [scrollbackClears, h]
    rw [excise, hfind, ih]
    rfl
  | case4 byte rest h h' ih =>
    have hfind : scrollbackClears.find? (fun word => word.isPrefixOf (byte :: rest)) =
        some privateScrollbackClear := by
      simp [scrollbackClears, h, h']
    rw [excise, hfind, ih]
    rfl
  | case5 byte rest h h' ih =>
    have hfind : scrollbackClears.find? (fun word => word.isPrefixOf (byte :: rest)) = none := by
      simp [scrollbackClears, h, h']
    rw [excise, hfind, ih]

lemma tails_any_isPrefixOf (sequence bytes : List UInt8) :
    (bytes.tails.any fun window => sequence.isPrefixOf window) = true ↔ sequence <:+: bytes := by
  simp only [List.any_eq_true, List.mem_tails, List.isPrefixOf_iff_prefix]
  constructor
  · rintro ⟨window, hwindow, hsequence⟩
    exact hsequence.isInfix.trans hwindow.isInfix
  · rintro ⟨front, back, rfl⟩
    exact ⟨sequence ++ back, by simp, List.prefix_append _ _⟩

lemma containsScrollbackClearSequence_iff (bytes : List UInt8) :
    containsScrollbackClearSequence bytes = true ↔
      ∃ sequence ∈ scrollbackClears, sequence <:+: bytes := by
  rw [containsScrollbackClearSequence, Bool.or_eq_true, tails_any_isPrefixOf,
    tails_any_isPrefixOf]
  simp [scrollbackClears]

lemma stripScrollbackClearSequences_eq (bytes : List UInt8) :
    stripScrollbackClearSequences bytes = excise scrollbackClears 0 bytes := by
  unfold stripScrollbackClearSequences
  rw [filterScrollbackClear_eq]
  cases hcontains : containsScrollbackClearSequence bytes with
  | true => rfl
  | false =>
    symm
    apply excise_of_no_infix
    intro sequence hsequence hin
    have h := (containsScrollbackClearSequence_iff bytes).mpr ⟨sequence, hsequence, hin⟩
    rw [hcontains] at h
    cases h

lemma clean_iff (bytes : List UInt8) :
    (∀ sequence ∈ scrollbackClears, ¬ sequence <:+: excise scrollbackClears 0 bytes) ↔
      Uninterrupted bytes := by
  have hleft := not_congr (infix_excise_iff markedBy_scrollbackClears bytes)
  constructor
  · intro h sequence hsequence spread hspread hin
    by_contra hne
    refine hleft.mp ?_ ⟨sequence, hsequence, spread, hspread, hne, hin⟩
    rintro ⟨sequence, hsequence, hin⟩
    exact h sequence hsequence hin
  · intro h sequence hsequence hin
    refine hleft.mpr ?_ ⟨sequence, hsequence, hin⟩
    rintro ⟨sequence, hsequence, spread, hspread, hne, hin⟩
    exact hne (h sequence hsequence spread hspread hin)

/-- Stripping does what is asked exactly where no sequence has others between its bytes. -/
theorem stripLaws_iff (bytes : List UInt8) : StripLaws bytes ↔ Uninterrupted bytes := by
  rw [← clean_iff, ← stripScrollbackClearSequences_eq]
  refine ⟨fun h => h.clean, fun h => ⟨h, ?_, ?_⟩⟩
  · rw [stripScrollbackClearSequences_eq]
    exact excised_excise markedBy_scrollbackClears bytes
  · rw [stripScrollbackClearSequences_eq] at h ⊢
    rw [stripScrollbackClearSequences_eq]
    exact (excise_excise_iff markedBy_scrollbackClears bytes).mpr h

/-- A sequence inside another one leaves the other one. -/
theorem nestedClear_left : ¬ StripLaws [esc, 0x5b, 0x33, esc, 0x5b, 0x33, 0x4a, 0x4a] := by
  intro h
  have hleft : stripScrollbackClearSequences [esc, 0x5b, 0x33, esc, 0x5b, 0x33, 0x4a, 0x4a] =
      scrollbackClear := by decide
  exact h.clean scrollbackClear List.mem_cons_self (hleft ▸ List.infix_rfl)

end Ork3.Pane
