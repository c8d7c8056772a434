import Mathlib
import Ork3.Library.Table

/-!
# Numbers from a counter

Some entries come with a number of their own, the others take the next number of a counter that
starts above all of those.
-/

namespace Ork3.Library

variable {α : Type*} [DecidableEq α]

/-- `t` numbers the entries: each with its own number, or with one at or above `base`. -/
structure Numbered (base : Nat) (entries : List (α × Option Nat)) (t : Table α Nat) (next : Nat) :
    Prop where
  mem_iff : ∀ a, a ∈ t ↔ ∃ own, (a, own) ∈ entries
  own : ∀ a n, (a, some n) ∈ entries → t.lookup a = some n
  lt_next : ∀ a n, t.lookup a = some n → n < next
  number : ∀ a n, t.lookup a = some n → (a, some n) ∈ entries ∨ (a, none) ∈ entries ∧ base ≤ n
  own_lt : ∀ a n, (a, some n) ∈ entries → n < base
  fresh_inj : ∀ a a' n, base ≤ n → t.lookup a = some n → t.lookup a' = some n → a = a'
  base_le : base ≤ next
  next_eq : next = base + entries.countP fun e => e.2.isNone

namespace Numbered

lemma nil (base : Nat) : Numbered base ([] : List (α × Option Nat)) ∅ base where
  mem_iff := by simp
  own := by simp
  lt_next := by simp
  number := by simp
  own_lt := by simp
  fresh_inj := by simp
  base_le := le_rfl
  next_eq := rfl

/-- A table whose numbers are all below the counter. -/
lemma of_table {base : Nat} {t : Table α Nat} (ht : ∀ a n, t.lookup a = some n → n < base) :
    Numbered base (t.entries.map fun e => (e.1, some e.2)) t base := by
  have hmem : ∀ a n, (a, some n) ∈ t.entries.map (fun e => (e.1, some e.2)) ↔
      t.lookup a = some n := by
    intro a n
    rw [← Option.mem_def, AList.mem_lookup_iff, List.mem_map]
    constructor
    · rintro ⟨⟨a, n⟩, h, ⟨⟩⟩
      exact h
    · intro h
      exact ⟨_, h, rfl⟩
  exact
    { mem_iff := by
        intro a
        rw [← AList.lookup_isSome, Option.isSome_iff_exists]
        constructor
        · rintro ⟨n, hn⟩
          exact ⟨some n, (hmem a n).mpr hn⟩
        · rintro ⟨own, h⟩
          obtain ⟨e, -, he⟩ := List.mem_map.mp h
          cases he
          exact ⟨e.2, (hmem _ _).mp h⟩
      own := fun a n h => (hmem a n).mp h
      lt_next := ht
      number := fun a n h => .inl ((hmem a n).mpr h)
      own_lt := fun a n h => ht a n ((hmem a n).mp h)
      fresh_inj := fun a a' n hn h _ => absurd (ht a n h) (Nat.not_lt.mpr hn)
      base_le := le_rfl
      next_eq := by simp [List.countP_map, Function.comp_def] }

variable {base next : Nat} {entries : List (α × Option Nat)} {t : Table α Nat}

/-- One more entry, with its own number or with the next one. -/
lemma insert (h : Numbered base entries t next) {a : α} (ha : a ∉ t) (own : Option Nat)
    (hown : ∀ n, own = some n → n < base) :
    Numbered base (entries ++ [(a, own)]) (t.insert a (own.getD next))
      (max next (own.getD next + 1)) := by
  have hnew : ∀ own', (a, own') ∉ entries := by
    intro own' hmem
    exact ha ((h.mem_iff a).mpr ⟨own', hmem⟩)
  have hbase := h.base_le
  constructor
  case mem_iff =>
    intro a'
    rw [AList.mem_insert, h.mem_iff]
    constructor
    · rintro (rfl | ⟨own', hmem⟩)
      · exact ⟨own, by simp⟩
      · exact ⟨own', List.mem_append_left _ hmem⟩
    · rintro ⟨own', hmem⟩
      rcases List.mem_append.mp hmem with hold | hlast
      · exact .inr ⟨own', hold⟩
      · cases List.mem_singleton.mp hlast
        exact .inl rfl
  case own =>
    intro a' n hmem
    rw [Table.lookup_insert_eq]
    rcases List.mem_append.mp hmem with hold | hlast
    · rw [if_neg (by rintro rfl; exact hnew _ hold)]
      exact h.own a' n hold
    · cases List.mem_singleton.mp hlast
      rw [if_pos rfl, Option.getD_some]
  case lt_next =>
    intro a' n hlookup
    rw [Table.lookup_insert_eq] at hlookup
    split at hlookup
    · cases hlookup
      omega
    · have hlt := h.lt_next a' n hlookup
      omega
  case number =>
    intro a' n hlookup
    rw [Table.lookup_insert_eq] at hlookup
    split at hlookup
    · rename_i heq
      cases hlookup
      cases own with
      | some n => exact .inl (by simp [heq])
      | none => exact .inr ⟨by simp [heq], hbase⟩
    · rcases h.number a' n hlookup with hmem | ⟨hmem, hle⟩
      · exact .inl (List.mem_append_left _ hmem)
      · exact .inr ⟨List.mem_append_left _ hmem, hle⟩
  case own_lt =>
    intro a' n hmem
    rcases List.mem_append.mp hmem with hold | hlast
    · exact h.own_lt a' n hold
    · cases List.mem_singleton.mp hlast
      exact hown n rfl
  case fresh_inj =>
    have hfresh : base ≤ own.getD next → own.getD next = next := by
      intro hle
      cases own with
      | none => rfl
      | some n => exact absurd (hown n rfl) (Nat.not_lt.mpr hle)
    intro a₁ a₂ n hle h₁ h₂
    rw [Table.lookup_insert_eq] at h₁ h₂
    split at h₁ <;> split at h₂
    · rename_i e₁ e₂
      rw [e₁, e₂]
    · cases h₁
      have hlt := h.lt_next a₂ _ h₂
      rw [hfresh hle] at hlt
      exact absurd hlt (Nat.lt_irrefl _)
    · cases h₂
      have hlt := h.lt_next a₁ _ h₁
      rw [hfresh hle] at hlt
      exact absurd hlt (Nat.lt_irrefl _)
    · exact h.fresh_inj a₁ a₂ n hle h₁ h₂
  case base_le => exact le_max_of_le_left hbase
  case next_eq =>
    have hnext := h.next_eq
    rw [List.countP_append, List.countP_singleton]
    cases own with
    | none =>
      simp only [Option.getD_none, Option.isNone_none, if_true]
      omega
    | some n =>
      have hlt := hown n rfl
      simp only [Option.getD_some, Option.isNone_some, Bool.false_eq_true, if_false]
      omega

/-- Where every entry has its own number the counter stays. -/
lemma next_eq_base (h : Numbered base entries t next) (hown : ∀ a, (a, none) ∉ entries) :
    next = base := by
  have hcount : entries.countP (fun e => e.2.isNone) = 0 := by
    rw [List.countP_eq_zero]
    rintro ⟨a, own⟩ he hnone
    rw [Option.isNone_iff_eq_none] at hnone
    exact hown a (hnone ▸ he)
  rw [h.next_eq, hcount, Nat.add_zero]

/-- The numbers are different as soon as the entries' own ones are. -/
theorem injective_iff (h : Numbered base entries t next) :
    (∀ a a' n, t.lookup a = some n → t.lookup a' = some n → a = a') ↔
      ∀ a a' n, (a, some n) ∈ entries → (a', some n) ∈ entries → a = a' := by
  constructor
  · intro hinj a a' n ha ha'
    exact hinj a a' n (h.own a n ha) (h.own a' n ha')
  · intro hown a a' n ha ha'
    rcases h.number a n ha with hn | ⟨-, hle⟩
    · rcases h.number a' n ha' with hn' | ⟨-, hle⟩
      · exact hown a a' n hn hn'
      · exact h.fresh_inj a a' n hle ha ha'
    · exact h.fresh_inj a a' n hle ha ha'

theorem pos_iff (h : Numbered base entries t next) (hbase : 0 < base) :
    (∀ a n, t.lookup a = some n → 0 < n) ↔ ∀ a, (a, some 0) ∉ entries := by
  constructor
  · intro hpos a ha
    exact absurd (hpos a 0 (h.own a 0 ha)) (Nat.lt_irrefl 0)
  · intro hzero a n ha
    rcases h.number a n ha with hn | ⟨-, hle⟩
    · apply Nat.pos_of_ne_zero
      rintro rfl
      exact hzero a hn
    · omega

end Numbered

end Ork3.Library
