import Ork3.Library.Table

/-!
# Groups in the order of their first elements

Elements go into a hash map of groups while a list keeps the keys in the order in which they came
up. Read group by group, the elements are those of the list.
-/

namespace Ork3.Library

section
variable {α κ : Type*} [DecidableEq κ]

/-- The map of the groups and the order of their keys. -/
structure Groups (κ α : Type*) where
  groups : Table κ (List α)
  order : List κ

def Groups.push (key : α → κ) (g : Groups κ α) (x : α) : Groups κ α where
  groups := g.groups.insert (key x) (((g.groups.lookup (key x)).getD []) ++ [x])
  order := if key x ∈ g.groups then g.order else g.order ++ [key x]

def groupInOrder (key : α → κ) (xs : List α) : Groups κ α :=
  xs.foldl (Groups.push key) ⟨∅, []⟩

/-- What the map and the order hold of the elements pushed so far. -/
structure Groups.Holds (key : α → κ) (g : Groups κ α) (xs : List α) : Prop where
  mem_groups : ∀ k, k ∈ g.groups ↔ k ∈ g.order
  mem_order : ∀ k, k ∈ g.order ↔ ∃ x ∈ xs, key x = k
  nodup : g.order.Nodup
  lookup : ∀ k ∈ g.order, g.groups.lookup k = some (xs.filter fun x => key x = k)

lemma Groups.mem_order_push (key : α → κ) {g : Groups κ α} (x : α)
    (hgroups : ∀ k, k ∈ g.groups ↔ k ∈ g.order) (k : κ) :
    k ∈ (g.push key x).order ↔ k ∈ g.order ∨ k = key x := by
  simp only [Groups.push]
  by_cases hin : key x ∈ g.groups
  · rw [if_pos hin]
    constructor
    · exact Or.inl
    · rintro (hk | rfl)
      · exact hk
      · exact (hgroups _).mp hin
  · rw [if_neg hin, List.mem_append, List.mem_singleton]

lemma Groups.Holds.push {key : α → κ} {g : Groups κ α} {xs : List α} (h : g.Holds key xs) (x : α) :
    (g.push key x).Holds key (xs ++ [x]) := by
  have horder := Groups.mem_order_push key x h.mem_groups
  refine ⟨?_, ?_, ?_, ?_⟩
  · intro k
    rw [horder, ← h.mem_groups, Groups.push, AList.mem_insert, or_comm]
  · intro k
    rw [horder, h.mem_order]
    constructor
    · rintro (⟨y, hy, rfl⟩ | rfl)
      · exact ⟨y, List.mem_append_left _ hy, rfl⟩
      · exact ⟨x, by simp, rfl⟩
    · rintro ⟨y, hy, rfl⟩
      rcases List.mem_append.mp hy with hy | hy
      · exact Or.inl ⟨y, hy, rfl⟩
      · rw [List.mem_singleton.mp hy]
        exact Or.inr rfl
  · simp only [Groups.push]
    split_ifs with hin
    · exact h.nodup
    · rw [List.nodup_append]
      refine ⟨h.nodup, List.nodup_singleton _, ?_⟩
      intro k hk k' hk' heq
      rw [List.mem_singleton] at hk'
      rw [heq, hk'] at hk
      exact hin ((h.mem_groups _).mpr hk)
  · intro k hk
    rw [Groups.push, Table.lookup_insert_eq, List.filter_append]
    by_cases hkey : k = key x
    · subst hkey
      have hx : [x].filter (fun y => decide (key y = key x)) = [x] := by simp
      rw [if_pos rfl, hx]
      by_cases hin : key x ∈ g.order
      · rw [h.lookup _ hin]
        rfl
      · have hempty : xs.filter (fun y => decide (key y = key x)) = [] := by
          rw [List.filter_eq_nil_iff]
          intro y hy hyKey
          exact hin ((h.mem_order _).mpr ⟨y, hy, of_decide_eq_true hyKey⟩)
        have hnone : g.groups.lookup (key x) = none :=
          AList.lookup_eq_none.mpr fun hmem => hin ((h.mem_groups _).mp hmem)
        rw [hnone, hempty]
        rfl
    · have hx : [x].filter (fun y => decide (key y = k)) = [] := by
        simp [Ne.symm hkey]
      rw [if_neg hkey, hx, List.append_nil]
      exact h.lookup k (((horder k).mp hk).resolve_right hkey)

lemma holds_groupInOrder (key : α → κ) (xs : List α) : (groupInOrder key xs).Holds key xs := by
  induction xs using List.reverseRecOn with
  | nil => exact ⟨fun k => by simp [groupInOrder], fun k => by simp [groupInOrder], List.nodup_nil,
      fun k hk => by simp [groupInOrder] at hk⟩
  | append_singleton xs x ih =>
    rw [groupInOrder, List.foldl_append]
    exact ih.push x

/-- The groups of distinct keys that cover a list make up the list. -/
lemma perm_flatMap_filter (key : α → κ) {order : List κ} {xs : List α} (hnodup : order.Nodup)
    (hcover : ∀ x ∈ xs, key x ∈ order) :
    (order.flatMap fun k => xs.filter fun x => key x = k).Perm xs := by
  induction order generalizing xs with
  | nil =>
    have hxs : xs = [] := List.eq_nil_iff_forall_not_mem.mpr fun x hx => by simpa using hcover x hx
    rw [hxs]
    exact List.Perm.refl _
  | cons k order ih =>
    obtain ⟨hk, horder⟩ := List.nodup_cons.mp hnodup
    have hrest : (order.flatMap fun k' => xs.filter fun x => key x = k') =
        order.flatMap fun k' => (xs.filter fun x => !decide (key x = k)).filter fun x =>
          key x = k' := by
      apply List.flatMap_congr
      intro k' hk'
      rw [List.filter_filter]
      apply List.filter_congr
      intro x hx
      by_cases hkey : key x = k'
      · have hne : key x ≠ k := by
          rintro rfl
          exact hk (hkey ▸ hk')
        simp [hkey, hkey ▸ hne]
      · simp [hkey]
    rw [List.flatMap_cons, hrest]
    have hlater := @ih (xs.filter fun x => !decide (key x = k)) horder (by
      intro x hx
      obtain ⟨hmem, hne⟩ := List.mem_filter.mp hx
      exact (List.mem_cons.mp (hcover x hmem)).resolve_left (by simpa using hne))
    exact (List.Perm.append_left _ hlater).trans (List.filter_append_perm _ xs)

/-- Group by group, the elements are those of the list. -/
theorem perm_flatMap_groups (key : α → κ) (xs : List α) :
    ((groupInOrder key xs).order.flatMap fun k => xs.filter fun x => key x = k).Perm xs := by
  have hholds := holds_groupInOrder key xs
  exact perm_flatMap_filter key hholds.nodup fun x hx => (hholds.mem_order _).mpr ⟨x, hx, rfl⟩

end

end Ork3.Library
