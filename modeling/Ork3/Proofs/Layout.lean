import Ork3.Library.Run
import Ork3.Model.Layout
import Mathlib.Data.List.Nodup
import Mathlib.Data.List.Perm.Basic
import Mathlib.Data.List.Count
import Mathlib.Tactic.Linarith
import Mathlib.Tactic.NormNum

/-!
# Reachable tile layouts

Every operation is described by what it does to the list of ids in tree order. From there the
distinctness of the ids is re-established once per operation, and carried over runs.
-/

namespace Ork3.Layout
open Ork3.Library

/-! ### Ids of the rebuilt trees -/

section Ids
variable (n : Node) (target newId : PaneId)

lemma Node.countPanes_eq_length : n.countPanes = n.collectIds.length := by
  induction n with
  | pane id => rfl
  | split d r first second ih₁ ih₂ => simp [countPanes, collectIds, ih₁, ih₂]

lemma Node.collectIds_ne_nil : n.collectIds ≠ [] := by
  induction n with
  | pane id => simp [collectIds]
  | split d r first second ih₁ _ => simp [collectIds, ih₁]

/-- `split_at` adds the new id once for every leaf that carries the target. -/
lemma Node.collectIds_splitAt (d : Direction) (r : ℚ) :
    (n.splitAt target d newId r).collectIds.Perm
      (List.replicate (n.collectIds.count target) newId ++ n.collectIds) := by
  induction n with
  | pane id =>
    by_cases h : id = target
    · subst h
      simpa [splitAt, collectIds] using List.Perm.swap newId id []
    · simp [splitAt, collectIds, h]
  | split d' r' first second ih₁ ih₂ =>
    simp only [splitAt, collectIds, List.count_append, List.replicate_add]
    refine (ih₁.append ih₂).trans ?_
    simp only [List.append_assoc]
    refine List.Perm.append_left _ ?_
    rw [← List.append_assoc, ← List.append_assoc]
    exact List.perm_append_comm.append_right _

lemma Node.collectIds_splitAt_perm (d : Direction) (r : ℚ) (hn : n.collectIds.Nodup)
    (ht : target ∈ n.collectIds) :
    (n.splitAt target d newId r).collectIds.Perm (newId :: n.collectIds) := by
  have h := n.collectIds_splitAt target newId d r
  rwa [List.count_eq_one_of_mem hn ht, List.replicate_one, List.singleton_append] at h

/-- `remove_pane` drops every leaf that carries the target, and the tree when none is left. -/
lemma Node.collectIds_removePane :
    (n.removePane target).elim [] collectIds = n.collectIds.filter (fun id => id ≠ target) := by
  induction n with
  | pane id =>
    by_cases h : id = target
    · simp [removePane, collectIds, h]
    · simp [removePane, collectIds, h]
  | split d r first second ih₁ ih₂ =>
    simp only [removePane, collectIds, List.filter_append, ← ih₁, ← ih₂]
    cases first.removePane target with
    | none =>
      cases second.removePane target with
      | none => rfl
      | some s => simp
    | some f =>
      cases second.removePane target with
      | none => simp
      | some s => simp [collectIds]

lemma Node.collectIds_of_removePane {root : Node} (h : n.removePane target = some root) :
    root.collectIds = n.collectIds.filter (fun id => id ≠ target) := by
  rw [← n.collectIds_removePane target, h]
  rfl

lemma Node.removePane_isSome (hn : n.collectIds.Nodup) (hc : 1 < n.countPanes) :
    ∃ root, n.removePane target = some root := by
  cases h : n.removePane target with
  | some root => exact ⟨root, rfl⟩
  | none =>
    have hf := n.collectIds_removePane target
    rw [h, Option.elim_none] at hf
    have hall : ∀ id ∈ n.collectIds, id = target := by simpa using hf.symm
    rw [List.eq_replicate_of_mem hall, List.nodup_replicate] at hn
    rw [countPanes_eq_length] at hc
    omega

lemma Node.collectIds_swapPaneIds (a b : PaneId) :
    (n.swapPaneIds a b).collectIds = n.collectIds.map (Equiv.swap a b) := by
  induction n with
  | pane id =>
    simp only [swapPaneIds, collectIds, List.map_cons, List.map_nil, Equiv.swap_apply_def]
    split_ifs <;> rfl
  | split d r first second ih₁ ih₂ => simp [swapPaneIds, collectIds, ih₁, ih₂]

@[simp] lemma Node.collectIds_setRatioAt (r : ℚ) (path : List Bool) :
    (n.setRatioAt r path).1.collectIds = n.collectIds := by
  fun_induction Node.setRatioAt r n path with
  | case1 => rfl
  | case2 => rfl
  | case3 d r' first second path second' found h ih => simp [collectIds, h ▸ ih]
  | case4 d r' first second path first' found h ih => simp [collectIds, h ▸ ih]

end Ids

/-! ### Ratios -/

lemma F32.clamp_mem (x : F32) {lo hi : ℚ} (h : lo ≤ hi) : lo ≤ x.clamp lo hi ∧ x.clamp lo hi ≤ hi := by
  cases x with
  | negInf => exact ⟨le_refl lo, h⟩
  | posInf => exact ⟨h, le_refl hi⟩
  | finite q =>
    simp only [clamp]
    split_ifs with h₁ h₂
    · exact ⟨le_refl lo, h⟩
    · exact ⟨h, le_refl hi⟩
    · exact ⟨not_lt.mp h₁, not_lt.mp h₂⟩

/-- Every ratio of the tree lies between a tenth and nine tenths. -/
def Node.RatiosBounded : Node → Prop
  | .pane _ => True
  | .split _ ratio first second =>
    (1 / 10 ≤ ratio ∧ ratio ≤ 9 / 10) ∧ first.RatiosBounded ∧ second.RatiosBounded

lemma validSplitRatio_bounded (ratio : F32) :
    1 / 10 ≤ validSplitRatio ratio ∧ validSplitRatio ratio ≤ 9 / 10 := by
  unfold validSplitRatio
  split_ifs
  · exact ratio.clamp_mem (by norm_num)
  · norm_num

section Ratios
variable {n : Node}

lemma Node.RatiosBounded.splitAt (h : n.RatiosBounded) (target newId : PaneId) (d : Direction)
    {r : ℚ} (hr : 1 / 10 ≤ r ∧ r ≤ 9 / 10) : (n.splitAt target d newId r).RatiosBounded := by
  induction n with
  | pane id =>
    simp only [Node.splitAt]
    split_ifs
    · exact ⟨hr, trivial, trivial⟩
    · trivial
  | split d' r' first second ih₁ ih₂ => exact ⟨h.1, ih₁ h.2.1, ih₂ h.2.2⟩

lemma Node.RatiosBounded.removePane (h : n.RatiosBounded) (target : PaneId) :
    ∀ root, n.removePane target = some root → root.RatiosBounded := by
  induction n with
  | pane id =>
    intro root hroot
    simp only [Node.removePane] at hroot
    split_ifs at hroot
    cases hroot
    trivial
  | split d r first second ih₁ ih₂ =>
    intro root hroot
    simp only [Node.removePane] at hroot
    cases h₁ : first.removePane target with
    | none =>
      cases h₂ : second.removePane target with
      | none => simp [h₁, h₂] at hroot
      | some s =>
        rw [h₁, h₂] at hroot
        cases hroot
        exact ih₂ h.2.2 _ h₂
    | some f =>
      cases h₂ : second.removePane target with
      | none =>
        rw [h₁, h₂] at hroot
        cases hroot
        exact ih₁ h.2.1 _ h₁
      | some s =>
        rw [h₁, h₂] at hroot
        cases hroot
        exact ⟨h.1, ih₁ h.2.1 _ h₁, ih₂ h.2.2 _ h₂⟩

lemma Node.RatiosBounded.swapPaneIds (h : n.RatiosBounded) (a b : PaneId) :
    (n.swapPaneIds a b).RatiosBounded := by
  induction n with
  | pane id =>
    simp only [Node.swapPaneIds]
    split_ifs <;> trivial
  | split d r first second ih₁ ih₂ => exact ⟨h.1, ih₁ h.2.1, ih₂ h.2.2⟩

lemma Node.RatiosBounded.setRatioAt (h : n.RatiosBounded) {r : ℚ} (hr : 1 / 10 ≤ r ∧ r ≤ 9 / 10)
    (path : List Bool) : (n.setRatioAt r path).1.RatiosBounded := by
  fun_induction Node.setRatioAt r n path with
  | case1 => trivial
  | case2 => exact ⟨hr, h.2⟩
  | case3 d r' first second path second' found he ih =>
    rw [he] at ih
    exact ⟨h.1, h.2.1, ih h.2.2⟩
  | case4 d r' first second path first' found he ih =>
    rw [he] at ih
    exact ⟨h.1, ih h.2.1, h.2.2⟩

end Ratios

lemma Node.setRatioAt_not_found (n : Node) (r : ℚ) (path : List Bool)
    (h : (n.setRatioAt r path).2 = false) : (n.setRatioAt r path).1 = n := by
  fun_induction Node.setRatioAt r n path with
  | case1 => rfl
  | case2 => cases h
  | case3 d r' first second path second' found he ih =>
    rw [he] at ih
    have hs : second' = second := ih h
    rw [hs]
  | case4 d r' first second path first' found he ih =>
    rw [he] at ih
    have hf : first' = first := ih h
    rw [hf]

lemma Node.splitRatios_length_setRatioAt (n : Node) (r : ℚ) (path : List Bool) (p q : List Bool) :
    ((n.setRatioAt r path).1.splitRatios p).length = (n.splitRatios q).length := by
  have hlen : ∀ (m : Node) (p q : List Bool), (m.splitRatios p).length = (m.splitRatios q).length := by
    intro m
    induction m with
    | pane id => intro p q; rfl
    | split d r first second ih₁ ih₂ =>
      intro p q
      simp only [splitRatios, List.length_cons, List.length_append]
      rw [ih₁ (p ++ [false]) (q ++ [false]), ih₂ (p ++ [true]) (q ++ [true])]
  fun_induction Node.setRatioAt r n path generalizing p q with
  | case1 => rfl
  | case2 d r' first second =>
    simp only [splitRatios, List.length_cons, List.length_append]
    rw [hlen first (p ++ [false]) (q ++ [false]), hlen second (p ++ [true]) (q ++ [true])]
  | case3 d r' first second path second' found he ih =>
    rw [he] at ih
    simp only [splitRatios, List.length_cons, List.length_append]
    rw [ih (p ++ [true]) (q ++ [true]), hlen first (p ++ [false]) (q ++ [false])]
  | case4 d r' first second path first' found he ih =>
    rw [he] at ih
    simp only [splitRatios, List.length_cons, List.length_append]
    rw [ih (p ++ [false]) (q ++ [false]), hlen second (p ++ [true]) (q ++ [true])]

/-- The ratio list that `resize_pane` compares determines the tree among its rewritten versions. -/
lemma Node.setRatioAt_eq_of_splitRatios (n : Node) (r : ℚ) (path p : List Bool)
    (h : (n.setRatioAt r path).1.splitRatios p = n.splitRatios p) : (n.setRatioAt r path).1 = n := by
  fun_induction Node.setRatioAt r n path generalizing p with
  | case1 => rfl
  | case2 d r' first second =>
    simp only [splitRatios, List.cons.injEq, Prod.mk.injEq, true_and] at h
    rw [h.1]
  | case3 d r' first second path second' found he ih =>
    rw [he] at ih
    simp only [splitRatios, List.cons.injEq, true_and] at h
    have hs : second' = second := ih _ (List.append_cancel_left h)
    rw [hs]
  | case4 d r' first second path first' found he ih =>
    have hlen := first.splitRatios_length_setRatioAt r path (p ++ [false]) (p ++ [false])
    rw [he] at ih hlen
    simp only [splitRatios, List.cons.injEq, true_and] at h
    have hf : first' = first := ih _ (List.append_inj_left h hlen)
    rw [hf]

/-! ### The operations -/

/-- Distinct ids, the focus among them. -/
structure TileLayout.IdsValid (l : TileLayout) : Prop where
  nodup : l.paneIds.Nodup
  focus_mem : l.focus ∈ l.paneIds

/-- What every reachable layout satisfies. -/
structure TileLayout.WellFormed (l : TileLayout) : Prop where
  nodup : l.paneIds.Nodup
  focus_mem : l.focus ∈ l.paneIds
  pane_exists : 1 ≤ l.paneCount
  ratios : l.root.RatiosBounded

lemma TileLayout.one_le_paneCount (l : TileLayout) : 1 ≤ l.paneCount := by
  rw [paneCount, Node.countPanes_eq_length]
  exact List.length_pos_iff.mpr l.root.collectIds_ne_nil

lemma TileLayout.WellFormed.idsValid {l : TileLayout} (h : l.WellFormed) : l.IdsValid :=
  ⟨h.nodup, h.focus_mem⟩

lemma TileLayout.IdsValid.wellFormed {l : TileLayout} (h : l.IdsValid)
    (hr : l.root.RatiosBounded) : l.WellFormed :=
  ⟨h.nodup, h.focus_mem, l.one_le_paneCount, hr⟩

lemma TileLayout.new_wellFormed (rootId : PaneId) : (new rootId).WellFormed :=
  ⟨List.nodup_singleton _, List.mem_singleton.mpr rfl, le_refl 1, trivial⟩

section Ids
variable {l : TileLayout} (h : l.IdsValid)
include h

lemma TileLayout.splitFocusedWithRatio_paneIds (newId : PaneId) (d : Direction) (r : F32) :
    (l.splitFocusedWithRatio newId d r).1.paneIds.Perm (newId :: l.paneIds) :=
  l.root.collectIds_splitAt_perm l.focus newId d (validSplitRatio r) h.nodup h.focus_mem

lemma TileLayout.IdsValid.splitFocusedWithRatio {newId : PaneId} (hnew : newId ∉ l.paneIds)
    (d : Direction) (r : F32) : (l.splitFocusedWithRatio newId d r).1.IdsValid := by
  have hp := splitFocusedWithRatio_paneIds h newId d r
  refine ⟨hp.nodup_iff.mpr (List.nodup_cons.mpr ⟨hnew, h.nodup⟩), ?_⟩
  exact hp.mem_iff.mpr List.mem_cons_self

lemma TileLayout.insertPaneNear_paneIds {target moved : PaneId} {d : Direction} {r : F32}
    (hok : (l.insertPaneNear target moved d r).2 = true) :
    moved ∉ l.paneIds ∧ (l.insertPaneNear target moved d r).1.paneIds.Perm (moved :: l.paneIds) := by
  unfold insertPaneNear at hok ⊢
  split_ifs at hok ⊢ with h₁ h₂
  rw [not_or, not_not] at h₂
  exact ⟨h₂.2, l.root.collectIds_splitAt_perm target moved d _ h.nodup h₂.1⟩

omit h in
lemma TileLayout.insertPaneNear_refused {target moved : PaneId} {d : Direction} {r : F32}
    (hno : (l.insertPaneNear target moved d r).2 = false) :
    (l.insertPaneNear target moved d r).1 = l := by
  unfold insertPaneNear at hno ⊢
  split_ifs at hno ⊢ <;> rfl

omit h in
lemma TileLayout.insertPaneNear_focus {target moved : PaneId} {d : Direction} {r : F32}
    (hok : (l.insertPaneNear target moved d r).2 = true) :
    (l.insertPaneNear target moved d r).1.focus = moved := by
  unfold insertPaneNear at hok ⊢
  split_ifs at hok ⊢
  rfl

lemma TileLayout.IdsValid.insertPaneNear (target moved : PaneId) (d : Direction) (r : F32) :
    (l.insertPaneNear target moved d r).1.IdsValid := by
  cases hb : (l.insertPaneNear target moved d r).2 with
  | false =>
    rw [insertPaneNear_refused hb]
    exact h
  | true =>
    obtain ⟨hm, hp⟩ := insertPaneNear_paneIds h hb
    refine ⟨hp.nodup_iff.mpr (List.nodup_cons.mpr ⟨hm, h.nodup⟩), ?_⟩
    rw [insertPaneNear_focus hb]
    exact hp.mem_iff.mpr List.mem_cons_self

omit h in
/-- The id next to a position in a list of distinct ids is another id of the list. -/
lemma neighbour_of_nodup {ids : List PaneId} (hn : ids.Nodup) {pos : Nat} (hpos : pos < ids.length)
    (hlen : 1 < ids.length) :
    ∃ id, (if pos + 1 < ids.length then ids[pos + 1]? else ids[pos - 1]?) = some id ∧
      id ∈ ids ∧ id ≠ ids[pos] := by
  split_ifs with hnext
  · refine ⟨ids[pos + 1], List.getElem?_eq_getElem hnext, List.getElem_mem hnext, ?_⟩
    rw [Ne, hn.getElem_inj_iff]
    omega
  · have hprev : pos - 1 < ids.length := by omega
    refine ⟨ids[pos - 1], List.getElem?_eq_getElem hprev, List.getElem_mem hprev, ?_⟩
    rw [Ne, hn.getElem_inj_iff]
    omega

/-- Closing never panics, and refuses exactly the last pane. -/
lemma TileLayout.closeFocused_cases :
    (l.paneCount = 1 ∧ l.closeFocused = some (l, false)) ∨
    (1 < l.paneCount ∧ ∃ l', l.closeFocused = some (l', true) ∧ l'.IdsValid ∧
      l.root.removePane l.focus = some l'.root ∧
      l'.paneIds = l.paneIds.filter (fun id => id ≠ l.focus)) := by
  by_cases hc : l.paneCount ≤ 1
  · refine .inl ⟨le_antisymm hc l.one_le_paneCount, ?_⟩
    rw [closeFocused, if_pos hc]
  refine .inr ⟨not_le.mp hc, ?_⟩
  have hlen : l.paneIds.length = l.paneCount := l.root.countPanes_eq_length.symm
  obtain ⟨pos, hidx⟩ : ∃ pos, l.paneIds.idxOf? l.focus = some pos := by
    cases hi : l.paneIds.idxOf? l.focus with
    | none => exact absurd h.focus_mem (List.idxOf?_eq_none_iff.mp hi)
    | some pos => exact ⟨pos, rfl⟩
  obtain ⟨hlt, hget, -⟩ := List.idxOf?_eq_some_iff.mp hidx
  have hat : l.paneIds[pos] = l.focus := by simpa using hget
  obtain ⟨newFocus, hnew, hmem, hne⟩ := neighbour_of_nodup h.nodup hlt (by omega)
  obtain ⟨root, hroot⟩ := l.root.removePane_isSome l.focus h.nodup (not_le.mp hc)
  have hids : root.collectIds = l.paneIds.filter (fun id => id ≠ l.focus) :=
    l.root.collectIds_of_removePane l.focus hroot
  refine ⟨⟨root, newFocus⟩, ?_, ⟨?_, ?_⟩, hroot, hids⟩
  · rw [closeFocused, if_neg hc]
    simp only [hidx, hnew, hroot, Option.bind_eq_bind, Option.bind_some]
  · rw [paneIds, hids]
    exact h.nodup.filter _
  · rw [paneIds, hids, List.mem_filter]
    exact ⟨hmem, by simpa [hat] using hne⟩

omit h in
@[simp] lemma TileLayout.focusPane_paneIds (id : PaneId) :
    (l.focusPane id).paneIds = l.paneIds := by
  unfold focusPane
  split_ifs <;> rfl

omit h in
@[simp] lemma TileLayout.focusPane_root (id : PaneId) : (l.focusPane id).root = l.root := by
  unfold focusPane
  split_ifs <;> rfl

omit h in
lemma TileLayout.focusPane_focus {id : PaneId} (hid : id ∈ l.paneIds) :
    (l.focusPane id).focus = id := by
  rw [focusPane, if_pos hid]

lemma TileLayout.IdsValid.focusPane (id : PaneId) : (l.focusPane id).IdsValid := by
  unfold TileLayout.focusPane
  split_ifs with hid
  · exact ⟨h.nodup, hid⟩
  · exact h

end Ids

section Operations
variable {l : TileLayout} (h : l.WellFormed)
include h

lemma TileLayout.WellFormed.splitFocusedWithRatio {newId : PaneId} (hnew : newId ∉ l.paneIds)
    (d : Direction) (r : F32) : (l.splitFocusedWithRatio newId d r).1.WellFormed :=
  (h.idsValid.splitFocusedWithRatio hnew d r).wellFormed
    (h.ratios.splitAt _ _ _ (validSplitRatio_bounded r))

lemma TileLayout.WellFormed.insertPaneNear (target moved : PaneId) (d : Direction) (r : F32) :
    (l.insertPaneNear target moved d r).1.WellFormed := by
  refine (h.idsValid.insertPaneNear target moved d r).wellFormed ?_
  unfold TileLayout.insertPaneNear
  split_ifs
  exacts [h.ratios, h.ratios, h.ratios.splitAt _ _ _ (validSplitRatio_bounded r)]

lemma TileLayout.WellFormed.focusPane (id : PaneId) : (l.focusPane id).WellFormed := by
  refine (h.idsValid.focusPane id).wellFormed ?_
  rw [focusPane_root]
  exact h.ratios

omit h in
lemma TileLayout.swapPanes_refused {a b : PaneId} (hno : (l.swapPanes a b).2 = false) :
    (l.swapPanes a b).1 = l := by
  unfold swapPanes at hno ⊢
  split_ifs at hno ⊢ <;> rfl

lemma TileLayout.swapPanes_paneIds (a b : PaneId) : (l.swapPanes a b).1.paneIds.Perm l.paneIds := by
  unfold swapPanes
  split_ifs with h₁ h₂
  · rfl
  · rfl
  · rw [not_or, not_not, not_not] at h₂
    have hmap : (l.root.swapPaneIds a b).collectIds = l.paneIds.map (Equiv.swap a b) :=
      l.root.collectIds_swapPaneIds a b
    have hn := (List.nodup_map_iff (Equiv.swap a b).injective).mpr h.nodup
    refine (List.perm_ext_iff_of_nodup (by rw [paneIds, hmap]; exact hn) h.nodup).mpr fun id => ?_
    rw [paneIds, hmap, List.mem_map]
    constructor
    · rintro ⟨id', hid', rfl⟩
      rw [Equiv.swap_apply_def]
      split_ifs
      exacts [h₂.2, h₂.1, hid']
    · intro hid
      refine ⟨Equiv.swap a b id, ?_, Equiv.swap_apply_self a b id⟩
      rw [Equiv.swap_apply_def]
      split_ifs
      exacts [h₂.2, h₂.1, hid]

lemma TileLayout.WellFormed.swapPanes (a b : PaneId) : (l.swapPanes a b).1.WellFormed := by
  have hp := swapPanes_paneIds h a b
  have hroot : (l.swapPanes a b).1.focus = l.focus ∧ (l.swapPanes a b).1.root.RatiosBounded := by
    unfold TileLayout.swapPanes
    split_ifs
    exacts [⟨rfl, h.ratios⟩, ⟨rfl, h.ratios⟩, ⟨rfl, h.ratios.swapPaneIds a b⟩]
  refine ⟨hp.nodup_iff.mpr h.nodup, ?_, one_le_paneCount _, hroot.2⟩
  rw [hroot.1]
  exact hp.mem_iff.mpr h.focus_mem

omit h in
@[simp] lemma TileLayout.setRatioAt_paneIds (path : List Bool) (r : F32) :
    (l.setRatioAt path r).1.paneIds = l.paneIds :=
  l.root.collectIds_setRatioAt _ path

omit h in
lemma TileLayout.setRatioAt_refused {path : List Bool} {r : F32}
    (hno : (l.setRatioAt path r).2 = false) : (l.setRatioAt path r).1 = l := by
  have hr := l.root.setRatioAt_not_found _ path hno
  simp only [setRatioAt, hr]

lemma TileLayout.WellFormed.setRatioAt (path : List Bool) (r : F32) :
    (l.setRatioAt path r).1.WellFormed := by
  have hids := l.setRatioAt_paneIds path r
  refine ⟨hids ▸ h.nodup, ?_, one_le_paneCount _, ?_⟩
  · rw [hids]
    exact h.focus_mem
  · exact h.ratios.setRatioAt (r.clamp_mem (by norm_num)) path

end Operations

section Resize
variable (rectNew : UInt16 → UInt16 → UInt16 → UInt16 → Rect)

/-- Resizing writes one ratio, at some path, or nothing. -/
lemma TileLayout.resizeFocused_cases (l : TileLayout) (nav : NavDirection) (delta : F32)
    (area : Rect) :
    l.resizeFocused rectNew nav delta area = l ∨
    ∃ path r, l.resizeFocused rectNew nav delta area = (l.setRatioAt path r).1 := by
  unfold resizeFocused
  split
  · exact .inl rfl
  · dsimp only
    split
    · exact .inr ⟨_, _, rfl⟩
    · exact .inl rfl

lemma TileLayout.resizePane_cases (l : TileLayout) (paneId : PaneId) (nav : NavDirection)
    (delta : F32) (area : Rect) :
    (l.resizePane rectNew paneId nav delta area).1 = l ∨
    ∃ path r, (l.resizePane rectNew paneId nav delta area).1 = (l.setRatioAt path r).1 := by
  unfold resizePane
  split_ifs with hid
  · dsimp only
    rcases resizeFocused_cases rectNew { l with focus := paneId } nav delta area with he | ⟨path, r, he⟩
    · rw [he]
      exact .inl rfl
    · rw [he]
      exact .inr ⟨path, r, rfl⟩
  · exact .inl rfl

lemma TileLayout.resizePane_paneIds (l : TileLayout) (paneId : PaneId) (nav : NavDirection)
    (delta : F32) (area : Rect) :
    (l.resizePane rectNew paneId nav delta area).1.paneIds = l.paneIds := by
  rcases l.resizePane_cases rectNew paneId nav delta area with he | ⟨path, r, he⟩
  · rw [he]
  · rw [he, setRatioAt_paneIds]

lemma TileLayout.WellFormed.resizePane {l : TileLayout} (h : l.WellFormed) (paneId : PaneId)
    (nav : NavDirection) (delta : F32) (area : Rect) :
    (l.resizePane rectNew paneId nav delta area).1.WellFormed := by
  rcases l.resizePane_cases rectNew paneId nav delta area with he | ⟨path, r, he⟩
  · rw [he]
    exact h
  · rw [he]
    exact h.setRatioAt path r

lemma TileLayout.resizePane_refused {l : TileLayout} {paneId : PaneId} {nav : NavDirection}
    {delta : F32} {area : Rect} (hno : (l.resizePane rectNew paneId nav delta area).2 = false) :
    (l.resizePane rectNew paneId nav delta area).1 = l := by
  by_cases hid : paneId ∉ l.paneIds
  · simp only [resizePane, if_pos hid]
  have hsame : (l.resizePane rectNew paneId nav delta area).1.root.splitRatios [] =
      l.root.splitRatios [] := by
    unfold resizePane at hno ⊢
    rw [if_neg hid] at hno ⊢
    simpa using hno
  rcases l.resizePane_cases rectNew paneId nav delta area with he | ⟨path, r, he⟩
  · exact he
  · rw [he] at hsame ⊢
    have hroot := l.root.setRatioAt_eq_of_splitRatios _ path [] hsame
    simp only [setRatioAt, hroot]

end Resize

/-! ### Runs -/

inductive LayoutOp where
  | splitFocusedWithRatio (newId : PaneId) (direction : Direction) (ratio : F32)
  | insertPaneNear (target moved : PaneId) (direction : Direction) (ratio : F32)
  | closeFocused
  | focusPane (id : PaneId)
  | swapPanes (first second : PaneId)
  | setRatioAt (path : List Bool) (ratio : F32)
  | resizePane (paneId : PaneId) (nav : NavDirection) (delta : F32) (area : Rect)

inductive Returned where
  | unit
  | bool (b : Bool)
  | paneId (id : PaneId)
deriving DecidableEq

namespace LayoutOp

/-- The ids that `PaneId::alloc` hands out are new to the tree and never the placeholder. -/
def AllocFresh (l : TileLayout) : LayoutOp → Prop
  | .splitFocusedWithRatio newId _ _ => newId ∉ l.paneIds ∧ newId ≠ .placeholder
  | _ => True

/-- The operation is an insertion of the pane id 0. -/
def InsertsPlaceholder : LayoutOp → Prop
  | .insertPaneNear _ moved _ _ => moved = .placeholder
  | _ => False

/-- How the ids may change from `l` to `l'` in an operation that returned the last argument. -/
def IdEffect (l l' : TileLayout) : LayoutOp → Returned → Prop
  | .splitFocusedWithRatio newId _ _, r =>
    r = .paneId newId ∧ newId ∉ l.paneIds ∧ l'.paneIds.Perm (newId :: l.paneIds)
  | .insertPaneNear _ moved _ _, .bool true =>
    moved ∉ l.paneIds ∧ l'.paneIds.Perm (moved :: l.paneIds)
  | .closeFocused, .bool true => l.focus ∉ l'.paneIds ∧ l.paneIds.Perm (l.focus :: l'.paneIds)
  | _, _ => l'.paneIds.Perm l.paneIds

section
variable (rectNew : UInt16 → UInt16 → UInt16 → UInt16 → Rect)

/-- The layout after the operation and what the operation returned; `none` is a panic. -/
def apply (l : TileLayout) : LayoutOp → Option (TileLayout × Returned)
  | .splitFocusedWithRatio newId d r =>
    some ((l.splitFocusedWithRatio newId d r).1, .paneId (l.splitFocusedWithRatio newId d r).2)
  | .insertPaneNear target moved d r =>
    some ((l.insertPaneNear target moved d r).1, .bool (l.insertPaneNear target moved d r).2)
  | .closeFocused => l.closeFocused.map fun p => (p.1, .bool p.2)
  | .focusPane paneId => some (l.focusPane paneId, .unit)
  | .swapPanes a b => some ((l.swapPanes a b).1, .bool (l.swapPanes a b).2)
  | .setRatioAt path r => some ((l.setRatioAt path r).1, .bool (l.setRatioAt path r).2)
  | .resizePane paneId nav delta area =>
    some ((l.resizePane rectNew paneId nav delta area).1,
      .bool (l.resizePane rectNew paneId nav delta area).2)

/-- One operation: it does not panic, keeps the layout well formed, changes the ids as it says, and
leaves the layout as it was when it returns `false`. -/
theorem apply_spec {l : TileLayout} (h : l.WellFormed) (op : LayoutOp) (hop : op.AllocFresh l) :
    ∃ l' r, op.apply rectNew l = some (l', r) ∧ l'.WellFormed ∧ op.IdEffect l l' r ∧
      (r = .bool false → l' = l) := by
  cases op with
  | splitFocusedWithRatio newId d r =>
    refine ⟨_, _, rfl, h.splitFocusedWithRatio hop.1 d r, ⟨rfl, hop.1, ?_⟩, fun hb => by cases hb⟩
    exact TileLayout.splitFocusedWithRatio_paneIds h.idsValid newId d r
  | insertPaneNear target moved d r =>
    refine ⟨_, _, rfl, h.insertPaneNear target moved d r, ?_, fun hb => ?_⟩
    · cases hb : (l.insertPaneNear target moved d r).2 with
      | true => exact TileLayout.insertPaneNear_paneIds h.idsValid hb
      | false =>
        rw [TileLayout.insertPaneNear_refused hb]
        exact List.Perm.refl _
    · exact TileLayout.insertPaneNear_refused (Returned.bool.inj hb)
  | closeFocused =>
    rcases TileLayout.closeFocused_cases h.idsValid with ⟨-, he⟩ | ⟨-, l', he, hv, hroot, hids⟩
    · exact ⟨l, .bool false, by rw [apply, he]; rfl, h, List.Perm.refl _, fun _ => rfl⟩
    · have hw := hv.wellFormed (h.ratios.removePane _ _ hroot)
      refine ⟨l', .bool true, by rw [apply, he]; rfl, hw, ⟨by simp [hids], ?_⟩, fun hb => by cases hb⟩
      have herase : l'.paneIds = l.paneIds.erase l.focus := by
        rw [hids, h.nodup.erase_eq_filter]
        exact List.filter_congr fun id _ => by rw [Bool.eq_iff_iff]; simp
      rw [herase]
      exact List.perm_cons_erase h.focus_mem
  | focusPane paneId =>
    refine ⟨_, _, rfl, h.focusPane paneId, ?_, fun hb => by cases hb⟩
    exact List.Perm.of_eq (TileLayout.focusPane_paneIds paneId)
  | swapPanes a b =>
    exact ⟨_, _, rfl, h.swapPanes a b, TileLayout.swapPanes_paneIds h a b,
      fun hb => TileLayout.swapPanes_refused (Returned.bool.inj hb)⟩
  | setRatioAt path r =>
    exact ⟨_, _, rfl, h.setRatioAt path r, List.Perm.of_eq (TileLayout.setRatioAt_paneIds path r),
      fun hb => TileLayout.setRatioAt_refused (Returned.bool.inj hb)⟩
  | resizePane paneId nav delta area =>
    exact ⟨_, _, rfl, h.resizePane rectNew paneId nav delta area,
      List.Perm.of_eq (l.resizePane_paneIds rectNew paneId nav delta area),
      fun hb => TileLayout.resizePane_refused rectNew (Returned.bool.inj hb)⟩

/-- An operation that allocates freshly takes `l` to `l'`. -/
def Step (l : TileLayout) (op : LayoutOp) (l' : TileLayout) : Prop :=
  op.AllocFresh l ∧ ∃ r, op.apply rectNew l = some (l', r)

lemma Step.effect {l l' : TileLayout} {op : LayoutOp} (hs : Step rectNew l op l')
    (h : l.WellFormed) : l'.WellFormed ∧ ∃ r, op.IdEffect l l' r := by
  obtain ⟨hop, r, hr⟩ := hs
  obtain ⟨l₁, r₁, hr₁, hw, hids, -⟩ := op.apply_spec rectNew h hop
  rw [hr, Option.some.injEq, Prod.mk.injEq] at hr₁
  obtain ⟨rfl, rfl⟩ := hr₁
  exact ⟨hw, r, hids⟩

/-- Only an insertion of the id 0 brings the id 0 into the tree. -/
lemma Step.placeholder_notMem {l l' : TileLayout} {op : LayoutOp} (hs : Step rectNew l op l')
    (h : l.WellFormed) (hp : ¬op.InsertsPlaceholder) (hl : .placeholder ∉ l.paneIds) :
    .placeholder ∉ l'.paneIds := by
  obtain ⟨-, r, hids⟩ := hs.effect rectNew h
  unfold IdEffect at hids
  split at hids
  · rw [hids.2.2.mem_iff, List.mem_cons, not_or]
    exact ⟨hs.1.2.symm, hl⟩
  · rw [hids.2.mem_iff, List.mem_cons, not_or]
    exact ⟨Ne.symm hp, hl⟩
  · rw [hids.2.mem_iff, List.mem_cons, not_or] at hl
    exact hl.2
  · rwa [hids.mem_iff]

end

end LayoutOp

section Reachable
variable (rectNew : UInt16 → UInt16 → UInt16 → UInt16 → Rect) {rootId : PaneId}
  {ops : List LayoutOp} {l : TileLayout}

lemma TileLayout.WellFormed.of_run (hrun : Run (LayoutOp.Step rectNew) (.new rootId) ops l) :
    l.WellFormed :=
  hrun.invariant (fun _ _ _ h hs => (hs.effect rectNew h).1) (TileLayout.new_wellFormed rootId)

/-- Every layout reached from a new one is well formed and free of the id 0, unless the run itself
inserted that id, and every operation on it changes the ids by the one it names or by none. -/
theorem tileLayout_reachable (hroot : rootId ≠ .placeholder)
    (hrun : Run (LayoutOp.Step rectNew) (.new rootId) ops l) :
    l.WellFormed ∧
    ((∀ op ∈ ops, ¬op.InsertsPlaceholder) → .placeholder ∉ l.paneIds) ∧
    ∀ op : LayoutOp, op.AllocFresh l →
      ∃ l' r, op.apply rectNew l = some (l', r) ∧ op.IdEffect l l' r ∧ (r = .bool false → l' = l) := by
  have hw := TileLayout.WellFormed.of_run rectNew hrun
  refine ⟨hw, fun hops => ?_, fun op hop => ?_⟩
  · have hstep : ∀ (m : TileLayout) (op : LayoutOp) (m' : TileLayout), ¬op.InsertsPlaceholder →
        (m.WellFormed ∧ .placeholder ∉ m.paneIds) → LayoutOp.Step rectNew m op m' →
        m'.WellFormed ∧ .placeholder ∉ m'.paneIds := by
      intro m op m' hp ⟨h, hm⟩ hs
      exact ⟨(hs.effect rectNew h).1, hs.placeholder_notMem rectNew h hp hm⟩
    refine (hrun.invariant_of_labels hstep hops ?_).2
    exact ⟨TileLayout.new_wellFormed rootId, by simpa [TileLayout.new, TileLayout.paneIds,
        Node.collectIds] using hroot.symm⟩
  · obtain ⟨l', r, hr, -, hids, hfalse⟩ := op.apply_spec rectNew hw hop
    exact ⟨l', r, hr, hids, hfalse⟩

theorem tileLayout_reachable_closed_split :
    (TileLayout.mk (.pane ⟨1⟩) ⟨1⟩).WellFormed ∧
    ((∀ op ∈ [LayoutOp.splitFocusedWithRatio ⟨2⟩ .vertical .posInf, .closeFocused],
      ¬op.InsertsPlaceholder) → .placeholder ∉ (TileLayout.mk (.pane ⟨1⟩) ⟨1⟩).paneIds) ∧
    ∀ op : LayoutOp, op.AllocFresh ⟨.pane ⟨1⟩, ⟨1⟩⟩ →
      ∃ l' r, op.apply Rect.mk ⟨.pane ⟨1⟩, ⟨1⟩⟩ = some (l', r) ∧
        op.IdEffect ⟨.pane ⟨1⟩, ⟨1⟩⟩ l' r ∧ (r = .bool false → l' = ⟨.pane ⟨1⟩, ⟨1⟩⟩) :=
  @tileLayout_reachable Rect.mk ⟨1⟩ _ _ (by decide)
    (.cons (m := ⟨.split .vertical (1 / 2) (.pane ⟨1⟩) (.pane ⟨2⟩), ⟨2⟩⟩)
      ⟨by simp [LayoutOp.AllocFresh]; decide, _, rfl⟩
      (.cons ⟨trivial, .bool true, rfl⟩ (.nil _)))

/-- Nothing stops a caller from inserting the id 0. -/
theorem insertPaneNear_admits_placeholder :
    ∃ l, Run (LayoutOp.Step Rect.mk) (.new ⟨1⟩)
      [.insertPaneNear ⟨1⟩ .placeholder .horizontal (.finite (1 / 2))] l ∧
      .placeholder ∈ l.paneIds :=
  ⟨⟨.split .horizontal (1 / 2) (.pane ⟨1⟩) (.pane .placeholder), .placeholder⟩,
    .cons ⟨trivial, .bool true, by decide +kernel⟩ (.nil _), by decide⟩

end Reachable

end Ork3.Layout
