import Mathlib

/-!
# Pages of a sorted list

A list is read in pages of `L` elements. Each page is the first `L + 1` elements after a cursor,
resorted so that the late elements come last, without its last element; the key of the last element
shown is the next cursor. The elements are then visited once each exactly when no late element stands
before a page boundary without late elements on both sides of it.
-/

namespace Ork3.Library

section
variable {α κ : Type*} [LinearOrder κ] (key : α → κ) (late : α → Bool)

/-- Early elements first, by key within each kind. -/
def ShownBefore (x y : α) : Prop :=
  toLex (late x, key x) ≤ toLex (late y, key y)

instance : DecidableRel (ShownBefore key late) := fun x y =>
  inferInstanceAs (Decidable (toLex (late x, key x) ≤ toLex (late y, key y)))

/-- What a page reads of the list `q`. -/
def fetch (q : List α) (L : ℕ) (cursor : Option κ) : List α :=
  (q.filter fun x => cursor.all fun c => c < key x).take (L + 1)

/-- The elements of a page of `L` and the cursor of the next one. -/
def page (q : List α) (L : ℕ) (cursor : Option κ) : List α × Option κ :=
  let rows := fetch key q L cursor
  let sorted := rows.insertionSort (ShownBefore key late)
  if L < rows.length then
    (sorted.dropLast, sorted.dropLast.getLast?.map key)
  else
    (sorted, none)

/-- The pages from a cursor on, up to the one without a next cursor. -/
inductive PageChain {κ α : Type*} (page : Option κ → List α × Option κ → Prop) :
    Option κ → List (List α) → Prop
  | last {c : Option κ} {rows : List α} : page c (rows, none) → PageChain page c [rows]
  | more {c : Option κ} {c' : κ} {rows : List α} {pages : List (List α)} :
      page c (rows, some c') → PageChain page (some c') pages → PageChain page c (rows :: pages)

/-- Wherever a page of `L` and its successor meet, a late element on the page means that the
elements on both sides of the boundary are late. -/
def CleanBoundaries (L : ℕ) (q : List α) : Prop :=
  ∀ (k : ℕ) (u : List α) (a b : α) (tail : List α), q.drop (k * L) = u ++ a :: b :: tail →
    u.length + 1 = L → (∃ x ∈ u ++ [a], late x) → late a ∧ late b

end

/-! ### Chains -/

section
variable {κ κ' α α' : Type*} {page : Option κ → List α × Option κ → Prop}

/-- Where a page is determined by its cursor, so is the chain. -/
lemma PageChain.unique (hpage : ∀ c r r', page c r → page c r' → r = r') {c : Option κ}
    {pages pages' : List (List α)} (h : PageChain page c pages) (h' : PageChain page c pages') :
    pages = pages' := by
  induction h generalizing pages' with
  | last hrows =>
    cases h' with
    | last hrows' => rw [(Prod.mk.inj (hpage _ _ _ hrows hrows')).1]
    | more hrows' _ => exact nomatch (Prod.mk.inj (hpage _ _ _ hrows hrows')).2
  | more hrows _ ih =>
    cases h' with
    | last hrows' => exact nomatch (Prod.mk.inj (hpage _ _ _ hrows hrows')).2
    | more hrows' hrest =>
      obtain ⟨rfl, hc⟩ := Prod.mk.inj (hpage _ _ _ hrows hrows')
      obtain rfl := Option.some.inj hc
      rw [ih hrest]

/-- A chain of pages that are shown as other values, with cursors written in another way. -/
lemma PageChain.map {page' : Option κ' → List α' × Option κ' → Prop} (f : κ → κ') (g : α → α')
    (hpage : ∀ c rows next, page c (rows, next) → page' (c.map f) (rows.map g, next.map f))
    {c : Option κ} {pages : List (List α)} (h : PageChain page c pages) :
    PageChain page' (c.map f) (pages.map (·.map g)) := by
  induction h with
  | last hrows => exact .last (hpage _ _ _ hrows)
  | more hrows _ ih => exact .more (hpage _ _ _ hrows) ih

end

/-! ### Sorted lists -/

section
variable {α κ : Type*} [LinearOrder κ] {key : α → κ} {late : α → Bool}

/-- The list is sorted by key without repetition. -/
def KeySorted (key : α → κ) (q : List α) : Prop :=
  q.Pairwise fun x y => key x < key y

lemma KeySorted.nodup {q : List α} (h : KeySorted key q) : q.Nodup :=
  h.imp fun hxy hne => absurd (congrArg key hne) hxy.ne

lemma KeySorted.inj {q : List α} (h : KeySorted key q) {x y : α} (hx : x ∈ q) (hy : y ∈ q)
    (hxy : key x = key y) : x = y := by
  have hnodup : (q.map key).Nodup := List.pairwise_map.mpr (h.imp fun hlt => hlt.ne)
  exact List.inj_on_of_nodup_map hnodup hx hy hxy

lemma KeySorted.lt_of_append {u v : List α} (h : KeySorted key (u ++ v)) {x y : α} (hx : x ∈ u)
    (hy : y ∈ v) : key x < key y :=
  (List.pairwise_append.mp h).2.2 x hx y hy

/-- What lies behind an element is what comes after it. -/
lemma KeySorted.filter_gt {u v : List α} {z : α} (h : KeySorted key (u ++ z :: v)) :
    (u ++ z :: v).filter (fun x => key z < key x) = v := by
  have hu : u.filter (fun x => key z < key x) = [] := by
    refine List.filter_eq_nil_iff.mpr fun x hx => ?_
    have hlt := h.lt_of_append hx List.mem_cons_self
    simpa using hlt.le
  have hv : v.filter (fun x => key z < key x) = v := by
    refine List.filter_eq_self.mpr fun x hx => ?_
    have hlt := (List.pairwise_cons.mp (List.pairwise_append.mp h).2.1).1 x hx
    simpa using hlt
  rw [List.filter_append, hu, List.filter_cons_of_neg (by simp), hv, List.nil_append]

lemma shownBefore_total (x y : α) : ShownBefore key late x y ∨ ShownBefore key late y x :=
  le_total _ _

/-- The resorted list of a sorted one is its early part followed by its late part. -/
lemma KeySorted.insertionSort_eq {w : List α} (h : KeySorted key w) (late : α → Bool) :
    w.insertionSort (ShownBefore key late) =
      w.filter (fun x => !late x) ++ w.filter (fun x => late x) := by
  have htotal : Std.Total (ShownBefore key late) := ⟨shownBefore_total⟩
  have htrans : IsTrans α (ShownBefore key late) := ⟨fun _ _ _ hab hbc => le_trans hab hbc⟩
  have hperm : (w.insertionSort (ShownBefore key late)).Perm
      (w.filter (fun x => !late x) ++ w.filter (fun x => late x)) :=
    (List.perm_insertionSort _ w).trans
      (List.perm_append_comm.trans (List.filter_append_perm (fun x => late x) w)).symm
  refine hperm.eq_of_pairwise ?_ (List.pairwise_insertionSort _ w) ?_
  · intro x y hx hy hxy hyx
    have heq : toLex (late x, key x) = toLex (late y, key y) := le_antisymm hxy hyx
    have hy' : y ∈ w := hperm.symm.trans (List.perm_insertionSort _ w) |>.mem_iff.mp hy
    exact h.inj (List.mem_insertionSort _ |>.mp hx) hy' (congrArg (fun p => (ofLex p).2) heq)
  · have hkind : ∀ p : α → Bool, (∀ x y, p x → p y → late x = late y) →
        (w.filter p).Pairwise (ShownBefore key late) := by
      intro p hp
      refine (h.filter p).imp_of_mem fun {x y} hx hy hlt => ?_
      exact Prod.Lex.toLex_le_toLex.mpr
        (.inr ⟨hp x y (List.of_mem_filter hx) (List.of_mem_filter hy), hlt.le⟩)
    refine List.pairwise_append.mpr ⟨hkind _ ?_, hkind _ ?_, fun x hx y hy => ?_⟩
    · intro x y hx hy
      simp only [Bool.not_eq_true'] at hx hy
      rw [hx, hy]
    · exact fun x y hx hy => hx.trans hy.symm
    · have hx' := List.of_mem_filter hx
      have hy' := List.of_mem_filter hy
      simp only [Bool.not_eq_true'] at hx'
      exact Prod.Lex.toLex_le_toLex.mpr (.inl (by simp [hx', hy']))

end

/-! ### One page -/

section
variable {α κ : Type*} [LinearOrder κ] {key : α → κ} {late : α → Bool}

/-- A page without late elements before its boundary, or with late ones on both sides of it, shows
the elements up to the boundary. -/
lemma dropLast_of_clean {u : List α} {a b : α} (h : KeySorted key (u ++ [a, b]))
    (hclean : (∃ x ∈ u ++ [a], late x) → late a ∧ late b) :
    ∃ v, ((u ++ [a, b]).insertionSort (ShownBefore key late)).dropLast = v ++ [a] ∧
      (v ++ [a]).Perm (u ++ [a]) := by
  have hsort := h.insertionSort_eq late
  by_cases hlate : ∃ x ∈ u ++ [a], late x
  · obtain ⟨ha, hb⟩ := hclean hlate
    have hs : (u ++ [a, b]).insertionSort (ShownBefore key late) =
        ((u.filter fun x => !late x) ++ (u.filter fun x => late x) ++ [a]) ++ [b] := by
      rw [hsort]
      simp [ha, hb]
    refine ⟨(u.filter fun x => !late x) ++ u.filter fun x => late x, ?_, ?_⟩
    · rw [hs, List.dropLast_concat]
    · have hp := List.perm_append_comm.trans (List.filter_append_perm (fun x => late x) u)
      exact hp.append_right [a]
  · have hearly : ∀ x ∈ u ++ [a], late x = false := by
      intro x hx
      by_contra hne
      exact hlate ⟨x, hx, by simpa using hne⟩
    have hnone : (u ++ [a]).filter (fun x => late x) = [] :=
      List.filter_eq_nil_iff.mpr fun x hx => by simp [hearly x hx]
    have hall : (u ++ [a]).filter (fun x => !late x) = u ++ [a] :=
      List.filter_eq_self.mpr fun x hx => by simp [hearly x hx]
    have hs : (u ++ [a, b]).insertionSort (ShownBefore key late) = (u ++ [a]) ++ [b] := by
      have hw : ∀ p : α → Bool, (u ++ [a, b]).filter p = (u ++ [a]).filter p ++ [b].filter p :=
        fun p => by rw [← List.filter_append, List.append_assoc]; rfl
      rw [hsort, hw, hw, hnone, hall]
      cases hb : late b with
      | false => simp [hb]
      | true => simp [hb]
    exact ⟨u, by rw [hs, List.dropLast_concat], .refl _⟩

/-- Any other page either skips an element before the last one it shows, or shows an early element
after it while a late one follows. -/
lemma dropLast_of_not_clean {u : List α} {a b : α} (h : KeySorted key (u ++ [a, b]))
    (hlate : ∃ x ∈ u ++ [a], late x) (hnot : ¬(late a ∧ late b)) :
    ∃ v z, ((u ++ [a, b]).insertionSort (ShownBefore key late)).dropLast = v ++ [z] ∧
      ((∃ p ∈ u ++ [a, b], p ∉ v ++ [z] ∧ key p < key z) ∨
        ∃ x ∈ v ++ [z], ∃ y ∈ u ++ [a, b], late x = false ∧ late y ∧ key z < key x ∧
          key z < key y) := by
  have hsort := h.insertionSort_eq late
  have hw : u ++ [a, b] = (u ++ [a]) ++ [b] := by simp
  have hnodup := h.nodup
  -- The last late element is the one the page leaves out.
  obtain ⟨B, p, hB⟩ : ∃ B p, (u ++ [a, b]).filter (fun x => late x) = B ++ [p] := by
    obtain ⟨x, hx, hxl⟩ := hlate
    have hmem : x ∈ (u ++ [a, b]).filter fun x => late x :=
      List.mem_filter.mpr ⟨by rw [hw]; exact List.mem_append_left _ hx, hxl⟩
    have hne := List.ne_nil_of_mem hmem
    exact ⟨_, _, (List.dropLast_append_getLast hne).symm⟩
  have hmemB : ∀ x ∈ B ++ [p], x ∈ u ++ [a, b] ∧ late x := fun x hx =>
    List.mem_filter.mp (hB ▸ hx)
  have hBsorted : KeySorted key (B ++ [p]) := hB ▸ h.filter _
  have hpl := (hmemB p (by simp)).2
  have hdrop : ((u ++ [a, b]).insertionSort (ShownBefore key late)).dropLast =
      (u ++ [a, b]).filter (fun x => !late x) ++ B := by
    rw [hsort, hB, ← List.append_assoc, List.dropLast_concat]
  rcases List.eq_nil_or_concat B with rfl | ⟨B, z, rfl⟩
  · -- A single late element is skipped.
    have honly : ∀ x ∈ u ++ [a, b], late x → x = p := by
      intro x hx hxl
      have hmem := List.mem_filter.mpr ⟨hx, hxl⟩
      rw [hB] at hmem
      exact List.mem_singleton.mp hmem
    have hp : p ∈ u ++ [a] := by
      obtain ⟨x, hx, hxl⟩ := hlate
      rwa [← honly x (by rw [hw]; exact List.mem_append_left _ hx) hxl]
    have hb : late b = false := by
      by_contra hne
      have hbp := honly b (by simp) (by simpa using hne)
      have hlt := (hw ▸ h).lt_of_append hp (List.mem_singleton_self b)
      rw [hbp] at hlt
      exact lt_irrefl _ hlt
    refine ⟨(u ++ [a]).filter fun x => !late x, b, ?_, .inl ⟨p, (hmemB p (by simp)).1, ?_, ?_⟩⟩
    · rw [hdrop, hw, List.filter_append, List.append_nil]
      simp [hb]
    · intro hmem
      rcases List.mem_append.mp hmem with hmem | hmem
      · simp [hpl] at hmem
      · rw [List.mem_singleton.mp hmem, hb] at hpl
        exact nomatch hpl
    · exact (hw ▸ h).lt_of_append hp (List.mem_singleton_self b)
  · have hz := hmemB z (by simp)
    have hzp : key z < key p := hBsorted.lt_of_append (by simp) (List.mem_singleton_self p)
    refine ⟨(u ++ [a, b]).filter (fun x => !late x) ++ B, z, ?_, .inr ?_⟩
    · rw [hdrop, List.concat_eq_append, List.append_assoc]
    have hearly : ∀ x ∈ u ++ [a, b], late x = false →
        x ∈ (u ++ [a, b]).filter (fun x => !late x) ++ B ++ [z] := fun x hx hxl => by
      simp only [List.mem_append, List.mem_filter]
      exact .inl (.inl ⟨by simpa using hx, by simp [hxl]⟩)
    cases hb : late b with
    | false =>
      have hzu : z ∈ u ++ [a] := by
        have hmem := hw ▸ hz.1
        rcases List.mem_append.mp hmem with hmem | hmem
        · exact hmem
        · rw [List.mem_singleton.mp hmem, hb] at hz
          exact nomatch hz.2
      exact ⟨b, hearly b (by simp) hb, p, (hmemB p (by simp)).1, hb, hpl,
        (hw ▸ h).lt_of_append hzu (List.mem_singleton_self b), hzp⟩
    | true =>
      have ha : late a = false := by
        by_contra hne
        exact hnot ⟨by simpa using hne, hb⟩
      have hpb : p = b := by
        have hend : (u ++ [a, b]).filter (fun x => late x) =
            (u ++ [a]).filter (fun x => late x) ++ [b] := by
          rw [hw, List.filter_append]
          simp [hb]
        rw [hend] at hB
        exact (List.append_inj' hB rfl).2 |> List.singleton_inj.mp |>.symm
      have hzu : z ∈ u := by
        rcases List.mem_append.mp hz.1 with hmem | hmem
        · exact hmem
        · rcases List.mem_cons.mp hmem with rfl | hmem
          · rw [ha] at hz
            exact nomatch hz.2
          · rw [List.mem_singleton.mp hmem, hpb] at hzp
            exact absurd hzp (lt_irrefl _)
      exact ⟨a, hearly a (by simp) ha, p, (hmemB p (by simp)).1, ha, hpl,
        h.lt_of_append hzu List.mem_cons_self, hzp⟩

end

/-! ### The chain of pages -/

section
variable {α κ : Type*} [LinearOrder κ] {key : α → κ} {late : α → Bool} {q : List α} {L : ℕ}

/-- The elements after a cursor. -/
def afterCursor (key : α → κ) (q : List α) (c : Option κ) : List α :=
  q.filter fun x => c.all fun c => c < key x

lemma afterCursor_none : afterCursor key q none = q := by
  simp [afterCursor]

lemma afterCursor_some {c : Option κ} {z : α} (hz : z ∈ afterCursor key q c) :
    afterCursor key q (some (key z)) =
      (afterCursor key q c).filter fun x => key z < key x := by
  have hc := (List.mem_filter.mp hz).2
  unfold afterCursor
  rw [List.filter_filter]
  refine List.filter_congr fun x _ => ?_
  cases c with
  | none => simp
  | some c =>
    simp only [Option.all_some, decide_eq_true_eq] at hc ⊢
    by_cases hlt : key z < key x
    · simp [hlt, hc.trans hlt]
    · simp [hlt]

lemma exists_boundary {r : List α} (hL : 1 ≤ L) (h : L < r.length) :
    ∃ u a b tail, r = u ++ a :: b :: tail ∧ u.length + 1 = L := by
  refine ⟨r.take (L - 1), r[L - 1], r[L], r.drop (L + 1), ?_, ?_⟩
  · have h₁ : r[L] :: r.drop (L + 1) = r.drop L := List.getElem_cons_drop ..
    have h₂ : r[L - 1] :: r.drop (L - 1 + 1) = r.drop (L - 1) := List.getElem_cons_drop ..
    rw [Nat.sub_add_cancel hL] at h₂
    rw [h₁, h₂, List.take_append_drop]
  · rw [List.length_take]
    omega

lemma page_of_length_le {c : Option κ} (h : (afterCursor key q c).length ≤ L) :
    page key late q L c = ((afterCursor key q c).insertionSort (ShownBefore key late), none) := by
  have hrows : fetch key q L c = afterCursor key q c := List.take_of_length_le (by
    change (afterCursor key q c).length ≤ _
    omega)
  unfold page
  rw [hrows, if_neg (by omega)]

lemma page_of_boundary (late : α → Bool) {c : Option κ} {u tail : List α} {a b : α}
    (h : afterCursor key q c = u ++ a :: b :: tail) (hu : u.length + 1 = L) :
    page key late q L c =
      (((u ++ [a, b]).insertionSort (ShownBefore key late)).dropLast,
        ((u ++ [a, b]).insertionSort (ShownBefore key late)).dropLast.getLast?.map key) := by
  have hrows : fetch key q L c = u ++ [a, b] := by
    change (afterCursor key q c).take (L + 1) = _
    have hsplit : u ++ a :: b :: tail = (u ++ [a, b]) ++ tail := by simp
    rw [h, hsplit]
    exact List.take_left' (by simp; omega)
  unfold page
  rw [hrows, if_pos (by simp; omega)]

lemma page_subset (key : α → κ) (late : α → Bool) (q : List α) (L : ℕ) (c : Option κ) :
    (page key late q L c).1 ⊆ afterCursor key q c := by
  have hsub : (fetch key q L c).insertionSort (ShownBefore key late) ⊆ afterCursor key q c :=
    fun x hx => List.mem_of_mem_take (List.mem_insertionSort _ |>.mp hx)
  unfold page
  dsimp only
  split
  · exact fun x hx => hsub (List.dropLast_subset _ hx)
  · exact hsub

lemma page_next {c : Option κ} {c' : κ} {rows : List α}
    (h : page key late q L c = (rows, some c')) : ∃ z ∈ rows, key z = c' := by
  unfold page at h
  dsimp only at h
  split at h
  · obtain ⟨rfl, hnext⟩ := Prod.mk.inj h
    obtain ⟨z, hz, hkey⟩ := Option.map_eq_some_iff.mp hnext
    exact ⟨z, List.mem_of_getLast? hz, hkey⟩
  · exact nomatch (Prod.mk.inj h).2

/-- A chain shows only elements after its cursor. -/
lemma PageChain.subset {c : Option κ} {pages : List (List α)}
    (h : PageChain (fun c r => page key late q L c = r) c pages) : pages.flatten ⊆ afterCursor key q c := by
  induction h with
  | @last c rows hrows =>
    have hsub := page_subset key late q L c
    rw [hrows] at hsub
    simpa using hsub
  | @more c c' rows pages hrows _ ih =>
    have hsub := page_subset key late q L c
    rw [hrows] at hsub
    obtain ⟨z, hz, rfl⟩ := page_next hrows
    rw [afterCursor_some (hsub hz)] at ih
    intro x hx
    rcases List.mem_append.mp hx with hx | hx
    · exact hsub hx
    · exact (List.mem_filter.mp (ih hx)).1

/-- The page after `z` shows the early elements of the previous page's rows that come after `z`, as
long as one of those rows after `z` is late. -/
lemma mem_page_of_late (hq : KeySorted key q) {c : Option κ} {w t : List α}
    (h : afterCursor key q c = w ++ t) (hw : w.length = L + 1) {x y z : α} (hx : x ∈ w) (hy : y ∈ w)
    (hz : z ∈ w) (hxl : late x = false) (hyl : late y) (hzx : key z < key x)
    (hzy : key z < key y) : x ∈ (page key late q L (some (key z))).1 := by
  have hafter : afterCursor key q (some (key z)) =
      w.filter (fun x => key z < key x) ++ t.filter (fun x => key z < key x) := by
    rw [afterCursor_some (h ▸ List.mem_append_left _ hz), h, List.filter_append]
  have hfetch : ∀ v ∈ w, key z < key v → v ∈ fetch key q L (some (key z)) := by
    intro v hv hlt
    change v ∈ (afterCursor key q (some (key z))).take (L + 1)
    have hlen : (w.filter fun x => key z < key x).length ≤ L + 1 :=
      (List.length_filter_le _ _).trans hw.le
    rw [hafter, List.take_append, List.take_of_length_le hlen]
    exact List.mem_append_left _ (List.mem_filter.mpr ⟨hv, by simpa using hlt⟩)
  have hsorted : KeySorted key (fetch key q L (some (key z))) :=
    (hq.filter _).sublist (List.take_sublist _ _)
  unfold page
  dsimp only
  split
  · have hmem : x ∈ (fetch key q L (some (key z))).filter fun x => !late x :=
      List.mem_filter.mpr ⟨hfetch x hx hzx, by simp [hxl]⟩
    have hne : (fetch key q L (some (key z))).filter (fun x => late x) ≠ [] :=
      List.ne_nil_of_mem (List.mem_filter.mpr ⟨hfetch y hy hzy, hyl⟩)
    rw [hsorted.insertionSort_eq late, List.dropLast_append_of_ne_nil hne]
    exact List.mem_append_left _ hmem
  · exact List.mem_insertionSort _ |>.mpr (hfetch x hx hzx)

lemma cleanBoundaries_of_short {r : List α} (h : r.length ≤ L) : CleanBoundaries late L r := by
  intro k u a b tail hdrop hu
  have hlen := congrArg List.length hdrop
  simp only [List.length_drop, List.length_append, List.length_cons] at hlen
  omega

lemma cleanBoundaries_iff {u tail : List α} {a b : α} (hu : u.length + 1 = L) :
    CleanBoundaries late L (u ++ a :: b :: tail) ↔
      ((∃ x ∈ u ++ [a], late x) → late a ∧ late b) ∧ CleanBoundaries late L (b :: tail) := by
  have hdrop : (u ++ a :: b :: tail).drop L = b :: tail := by
    have hsplit : u ++ a :: b :: tail = (u ++ [a]) ++ b :: tail := by simp
    rw [hsplit]
    exact List.drop_left' (by simpa using hu)
  constructor
  · intro h
    refine ⟨h 0 u a b tail (by simp) hu, fun k v x y rest hv hlen => h (k + 1) v x y rest ?_ hlen⟩
    rw [Nat.add_mul, Nat.one_mul, Nat.add_comm, ← List.drop_drop, hdrop, hv]
  · rintro ⟨hfirst, hrest⟩ k v x y rest hv hlen
    cases k with
    | zero =>
      rw [Nat.zero_mul, List.drop_zero] at hv
      obtain ⟨hvu, htail⟩ := List.append_inj hv (by omega)
      obtain ⟨hxa, htail⟩ := List.cons.inj htail
      rw [← hvu, ← hxa, ← (List.cons.inj htail).1]
      exact hfirst
    | succ k =>
      refine hrest k v x y rest ?_ hlen
      rw [← hv, Nat.add_mul, Nat.one_mul, Nat.add_comm, ← List.drop_drop, hdrop]

/-- The chain of pages ends, and it shows every element after its cursor exactly once if and only if
the page boundaries are clean. -/
theorem pageChain_perm_iff (late : α → Bool) (hq : KeySorted key q) (hL : 1 ≤ L) (c : Option κ) :
    ∃ pages, PageChain (fun c r => page key late q L c = r) c pages ∧
      (pages.flatten.Perm (afterCursor key q c) ↔ CleanBoundaries late L (afterCursor key q c)) := by
  induction hn : (afterCursor key q c).length using Nat.strong_induction_on generalizing c with
  | _ n ih =>
    have hsorted : KeySorted key (afterCursor key q c) := hq.filter _
    by_cases hlen : (afterCursor key q c).length ≤ L
    · refine ⟨_, .last (page_of_length_le hlen), iff_of_true ?_ (cleanBoundaries_of_short hlen)⟩
      rw [List.flatten_singleton]
      exact List.perm_insertionSort (ShownBefore key late) _
    · obtain ⟨u, a, b, tail, hafter, hu⟩ := exists_boundary hL (Nat.lt_of_not_le hlen)
      have hpage := page_of_boundary late hafter hu
      have hw : u ++ a :: b :: tail = (u ++ [a, b]) ++ tail := by simp
      have hwsorted : KeySorted key (u ++ [a, b]) :=
        (List.pairwise_append.mp (hw ▸ hafter ▸ hsorted)).1
      -- The chain goes on behind the last element shown.
      have hnext : ∀ v z, ((u ++ [a, b]).insertionSort (ShownBefore key late)).dropLast = v ++ [z] →
          z ∈ u ++ [a, b] ∧ ∃ pages, PageChain (fun c r => page key late q L c = r) c ((v ++ [z]) :: pages) ∧
            PageChain (fun c r => page key late q L c = r) (some (key z)) pages ∧
            (pages.flatten.Perm (afterCursor key q (some (key z))) ↔
              CleanBoundaries late L (afterCursor key q (some (key z)))) := by
        intro v z hv
        have hz : z ∈ u ++ [a, b] := by
          refine (List.mem_insertionSort (ShownBefore key late)).mp (List.dropLast_subset _ ?_)
          rw [hv]
          simp
        have hzafter : z ∈ afterCursor key q c := by
          rw [hafter, hw]
          exact List.mem_append_left _ hz
        have hshort : (afterCursor key q (some (key z))).length < n := by
          rw [afterCursor_some hzafter, ← hn]
          exact List.length_filter_lt_length_iff_exists.mpr ⟨z, hzafter, by simp⟩
        obtain ⟨pages, hchain, hiff⟩ := ih _ hshort (some (key z)) rfl
        rw [hv, List.getLast?_concat] at hpage
        exact ⟨hz, pages, .more hpage hchain, hchain, hiff⟩
      by_cases hclean : (∃ x ∈ u ++ [a], late x) → late a ∧ late b
      · obtain ⟨v, hv, hperm⟩ := dropLast_of_clean hwsorted hclean
        obtain ⟨-, pages, hchain, -, hiff⟩ := hnext v a hv
        have hrest : afterCursor key q (some (key a)) = b :: tail := by
          have ha : a ∈ afterCursor key q c := by
            rw [hafter]
            simp
          rw [afterCursor_some ha, hafter]
          exact (hafter ▸ hsorted).filter_gt
        refine ⟨_, hchain, ?_⟩
        rw [hrest] at hiff
        rw [hafter, cleanBoundaries_iff hu, ← hiff, and_iff_right hclean]
        have hsplit : u ++ a :: b :: tail = (u ++ [a]) ++ b :: tail := by simp
        rw [List.flatten_cons, hsplit]
        exact ⟨fun h => (List.perm_append_left_iff _).mp ((hperm.symm.append_right _).trans h),
          fun h => hperm.append h⟩
      · rw [Classical.not_imp] at hclean
        obtain ⟨v, z, hv, hcase⟩ := dropLast_of_not_clean hwsorted hclean.1 hclean.2
        obtain ⟨hz, pages, hchain, hchain', -⟩ := hnext v z hv
        refine ⟨_, hchain, iff_of_false (fun hperm => ?_) fun h => ?_⟩
        · rcases hcase with ⟨p, hp, hpv, hlt⟩ | ⟨x, hx, y, hy, hxl, hyl, hzx, hzy⟩
          · have hmem : p ∈ ((v ++ [z]) :: pages).flatten := by
              refine hperm.mem_iff.mpr ?_
              rw [hafter, hw]
              exact List.mem_append_left _ hp
            rcases List.mem_append.mp hmem with hmem | hmem
            · exact hpv hmem
            · have hafter' := (List.mem_filter.mp (hchain'.subset hmem)).2
              simp only [Option.all_some, decide_eq_true_eq] at hafter'
              exact absurd hlt hafter'.not_gt
          · have hnodup := hperm.nodup_iff.mpr hsorted.nodup
            have hxw : x ∈ u ++ [a, b] := by
              refine (List.mem_insertionSort (ShownBefore key late)).mp (List.dropLast_subset _ ?_)
              rw [hv]
              exact hx
            have hmem := mem_page_of_late hq (hafter.trans hw) (by simp; omega) hxw hy hz hxl hyl
              hzx hzy
            have hpages : x ∈ pages.flatten := by
              cases hchain' with
              | last hrows =>
                rw [hrows] at hmem
                simpa using hmem
              | more hrows _ =>
                rw [hrows] at hmem
                exact List.mem_append_left _ hmem
            rw [List.flatten_cons] at hnodup
            exact (List.disjoint_of_nodup_append hnodup) hx hpages
        · rw [hafter, cleanBoundaries_iff hu] at h
          exact hclean.2 (h.1 hclean.1)

end

end Ork3.Library
