import Ork3.Library.Increasing
import Ork3.Proofs.Restore

namespace Ork3.Persist

open Ork3.Library Ork3.Layout Ork3.Terminal Ork3.Workspaces

section
variable (ctx : RestoreContext) (snap : WorkspaceSnapshot) (state : RestoreState)

/-- The panes of a workspace that come up, each with the key its number is found under. -/
def WorkspaceSnapshot.keyedPanes : List (PaneId × UInt32) :=
  (snap.survivingTabs ctx state).flatMap (·.keyedPanes ctx)

/-- The numbers that survive are usable: positive, and different for different tabs and panes. -/
structure WorkspaceSnapshot.NumbersUsable : Prop where
  tab_numbers_nodup : ((snap.survivingTabs ctx state).map fun s => savedTabNumber snap s.idx).Nodup
  tab_numbers_pos : ∀ s ∈ snap.survivingTabs ctx state, 0 < savedTabNumber snap s.idx
  pane_numbers_ne : ∀ p ∈ snap.keyedPanes ctx state, ∀ p' ∈ snap.keyedPanes ctx state,
    snap.SharesNumber p.2 p'.2 → p.1 = p'.1
  pane_numbers_pos : ∀ p ∈ snap.keyedPanes ctx state,
    snap.publicPaneNumbers.lookup p.2 ≠ some 0

/-- How many panes come up under a key that neither a saved number nor a leaf of the layouts has. -/
def WorkspaceSnapshot.unkeyed : Nat :=
  (snap.keyedPanes ctx state).countP fun p => decide (p.2 ∉ snap.publicPaneNumbers ∧
    p.2 ∉ snap.tabs.flatMap fun tab => tab.layout.paneIds)

/-- No addition to the counters overflows. The tabs that come up and all saved panes have numbers
below the largest `usize`, and the pane counter has one for every pane that takes one from it. -/
structure WorkspaceSnapshot.CountersFit : Prop where
  tab_numbers : ∀ s ∈ snap.survivingTabs ctx state, savedTabNumber snap s.idx + 1 < usizeBound
  pane_numbers : ∀ k n, snap.publicPaneNumbers.lookup k = some n → n + 1 < usizeBound
  room : snap.firstNumber + snap.unnumbered.card + snap.unkeyed ctx state < usizeBound

/-- The pane counter has a number for every pane that takes one from it. -/
structure WorkspaceSnapshot.PanesFit : Prop where
  migrates : snap.Migrates
  room : RoomFor snap.migrated.2 (countUnkeyed snap.migrated.1 (snap.keyedPanes ctx state))

/-- When the active tab survives, no tab before it is lost, or no tab after it survives. -/
def WorkspaceSnapshot.ActiveInPlace : Prop :=
  (∃ s ∈ snap.survivingTabs ctx state, s.idx = snap.activeTab) →
    (∀ j < snap.activeTab, ∃ s ∈ snap.survivingTabs ctx state, s.idx = j) ∨
    ∀ s ∈ snap.survivingTabs ctx state, s.idx ≤ snap.activeTab

/-- `active_tab` designates the tab that the panes of the saved active tab are in. -/
def WorkspaceSnapshot.ActiveTabKept (next : UInt32) (ws : Workspace) : Prop :=
  ∀ id ∈ snap.newPaneIds next snap.activeTab, id ∈ paneIds ws.tabs →
    ∃ tab, ws.tabs[ws.activeTab]? = some tab ∧ id ∈ tab.panes

variable {ctx snap state}

/-! ### Tabs -/

lemma RestoresTab.mem_panes_iff {tab : TabSnapshot} {number : Nat} {st : RestoreState}
    {restored : RestoredTab} (h : RestoresTab ctx tab number st restored) (id : PaneId) :
    id ∈ restored.tab.panes ↔ id ∈ tabPanesUp ctx tab st := by
  rw [AList.mem_keys, h.keys, List.mem_reverse]

/-- A restored tab is valid but for its number. -/
lemma RestoresTab.valid_iff {tab : TabSnapshot} {number : Nat} {st : RestoreState}
    {restored : RestoredTab} (h : RestoresTab ctx tab number st restored)
    (hcount : tab.layout.paneIds.length ≤ 2 ^ 32) (hup : tabPanesUp ctx tab st ≠ []) :
    restored.tab.Valid ↔ 0 < number := by
  constructor
  · intro hvalid
    exact h.number ▸ hvalid.number_pos
  · intro hnumber
    obtain ⟨root, hroot, hresolved⟩ := resolveRestoredPane_mem tab.rootPane
      (restoreNodeRemapped tab.layout st.nextPaneId).2.2 hup
    obtain ⟨focus, hfocus, hfocused⟩ := resolveRestoredPane_mem tab.focused
      (restoreNodeRemapped tab.layout st.nextPaneId).2.2 hup
    rw [h.rootPane, Option.some.injEq] at hresolved
    rw [h.focus, Option.some.injEq] at hfocused
    exact
      { number_pos := by
          rw [h.number]
          exact hnumber
        root_mem := by
          rw [h.mem_panes_iff, hresolved]
          exact hroot
        layout_nodup := by
          rw [h.paneIds]
          exact (nodup_freshIds _ hcount).sublist (tabPanesUp_sublist ctx tab st)
        focus_mem := by
          rw [h.paneIds, hfocused]
          exact hfocus
        layout_panes := by
          intro id
          rw [h.paneIds, h.mem_panes_iff] }

lemma TabRestored.mem_panes_iff {tab : Tab} {s : SurvivingTab} (h : TabRestored ctx snap tab s)
    (id : PaneId) : id ∈ tab.panes ↔ id ∈ s.panes ctx := by
  obtain ⟨-, restored, hrestores, rfl⟩ := h
  exact hrestores.mem_panes_iff id

lemma TabRestored.number {tab : Tab} {s : SurvivingTab} (h : TabRestored ctx snap tab s) :
    tab.number = savedTabNumber snap s.idx := by
  obtain ⟨-, restored, hrestores, rfl⟩ := h
  exact hrestores.number

lemma paneIds_perm {tabs : List Tab} {done : List SurvivingTab}
    (h : List.Forall₂ (TabRestored ctx snap) tabs done) :
    (paneIds tabs).Perm (done.flatMap (·.panes ctx)) := by
  induction h with
  | nil => exact List.Perm.refl _
  | cons hhead _ ih =>
    obtain ⟨-, restored, hrestores, rfl⟩ := hhead
    simp only [paneIds, List.flatMap_cons] at ih ⊢
    rw [hrestores.keys]
    exact (List.reverse_perm _).append ih

lemma map_number_eq {tabs : List Tab} {done : List SurvivingTab}
    (h : List.Forall₂ (TabRestored ctx snap) tabs done) :
    tabs.map Tab.number = done.map fun s => savedTabNumber snap s.idx := by
  induction h with
  | nil => rfl
  | cons hhead _ ih => rw [List.map_cons, List.map_cons, hhead.number, ih]

/-! ### Positions -/

/-- Where the panes of a surviving tab come from. -/
lemma survivingTabs_origin (hcount : countPanes snap.tabs ≤ 2 ^ 32) {s : SurvivingTab}
    (hs : s ∈ snap.survivingTabs ctx state) :
    s.panes ctx ≠ [] ∧ snap.tabs[s.idx]? = some s.snap ∧
    s.state.nextPaneId =
      state.nextPaneId + UInt32.ofNat (countPanes (snap.tabs.take s.idx)) := by
  have hentries : snap.tabs.zipIdx.map Prod.fst = snap.tabs := List.zipIdx_map_fst ..
  obtain ⟨hpanes, before, after, hsplit, hnext⟩ :=
    mem_survivingTabsFrom (by rw [hentries]; exact hcount) hs
  have hget : snap.tabs.zipIdx[before.length]? = some (s.snap, s.idx) := by
    rw [hsplit, List.getElem?_append_right (Nat.le_refl _), Nat.sub_self]
    rfl
  rw [List.getElem?_zipIdx, Option.map_eq_some_iff] at hget
  obtain ⟨tab, htab, heq⟩ := hget
  simp only [Prod.mk.injEq, Nat.zero_add] at heq
  obtain ⟨rfl, hidx⟩ := heq
  have htake : before.map Prod.fst = snap.tabs.take s.idx := by
    rw [← hidx, ← hentries, hsplit, List.map_append, List.take_left' (by simp)]
  rw [htake] at hnext
  exact ⟨hpanes, hidx ▸ htab, hnext⟩

lemma panes_subset_newPaneIds (hcount : countPanes snap.tabs ≤ 2 ^ 32) {s : SurvivingTab}
    (hs : s ∈ snap.survivingTabs ctx state) :
    s.panes ctx ⊆ snap.newPaneIds state.nextPaneId s.idx := by
  obtain ⟨-, htab, hnext⟩ := survivingTabs_origin hcount hs
  have hsub := (tabPanesUp_sublist ctx s.snap s.state).subset
  rw [WorkspaceSnapshot.newPaneIds, htab, ← hnext]
  exact hsub

lemma mem_newPaneIds {next : UInt32} {idx : Nat} {id : PaneId} :
    id ∈ snap.newPaneIds next idx ↔
      ∃ k, countPanes (snap.tabs.take idx) ≤ k ∧ k < countPanes (snap.tabs.take (idx + 1)) ∧
        id = ⟨next + UInt32.ofNat k⟩ := by
  rw [WorkspaceSnapshot.newPaneIds, mem_freshIds_offset]
  cases htab : snap.tabs[idx]? with
  | none =>
    have hle := List.getElem?_eq_none_iff.mp htab
    rw [List.take_of_length_le hle, List.take_of_length_le (Nat.le_succ_of_le hle)]
    rfl
  | some tab =>
    rw [countPanes_take_succ htab]
    rfl

/-- Different saved tabs are given different ids. -/
lemma eq_of_mem_newPaneIds (hcount : countPanes snap.tabs ≤ 2 ^ 32) {next : UInt32} {i j : Nat}
    {id : PaneId} (hi : id ∈ snap.newPaneIds next i) (hj : id ∈ snap.newPaneIds next j) :
    i = j := by
  obtain ⟨a, hia, hai, rfl⟩ := mem_newPaneIds.mp hi
  obtain ⟨b, hjb, hbj, heq⟩ := mem_newPaneIds.mp hj
  have hi_total := countPanes_take_le_total snap.tabs (i + 1)
  have hj_total := countPanes_take_le_total snap.tabs (j + 1)
  have hab : a = b := offset_injective (by omega) (by omega) (PaneId.mk.inj heq)
  by_contra hne
  rcases Nat.lt_or_gt_of_ne hne with hlt | hlt
  · have hle := countPanes_take_le snap.tabs (i := i + 1) (j := j) hlt
    omega
  · have hle := countPanes_take_le snap.tabs (i := j + 1) (j := i) hlt
    omega

lemma survivingTabs_increasing (ctx : RestoreContext) (snap : WorkspaceSnapshot)
    (state : RestoreState) :
    ((snap.survivingTabs ctx state).map SurvivingTab.idx).Pairwise (· < ·) := by
  have hsub := survivingTabsFrom_idx_sublist ctx snap
    { state with
      nextWorkspace := if snap.id.isSome then state.nextWorkspace else state.nextWorkspace + 1 }
    snap.tabs.zipIdx
  rw [List.zipIdx_map_snd] at hsub
  exact (List.pairwise_lt_range' (s := 0)).sublist hsub

/-! ### The restored workspace -/

lemma le_foldl_max (l : List Nat) (n : Nat) :
    n ≤ l.foldl max n ∧ ∀ m ∈ l, m ≤ l.foldl max n := by
  induction l generalizing n with
  | nil => simp
  | cons k l ih =>
    obtain ⟨hstart, hmem⟩ := ih (max n k)
    rw [List.foldl_cons]
    refine ⟨le_trans (le_max_left n k) hstart, ?_⟩
    intro m hm
    rcases List.mem_cons.mp hm with rfl | hm
    · exact le_trans (le_max_right n m) hstart
    · exact hmem m hm

lemma foldl_max_of_le {l : List Nat} {n : Nat} (h : ∀ m ∈ l, m ≤ n) : l.foldl max n = n := by
  induction l with
  | nil => rfl
  | cons k l ih =>
    rw [List.foldl_cons, max_eq_left (h k List.mem_cons_self)]
    exact ih fun m hm => h m (List.mem_cons_of_mem _ hm)

lemma exists_of_forall₂_left {α β : Type*} {R : α → β → Prop} {l : List α} {l' : List β}
    (h : List.Forall₂ R l l') {a : α} (ha : a ∈ l) : ∃ b ∈ l', R a b := by
  induction h with
  | nil => simp at ha
  | cons hhead _ ih =>
    rcases List.mem_cons.mp ha with rfl | ha
    · exact ⟨_, List.mem_cons_self, hhead⟩
    · obtain ⟨b, hb, hR⟩ := ih ha
      exact ⟨b, List.mem_cons_of_mem _ hb, hR⟩

lemma exists_of_forall₂_right {α β : Type*} {R : α → β → Prop} {l : List α} {l' : List β}
    (h : List.Forall₂ R l l') {b : β} (hb : b ∈ l') : ∃ a ∈ l, R a b := by
  obtain ⟨a, ha, hR⟩ := exists_of_forall₂_left h.flip hb
  exact ⟨a, ha, hR⟩

lemma countUnkeyed_eq (h : snap.Migrates) :
    countUnkeyed snap.migrated.1 (snap.keyedPanes ctx state) = snap.unkeyed ctx state := by
  unfold countUnkeyed numberedBy WorkspaceSnapshot.unkeyed
  rw [List.countP_map]
  apply List.countP_congr
  intro p _
  rw [Function.comp_apply, Option.isNone_iff_eq_none, AList.lookup_eq_none, mem_migrated h,
    decide_eq_true_eq, not_or]

lemma WorkspaceSnapshot.CountersFit.panesFit (h : snap.CountersFit ctx state) :
    snap.PanesFit ctx state := by
  have hroom := h.room
  have hmigrates : snap.Migrates := by
    refine ⟨?_, .inr (by omega)⟩
    intro k n hn
    apply lt_nextPublicNumber _ _ (Table.mem_values hn)
    intro m hm
    obtain ⟨e, he, rfl⟩ := List.mem_map.mp hm
    exact h.pane_numbers e.1 e.2 (AList.mem_lookup_iff.mpr he)
  refine ⟨hmigrates, .inr ?_⟩
  rw [countUnkeyed_eq hmigrates, next_migrated hmigrates]
  exact hroom

lemma mem_numberedBy {byOldRaw : Table UInt32 Nat} {panes : List (PaneId × UInt32)} {id : PaneId}
    {n : Nat} :
    (id, some n) ∈ numberedBy byOldRaw panes ↔
      ∃ key, (id, key) ∈ panes ∧ byOldRaw.lookup key = some n := by
  rw [numberedBy, List.mem_map]
  constructor
  · rintro ⟨p, hp, heq⟩
    rw [Prod.mk.injEq] at heq
    obtain ⟨rfl, hn⟩ := heq
    exact ⟨p.2, hp, hn⟩
  · rintro ⟨key, hp, hn⟩
    exact ⟨(id, key), hp, by rw [hn]⟩

section
variable {r : WorkspaceRestore}
  (h : RestoresTabs ctx snap state (countPanes snap.tabs) (snap.survivingTabs ctx state) r)
include h

lemma RestoresTabs.nodup_panes (hcount : countPanes snap.tabs ≤ 2 ^ 32) :
    ((snap.survivingTabs ctx state).flatMap (·.panes ctx)).Nodup :=
  (nodup_freshIds _ hcount).sublist h.panes

lemma RestoresTabs.nextTab_pos : 0 < r.nextTab := by
  rw [h.nextTab]
  exact lt_of_lt_of_le (nextPublicNumber_pos _ _) (le_foldl_max _ _).1

lemma RestoresTabs.lt_nextTab {s : SurvivingTab} (hs : s ∈ snap.survivingTabs ctx state)
    (hfit : savedTabNumber snap s.idx + 1 < usizeBound) :
    savedTabNumber snap s.idx < r.nextTab := by
  have hle := (le_foldl_max ((snap.survivingTabs ctx state).map fun s =>
    wrappingSucc (savedTabNumber snap s.idx)) (nextPublicNumber snap.publicTabNumbers
      snap.nextPublicTabNumber)).2 _ (List.mem_map.mpr ⟨s, hs, rfl⟩)
  rw [wrappingSucc_of_lt hfit] at hle
  rw [h.nextTab]
  exact hle

lemma RestoresTabs.numbered (hfit : snap.PanesFit ctx state) :
    Numbered snap.migrated.2 (numberedBy snap.migrated.1 (snap.keyedPanes ctx state))
      r.numbers.panes r.numbers.nextPane :=
  h.numbers hfit.migrates hfit.room

lemma RestoresTabs.mem_numbers (hfit : snap.PanesFit ctx state) (id : PaneId) :
    id ∈ r.numbers.panes ↔ id ∈ paneIds r.tabs := by
  rw [(h.numbered hfit).mem_iff, (paneIds_perm h.tabs).mem_iff, numberedBy,
    WorkspaceSnapshot.keyedPanes, List.mem_flatMap]
  simp only [List.mem_map, Prod.mk.injEq, List.mem_flatMap]
  constructor
  · rintro ⟨own, p, ⟨s, hs, hp⟩, rfl, -⟩
    refine ⟨s, hs, ?_⟩
    rw [← s.map_fst_keyedPanes]
    exact List.mem_map.mpr ⟨p, hp, rfl⟩
  · rintro ⟨s, hs, hid⟩
    rw [← s.map_fst_keyedPanes] at hid
    obtain ⟨p, hp, rfl⟩ := List.mem_map.mp hid
    exact ⟨_, p, ⟨s, hs, hp⟩, rfl, rfl⟩

lemma RestoresTabs.numbers_ne_iff (hfit : snap.PanesFit ctx state) :
    (∀ id id' n, r.numbers.panes.lookup id = some n → r.numbers.panes.lookup id' = some n →
      id = id') ↔
    ∀ p ∈ snap.keyedPanes ctx state, ∀ p' ∈ snap.keyedPanes ctx state,
      snap.SharesNumber p.2 p'.2 → p.1 = p'.1 := by
  rw [(h.numbered hfit).injective_iff]
  constructor
  · intro hinj p hp p' hp' hshares
    obtain ⟨n, hn, hn'⟩ := (sharesNumber_iff hfit.migrates).mp hshares
    exact hinj p.1 p'.1 n (mem_numberedBy.mpr ⟨p.2, hp, hn⟩) (mem_numberedBy.mpr ⟨p'.2, hp', hn'⟩)
  · intro hne id id' n hid hid'
    obtain ⟨key, hp, hn⟩ := mem_numberedBy.mp hid
    obtain ⟨key', hp', hn'⟩ := mem_numberedBy.mp hid'
    exact hne (id, key) hp (id', key') hp' ((sharesNumber_iff hfit.migrates).mpr ⟨n, hn, hn'⟩)

lemma RestoresTabs.numbers_pos_iff (hfit : snap.PanesFit ctx state) :
    (∀ id n, r.numbers.panes.lookup id = some n → 0 < n) ↔
      ∀ p ∈ snap.keyedPanes ctx state, snap.publicPaneNumbers.lookup p.2 ≠ some 0 := by
  rw [(h.numbered hfit).pos_iff (migrated_next_pos hfit.migrates)]
  constructor
  · intro hzero p hp hlookup
    exact hzero p.1 (mem_numberedBy.mpr ⟨p.2, hp, (lookup_migrated_zero hfit.migrates).mpr hlookup⟩)
  · intro hpos id hid
    obtain ⟨key, hp, hzero⟩ := mem_numberedBy.mp hid
    exact hpos (id, key) hp ((lookup_migrated_zero hfit.migrates).mp hzero)

omit h in
lemma tab_valid_iff (hcount : countPanes snap.tabs ≤ 2 ^ 32) {tab : Tab}
    {s : SurvivingTab} (hs : s ∈ snap.survivingTabs ctx state) (htab : TabRestored ctx snap tab s) :
    tab.Valid ↔ 0 < savedTabNumber snap s.idx := by
  obtain ⟨hup, restored, hrestores, rfl⟩ := htab
  obtain ⟨-, hsaved, -⟩ := survivingTabs_origin hcount hs
  have htake := countPanes_take_succ hsaved
  have htotal := countPanes_take_le_total snap.tabs (s.idx + 1)
  exact hrestores.valid_iff (by omega) hup

/-- Everything but the numbers is as it must be, whatever panes come up. -/
lemma RestoresTabs.assertInvariants_iff (halloc : Function.Injective ctx.allocTerminal)
    (hcount : countPanes snap.tabs ≤ 2 ^ 32) (hfit : snap.CountersFit ctx state)
    (hsurvive : snap.survivingTabs ctx state ≠ []) :
    (snap.builtFrom ctx state r).AssertInvariants ↔ snap.NumbersUsable ctx state := by
  have hperm := paneIds_perm h.tabs
  have hpanes := hfit.panesFit
  constructor
  · intro hinv
    constructor
    case tab_numbers_nodup =>
      rw [← map_number_eq h.tabs]
      exact hinv.tab_numbers_nodup
    case tab_numbers_pos =>
      intro s hs
      obtain ⟨tab, htab, hrestored⟩ := exists_of_forall₂_right h.tabs hs
      exact (tab_valid_iff hcount hs hrestored).mp (hinv.tabs_valid tab htab)
    case pane_numbers_ne => exact (h.numbers_ne_iff hpanes).mp hinv.pane_number_inj
    case pane_numbers_pos => exact (h.numbers_pos_iff hpanes).mp hinv.pane_number_pos
  · intro husable
    have hne : r.tabs ≠ [] := mt h.tabs_eq_nil_iff.mp hsurvive
    have hlength := List.length_pos_of_ne_nil hne
    constructor
    case tabs_ne_nil => exact hne
    constructor
    case active_lt =>
      intro _
      show min snap.activeTab (r.tabs.length - 1) < r.tabs.length
      omega
    case tabs_valid =>
      intro tab htab
      obtain ⟨s, hs, hrestored⟩ := exists_of_forall₂_left h.tabs htab
      exact (tab_valid_iff hcount hs hrestored).mpr (husable.tab_numbers_pos s hs)
    case tab_numbers_nodup =>
      show (r.tabs.map Tab.number).Nodup
      rw [map_number_eq h.tabs]
      exact husable.tab_numbers_nodup
    case panes_nodup => exact hperm.nodup_iff.mpr (h.nodup_panes hcount)
    case terminals_nodup =>
      exact h.terminals.nodup_iff.mpr (List.Nodup.map halloc (List.nodup_range' _))
    case next_tab_pos => exact h.nextTab_pos
    case tab_number_lt =>
      intro tab htab
      obtain ⟨s, hs, hrestored⟩ := exists_of_forall₂_left h.tabs htab
      rw [hrestored.number]
      exact h.lt_nextTab hs (hfit.tab_numbers s hs)
    case public_iff => exact h.mem_numbers hpanes
    case pane_number_pos => exact (h.numbers_pos_iff hpanes).mpr husable.pane_numbers_pos
    case pane_number_inj => exact (h.numbers_ne_iff hpanes).mpr husable.pane_numbers_ne
    case next_pane_pos =>
      exact lt_of_lt_of_le (migrated_next_pos hpanes.migrates) (h.numbered hpanes).base_le
    case pane_number_lt => exact (h.numbered hpanes).lt_next

lemma RestoresTabs.tab_at {i : Nat} (hi : i < (snap.survivingTabs ctx state).length) :
    ∃ tab, r.tabs[i]? = some tab ∧ TabRestored ctx snap tab (snap.survivingTabs ctx state)[i] := by
  have hi' : i < r.tabs.length := by rw [h.tabs.length_eq]; exact hi
  exact ⟨r.tabs[i], List.getElem?_eq_getElem hi', List.Forall₂.get h.tabs hi' hi⟩

/-- The saved index designates the surviving tab only when it is still in place. -/
lemma RestoresTabs.activeTabKept_iff (hcount : countPanes snap.tabs ≤ 2 ^ 32) :
    snap.ActiveTabKept state.nextPaneId (snap.builtFrom ctx state r) ↔
      snap.ActiveInPlace ctx state := by
  have hincreasing := survivingTabs_increasing ctx snap state
  have hlength := h.tabs.length_eq
  -- The position of a surviving tab is what `active_tab` becomes exactly when nothing moved it.
  have hposition : ∀ {i : Nat} (hi : i < (snap.survivingTabs ctx state).length),
      (snap.survivingTabs ctx state)[i].idx = snap.activeTab →
      (min snap.activeTab (r.tabs.length - 1) = i ↔
        (∀ j < snap.activeTab, ∃ s ∈ snap.survivingTabs ctx state, s.idx = j) ∨
        ∀ s ∈ snap.survivingTabs ctx state, s.idx ≤ snap.activeTab) := by
    intro i hi hidx
    have hmin := min_eq_position_iff hincreasing (i := i) (by simpa using hi)
    simpa [hidx, hlength] using hmin
  constructor
  · rintro hkept ⟨s, hs, hactive⟩
    obtain ⟨i, hi, rfl⟩ := List.mem_iff_getElem.mp hs
    obtain ⟨hpanes, -, -⟩ := survivingTabs_origin hcount hs
    obtain ⟨id, hid⟩ := List.exists_mem_of_ne_nil _ hpanes
    have hnew := panes_subset_newPaneIds hcount hs hid
    have hlive : id ∈ paneIds r.tabs :=
      (paneIds_perm h.tabs).mem_iff.mpr (List.mem_flatMap.mpr ⟨_, hs, hid⟩)
    obtain ⟨tab, htab, hidtab⟩ := hkept id (hactive ▸ hnew) hlive
    replace htab : r.tabs[min snap.activeTab (r.tabs.length - 1)]? = some tab := htab
    have hi' : min snap.activeTab (r.tabs.length - 1) < (snap.survivingTabs ctx state).length := by
      omega
    obtain ⟨tab', htab', hrestored⟩ := h.tab_at hi'
    rw [htab, Option.some.injEq] at htab'
    subst htab'
    have hnew' := panes_subset_newPaneIds hcount (List.getElem_mem hi')
      ((hrestored.mem_panes_iff id).mp hidtab)
    have hsame := eq_of_mem_newPaneIds hcount hnew' hnew
    apply (hposition hi hactive).mp
    exact eq_of_getElem_eq hincreasing (by simpa using hi') (by simpa using hi)
      (by simpa using hsame)
  · intro hplace id hnew hlive
    obtain ⟨tab, htab, hidtab⟩ := List.mem_flatMap.mp hlive
    obtain ⟨i, hi, rfl⟩ := List.mem_iff_getElem.mp htab
    replace hi : i < r.tabs.length := hi
    obtain ⟨tab', htab', hrestored⟩ := h.tab_at (i := i) (by omega)
    rw [List.getElem?_eq_getElem hi, Option.some.injEq] at htab'
    subst htab'
    have hid := (hrestored.mem_panes_iff id).mp (AList.mem_keys.mpr hidtab)
    have hs := List.getElem_mem (l := snap.survivingTabs ctx state) (n := i) (by omega)
    have hactive := eq_of_mem_newPaneIds hcount (panes_subset_newPaneIds hcount hs hid) hnew
    have hmin := (hposition (by omega) hactive).mpr (hplace ⟨_, hs, hactive⟩)
    refine ⟨r.tabs[i], ?_, AList.mem_keys.mpr hidtab⟩
    show r.tabs[min snap.activeTab (r.tabs.length - 1)]? = some r.tabs[i]
    rw [hmin, List.getElem?_eq_getElem hi]

end

/-! ### Every snapshot, whatever panes come up -/

/-- While the counters do not overflow, a workspace is restored with its invariants and its active
tab exactly when the surviving numbers are usable and the active tab is still in place. -/
theorem restoreWorkspace_sound_iff (halloc : Function.Injective ctx.allocTerminal)
    (hcount : countPanes snap.tabs ≤ 2 ^ 32) (hfit : snap.CountersFit ctx state) :
    (∀ restored state', restoreWorkspace ctx snap state = (some restored, state') →
      restored.workspace.AssertInvariants ∧
      snap.ActiveTabKept state.nextPaneId restored.workspace) ↔
    snap.NumbersUsable ctx state ∧ snap.ActiveInPlace ctx state := by
  obtain ⟨r, hr, hrestore⟩ := restoreWorkspace_spec ctx snap state hcount
  rw [hrestore]
  by_cases hsurvive : snap.survivingTabs ctx state = []
  · rw [if_pos hsurvive]
    constructor
    · intro _
      have hkeyed : snap.keyedPanes ctx state = [] := by
        rw [WorkspaceSnapshot.keyedPanes, hsurvive, List.flatMap_nil]
      constructor
      · constructor <;> simp [hsurvive, hkeyed]
      · rintro ⟨s, hs, -⟩
        rw [hsurvive] at hs
        exact absurd hs List.not_mem_nil
    · simp
  · rw [if_neg hsurvive, ← hr.assertInvariants_iff halloc hcount hfit hsurvive,
      ← hr.activeTabKept_iff hcount]
    constructor
    · intro hall
      exact hall _ _ rfl
    · rintro hsound restored state' ⟨⟩
      exact hsound

end

/-! ### A lost first tab -/

/-- The pane that is given the id `1` does not start. -/
def firstSpawnFails : RestoreContext where
  resumeAgentsOnRestore := false
  spawns := fun id => id ≠ ⟨1⟩
  allocTerminal := fun n => ⟨String.ofList (List.replicate n 't')⟩
  worktreeIsCurrent := fun _ => false
  generateWorkspaceId := fun _ => "w1"
  now := fun _ => 0
  suppressedAt := fun _ => 0

def onePaneTab (id : UInt32) : TabSnapshot where
  customName := none
  layout := .pane id
  panes := AList.singleton id ⟨none, none, none, none⟩
  zoomed := false
  focused := some id
  rootPane := some id

/-- Three tabs of one pane, the second of them active. -/
def threeTabs : WorkspaceSnapshot where
  id := some "w1"
  customName := none
  worktreeSpace := none
  publicPaneNumbers := Table.collect [(1, 1), (2, 2), (3, 3)]
  nextPublicPaneNumber := 4
  publicTabNumbers := [1, 2, 3]
  nextPublicTabNumber := 4
  tabs := [onePaneTab 1, onePaneTab 2, onePaneTab 3]
  activeTab := 1

def freshStart : RestoreState := ⟨1, 0, 1, ∅, ∅, 0⟩

lemma firstSpawnFails_allocTerminal_injective :
    Function.Injective firstSpawnFails.allocTerminal := by
  intro m n h
  have hchars := congrArg (fun id => id.value.toList.length) h
  simpa [firstSpawnFails] using hchars

lemma countersFit_threeTabs : threeTabs.CountersFit firstSpawnFails freshStart where
  tab_numbers := by decide +kernel
  pane_numbers := by
    intro k n hn
    have hall : ∀ m ∈ Table.values threeTabs.publicPaneNumbers, m + 1 < usizeBound := by decide
    exact hall n (Table.mem_values hn)
  room := by decide +kernel

theorem restoreWorkspace_sound_iff_threeTabs :
    Function.Injective firstSpawnFails.allocTerminal ∧ countPanes threeTabs.tabs ≤ 2 ^ 32 ∧
    threeTabs.CountersFit firstSpawnFails freshStart ∧
    ((∀ restored state',
      restoreWorkspace firstSpawnFails threeTabs freshStart = (some restored, state') →
      restored.workspace.AssertInvariants ∧
      threeTabs.ActiveTabKept freshStart.nextPaneId restored.workspace) ↔
    threeTabs.NumbersUsable firstSpawnFails freshStart ∧
      threeTabs.ActiveInPlace firstSpawnFails freshStart) :=
  ⟨firstSpawnFails_allocTerminal_injective, by decide, countersFit_threeTabs,
    restoreWorkspace_sound_iff firstSpawnFails_allocTerminal_injective (by decide)
      countersFit_threeTabs⟩

/-- The tab that was active survives with the pane `2`, and the tab after it becomes active. -/
theorem restoreWorkspace_activates_next_tab :
    ∃ restored state',
      restoreWorkspace firstSpawnFails threeTabs freshStart = (some restored, state') ∧
      restored.workspace.tabs.map (fun tab => tab.layout.paneIds) = [[⟨2⟩], [⟨3⟩]] ∧
      restored.workspace.activeTab = 1 ∧
      (⟨2⟩ : PaneId) ∈ threeTabs.newPaneIds freshStart.nextPaneId threeTabs.activeTab ∧
      ¬ threeTabs.ActiveTabKept freshStart.nextPaneId restored.workspace := by
  have hrun : (restoreWorkspace firstSpawnFails threeTabs freshStart).1.map (fun restored =>
      (restored.workspace.tabs.map (fun tab => tab.layout.paneIds),
        restored.workspace.tabs.map (fun tab => tab.panes.keys), restored.workspace.activeTab)) =
      some ([[⟨2⟩], [⟨3⟩]], [[⟨2⟩], [⟨3⟩]], 1) := by
    decide +kernel
  generalize restoreWorkspace firstSpawnFails threeTabs freshStart = result at hrun
  obtain ⟨restored, state'⟩ := result
  obtain ⟨restored, rfl, hfacts⟩ := Option.map_eq_some_iff.mp hrun
  simp only [Prod.mk.injEq] at hfacts
  obtain ⟨htabs, hkeys, hactive⟩ := hfacts
  have hnew : (⟨2⟩ : PaneId) ∈ threeTabs.newPaneIds freshStart.nextPaneId threeTabs.activeTab := by
    decide +kernel
  refine ⟨restored, state', rfl, htabs, hactive, hnew, ?_⟩
  intro hkept
  have hlive : (⟨2⟩ : PaneId) ∈ paneIds restored.workspace.tabs := by
    rw [paneIds, List.flatMap_def, hkeys]
    decide
  obtain ⟨tab, htab, hmem⟩ := hkept ⟨2⟩ hnew hlive
  have hkey : (restored.workspace.tabs.map (fun tab => tab.panes.keys))[1]? =
      some tab.panes.keys := by
    rw [List.getElem?_map, ← hactive, htab]
    rfl
  rw [hkeys] at hkey
  rw [AList.mem_keys, ← Option.some.inj hkey] at hmem
  revert hmem
  decide

end Ork3.Persist
