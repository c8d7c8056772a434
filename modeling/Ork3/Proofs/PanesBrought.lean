import Ork3.Proofs.Workspace

/-!
# What an operation brings into a workspace

Every operation keeps the id of its workspace and shows no pane that was not shown before, except
the one it brings.
-/

namespace Ork3.Workspaces

open Ork3.Library Ork3.Layout

/-! ### Shown panes -/

/-- The tabs show the pane with the terminal attached. -/
def Shows (tabs : List Tab) (paneId : PaneId) (terminalId : TerminalId) : Prop :=
  ∃ tab ∈ tabs, ∃ state, tab.panes.lookup paneId = some state ∧
    state.attachedTerminalId = terminalId

lemma mem_paneIds_iff_shows {tabs : List Tab} {paneId : PaneId} :
    paneId ∈ paneIds tabs ↔ ∃ terminalId, Shows tabs paneId terminalId := by
  rw [mem_paneIds]
  constructor
  · rintro ⟨tab, htab, hpane⟩
    obtain ⟨state, hstate⟩ := Option.isSome_iff_exists.mp (AList.lookup_isSome.mpr hpane)
    exact ⟨_, tab, htab, state, hstate, rfl⟩
  · rintro ⟨terminalId, tab, htab, state, hstate, -⟩
    exact ⟨tab, htab, AList.lookup_isSome.mp (by rw [hstate]; rfl)⟩

lemma mem_terminalsOf {panes : Table PaneId PaneState} {terminalId : TerminalId} :
    terminalId ∈ terminalsOf panes ↔
      ∃ paneId state, panes.lookup paneId = some state ∧ state.attachedTerminalId = terminalId := by
  simp only [terminalsOf, Table.values, List.mem_map, Sigma.exists]
  constructor
  · rintro ⟨state, ⟨paneId, state', hmem, rfl⟩, rfl⟩
    exact ⟨paneId, state', AList.mem_lookup_iff.mpr hmem, rfl⟩
  · rintro ⟨paneId, state, hstate, rfl⟩
    exact ⟨state, ⟨paneId, state, AList.mem_lookup_iff.mp hstate, rfl⟩, rfl⟩

lemma mem_terminalIds_iff_shows {tabs : List Tab} {terminalId : TerminalId} :
    terminalId ∈ terminalIds tabs ↔ ∃ paneId, Shows tabs paneId terminalId := by
  change terminalId ∈ tabs.flatMap (fun tab => terminalsOf tab.panes) ↔ _
  simp only [List.mem_flatMap, mem_terminalsOf, Shows]
  constructor
  · rintro ⟨tab, htab, paneId, state, h⟩
    exact ⟨paneId, tab, htab, state, h⟩
  · rintro ⟨paneId, tab, htab, state, h⟩
    exact ⟨tab, htab, paneId, state, h⟩

/-! ### Operations -/

/-- The step keeps the id and shows nothing new but `brought`. -/
structure Brings (ws ws' : Workspace) (brought : List (PaneId × TerminalId)) : Prop where
  id : ws'.id = ws.id
  shows : ∀ paneId terminalId, Shows ws'.tabs paneId terminalId →
    Shows ws.tabs paneId terminalId ∨ (paneId, terminalId) ∈ brought

section
variable {ws ws' : Workspace} {brought : List (PaneId × TerminalId)}

lemma Brings.of_subset (hid : ws'.id = ws.id) (htabs : ws'.tabs ⊆ ws.tabs) :
    Brings ws ws' brought where
  id := hid
  shows := fun _ _ ⟨tab, htab, h⟩ => .inl ⟨tab, htabs htab, h⟩

lemma Brings.refl (ws : Workspace) : Brings ws ws brought :=
  .of_subset rfl (List.Subset.refl _)

/-- One tab took the place of another. -/
lemma Brings.of_set (hid : ws'.id = ws.id) {idx : Nat} {tab tab' : Tab}
    (htab : ws.tabs[idx]? = some tab) (htabs : ws'.tabs = ws.tabs.set idx tab')
    (hpanes : ∀ paneId state, tab'.panes.lookup paneId = some state →
      (∃ state', tab.panes.lookup paneId = some state' ∧
        state'.attachedTerminalId = state.attachedTerminalId) ∨
      (paneId, state.attachedTerminalId) ∈ brought) : Brings ws ws' brought where
  id := hid
  shows := by
    rintro paneId _ ⟨shown, hshown, state, hstate, rfl⟩
    rw [htabs] at hshown
    obtain hshown | rfl := List.mem_or_eq_of_mem_set hshown
    · exact .inl ⟨shown, hshown, state, hstate, rfl⟩
    · obtain ⟨state', hstate', hterm⟩ | hnew := hpanes paneId state hstate
      · exact .inl ⟨tab, List.mem_of_getElem? htab, state', hstate', hterm⟩
      · exact .inr hnew

lemma Brings.trans {ws'' : Workspace} {brought' : List (PaneId × TerminalId)}
    (h : Brings ws ws' brought) (h' : Brings ws' ws'' brought') :
    Brings ws ws'' (brought ++ brought') where
  id := h'.id.trans h.id
  shows paneId terminalId hshows := by
    obtain hmid | hnew := h'.shows paneId terminalId hshows
    · exact (h.shows paneId terminalId hmid).imp_right (List.mem_append_left brought')
    · exact .inr (List.mem_append_right _ hnew)

/-- What is shown already is not brought. -/
lemma Brings.absorb (h : Brings ws ws' brought)
    (hold : ∀ paneId terminalId, (paneId, terminalId) ∈ brought → Shows ws.tabs paneId terminalId) :
    Brings ws ws' [] where
  id := h.id
  shows paneId terminalId hshows := by
    obtain hshown | hnew := h.shows paneId terminalId hshows
    · exact .inl hshown
    · exact .inl (hold paneId terminalId hnew)

lemma lookup_erase_of_some {panes : Table PaneId PaneState} {paneId other : PaneId}
    {state : PaneState} (h : (panes.erase other).lookup paneId = some state) :
    panes.lookup paneId = some state := by
  by_cases he : paneId = other
  · rw [he, AList.lookup_erase] at h
    cases h
  · rwa [AList.lookup_erase_ne he] at h

lemma lookup_insert_cases {panes : Table PaneId PaneState} {paneId other : PaneId}
    {state given : PaneState} (h : (panes.insert other given).lookup paneId = some state) :
    panes.lookup paneId = some state ∨ paneId = other ∧ state = given := by
  rw [Table.lookup_insert_eq] at h
  split at h
  case isTrue he => exact .inr ⟨he, (Option.some.inj h).symm⟩
  case isFalse => exact .inl h

/-- A tab that lost a pane. -/
lemma Brings.of_erase (hid : ws'.id = ws.id) {idx : Nat} {tab tab' : Tab} {paneId : PaneId}
    (htab : ws.tabs[idx]? = some tab) (htabs : ws'.tabs = ws.tabs.set idx tab')
    (hpanes : tab'.panes = tab.panes.erase paneId) : Brings ws ws' brought :=
  .of_set hid htab htabs fun other state h => by
    rw [hpanes] at h
    exact .inl ⟨state, lookup_erase_of_some h, rfl⟩

/-- A tab that gained a pane. -/
lemma Brings.of_insert (hid : ws'.id = ws.id) {idx : Nat} {tab : Tab} (tab' : Tab) (paneId : PaneId)
    (given : PaneState) (htab : ws.tabs[idx]? = some tab)
    (htabs : ws'.tabs = ws.tabs.set idx tab')
    (hpanes : tab'.panes = tab.panes.insert paneId given) :
    Brings ws ws' [(paneId, given.attachedTerminalId)] :=
  .of_set hid htab htabs fun other state h => by
    rw [hpanes] at h
    obtain h | ⟨rfl, rfl⟩ := lookup_insert_cases h
    · exact .inl ⟨state, h, rfl⟩
    · exact .inr (List.mem_singleton.mpr rfl)

/-- A new tab with one pane. -/
lemma Brings.of_append (hid : ws'.id = ws.id) (tab : Tab) (paneId : PaneId) (given : PaneState)
    (htabs : ws'.tabs = ws.tabs ++ [tab]) (hpanes : tab.panes = AList.singleton paneId given) :
    Brings ws ws' [(paneId, given.attachedTerminalId)] where
  id := hid
  shows := by
    rintro other _ ⟨shown, hshown, state, hstate, rfl⟩
    rw [htabs] at hshown
    obtain hshown | hshown := List.mem_append.mp hshown
    · exact .inl ⟨shown, hshown, state, hstate, rfl⟩
    · rw [List.mem_singleton.mp hshown, hpanes, ← AList.insert_empty] at hstate
      obtain hstate | ⟨rfl, rfl⟩ := lookup_insert_cases hstate
      · rw [AList.lookup_empty] at hstate
        cases hstate
      · exact .inr (List.mem_singleton.mpr rfl)

lemma Brings.createTab {rootId : PaneId} {spawned : Option TerminalId} {created : Option Nat}
    (h : ws.createTab rootId spawned = some (ws', created)) :
    Brings ws ws' (spawned.toList.map fun terminalId => (rootId, terminalId)) := by
  unfold Workspace.createTab at h
  dsimp only at h
  cases htab : ws.tabs[ws.activeTab]? with
  | none =>
    rw [htab] at h
    cases h
  | some active =>
    rw [htab] at h
    cases spawned with
    | none =>
      cases h
      exact .of_subset rfl (List.Subset.refl _)
    | some terminalId =>
      cases h
      change Brings ws _ [(rootId, terminalId)]
      refine Brings.of_append ?_ (.fromExistingPane ws.nextPublicTabNumber none
        ⟨rootId, .new terminalId⟩) rootId (.new terminalId) ?_ rfl
      · rfl
      · rfl

lemma Brings.closeTab (idx : Nat) : Brings ws (ws.closeTab idx).1 brought := by
  unfold Workspace.closeTab
  cases ws.tabs[idx]? with
  | none => exact .refl ws
  | some tab =>
    dsimp only
    obtain ⟨heq, -⟩ := foldl_unregisterPane tab.panes.keys { ws with tabs := ws.tabs.eraseIdx idx }
    generalize tab.panes.keys.foldl Workspace.unregisterPane
      { ws with tabs := ws.tabs.eraseIdx idx } = closed at heq ⊢
    have hid : closed.id = ws.id := by rw [heq]
    have htabs : closed.tabs ⊆ ws.tabs := by
      rw [heq]
      exact List.eraseIdx_subset
    split_ifs
    · exact .refl ws
    · exact .of_subset hid htabs
    · exact .of_subset hid htabs
    · exact .of_subset hid htabs

lemma Brings.moveTab (sourceIdx insertIdx : Nat) :
    Brings ws (ws.moveTab sourceIdx insertIdx).1 brought := by
  unfold Workspace.moveTab
  cases htab : ws.tabs[sourceIdx]? with
  | none => exact .refl ws
  | some tab =>
    dsimp only
    generalize min (if sourceIdx < insertIdx then insertIdx - 1 else insertIdx)
      (ws.tabs.length - 1) = targetIdx
    split_ifs
    · exact .refl ws
    · exact .refl ws
    · refine .of_subset rfl fun tab' htab' => ?_
      obtain rfl | htab' := List.eq_or_mem_of_mem_insertIdx htab'
      · exact List.mem_of_getElem? htab
      · exact List.mem_of_mem_eraseIdx htab'

lemma Brings.switchTab (idx : Nat) : Brings ws (ws.switchTab idx) brought := by
  unfold Workspace.switchTab
  by_cases hidx : idx < ws.tabs.length
  · rw [if_pos hidx]
    have htab : ws.tabs[idx]? = some ws.tabs[idx] := List.getElem?_eq_getElem hidx
    have htabs : ws.tabs.modify idx Tab.markSeen = ws.tabs.set idx ws.tabs[idx].markSeen := by
      rw [List.modify_eq_set_getElem?, htab]
      rfl
    refine .of_set rfl htab htabs fun paneId state hstate => .inl ?_
    · rw [Tab.markSeen, Table.lookup_map, Option.map_eq_some_iff] at hstate
      obtain ⟨state', hstate', rfl⟩ := hstate
      exact ⟨state', hstate', rfl⟩
  · rw [if_neg hidx]
    exact .refl ws

/-- A new name for a tab. -/
lemma Brings.modifyTab (idx : Nat) {f : Tab → Tab} (hf : ∀ tab, (f tab).panes = tab.panes) :
    Brings ws { ws with tabs := ws.tabs.modify idx f } brought := by
  cases htab : ws.tabs[idx]? with
  | none =>
    refine .of_subset rfl ?_
    change ws.tabs.modify idx f ⊆ _
    rw [List.modify_eq_set_getElem?, htab]
    exact List.Subset.refl _
  | some tab =>
    have htabs : ws.tabs.modify idx f = ws.tabs.set idx (f tab) := by
      rw [List.modify_eq_set_getElem?, htab]
      rfl
    refine .of_set rfl htab htabs fun paneId state hstate => .inl ⟨state, ?_, rfl⟩
    rwa [hf] at hstate

variable (h : ws.Consistent)
include h

lemma Brings.splitPaneWithRuntime {paneId newId : PaneId} {d : Direction} {r : Option F32}
    {focusNewPane : Bool} {spawned : Option TerminalId} (hpane : newId ∉ paneIds ws.tabs)
    {result : Option (Nat × Bool)}
    (hsplit : ws.splitPaneWithRuntime paneId newId d r focusNewPane spawned =
      some (ws', result)) :
    Brings ws ws' (spawned.toList.map fun terminalId => (newId, terminalId)) := by
  unfold Workspace.splitPaneWithRuntime at hsplit
  cases hfind : ws.findTabIndexForPane paneId with
  | none =>
    rw [hfind] at hsplit
    cases hsplit
    exact .refl ws
  | some idx =>
    obtain ⟨tab, ht, -⟩ := Workspace.findTabIndexForPane_spec hfind
    have hmem := List.mem_of_getElem? ht
    have hv := h.tabs_valid tab hmem
    have hnew : newId ∉ tab.panes := fun hin => hpane (mem_paneIds.mpr ⟨tab, hmem, hin⟩)
    rw [hfind] at hsplit
    dsimp only at hsplit
    rw [ht] at hsplit
    simp only [Option.bind_eq_bind, Option.bind_some] at hsplit
    cases spawned with
    | none =>
      obtain ⟨tab', he, -, -, hpanes⟩ :=
        Tab.splitFocusedWithRuntime_failed (hv.focusPane paneId) hnew d r
      rw [he] at hsplit
      cases hsplit
      refine .of_set rfl ht rfl fun other state hstate => .inl ⟨state, ?_, rfl⟩
      exact hpanes ▸ hstate
    | some terminalId =>
      obtain ⟨tab', he, -, -, hpanes⟩ :=
        Tab.splitFocusedWithRuntime_spawned (hv.focusPane paneId) hnew d r terminalId
      rw [he] at hsplit
      cases focusNewPane <;> cases hsplit <;> change Brings ws _ [(newId, terminalId)]
      · refine Brings.of_insert ?_ { tab' with layout := tab'.layout.focusPane tab.layout.focus }
          newId (.new terminalId) ht ?_ hpanes
        · rfl
        · rfl
      · refine Brings.of_insert ?_ tab' newId (.new terminalId) ht ?_ hpanes
        · rfl
        · rfl

lemma Brings.detachPane {paneId : PaneId} {closes : Bool}
    (hdetach : ws.detachPaneWith Tab.detachPane paneId = some (ws', closes)) :
    Brings ws ws' brought := by
  unfold Workspace.detachPaneWith at hdetach
  cases hfind : ws.findTabIndexForPane paneId with
  | none =>
    rw [hfind] at hdetach
    cases hdetach
    exact .refl ws
  | some idx =>
    obtain ⟨tab, ht, hid⟩ := Workspace.findTabIndexForPane_spec hfind
    have hv := h.tabs_valid tab (List.mem_of_getElem? ht)
    rw [hfind] at hdetach
    dsimp only at hdetach
    rw [ht] at hdetach
    simp only [Option.bind_eq_bind, Option.bind_some] at hdetach
    by_cases hc : tab.layout.paneCount ≤ 1
    · rw [if_pos hc] at hdetach
      split_ifs at hdetach <;> cases hdetach
      · exact .refl ws
      · exact .of_subset rfl List.eraseIdx_subset
      · exact .of_subset rfl List.eraseIdx_subset
      · exact .of_subset rfl List.eraseIdx_subset
    · obtain ⟨tab', terminalId, he, -, -, hpanes⟩ := Tab.detachPane_spec hv hid (not_le.mp hc)
      rw [if_neg hc, he] at hdetach
      cases hdetach
      exact .of_erase rfl ht rfl hpanes

end

/-- A tab with another name, or with the focus elsewhere. -/
lemma Changes.modifyTab {ws : Workspace} (h : ws.Consistent) (ha : ws.ActiveInRange) (idx : Nat)
    {f : Tab → Tab} (hvalid : ∀ tab, tab.Valid → (f tab).Valid)
    (hnumber : ∀ tab, (f tab).number = tab.number) (hpanes : ∀ tab, (f tab).panes = tab.panes) :
    Changes ws { ws with tabs := ws.tabs.modify idx f } := by
  cases ht : ws.tabs[idx]? with
  | none =>
    have hsame : ws.tabs.modify idx f = ws.tabs := by
      rw [List.modify_eq_set_getElem?, ht]
      rfl
    rw [hsame]
    exact .refl h ha
  | some tab =>
    have hset : ws.tabs.modify idx f = ws.tabs.set idx (f tab) := by
      rw [List.modify_eq_set_getElem?, ht]
      rfl
    refine Change.changes (Change.touch h ht (hvalid tab (h.tabs_valid tab
      (List.mem_of_getElem? ht))) (hnumber tab) hset rfl (fun id => by rw [hpanes])
      (by rw [hpanes]) rfl rfl) (.of_lt ?_)
    change ws.activeTab < (ws.tabs.modify idx f).length
    rw [List.length_modify]
    exact h.active_lt_of_getElem? ht

/-! ### Moves -/

lemma shows_inj {tabs : List Tab} (hnodup : (terminalIds tabs).Nodup) {p q : PaneId}
    {terminalId : TerminalId} (hp : Shows tabs p terminalId) (hq : Shows tabs q terminalId) :
    p = q := by
  have hlist : terminalIds tabs = (tabs.flatMap fun tab => tab.panes.entries.map fun entry =>
      (entry.1, entry.2.attachedTerminalId)).map Prod.snd := by
    simp only [terminalIds, Table.values, List.map_flatMap, List.map_map]
    rfl
  have hmem : ∀ r, Shows tabs r terminalId → (r, terminalId) ∈ tabs.flatMap fun tab =>
      tab.panes.entries.map fun entry => (entry.1, entry.2.attachedTerminalId) := by
    rintro r ⟨tab, htab, state, hstate, rfl⟩
    refine List.mem_flatMap.mpr ⟨tab, htab, List.mem_map.mpr ⟨⟨r, state⟩, ?_, rfl⟩⟩
    exact AList.mem_lookup_iff.mp hstate
  rw [hlist] at hnodup
  exact congrArg Prod.fst (List.inj_on_of_nodup_map hnodup (hmem p hp) (hmem q hq) rfl)

section
variable {ws : Workspace}

/-- What a pane taken out of its tab leaves behind. -/
structure Takes (ws : Workspace) (paneId : PaneId) (ws' : Workspace) (taken : TakenPane) :
    Prop where
  taken_eq : ws.takePaneForMove paneId = some (ws', some taken)
  moved : taken.moved.paneId = paneId
  empty : taken.workspaceEmpty = ws'.tabs.isEmpty
  shown : Shows ws.tabs paneId taken.moved.paneState.attachedTerminalId
  brings : Brings ws ws' []
  numbers : ws'.publicPaneNumbers = ws.publicPaneNumbers
  next_pane : ws'.nextPublicPaneNumber = ws.nextPublicPaneNumber
  others : ∀ tab ∈ ws.tabs, paneId ∉ tab.panes → tab ∈ ws'.tabs

lemma mem_eraseIdx_of_ne {α : Type*} {xs : List α} {i : Nat} {x y : α} (hx : xs[i]? = some x)
    (hy : y ∈ xs) (hne : y ≠ x) : y ∈ xs.eraseIdx i := by
  obtain ⟨j, hj⟩ := List.mem_iff_getElem?.mp hy
  refine List.mem_eraseIdx_iff_getElem?.mpr ⟨j, ?_, hj⟩
  rintro rfl
  exact hne (Option.some.inj (hj.symm.trans hx))

lemma mem_set_of_ne {α : Type*} {xs : List α} {i : Nat} {x y : α} (z : α) (hx : xs[i]? = some x)
    (hy : y ∈ xs) (hne : y ≠ x) : y ∈ xs.set i z := by
  have hperm := List.set_perm_cons_eraseIdx (List.getElem?_eq_some_iff.mp hx).1 z
  exact hperm.mem_iff.mpr (List.mem_cons_of_mem z (mem_eraseIdx_of_ne hx hy hne))

lemma isEmpty_set {α : Type*} {xs : List α} {i : Nat} {x y : α} (hx : xs[i]? = some x) :
    (xs.set i y).isEmpty = false := by
  rw [← Bool.not_eq_true, List.isEmpty_iff, ← List.length_eq_zero_iff, List.length_set,
    List.length_eq_zero_iff]
  exact List.ne_nil_of_mem (List.mem_of_getElem? hx)

lemma adjustActiveTabAfterRemoval_eq (ws : Workspace) (removedIdx : Nat) :
    ws.adjustActiveTabAfterRemoval removedIdx =
      { ws with activeTab := (ws.adjustActiveTabAfterRemoval removedIdx).activeTab } := by
  unfold Workspace.adjustActiveTabAfterRemoval
  split_ifs <;> rfl

lemma exists_takes (h : ws.Consistent) {paneId : PaneId} (hpane : paneId ∈ paneIds ws.tabs) :
    ∃ ws' taken, Takes ws paneId ws' taken := by
  obtain ⟨tab₀, htab₀, hin₀⟩ := mem_paneIds.mp hpane
  have hfind : (ws.findTabIndexForPane paneId).isSome := by
    rw [Workspace.findTabIndexForPane, List.findIdx?_isSome, List.any_eq_true]
    exact ⟨tab₀, htab₀, decide_eq_true hin₀⟩
  obtain ⟨idx, hidx⟩ := Option.isSome_iff_exists.mp hfind
  obtain ⟨tab, ht, hid⟩ := Workspace.findTabIndexForPane_spec hidx
  have hmem := List.mem_of_getElem? ht
  have hv := h.tabs_valid tab hmem
  by_cases hc : tab.layout.paneCount ≤ 1
  · obtain ⟨pane, hlookup⟩ := Option.isSome_iff_exists.mp (AList.lookup_isSome.mpr hid)
    have hadjust := adjustActiveTabAfterRemoval_eq { ws with tabs := ws.tabs.eraseIdx idx } idx
    have htake : ws.takePaneForMove paneId =
        some (({ ws with tabs := ws.tabs.eraseIdx idx } :
          Workspace).adjustActiveTabAfterRemoval idx, some ⟨⟨paneId, pane⟩, some idx,
          (({ ws with tabs := ws.tabs.eraseIdx idx } :
            Workspace).adjustActiveTabAfterRemoval idx).tabs.isEmpty⟩) := by
      unfold Workspace.takePaneForMove
      rw [hidx]
      dsimp only
      rw [ht]
      simp only [Option.bind_eq_bind, Option.bind_some]
      rw [if_pos hc, Tab.takePaneForMove_last hc hlookup]
      rfl
    refine ⟨_, _, htake, rfl, rfl, ⟨tab, hmem, pane, hlookup, rfl⟩, ?_, ?_, ?_, ?_⟩
    · rw [hadjust]
      exact .of_subset rfl List.eraseIdx_subset
    · rw [hadjust]
    · rw [hadjust]
    · rw [hadjust]
      intro other hother hnot
      exact mem_eraseIdx_of_ne ht hother fun he => hnot (he ▸ hid)
  · obtain ⟨tab', moved, he, -, -, hpanes, hmoved, hlookup⟩ :=
      Tab.takePaneForMove_spec hv hid (not_le.mp hc)
    have htake : ws.takePaneForMove paneId =
        some ({ ws with tabs := ws.tabs.set idx tab' }, some ⟨moved, none, false⟩) := by
      unfold Workspace.takePaneForMove
      rw [hidx]
      dsimp only
      rw [ht]
      simp only [Option.bind_eq_bind, Option.bind_some]
      rw [if_neg hc, he]
      rfl
    exact ⟨_, _, htake, hmoved, (isEmpty_set ht).symm, ⟨tab, hmem, _, hlookup, rfl⟩,
      .of_erase rfl ht rfl hpanes, rfl, rfl, fun other hother hnot =>
        mem_set_of_ne tab' ht hother fun he => hnot (he ▸ hid)⟩

variable {ws' : Workspace} {taken : TakenPane} {paneId : PaneId}

/-- Without its number the rest is again a consistent workspace, and shows neither the pane nor its
terminal. -/
lemma Takes.unregistered (t : Takes ws paneId ws' taken) (h : ws.Consistent)
    (ha : ws.ActiveInRange) :
    Changes ws (ws'.unregisterMovedPane paneId) ∧ paneId ∉ paneIds ws'.tabs ∧
      taken.moved.paneState.attachedTerminalId ∉ terminalIds ws'.tabs := by
  obtain ⟨ws₁, taken₁, he, hchanges⟩ := Changes.takePaneForMove h ha paneId
  rw [t.taken_eq, Option.some.injEq, Prod.mk.injEq] at he
  obtain ⟨rfl, rfl⟩ := he
  change Changes ws (ws'.unregisterMovedPane taken.moved.paneId) at hchanges
  rw [t.moved] at hchanges
  obtain ⟨⟨before, after, rest, c⟩, hactive⟩ := id hchanges
  have hconsistent := c.consistent h hactive.lt
  have hpane : paneId ∉ paneIds ws'.tabs := by
    intro hin
    have hregistered := (hconsistent.public_iff paneId).mpr hin
    exact (AList.mem_erase.mp hregistered).1 rfl
  refine ⟨hchanges, hpane, fun hterm => ?_⟩
  obtain ⟨q, hq⟩ := mem_terminalIds_iff_shows.mp hterm
  have hold := (t.brings.shows q _ hq).resolve_right List.not_mem_nil
  rw [shows_inj h.terminals_nodup hold t.shown] at hq
  exact hpane (mem_paneIds_iff_shows.mpr ⟨_, hq⟩)

end

section
variable {ws : Workspace} (moved : MovedPane)

lemma Brings.createTabFromExistingPane (label : Option String) :
    Brings ws (ws.createTabFromExistingPane moved label).1
      [(moved.paneId, moved.paneState.attachedTerminalId)] := by
  unfold Workspace.createTabFromExistingPane
  dsimp only
  refine Brings.of_append ?_ (.fromExistingPane ws.nextPublicTabNumber label moved) moved.paneId
    moved.paneState ?_ rfl
  · split <;> rfl
  · split <;> rfl

/-- A pane goes into a tab that shows the target and not the pane. -/
lemma insertMovedPaneIntoTab_eq {tabIdx : Nat} {tab : Tab} (ht : ws.tabs[tabIdx]? = some tab)
    (hv : tab.Valid) (hpane : moved.paneId ∉ tab.panes) {target : PaneId}
    (htarget : target ∈ tab.panes) (d : Direction) (r : F32) :
    (tab.insertExistingPane target moved d r).1.panes =
        tab.panes.insert moved.paneId moved.paneState ∧
      ws.insertMovedPaneIntoTab tabIdx target moved d r =
        (if moved.paneId ∉ ws.publicPaneNumbers then
          ({ ws with tabs := ws.tabs.set tabIdx (tab.insertExistingPane target moved d r).1 } :
            Workspace).registerNewPaneWithNumber moved.paneId ws.nextPublicPaneNumber
         else { ws with tabs := ws.tabs.set tabIdx (tab.insertExistingPane target moved d r).1 },
         some moved.paneId) := by
  have hne : target ≠ moved.paneId := fun he => hpane (he ▸ htarget)
  have hin : target ∈ tab.layout.paneIds := (hv.layout_panes target).mpr htarget
  have hout : moved.paneId ∉ tab.layout.paneIds := mt (hv.layout_panes moved.paneId).mp hpane
  have hinsert : (tab.layout.insertPaneNear target moved.paneId d r).2 = true := by
    rw [TileLayout.insertPaneNear, if_neg hne, if_neg (not_or.mpr ⟨not_not.mpr hin, hout⟩)]
  obtain he | ⟨-, tab', he, -, -, hpanes⟩ := Tab.insertExistingPane_cases hv target moved d r
  · unfold Tab.insertExistingPane at he
    generalize tab.layout.insertPaneNear target moved.paneId d r = result at he hinsert
    obtain ⟨layout, inserted⟩ := result
    dsimp only at hinsert
    subst hinsert
    cases congrArg Prod.snd he
  · rw [he]
    refine ⟨hpanes, ?_⟩
    unfold Workspace.insertMovedPaneIntoTab
    rw [ht]
    dsimp only
    rw [he]
    dsimp only
    split <;> rfl

end

section
variable {ws ws₁ ws₂ put : Workspace} {paneId : PaneId} {taken : TakenPane}

/-- A pane that is put back into its workspace keeps its number. -/
lemma Takes.put_back (t : Takes ws paneId ws₁ taken) (h : ws.Consistent) (ha : ws.ActiveInRange)
    (hchanges : Changes (ws₁.unregisterMovedPane paneId) put)
    (hkeys : ∀ other, other ∈ put.publicPaneNumbers ↔
      other = paneId ∨ other ∈ (ws₁.unregisterMovedPane paneId).publicPaneNumbers)
    (htabs : ws₂.tabs = put.tabs) (hactive : ws₂.activeTab = put.activeTab)
    (hnext : ws₂.nextPublicTabNumber = put.nextPublicTabNumber)
    (hnumbers : ws₂.publicPaneNumbers = ws₁.publicPaneNumbers)
    (hpane : ws₂.nextPublicPaneNumber = ws₁.nextPublicPaneNumber) :
    (ws₂.Consistent ∧ ws₂.ActiveInRange) ∧ KeepsNumbers ws ws₂ := by
  obtain ⟨⟨⟨before, after, rest, c⟩, hactive₁⟩, -, -⟩ := t.unregistered h ha
  have h₁ := c.consistent h hactive₁.lt
  obtain ⟨⟨before', after', rest', c'⟩, hactive₂⟩ := hchanges
  have h₂ := c'.consistent h₁ hactive₂.lt
  have hkeep := (c.keepsNumbers h).trans (c'.keepsNumbers h₁)
  have hsame : ws₂.publicPaneNumbers = ws.publicPaneNumbers := hnumbers.trans t.numbers
  have hsameNext : ws₂.nextPublicPaneNumber = ws.nextPublicPaneNumber := hpane.trans t.next_pane
  have hin : paneId ∈ ws.publicPaneNumbers :=
    (h.public_iff paneId).mpr (mem_paneIds_iff_shows.mpr ⟨_, t.shown⟩)
  have hpublic : ∀ other, other ∈ ws.publicPaneNumbers ↔ other ∈ paneIds put.tabs := by
    intro other
    rw [← h₂.public_iff, hkeys]
    change _ ↔ _ ∨ other ∈ ws₁.publicPaneNumbers.erase paneId
    rw [AList.mem_erase, t.numbers]
    by_cases he : other = paneId
    · rw [he]
      exact ⟨fun _ => .inl rfl, fun _ => hin⟩
    · exact ⟨fun hother => .inr ⟨he, hother⟩, fun hother => (hother.resolve_left he).2⟩
  refine ⟨⟨?_, ?_⟩, ?_⟩
  · exact {
      active_lt := by
        rw [htabs, hactive]
        exact h₂.active_lt
      tabs_valid := by
        rw [htabs]
        exact h₂.tabs_valid
      tab_numbers_nodup := by
        rw [htabs]
        exact h₂.tab_numbers_nodup
      panes_nodup := by
        rw [htabs]
        exact h₂.panes_nodup
      terminals_nodup := by
        rw [htabs]
        exact h₂.terminals_nodup
      next_tab_pos := by
        rw [hnext]
        exact h₂.next_tab_pos
      tab_number_lt := by
        rw [htabs, hnext]
        exact h₂.tab_number_lt
      public_iff := by
        rw [htabs, hsame]
        exact hpublic
      pane_number_pos := by
        rw [hsame]
        exact h.pane_number_pos
      pane_number_inj := by
        rw [hsame]
        exact h.pane_number_inj
      next_pane_pos := by
        rw [hsameNext]
        exact h.next_pane_pos
      pane_number_lt := by
        rw [hsame, hsameNext]
        exact h.pane_number_lt }
  · unfold Workspace.ActiveInRange
    rw [htabs, hactive]
    exact hactive₂
  · exact {
      next_pane_le := hsameNext.ge
      next_tab_le := by
        rw [hnext]
        exact hkeep.next_tab_le
      pane := by
        rw [hsame]
        exact fun _ _ hid _ => hid
      tab := by
        rw [htabs]
        exact hkeep.tab }

end

end Ork3.Workspaces
