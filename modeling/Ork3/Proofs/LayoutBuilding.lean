import Ork3.Proofs.LayoutDescription
import Ork3.Proofs.TabEdits

/-!
# Building the tree of a description

The splits add a pane each, beside one that stands. What is built below a pane leaves the panes that
stand as they are, which carries the induction on the description.
-/

namespace Ork3.Workspaces

open Ork3.Library Ork3.Layout

/-! ### The panes of a tab and their terminals -/

lemma Tab.mem_terminalsOf {tab : Tab} {id : PaneId} (hid : id ∈ tab.panes) :
    ∃ terminalId, tab.terminalId id = some terminalId ∧ terminalId ∈ terminalsOf tab.panes := by
  obtain ⟨pane, hpane⟩ := Option.isSome_iff_exists.mp (AList.lookup_isSome.mpr hid)
  refine ⟨pane.attachedTerminalId, ?_, List.mem_map.mpr ⟨pane, Table.mem_values hpane, rfl⟩⟩
  rw [Tab.terminalId, hpane, Option.map_some]

lemma Tab.mem_panes_of_terminalId {tab : Tab} {id : PaneId} {terminalId : TerminalId}
    (h : tab.terminalId id = some terminalId) : id ∈ tab.panes := by
  obtain ⟨pane, hpane, -⟩ := Option.map_eq_some_iff.mp h
  exact AList.lookup_isSome.mp (Option.isSome_iff_exists.mpr ⟨pane, hpane⟩)

lemma mem_terminalIds {tabs : List Tab} {terminalId : TerminalId} :
    terminalId ∈ terminalIds tabs ↔ ∃ tab ∈ tabs, terminalId ∈ terminalsOf tab.panes := by
  simp only [terminalIds, terminalsOf, List.mem_flatMap]

lemma Workspace.Consistent.terminalId_eq {ws : Workspace} (h : ws.Consistent) {tab : Tab}
    (htab : tab ∈ ws.tabs) {id : PaneId} (hid : id ∈ tab.panes) :
    ws.terminalId id = tab.terminalId id := by
  obtain ⟨terminalId, hterminal, -⟩ := Tab.mem_terminalsOf hid
  unfold Workspace.terminalId
  cases hfind : ws.tabs.findSome? fun tab => tab.terminalId id with
  | none =>
    have hnone := List.findSome?_eq_none_iff.mp hfind tab htab
    rw [hterminal] at hnone
    cases hnone
  | some found =>
    obtain ⟨other, hother, hfound⟩ := List.exists_of_findSome?_eq_some hfind
    rw [h.eq_of_mem_panes htab hother hid (Tab.mem_panes_of_terminalId hfound), hfound]

namespace LayoutState

/-- The terminal of a pane of the tab. -/
def paneTerminal (st : LayoutState) (tab : Tab) (id : PaneId) : Option LayoutTerminal :=
  (tab.terminalId id).bind st.terminals.lookup

/-! ### Labelling -/

/-- What labelling for a leaf does to a terminal. -/
def labelled (pane : LayoutPane) (terminal : LayoutTerminal) : LayoutTerminal :=
  match pane.label.bind trimmedLabel with
  | none => terminal
  | some label => terminal.setManualLabel label

lemma labelled_eq {pane : LayoutPane} {label : Option String} {command : Option (List String)}
    (hlabel : label = none ∨ label = pane.label.bind trimmedLabel) :
    labelled pane ⟨label, command⟩ = ⟨pane.label.bind trimmedLabel, command⟩ := by
  have hagain := trimmedLabel_bind pane.label
  unfold labelled
  cases htrimmed : pane.label.bind trimmedLabel with
  | none =>
    rw [htrimmed, or_self] at hlabel
    rw [hlabel]
  | some trimmed =>
    rw [htrimmed, Option.bind_some] at hagain
    dsimp only
    rw [LayoutTerminal.setManualLabel, hagain]

variable {st : LayoutState} {id : PaneId} {pane : LayoutPane}

lemma applyLayoutPaneLabel_ws : (st.applyLayoutPaneLabel id pane).ws = st.ws := by
  unfold applyLayoutPaneLabel
  cases pane.label.bind trimmedLabel with
  | none => rfl
  | some label => cases st.ws.terminalId id <;> rfl

lemma applyLayoutPaneLabel_spawned : (st.applyLayoutPaneLabel id pane).spawned = st.spawned := by
  unfold applyLayoutPaneLabel
  cases pane.label.bind trimmedLabel with
  | none => rfl
  | some label => cases st.ws.terminalId id <;> rfl

lemma lookup_applyLayoutPaneLabel (terminalId : TerminalId) :
    (st.applyLayoutPaneLabel id pane).terminals.lookup terminalId =
      if st.ws.terminalId id = some terminalId then
        (st.terminals.lookup terminalId).map (labelled pane)
      else st.terminals.lookup terminalId := by
  have hlabelled : labelled pane = fun terminal => labelled pane terminal := rfl
  rw [hlabelled]
  unfold applyLayoutPaneLabel labelled
  cases pane.label.bind trimmedLabel with
  | none =>
    dsimp only
    rw [Option.map_id', ite_self]
  | some label =>
    cases st.ws.terminalId id with
    | none => rfl
    | some found =>
      dsimp only
      rw [Table.lookup_modify]
      by_cases hfound : terminalId = found
      · rw [if_pos hfound, if_pos (congrArg some hfound.symm), hfound]
      · rw [if_neg hfound, if_neg fun he => hfound (Option.some.inj he).symm]

/-- Labelling a second time changes nothing. -/
lemma lookup_applyLayoutPaneLabel_again {tab : Tab} (h : st.ws.Consistent) (htab : tab ∈ st.ws.tabs)
    (hid : id ∈ tab.panes) (hterminal : st.paneTerminal tab id = some pane.terminal)
    (terminalId : TerminalId) :
    (st.applyLayoutPaneLabel id pane).terminals.lookup terminalId =
      st.terminals.lookup terminalId := by
  rw [lookup_applyLayoutPaneLabel, h.terminalId_eq htab hid]
  by_cases hattached : tab.terminalId id = some terminalId
  · unfold paneTerminal at hterminal
    rw [hattached, Option.bind_some] at hterminal
    rw [if_pos hattached, hterminal, Option.map_some, LayoutPane.terminal, labelled_eq (.inr rfl)]
  · rw [if_neg hattached]

end LayoutState

/-! ### A split that succeeds -/

/-- The tab with the new pane beside `paneId` and the focus where it was. -/
def Tab.splitBeside (tab : Tab) (paneId newId : PaneId) (d : Direction) (r : F32)
    (terminalId : TerminalId) : Tab :=
  { tab with
    layout := ⟨tab.layout.root.splitAt paneId d newId (validSplitRatio r), tab.layout.focus⟩
    panes := tab.panes.insert newId (.new terminalId)
    zoomed := false }

lemma Workspace.splitPaneWithRuntime_spawned {ws : Workspace} (h : ws.Consistent) {idx : Nat}
    {tab : Tab} (ht : ws.tabs[idx]? = some tab) {paneId : PaneId} (hid : paneId ∈ tab.panes)
    (newId : PaneId) (d : Direction) (r : F32) (terminalId : TerminalId) :
    ws.splitPaneWithRuntime paneId newId d (some r) false (some terminalId) =
      some (({ ws with tabs := ws.tabs.set idx (tab.splitBeside paneId newId d r terminalId) } :
        Workspace).registerNewPaneWithNumber newId ws.nextPublicPaneNumber, some (idx, true)) := by
  have hv := h.tabs_valid tab (List.mem_of_getElem? ht)
  have hids : (tab.layout.focusPane paneId).IdsValid := (hv.focusPane paneId).idsValid
  have hfocus : (tab.layout.focusPane paneId).focus = paneId :=
    TileLayout.focusPane_focus ((hv.layout_panes paneId).mpr hid)
  have hroot : (tab.layout.focusPane paneId).root = tab.layout.root :=
    TileLayout.focusPane_root paneId
  have hkept : tab.layout.focus ∈ (TileLayout.mk (tab.layout.root.splitAt paneId d newId
      (validSplitRatio r)) newId).paneIds := by
    have hperm := TileLayout.splitFocusedWithRatio_paneIds hids newId d r
    have hold : tab.layout.focus ∈ (tab.layout.focusPane paneId).paneIds := by
      rw [TileLayout.focusPane_paneIds]
      exact hv.focus_mem
    have hmem := hperm.mem_iff.mpr (List.mem_cons_of_mem newId hold)
    rw [TileLayout.splitFocusedWithRatio, hfocus, hroot] at hmem
    exact hmem
  have hback : (TileLayout.mk (tab.layout.root.splitAt paneId d newId (validSplitRatio r))
      newId).focusPane tab.layout.focus =
        ⟨tab.layout.root.splitAt paneId d newId (validSplitRatio r), tab.layout.focus⟩ :=
    if_pos hkept
  unfold Workspace.splitPaneWithRuntime
  rw [h.findTabIndexForPane_eq ht hid]
  dsimp only
  rw [ht]
  simp only [Option.bind_eq_bind, Option.bind_some, Tab.splitFocusedWithRuntime,
    TileLayout.splitFocusedWithRatio, Option.getD_some, hfocus, hroot, Bool.not_false,
    Bool.or_true, if_true, hback, Tab.splitBeside]

/-! ### The tab under construction -/

/-- The panes and the terminals that come before the allocation `limit` are new to the workspace and
differ. -/
structure Fresh (spawns : Spawns) (limit : Nat) (st : LayoutState) : Prop where
  pane_inj : ∀ j k, st.spawned ≤ j → j < limit → st.spawned ≤ k → k < limit →
    (spawns j).1 = (spawns k).1 → j = k
  pane_new : ∀ k, st.spawned ≤ k → k < limit → (spawns k).1 ∉ paneIds st.ws.tabs
  terminal_inj : ∀ j k terminalId, st.spawned ≤ j → j < limit → st.spawned ≤ k → k < limit →
    (spawns j).2 = .ok terminalId → (spawns k).2 = .ok terminalId → j = k
  terminal_new : ∀ k terminalId, st.spawned ≤ k → k < limit → (spawns k).2 = .ok terminalId →
    terminalId ∉ terminalIds st.ws.tabs

/-- The last tab is under construction since `start`; everything else is as it was. -/
structure Building (spawns : Spawns) (start st : LayoutState) (tab : Tab) : Prop where
  consistent : st.ws.Consistent
  tabs : st.ws.tabs = start.ws.tabs ++ [tab]
  active : st.ws.activeTab = start.ws.activeTab
  id_eq : st.ws.id = start.ws.id
  root : tab.rootPane = (spawns start.spawned).1
  numbers : ∀ id, id ∉ tab.panes →
    st.ws.publicPaneNumbers.lookup id = start.ws.publicPaneNumbers.lookup id
  terminals : ∀ terminalId ∈ terminalIds start.ws.tabs,
    st.terminals.lookup terminalId = start.terminals.lookup terminalId
  panes : ∀ id ∈ tab.panes, ∃ k, start.spawned ≤ k ∧ k < st.spawned ∧ (spawns k).1 = id
  spawned : ∀ terminalId ∈ terminalsOf tab.panes,
    ∃ k, start.spawned ≤ k ∧ k < st.spawned ∧ (spawns k).2 = .ok terminalId

namespace Building

variable {spawns : Spawns} {start st : LayoutState} {tab : Tab} {paneId : PaneId} {limit : Nat}

lemma mem_tabs (b : Building spawns start st tab) : tab ∈ st.ws.tabs := by
  rw [b.tabs]
  exact List.mem_append_right _ (List.mem_singleton.mpr rfl)

lemma getElem? (b : Building spawns start st tab) :
    st.ws.tabs[start.ws.tabs.length]? = some tab := by
  rw [b.tabs]
  exact List.getElem?_concat_length

lemma valid (b : Building spawns start st tab) : tab.Valid := b.consistent.tabs_valid tab b.mem_tabs

lemma le_spawned (b : Building spawns start st tab) : start.spawned ≤ st.spawned := by
  obtain ⟨k, hle, hlt, -⟩ := b.panes tab.rootPane b.valid.root_mem
  omega

lemma activeInRange (b : Building spawns start st tab) : st.ws.ActiveInRange :=
  .of_lt (b.consistent.active_lt_of_getElem? b.getElem?)

/-- The panes of the tab have no terminal that was there before. -/
lemma terminalId_notMem (b : Building spawns start st tab) {terminalId : TerminalId}
    (hterminal : terminalId ∈ terminalsOf tab.panes) : terminalId ∉ terminalIds start.ws.tabs := by
  have hnodup := b.consistent.terminals_nodup
  rw [b.tabs, terminalIds_append, List.nodup_append, terminalIds_singleton] at hnodup
  exact fun hold => hnodup.2.2 terminalId hold terminalId hterminal rfl

section
variable (hfresh : Fresh spawns limit start) (b : Building spawns start st tab)
  (hlimit : st.spawned < limit)
include hfresh b hlimit

lemma pane_notMem : (spawns st.spawned).1 ∉ paneIds st.ws.tabs := by
  have hstart := b.le_spawned
  rw [b.tabs, paneIds_append, List.mem_append, not_or]
  refine ⟨hfresh.pane_new _ hstart hlimit, fun hin => ?_⟩
  rw [paneIds_singleton, ← AList.mem_keys] at hin
  obtain ⟨j, hle, hlt, hj⟩ := b.panes _ hin
  have heq := hfresh.pane_inj j _ hle (hlt.trans hlimit) hstart hlimit hj
  omega

lemma pane_notMem_tab : (spawns st.spawned).1 ∉ tab.panes := fun hin =>
  b.pane_notMem hfresh hlimit (mem_paneIds.mpr ⟨tab, b.mem_tabs, hin⟩)

lemma terminal_notMem {terminalId : TerminalId} (hterminal : (spawns st.spawned).2 = .ok terminalId) :
    terminalId ∉ terminalIds st.ws.tabs := by
  have hstart := b.le_spawned
  rw [b.tabs, terminalIds_append, List.mem_append, not_or]
  refine ⟨hfresh.terminal_new _ terminalId hstart hlimit hterminal, fun hin => ?_⟩
  rw [terminalIds_singleton] at hin
  obtain ⟨j, hle, hlt, hj⟩ := b.spawned _ hin
  have heq := hfresh.terminal_inj j _ terminalId hle (hlt.trans hlimit) hstart hlimit hj hterminal
  omega

end

lemma label (b : Building spawns start st tab) (hid : paneId ∈ tab.panes) (pane : LayoutPane) :
    Building spawns start (st.applyLayoutPaneLabel paneId pane) tab where
  consistent := by
    rw [LayoutState.applyLayoutPaneLabel_ws]
    exact b.consistent
  tabs := by rw [LayoutState.applyLayoutPaneLabel_ws, b.tabs]
  active := by rw [LayoutState.applyLayoutPaneLabel_ws, b.active]
  id_eq := by rw [LayoutState.applyLayoutPaneLabel_ws, b.id_eq]
  root := b.root
  numbers id hout := by
    rw [LayoutState.applyLayoutPaneLabel_ws]
    exact b.numbers id hout
  terminals terminalId hold := by
    obtain ⟨own, hown, hmem⟩ := Tab.mem_terminalsOf hid
    have hne : own ≠ terminalId := by
      rintro rfl
      exact b.terminalId_notMem hmem hold
    rw [LayoutState.lookup_applyLayoutPaneLabel, b.consistent.terminalId_eq b.mem_tabs hid, hown,
      if_neg fun he => hne (Option.some.inj he)]
    exact b.terminals terminalId hold
  panes id hin := by
    rw [LayoutState.applyLayoutPaneLabel_spawned]
    exact b.panes id hin
  spawned terminalId hin := by
    rw [LayoutState.applyLayoutPaneLabel_spawned]
    exact b.spawned terminalId hin

/-- A terminal without a label comes to be the one that the leaf asks for. -/
lemma paneTerminal_label (b : Building spawns start st tab) (hid : paneId ∈ tab.panes)
    {leaf : LayoutPane} (hterminal : st.paneTerminal tab paneId = some ⟨none, leaf.command⟩) :
    (st.applyLayoutPaneLabel paneId leaf).paneTerminal tab paneId = some leaf.terminal := by
  obtain ⟨own, hown, -⟩ := Tab.mem_terminalsOf hid
  unfold LayoutState.paneTerminal at hterminal ⊢
  rw [hown, Option.bind_some] at hterminal ⊢
  rw [LayoutState.lookup_applyLayoutPaneLabel, b.consistent.terminalId_eq b.mem_tabs hid,
    if_pos hown, hterminal, Option.map_some, LayoutState.labelled_eq (.inl rfl)]
  rfl

/-- An allocation that comes to nothing. -/
lemma skip (b : Building spawns start st tab) :
    Building spawns start { st with spawned := st.spawned + 1 } tab where
  consistent := b.consistent
  tabs := b.tabs
  active := b.active
  id_eq := b.id_eq
  root := b.root
  numbers := b.numbers
  terminals := b.terminals
  panes id hin := by
    obtain ⟨k, hle, hlt, hk⟩ := b.panes id hin
    exact ⟨k, hle, Nat.lt_succ_of_lt hlt, hk⟩
  spawned terminalId hin := by
    obtain ⟨k, hle, hlt, hk⟩ := b.spawned terminalId hin
    exact ⟨k, hle, Nat.lt_succ_of_lt hlt, hk⟩

/-! ### Adding a pane -/

/-- The allocation and the spawn come to a new pane in the tab. -/
lemma add (hfresh : Fresh spawns limit start) (b : Building spawns start st tab)
    (hlimit : st.spawned < limit) (hid : paneId ∈ tab.panes) {terminalId : TerminalId}
    (hspawn : (spawns st.spawned).2 = .ok terminalId) (d : Direction) (r : F32)
    (terminal : LayoutTerminal) :
    Building spawns start
      { ws := ({ st.ws with
          tabs := st.ws.tabs.set start.ws.tabs.length
            (tab.splitBeside paneId (spawns st.spawned).1 d r terminalId) } :
            Workspace).registerNewPaneWithNumber (spawns st.spawned).1 st.ws.nextPublicPaneNumber
        terminals := st.terminals.insert terminalId terminal
        spawned := st.spawned + 1 }
      (tab.splitBeside paneId (spawns st.spawned).1 d r terminalId) := by
  have hpane := b.pane_notMem hfresh hlimit
  have hterm := b.terminal_notMem hfresh hlimit hspawn
  have hnew := b.pane_notMem_tab hfresh hlimit
  have hsplit := Workspace.splitPaneWithRuntime_spawned b.consistent b.getElem? hid
    (spawns st.spawned).1 d r terminalId
  have hchanges : ∃ ws' result, st.ws.splitPaneWithRuntime paneId (spawns st.spawned).1 d (some r)
      false (some terminalId) = some (ws', result) ∧ Changes st.ws ws' :=
    Changes.splitPaneWithRuntime b.consistent b.activeInRange d (some r) false hpane
      fun other ho => Option.some.inj ho ▸ hterm
  obtain ⟨ws', result, he, ⟨before, after, rest, c⟩, hrange⟩ := hchanges
  rw [hsplit, Option.some.injEq, Prod.mk.injEq] at he
  obtain ⟨rfl, -⟩ := he
  exact {
    consistent := c.consistent b.consistent hrange.lt
    tabs := by
      change st.ws.tabs.set _ _ = _
      rw [b.tabs, List.set_append_right _ _ le_rfl, Nat.sub_self]
      rfl
    active := b.active
    id_eq := b.id_eq
    root := b.root
    numbers := by
      intro id hout
      have hout : id ∉ tab.panes.insert (spawns st.spawned).1 (.new terminalId) := hout
      rw [AList.mem_insert, not_or] at hout
      change (st.ws.publicPaneNumbers.insert _ _).lookup id = _
      rw [AList.lookup_insert_ne hout.1, b.numbers id hout.2]
    terminals := by
      intro old hold
      have hne : old ≠ terminalId := by
        rintro rfl
        exact hfresh.terminal_new _ _ b.le_spawned hlimit hspawn hold
      change (st.terminals.insert terminalId terminal).lookup old = _
      rw [AList.lookup_insert_ne hne, b.terminals old hold]
    panes := by
      intro id hin
      have hin : id ∈ tab.panes.insert (spawns st.spawned).1 (.new terminalId) := hin
      rcases AList.mem_insert _ |>.mp hin with rfl | hold
      · exact ⟨st.spawned, b.le_spawned, Nat.lt_succ_self _, rfl⟩
      · exact b.skip.panes id hold
    spawned := by
      intro other hin
      have hin : other ∈ terminalsOf (tab.panes.insert (spawns st.spawned).1 (.new terminalId)) :=
        hin
      rw [terminalsOf_insert _ _ _ hnew, List.mem_cons] at hin
      rcases hin with rfl | hold
      · exact ⟨st.spawned, b.le_spawned, Nat.lt_succ_self _, hspawn⟩
      · exact b.skip.spawned other hold }

/-- Splitting beside a pane adds a pane with the terminal of the leaf. -/
lemma layoutSplitPane_ok (hfresh : Fresh spawns limit start) (b : Building spawns start st tab)
    (hlimit : st.spawned < limit) (hid : paneId ∈ tab.panes) {leaf : LayoutPane} (hleaf : (LayoutNode.pane leaf).Launchable)
    {terminalId : TerminalId} (hspawn : (spawns st.spawned).2 = .ok terminalId)
    (d : SplitDirection) (r : F32) {tab' : Tab}
    (htab' : tab' = tab.splitBeside paneId (spawns st.spawned).1 d.toDirection r terminalId) :
    ∃ st', st.layoutSplitPane spawns paneId d r leaf = some (st', .ok (spawns st.spawned).1) ∧
      Building spawns start st' tab' ∧ st'.spawned = st.spawned + 1 ∧
      st'.paneTerminal tab' (spawns st.spawned).1 = some leaf.terminal ∧
      ∀ id ∈ tab.panes, st'.paneTerminal tab' id = st.paneTerminal tab id := by
  obtain ⟨hcommand, env, henv⟩ := hleaf
  have hterm := b.terminal_notMem hfresh hlimit hspawn
  have hnew := b.pane_notMem_tab hfresh hlimit
  have hadd := b.add hfresh hlimit hid hspawn d.toDirection r ⟨none, leaf.command⟩
  rw [← htab'] at hadd
  have hlookup : ∀ id, tab'.terminalId id =
      if id = (spawns st.spawned).1 then some terminalId else tab.terminalId id := by
    intro id
    rw [htab']
    unfold Tab.terminalId Tab.splitBeside
    dsimp only
    rw [Table.lookup_insert_eq]
    by_cases hsame : id = (spawns st.spawned).1
    · rw [if_pos hsame, if_pos hsame]
      rfl
    · rw [if_neg hsame, if_neg hsame]
  have hin' : (spawns st.spawned).1 ∈ tab'.panes := by
    rw [htab']
    exact AList.mem_insert _ |>.mpr (.inl rfl)
  refine ⟨_, ?_, hadd.label hin' leaf, ?_, ?_, fun id hid' => ?_⟩
  · have hsplit := Workspace.splitPaneWithRuntime_spawned b.consistent b.getElem? hid
      (spawns st.spawned).1 d.toDirection r terminalId
    have houtcome : (spawns st.spawned).2.toOption = some terminalId := by
      rw [hspawn]
      rfl
    unfold LayoutState.layoutSplitPane
    simp only [henv, hcommand, houtcome, hsplit, Option.bind_eq_bind, Option.bind_some]
    rw [← htab', hspawn]
  · rw [LayoutState.applyLayoutPaneLabel_spawned]
  · apply hadd.paneTerminal_label hin'
    unfold LayoutState.paneTerminal
    rw [hlookup, if_pos rfl, Option.bind_some]
    exact AList.lookup_insert _
  · have hne : id ≠ (spawns st.spawned).1 := by
      rintro rfl
      exact hnew hid'
    obtain ⟨own, hown, hmem⟩ := Tab.mem_terminalsOf hid'
    have hdiffer : own ≠ terminalId := by
      rintro rfl
      exact hterm (mem_terminalIds.mpr ⟨tab, b.mem_tabs, hmem⟩)
    unfold LayoutState.paneTerminal
    rw [hlookup, if_neg hne, hown, Option.bind_some, Option.bind_some,
      LayoutState.lookup_applyLayoutPaneLabel, hadd.consistent.terminalId_eq hadd.mem_tabs hin',
      hlookup, if_pos rfl, if_neg fun he => hdiffer (Option.some.inj he).symm]
    exact AList.lookup_insert_ne hdiffer

/-- A spawn that fails leaves the tab as it was. -/
lemma layoutSplitPane_error (hfresh : Fresh spawns limit start) (b : Building spawns start st tab)
    (hlimit : st.spawned < limit) (hid : paneId ∈ tab.panes) {leaf : LayoutPane} (hleaf : (LayoutNode.pane leaf).Launchable)
    {message : String} (hspawn : (spawns st.spawned).2 = .error message)
    (d : SplitDirection) (r : F32) :
    st.layoutSplitPane spawns paneId d r leaf =
      some ({ st with spawned := st.spawned + 1 }, .error message) := by
  obtain ⟨hcommand, env, henv⟩ := hleaf
  have hfailed := Workspace.splitPaneWithRuntime_failed b.consistent
    (b.pane_notMem hfresh hlimit) paneId d.toDirection (some r) false
  rw [b.consistent.findTabIndexForPane_eq b.getElem? hid] at hfailed
  have houtcome : (spawns st.spawned).2.toOption = none := by
    rw [hspawn]
    rfl
  unfold LayoutState.layoutSplitPane
  simp only [henv, hcommand, houtcome, hfailed, Option.bind_eq_bind, Option.bind_some,
    Option.map_some]
  rw [hspawn]

/-! ### Building a tree -/

/-- From `st` to `st'` the tree `t` of `node` has taken the place of the leaf `paneId`. -/
structure Built (spawns : Spawns) (node : LayoutNode) (paneId : PaneId) (st : LayoutState)
    (tab : Tab) (st' : LayoutState) (tab' : Tab) (t : Node) : Prop where
  count : st'.spawned + 1 = st.spawned + node.leafCount
  spawned_ok : ∀ k, st.spawned ≤ k → k < st'.spawned → ∃ terminalId, (spawns k).2 = .ok terminalId
  root : tab'.layout.root = tab.layout.root.substitute paneId t
  realizes : Realizes (st'.paneTerminal tab') node t
  ids : ∀ id ∈ t.collectIds, id ∈ tab'.panes ∧
    (id = paneId ∨ ∃ k, st.spawned ≤ k ∧ k < st'.spawned ∧ (spawns k).1 = id)
  kept : ∀ id ∈ tab.panes, id ∈ tab'.panes ∧ st'.paneTerminal tab' id = st.paneTerminal tab id

lemma built_pane (b : Building spawns start st tab) (hid : paneId ∈ tab.panes) {leaf : LayoutPane}
    (hterminal : st.paneTerminal tab paneId = some leaf.terminal) :
    Built spawns (.pane leaf) paneId st tab (st.applyLayoutPaneLabel paneId leaf) tab
      (.pane paneId) := by
  have hagain := LayoutState.lookup_applyLayoutPaneLabel_again b.consistent b.mem_tabs hid hterminal
  have hsame : ∀ id, (st.applyLayoutPaneLabel paneId leaf).paneTerminal tab id =
      st.paneTerminal tab id := by
    intro id
    unfold LayoutState.paneTerminal
    cases tab.terminalId id with
    | none => rfl
    | some terminalId => exact hagain terminalId
  have hspawned : (st.applyLayoutPaneLabel paneId leaf).spawned = st.spawned :=
    LayoutState.applyLayoutPaneLabel_spawned
  exact {
    count := by rw [hspawned, LayoutNode.leafCount]
    spawned_ok := fun k hle hlt => by omega
    root := Node.substitute_self.symm
    realizes := (hsame paneId).trans hterminal
    ids := by
      intro id hmem
      rw [Node.collectIds, List.mem_singleton] at hmem
      rw [hmem]
      exact ⟨hid, .inl rfl⟩
    kept := fun id hin => ⟨hin, hsame id⟩ }

/-- The two halves of a split make the tree of the split. -/
lemma built_split {st₁ st₂ st₃ : LayoutState} {tab₁ tab₂ tab₃ : Tab} {first second : LayoutNode}
    {t₁ t₂ : Node} {d : SplitDirection} {r : F32} {terminalId : TerminalId}
    (hfresh : Fresh spawns limit start) (b : Building spawns start st tab) (hid : paneId ∈ tab.panes)
    (hlimit : st₂.spawned ≤ limit)
    (hfinite : r.isFinite = true) (hspawn : (spawns st.spawned).2 = .ok terminalId)
    (htab₁ : tab₁ = tab.splitBeside paneId (spawns st.spawned).1 d.toDirection r terminalId)
    (hspawned : st₁.spawned = st.spawned + 1)
    (hkept : ∀ id ∈ tab.panes, st₁.paneTerminal tab₁ id = st.paneTerminal tab id)
    (h₁ : Built spawns first paneId st₁ tab₁ st₂ tab₂ t₁)
    (h₂ : Built spawns second (spawns st.spawned).1 st₂ tab₂ st₃ tab₃ t₂) :
    Built spawns (.split d r first second) paneId st tab st₃ tab₃
      (.split d.toDirection (validSplitRatio r) t₁ t₂) := by
  have hcount₁ := h₁.count
  have hcount₂ := h₂.count
  have hpos₁ : 0 < first.leafCount := LayoutNode.leafCount_pos
  have hpos₂ : 0 < second.leafCount := LayoutNode.leafCount_pos
  have hnotin := b.pane_notMem_tab hfresh (by omega)
  have hne : paneId ≠ (spawns st.spawned).1 := by
    rintro rfl
    exact hnotin hid
  have hroot : (spawns st.spawned).1 ∉ tab.layout.root.collectIds := fun hin =>
    hnotin ((b.valid.layout_panes _).mp hin)
  have hin₁ : ∀ id ∈ tab.panes, id ∈ tab₁.panes := by
    intro id hold
    rw [htab₁]
    exact AList.mem_insert _ |>.mpr (.inr hold)
  -- The new pane is none of those below the first half.
  have hapart : (spawns st.spawned).1 ∉ t₁.collectIds := by
    intro hin
    rcases (h₁.ids _ hin).2 with heq | ⟨k, hle, hlt, hk⟩
    · exact hne heq.symm
    · have hstart := b.le_spawned
      have hsame := hfresh.pane_inj k st.spawned (by omega) (by omega) hstart (by omega) hk
      omega
  exact {
    count := by
      rw [LayoutNode.leafCount]
      omega
    spawned_ok := by
      intro k hle hlt
      by_cases hstart : k = st.spawned
      · exact ⟨terminalId, hstart ▸ hspawn⟩
      by_cases hsecond : st₂.spawned ≤ k
      · exact h₂.spawned_ok k hsecond hlt
      · exact h₁.spawned_ok k (by omega) (by omega)
    root := by
      have hsplit : tab₁.layout.root = tab.layout.root.substitute paneId
          (.split d.toDirection (validSplitRatio r) (.pane paneId) (.pane (spawns st.spawned).1)) := by
        rw [htab₁]
        exact Node.splitAt_eq_substitute _ _
      have hfirst : (Node.pane paneId).substitute paneId t₁ = t₁ := if_pos rfl
      have hother : (Node.pane (spawns st.spawned).1).substitute paneId t₁ =
          .pane (spawns st.spawned).1 := if_neg hne.symm
      have hsecond : (Node.pane (spawns st.spawned).1).substitute (spawns st.spawned).1 t₂ = t₂ :=
        if_pos rfl
      rw [h₂.root, h₁.root, hsplit, Node.substitute_substitute (fun _ => rfl), Node.substitute,
        hfirst, hother, Node.substitute_substitute (fun hin => absurd hin hroot), Node.substitute,
        Node.substitute_of_notMem hapart, hsecond]
    realizes := by
      refine ⟨rfl, ?_, h₁.realizes.congr fun id hin => ?_, h₂.realizes⟩
      · exact if_pos hfinite
      · exact (h₂.kept id (h₁.ids id hin).1).2
    ids := by
      intro id hin
      rcases List.mem_append.mp hin with hfirst | hsecond
      · obtain ⟨hmem, horigin⟩ := h₁.ids id hfirst
        refine ⟨(h₂.kept id hmem).1, horigin.imp_right ?_⟩
        rintro ⟨k, hle, hlt, hk⟩
        exact ⟨k, by omega, by omega, hk⟩
      · obtain ⟨hmem, horigin⟩ := h₂.ids id hsecond
        refine ⟨hmem, .inr ?_⟩
        rcases horigin with rfl | ⟨k, hle, hlt, hk⟩
        · exact ⟨st.spawned, le_rfl, by omega, rfl⟩
        · exact ⟨k, by omega, hlt, hk⟩
    kept := by
      intro id hold
      obtain ⟨hin₂, hsame₁⟩ := h₁.kept id (hin₁ id hold)
      obtain ⟨hin₃, hsame₂⟩ := h₂.kept id hin₂
      exact ⟨hin₃, by rw [hsame₂, hsame₁, hkept id hold]⟩ }

/-- A tree is built below its first leaf unless a spawn fails. -/
lemma applyLayoutNodeToPane_cases (hfresh : Fresh spawns limit start) {node : LayoutNode}
    (b : Building spawns start st tab) (hlimit : st.spawned + node.leafCount ≤ limit + 1) (hid : paneId ∈ tab.panes) (hnode : node.Launchable)
    (hterminal : st.paneTerminal tab paneId = some (firstLayoutLeaf node).terminal) :
    (∃ st' tab' t, LayoutState.applyLayoutNodeToPane spawns node st paneId = some (st', .ok ()) ∧
      Building spawns start st' tab' ∧ Built spawns node paneId st tab st' tab' t) ∨
    ∃ st' tab' message k,
      LayoutState.applyLayoutNodeToPane spawns node st paneId = some (st', .error message) ∧
      Building spawns start st' tab' ∧ st.spawned ≤ k ∧ k + 1 < st.spawned + node.leafCount ∧
      (spawns k).2 = .error message := by
  induction node generalizing st tab paneId with
  | pane leaf =>
    exact .inl ⟨_, tab, _, rfl, b.label hid leaf, b.built_pane hid hterminal⟩
  | split d r first second ih₁ ih₂ =>
    obtain ⟨hfinite, hfirst, hsecond⟩ := hnode
    have hpos₁ : 0 < first.leafCount := LayoutNode.leafCount_pos
    have hpos₂ : 0 < second.leafCount := LayoutNode.leafCount_pos
    rw [LayoutNode.leafCount] at hlimit
    unfold LayoutState.applyLayoutNodeToPane
    simp only [Option.bind_eq_bind]
    cases hspawn : (spawns st.spawned).2 with
    | error message =>
      rw [b.layoutSplitPane_error hfresh (by omega) hid hsecond.leaf hspawn d r, Option.bind_some]
      refine .inr ⟨_, tab, message, st.spawned, rfl, b.skip, le_rfl, ?_, hspawn⟩
      rw [LayoutNode.leafCount]
      omega
    | ok terminalId =>
      obtain ⟨st₁, he, b₁, hspawned, hnew, hkept⟩ :=
        b.layoutSplitPane_ok hfresh (by omega) hid hsecond.leaf hspawn d r rfl
      rw [he, Option.bind_some]
      dsimp only
      have hin₁ : paneId ∈ (tab.splitBeside paneId (spawns st.spawned).1 d.toDirection r
          terminalId).panes := AList.mem_insert _ |>.mpr (.inr hid)
      have hnew₁ : (spawns st.spawned).1 ∈ (tab.splitBeside paneId (spawns st.spawned).1
          d.toDirection r terminalId).panes := AList.mem_insert _ |>.mpr (.inl rfl)
      rcases ih₁ b₁ (by omega) hin₁ hfirst ((hkept paneId hid).trans hterminal) with
        ⟨st₂, tab₂, t₁, he₂, b₂, h₁⟩ | ⟨st₂, tab₂, message, k, he₂, b₂, hle, hlt, hk⟩
      · rw [he₂, Option.bind_some]
        dsimp only
        obtain ⟨hnew₂, hsame₂⟩ := h₁.kept _ hnew₁
        have hcount₁ := h₁.count
        rcases ih₂ b₂ (by omega) hnew₂ hsecond (hsame₂.trans hnew) with
          ⟨st₃, tab₃, t₂, he₃, b₃, h₂⟩ | ⟨st₃, tab₃, message, k, he₃, b₃, hle, hlt, hk⟩
        · exact .inl ⟨st₃, tab₃, _, he₃, b₃,
            b.built_split hfresh hid (by omega) hfinite hspawn rfl hspawned hkept h₁ h₂⟩
        · refine .inr ⟨st₃, tab₃, message, k, he₃, b₃, by omega, ?_, hk⟩
          rw [LayoutNode.leafCount]
          omega
      · rw [he₂, Option.bind_some]
        refine .inr ⟨st₂, tab₂, message, k, rfl, b₂, by omega, ?_, hk⟩
        rw [LayoutNode.leafCount]
        omega

end Building

end Ork3.Workspaces
