import Ork3.Proofs.LayoutBuilding

/-!
# Applying a layout

A layout that is applied stands as a tab of its own, and is exported as it was asked for. Where a
spawn fails, closing the tab brings back what clients saw before.
-/

namespace Ork3.Workspaces

open Ork3.Library Ork3.Layout LayoutState

/-! ### Closing a tab -/

section
variable {st : LayoutState} {idx : Nat} {tab : Tab}

lemma LayoutState.foldl_removeUnattachedTerminalId (ids : List TerminalId) (st : LayoutState) :
    (ids.foldl removeUnattachedTerminalId st).ws = st.ws ∧
    ∀ terminalId ∈ terminalIds st.ws.tabs,
      (ids.foldl removeUnattachedTerminalId st).terminals.lookup terminalId =
        st.terminals.lookup terminalId := by
  induction ids generalizing st with
  | nil => exact ⟨rfl, fun _ _ => rfl⟩
  | cons id ids ih =>
    obtain ⟨hws, hlookup⟩ := ih (st.removeUnattachedTerminalId id)
    have hfirst : (st.removeUnattachedTerminalId id).ws = st.ws := by
      unfold removeUnattachedTerminalId
      split_ifs <;> rfl
    rw [hfirst] at hlookup
    rw [List.foldl_cons]
    refine ⟨hws.trans hfirst, fun terminalId hattached => (hlookup terminalId hattached).trans ?_⟩
    unfold removeUnattachedTerminalId
    by_cases hid : id ∈ terminalIds st.ws.tabs
    · rw [if_pos hid]
    · have hne : terminalId ≠ id := by
        rintro rfl
        exact hid hattached
      rw [if_neg hid]
      exact AList.lookup_erase_ne hne

lemma Workspace.closeTab_spec {ws : Workspace} (ht : ws.tabs[idx]? = some tab)
    (hmany : 1 < ws.tabs.length) :
    (ws.closeTab idx).2 = true ∧ (ws.closeTab idx).1.tabs = ws.tabs.eraseIdx idx ∧
    (ws.closeTab idx).1.id = ws.id ∧
    (ws.activeTab < idx → (ws.closeTab idx).1.activeTab = ws.activeTab) ∧
    ∀ id, (ws.closeTab idx).1.publicPaneNumbers.lookup id =
      if id ∈ tab.panes then none else ws.publicPaneNumbers.lookup id := by
  have hlength := List.length_eraseIdx_of_lt (List.getElem?_eq_some_iff.mp ht).1
  have hidx := (List.getElem?_eq_some_iff.mp ht).1
  unfold Workspace.closeTab
  rw [ht]
  dsimp only
  rw [if_neg (not_le.mpr hmany)]
  obtain ⟨heq, hlookup⟩ := foldl_unregisterPane tab.panes.keys
    { ws with tabs := ws.tabs.eraseIdx idx }
  generalize tab.panes.keys.foldl Workspace.unregisterPane
    { ws with tabs := ws.tabs.eraseIdx idx } = ws' at heq hlookup ⊢
  have htabs : ws'.tabs = ws.tabs.eraseIdx idx := by rw [heq]
  have hid : ws'.id = ws.id := by rw [heq]
  have hactive : ws'.activeTab = ws.activeTab := by rw [heq]
  have hnumbers : ∀ id, ws'.publicPaneNumbers.lookup id =
      if id ∈ tab.panes then none else ws.publicPaneNumbers.lookup id := fun id =>
    (hlookup id).trans (if_congr AList.mem_keys.symm rfl rfl)
  rw [htabs, hactive]
  split_ifs with hlast hbefore
  · exact ⟨rfl, rfl, hid, fun hlt => by dsimp only; omega, hnumbers⟩
  · exact ⟨rfl, rfl, hid, fun hlt => by dsimp only; omega, hnumbers⟩
  · exact ⟨rfl, htabs, hid, fun _ => hactive, hnumbers⟩

/-- Closing a tab leaves the terminals of the other tabs. -/
lemma LayoutState.closeLayoutTab_spec (ht : st.ws.tabs[idx]? = some tab)
    (hmany : 1 < st.ws.tabs.length) :
    (st.closeLayoutTab idx).ws = (st.ws.closeTab idx).1 ∧
    ∀ terminalId ∈ terminalIds (st.ws.tabs.eraseIdx idx),
      (st.closeLayoutTab idx).terminals.lookup terminalId = st.terminals.lookup terminalId := by
  obtain ⟨hclosed, htabs, -⟩ := Workspace.closeTab_spec ht hmany
  obtain ⟨hws, hlookup⟩ := LayoutState.foldl_removeUnattachedTerminalId (st.terminalIdsForTab idx)
    { st with ws := (st.ws.closeTab idx).1 }
  unfold LayoutState.closeLayoutTab
  dsimp only
  rw [if_pos hclosed]
  refine ⟨hws, fun terminalId hattached => hlookup terminalId ?_⟩
  rw [htabs]
  exact hattached

/-- A tab is found by its root. -/
lemma LayoutState.findRoot_eq (h : st.ws.Consistent) (ht : st.ws.tabs[idx]? = some tab) :
    st.findRoot tab.rootPane = some idx := by
  have hmem := List.mem_of_getElem? ht
  unfold LayoutState.findRoot
  cases hfind : st.ws.tabs.findIdx? fun other => other.rootPane = tab.rootPane with
  | none =>
    have hnone := List.findIdx?_eq_none_iff.mp hfind tab hmem
    simp at hnone
  | some found =>
    obtain ⟨hlt, hroot, -⟩ := List.findIdx?_eq_some_iff_getElem.mp hfind
    have hfound := List.getElem_mem hlt
    have hroot : st.ws.tabs[found].rootPane = tab.rootPane := by simpa using hroot
    have hsame : st.ws.tabs[found] = tab := by
      apply h.eq_of_mem_panes hfound hmem (h.tabs_valid _ hfound).root_mem
      rw [hroot]
      exact (h.tabs_valid _ hmem).root_mem
    have hnodup : st.ws.tabs.Nodup := h.tab_numbers_nodup.of_map
    have ht' : st.ws.tabs[found]? = some tab := by rw [List.getElem?_eq_getElem hlt, hsame]
    rw [(List.getElem?_inj hlt hnodup).mp (ht'.trans ht.symm)]

end

/-! ### Taking the tab back -/

/-- What clients see of the workspace is the same: the tabs with their trees, the active one, the
public numbers and what is known of the terminals. -/
structure SameToClients (st st' : LayoutState) : Prop where
  id_eq : st'.ws.id = st.ws.id
  tabs : st'.ws.tabs = st.ws.tabs
  active : st'.ws.activeTab = st.ws.activeTab
  numbers : ∀ id, st'.ws.publicPaneNumber id = st.ws.publicPaneNumber id
  terminals : ∀ terminalId ∈ terminalIds st.ws.tabs,
    st'.terminals.lookup terminalId = st.terminals.lookup terminalId

section
variable {spawns : Spawns} {start st : LayoutState} {tab : Tab}

lemma Building.rollback (h : start.ws.AssertInvariants) (b : Building spawns start st tab) :
    SameToClients start (st.rollbackLayoutTab (spawns start.spawned).1) := by
  have hlt := h.active_lt h.tabs_ne_nil
  have hlength : st.ws.tabs.length = start.ws.tabs.length + 1 := by
    rw [b.tabs, List.length_append, List.length_singleton]
  have hfind := LayoutState.findRoot_eq b.consistent b.getElem?
  obtain ⟨-, htabs, hid, hactive, hnumbers⟩ :=
    Workspace.closeTab_spec b.getElem? (by omega : 1 < st.ws.tabs.length)
  obtain ⟨hws, hlookup⟩ :=
    LayoutState.closeLayoutTab_spec b.getElem? (by omega : 1 < st.ws.tabs.length)
  have herase : st.ws.tabs.eraseIdx start.ws.tabs.length = start.ws.tabs := by
    rw [b.tabs, List.eraseIdx_append_of_length_le le_rfl, Nat.sub_self]
    exact List.append_nil _
  unfold LayoutState.rollbackLayoutTab
  rw [← b.root, hfind]
  dsimp only
  rw [b.active] at hactive
  exact {
    id_eq := by rw [hws, hid, b.id_eq]
    tabs := by rw [hws, htabs, herase]
    active := by rw [hws, hactive hlt]
    numbers := by
      intro id
      unfold Workspace.publicPaneNumber
      rw [hws, hnumbers]
      by_cases hin : id ∈ tab.panes
      · have hold : id ∉ start.ws.publicPaneNumbers := by
          rw [h.public_iff]
          have hnodup := b.consistent.panes_nodup
          rw [b.tabs, paneIds_append, List.nodup_append, paneIds_singleton] at hnodup
          exact fun hold => hnodup.2.2 id hold id (AList.mem_keys.mp hin) rfl
        rw [if_pos hin, AList.lookup_eq_none.mpr hold]
      · rw [if_neg hin, b.numbers id hin]
    terminals := by
      intro terminalId hattached
      rw [hlookup terminalId (herase.symm ▸ hattached), b.terminals terminalId hattached] }

end

/-! ### The new tab -/

/-- The workspace with a new last tab. -/
def Workspace.withTab (ws : Workspace) (rootId : PaneId) (label : Option String)
    (terminalId : TerminalId) : Workspace :=
  { ws with
    nextPublicTabNumber := ws.nextPublicTabNumber + 1
    publicPaneNumbers := ws.publicPaneNumbers.insert rootId ws.nextPublicPaneNumber
    nextPublicPaneNumber := max ws.nextPublicPaneNumber (ws.nextPublicPaneNumber + 1)
    tabs := ws.tabs ++ [.fromExistingPane ws.nextPublicTabNumber label ⟨rootId, .new terminalId⟩] }

section
variable {ws : Workspace} {rootId : PaneId}

lemma Workspace.createTab_spawned (h : ws.AssertInvariants) (terminalId : TerminalId) :
    ws.createTab rootId (some terminalId) =
      some (ws.withTab rootId none terminalId, some ws.tabs.length) := by
  have hlt := h.active_lt h.tabs_ne_nil
  unfold Workspace.createTab
  dsimp only
  rw [List.getElem?_eq_getElem hlt]
  simp only [Option.bind_eq_bind, Option.bind_some, Tab.new, Option.map_some, List.length_append,
    List.length_singleton, Nat.add_sub_cancel]
  rfl

lemma Workspace.createTab_failed (h : ws.AssertInvariants) :
    ws.createTab rootId none =
      some ({ ws with nextPublicTabNumber := ws.nextPublicTabNumber + 1 }, none) := by
  have hlt := h.active_lt h.tabs_ne_nil
  unfold Workspace.createTab
  dsimp only
  rw [List.getElem?_eq_getElem hlt]
  rfl

lemma Workspace.withTab_rename (label : Option String) (terminalId : TerminalId) :
    { ws.withTab rootId none terminalId with
      tabs := (ws.withTab rootId none terminalId).tabs.modify ws.tabs.length
        fun tab => { tab with customName := label.or tab.customName } } =
      ws.withTab rootId label terminalId := by
  unfold Workspace.withTab
  dsimp only
  rw [List.modify_eq_set_getElem?, List.getElem?_concat_length, Option.map_eq_map, Option.map_some,
    Option.getD_some, List.set_append_right _ _ le_rfl, Nat.sub_self]
  cases label <;> rfl

end

section
variable {spawns : Spawns} {start : LayoutState} {limit : Nat} {terminalId : TerminalId}

/-- The construction starts with a tab of one pane. -/
lemma Building.create (h : start.ws.AssertInvariants) (hfresh : Fresh spawns limit start)
    (hlimit : start.spawned < limit) (hspawn : (spawns start.spawned).2 = .ok terminalId)
    (label : Option String) (terminal : LayoutTerminal) :
    Building spawns start
      { ws := start.ws.withTab (spawns start.spawned).1 label terminalId
        terminals := start.terminals.insert terminalId terminal
        spawned := start.spawned + 1 }
      (.fromExistingPane start.ws.nextPublicTabNumber label
        ⟨(spawns start.spawned).1, .new terminalId⟩) := by
  have hpane := hfresh.pane_new _ (le_refl start.spawned) hlimit
  have hterm := hfresh.terminal_new _ terminalId (le_refl start.spawned) hlimit hspawn
  have c : Change start.ws (start.ws.withTab (spawns start.spawned).1 label terminalId) []
      [.fromExistingPane start.ws.nextPublicTabNumber label
        ⟨(spawns start.spawned).1, .new terminalId⟩] start.ws.tabs := by
    apply Change.add h.toConsistent rfl hpane hterm List.perm_append_comm rfl _ rfl
    exact Nat.max_eq_right (Nat.le_succ _)
  have hrange : (start.ws.withTab (spawns start.spawned).1 label terminalId).activeTab <
      (start.ws.withTab (spawns start.spawned).1 label terminalId).tabs.length := by
    change start.ws.activeTab < (start.ws.tabs ++ _).length
    rw [List.length_append]
    exact Nat.lt_add_right 1 (h.active_lt h.tabs_ne_nil)
  exact {
    consistent := c.consistent h.toConsistent fun _ => hrange
    tabs := rfl
    active := rfl
    id_eq := rfl
    root := rfl
    numbers := by
      intro id hout
      have hne : id ≠ (spawns start.spawned).1 := by
        rintro rfl
        exact hout (AList.mem_keys.mpr (List.mem_singleton.mpr rfl))
      exact AList.lookup_insert_ne hne
    terminals := by
      intro old hold
      have hne : old ≠ terminalId := by
        rintro rfl
        exact hterm hold
      exact AList.lookup_insert_ne hne
    panes := by
      intro id hin
      have hroot := List.mem_singleton.mp (AList.mem_keys.mp hin)
      exact ⟨start.spawned, le_rfl, Nat.lt_succ_self _, hroot.symm⟩
    spawned := by
      intro other hin
      have hother := List.mem_singleton.mp hin
      exact ⟨start.spawned, le_rfl, Nat.lt_succ_self _, by rw [hspawn, hother]; rfl⟩ }

/-- The first pane of the tab has the terminal of the first leaf. -/
lemma Building.create_labelled (h : start.ws.AssertInvariants) (hfresh : Fresh spawns limit start)
    (hlimit : start.spawned < limit) (hspawn : (spawns start.spawned).2 = .ok terminalId)
    (label : Option String) (leaf : LayoutPane) :
    ∃ st tab, LayoutState.applyLayoutPaneLabel
        { ws := start.ws.withTab (spawns start.spawned).1 label terminalId
          terminals := start.terminals.insert terminalId ⟨none, leaf.command⟩
          spawned := start.spawned + 1 } (spawns start.spawned).1 leaf = st ∧
      Building spawns start st tab ∧ st.spawned = start.spawned + 1 ∧
      (spawns start.spawned).1 ∈ tab.panes ∧
      tab.layout.root = .pane (spawns start.spawned).1 ∧
      st.paneTerminal tab (spawns start.spawned).1 = some leaf.terminal := by
  have b := Building.create h hfresh hlimit hspawn label ⟨none, leaf.command⟩
  have hroot : (spawns start.spawned).1 ∈ (Tab.fromExistingPane start.ws.nextPublicTabNumber label
      ⟨(spawns start.spawned).1, .new terminalId⟩).panes :=
    AList.mem_keys.mpr (List.mem_singleton.mpr rfl)
  have hown : (Tab.fromExistingPane start.ws.nextPublicTabNumber label
      ⟨(spawns start.spawned).1, .new terminalId⟩).terminalId (spawns start.spawned).1 =
        some terminalId := by
    unfold Tab.terminalId Tab.fromExistingPane
    dsimp only
    rw [← AList.insert_empty, AList.lookup_insert]
    rfl
  refine ⟨_, _, rfl, b.label hroot leaf, LayoutState.applyLayoutPaneLabel_spawned, hroot, rfl, ?_⟩
  apply b.paneTerminal_label hroot
  rw [LayoutState.paneTerminal, hown, Option.bind_some]
  exact AList.lookup_insert _

end

/-! ### Exporting -/

section
variable {st : LayoutState} {tab : Tab} (cwd : TerminalId → Option String)

lemma SplitDirection.ofDirection_toDirection (d : SplitDirection) :
    SplitDirection.ofDirection d.toDirection = d := by
  cases d <;> rfl

/-- A tree that was asked for is exported as it was asked for. -/
lemma LayoutState.layoutNodeDescription_of_realizes (h : st.ws.Consistent)
    (htab : tab ∈ st.ws.tabs) {node : LayoutNode} {t : Node}
    (hids : ∀ id ∈ t.collectIds, id ∈ tab.panes) (hr : Realizes (st.paneTerminal tab) node t) :
    ∃ described, st.layoutNodeDescription cwd tab t = some described ∧
      described.anonymous = node.applied := by
  induction node generalizing t with
  | pane leaf =>
    cases t with
    | split d r first second => exact hr.elim
    | pane id =>
      have hin := hids id (List.mem_singleton.mpr rfl)
      obtain ⟨terminalId, hterminal, -⟩ := Tab.mem_terminalsOf hin
      have hlookup : st.terminals.lookup terminalId = some leaf.terminal := by
        have hr : st.paneTerminal tab id = some leaf.terminal := hr
        rwa [LayoutState.paneTerminal, hterminal, Option.bind_some] at hr
      have hpublic : id ∈ st.ws.publicPaneNumbers :=
        (h.public_iff id).mpr (mem_paneIds.mpr ⟨tab, htab, hin⟩)
      obtain ⟨number, hnumber⟩ := Option.isSome_iff_exists.mp (AList.lookup_isSome.mpr hpublic)
      have hid : st.publicPaneId id = some (publicPaneIdForNumber st.ws.id number) := by
        rw [LayoutState.publicPaneId, Workspace.publicPaneNumber, hnumber, Option.map_some]
      have hnode : st.layoutNodeDescription cwd tab (.pane id) = some (.pane {
          paneId := some (publicPaneIdForNumber st.ws.id number)
          label := leaf.terminal.manualLabel
          cwd := cwd terminalId
          command := leaf.terminal.launchArgv
          env := [] }) := by
        simp only [LayoutState.layoutNodeDescription, LayoutState.layoutPaneDescription, hterminal,
          hlookup, hid, Option.bind_eq_bind, Option.bind_some]
      exact ⟨_, hnode, rfl⟩
  | split direction ratio first second ih₁ ih₂ =>
    cases t with
    | pane id => exact hr.elim
    | split d r first' second' =>
      obtain ⟨hd, hratio, hfirst, hsecond⟩ := hr
      obtain ⟨described₁, he₁, hsame₁⟩ :=
        ih₁ (fun id hid => hids id (List.mem_append_left _ hid)) hfirst
      obtain ⟨described₂, he₂, hsame₂⟩ :=
        ih₂ (fun id hid => hids id (List.mem_append_right _ hid)) hsecond
      refine ⟨.split direction (.finite r) described₁ described₂, ?_, ?_⟩
      · unfold LayoutState.layoutNodeDescription
        rw [he₁, he₂, hd, SplitDirection.ofDirection_toDirection]
        rfl
      · rw [LayoutNode.anonymous, LayoutNode.applied, hsame₁, hsame₂, hratio]

lemma LayoutState.layoutDescription_of_realizes (h : st.ws.Consistent) {idx : Nat}
    (ht : st.ws.tabs[idx]? = some tab) {node : LayoutNode}
    (hr : Realizes (st.paneTerminal tab) node tab.layout.root) :
    ∃ layout, st.layoutDescription cwd idx = some layout ∧
      layout.root.anonymous = node.applied := by
  have htab := List.mem_of_getElem? ht
  have hv := h.tabs_valid tab htab
  have hids : ∀ id ∈ tab.layout.root.collectIds, id ∈ tab.panes := fun id hid =>
    (hv.layout_panes id).mp hid
  obtain ⟨described, he, hsame⟩ :=
    LayoutState.layoutNodeDescription_of_realizes cwd h htab hids hr
  have hfocus : tab.layout.focus ∈ st.ws.publicPaneNumbers :=
    (h.public_iff _).mpr (mem_paneIds.mpr ⟨tab, htab, hids _ hv.focus_mem⟩)
  obtain ⟨number, hnumber⟩ := Option.isSome_iff_exists.mp (AList.lookup_isSome.mpr hfocus)
  have hid : st.publicPaneId tab.layout.focus = some (publicPaneIdForNumber st.ws.id number) := by
    rw [LayoutState.publicPaneId, Workspace.publicPaneNumber, hnumber, Option.map_some]
  have hlayout : st.layoutDescription cwd idx = some {
      workspaceId := st.ws.id
      tabId := publicTabIdForNumber st.ws.id tab.number
      zoomed := tab.zoomed
      focusedPaneId := publicPaneIdForNumber st.ws.id number
      root := described } := by
    unfold LayoutState.layoutDescription
    simp only [ht, hid, he, Option.bind_eq_bind, Option.bind_some]
  exact ⟨_, hlayout, hsame⟩

/-! ### The tab that is left -/

lemma Tab.terminalId_markSeen (tab : Tab) (id : PaneId) :
    tab.markSeen.terminalId id = tab.terminalId id := by
  unfold Tab.terminalId Tab.markSeen
  dsimp only
  rw [Table.lookup_map, Option.map_map]
  rfl

/-- A new tab of `st'` has the tree that `root` asks for, and `layout` is its export. -/
def Applied (start st' : LayoutState) (root : LayoutNode) (layout : LayoutDescription) : Prop :=
  ∃ idx tab, st'.ws.AssertInvariants ∧ st'.ws.tabs[idx]? = some tab ∧
    (∀ id ∈ tab.panes, id ∉ paneIds start.ws.tabs) ∧
    Realizes (st'.paneTerminal tab) root tab.layout.root ∧
    st'.layoutDescription cwd idx = some layout ∧ layout.root.anonymous = root.applied

/-- The tab that stands is found, shown where that is asked for, and exported. -/
lemma LayoutState.applied_of_standing {start : LayoutState} {node : LayoutNode}
    (h : st.ws.Consistent) (hrange : st.ws.ActiveInRange) (htab : tab ∈ st.ws.tabs)
    (hnew : ∀ id ∈ tab.panes, id ∉ paneIds start.ws.tabs)
    (hr : Realizes (st.paneTerminal tab) node tab.layout.root) (shown : Bool) :
    ∃ idx st' layout, st.findRoot tab.rootPane = some idx ∧
      (if shown = true then { st with ws := st.ws.switchTab idx } else st) = st' ∧
      st'.layoutDescription cwd idx = some layout ∧ Applied cwd start st' node layout := by
  obtain ⟨idx, ht⟩ := List.mem_iff_getElem?.mp htab
  have hidx := (List.getElem?_eq_some_iff.mp ht).1
  have hfind := findRoot_eq h ht
  cases shown with
  | false =>
    obtain ⟨layout, hlayout, hsame⟩ := layoutDescription_of_realizes cwd h ht hr
    exact ⟨idx, st, layout, hfind, rfl, hlayout, idx, tab, ⟨h, List.ne_nil_of_mem htab⟩, ht, hnew,
      hr, hlayout, hsame⟩
  | true =>
    obtain ⟨⟨before, after, rest, c⟩, hrange'⟩ := Changes.switchTab h hrange idx
    obtain ⟨st', hst'⟩ : ∃ st' : LayoutState, { st with ws := st.ws.switchTab idx } = st' :=
      ⟨_, rfl⟩
    have hws : st'.ws = st.ws.switchTab idx := by rw [← hst']
    have h' : st'.ws.Consistent := hws ▸ c.consistent h hrange'.lt
    have ht' : st'.ws.tabs[idx]? = some tab.markSeen := by
      rw [hws, Workspace.switchTab, if_pos hidx]
      dsimp only
      rw [List.getElem?_modify_eq, ht]
      rfl
    have hr' : Realizes (st'.paneTerminal tab.markSeen) node tab.markSeen.layout.root := by
      refine hr.congr fun id _ => ?_
      unfold LayoutState.paneTerminal
      rw [Tab.terminalId_markSeen, ← hst']
    have hnew' : ∀ id ∈ tab.markSeen.panes, id ∉ paneIds start.ws.tabs := fun id hid =>
      hnew id ((Table.mem_map _ _ id).mp hid)
    obtain ⟨layout, hlayout, hsame⟩ := layoutDescription_of_realizes cwd h' ht' hr'
    exact ⟨idx, st', layout, hfind, hst', hlayout, idx, tab.markSeen,
      ⟨h', List.ne_nil_of_mem (List.mem_of_getElem? ht')⟩, ht', hnew', hr', hlayout, hsame⟩

variable {spawns : Spawns} {start : LayoutState}

/-- What follows once the tree stands succeeds. -/
lemma Building.finish (b : Building spawns start st tab)
    (params : LayoutApplyParams) {replaceTarget : Option ReplaceTarget}
    (htarget : ∀ target ∈ replaceTarget, target.tabIdx < start.ws.tabs.length)
    (hr : Realizes (st.paneTerminal tab) params.root tab.layout.root) :
    ∃ st' layout, st.finishLayoutApply cwd params replaceTarget (spawns start.spawned).1 =
      (st', .ok layout) ∧ Applied cwd start st' params.root layout := by
  have hnew : ∀ id ∈ tab.panes, id ∉ paneIds start.ws.tabs := by
    have hnodup := b.consistent.panes_nodup
    rw [b.tabs, paneIds_append, List.nodup_append, paneIds_singleton] at hnodup
    exact fun id hin hold => hnodup.2.2 id hold id (AList.mem_keys.mp hin) rfl
  unfold LayoutState.finishLayoutApply
  rw [← b.root]
  cases replaceTarget with
  | none =>
    obtain ⟨idx, st', layout, hfind, hshown, hlayout, happlied⟩ :=
      LayoutState.applied_of_standing cwd b.consistent b.activeInRange b.mem_tabs hnew hr
        (params.focus || (none : Option ReplaceTarget).any ReplaceTarget.wasActive)
    dsimp only
    rw [hfind]
    dsimp only
    rw [hshown, hlayout]
    exact ⟨st', layout, rfl, happlied⟩
  | some target =>
    have hidx : target.tabIdx < start.ws.tabs.length := htarget target rfl
    have hlength : st.ws.tabs.length = start.ws.tabs.length + 1 := by
      rw [b.tabs, List.length_append, List.length_singleton]
    obtain ⟨old, hold⟩ : ∃ old, st.ws.tabs[target.tabIdx]? = some old :=
      ⟨_, List.getElem?_eq_getElem (by omega)⟩
    obtain ⟨-, htabs, -⟩ := Workspace.closeTab_spec hold (by omega)
    obtain ⟨hws, hlookup⟩ := LayoutState.closeLayoutTab_spec hold (by omega)
    have herase : st.ws.tabs.eraseIdx target.tabIdx =
        start.ws.tabs.eraseIdx target.tabIdx ++ [tab] := by
      rw [b.tabs, List.eraseIdx_append_of_lt_length hidx]
    have hmem : tab ∈ st.ws.tabs.eraseIdx target.tabIdx := by
      rw [herase]
      exact List.mem_append_right _ (List.mem_singleton.mpr rfl)
    obtain ⟨⟨before, after, rest, c⟩, hrange'⟩ :=
      Changes.closeTab b.consistent b.activeInRange target.tabIdx
    have hr' : Realizes ((st.closeLayoutTab target.tabIdx).paneTerminal tab) params.root
        tab.layout.root := by
      refine hr.congr fun id hid => ?_
      obtain ⟨own, hown, hattached⟩ := Tab.mem_terminalsOf ((b.valid.layout_panes id).mp hid)
      unfold LayoutState.paneTerminal
      rw [hown, Option.bind_some, Option.bind_some]
      exact hlookup own (mem_terminalIds.mpr ⟨tab, hmem, hattached⟩)
    have hclosed : (st.closeLayoutTab target.tabIdx).ws.Consistent :=
      hws ▸ c.consistent b.consistent hrange'.lt
    have hmem' : tab ∈ (st.closeLayoutTab target.tabIdx).ws.tabs := by
      rw [hws, htabs]
      exact hmem
    obtain ⟨idx, st', layout, hfind, hshown, hlayout, happlied⟩ :=
      LayoutState.applied_of_standing cwd hclosed (hws ▸ hrange') hmem' hnew hr'
        (params.focus || (some target).any ReplaceTarget.wasActive)
    dsimp only
    rw [hfind]
    dsimp only
    rw [hshown, hlayout]
    exact ⟨st', layout, rfl, happlied⟩

end

/-! ### The request -/

section
variable (cwd : TerminalId → Option String) {spawns : Spawns} {st : LayoutState}
  {params : LayoutApplyParams} {replaceTarget : Option ReplaceTarget}

/-- A valid description is applied where all spawns succeed; where one fails, it is not. -/
lemma LayoutState.handleLayoutApply_cases (h : st.ws.AssertInvariants)
    (hfresh : Fresh spawns (st.spawned + params.root.leafCount) st)
    (hvalid : validateLayoutTree params.root = .ok ())
    (htarget : ∀ target ∈ replaceTarget, target.tabIdx < st.ws.tabs.length) :
    (∃ st' layout, st.handleLayoutApply cwd spawns params replaceTarget = some (st', .ok layout) ∧
      (∀ k, st.spawned ≤ k → k < st.spawned + params.root.leafCount →
        ∃ terminalId, (spawns k).2 = .ok terminalId) ∧
      Applied cwd st st' params.root layout) ∨
    ∃ st' message k, st.handleLayoutApply cwd spawns params replaceTarget =
        some (st', .error ("layout_apply_failed", message)) ∧
      st.spawned ≤ k ∧ k < st.spawned + params.root.leafCount ∧ (spawns k).2 = .error message ∧
      SameToClients st st' := by
  have hlaunch := LayoutNode.launchable_of_validateLayoutTree hvalid
  have hpos : 0 < params.root.leafCount := LayoutNode.leafCount_pos
  obtain ⟨hcommand, env, henv⟩ := hlaunch.leaf
  unfold LayoutState.handleLayoutApply
  rw [hvalid]
  dsimp only
  rw [henv, hcommand]
  simp only [Option.bind_eq_bind]
  cases hspawn : (spawns st.spawned).2 with
  | error message =>
    have houtcome : (Except.error message : Except String TerminalId).toOption = none := rfl
    rw [houtcome, Workspace.createTab_failed h, Option.bind_some]
    exact .inr ⟨_, message, st.spawned, rfl, le_rfl, by omega, hspawn,
      ⟨rfl, rfl, rfl, fun _ => rfl, fun _ _ => rfl⟩⟩
  | ok terminalId =>
    have houtcome : (Except.ok terminalId : Except String TerminalId).toOption = some terminalId :=
      rfl
    rw [houtcome, Workspace.createTab_spawned h, Option.bind_some]
    dsimp only
    rw [Workspace.withTab_rename]
    generalize params.tabLabel.or (replaceTarget.bind fun target =>
      st.ws.tabs[target.tabIdx]?.bind Tab.customName) = label
    obtain ⟨st₁, tab₁, he₁, b₁, hspawned, hroot, hpane, hterminal⟩ :=
      Building.create_labelled h hfresh (by omega) hspawn label (firstLayoutLeaf params.root)
    rw [he₁]
    rcases b₁.applyLayoutNodeToPane_cases hfresh (by omega) hroot hlaunch hterminal with
      ⟨st', tab', t, he, b', hbuilt⟩ | ⟨st', tab', message, k, he, b', hle, hlt, hk⟩
    · rw [he, Option.bind_some]
      have hwhole : tab'.layout.root = t := by
        rw [hbuilt.root, hpane]
        exact if_pos rfl
      have hcount := hbuilt.count
      obtain ⟨final, layout, hfinish, happlied⟩ :=
        b'.finish cwd params htarget (hwhole ▸ hbuilt.realizes)
      dsimp only
      rw [hfinish]
      refine .inl ⟨final, layout, rfl, fun k hle hlt => ?_, happlied⟩
      by_cases hstart : k = st.spawned
      · exact ⟨terminalId, hstart ▸ hspawn⟩
      · exact hbuilt.spawned_ok k (by omega) (by omega)
    · rw [he, Option.bind_some]
      exact .inr ⟨_, message, k, rfl, by omega, by omega, hk, b'.rollback h⟩

/-- A valid description is applied unless a spawn fails. Then the new tab has the tree that is asked
for; its export is valid, and applying it gives the same tree once more. Where a spawn fails, clients
see what they saw before. -/
theorem LayoutState.handleLayoutApply_spec (h : st.ws.AssertInvariants)
    (hfresh : Fresh spawns (st.spawned + params.root.leafCount) st)
    (hvalid : validateLayoutTree params.root = .ok ())
    (htarget : ∀ target ∈ replaceTarget, target.tabIdx < st.ws.tabs.length) :
    ∃ st' result, st.handleLayoutApply cwd spawns params replaceTarget = some (st', result) ∧
      ((∀ k, st.spawned ≤ k → k < st.spawned + params.root.leafCount →
        ∃ terminalId, (spawns k).2 = .ok terminalId) → ∃ layout, result = .ok layout) ∧
      (∀ k message, st.spawned ≤ k → k < st.spawned + params.root.leafCount →
        (spawns k).2 = .error message →
          SameToClients st st' ∧ ∃ reported, result = .error ("layout_apply_failed", reported)) ∧
      ∀ layout, result = .ok layout →
        Applied cwd st st' params.root layout ∧ validateLayoutTree layout.root = .ok () ∧
        ∀ (cwd' : TerminalId → Option String) (spawns' : Spawns) (again : LayoutState)
          (params' : LayoutApplyParams) (replaceTarget' : Option ReplaceTarget) (final : LayoutState)
          (layout' : LayoutDescription), again.ws.AssertInvariants →
          Fresh spawns' (again.spawned + params'.root.leafCount) again →
          (∀ target ∈ replaceTarget', target.tabIdx < again.ws.tabs.length) →
          params'.root = layout.root →
          again.handleLayoutApply cwd' spawns' params' replaceTarget' = some (final, .ok layout') →
          Applied cwd' again final layout.root layout' ∧
          layout'.root.anonymous = layout.root.anonymous := by
  rcases handleLayoutApply_cases cwd h hfresh hvalid htarget with
    ⟨st', layout, he, hspawned, happlied⟩ | ⟨st', message, k, he, hle, hlt, hk, hsame⟩
  · refine ⟨st', _, he, fun _ => ⟨layout, rfl⟩, fun k message hle hlt hk => ?_, ?_⟩
    · obtain ⟨terminalId, hok⟩ := hspawned k hle hlt
      rw [hok] at hk
      cases hk
    · intro layout₁ hlayout
      cases hlayout
      have hexport : layout.root.anonymous = params.root.applied := by
        obtain ⟨idx, tab, -, -, -, -, -, hsame⟩ := happlied
        exact hsame
      have hvalid' := LayoutNode.validateLayoutTree_of_applied hexport hvalid
      refine ⟨happlied, hvalid', ?_⟩
      intro cwd' spawns' again params' replaceTarget' final layout' h' hfresh' htarget' hroot' he'
      rw [← hroot'] at hvalid'
      rcases handleLayoutApply_cases cwd' h' hfresh' hvalid' htarget' with
        ⟨final', layout₂, he₂, -, happlied'⟩ | ⟨final', message, k, he₂, -⟩
      · rw [he', Option.some.injEq, Prod.mk.injEq, Except.ok.injEq] at he₂
        obtain ⟨rfl, rfl⟩ := he₂
        rw [hroot'] at happlied'
        refine ⟨happlied', ?_⟩
        obtain ⟨idx, tab, -, -, -, -, -, hsame'⟩ := happlied'
        rw [hsame', LayoutNode.applied_of_applied hexport, hexport]
      · rw [he'] at he₂
        cases he₂
  · refine ⟨st', _, he, fun hall => ?_, fun _ _ _ _ _ => ⟨hsame, message, rfl⟩, ?_⟩
    · obtain ⟨terminalId, hok⟩ := hall k hle hlt
      rw [hok] at hk
      cases hk
    · intro layout hlayout
      cases hlayout

/-- Two panes of which the second one starts a program. -/
def twoPanes : LayoutNode :=
  .split .right (.finite 2) (.pane ⟨none, some " a ", none, none, []⟩)
    (.pane ⟨none, none, none, some ["top"], []⟩)

def twoSpawns : Spawns := fun k => (⟨UInt32.ofNat k⟩, .ok ⟨if k = 3 then "t3" else "t4"⟩)

/-- Beside the two tabs of a workspace, two panes are applied at a ratio that is out of range. -/
theorem LayoutState.handleLayoutApply_spec_twoPanes :
    ∃ st' layout, (LayoutState.mk twoTabs ∅ 3).handleLayoutApply (fun _ => none) twoSpawns
        ⟨none, false, twoPanes⟩ none = some (st', .ok layout) ∧
      layout.root.anonymous = .split .right (.finite (9 / 10))
        (.pane ⟨none, some "a", none, none, []⟩) (.pane ⟨none, none, none, some ["top"], []⟩) := by
  have hfresh : Fresh twoSpawns (3 + twoPanes.leafCount) ⟨twoTabs, ∅, 3⟩ := by
    have hbetween : ∀ k, 3 ≤ k → k < 3 + twoPanes.leafCount → k = 3 ∨ k = 4 := by
      intro k hle hlt
      have hcount : twoPanes.leafCount = 2 := rfl
      omega
    constructor
    · intro j k hj hj' hk hk' heq
      rcases hbetween j hj hj' with rfl | rfl <;> rcases hbetween k hk hk' with rfl | rfl <;>
        first | rfl | exact absurd heq (by decide)
    · intro k hk hk'
      rcases hbetween k hk hk' with rfl | rfl <;> decide
    · intro j k terminalId hj hj' hk hk' hterminal hterminal'
      rcases hbetween j hj hj' with rfl | rfl <;> rcases hbetween k hk hk' with rfl | rfl <;>
        first | rfl | exact absurd (hterminal.trans hterminal'.symm) (by decide)
    · intro k terminalId hk hk' hterminal
      rcases hbetween k hk hk' with rfl | rfl <;> cases hterminal <;> decide
  have hvalid : validateLayoutTree twoPanes = .ok () := by
    simp [validateLayoutTree, validateLayoutNode, LayoutNode.normalizeLaunchEnv_nil, layoutCommand,
      twoPanes, F32.isFinite, maxLayoutDepth, maxLayoutPanes]
  obtain ⟨st', result, he, hok, -, happlied⟩ :=
    @LayoutState.handleLayoutApply_spec (fun _ => none) twoSpawns ⟨twoTabs, ∅, 3⟩
      ⟨none, false, twoPanes⟩ none twoTabs_assertInvariants hfresh hvalid fun _ h => by cases h
  obtain ⟨layout, rfl⟩ := hok fun k _ _ => ⟨_, rfl⟩
  obtain ⟨⟨idx, tab, -, -, -, -, -, hsame⟩, -, -⟩ := happlied layout rfl
  refine ⟨st', layout, he, hsame.trans ?_⟩
  decide +kernel

end

end Ork3.Workspaces
