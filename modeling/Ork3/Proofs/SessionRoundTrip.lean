import Ork3.Proofs.RestoredWorkspaces
import Ork3.Proofs.TabEdits
import Ork3.Proofs.Workspace

namespace Ork3.Persist

open Ork3.Library Ork3.Layout Ork3.Terminal Ork3.Workspaces

/-! ### What a restored session has in common with the captured one -/

/-- The tree with its panes renamed. -/
def renameNode (f : PaneId → PaneId) : Node → Node
  | .pane id => .pane (f id)
  | .split direction ratio first second =>
    .split direction ratio (renameNode f first) (renameNode f second)

/-- `tab'` is `tab` with its panes renamed by `f`. -/
structure TabReproduced (f : PaneId → PaneId) (tab tab' : Tab) : Prop where
  customName : tab'.customName = tab.customName
  number : tab'.number = tab.number
  root : tab'.layout.root = renameNode f tab.layout.root
  focus : tab'.layout.focus = f tab.layout.focus
  rootPane : tab'.rootPane = f tab.rootPane
  zoomed : tab'.zoomed = tab.zoomed
  panes : ∀ id', id' ∈ tab'.panes ↔ ∃ id ∈ tab.panes, f id = id'

structure WorkspaceReproduced (f : PaneId → PaneId) (ws ws' : Workspace) : Prop where
  id : ws'.id = ws.id
  customName : ws'.customName = ws.customName
  tabs : List.Forall₂ (TabReproduced f) ws.tabs ws'.tabs
  activeTab : ws'.activeTab = ws.activeTab
  publicPaneNumbers : ∀ id ∈ ws.publicPaneNumbers,
    ws'.publicPaneNumbers.lookup (f id) = ws.publicPaneNumbers.lookup id
  publicPanes : ∀ id', id' ∈ ws'.publicPaneNumbers ↔ ∃ id ∈ ws.publicPaneNumbers, f id = id'
  nextPublicPaneNumber : ws'.nextPublicPaneNumber = ws.nextPublicPaneNumber
  nextPublicTabNumber : ws'.nextPublicTabNumber = ws.nextPublicTabNumber

/-- The panes in the layouts of the given tabs. -/
def layoutIds (tabs : List Tab) : List PaneId :=
  tabs.flatMap fun tab => tab.layout.paneIds

lemma mem_layoutIds {tabs : List Tab} (h : ∀ tab ∈ tabs, tab.Valid) (id : PaneId) :
    id ∈ layoutIds tabs ↔ id ∈ paneIds tabs := by
  rw [layoutIds, paneIds, List.mem_flatMap, List.mem_flatMap]
  constructor
  · rintro ⟨tab, htab, hid⟩
    exact ⟨tab, htab, AList.mem_keys.mp (((h tab htab).layout_panes id).mp hid)⟩
  · rintro ⟨tab, htab, hid⟩
    exact ⟨tab, htab, ((h tab htab).layout_panes id).mpr (AList.mem_keys.mpr hid)⟩

/-! ### Captured trees -/

lemma paneIds_captureNode (node : Node) :
    (captureNode node).paneIds = node.collectIds.map PaneId.raw := by
  induction node with
  | pane id => rfl
  | split direction ratio first second ih₁ ih₂ =>
    rw [captureNode, LayoutSnapshot.paneIds, ih₁, ih₂, Node.collectIds, List.map_append]

lemma restoreDirection_captureDirection (direction : Direction) :
    restoreDirection (captureDirection direction) = direction := by
  cases direction <;> rfl

lemma collectIds_renameNode (f : PaneId → PaneId) (node : Node) :
    (renameNode f node).collectIds = node.collectIds.map f := by
  induction node with
  | pane id => rfl
  | split direction ratio first second ih₁ ih₂ =>
    rw [renameNode, Node.collectIds, ih₁, ih₂, Node.collectIds, List.map_append]

/-- A tree that is captured and restored is the tree with its panes renamed. -/
lemma remapInner_captureNode {f : PaneId → PaneId} {node : Node} {next : UInt32}
    (hf : freshIds next node.collectIds.length = node.collectIds.map f)
    (idMap : Table UInt32 PaneId) :
    (remapInner (captureNode node) next idMap).1 = renameNode f node := by
  induction node generalizing next idMap with
  | pane id =>
    simp only [freshIds, Node.collectIds, List.length_singleton, List.range_one, List.map_cons,
      List.map_nil, List.cons.injEq, and_true] at hf
    rw [captureNode, remapInner, renameNode, ← hf]
    simp
  | split direction ratio first second ih₁ ih₂ =>
    rw [Node.collectIds, List.length_append, freshIds_add, List.map_append] at hf
    obtain ⟨hf₁, hf₂⟩ := List.append_inj hf (by simp)
    have hnext := (remapInner_spec (captureNode first) next idMap).2.1
    rw [paneIds_captureNode, List.length_map] at hnext
    simp only [captureNode, remapInner, renameNode, restoreDirection_captureDirection, ih₁ hf₁]
    rw [← hnext] at hf₂
    rw [ih₂ hf₂]

lemma pruneRestoredNode_of_forall {surviving : PaneId → Bool} {node : Node}
    (h : ∀ id ∈ node.collectIds, surviving id = true) :
    pruneRestoredNode surviving node = some node := by
  induction node with
  | pane id => rw [pruneRestoredNode, if_pos (h id (by simp [Node.collectIds]))]
  | split direction ratio first second ih₁ ih₂ =>
    rw [pruneRestoredNode, ih₁ fun id hid => h id (by simp [Node.collectIds, hid]),
      ih₂ fun id hid => h id (by simp [Node.collectIds, hid])]

section
variable {ctx : RestoreContext} (hspawns : ∀ id, ctx.spawns id = true)
include hspawns

/-! ### Panes -/

lemma comesUp_of_spawns (snap : TabSnapshot) (reverse : Table PaneId UInt32)
    (state : RestoreState) (id : PaneId) : ComesUp ctx snap reverse state id = true := by
  have hstart : ∀ oldId session, (startPane ctx id oldId session state).1 ≠ .failed := by
    intro oldId session
    unfold startPane
    dsimp only
    split
    · exact PaneStart.noConfusion
    · rw [if_pos (hspawns id)]
      exact PaneStart.noConfusion
  unfold ComesUp
  split
  · rename_i heq
    exact absurd heq (hstart _ _)
  · rfl

lemma panesUp_of_spawns (snap : TabSnapshot) (reverse : Table PaneId UInt32)
    (state : RestoreState) (ids : List PaneId) : panesUp ctx snap reverse state ids = ids := by
  induction ids generalizing state with
  | nil => rfl
  | cons id ids ih =>
    simp only [panesUp, comesUp_of_spawns hspawns snap reverse state id, if_true, ih]

lemma tabPanesUp_of_spawns (snap : TabSnapshot) (state : RestoreState) :
    tabPanesUp ctx snap state = freshIds state.nextPaneId snap.layout.paneIds.length := by
  rw [← collectIds_restoreNodeRemapped]
  exact panesUp_of_spawns hspawns _ _ _ _

end

/-! ### Saved ids -/

lemma lookup_reverseIdMap {idMap : Table UInt32 PaneId}
    (hinj : ∀ k k' id, idMap.lookup k = some id → idMap.lookup k' = some id → k = k')
    {k : UInt32} {id : PaneId} (h : idMap.lookup k = some id) :
    (reverseIdMap idMap).lookup id = some k := by
  have hmem : ∀ {e : Sigma fun _ : UInt32 => PaneId}, e ∈ idMap.entries →
      idMap.lookup e.1 = some e.2 := fun he => AList.mem_lookup_iff.mpr he
  rw [reverseIdMap, Table.lookup_collect]
  · exact List.mem_map.mpr ⟨⟨k, id⟩, AList.mem_lookup_iff.mp h, rfl⟩
  · rw [List.map_map]
    apply List.Nodup.map_on
    · intro e he e' he' heq
      have hkey := hinj e.1 e'.1 e.2 (hmem he) (by
        rw [show e.2 = e'.2 from heq]
        exact hmem he')
      exact Sigma.ext hkey (heq_of_eq heq)
    · exact idMap.nodupKeys.nodup

section
variable {f : PaneId → PaneId} {node : Node} {next : UInt32}
  (hnodup : node.collectIds.Nodup)
  (hf : freshIds next node.collectIds.length = node.collectIds.map f)
include hf

lemma renaming_injOn (hcount : node.collectIds.length ≤ 2 ^ 32) {id id' : PaneId}
    (hid : id ∈ node.collectIds) (hid' : id' ∈ node.collectIds) (heq : f id = f id') :
    id = id' := by
  have hmap : (node.collectIds.map f).Nodup := hf ▸ nodup_freshIds _ hcount
  exact List.inj_on_of_nodup_map hmap hid hid' heq

include hnodup

lemma lookup_idMap_captureNode {k : UInt32} {id' : PaneId} :
    (restoreNodeRemapped (captureNode node) next).2.2.lookup k = some id' ↔
      ∃ id ∈ node.collectIds, id.raw = k ∧ f id = id' := by
  rw [idMap_restoreNodeRemapped, paneIds_captureNode, List.length_map, hf, List.zip_map',
    Table.lookup_collect, List.mem_map]
  · simp only [Prod.mk.injEq]
  · rw [List.map_map]
    apply hnodup.map
    intro id id' heq
    cases id
    cases id'
    exact congrArg PaneId.mk heq

lemma savedKey_captureNode (hcount : node.collectIds.length ≤ 2 ^ 32) {id : PaneId}
    (hid : id ∈ node.collectIds) : savedKey (captureNode node) next (f id) = id.raw := by
  rw [savedKey, lookup_reverseIdMap (k := id.raw), Option.getD_some]
  · intro k k' id' hk hk'
    obtain ⟨a, ha, rfl, rfl⟩ := (lookup_idMap_captureNode hnodup hf).mp hk
    obtain ⟨b, hb, rfl, heq⟩ := (lookup_idMap_captureNode hnodup hf).mp hk'
    rw [renaming_injOn hf hcount hb ha heq]
  · exact (lookup_idMap_captureNode hnodup hf).mpr ⟨id, hid, rfl, rfl⟩

/-- A saved pane is resolved to its new id. -/
lemma resolveRestoredPane_captureNode {id : PaneId} (hid : id ∈ node.collectIds)
    (surviving : PaneId → Bool) (hsurviving : surviving (f id) = true) (paneIds : List PaneId) :
    resolveRestoredPane (some id.raw) (restoreNodeRemapped (captureNode node) next).2.2 surviving
      paneIds = some (f id) := by
  have hlookup := (lookup_idMap_captureNode hnodup hf).mpr ⟨id, hid, rfl, rfl⟩
  rw [resolveRestoredPane, Option.bind_some, hlookup, Option.filter_some_pos hsurviving]
  rfl

end

/-! ### Tabs -/

/-- A tab that is captured and restored is reproduced. -/
lemma RestoresTab.reproduced {ctx : RestoreContext} (hspawns : ∀ id, ctx.spawns id = true)
    {terminals : Table TerminalId LabelledTerminal} {tab : Tab} (hvalid : tab.Valid)
    {state : RestoreState} {f : PaneId → PaneId}
    (hf : freshIds state.nextPaneId tab.layout.paneIds.length = tab.layout.paneIds.map f)
    {restored : RestoredTab}
    (h : RestoresTab ctx (captureTab terminals tab) tab.number state restored) :
    TabReproduced f tab restored.tab := by
  have hup : tabPanesUp ctx (captureTab terminals tab) state = tab.layout.paneIds.map f := by
    rw [tabPanesUp_of_spawns hspawns]
    show freshIds state.nextPaneId (captureNode tab.layout.root).paneIds.length = _
    rw [paneIds_captureNode, List.length_map]
    exact hf
  have hlive : ∀ id ∈ tab.layout.paneIds, decide (f id ∈ tab.layout.paneIds.map f) = true := by
    intro id hid
    exact decide_eq_true (List.mem_map_of_mem hid)
  have hroot := h.root
  have hfocus := h.focus
  have hrootPane := h.rootPane
  rw [hup] at hroot hfocus hrootPane
  constructor
  case customName => exact h.customName
  case number => exact h.number
  case root =>
    have htree : (restoreNodeRemapped (captureTab terminals tab).layout state.nextPaneId).1 =
        renameNode f tab.layout.root := remapInner_captureNode hf ∅
    rw [htree, pruneRestoredNode_of_forall, Option.some.injEq] at hroot
    · exact hroot.symm
    · intro id hid
      rw [collectIds_renameNode] at hid
      exact decide_eq_true hid
  case focus =>
    have hresolved := resolveRestoredPane_captureNode hvalid.layout_nodup hf hvalid.focus_mem
      (fun id => decide (id ∈ tab.layout.paneIds.map f)) (hlive _ hvalid.focus_mem) (tab.layout.paneIds.map f)
    exact Option.some.inj (hfocus.symm.trans hresolved)
  case rootPane =>
    have hmem := (hvalid.layout_panes _).mpr hvalid.root_mem
    have hresolved := resolveRestoredPane_captureNode hvalid.layout_nodup hf hmem
      (fun id => decide (id ∈ tab.layout.paneIds.map f)) (hlive _ hmem) (tab.layout.paneIds.map f)
    exact Option.some.inj (hrootPane.symm.trans hresolved)
  case zoomed => exact h.zoomed
  case panes =>
    intro id'
    rw [h.mem_panes_iff, hup, List.mem_map]
    simp only [hvalid.layout_panes]

/-! ### Captured workspaces -/

lemma raw_injective : Function.Injective PaneId.raw := by
  intro id id' h
  cases id
  cases id'
  exact congrArg PaneId.mk h

section
variable (terminals : Table TerminalId LabelledTerminal)

lemma countPanes_captureTab (tabs : List Tab) :
    countPanes (tabs.map (captureTab terminals)) = (layoutIds tabs).length := by
  induction tabs with
  | nil => rfl
  | cons tab tabs ih =>
    have htab : (captureTab terminals tab).layout.paneIds.length = tab.layout.paneIds.length := by
      show (captureNode tab.layout.root).paneIds.length = _
      rw [paneIds_captureNode, List.length_map]
      rfl
    have hcons : layoutIds (tab :: tabs) = tab.layout.paneIds ++ layoutIds tabs := rfl
    rw [List.map_cons, countPanes_cons, ih, htab, hcons, List.length_append]

lemma lookup_capturedNumbers (ws : Workspace) (id : PaneId) :
    (captureWorkspace terminals ws).publicPaneNumbers.lookup id.raw =
      ws.publicPaneNumbers.lookup id := by
  have hkeys : ((ws.publicPaneNumbers.entries.map fun e => (e.1.raw, e.2)).map Prod.fst).Nodup := by
    have hmap : (ws.publicPaneNumbers.entries.map fun e => (e.1.raw, e.2)).map Prod.fst =
        ws.publicPaneNumbers.keys.map PaneId.raw := by
      rw [AList.keys, List.keys, List.map_map, List.map_map]
      rfl
    rw [hmap]
    exact ws.publicPaneNumbers.keys_nodup.map raw_injective
  ext n
  have hentry : ws.publicPaneNumbers.lookup id = some n ↔
      ⟨id, n⟩ ∈ ws.publicPaneNumbers.entries := AList.mem_lookup_iff
  show (Table.collect _).lookup id.raw = some n ↔ _
  rw [Table.lookup_collect hkeys, List.mem_map, hentry]
  constructor
  · rintro ⟨⟨id', n'⟩, he, heq⟩
    rw [Prod.mk.injEq] at heq
    obtain ⟨hraw, rfl⟩ := heq
    rw [← raw_injective hraw]
    exact he
  · intro he
    exact ⟨⟨id, n⟩, he, rfl⟩

lemma mem_capturedNumbers (ws : Workspace) (k : UInt32) :
    k ∈ (captureWorkspace terminals ws).publicPaneNumbers ↔ ∃ id ∈ ws.publicPaneNumbers, id.raw = k := by
  have hlookup := lookup_capturedNumbers terminals ws ⟨k⟩
  rw [← AList.lookup_isSome, hlookup, AList.lookup_isSome]
  constructor
  · intro h
    exact ⟨⟨k⟩, h, rfl⟩
  · rintro ⟨id, h, rfl⟩
    exact h

/-- With numbers for all panes there is nothing to migrate. -/
lemma migrated_of_known {snap : WorkspaceSnapshot}
    (h : ∀ k ∈ snap.tabs.flatMap fun tab => tab.layout.paneIds, k ∈ snap.publicPaneNumbers) :
    snap.migrated = (snap.publicPaneNumbers, snap.firstNumber) := by
  unfold WorkspaceSnapshot.migrated migratedPublicPaneNumbersByOldRaw
  generalize (snap.tabs.flatMap fun tab => tab.layout.paneIds) = ids at h
  induction ids with
  | nil => rfl
  | cons id ids ih =>
    rw [List.foldl_cons]
    dsimp only
    rw [if_pos (h id List.mem_cons_self)]
    exact ih fun k hk => h k (List.mem_cons_of_mem _ hk)

lemma nextPublicNumber_of_lt {saved : List Nat} {next : Nat} (hpos : 0 < next)
    (h : ∀ n ∈ saved, n < next) : nextPublicNumber saved next = next := by
  unfold nextPublicNumber
  apply max_eq_right
  cases hmax : saved.max? with
  | none => exact hpos
  | some m =>
    have hm := h m (List.max?_mem hmax)
    change (checkedSucc m).getD 1 ≤ next
    unfold checkedSucc
    split
    · exact hm
    · exact hpos

/-- The numbers that a workspace saves are below the counter that it saves. -/
lemma firstNumber_capture {ws : Workspace} (hws : ws.AssertInvariants) :
    (captureWorkspace terminals ws).firstNumber = ws.nextPublicPaneNumber := by
  apply nextPublicNumber_of_lt hws.next_pane_pos
  intro n hn
  obtain ⟨e, he, rfl⟩ := List.mem_map.mp hn
  have hlookup := lookup_capturedNumbers terminals ws ⟨e.1⟩
  rw [show (captureWorkspace terminals ws).publicPaneNumbers.lookup e.1 = some e.2 from
    AList.mem_lookup_iff.mpr he] at hlookup
  exact hws.pane_number_lt _ _ hlookup.symm

/-- Every leaf is saved with a number. -/
lemma known_capture {ws : Workspace} (hws : ws.AssertInvariants) :
    ∀ k ∈ (captureWorkspace terminals ws).tabs.flatMap (fun t => t.layout.paneIds),
      k ∈ (captureWorkspace terminals ws).publicPaneNumbers := by
  intro k hk
  obtain ⟨snap, hsnap, hk⟩ := List.mem_flatMap.mp hk
  obtain ⟨tab, htab, rfl⟩ := List.mem_map.mp hsnap
  replace hk : k ∈ (captureNode tab.layout.root).paneIds := hk
  rw [paneIds_captureNode] at hk
  obtain ⟨id, hid, rfl⟩ := List.mem_map.mp hk
  have hlayout : id ∈ layoutIds ws.tabs := List.mem_flatMap.mpr ⟨tab, htab, hid⟩
  rw [mem_layoutIds hws.tabs_valid, ← hws.public_iff] at hlayout
  rw [mem_capturedNumbers]
  exact ⟨id, hlayout, rfl⟩

/-- Nothing is taken from the counter of a captured workspace. -/
lemma migrates_capture {ws : Workspace} (hws : ws.AssertInvariants) : (captureWorkspace terminals ws).Migrates where
  saved_lt := by
    intro k n hn
    have hlookup := lookup_capturedNumbers terminals ws ⟨k⟩
    rw [hn] at hlookup
    rw [firstNumber_capture terminals hws]
    exact hws.pane_number_lt _ _ hlookup.symm
  room := by
    left
    rw [Finset.card_eq_zero]
    unfold WorkspaceSnapshot.unnumbered
    rw [Finset.filter_eq_empty_iff]
    intro k hk
    rw [List.mem_toFinset] at hk
    exact not_not.mpr (known_capture terminals hws k hk)

variable {ctx : RestoreContext} (hspawns : ∀ id, ctx.spawns id = true)
include hspawns

lemma tabPanesUp_ne_nil (snap : TabSnapshot) (state : RestoreState) :
    tabPanesUp ctx snap state ≠ [] := by
  have hpos : snap.layout.paneIds ≠ [] := by
    generalize snap.layout = layout
    induction layout with
    | pane id => exact List.cons_ne_nil _ _
    | split direction ratio first second ih _ => exact List.append_ne_nil_of_left_ne_nil ih _
  intro h
  have hlen := congrArg List.length h
  rw [tabPanesUp_of_spawns hspawns, length_freshIds] at hlen
  exact hpos (List.length_eq_zero_iff.mp hlen)

/-- Every tab survives. -/
lemma survivingTabsFrom_of_spawns (snap : WorkspaceSnapshot) (state : RestoreState)
    (entries : List (TabSnapshot × Nat)) :
    (survivingTabsFrom ctx snap state entries).map SurvivingTab.idx = entries.map Prod.snd := by
  induction entries generalizing state with
  | nil => rfl
  | cons entry entries ih =>
    obtain ⟨tab, idx⟩ := entry
    simp only [survivingTabsFrom, tabPanesUp_ne_nil hspawns tab state, if_false, List.map_cons, ih]

lemma survivingTabs_of_spawns (snap : WorkspaceSnapshot) (state : RestoreState) :
    (snap.survivingTabs ctx state).map SurvivingTab.idx = List.range snap.tabs.length := by
  rw [WorkspaceSnapshot.survivingTabs, survivingTabsFrom_of_spawns hspawns, List.zipIdx_map_snd,
    List.range_eq_range']

end

/-! ### Restored workspaces -/

lemma layoutIds_take_succ {tabs : List Tab} {i : Nat} {tab : Tab} (h : tabs[i]? = some tab) :
    layoutIds tabs =
      layoutIds (tabs.take i) ++ (tab.layout.paneIds ++ layoutIds (tabs.drop (i + 1))) := by
  obtain ⟨hi, rfl⟩ := List.getElem?_eq_some_iff.mp h
  have hsplit : tabs = tabs.take i ++ tabs[i] :: tabs.drop (i + 1) := by
    rw [← List.drop_eq_getElem_cons hi, List.take_append_drop]
  conv_lhs => rw [hsplit, layoutIds, List.flatMap_append, List.flatMap_cons]
  rfl

section
variable {ctx : RestoreContext} (hspawns : ∀ id, ctx.spawns id = true)
  (terminals : Table TerminalId LabelledTerminal) {ws : Workspace} (hws : ws.AssertInvariants)
  {state : RestoreState} {f : PaneId → PaneId}
  (hf : freshIds state.nextPaneId (layoutIds ws.tabs).length = (layoutIds ws.tabs).map f)
  (hcount : (layoutIds ws.tabs).length ≤ 2 ^ 32)

include hf in
/-- The panes of a tab are given the ids of their new names. -/
lemma freshIds_tab {i : Nat} {tab : Tab} (h : ws.tabs[i]? = some tab) :
    freshIds
      (state.nextPaneId + UInt32.ofNat
        (countPanes ((captureWorkspace terminals ws).tabs.take i)))
      tab.layout.paneIds.length = tab.layout.paneIds.map f := by
  have hbefore : countPanes ((captureWorkspace terminals ws).tabs.take i) =
      (layoutIds (ws.tabs.take i)).length := by
    show countPanes ((ws.tabs.map (captureTab terminals)).take i) = _
    rw [← List.map_take, countPanes_captureTab]
  rw [layoutIds_take_succ h, List.length_append, List.length_append, freshIds_add, freshIds_add,
    List.map_append, List.map_append] at hf
  have hrest := (List.append_inj hf (by simp)).2
  rw [hbefore]
  exact (List.append_inj hrest (by simp)).1

include hspawns

lemma length_survivingTabs :
    ((captureWorkspace terminals ws).survivingTabs ctx state).length = ws.tabs.length := by
  have hidx := congrArg List.length
    (survivingTabs_of_spawns hspawns (captureWorkspace terminals ws) state)
  rw [List.length_map, List.length_range] at hidx
  rw [hidx]
  show (ws.tabs.map _).length = _
  rw [List.length_map]

include hcount

/-- The tab at position `i` survives as such. -/
lemma survivingTab_at {i : Nat} {tab : Tab} (h : ws.tabs[i]? = some tab) :
    ∃ s, ((captureWorkspace terminals ws).survivingTabs ctx state)[i]? = some s ∧ s.idx = i ∧
      s.snap = captureTab terminals tab ∧
      s.state.nextPaneId = state.nextPaneId + UInt32.ofNat
        (countPanes ((captureWorkspace terminals ws).tabs.take i)) := by
  have hidx := survivingTabs_of_spawns hspawns (captureWorkspace terminals ws) state
  have hi : i < (captureWorkspace terminals ws).tabs.length := by
    show i < (ws.tabs.map _).length
    rw [List.length_map]
    exact (List.getElem?_eq_some_iff.mp h).1
  have hget : (((captureWorkspace terminals ws).survivingTabs ctx state).map SurvivingTab.idx)[i]? =
      (List.range (captureWorkspace terminals ws).tabs.length)[i]? := by
    rw [hidx]
  rw [List.getElem?_range hi, List.getElem?_map, Option.map_eq_some_iff] at hget
  obtain ⟨s, hs, hsidx⟩ := hget
  have hpanes : countPanes (captureWorkspace terminals ws).tabs ≤ 2 ^ 32 := by
    show countPanes (ws.tabs.map _) ≤ _
    rw [countPanes_captureTab]
    exact hcount
  obtain ⟨-, hsnap, hnext⟩ := survivingTabs_origin hpanes (List.mem_of_getElem? hs)
  rw [hsidx] at hsnap hnext
  have htab : (captureWorkspace terminals ws).tabs[i]? = some (captureTab terminals tab) := by
    show (ws.tabs.map _)[i]? = _
    rw [List.getElem?_map, h]
    rfl
  exact ⟨s, hs, hsidx, Option.some.inj (hsnap.symm.trans htab), hnext⟩

include hws hf

lemma tabs_reproduced {tabs : List Tab}
    (h : List.Forall₂ (TabRestored ctx (captureWorkspace terminals ws)) tabs
      ((captureWorkspace terminals ws).survivingTabs ctx state)) :
    List.Forall₂ (TabReproduced f) ws.tabs tabs := by
  have hlen : ws.tabs.length = tabs.length := by
    rw [h.length_eq, length_survivingTabs hspawns terminals]
  rw [List.forall₂_iff_get]
  refine ⟨hlen, ?_⟩
  intro i hi hi'
  obtain ⟨s, hs, hidx, hsnap, hnext⟩ := survivingTab_at hspawns terminals hcount
    (List.getElem?_eq_getElem hi)
  obtain ⟨hslen, rfl⟩ := List.getElem?_eq_some_iff.mp hs
  obtain ⟨-, restored, hrestores, htab⟩ := List.Forall₂.get h hi' hslen
  have hnumber : savedTabNumber (captureWorkspace terminals ws) i = ws.tabs[i].number := by
    show ((ws.tabs.map Tab.number)[i]?).getD (i + 1) = _
    rw [List.getElem?_map, List.getElem?_eq_getElem hi]
    rfl
  simp only [List.get_eq_getElem] at hrestores htab ⊢
  rw [hidx, hsnap, hnumber] at hrestores
  rw [← htab]
  apply hrestores.reproduced hspawns (hws.tabs_valid _ (List.getElem_mem hi))
  rw [hnext]
  exact freshIds_tab terminals hf (List.getElem?_eq_getElem hi)

/-- The panes come up under their new names, each with its old id as the key of its number. -/
lemma mem_keyedPanes {p : PaneId × UInt32} :
    p ∈ (captureWorkspace terminals ws).keyedPanes ctx state ↔
      ∃ id ∈ layoutIds ws.tabs, p = (f id, id.raw) := by
  have hkeyed : ∀ {i : Nat} {tab : Tab} {s : SurvivingTab}, ws.tabs[i]? = some tab →
      s.snap = captureTab terminals tab →
      s.state.nextPaneId = state.nextPaneId + UInt32.ofNat
        (countPanes ((captureWorkspace terminals ws).tabs.take i)) →
      s.keyedPanes ctx = tab.layout.paneIds.map fun id => (f id, id.raw) := by
    intro i tab s htab hsnap hnext
    have hfresh := freshIds_tab terminals hf htab
    rw [← hnext] at hfresh
    have hmem := List.mem_of_getElem? htab
    have hle : tab.layout.paneIds.length ≤ 2 ^ 32 := by
      rw [layoutIds_take_succ htab] at hcount
      simp only [List.length_append] at hcount
      omega
    have hlength : s.snap.layout.paneIds.length = tab.layout.paneIds.length := by
      rw [hsnap]
      show (captureNode tab.layout.root).paneIds.length = _
      rw [paneIds_captureNode, List.length_map]
      rfl
    rw [SurvivingTab.keyedPanes, SurvivingTab.panes, tabPanesUp_of_spawns hspawns, hlength, hfresh,
      List.map_map, hsnap]
    apply List.map_congr_left
    intro id hid
    rw [Function.comp_apply]
    exact congrArg (Prod.mk _)
      (savedKey_captureNode (hws.tabs_valid tab hmem).layout_nodup hfresh hle hid)
  rw [WorkspaceSnapshot.keyedPanes, List.mem_flatMap]
  constructor
  · rintro ⟨s, hs, hp⟩
    obtain ⟨i, hi, rfl⟩ := List.mem_iff_getElem.mp hs
    have hi' : i < ws.tabs.length := by
      rw [← length_survivingTabs hspawns terminals]
      exact hi
    have hget := List.getElem?_eq_getElem hi'
    obtain ⟨s, hs', -, hsnap, hnext⟩ := survivingTab_at hspawns terminals hcount hget
    rw [List.getElem?_eq_getElem hi, Option.some.injEq] at hs'
    rw [hs', hkeyed hget hsnap hnext] at hp
    obtain ⟨id, hid, rfl⟩ := List.mem_map.mp hp
    exact ⟨id, List.mem_flatMap.mpr ⟨_, List.getElem_mem hi', hid⟩, rfl⟩
  · rintro ⟨id, hid, rfl⟩
    obtain ⟨tab, htab, hidtab⟩ := List.mem_flatMap.mp hid
    obtain ⟨i, hget⟩ := List.mem_iff_getElem?.mp htab
    obtain ⟨s, hs, -, hsnap, hnext⟩ := survivingTab_at hspawns terminals hcount hget
    refine ⟨s, List.mem_of_getElem? hs, ?_⟩
    rw [hkeyed hget hsnap hnext]
    exact List.mem_map.mpr ⟨id, hidtab, rfl⟩

/-- A captured workspace is restored, and reproduced. -/
lemma restoreWorkspace_captureWorkspace :
    ∃ restored, (restoreWorkspace ctx (captureWorkspace terminals ws) state).1 = some restored ∧
      WorkspaceReproduced f ws restored.workspace ∧
      (restoreWorkspace ctx (captureWorkspace terminals ws) state).2.nextPaneId =
        state.nextPaneId + UInt32.ofNat (layoutIds ws.tabs).length := by
  have hpanes : countPanes (captureWorkspace terminals ws).tabs = (layoutIds ws.tabs).length :=
    countPanes_captureTab terminals ws.tabs
  obtain ⟨r, hr, hrestore⟩ := restoreWorkspace_spec ctx (captureWorkspace terminals ws) state
    (by rw [hpanes]; exact hcount)
  have hlength : ((captureWorkspace terminals ws).survivingTabs ctx state).length =
      ws.tabs.length := length_survivingTabs hspawns terminals
  have hpos := List.length_pos_of_ne_nil hws.tabs_ne_nil
  have hsurvive : (captureWorkspace terminals ws).survivingTabs ctx state ≠ [] := by
    apply List.ne_nil_of_length_pos
    omega
  rw [hrestore, if_neg hsurvive]
  refine ⟨_, rfl, ?_, by rw [← hpanes]; exact hr.nextPaneId⟩
  have htabs := tabs_reproduced hspawns terminals hws hf hcount hr.tabs
  have hkeyed : ∀ {p : PaneId × UInt32},
      p ∈ (captureWorkspace terminals ws).keyedPanes ctx state ↔
        ∃ id ∈ layoutIds ws.tabs, p = (f id, id.raw) :=
    mem_keyedPanes hspawns terminals hws hf hcount
  have hlayout : ∀ id, id ∈ layoutIds ws.tabs ↔ id ∈ ws.publicPaneNumbers := by
    intro id
    rw [hws.public_iff, mem_layoutIds hws.tabs_valid]
  have hfit : (captureWorkspace terminals ws).PanesFit ctx state := by
    have hmigrates := migrates_capture terminals hws
    refine ⟨hmigrates, .inl ?_⟩
    rw [countUnkeyed_eq hmigrates]
    apply List.countP_eq_zero.mpr
    intro p hp
    obtain ⟨id, hid, rfl⟩ := hkeyed.mp hp
    have hsaved : id.raw ∈ (captureWorkspace terminals ws).publicPaneNumbers :=
      (mem_capturedNumbers terminals ws id.raw).mpr ⟨id, (hlayout id).mp hid, rfl⟩
    simp [hsaved]
  constructor
  case id => rfl
  case customName => rfl
  case tabs => exact htabs
  case activeTab =>
    show min ws.activeTab (r.tabs.length - 1) = ws.activeTab
    have hactive := hws.active_lt hws.tabs_ne_nil
    rw [← htabs.length_eq]
    omega
  case publicPaneNumbers =>
    intro id hid
    obtain ⟨n, hn⟩ := Option.isSome_iff_exists.mp (AList.lookup_isSome.mpr hid)
    have hsaved : (captureWorkspace terminals ws).publicPaneNumbers.lookup id.raw = some n := by
      rw [lookup_capturedNumbers, hn]
    rw [hn]
    apply (hr.numbered hfit).own
    rw [mem_numberedBy]
    exact ⟨id.raw, hkeyed.mpr ⟨id, (hlayout id).mpr hid, rfl⟩,
      lookup_migrated_of_saved hfit.migrates hsaved⟩
  case publicPanes =>
    intro id'
    show id' ∈ r.numbers.panes ↔ _
    rw [hr.mem_numbers hfit, paneIds, List.mem_flatMap]
    constructor
    · rintro ⟨tab', htab', hid'⟩
      obtain ⟨tab, htab, hreproduced⟩ := exists_of_forall₂_right htabs htab'
      obtain ⟨id, hid, heq⟩ := (hreproduced.panes id').mp (AList.mem_keys.mpr hid')
      refine ⟨id, (hws.public_iff id).mpr ?_, heq⟩
      exact List.mem_flatMap.mpr ⟨tab, htab, AList.mem_keys.mp hid⟩
    · rintro ⟨id, hid, rfl⟩
      obtain ⟨tab, htab, hidtab⟩ := List.mem_flatMap.mp ((hws.public_iff id).mp hid)
      obtain ⟨tab', htab', hreproduced⟩ := exists_of_forall₂_left htabs htab
      refine ⟨tab', htab', AList.mem_keys.mp ?_⟩
      exact (hreproduced.panes (f id)).mpr ⟨id, AList.mem_keys.mpr hidtab, rfl⟩
  case nextPublicPaneNumber =>
    have hmigrated := migrated_of_known (known_capture terminals hws)
    have hnext : r.numbers.nextPane = (captureWorkspace terminals ws).migrated.2 := by
      apply (hr.numbered hfit).next_eq_base
      intro id' hnone
      obtain ⟨p, hp, heq⟩ := List.mem_map.mp hnone
      obtain ⟨id, hid, rfl⟩ := hkeyed.mp hp
      rw [Prod.mk.injEq, hmigrated] at heq
      have hmem : id ∈ ws.publicPaneNumbers := (hlayout id).mp hid
      rw [lookup_capturedNumbers, AList.lookup_eq_none] at heq
      exact heq.2 hmem
    show r.numbers.nextPane = ws.nextPublicPaneNumber
    rw [hnext, hmigrated]
    exact firstNumber_capture terminals hws
  case nextPublicTabNumber =>
    have hstart : nextPublicNumber (captureWorkspace terminals ws).publicTabNumbers
        (captureWorkspace terminals ws).nextPublicTabNumber = ws.nextPublicTabNumber := by
      apply nextPublicNumber_of_lt hws.next_tab_pos
      intro n hn
      obtain ⟨tab, htab, rfl⟩ := List.mem_map.mp hn
      exact hws.tab_number_lt tab htab
    show r.nextTab = ws.nextPublicTabNumber
    rw [hr.nextTab, hstart]
    apply foldl_max_of_le
    intro m hm
    obtain ⟨s, hs, rfl⟩ := List.mem_map.mp hm
    obtain ⟨tab', htab', hrestored⟩ := exists_of_forall₂_right hr.tabs hs
    obtain ⟨tab, htab, hreproduced⟩ := exists_of_forall₂_right htabs htab'
    rw [← hrestored.number, hreproduced.number]
    exact le_trans (wrappingSucc_le tab.number) (hws.tab_number_lt tab htab)

end

/-! ### Sessions -/

/-- The panes of the given workspaces. -/
def sessionPanes (workspaces : List Workspace) : List PaneId :=
  workspaces.flatMap fun ws => paneIds ws.tabs

/-- What `assert_invariants_for_test` demands of the workspaces of a session. -/
structure SessionInvariants (workspaces : List Workspace) : Prop where
  workspaces_valid : ∀ ws ∈ workspaces, ws.AssertInvariants
  panes_nodup : (sessionPanes workspaces).Nodup

/-- The panes in the layouts of the given workspaces. -/
def sessionLayoutIds (workspaces : List Workspace) : List PaneId :=
  workspaces.flatMap fun ws => layoutIds ws.tabs

section
variable {workspaces : List Workspace}

lemma SessionInvariants.mem_layoutIds (h : SessionInvariants workspaces) (id : PaneId) :
    id ∈ sessionLayoutIds workspaces ↔ id ∈ sessionPanes workspaces := by
  rw [sessionLayoutIds, sessionPanes, List.mem_flatMap, List.mem_flatMap]
  constructor
  · rintro ⟨ws, hws, hid⟩
    exact ⟨ws, hws, (Persist.mem_layoutIds (h.workspaces_valid ws hws).tabs_valid id).mp hid⟩
  · rintro ⟨ws, hws, hid⟩
    exact ⟨ws, hws, (Persist.mem_layoutIds (h.workspaces_valid ws hws).tabs_valid id).mpr hid⟩

lemma layoutIds_perm {tabs : List Tab} (h : ∀ tab ∈ tabs, tab.Valid) :
    (layoutIds tabs).Perm (paneIds tabs) := by
  induction tabs with
  | nil => exact List.Perm.refl _
  | cons tab tabs ih =>
    have hvalid := h tab List.mem_cons_self
    have htab : tab.layout.paneIds.Perm tab.panes.keys := by
      rw [List.perm_ext_iff_of_nodup hvalid.layout_nodup tab.panes.keys_nodup]
      intro id
      rw [hvalid.layout_panes, AList.mem_keys]
    exact htab.append (ih fun tab' htab' => h tab' (List.mem_cons_of_mem _ htab'))

lemma SessionInvariants.layoutIds_nodup (h : SessionInvariants workspaces) :
    (sessionLayoutIds workspaces).Nodup := by
  have hperm : (sessionLayoutIds workspaces).Perm (sessionPanes workspaces) := by
    apply List.Perm.flatMap_left
    intro ws hws
    exact layoutIds_perm (h.workspaces_valid ws hws).tabs_valid
  exact hperm.nodup_iff.mpr h.panes_nodup

/-- There are no more panes than ids. -/
lemma length_le_of_nodup {ids : List PaneId} (h : ids.Nodup) : ids.length ≤ 2 ^ 32 := by
  have hnodup : (ids.map fun id => id.raw.toNat).Nodup := by
    apply h.map
    intro id id' heq
    exact raw_injective (UInt32.toNat_inj.mp heq)
  have hsub : (ids.map fun id => id.raw.toNat) ⊆ List.range (2 ^ 32) := by
    intro n hn
    obtain ⟨id, -, rfl⟩ := List.mem_map.mp hn
    exact List.mem_range.mpr id.raw.toNat_lt
  have hlen := (hnodup.subperm hsub).length_le
  rwa [List.length_map, List.length_range] at hlen

/-- The renaming that gives the panes consecutive ids in the order of the layouts. -/
def consecutively (next : UInt32) (ids : List PaneId) (id : PaneId) : PaneId :=
  ⟨next + UInt32.ofNat (ids.idxOf id)⟩

lemma map_consecutively {ids : List PaneId} (h : ids.Nodup) (next : UInt32) :
    freshIds next ids.length = ids.map (consecutively next ids) := by
  apply List.ext_getElem (by simp)
  intro i hi hi'
  simp only [length_freshIds] at hi
  simp only [freshIds, consecutively, List.getElem_map, List.getElem_range,
    h.idxOf_getElem i hi]

lemma consecutively_injOn {ids : List PaneId} (h : ids.Nodup) (next : UInt32) :
    Set.InjOn (consecutively next ids) {id | id ∈ ids} := by
  have hmap : (ids.map (consecutively next ids)).Nodup := by
    rw [← map_consecutively h]
    exact nodup_freshIds next (length_le_of_nodup h)
  intro id hid id' hid' heq
  exact List.inj_on_of_nodup_map hmap hid hid' heq

/-- The loop over the workspaces of a captured session. -/
lemma foldl_restoreNextWorkspace {ctx : RestoreContext} (hspawns : ∀ id, ctx.spawns id = true)
    (terminals : Table TerminalId LabelledTerminal) {f : PaneId → PaneId}
    (h : ∀ ws ∈ workspaces, ws.AssertInvariants) {r : SessionRestore}
    (hf : freshIds r.state.nextPaneId (sessionLayoutIds workspaces).length =
      (sessionLayoutIds workspaces).map f)
    (hcount : (sessionLayoutIds workspaces).length ≤ 2 ^ 32) :
    ∃ restored, List.Forall₂ (WorkspaceReproduced f) workspaces restored ∧
      ((workspaces.map (captureWorkspace terminals)).foldl (restoreNextWorkspace ctx) r).workspaces =
        r.workspaces ++ restored := by
  induction workspaces generalizing r with
  | nil => exact ⟨[], .nil, (List.append_nil _).symm⟩
  | cons ws workspaces ih =>
    have hcons : sessionLayoutIds (ws :: workspaces) =
        layoutIds ws.tabs ++ sessionLayoutIds workspaces := rfl
    rw [hcons, List.length_append, freshIds_add, List.map_append] at hf
    obtain ⟨hf₁, hf₂⟩ := List.append_inj hf (by simp)
    rw [hcons, List.length_append] at hcount
    obtain ⟨built, hbuilt, hreproduced, hnext⟩ := restoreWorkspace_captureWorkspace hspawns
      terminals (h ws List.mem_cons_self) hf₁ (by omega)
    have hstep : (restoreNextWorkspace ctx r (captureWorkspace terminals ws)).workspaces =
          r.workspaces ++ [built.workspace] ∧
        (restoreNextWorkspace ctx r (captureWorkspace terminals ws)).state.nextPaneId =
          r.state.nextPaneId + UInt32.ofNat (layoutIds ws.tabs).length := by
      unfold restoreNextWorkspace
      generalize restoreWorkspace ctx (captureWorkspace terminals ws) r.state = result
        at hbuilt hnext ⊢
      obtain ⟨restored, state⟩ := result
      cases hbuilt
      exact ⟨rfl, hnext⟩
    obtain ⟨restored, hall, hend⟩ := ih
      (fun ws' hws' => h ws' (List.mem_cons_of_mem _ hws'))
      (r := restoreNextWorkspace ctx r (captureWorkspace terminals ws))
      (by rw [hstep.2]; exact hf₂) (by omega)
    refine ⟨built.workspace :: restored, .cons hreproduced hall, ?_⟩
    rw [List.map_cons, List.foldl_cons, hend, hstep.1, List.append_assoc]
    rfl

lemma mem_sessionPanes_reproduced {f : PaneId → PaneId} {restored : List Workspace}
    (h : List.Forall₂ (WorkspaceReproduced f) workspaces restored) (id' : PaneId) :
    id' ∈ sessionPanes restored ↔ ∃ id ∈ sessionPanes workspaces, f id = id' := by
  have htab : ∀ {ws ws' : Workspace}, WorkspaceReproduced f ws ws' →
      (id' ∈ paneIds ws'.tabs ↔ ∃ id ∈ paneIds ws.tabs, f id = id') := by
    intro ws ws' hws
    simp only [paneIds, List.mem_flatMap, ← AList.mem_keys]
    constructor
    · rintro ⟨tab', htab', hid'⟩
      obtain ⟨tab, htab, hreproduced⟩ := exists_of_forall₂_right hws.tabs htab'
      obtain ⟨id, hid, heq⟩ := (hreproduced.panes id').mp hid'
      exact ⟨id, ⟨tab, htab, hid⟩, heq⟩
    · rintro ⟨id, ⟨tab, htab, hid⟩, heq⟩
      obtain ⟨tab', htab', hreproduced⟩ := exists_of_forall₂_left hws.tabs htab
      exact ⟨tab', htab', (hreproduced.panes id').mpr ⟨id, hid, heq⟩⟩
  induction h with
  | nil => simp [sessionPanes]
  | cons hhead _ ih =>
    simp only [sessionPanes, List.flatMap_cons, List.mem_append] at ih ⊢
    apply (or_congr (htab hhead) ih).trans
    constructor
    · rintro (⟨id, hid, heq⟩ | ⟨id, hid, heq⟩)
      · exact ⟨id, .inl hid, heq⟩
      · exact ⟨id, .inr hid, heq⟩
    · rintro ⟨id, hid | hid, heq⟩
      · exact .inl ⟨id, hid, heq⟩
      · exact .inr ⟨id, hid, heq⟩

/-- A session that is captured and restored, every pane coming up, is reproduced up to a renaming
of its panes. -/
theorem restore_capture {ctx : RestoreContext} (hspawns : ∀ id, ctx.spawns id = true)
    (h : SessionInvariants workspaces) (terminals : Table TerminalId LabelledTerminal)
    (active : Option Nat) (selected : Nat) (nextPaneId : UInt32) (nextTerminal nextWorkspace : Nat)
    (importedPanes : Finset UInt32) :
    ∃ f, Set.BijOn f {id | id ∈ sessionPanes workspaces}
        {id | id ∈ sessionPanes (restoreWithImports ctx (capture terminals workspaces active selected)
          nextPaneId nextTerminal nextWorkspace importedPanes).workspaces} ∧
      List.Forall₂ (WorkspaceReproduced f) workspaces
        (restoreWithImports ctx (capture terminals workspaces active selected)
          nextPaneId nextTerminal nextWorkspace importedPanes).workspaces := by
  have hnodup := h.layoutIds_nodup
  obtain ⟨restored, hall, hend⟩ := foldl_restoreNextWorkspace hspawns terminals
    h.workspaces_valid (r := ⟨⟨nextPaneId, nextTerminal, nextWorkspace, ∅, importedPanes, 0⟩, [], ∅⟩)
    (map_consecutively hnodup nextPaneId) (length_le_of_nodup hnodup)
  have hrestore : (restoreWithImports ctx (capture terminals workspaces active selected)
      nextPaneId nextTerminal nextWorkspace importedPanes).workspaces = restored := hend
  rw [hrestore]
  refine ⟨consecutively nextPaneId (sessionLayoutIds workspaces), ⟨?_, ?_, ?_⟩, hall⟩
  · intro id hid
    exact (mem_sessionPanes_reproduced hall _).mpr ⟨id, hid, rfl⟩
  · intro id hid id' hid' heq
    exact consecutively_injOn hnodup nextPaneId ((h.mem_layoutIds id).mpr hid)
      ((h.mem_layoutIds id').mpr hid') heq
  · intro id' hid'
    exact (mem_sessionPanes_reproduced hall id').mp hid'

end

/-! ### Two workspaces -/

def everySpawnSucceeds : RestoreContext :=
  { firstSpawnFails with
    spawns := fun _ => true }

/-- The second workspace has two tabs, one of them split and zoomed. -/
def twoWorkspaces : List Workspace :=
  [.fromExistingPane "w2" (some "build") (some "logs") ⟨⟨7⟩, .new ⟨"t7"⟩⟩, zoomedSplit]

lemma twoWorkspaces_invariants : SessionInvariants twoWorkspaces where
  workspaces_valid := by
    intro ws hws
    rcases List.mem_pair.mp hws with rfl | rfl
    · exact ⟨Workspace.fromExistingPane_consistent _ _ _ _, List.cons_ne_nil _ _⟩
    · exact ⟨zoomedSplit_consistent, by decide⟩
  panes_nodup := by decide

theorem restore_capture_twoWorkspaces :
    SessionInvariants twoWorkspaces ∧
    ∃ f, Set.BijOn f {id | id ∈ sessionPanes twoWorkspaces}
        {id | id ∈ sessionPanes (restoreWithImports everySpawnSucceeds
          (capture ∅ twoWorkspaces (some 0) 0) 1 0 1 ∅).workspaces} ∧
      List.Forall₂ (WorkspaceReproduced f) twoWorkspaces
        (restoreWithImports everySpawnSucceeds
          (capture ∅ twoWorkspaces (some 0) 0) 1 0 1 ∅).workspaces :=
  ⟨twoWorkspaces_invariants,
    restore_capture (fun _ => rfl) twoWorkspaces_invariants ∅ (some 0) 0 1 0 1 ∅⟩

end Ork3.Persist
