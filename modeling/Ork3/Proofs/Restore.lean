import Ork3.Library.Numbering
import Ork3.Model.Restore
import Ork3.Proofs.Layout

namespace Ork3.Persist

open Ork3.Library Ork3.Layout Ork3.Terminal Ork3.Workspaces

/-! ### Fresh pane ids -/

/-- The ids `n` calls of `PaneId::alloc` return. -/
def freshIds (next : UInt32) (n : Nat) : List PaneId :=
  (List.range n).map fun k => ⟨next + UInt32.ofNat k⟩

@[simp] lemma length_freshIds (next : UInt32) (n : Nat) : (freshIds next n).length = n := by
  simp [freshIds]

lemma freshIds_add (next : UInt32) (m n : Nat) :
    freshIds next (m + n) = freshIds next m ++ freshIds (next + UInt32.ofNat m) n := by
  rw [freshIds, List.range_add, List.map_append, List.map_map]
  congr 1
  apply List.map_congr_left
  intro k _
  simp only [Function.comp_apply, UInt32.ofNat_add, UInt32.add_assoc]

lemma offset_injective {next : UInt32} {i j : Nat} (hi : i < 2 ^ 32) (hj : j < 2 ^ 32)
    (h : next + UInt32.ofNat i = next + UInt32.ofNat j) : i = j := by
  have hij : UInt32.ofNat i = UInt32.ofNat j := by
    simpa using h
  have hto := congrArg UInt32.toNat hij
  simp only [UInt32.toNat_ofNat'] at hto
  omega

lemma nodup_freshIds (next : UInt32) {n : Nat} (hn : n ≤ 2 ^ 32) : (freshIds next n).Nodup := by
  apply List.Nodup.map_on _ List.nodup_range
  intro i hi j hj h
  rw [List.mem_range] at hi hj
  exact offset_injective (by omega) (by omega) (PaneId.mk.inj h)

lemma mem_freshIds_offset {next : UInt32} {m n : Nat} {id : PaneId} :
    id ∈ freshIds (next + UInt32.ofNat m) n ↔
      ∃ k, m ≤ k ∧ k < m + n ∧ id = ⟨next + UInt32.ofNat k⟩ := by
  rw [freshIds, List.mem_map]
  constructor
  · rintro ⟨k, hk, rfl⟩
    rw [List.mem_range] at hk
    exact ⟨m + k, by omega, by omega, by rw [UInt32.ofNat_add, UInt32.add_assoc]⟩
  · rintro ⟨k, hle, hlt, rfl⟩
    refine ⟨k - m, List.mem_range.mpr (by omega), ?_⟩
    rw [UInt32.add_assoc, ← UInt32.ofNat_add, Nat.add_sub_cancel' hle]

/-! ### Layout trees -/

lemma remapInner_spec (snap : LayoutSnapshot) (next : UInt32) (idMap : Table UInt32 PaneId) :
    (remapInner snap next idMap).1.collectIds = freshIds next snap.paneIds.length ∧
    (remapInner snap next idMap).2.1 = next + UInt32.ofNat snap.paneIds.length ∧
    (remapInner snap next idMap).2.2 =
      (snap.paneIds.zip (freshIds next snap.paneIds.length)).foldl
        (fun t e => t.insert e.1 e.2) idMap := by
  induction snap generalizing next idMap with
  | pane oldId => simp [remapInner, Node.collectIds, LayoutSnapshot.paneIds, freshIds]
  | split direction ratio first second ih₁ ih₂ =>
    obtain ⟨hids₁, hnext₁, hmap₁⟩ := ih₁ next idMap
    obtain ⟨hids₂, hnext₂, hmap₂⟩ := ih₂ (remapInner first next idMap).2.1
      (remapInner first next idMap).2.2
    simp only [remapInner, Node.collectIds, LayoutSnapshot.paneIds, List.length_append]
    refine ⟨?_, ?_, ?_⟩
    · rw [hids₁, hids₂, hnext₁, freshIds_add]
    · rw [hnext₂, hnext₁, UInt32.ofNat_add, UInt32.add_assoc]
    · rw [hmap₂, hmap₁, hnext₁, freshIds_add, List.zip_append (by simp), List.foldl_append]

lemma collectIds_restoreNodeRemapped (snap : LayoutSnapshot) (next : UInt32) :
    (restoreNodeRemapped snap next).1.collectIds = freshIds next snap.paneIds.length :=
  (remapInner_spec snap next ∅).1

lemma next_restoreNodeRemapped (snap : LayoutSnapshot) (next : UInt32) :
    (restoreNodeRemapped snap next).2.1 = next + UInt32.ofNat snap.paneIds.length :=
  (remapInner_spec snap next ∅).2.1

lemma idMap_restoreNodeRemapped (snap : LayoutSnapshot) (next : UInt32) :
    (restoreNodeRemapped snap next).2.2 =
      Table.collect (snap.paneIds.zip (freshIds next snap.paneIds.length)) :=
  (remapInner_spec snap next ∅).2.2

/-- Pruning keeps the surviving leaves in order, and fails when there are none. -/
lemma pruneRestoredNode_spec (surviving : PaneId → Bool) (node : Node) :
    ((pruneRestoredNode surviving node).map Node.collectIds).getD [] =
      node.collectIds.filter surviving := by
  induction node with
  | pane id => by_cases h : surviving id <;> simp [pruneRestoredNode, Node.collectIds, h]
  | split direction ratio first second ih₁ ih₂ =>
    rw [Node.collectIds, List.filter_append, ← ih₁, ← ih₂, pruneRestoredNode]
    cases pruneRestoredNode surviving first <;> cases pruneRestoredNode surviving second <;>
      simp [Node.collectIds]

/-- A pane is looked up by the number of its saved id, unless a later leaf of its tab has that
id too. -/
def savedKey (layout : LayoutSnapshot) (next : UInt32) (id : PaneId) : UInt32 :=
  ((reverseIdMap (restoreNodeRemapped layout next).2.2).lookup id).getD id.raw

/-! ### Panes -/

section
variable (ctx : RestoreContext) (snap : TabSnapshot) (reverse : Table PaneId UInt32)

def savedPane (id : PaneId) : Option PaneSnapshot :=
  (reverse.lookup id).bind fun oldId => snap.panes.lookup oldId

/-- Whether the pane gets a terminal. -/
def ComesUp (state : RestoreState) (id : PaneId) : Bool :=
  match (startPane ctx id (reverse.lookup id) ((savedPane snap reverse id).bind (·.agentSession))
    state).1 with
  | .failed => false
  | _ => true

/-- The panes that get a terminal, in the order of the layout. -/
def panesUp (state : RestoreState) : List PaneId → List PaneId
  | [] => []
  | id :: ids =>
    let rest := panesUp (restorePane ctx snap reverse ⟨state, ∅, []⟩ id).state ids
    if ComesUp ctx snap reverse state id then id :: rest else rest

lemma panesUp_sublist (state : RestoreState) (ids : List PaneId) :
    (panesUp ctx snap reverse state ids).Sublist ids := by
  induction ids generalizing state with
  | nil => exact List.Sublist.refl _
  | cons id ids ih =>
    rw [panesUp]
    split
    · exact (ih _).cons_cons id
    · exact (ih _).cons id

/-- How a pane starts changes the reservations and the imports only. -/
lemma startPane_counters (ctx : RestoreContext) (id : PaneId) (oldId : Option UInt32)
    (session : Option PaneAgentSessionSnapshot) (state : RestoreState) :
    (startPane ctx id oldId session state).2.2.nextPaneId = state.nextPaneId ∧
    (startPane ctx id oldId session state).2.2.nextTerminal = state.nextTerminal := by
  unfold startPane
  dsimp only
  split
  · exact ⟨rfl, rfl⟩
  · split
    · exact ⟨rfl, rfl⟩
    · split <;> exact ⟨rfl, rfl⟩

lemma state_restorePane (r : PanesRestore) (id : PaneId) :
    (restorePane ctx snap reverse r id).state =
      (restorePane ctx snap reverse ⟨r.state, ∅, []⟩ id).state := by
  unfold restorePane
  dsimp only
  generalize startPane ctx id _ _ r.state = started
  obtain ⟨start, startup, state⟩ := started
  cases start with
  | resumeLater plan => rfl
  | started wasImported =>
    dsimp only
    split <;> rfl
  | failed => rfl

lemma nextPaneId_restorePane (r : PanesRestore) (id : PaneId) :
    (restorePane ctx snap reverse r id).state.nextPaneId = r.state.nextPaneId := by
  have hcounters := startPane_counters ctx id (reverse.lookup id)
    ((savedPane snap reverse id).bind (·.agentSession)) r.state
  unfold restorePane
  dsimp only
  rw [savedPane] at hcounters
  generalize startPane ctx id _ _ r.state = started at hcounters ⊢
  obtain ⟨start, startup, state⟩ := started
  cases start with
  | resumeLater plan => exact hcounters.1
  | started wasImported =>
    dsimp only
    split <;> exact hcounters.1
  | failed => exact hcounters.1

variable {ctx snap reverse}

/-- A pane that comes up is attached to the terminal allocated next. -/
lemma restorePane_of_comesUp {r : PanesRestore} {id : PaneId}
    (h : ComesUp ctx snap reverse r.state id = true) :
    (restorePane ctx snap reverse r id).panes =
      r.panes.insert id (.new (ctx.allocTerminal r.state.nextTerminal)) ∧
    (restorePane ctx snap reverse r id).state.nextTerminal = r.state.nextTerminal + 1 := by
  have hcounters := startPane_counters ctx id (reverse.lookup id)
    ((savedPane snap reverse id).bind (·.agentSession)) r.state
  unfold ComesUp at h
  unfold restorePane
  dsimp only
  rw [savedPane] at hcounters h
  generalize startPane ctx id _ _ r.state = started at hcounters h ⊢
  obtain ⟨start, startup, state⟩ := started
  obtain ⟨-, hterminal⟩ := hcounters
  dsimp only at hterminal
  cases start with
  | resumeLater plan => simp only [hterminal, and_self]
  | started wasImported =>
    dsimp only
    split <;> simp only [hterminal, and_self]
  | failed => simp at h

lemma restorePane_of_not_comesUp {r : PanesRestore} {id : PaneId}
    (h : ComesUp ctx snap reverse r.state id = false) :
    (restorePane ctx snap reverse r id).panes = r.panes ∧
    (restorePane ctx snap reverse r id).state.nextTerminal = r.state.nextTerminal := by
  have hcounters := startPane_counters ctx id (reverse.lookup id)
    ((savedPane snap reverse id).bind (·.agentSession)) r.state
  unfold ComesUp at h
  unfold restorePane
  dsimp only
  rw [savedPane] at hcounters h
  generalize startPane ctx id _ _ r.state = started at hcounters h ⊢
  obtain ⟨start, startup, state⟩ := started
  cases start with
  | resumeLater plan => simp at h
  | started wasImported => simp at h
  | failed => exact ⟨rfl, hcounters.2⟩

/-- The terminals the calls `m`, …, `m + n - 1` of the allocator return. -/
def allocated (ctx : RestoreContext) (m n : Nat) : List TerminalId :=
  (List.range' m n).map ctx.allocTerminal

/-- The loop over the panes of a tab: the panes that come up, newest first, each with its own
terminal. -/
lemma foldl_restorePane (ctx : RestoreContext) (snap : TabSnapshot)
    (reverse : Table PaneId UInt32) (ids : List PaneId) (r : PanesRestore) (hids : ids.Nodup)
    (hnew : ∀ id ∈ ids, id ∉ r.panes) :
    let r' := ids.foldl (restorePane ctx snap reverse) r
    let up := panesUp ctx snap reverse r.state ids
    r'.panes.keys = up.reverse ++ r.panes.keys ∧
    (Table.values r'.panes).map PaneState.attachedTerminalId =
      (allocated ctx r.state.nextTerminal up.length).reverse ++
        (Table.values r.panes).map PaneState.attachedTerminalId ∧
    r'.state.nextPaneId = r.state.nextPaneId ∧
    r'.state.nextTerminal = r.state.nextTerminal + up.length := by
  induction ids generalizing r with
  | nil => simp [panesUp, allocated]
  | cons id ids ih =>
    obtain ⟨hid, hids⟩ := List.nodup_cons.mp hids
    have hidnew : id ∉ r.panes := hnew id (by simp)
    have hstate := state_restorePane ctx snap reverse r id
    have hnext := nextPaneId_restorePane ctx snap reverse r id
    simp only [List.foldl_cons, panesUp]
    cases hup : ComesUp ctx snap reverse r.state id with
    | false =>
      obtain ⟨hpanes, hterminal⟩ := restorePane_of_not_comesUp hup
      have hrest := ih (restorePane ctx snap reverse r id) hids (by
        intro id' hid'
        rw [hpanes]
        exact hnew id' (List.mem_cons_of_mem _ hid'))
      rw [hpanes, hterminal, hnext, hstate] at hrest
      simpa using hrest
    | true =>
      obtain ⟨hpanes, hterminal⟩ := restorePane_of_comesUp hup
      have hrest := ih (restorePane ctx snap reverse r id) hids (by
        intro id' hid'
        rw [hpanes, AList.mem_insert, not_or]
        refine ⟨?_, hnew id' (List.mem_cons_of_mem _ hid')⟩
        rintro rfl
        exact hid hid')
      rw [hpanes, hterminal, hnext, hstate, Table.keys_insert_of_notMem _ hidnew,
        Table.values_insert_of_notMem _ hidnew] at hrest
      obtain ⟨hkeys, hvalues, hpane, hterm⟩ := hrest
      simp only [↓reduceIte, List.reverse_cons, List.append_assoc, List.length_cons]
      refine ⟨by simpa using hkeys, ?_, hpane, by omega⟩
      rw [hvalues]
      simp [allocated, List.range'_succ, PaneState.new]

end

/-! ### Tabs -/

lemma filter_mem_of_sublist {ids up : List PaneId} (hids : ids.Nodup) (hup : up.Sublist ids) :
    ids.filter (fun id => decide (id ∈ up)) = up := by
  induction hup with
  | slnil => rfl
  | @cons up ids id hsub ih =>
    obtain ⟨hid, hids⟩ := List.nodup_cons.mp hids
    have hnot : id ∉ up := fun h => hid (hsub.subset h)
    rw [List.filter_cons_of_neg (by simpa using hnot), ih hids]
  | @cons_cons up ids id hsub ih =>
    obtain ⟨hid, hids⟩ := List.nodup_cons.mp hids
    rw [List.filter_cons_of_pos (by simp)]
    have hcongr : ids.filter (fun id' => decide (id' ∈ id :: up)) =
        ids.filter (fun id' => decide (id' ∈ up)) := by
      apply List.filter_congr
      intro id' hid'
      have hne : id' ≠ id := fun h => hid (h ▸ hid')
      simp [hne]
    rw [hcongr, ih hids]

/-- The panes of a tab that get a terminal, in the order of the layout. -/
def tabPanesUp (ctx : RestoreContext) (snap : TabSnapshot) (state : RestoreState) : List PaneId :=
  let (node, next, idMap) := restoreNodeRemapped snap.layout state.nextPaneId
  panesUp ctx snap (reverseIdMap idMap) { state with nextPaneId := next } node.collectIds

lemma tabPanesUp_sublist (ctx : RestoreContext) (snap : TabSnapshot) (state : RestoreState) :
    (tabPanesUp ctx snap state).Sublist
      (freshIds state.nextPaneId snap.layout.paneIds.length) := by
  rw [← collectIds_restoreNodeRemapped]
  exact panesUp_sublist _ _ _ _ _

/-- What a tab is when some of its panes come up. -/
structure RestoresTab (ctx : RestoreContext) (snap : TabSnapshot) (number : Nat)
    (state : RestoreState) (restored : RestoredTab) : Prop where
  customName : restored.tab.customName = snap.customName
  number : restored.tab.number = number
  zoomed : restored.tab.zoomed = snap.zoomed
  root : pruneRestoredNode (fun id => decide (id ∈ tabPanesUp ctx snap state))
    (restoreNodeRemapped snap.layout state.nextPaneId).1 = some restored.tab.layout.root
  paneIds : restored.tab.layout.paneIds = tabPanesUp ctx snap state
  keys : restored.tab.panes.keys = (tabPanesUp ctx snap state).reverse
  terminals : (Table.values restored.tab.panes).map PaneState.attachedTerminalId =
    (allocated ctx state.nextTerminal (tabPanesUp ctx snap state).length).reverse
  focus : resolveRestoredPane snap.focused
    (restoreNodeRemapped snap.layout state.nextPaneId).2.2
    (fun id => decide (id ∈ tabPanesUp ctx snap state)) (tabPanesUp ctx snap state) =
      some restored.tab.layout.focus
  rootPane : resolveRestoredPane snap.rootPane
    (restoreNodeRemapped snap.layout state.nextPaneId).2.2
    (fun id => decide (id ∈ tabPanesUp ctx snap state)) (tabPanesUp ctx snap state) =
      some restored.tab.rootPane
  reverseIdMap : restored.reverseIdMap =
    reverseIdMap (restoreNodeRemapped snap.layout state.nextPaneId).2.2

/-- With a pane left to fall back on, a saved pane is resolved to a surviving one. -/
lemma resolveRestoredPane_mem (savedOldId : Option UInt32) (idMap : Table UInt32 PaneId)
    {up : List PaneId} (hup : up ≠ []) :
    ∃ id ∈ up, resolveRestoredPane savedOldId idMap (fun id => decide (id ∈ up)) up = some id := by
  unfold resolveRestoredPane
  cases h : (savedOldId.bind fun oldId => idMap.lookup oldId).filter
      (fun id => decide (id ∈ up)) with
  | some id =>
    rw [Option.filter_eq_some_iff] at h
    exact ⟨id, by simpa using h.2, rfl⟩
  | none =>
    obtain ⟨id, rest, rfl⟩ := List.exists_cons_of_ne_nil hup
    exact ⟨id, by simp, rfl⟩

section
variable (ctx : RestoreContext) {snap : TabSnapshot} (number : Nat) (state : RestoreState)

/-- Restoring a tab, in terms of the panes that come up. -/
lemma restoreTab_spec (hcount : snap.layout.paneIds.length ≤ 2 ^ 32) :
    ((restoreTab ctx snap number state).1 = none ↔ tabPanesUp ctx snap state = []) ∧
    (∀ restored, (restoreTab ctx snap number state).1 = some restored →
      RestoresTab ctx snap number state restored) ∧
    (restoreTab ctx snap number state).2.nextPaneId =
      state.nextPaneId + UInt32.ofNat snap.layout.paneIds.length ∧
    (restoreTab ctx snap number state).2.nextTerminal =
      state.nextTerminal + (tabPanesUp ctx snap state).length := by
  have hids := collectIds_restoreNodeRemapped snap.layout state.nextPaneId
  have hnext := next_restoreNodeRemapped snap.layout state.nextPaneId
  have hnodup := nodup_freshIds state.nextPaneId hcount
  have hsub := tabPanesUp_sublist ctx snap state
  have hup : tabPanesUp ctx snap state = panesUp ctx snap
      (reverseIdMap (restoreNodeRemapped snap.layout state.nextPaneId).2.2)
      { state with nextPaneId := (restoreNodeRemapped snap.layout state.nextPaneId).2.1 }
      (restoreNodeRemapped snap.layout state.nextPaneId).1.collectIds := rfl
  unfold restoreTab
  generalize hremap : restoreNodeRemapped snap.layout state.nextPaneId = remapped
    at hids hnext hup ⊢
  obtain ⟨node, next, idMap⟩ := remapped
  dsimp only at hids hnext hup ⊢
  obtain ⟨hkeys, hvalues, hpane, hterminal⟩ := foldl_restorePane ctx snap (reverseIdMap idMap)
    node.collectIds ⟨{ state with nextPaneId := next }, ∅, []⟩
    (by rw [hids]; exact hnodup) (by simp)
  rw [← hup] at hkeys hvalues hterminal
  generalize node.collectIds.foldl (restorePane ctx snap (reverseIdMap idMap))
    ⟨{ state with nextPaneId := next }, ∅, []⟩ = r at hkeys hvalues hpane hterminal ⊢
  simp only [AList.keys_empty, List.append_nil] at hkeys
  have hsurviving : (fun id => decide (id ∈ r.panes)) =
      fun id => decide (id ∈ tabPanesUp ctx snap state) := by
    funext id
    simp only [AList.mem_keys, hkeys, List.mem_reverse]
  have hstate : r.state.nextPaneId =
      state.nextPaneId + UInt32.ofNat snap.layout.paneIds.length := hpane.trans hnext
  by_cases hempty : tabPanesUp ctx snap state = []
  · rw [if_pos (by rw [hkeys, hempty]; rfl)]
    exact ⟨by simp [hempty], by simp, hstate, hterminal⟩
  · rw [if_neg (by rw [hkeys]; simpa using hempty), hsurviving]
    have hpruned := pruneRestoredNode_spec (fun id => decide (id ∈ tabPanesUp ctx snap state)) node
    rw [hids, filter_mem_of_sublist hnodup hsub] at hpruned
    cases hnode : pruneRestoredNode (fun id => decide (id ∈ tabPanesUp ctx snap state)) node with
    | none =>
      rw [hnode] at hpruned
      exact absurd hpruned.symm hempty
    | some pruned =>
      rw [hnode] at hpruned
      replace hpruned : pruned.collectIds = tabPanesUp ctx snap state := hpruned
      obtain ⟨focus, -, hfocus⟩ := resolveRestoredPane_mem snap.focused idMap hempty
      obtain ⟨rootPane, -, hroot⟩ := resolveRestoredPane_mem snap.rootPane idMap hempty
      simp only [hpruned, hfocus, hroot]
      refine ⟨by simp [hempty], ?_, hstate, hterminal⟩
      rintro restored ⟨⟩
      exact
        { customName := rfl
          number := rfl
          zoomed := rfl
          root := by rw [hremap]; exact hnode
          paneIds := hpruned
          keys := hkeys
          terminals := by simpa [Table.values] using hvalues
          focus := by rw [hremap]; exact hfocus
          rootPane := by rw [hremap]; exact hroot
          reverseIdMap := by rw [hremap] }

end

/-! ### Public numbers -/

lemma wrappingSucc_of_lt {n : Nat} (h : n + 1 < usizeBound) : wrappingSucc n = n + 1 :=
  Nat.mod_eq_of_lt h

lemma wrappingSucc_le (n : Nat) : wrappingSucc n ≤ n + 1 := Nat.mod_le _ _

lemma nextPublicNumber_pos (saved : List Nat) (next : Nat) : 0 < nextPublicNumber saved next := by
  have hpos : 0 < (saved.max?.bind checkedSucc).getD 1 := by
    cases saved.max? with
    | none => exact Nat.one_pos
    | some n =>
      change 0 < (checkedSucc n).getD 1
      unfold checkedSucc
      split
      · exact Nat.succ_pos n
      · exact Nat.one_pos
  exact lt_of_lt_of_le hpos (le_max_left _ _)

/-- The counter starts above the saved numbers unless one of them is the largest `usize`. -/
lemma lt_nextPublicNumber {saved : List Nat} {n : Nat} (next : Nat)
    (hfit : ∀ m ∈ saved, m + 1 < usizeBound) (hn : n ∈ saved) : n < nextPublicNumber saved next := by
  have hstart : n < (saved.max?.bind checkedSucc).getD 1 := by
    cases hmax : saved.max? with
    | none =>
      rw [List.max?_eq_none_iff.mp hmax] at hn
      cases hn
    | some m =>
      obtain ⟨hmem, hle⟩ := List.max?_eq_some_iff.mp hmax
      have hchecked : checkedSucc m = some (m + 1) := if_pos (hfit m hmem)
      change n < (checkedSucc m).getD 1
      rw [hchecked]
      exact Nat.lt_succ_of_le (hle n hn)
  exact lt_of_lt_of_le hstart (le_max_left _ _)

/-- The largest `usize` among the saved numbers starts the counter over. -/
example : nextPublicNumber [5, usizeBound - 1] 3 = 3 := by decide

/-- A counter at `next` has `count` numbers left. -/
def RoomFor (next count : Nat) : Prop := count = 0 ∨ next + count < usizeBound

lemma RoomFor.mono {next count count' : Nat} (h : RoomFor next count) (hle : count' ≤ count) :
    RoomFor next count' := by
  rcases h with rfl | hlt
  · exact .inl (Nat.le_zero.mp hle)
  · exact .inr (by omega)

/-- Two keys under which the same number is found. -/
def WorkspaceSnapshot.SharesNumber (snap : WorkspaceSnapshot) (k k' : UInt32) : Prop :=
  (k = k' ∧ (k ∈ snap.publicPaneNumbers ∨ k ∈ snap.tabs.flatMap fun tab => tab.layout.paneIds)) ∨
  ∃ n, snap.publicPaneNumbers.lookup k = some n ∧ snap.publicPaneNumbers.lookup k' = some n

/-- Where the pane counter starts. -/
def WorkspaceSnapshot.firstNumber (snap : WorkspaceSnapshot) : Nat :=
  nextPublicNumber (Table.values snap.publicPaneNumbers) snap.nextPublicPaneNumber

/-- The panes of the layouts that were saved without a number. -/
def WorkspaceSnapshot.unnumbered (snap : WorkspaceSnapshot) : Finset UInt32 :=
  {k ∈ (snap.tabs.flatMap fun tab => tab.layout.paneIds).toFinset | k ∉ snap.publicPaneNumbers}

/-- The saved numbers, and numbers for the panes saved without one. -/
def WorkspaceSnapshot.migrated (snap : WorkspaceSnapshot) : Table UInt32 Nat × Nat :=
  migratedPublicPaneNumbersByOldRaw snap snap.firstNumber

/-- The counter starts above the saved numbers and has one for every pane saved without. -/
structure WorkspaceSnapshot.Migrates (snap : WorkspaceSnapshot) : Prop where
  saved_lt : ∀ k n, snap.publicPaneNumbers.lookup k = some n → n < snap.firstNumber
  room : RoomFor snap.firstNumber snap.unnumbered.card

section
variable {snap : WorkspaceSnapshot}

lemma numbered_migrated (h : snap.Migrates) :
    ∃ entries, Numbered snap.firstNumber entries snap.migrated.1 snap.migrated.2 ∧
    (∀ k n, (k, some n) ∈ entries ↔ snap.publicPaneNumbers.lookup k = some n) ∧
    (∀ k, k ∈ snap.migrated.1 ↔
      k ∈ snap.publicPaneNumbers ∨ k ∈ snap.tabs.flatMap fun tab => tab.layout.paneIds) ∧
    snap.migrated.2 = snap.firstNumber + snap.unnumbered.card := by
  obtain ⟨hlt, hroom⟩ := h
  unfold WorkspaceSnapshot.unnumbered at hroom ⊢
  unfold WorkspaceSnapshot.migrated migratedPublicPaneNumbersByOldRaw
  generalize (snap.tabs.flatMap fun tab => tab.layout.paneIds) = ids at hroom ⊢
  generalize snap.firstNumber = base at hlt hroom ⊢
  -- The counter has moved by the number of the panes met so far that had no number.
  have hfold : ∃ entries, let r := ids.foldl (fun (r : Table UInt32 Nat × Nat) oldRaw =>
        if oldRaw ∈ r.1 then (r.1, r.2)
        else (r.1.insert oldRaw r.2, wrappingSucc r.2)) (snap.publicPaneNumbers, base)
      Numbered base entries r.1 r.2 ∧
      r.2 = base + {k ∈ ids.toFinset | k ∉ snap.publicPaneNumbers}.card ∧
      (∀ k n, (k, some n) ∈ entries ↔ snap.publicPaneNumbers.lookup k = some n) ∧
      ∀ k, k ∈ r.1 ↔ k ∈ snap.publicPaneNumbers ∨ k ∈ ids := by
    induction ids using List.reverseRecOn with
    | nil =>
      have htable := Numbered.of_table hlt
      refine ⟨_, htable, by simp, ?_, by simp⟩
      intro k n
      constructor
      · exact htable.own k n
      · intro h
        exact List.mem_map.mpr ⟨⟨k, n⟩, AList.mem_lookup_iff.mp h, rfl⟩
    | append_singleton ids id ih =>
      have hsub : {k ∈ ids.toFinset | k ∉ snap.publicPaneNumbers} ⊆
          {k ∈ (ids ++ [id]).toFinset | k ∉ snap.publicPaneNumbers} := by
        apply Finset.filter_subset_filter
        rw [List.toFinset_append]
        exact Finset.subset_union_left
      obtain ⟨entries, hnumbered, hnext, hsaved, hmem⟩ :=
        ih (hroom.mono (Finset.card_le_card hsub))
      rw [List.foldl_append]
      generalize ids.foldl _ (snap.publicPaneNumbers, base) = r at hnumbered hnext hmem ⊢
      simp only [List.foldl_cons, List.foldl_nil]
      by_cases hid : id ∈ r.1
      · rw [if_pos hid]
        have hold : {k ∈ (ids ++ [id]).toFinset | k ∉ snap.publicPaneNumbers} =
            {k ∈ ids.toFinset | k ∉ snap.publicPaneNumbers} := by
          apply Finset.Subset.antisymm _ hsub
          intro k hk
          rw [Finset.mem_filter, List.mem_toFinset, List.mem_append, List.mem_singleton] at hk
          rw [Finset.mem_filter, List.mem_toFinset]
          obtain ⟨hk | rfl, hnew⟩ := hk
          · exact ⟨hk, hnew⟩
          · exact ⟨((hmem k).mp hid).resolve_left hnew, hnew⟩
        refine ⟨entries, hnumbered, ?_, hsaved, ?_⟩
        · rw [hold]
          exact hnext
        · intro k
          rw [hmem, List.mem_append, List.mem_singleton]
          constructor
          · tauto
          · rintro (h | h | rfl)
            · exact .inl h
            · exact .inr h
            · exact (hmem k).mp hid
      · rw [if_neg hid]
        obtain ⟨hunsaved, hnew⟩ := not_or.mp (mt (hmem id).mpr hid)
        have hcard : {k ∈ (ids ++ [id]).toFinset | k ∉ snap.publicPaneNumbers}.card =
            {k ∈ ids.toFinset | k ∉ snap.publicPaneNumbers}.card + 1 := by
          have hinsert : {k ∈ (ids ++ [id]).toFinset | k ∉ snap.publicPaneNumbers} =
              insert id {k ∈ ids.toFinset | k ∉ snap.publicPaneNumbers} := by
            have hset : (ids ++ [id]).toFinset = insert id ids.toFinset := by
              ext k
              simp
            rw [hset, Finset.filter_insert, if_pos hunsaved]
          rw [hinsert, Finset.card_insert_of_notMem]
          simp [hnew]
        have hsucc : wrappingSucc r.2 = r.2 + 1 := by
          apply wrappingSucc_of_lt
          rw [hcard] at hroom
          rcases hroom with hnone | hlt
          · exact absurd hnone (Nat.succ_ne_zero _)
          · omega
        refine ⟨entries ++ [(id, none)], ?_, ?_, ?_, ?_⟩
        · have hinsert := hnumbered.insert hid none (by simp)
          rw [hsucc]
          simpa using hinsert
        · rw [hsucc, hcard, hnext, Nat.add_assoc]
        · intro k n
          rw [← hsaved]
          simp
        · intro k
          rw [AList.mem_insert, hmem, List.mem_append, List.mem_singleton]
          tauto
  obtain ⟨entries, hnumbered, hnext, hsaved, hmem⟩ := hfold
  exact ⟨entries, hnumbered, hsaved, hmem, hnext⟩

lemma mem_migrated (h : snap.Migrates) {k : UInt32} :
    k ∈ snap.migrated.1 ↔
      k ∈ snap.publicPaneNumbers ∨ k ∈ snap.tabs.flatMap fun tab => tab.layout.paneIds := by
  obtain ⟨entries, -, -, hmem, -⟩ := numbered_migrated h
  exact hmem k

lemma lookup_migrated_of_saved (h : snap.Migrates) {k : UInt32} {n : Nat}
    (hn : snap.publicPaneNumbers.lookup k = some n) : snap.migrated.1.lookup k = some n := by
  obtain ⟨entries, hnumbered, hsaved, -⟩ := numbered_migrated h
  exact hnumbered.own k n ((hsaved k n).mpr hn)

lemma lookup_migrated_lt (h : snap.Migrates) {k : UInt32} {n : Nat}
    (hn : snap.migrated.1.lookup k = some n) : n < snap.migrated.2 := by
  obtain ⟨entries, hnumbered, -, -⟩ := numbered_migrated h
  exact hnumbered.lt_next k n hn

lemma next_migrated (h : snap.Migrates) :
    snap.migrated.2 = snap.firstNumber + snap.unnumbered.card := by
  obtain ⟨entries, -, -, -, hnext⟩ := numbered_migrated h
  exact hnext

lemma migrated_next_pos (h : snap.Migrates) : 0 < snap.migrated.2 := by
  obtain ⟨entries, hnumbered, -, -⟩ := numbered_migrated h
  exact lt_of_lt_of_le (nextPublicNumber_pos _ _) hnumbered.base_le

lemma lookup_migrated_zero (h : snap.Migrates) {k : UInt32} :
    snap.migrated.1.lookup k = some 0 ↔ snap.publicPaneNumbers.lookup k = some 0 := by
  obtain ⟨entries, hnumbered, hsaved, -⟩ := numbered_migrated h
  refine ⟨?_, lookup_migrated_of_saved h⟩
  intro hzero
  rcases hnumbered.number k 0 hzero with hown | ⟨-, hle⟩
  · exact (hsaved k 0).mp hown
  · exact absurd (nextPublicNumber_pos _ _) (Nat.not_lt.mpr hle)

/-- One number is found under two keys exactly when they share it. -/
lemma sharesNumber_iff (h : snap.Migrates) {k k' : UInt32} :
    snap.SharesNumber k k' ↔
      ∃ n, snap.migrated.1.lookup k = some n ∧ snap.migrated.1.lookup k' = some n := by
  obtain ⟨entries, hnumbered, hsaved, hmem, -⟩ := numbered_migrated h
  constructor
  · rintro (⟨rfl, hknown⟩ | ⟨n, hn, hn'⟩)
    · obtain ⟨n, hn⟩ := Option.isSome_iff_exists.mp (AList.lookup_isSome.mpr ((hmem k).mpr hknown))
      exact ⟨n, hn, hn⟩
    · exact ⟨n, lookup_migrated_of_saved h hn, lookup_migrated_of_saved h hn'⟩
  · rintro ⟨n, hn, hn'⟩
    have hknown := (hmem k).mp (AList.lookup_isSome.mp (Option.isSome_iff_exists.mpr ⟨n, hn⟩))
    rcases hnumbered.number k n hn with hown | ⟨-, hle⟩
    · rcases hnumbered.number k' n hn' with hown' | ⟨-, hle⟩
      · exact .inr ⟨n, (hsaved k n).mp hown, (hsaved k' n).mp hown'⟩
      · exact .inl ⟨hnumbered.fresh_inj k k' n hle hn hn', hknown⟩
    · exact .inl ⟨hnumbered.fresh_inj k k' n hle hn hn', hknown⟩

end

/-- The panes of a tab with the key each is numbered by. -/
def numberedBy (byOldRaw : Table UInt32 Nat) (panes : List (PaneId × UInt32)) :
    List (PaneId × Option Nat) :=
  panes.map fun p => (p.1, byOldRaw.lookup p.2)

/-- How many of the panes take their number from the counter. -/
def countUnkeyed (byOldRaw : Table UInt32 Nat) (panes : List (PaneId × UInt32)) : Nat :=
  (numberedBy byOldRaw panes).countP fun e => e.2.isNone

lemma countUnkeyed_append (byOldRaw : Table UInt32 Nat) (panes panes' : List (PaneId × UInt32)) :
    countUnkeyed byOldRaw (panes ++ panes') =
      countUnkeyed byOldRaw panes + countUnkeyed byOldRaw panes' := by
  simp [countUnkeyed, numberedBy]

/-- The loop that numbers the panes of a tab. -/
lemma foldl_numberPane {byOldRaw : Table UInt32 Nat} (reverse : Table PaneId UInt32)
    {base : Nat} (hbase : ∀ k n, byOldRaw.lookup k = some n → n < base) (ids : List PaneId)
    {panes : List (PaneId × UInt32)} {r : PublicNumbers}
    (h : Numbered base (numberedBy byOldRaw panes) r.panes r.nextPane)
    (hnodup : (panes.map Prod.fst ++ ids).Nodup)
    (hroom : RoomFor base (countUnkeyed byOldRaw
      (panes ++ ids.map fun id => (id, (reverse.lookup id).getD id.raw)))) :
    let r' := ids.foldl (numberPane byOldRaw reverse) r
    Numbered base
      (numberedBy byOldRaw
        (panes ++ ids.map fun id => (id, (reverse.lookup id).getD id.raw)))
      r'.panes r'.nextPane := by
  induction ids generalizing panes r with
  | nil => simpa using h
  | cons id ids ih =>
    have hid : id ∉ r.panes := by
      intro hmem
      obtain ⟨own, hown⟩ := (h.mem_iff id).mp hmem
      obtain ⟨p, hp, heq⟩ := List.mem_map.mp hown
      cases heq
      have hdisjoint := (List.nodup_append.mp hnodup).2.2
      exact hdisjoint p.1 (List.mem_map.mpr ⟨p, hp, rfl⟩) p.1 (by simp) rfl
    have hstep := h.insert hid (byOldRaw.lookup ((reverse.lookup id).getD id.raw))
      (fun n hn => hbase _ n hn)
    have hpane : numberPane byOldRaw reverse r id =
        ⟨r.panes.insert id
            ((byOldRaw.lookup ((reverse.lookup id).getD id.raw)).getD r.nextPane),
          max r.nextPane
            ((byOldRaw.lookup ((reverse.lookup id).getD id.raw)).getD r.nextPane + 1)⟩ := by
      unfold numberPane
      cases hown : byOldRaw.lookup ((reverse.lookup id).getD id.raw) with
      | none =>
        -- The pane takes a number, and there is room for it.
        have hnext := h.next_eq
        have hcount := countUnkeyed_append byOldRaw panes
          ((id :: ids).map fun id => (id, (reverse.lookup id).getD id.raw))
        have hsucc : wrappingSucc r.nextPane = r.nextPane + 1 := by
          apply wrappingSucc_of_lt
          have hone : 1 ≤ countUnkeyed byOldRaw
              ((id :: ids).map fun id => (id, (reverse.lookup id).getD id.raw)) := by
            simp [countUnkeyed, numberedBy, hown]
          change r.nextPane = base + countUnkeyed byOldRaw panes at hnext
          rcases hroom with hzero | hlt <;> omega
        simp [hsucc]
      | some n =>
        have hlt := hbase _ n hown
        have hle := wrappingSucc_le n
        have hbelow := h.base_le
        simp only [Option.getD_some]
        congr 1
        omega
    have hrest := @ih (panes ++ [(id, (reverse.lookup id).getD id.raw)])
      (numberPane byOldRaw reverse r id) (by
        rw [hpane]
        simpa [numberedBy] using hstep) (by simpa using hnodup) (by simpa using hroom)
    simpa using hrest

/-! ### Workspaces -/

/-- A saved tab some of whose panes come up, with its position and the state it is restored in. -/
structure SurvivingTab where
  idx : Nat
  snap : TabSnapshot
  state : RestoreState

section
variable (ctx : RestoreContext) (snap : WorkspaceSnapshot)

def SurvivingTab.panes (s : SurvivingTab) : List PaneId := tabPanesUp ctx s.snap s.state

/-- The panes that come up, each with the key its number is found under. -/
def SurvivingTab.keyedPanes (s : SurvivingTab) : List (PaneId × UInt32) :=
  (s.panes ctx).map fun id => (id, savedKey s.snap.layout s.state.nextPaneId id)

@[simp] lemma SurvivingTab.map_fst_keyedPanes (s : SurvivingTab) :
    (s.keyedPanes ctx).map Prod.fst = s.panes ctx := by
  simp [SurvivingTab.keyedPanes, Function.comp_def]

def survivingTabsFrom : RestoreState → List (TabSnapshot × Nat) → List SurvivingTab
  | _, [] => []
  | state, (tab, idx) :: entries =>
    let later := survivingTabsFrom (restoreTab ctx tab (savedTabNumber snap idx) state).2 entries
    if tabPanesUp ctx tab state = [] then later else ⟨idx, tab, state⟩ :: later

/-- `tab` is what became of the saved tab `s`. -/
def TabRestored (tab : Tab) (s : SurvivingTab) : Prop :=
  s.panes ctx ≠ [] ∧
  ∃ restored, RestoresTab ctx s.snap (savedTabNumber snap s.idx) s.state restored ∧
    restored.tab = tab

/-- What the loop over the tabs has done once the tabs of `done` have survived it and `count` panes
were met. -/
structure RestoresTabs (start : RestoreState) (count : Nat) (done : List SurvivingTab)
    (r : WorkspaceRestore) : Prop where
  tabs : List.Forall₂ (TabRestored ctx snap) r.tabs done
  panes : (done.flatMap (·.panes ctx)).Sublist (freshIds start.nextPaneId count)
  terminals : (terminalIds r.tabs).Perm
    (allocated ctx start.nextTerminal (done.flatMap (·.panes ctx)).length)
  numbers : snap.Migrates →
    RoomFor snap.migrated.2 (countUnkeyed snap.migrated.1 (done.flatMap (·.keyedPanes ctx))) →
    Numbered snap.migrated.2 (numberedBy snap.migrated.1 (done.flatMap (·.keyedPanes ctx)))
      r.numbers.panes r.numbers.nextPane
  nextTab : r.nextTab = (done.map fun s => wrappingSucc (savedTabNumber snap s.idx)).foldl max
    (nextPublicNumber snap.publicTabNumbers snap.nextPublicTabNumber)
  nextPaneId : r.state.nextPaneId = start.nextPaneId + UInt32.ofNat count
  nextTerminal : r.state.nextTerminal =
    start.nextTerminal + (done.flatMap (·.panes ctx)).length

variable {ctx snap}

lemma restoreNextTab_none {r : WorkspaceRestore} {tab : TabSnapshot} {idx : Nat}
    (hcount : tab.layout.paneIds.length ≤ 2 ^ 32) (hup : tabPanesUp ctx tab r.state = []) :
    restoreNextTab ctx snap snap.migrated.1 r (tab, idx) =
      { r with state := (restoreTab ctx tab (savedTabNumber snap idx) r.state).2 } := by
  have hnone := (restoreTab_spec ctx (savedTabNumber snap idx) r.state hcount).1.mpr hup
  unfold restoreNextTab
  dsimp only
  generalize restoreTab ctx tab (savedTabNumber snap idx) r.state = result at hnone ⊢
  obtain ⟨restored, state⟩ := result
  cases hnone
  rfl

lemma restoreNextTab_some (snap : WorkspaceSnapshot) (idx : Nat) {r : WorkspaceRestore}
    {tab : TabSnapshot}
    (hcount : tab.layout.paneIds.length ≤ 2 ^ 32) (hup : tabPanesUp ctx tab r.state ≠ []) :
    ∃ restored, RestoresTab ctx tab (savedTabNumber snap idx) r.state restored ∧
      restoreNextTab ctx snap snap.migrated.1 r (tab, idx) =
        { state := (restoreTab ctx tab (savedTabNumber snap idx) r.state).2
          tabs := r.tabs ++ [restored.tab]
          terminals := r.terminals ++ restored.terminals
          numbers := (tabPanesUp ctx tab r.state).foldl
            (numberPane snap.migrated.1 restored.reverseIdMap) r.numbers
          nextTab := max r.nextTab (wrappingSucc (savedTabNumber snap idx)) } := by
  obtain ⟨hnone, hsome, -, -⟩ := restoreTab_spec ctx (savedTabNumber snap idx) r.state hcount
  unfold restoreNextTab
  dsimp only
  generalize restoreTab ctx tab (savedTabNumber snap idx) r.state = result at hnone hsome ⊢
  obtain ⟨restored, state⟩ := result
  cases restored with
  | none => exact absurd (hnone.mp rfl) hup
  | some restored =>
    have hrestores := hsome restored rfl
    have hnumber := hrestores.number
    refine ⟨restored, hrestores, ?_⟩
    cases h : snap.publicTabNumbers[idx]? with
    | none => simp only [hnumber, hrestores.paneIds]
    | some number =>
      have hsaved : restored.tab.number = number := by
        rw [hnumber, savedTabNumber, h, Option.getD_some]
      simp only [← hsaved, ← hnumber, hrestores.paneIds]

lemma terminalIds_append (tabs : List Tab) (tab : Tab) :
    terminalIds (tabs ++ [tab]) =
      terminalIds tabs ++ (Table.values tab.panes).map PaneState.attachedTerminalId := by
  simp [terminalIds]

lemma allocated_add (m n k : Nat) :
    allocated ctx m (n + k) = allocated ctx m n ++ allocated ctx (m + n) k := by
  rw [allocated, ← List.range'_append_1, List.map_append]
  rfl

/-- One more tab. -/
lemma RestoresTabs.step {start : RestoreState} {count : Nat} {done : List SurvivingTab}
    {r : WorkspaceRestore} (h : RestoresTabs ctx snap start count done r) (tab : TabSnapshot)
    (idx : Nat) (hcount : count + tab.layout.paneIds.length ≤ 2 ^ 32) :
    RestoresTabs ctx snap start (count + tab.layout.paneIds.length)
      (done ++ survivingTabsFrom ctx snap r.state [(tab, idx)])
      (restoreNextTab ctx snap snap.migrated.1 r (tab, idx)) ∧
    (restoreNextTab ctx snap snap.migrated.1 r (tab, idx)).state =
      (restoreTab ctx tab (savedTabNumber snap idx) r.state).2 := by
  have hlen : tab.layout.paneIds.length ≤ 2 ^ 32 := by omega
  obtain ⟨-, -, hnext, hterm⟩ := restoreTab_spec ctx (savedTabNumber snap idx) r.state hlen
  have hnextPane : (restoreTab ctx tab (savedTabNumber snap idx) r.state).2.nextPaneId =
      start.nextPaneId + UInt32.ofNat (count + tab.layout.paneIds.length) := by
    rw [hnext, h.nextPaneId, UInt32.ofNat_add, UInt32.add_assoc]
  have hfresh := freshIds_add start.nextPaneId count tab.layout.paneIds.length
  rw [← h.nextPaneId] at hfresh
  by_cases hup : tabPanesUp ctx tab r.state = []
  · rw [restoreNextTab_none hlen hup]
    have hdone : done ++ survivingTabsFrom ctx snap r.state [(tab, idx)] = done := by
      simp [survivingTabsFrom, hup]
    rw [hdone]
    refine ⟨?_, rfl⟩
    exact
      { h with
        panes := by
          rw [hfresh]
          exact h.panes.trans (List.sublist_append_left _ _)
        nextPaneId := hnextPane
        nextTerminal := by rw [hterm, hup, h.nextTerminal, List.length_nil, Nat.add_zero] }
  · obtain ⟨restored, hrestores, hstep⟩ := restoreNextTab_some snap idx hlen hup
    rw [hstep]
    have hdone : survivingTabsFrom ctx snap r.state [(tab, idx)] = [⟨idx, tab, r.state⟩] := by
      simp [survivingTabsFrom, hup]
    rw [hdone]
    have hsub := tabPanesUp_sublist ctx tab r.state
    have hpanes : (done ++ [SurvivingTab.mk idx tab r.state]).flatMap (·.panes ctx) =
        done.flatMap (·.panes ctx) ++ tabPanesUp ctx tab r.state := by
      simp [SurvivingTab.panes]
    have hsublist : (done.flatMap (·.panes ctx) ++ tabPanesUp ctx tab r.state).Sublist
        (freshIds start.nextPaneId (count + tab.layout.paneIds.length)) := by
      rw [hfresh]
      exact h.panes.append hsub
    refine ⟨?_, rfl⟩
    constructor
    case tabs =>
      apply List.rel_append h.tabs
      exact .cons ⟨hup, restored, hrestores, rfl⟩ .nil
    case panes =>
      rw [hpanes]
      exact hsublist
    case terminals =>
      rw [terminalIds_append, hrestores.terminals, hpanes, List.length_append, allocated_add,
        ← h.nextTerminal]
      exact h.terminals.append (List.reverse_perm _)
    case numbers =>
      intro hmigrates hroom
      have hkeyed : (done ++ [SurvivingTab.mk idx tab r.state]).flatMap (·.keyedPanes ctx) =
          done.flatMap (·.keyedPanes ctx) ++ (tabPanesUp ctx tab r.state).map fun id =>
            (id, (restored.reverseIdMap.lookup id).getD id.raw) := by
        simp [SurvivingTab.keyedPanes, SurvivingTab.panes, savedKey, hrestores.reverseIdMap]
      rw [hkeyed] at hroom ⊢
      have hbefore := hroom.mono (countUnkeyed_append _ _ _ ▸ Nat.le_add_right _ _)
      apply foldl_numberPane restored.reverseIdMap (fun k n hn => lookup_migrated_lt hmigrates hn)
        (tabPanesUp ctx tab r.state) (h.numbers hmigrates hbefore) _ hroom
      rw [List.map_flatMap]
      simp only [SurvivingTab.map_fst_keyedPanes]
      exact hsublist.nodup (nodup_freshIds _ hcount)
    case nextTab =>
      rw [List.map_append, List.foldl_append, ← h.nextTab]
      rfl
    case nextPaneId => exact hnextPane
    case nextTerminal =>
      rw [hpanes, List.length_append, ← Nat.add_assoc, ← h.nextTerminal]
      exact hterm

lemma survivingTabsFrom_cons (state : RestoreState) (tab : TabSnapshot) (idx : Nat)
    (entries : List (TabSnapshot × Nat)) :
    survivingTabsFrom ctx snap state ((tab, idx) :: entries) =
      survivingTabsFrom ctx snap state [(tab, idx)] ++
        survivingTabsFrom ctx snap
          (restoreTab ctx tab (savedTabNumber snap idx) state).2 entries := by
  rw [survivingTabsFrom, survivingTabsFrom]
  split <;> simp [survivingTabsFrom]

/-- The number of panes in the layouts of the given tabs. -/
def countPanes (tabs : List TabSnapshot) : Nat :=
  (tabs.flatMap fun tab => tab.layout.paneIds).length

lemma countPanes_cons (tab : TabSnapshot) (tabs : List TabSnapshot) :
    countPanes (tab :: tabs) = tab.layout.paneIds.length + countPanes tabs := by
  simp [countPanes]

lemma countPanes_append (tabs tabs' : List TabSnapshot) :
    countPanes (tabs ++ tabs') = countPanes tabs + countPanes tabs' := by
  simp [countPanes]

lemma countPanes_take_succ {tabs : List TabSnapshot} {i : Nat} {tab : TabSnapshot}
    (h : tabs[i]? = some tab) :
    countPanes (tabs.take (i + 1)) = countPanes (tabs.take i) + tab.layout.paneIds.length := by
  rw [List.take_add_one, h, countPanes_append]
  simp [countPanes]

lemma countPanes_take_le (tabs : List TabSnapshot) {i j : Nat} (h : i ≤ j) :
    countPanes (tabs.take i) ≤ countPanes (tabs.take j) := by
  rw [← Nat.add_sub_cancel' h, List.take_add, countPanes_append]
  exact Nat.le_add_right _ _

lemma countPanes_take_le_total (tabs : List TabSnapshot) (i : Nat) :
    countPanes (tabs.take i) ≤ countPanes tabs := by
  have htotal := countPanes_append (tabs.take i) (tabs.drop i)
  rw [List.take_append_drop] at htotal
  omega

/-- The loop over the tabs of a workspace. -/
lemma RestoresTabs.foldl {start : RestoreState} (entries : List (TabSnapshot × Nat)) {count : Nat}
    {done : List SurvivingTab} {r : WorkspaceRestore}
    (h : RestoresTabs ctx snap start count done r)
    (hcount : count + countPanes (entries.map Prod.fst) ≤ 2 ^ 32) :
    RestoresTabs ctx snap start (count + countPanes (entries.map Prod.fst))
      (done ++ survivingTabsFrom ctx snap r.state entries)
      (entries.foldl (restoreNextTab ctx snap snap.migrated.1) r) := by
  induction entries generalizing count done r with
  | nil => simpa [survivingTabsFrom, countPanes] using h
  | cons entry entries ih =>
    obtain ⟨tab, idx⟩ := entry
    rw [List.map_cons, countPanes_cons, ← Nat.add_assoc] at hcount ⊢
    dsimp only at hcount ⊢
    obtain ⟨hstep, hstate⟩ := h.step tab idx (by omega)
    have hrest := ih hstep hcount
    rw [hstate, List.append_assoc, ← survivingTabsFrom_cons] at hrest
    exact hrest

/-- A surviving tab is one of the saved ones, and its panes follow those of the tabs before it. -/
lemma mem_survivingTabsFrom {state : RestoreState} {entries : List (TabSnapshot × Nat)}
    (hcount : countPanes (entries.map Prod.fst) ≤ 2 ^ 32) {s : SurvivingTab}
    (hs : s ∈ survivingTabsFrom ctx snap state entries) :
    s.panes ctx ≠ [] ∧ ∃ before after, entries = before ++ (s.snap, s.idx) :: after ∧
      s.state.nextPaneId =
        state.nextPaneId + UInt32.ofNat (countPanes (before.map Prod.fst)) := by
  induction entries generalizing state with
  | nil => simp [survivingTabsFrom] at hs
  | cons entry entries ih =>
    obtain ⟨tab, idx⟩ := entry
    rw [List.map_cons, countPanes_cons] at hcount
    dsimp only at hcount
    rw [survivingTabsFrom_cons, List.mem_append] at hs
    rcases hs with hs | hs
    · simp only [survivingTabsFrom, List.mem_ite_nil_left, List.mem_singleton] at hs
      obtain ⟨hup, rfl⟩ := hs
      exact ⟨hup, [], entries, rfl, by simp [countPanes]⟩
    · obtain ⟨hpanes, before, after, rfl, hnext⟩ := ih (by omega) hs
      refine ⟨hpanes, (tab, idx) :: before, after, rfl, ?_⟩
      rw [hnext, (restoreTab_spec ctx _ state (by omega)).2.2.1, List.map_cons,
        countPanes_cons, UInt32.ofNat_add, UInt32.add_assoc]

lemma survivingTabsFrom_idx_sublist (ctx : RestoreContext) (snap : WorkspaceSnapshot)
    (state : RestoreState) (entries : List (TabSnapshot × Nat)) :
    ((survivingTabsFrom ctx snap state entries).map SurvivingTab.idx).Sublist
      (entries.map Prod.snd) := by
  induction entries generalizing state with
  | nil => exact List.Sublist.refl _
  | cons entry entries ih =>
    obtain ⟨tab, idx⟩ := entry
    rw [survivingTabsFrom]
    split
    · exact (ih _).cons idx
    · exact (ih _).cons_cons idx

end

section
variable (ctx : RestoreContext) (snap : WorkspaceSnapshot) (state : RestoreState)

/-- The saved tabs that survive, in order. -/
def WorkspaceSnapshot.survivingTabs : List SurvivingTab :=
  survivingTabsFrom ctx snap
    { state with
      nextWorkspace := if snap.id.isSome then state.nextWorkspace else state.nextWorkspace + 1 }
    snap.tabs.zipIdx

/-- The ids the panes of a saved tab are given. -/
def WorkspaceSnapshot.newPaneIds (next : UInt32) (idx : Nat) : List PaneId :=
  freshIds (next + UInt32.ofNat (countPanes (snap.tabs.take idx)))
    ((snap.tabs[idx]?.map fun tab => tab.layout.paneIds.length).getD 0)

/-- The workspace built once the loop over the tabs has ended in `r`. -/
def WorkspaceSnapshot.builtFrom (r : WorkspaceRestore) : Workspace where
  id := snap.id.getD (ctx.generateWorkspaceId state.nextWorkspace)
  customName := snap.customName
  worktreeSpace := snap.worktreeSpace.filter ctx.worktreeIsCurrent
  publicPaneNumbers := r.numbers.panes
  nextPublicPaneNumber := r.numbers.nextPane
  nextPublicTabNumber := r.nextTab
  tabs := r.tabs
  activeTab := min snap.activeTab (r.tabs.length - 1)

variable {ctx snap state}

lemma RestoresTabs.tabs_eq_nil_iff {count : Nat} {done : List SurvivingTab} {r : WorkspaceRestore}
    (h : RestoresTabs ctx snap state count done r) : r.tabs = [] ↔ done = [] := by
  rw [← List.length_eq_zero_iff, ← List.length_eq_zero_iff, h.tabs.length_eq]

/-- Restoring a workspace, in terms of the tabs that survive. -/
lemma restoreWorkspace_spec (ctx : RestoreContext) (snap : WorkspaceSnapshot)
    (state : RestoreState) (hcount : countPanes snap.tabs ≤ 2 ^ 32) :
    ∃ r, RestoresTabs ctx snap state (countPanes snap.tabs) (snap.survivingTabs ctx state) r ∧
      restoreWorkspace ctx snap state =
        (if snap.survivingTabs ctx state = [] then none
          else some ⟨snap.builtFrom ctx state r, r.terminals⟩, r.state) := by
  have hstart : RestoresTabs ctx snap state 0 []
      ⟨{ state with
          nextWorkspace := if snap.id.isSome then state.nextWorkspace else state.nextWorkspace + 1 },
        [], [], ⟨∅, snap.migrated.2⟩,
        nextPublicNumber snap.publicTabNumbers snap.nextPublicTabNumber⟩ :=
    { tabs := .nil
      panes := List.nil_sublist _
      terminals := List.Perm.refl _
      numbers := fun _ _ => .nil _
      nextTab := rfl
      nextPaneId := (UInt32.add_zero _).symm
      nextTerminal := rfl }
  have hentries : snap.tabs.zipIdx.map Prod.fst = snap.tabs := List.zipIdx_map_fst ..
  have hend := hstart.foldl snap.tabs.zipIdx (by rw [hentries]; omega)
  rw [hentries, Nat.zero_add, List.nil_append] at hend
  generalize hr : snap.tabs.zipIdx.foldl _ _ = r at hend
  have hdef : restoreWorkspace ctx snap state =
      if r.tabs.isEmpty then (none, r.state)
      else (some ⟨snap.builtFrom ctx state r, r.terminals⟩, r.state) := by
    rw [← hr]
    rfl
  refine ⟨r, hend, ?_⟩
  have hnil : r.tabs.isEmpty = true ↔ snap.survivingTabs ctx state = [] :=
    List.isEmpty_iff.trans hend.tabs_eq_nil_iff
  rw [hdef]
  by_cases hsurvive : snap.survivingTabs ctx state = []
  · rw [if_pos hsurvive, if_pos (hnil.mpr hsurvive)]
  · rw [if_neg hsurvive, if_neg (mt hnil.mp hsurvive)]

end

end Ork3.Persist
