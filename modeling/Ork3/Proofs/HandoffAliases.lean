import Ork3.Library.Nested
import Ork3.Proofs.RestoredWorkspaces

/-!
# The pane aliases of a handoff

A restored pane has a fresh id, given to its saved pane before anything is started. The aliases are
built later, by walking the saved and the restored panes side by side.
-/

namespace Ork3.Persist

open Ork3.Library Ork3.Layout Ork3.Terminal Ork3.Workspaces

/-! ### Saved, given and restored ids -/

/-- The ids of the saved panes, by workspace, tab and leaf. -/
def SessionSnapshot.savedIds (snapshot : SessionSnapshot) : List (List (List UInt32)) :=
  snapshot.workspaces.map fun ws => ws.tabs.map fun tab => tab.layout.paneIds

/-- The fresh ids given to the saved panes of a workspace. -/
def givenTabIds : UInt32 → List TabSnapshot → List (List PaneId)
  | _, [] => []
  | next, tab :: tabs =>
    freshIds next tab.layout.paneIds.length ::
      givenTabIds (next + UInt32.ofNat tab.layout.paneIds.length) tabs

/-- The fresh ids given to the saved panes of a session. -/
def givenIds : UInt32 → List WorkspaceSnapshot → List (List (List PaneId))
  | _, [] => []
  | next, ws :: rest =>
    givenTabIds next ws.tabs :: givenIds (next + UInt32.ofNat (countPanes ws.tabs)) rest

/-- The ids of the restored panes, by workspace, tab and leaf. -/
def restoredIds (workspaces : List Workspace) : List (List (List PaneId)) :=
  workspaces.map fun ws => ws.tabs.map fun tab => tab.layout.paneIds

/-! ### Restored panes have the ids given to their saved panes -/

section
variable (ctx : RestoreContext)

lemma survivingTabs_given (snap : WorkspaceSnapshot) (state : RestoreState)
    (entries : List (TabSnapshot × Nat)) (hcount : countPanes (entries.map Prod.fst) ≤ 2 ^ 32) :
    List.SublistForall₂ List.Sublist
      ((survivingTabsFrom ctx snap state entries).map (·.panes ctx))
      (givenTabIds state.nextPaneId (entries.map Prod.fst)) := by
  induction entries generalizing state with
  | nil => exact .nil
  | cons entry entries ih =>
    obtain ⟨tab, idx⟩ := entry
    rw [List.map_cons, countPanes_cons] at hcount
    dsimp only at hcount
    have htab : tab.layout.paneIds.length ≤ 2 ^ 32 := by omega
    have hnext := (restoreTab_spec ctx (savedTabNumber snap idx) state htab).2.2.1
    have hrest := ih (restoreTab ctx tab (savedTabNumber snap idx) state).2 (by omega)
    rw [hnext] at hrest
    rw [survivingTabsFrom, List.map_cons, givenTabIds]
    split
    · exact .cons_right hrest
    · exact .cons (tabPanesUp_sublist ctx tab state) hrest

lemma map_paneIds_eq {snap : WorkspaceSnapshot} {tabs : List Tab} {done : List SurvivingTab}
    (h : List.Forall₂ (TabRestored ctx snap) tabs done) :
    (tabs.map fun tab => tab.layout.paneIds) = done.map (·.panes ctx) := by
  induction h with
  | nil => rfl
  | cons hhead _ ih =>
    obtain ⟨-, restored, hrestores, rfl⟩ := hhead
    rw [List.map_cons, List.map_cons, hrestores.paneIds, ih]
    rfl

lemma restoreWorkspace_given (snap : WorkspaceSnapshot) (state : RestoreState)
    (hcount : countPanes snap.tabs ≤ 2 ^ 32) :
    (restoreWorkspace ctx snap state).2.nextPaneId =
      state.nextPaneId + UInt32.ofNat (countPanes snap.tabs) ∧
    ∀ restored, (restoreWorkspace ctx snap state).1 = some restored →
      List.SublistForall₂ List.Sublist
        (restored.workspace.tabs.map fun tab => tab.layout.paneIds)
        (givenTabIds state.nextPaneId snap.tabs) := by
  obtain ⟨r, hr, hrestore⟩ := restoreWorkspace_spec ctx snap state hcount
  rw [hrestore]
  refine ⟨hr.nextPaneId, ?_⟩
  intro restored hrestored
  have hentries : snap.tabs.zipIdx.map Prod.fst = snap.tabs := List.zipIdx_map_fst ..
  have hgiven := survivingTabs_given ctx snap
    { state with
      nextWorkspace := if snap.id.isSome then state.nextWorkspace else state.nextWorkspace + 1 }
    snap.tabs.zipIdx (by rw [hentries]; exact hcount)
  rw [hentries] at hgiven
  change List.SublistForall₂ _ ((snap.survivingTabs ctx state).map (·.panes ctx)) _ at hgiven
  dsimp only at hrestored
  split at hrestored
  · cases hrestored
  · cases hrestored
    rw [← map_paneIds_eq ctx hr.tabs] at hgiven
    exact hgiven

lemma foldl_restoreNextWorkspace_given (snaps : List WorkspaceSnapshot) (r : SessionRestore)
    (hcount : countPanes (snaps.flatMap (·.tabs)) ≤ 2 ^ 32) :
    ∃ restored, (snaps.foldl (restoreNextWorkspace ctx) r).workspaces = r.workspaces ++ restored ∧
      List.SublistForall₂ (List.SublistForall₂ List.Sublist) (restoredIds restored)
        (givenIds r.state.nextPaneId snaps) := by
  induction snaps generalizing r with
  | nil => exact ⟨[], by simp, .nil⟩
  | cons snap snaps ih =>
    rw [List.flatMap_cons, countPanes_append] at hcount
    obtain ⟨hnext, hgiven⟩ := restoreWorkspace_given ctx snap r.state (by omega)
    obtain ⟨restored, hworkspaces, hrest⟩ := ih (restoreNextWorkspace ctx r snap) (by omega)
    rw [List.foldl_cons, givenIds]
    unfold restoreNextWorkspace at hworkspaces hrest ⊢
    generalize restoreWorkspace ctx snap r.state = result at hnext hgiven hworkspaces hrest ⊢
    obtain ⟨one, state⟩ := result
    cases one with
    | none =>
      dsimp only at hnext hworkspaces hrest ⊢
      rw [hnext] at hrest
      exact ⟨restored, hworkspaces, .cons_right hrest⟩
    | some one =>
      dsimp only at hnext hworkspaces hrest ⊢
      rw [hnext] at hrest
      rw [List.append_assoc, List.singleton_append] at hworkspaces
      exact ⟨one.workspace :: restored, hworkspaces, .cons (hgiven one rfl) hrest⟩

lemma length_flatten_savedIds (snapshot : SessionSnapshot) :
    snapshot.savedIds.flatten.flatten.length =
      countPanes (snapshot.workspaces.flatMap (·.tabs)) := by
  unfold SessionSnapshot.savedIds countPanes
  generalize snapshot.workspaces = snaps
  induction snaps with
  | nil => rfl
  | cons ws snaps ih =>
    rw [List.map_cons, List.flatten_cons, List.flatten_append, List.length_append, ih,
      List.flatMap_cons, List.flatMap_append, List.length_append]
    rfl

/-- Distinct ids of 32 bits are not more than there are. -/
lemma countPanes_le_of_nodup {snapshot : SessionSnapshot}
    (hdistinct : snapshot.savedIds.flatten.flatten.Nodup) :
    countPanes (snapshot.workspaces.flatMap (·.tabs)) ≤ 2 ^ 32 := by
  rw [← length_flatten_savedIds]
  have hnodup := hdistinct.map fun _ _ h => UInt32.toNat_inj.mp h
  have hrange : snapshot.savedIds.flatten.flatten.map UInt32.toNat ⊆ List.range (2 ^ 32) := by
    intro n hn
    obtain ⟨id, -, rfl⟩ := List.mem_map.mp hn
    exact List.mem_range.mpr id.toNat_lt
  have hlength := (hnodup.subperm hrange).length_le
  rwa [List.length_map, List.length_range] at hlength

/-- What is restored has the ids that were given to the panes of its saved workspaces, tabs and
leaves, in their order. -/
theorem restoredIds_sublist_givenIds (snapshot : SessionSnapshot) (nextPaneId : UInt32)
    (nextTerminal nextWorkspace : Nat) (importedPanes : Finset UInt32)
    (hdistinct : snapshot.savedIds.flatten.flatten.Nodup) :
    List.SublistForall₂ (List.SublistForall₂ List.Sublist)
      (restoredIds (restoreWithImports ctx snapshot nextPaneId nextTerminal nextWorkspace
        importedPanes).workspaces)
      (givenIds nextPaneId snapshot.workspaces) := by
  obtain ⟨restored, hworkspaces, hgiven⟩ := foldl_restoreNextWorkspace_given ctx
    snapshot.workspaces
    ⟨⟨nextPaneId, nextTerminal, nextWorkspace, ∅, importedPanes, 0⟩, [], ∅⟩
    (countPanes_le_of_nodup hdistinct)
  rw [restoreWithImports, hworkspaces]
  exact hgiven

end

/-! ### The aliases -/

/-- Every alias leads from a saved pane to the pane restored with the id given to that one, and a
saved pane whose id nothing was restored with has no alias. -/
structure AliasesRight (saved : List (List (List UInt32)))
    (given restored : List (List (List PaneId))) (aliases : Table UInt32 PaneId) : Prop where
  leads : ∀ old new, aliases.lookup old = some new →
    ∃ p, leafAt saved p = some old ∧ leafAt given p = some new ∧
      ∃ q, leafAt restored q = some new
  lost : ∀ p old new, leafAt saved p = some old → leafAt given p = some new →
    (∀ q, leafAt restored q ≠ some new) → aliases.lookup old = none

/-- A restored pane stands where its saved pane stood, except where no saved pane stands, or one
whose number is that of the restored pane. -/
def PanesInPlace (saved : List (List (List UInt32)))
    (given restored : List (List (List PaneId))) : Prop :=
  ∀ p old new, leafAt saved p = some old → leafAt restored p = some new → old ≠ new.raw →
    leafAt given p = some new

lemma handoffPaneAliases_eq (snapshot : SessionSnapshot) (workspaces : List Workspace) :
    handoffPaneAliases snapshot workspaces =
      Table.collect ((zipLeaves snapshot.savedIds (restoredIds workspaces)).filter
        fun e => e.1 ≠ e.2.raw) := by
  unfold handoffPaneAliases zipLeaves SessionSnapshot.savedIds restoredIds
  simp only [List.zip_map, List.flatMap_map, Prod.map_fst, Prod.map_snd]

lemma lookup_handoffPaneAliases {snapshot : SessionSnapshot} {workspaces : List Workspace}
    (hdistinct : snapshot.savedIds.flatten.flatten.Nodup) {old : UInt32} {new : PaneId} :
    (handoffPaneAliases snapshot workspaces).lookup old = some new ↔
      ∃ p, leafAt snapshot.savedIds p = some old ∧
        leafAt (restoredIds workspaces) p = some new ∧ old ≠ new.raw := by
  have hmem {new : PaneId} :
      (old, new) ∈ (zipLeaves snapshot.savedIds (restoredIds workspaces)).filter
          (fun e => e.1 ≠ e.2.raw) ↔
        ∃ p, leafAt snapshot.savedIds p = some old ∧
          leafAt (restoredIds workspaces) p = some new ∧ old ≠ new.raw := by
    rw [List.mem_filter, mem_zipLeaves]
    simp only [decide_eq_true_eq, exists_and_right, ← and_assoc]
  rw [handoffPaneAliases_eq]
  constructor
  · intro h
    exact hmem.mp (Table.mem_of_lookup_collect h)
  · intro h
    refine Table.lookup_collect_of_agree (hmem.mpr h) ?_
    intro new' h'
    obtain ⟨p, hp, hnew, -⟩ := h
    obtain ⟨p', hp', hnew', -⟩ := hmem.mp h'
    rw [leafAt_injective hdistinct hp hp', hnew'] at hnew
    exact Option.some.inj hnew

/-- The aliases of a handoff are right exactly when the restored panes stand where their saved panes
stood. -/
theorem handoffPaneAliases_right_iff (ctx : RestoreContext) (snapshot : SessionSnapshot)
    (nextPaneId : UInt32) (nextTerminal nextWorkspace : Nat) (importedPanes : Finset UInt32)
    (hdistinct : snapshot.savedIds.flatten.flatten.Nodup) :
    let workspaces := (restoreWithImports ctx snapshot nextPaneId nextTerminal nextWorkspace
      importedPanes).workspaces
    let given := givenIds nextPaneId snapshot.workspaces
    AliasesRight snapshot.savedIds given (restoredIds workspaces)
        (handoffPaneAliases snapshot workspaces) ↔
      PanesInPlace snapshot.savedIds given (restoredIds workspaces) := by
  intro workspaces given
  constructor
  · intro hright p old new hold hnew hne
    have hlookup := (lookup_handoffPaneAliases hdistinct).mpr ⟨p, hold, hnew, hne⟩
    obtain ⟨p', hold', hgiven, -⟩ := hright.leads old new hlookup
    rw [leafAt_injective hdistinct hold hold']
    exact hgiven
  · intro hplace
    have hrestored (old : UInt32) (new : PaneId)
        (hlookup : (handoffPaneAliases snapshot workspaces).lookup old = some new) :
        ∃ p, leafAt snapshot.savedIds p = some old ∧ leafAt given p = some new ∧
          ∃ q, leafAt (restoredIds workspaces) q = some new := by
      obtain ⟨p, hold, hnew, hne⟩ := (lookup_handoffPaneAliases hdistinct).mp hlookup
      exact ⟨p, hold, hplace p old new hold hnew hne, p, hnew⟩
    refine ⟨hrestored, ?_⟩
    intro p old new hold hgiven hlost
    by_contra hsome
    obtain ⟨new', hlookup⟩ := Option.ne_none_iff_exists'.mp hsome
    obtain ⟨p', hold', hgiven', q, hq⟩ := hrestored old new' hlookup
    rw [leafAt_injective hdistinct hold hold', hgiven', Option.some.injEq] at hgiven
    exact hlost q (hgiven ▸ hq)

/-! ### A pane that cannot be restored -/

/-- A session of three tabs. The panes `2` and `3` are handed over, the pane `1` has to be started
anew and does not start. -/
def threeTabSession : SessionSnapshot := ⟨[threeTabs], some 0, 0⟩

def handoffContext : RestoreContext := { firstSpawnFails with resumeAgentsOnRestore := true }

theorem handoffPaneAliases_right_iff_threeTabs :
    threeTabSession.savedIds.flatten.flatten.Nodup ∧
    (let workspaces := (restoreWithImports handoffContext threeTabSession 1 0 1 {2, 3}).workspaces
    let given := givenIds 1 threeTabSession.workspaces
    AliasesRight threeTabSession.savedIds given (restoredIds workspaces)
        (handoffPaneAliases threeTabSession workspaces) ↔
      PanesInPlace threeTabSession.savedIds given (restoredIds workspaces)) :=
  ⟨by decide, handoffPaneAliases_right_iff handoffContext threeTabSession 1 0 1 {2, 3} (by decide)⟩

/-- Every pane that was handed over is restored, and the alias of the lost pane `1` leads to the
pane that was `2`. -/
theorem handoffPaneAliases_shifted :
    let r := restoreWithImports handoffContext threeTabSession 1 0 1 {2, 3}
    r.state.failedImports = 0 ∧ r.state.importedPanes = ∅ ∧
    givenIds 1 threeTabSession.workspaces = [[[⟨1⟩], [⟨2⟩], [⟨3⟩]]] ∧
    restoredIds r.workspaces = [[[⟨2⟩], [⟨3⟩]]] ∧
    (handoffPaneAliases threeTabSession r.workspaces).lookup 1 = some ⟨2⟩ ∧
    ¬AliasesRight threeTabSession.savedIds (givenIds 1 threeTabSession.workspaces)
      (restoredIds r.workspaces) (handoffPaneAliases threeTabSession r.workspaces) := by
  intro r
  have halias : (handoffPaneAliases threeTabSession r.workspaces).lookup 1 = some ⟨2⟩ := by
    decide +kernel
  refine ⟨by decide +kernel, by decide +kernel, by decide +kernel, by decide +kernel, halias, ?_⟩
  intro hright
  obtain ⟨p, hsaved, hgiven, -⟩ := hright.leads 1 ⟨2⟩ halias
  have hfirst : leafAt threeTabSession.savedIds (0, 0, 0) = some 1 := by decide
  rw [leafAt_injective (by decide) hsaved hfirst] at hgiven
  revert hgiven
  decide

end Ork3.Persist
