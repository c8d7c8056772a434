import Ork3.Model.AppChanges
import Ork3.Proofs.PanesBrought
import Ork3.Proofs.PublicIds

/-!
# Identities

The workspaces of the application have nothing in common, their ids come from the generator, and
every public id that became an alias belongs to no pane any more.
-/

namespace Ork3.App

open Ork3.Library Ork3.Layout Ork3.Workspaces

/-! ### Workspaces with nothing in common -/

structure Apart (ws ws' : Workspace) : Prop where
  ids : ws.id ≠ ws'.id
  panes : ∀ paneId ∈ paneIds ws.tabs, paneId ∉ paneIds ws'.tabs
  terminals : ∀ terminalId ∈ terminalIds ws.tabs, terminalId ∉ terminalIds ws'.tabs

lemma Apart.symm {ws ws' : Workspace} (h : Apart ws ws') : Apart ws' ws where
  ids := h.ids.symm
  panes paneId hpane hpane' := h.panes paneId hpane' hpane
  terminals terminalId hterm hterm' := h.terminals terminalId hterm' hterm

/-- The public id was given to a pane that has left the workspace since. -/
def Retired (workspaces : List Workspace) (nextId : Nat) (key : String) : Prop :=
  ∃ n k, 0 < n ∧ n < nextId ∧ 0 < k ∧ key = publicPaneIdForNumber (generateWorkspaceId n) k ∧
    ∀ ws ∈ workspaces, ws.id = generateWorkspaceId n →
      k < ws.nextPublicPaneNumber ∧ ∀ paneId, ws.publicPaneNumbers.lookup paneId ≠ some k

structure Identified (workspaces : List Workspace) (aliases : Table String PaneId) (nextId : Nat) :
    Prop where
  apart : workspaces.Pairwise Apart
  valid : ∀ ws ∈ workspaces, ws.Consistent ∧ ws.ActiveInRange
  generated : ∀ ws ∈ workspaces, ∃ n, 0 < n ∧ n < nextId ∧ ws.id = generateWorkspaceId n
  retired : ∀ key paneId, aliases.lookup key = some paneId → Retired workspaces nextId key
  next_pos : 0 < nextId

section
variable {workspaces workspaces' rest : List Workspace} {aliases aliases' : Table String PaneId}
  {nextId : Nat} {ws ws' : Workspace} {key : String}

lemma Retired.mono (h : Retired workspaces nextId key) {nextId' : Nat} (hnext : nextId ≤ nextId')
    (hsub : workspaces' ⊆ workspaces) : Retired workspaces' nextId' key := by
  obtain ⟨n, k, hn, hlt, hk, hkey, hretired⟩ := h
  exact ⟨n, k, hn, hlt.trans_le hnext, hk, hkey, fun ws hws => hretired ws (hsub hws)⟩

lemma Retired.replace (h : Retired (ws :: rest) nextId key) (hid : ws'.id = ws.id)
    (hkeeps : KeepsNumbers ws ws') : Retired (ws' :: rest) nextId key := by
  obtain ⟨n, k, hn, hlt, hk, hkey, hretired⟩ := h
  refine ⟨n, k, hn, hlt, hk, hkey, fun other hother hotherId => ?_⟩
  obtain rfl | hother := List.mem_cons.mp hother
  · obtain ⟨hbelow, hnone⟩ := hretired ws List.mem_cons_self (hid.symm.trans hotherId)
    refine ⟨hbelow.trans_le hkeeps.next_pane_le, fun paneId hpane => ?_⟩
    exact hnone paneId (hkeeps.pane paneId k hpane hbelow)
  · exact hretired other (List.mem_cons_of_mem ws hother) hotherId

lemma Identified.perm (h : Identified workspaces aliases nextId)
    (hperm : workspaces'.Perm workspaces) : Identified workspaces' aliases nextId where
  apart := (hperm.pairwise_iff fun hapart => hapart.symm).mpr h.apart
  valid ws hws := h.valid ws (hperm.mem_iff.mp hws)
  generated ws hws := h.generated ws (hperm.mem_iff.mp hws)
  retired key paneId hkey := (h.retired key paneId hkey).mono le_rfl hperm.subset
  next_pos := h.next_pos

lemma Identified.sublist (h : Identified workspaces aliases nextId)
    (hsub : workspaces'.Sublist workspaces) : Identified workspaces' aliases nextId where
  apart := h.apart.sublist hsub
  valid ws hws := h.valid ws (hsub.subset hws)
  generated ws hws := h.generated ws (hsub.subset hws)
  retired key paneId hkey := (h.retired key paneId hkey).mono le_rfl hsub.subset
  next_pos := h.next_pos

lemma Identified.aliases_mono (h : Identified workspaces aliases nextId)
    (hsub : ∀ key paneId, aliases'.lookup key = some paneId → aliases.lookup key = some paneId) :
    Identified workspaces aliases' nextId where
  apart := h.apart
  valid := h.valid
  generated := h.generated
  retired key paneId hkey := h.retired key paneId (hsub key paneId hkey)
  next_pos := h.next_pos

lemma Identified.next_mono (h : Identified workspaces aliases nextId) {nextId' : Nat}
    (hnext : nextId ≤ nextId') : Identified workspaces aliases nextId' where
  apart := h.apart
  valid := h.valid
  generated ws hws := by
    obtain ⟨n, hn, hlt, hid⟩ := h.generated ws hws
    exact ⟨n, hn, hlt.trans_le hnext, hid⟩
  retired key paneId hkey := (h.retired key paneId hkey).mono hnext (List.Subset.refl _)
  next_pos := h.next_pos.trans_le hnext

/-- What a workspace shows beside what it showed before is shown by no other one. -/
def FreshIn (others : List Workspace) (brought : List (PaneId × TerminalId)) : Prop :=
  ∀ paneId terminalId, (paneId, terminalId) ∈ brought → ∀ other ∈ others,
    paneId ∉ paneIds other.tabs ∧ terminalId ∉ terminalIds other.tabs

lemma FreshIn.mono {brought : List (PaneId × TerminalId)} (h : FreshIn workspaces brought)
    (hsub : workspaces' ⊆ workspaces) : FreshIn workspaces' brought :=
  fun paneId terminalId hbrought other hother =>
    h paneId terminalId hbrought other (hsub hother)

lemma Apart.of_brings {brought : List (PaneId × TerminalId)} {other : Workspace}
    (h : Apart ws other) (hbrings : Brings ws ws' brought) (hfresh : FreshIn [other] brought) :
    Apart ws' other where
  ids := by
    rw [hbrings.id]
    exact h.ids
  panes paneId hpane := by
    obtain ⟨terminalId, hshows⟩ := mem_paneIds_iff_shows.mp hpane
    obtain hold | hnew := hbrings.shows paneId terminalId hshows
    · exact h.panes paneId (mem_paneIds_iff_shows.mpr ⟨_, hold⟩)
    · exact (hfresh paneId terminalId hnew other List.mem_cons_self).1
  terminals terminalId hterm := by
    obtain ⟨paneId, hshows⟩ := mem_terminalIds_iff_shows.mp hterm
    obtain hold | hnew := hbrings.shows paneId terminalId hshows
    · exact h.terminals terminalId (mem_terminalIds_iff_shows.mpr ⟨_, hold⟩)
    · exact (hfresh paneId terminalId hnew other List.mem_cons_self).2

lemma Identified.replace (h : Identified (ws :: rest) aliases nextId)
    (hvalid : ws'.Consistent ∧ ws'.ActiveInRange) (hkeeps : KeepsNumbers ws ws')
    {brought : List (PaneId × TerminalId)} (hbrings : Brings ws ws' brought)
    (hfresh : FreshIn rest brought) : Identified (ws' :: rest) aliases nextId := by
  obtain ⟨hhead, hrest⟩ := List.pairwise_cons.mp h.apart
  exact {
    apart := List.pairwise_cons.mpr ⟨fun other hother => (hhead other hother).of_brings hbrings
      (hfresh.mono (List.cons_subset.mpr ⟨hother, List.nil_subset _⟩)), hrest⟩
    valid := fun other hother => by
      obtain rfl | hother := List.mem_cons.mp hother
      · exact hvalid
      · exact h.valid other (List.mem_cons_of_mem ws hother)
    generated := fun other hother => by
      obtain rfl | hother := List.mem_cons.mp hother
      · rw [hbrings.id]
        exact h.generated ws List.mem_cons_self
      · exact h.generated other (List.mem_cons_of_mem ws hother)
    retired := fun key paneId hkey => (h.retired key paneId hkey).replace hbrings.id hkeeps
    next_pos := h.next_pos }

lemma getElem?_perm {α : Type*} {xs : List α} {i : Nat} {x : α} (hx : xs[i]? = some x) :
    xs.Perm (x :: xs.eraseIdx i) := by
  obtain ⟨hlt, rfl⟩ := List.getElem?_eq_some_iff.mp hx
  exact (List.getElem_cons_eraseIdx_perm hlt).symm

lemma set_perm {α : Type*} {xs : List α} {i : Nat} {x : α} (hx : xs[i]? = some x) (y : α) :
    (xs.set i y).Perm (y :: xs.eraseIdx i) :=
  List.set_perm_cons_eraseIdx (List.getElem?_eq_some_iff.mp hx).1 y

/-- A workspace changes. -/
lemma Identified.set (h : Identified workspaces aliases nextId) {i : Nat}
    (hws : workspaces[i]? = some ws) (hvalid : ws'.Consistent ∧ ws'.ActiveInRange)
    (hkeeps : KeepsNumbers ws ws') {brought : List (PaneId × TerminalId)}
    (hbrings : Brings ws ws' brought) (hfresh : FreshIn (workspaces.eraseIdx i) brought) :
    Identified (workspaces.set i ws') aliases nextId :=
  ((h.perm (getElem?_perm hws).symm).replace hvalid hkeeps hbrings hfresh).perm (set_perm hws ws')

lemma generateWorkspaceId_ne {n : Nat} (hn : 0 < n) (hlt : n < nextId) :
    generateWorkspaceId n ≠ generateWorkspaceId nextId := by
  intro he
  have := generateWorkspaceId_injOn hn (hn.trans hlt) he
  omega

/-- A workspace comes with a new id. -/
lemma Identified.push (h : Identified workspaces aliases nextId)
    (hvalid : ws.Consistent ∧ ws.ActiveInRange) (hid : ws.id = generateWorkspaceId nextId)
    {brought : List (PaneId × TerminalId)}
    (hshows : ∀ paneId terminalId, Shows ws.tabs paneId terminalId →
      (paneId, terminalId) ∈ brought) (hfresh : FreshIn workspaces brought) :
    Identified (workspaces ++ [ws]) aliases (nextId + 1) := by
  suffices hcons : Identified (ws :: workspaces) aliases (nextId + 1) from
    hcons.perm List.perm_append_comm
  exact {
    apart := List.pairwise_cons.mpr ⟨fun other hother => {
        ids := by
          obtain ⟨n, hn, hlt, hother⟩ := h.generated other hother
          rw [hid, hother]
          exact (generateWorkspaceId_ne hn hlt).symm
        panes := fun paneId hpane => by
          obtain ⟨terminalId, hpane⟩ := mem_paneIds_iff_shows.mp hpane
          exact (hfresh paneId terminalId (hshows _ _ hpane) other hother).1
        terminals := fun terminalId hterm => by
          obtain ⟨paneId, hpane⟩ := mem_terminalIds_iff_shows.mp hterm
          exact (hfresh paneId terminalId (hshows _ _ hpane) other hother).2 }, h.apart⟩
    valid := fun other hother => by
      obtain rfl | hother := List.mem_cons.mp hother
      · exact hvalid
      · exact h.valid other hother
    generated := fun other hother => by
      obtain rfl | hother := List.mem_cons.mp hother
      · exact ⟨nextId, h.next_pos, Nat.lt_succ_self _, hid⟩
      · obtain ⟨n, hn, hlt, hother⟩ := h.generated other hother
        exact ⟨n, hn, hlt.trans (Nat.lt_succ_self _), hother⟩
    retired := fun key paneId hkey => by
      obtain ⟨n, k, hn, hlt, hk, hkey, hretired⟩ := h.retired key paneId hkey
      refine ⟨n, k, hn, hlt.trans (Nat.lt_succ_self _), hk, hkey, fun other hother hotherId => ?_⟩
      obtain rfl | hother := List.mem_cons.mp hother
      · exact absurd (hotherId.symm.trans hid) (generateWorkspaceId_ne hn hlt)
      · exact hretired other hother hotherId
    next_pos := Nat.succ_pos _ }

/-- The public id of a pane that left becomes an alias. -/
lemma Identified.insert_alias (h : Identified workspaces aliases nextId) {key : String}
    (hretired : Retired workspaces nextId key) (paneId : PaneId) :
    Identified workspaces (aliases.insert key paneId) nextId where
  apart := h.apart
  valid := h.valid
  generated := h.generated
  retired key' paneId' hkey := by
    rw [Table.lookup_insert_eq] at hkey
    split at hkey
    case isTrue he =>
      rw [he]
      exact hretired
    case isFalse => exact h.retired key' paneId' hkey
  next_pos := h.next_pos

end

end Ork3.App
