import Ork3.Proofs.Tab

/-!
# Replacing tabs

Every operation takes some tabs out of a workspace and puts some in. `Change` says what must hold of
the tabs put in, and this is enough for the workspace to stay consistent and for every number
to stay with the tab or the pane that it was given to.
-/

namespace Ork3.Workspaces
open Ork3.Library Ork3.Layout

/-! ### Lists of which a part is replaced -/

lemma nodup_of_origin {α : Type*} {before after rest : List α} (h : (before ++ rest).Nodup)
    (ha : after.Nodup) (ho : ∀ x ∈ after, x ∈ before ∨ x ∉ before ++ rest) :
    (after ++ rest).Nodup := by
  rw [List.nodup_append] at h ⊢
  refine ⟨ha, h.2.1, fun x hx y hy => ?_⟩
  rcases ho x hx with hold | hnew
  · exact h.2.2 x hold y hy
  · rintro rfl
    exact hnew (List.mem_append.mpr (.inr hy))

section Tabs
variable {tabs tabs' : List Tab}

lemma paneIds_perm (h : tabs.Perm tabs') : (paneIds tabs).Perm (paneIds tabs') :=
  h.flatMap_right _

lemma terminalIds_perm (h : tabs.Perm tabs') : (terminalIds tabs).Perm (terminalIds tabs') :=
  h.flatMap_right _

@[simp] lemma paneIds_append : paneIds (tabs ++ tabs') = paneIds tabs ++ paneIds tabs' :=
  List.flatMap_append

@[simp] lemma terminalIds_append :
    terminalIds (tabs ++ tabs') = terminalIds tabs ++ terminalIds tabs' :=
  List.flatMap_append

@[simp] lemma paneIds_nil : paneIds [] = [] := rfl

@[simp] lemma terminalIds_nil : terminalIds [] = [] := rfl

@[simp] lemma paneIds_singleton (tab : Tab) : paneIds [tab] = tab.panes.keys := by
  simp [paneIds]

@[simp] lemma terminalIds_singleton (tab : Tab) : terminalIds [tab] = terminalsOf tab.panes := by
  simp [terminalIds, terminalsOf]

lemma mem_paneIds {id : PaneId} : id ∈ paneIds tabs ↔ ∃ tab ∈ tabs, id ∈ tab.panes := by
  simp only [paneIds, List.mem_flatMap, AList.mem_keys]

end Tabs

/-! ### One step -/

/-- Two tabs at consecutive times are the same tab when they have a pane in common. -/
def Tab.Continues (old new : Tab) : Prop :=
  ∃ id, id ∈ old.panes ∧ id ∈ new.panes

/-- Public pane numbers are dropped, or the next one is given to a pane. -/
def RegistersAtMostOne (ws ws' : Workspace) : Prop :=
  (ws'.nextPublicPaneNumber = ws.nextPublicPaneNumber ∧
    ∀ id n, ws'.publicPaneNumbers.lookup id = some n → ws.publicPaneNumbers.lookup id = some n) ∨
  ∃ id, ws'.nextPublicPaneNumber = ws.nextPublicPaneNumber + 1 ∧
    ws'.publicPaneNumbers = ws.publicPaneNumbers.insert id ws.nextPublicPaneNumber

/-- The tabs `before` gave way to the tabs `after`: whatever `after` shows was already shown by
`before`, or is new to the workspace. -/
structure Change (ws ws' : Workspace) (before after rest : List Tab) : Prop where
  tabs : ws.tabs.Perm (before ++ rest)
  tabs' : ws'.tabs.Perm (after ++ rest)
  valid : ∀ tab ∈ after, tab.Valid
  numbers_nodup : (after.map Tab.number).Nodup
  number_origin : ∀ tab ∈ after,
    (∃ old ∈ before, old.number = tab.number ∧ old.Continues tab) ∨
    ws.nextPublicTabNumber ≤ tab.number
  number_lt : ∀ tab ∈ after, tab.number < ws'.nextPublicTabNumber
  next_tab_le : ws.nextPublicTabNumber ≤ ws'.nextPublicTabNumber
  panes_nodup : (paneIds after).Nodup
  pane_origin : ∀ id ∈ paneIds after, id ∈ paneIds before ∨ id ∉ paneIds ws.tabs
  terminals_nodup : (terminalIds after).Nodup
  terminal_origin : ∀ id ∈ terminalIds after, id ∈ terminalIds before ∨ id ∉ terminalIds ws.tabs
  public_iff : ∀ id, id ∈ ws'.publicPaneNumbers ↔ id ∈ paneIds after ∨ id ∈ paneIds rest
  registers : RegistersAtMostOne ws ws'

section Consistency
variable {ws ws' : Workspace}

lemma RegistersAtMostOne.next_le (hr : RegistersAtMostOne ws ws') :
    ws.nextPublicPaneNumber ≤ ws'.nextPublicPaneNumber := by
  rcases hr with ⟨hnext, -⟩ | ⟨-, hnext, -⟩ <;> omega

/-- A number below the counter is still the number of the pane that had it. -/
lemma RegistersAtMostOne.lookup_of_lt (hr : RegistersAtMostOne ws ws') {id : PaneId} {n : Nat}
    (hid : ws'.publicPaneNumbers.lookup id = some n) (hn : n < ws.nextPublicPaneNumber) :
    ws.publicPaneNumbers.lookup id = some n := by
  rcases hr with ⟨-, hold⟩ | ⟨new, -, hins⟩
  · exact hold id n hid
  · by_cases he : id = new
    · rw [hins, he, AList.lookup_insert, Option.some.injEq] at hid
      omega
    · rwa [hins, AList.lookup_insert_ne he] at hid

variable (h : ws.Consistent)
include h

lemma RegistersAtMostOne.pane_number_pos (hr : RegistersAtMostOne ws ws') (id : PaneId) (n : Nat)
    (hid : ws'.publicPaneNumbers.lookup id = some n) : 0 < n := by
  by_cases hn : n < ws.nextPublicPaneNumber
  · exact h.pane_number_pos id n (hr.lookup_of_lt hid hn)
  · have := h.next_pane_pos
    omega

lemma RegistersAtMostOne.pane_number_lt (hr : RegistersAtMostOne ws ws') (id : PaneId) (n : Nat)
    (hid : ws'.publicPaneNumbers.lookup id = some n) : n < ws'.nextPublicPaneNumber := by
  rcases hr with ⟨hnext, hold⟩ | ⟨new, hnext, hins⟩
  · have := h.pane_number_lt id n (hold id n hid)
    omega
  · by_cases he : id = new
    · rw [hins, he, AList.lookup_insert, Option.some.injEq] at hid
      omega
    · rw [hins, AList.lookup_insert_ne he] at hid
      have := h.pane_number_lt id n hid
      omega

lemma RegistersAtMostOne.pane_number_inj (hr : RegistersAtMostOne ws ws') (id id' : PaneId) (n : Nat)
    (hid : ws'.publicPaneNumbers.lookup id = some n)
    (hid' : ws'.publicPaneNumbers.lookup id' = some n) : id = id' := by
  by_cases hn : n < ws.nextPublicPaneNumber
  · exact h.pane_number_inj id id' n (hr.lookup_of_lt hid hn) (hr.lookup_of_lt hid' hn)
  -- a number that is not below the counter was given in this step, and only to one pane
  rcases hr with ⟨-, hold⟩ | ⟨new, -, hins⟩
  · exact absurd (h.pane_number_lt id n (hold id n hid)) hn
  · have honly : ∀ other, ws'.publicPaneNumbers.lookup other = some n → other = new := by
      intro other hother
      by_contra hne
      rw [hins, AList.lookup_insert_ne hne] at hother
      exact hn (h.pane_number_lt other n hother)
    rw [honly id hid, honly id' hid']

variable {before after rest : List Tab} (c : Change ws ws' before after rest)
include c

omit h in
lemma Change.mem_or_rest {tab : Tab} (ht : tab ∈ ws'.tabs) : tab ∈ after ∨ tab ∈ rest := by
  rwa [c.tabs'.mem_iff, List.mem_append] at ht

omit h in
lemma Change.mem_of_rest {tab : Tab} (ht : tab ∈ rest) : tab ∈ ws.tabs := by
  rw [c.tabs.mem_iff, List.mem_append]
  exact .inr ht

lemma Change.tab_numbers_nodup : (ws'.tabs.map Tab.number).Nodup := by
  rw [(c.tabs'.map _).nodup_iff, List.map_append]
  have hold := (c.tabs.map Tab.number).nodup_iff.mp h.tab_numbers_nodup
  rw [List.map_append] at hold
  refine nodup_of_origin hold c.numbers_nodup fun n hn => ?_
  obtain ⟨tab, htab, rfl⟩ := List.mem_map.mp hn
  rcases c.number_origin tab htab with ⟨old, hmem, hnum, -⟩ | hnew
  · exact .inl (List.mem_map.mpr ⟨old, hmem, hnum⟩)
  · refine .inr fun hmem => ?_
    rw [← List.map_append, ← (c.tabs.map Tab.number).mem_iff] at hmem
    obtain ⟨old, hmem', hnum⟩ := List.mem_map.mp hmem
    have := h.tab_number_lt old hmem'
    omega

lemma Change.panes_nodup' : (paneIds ws'.tabs).Nodup := by
  rw [(paneIds_perm c.tabs').nodup_iff, paneIds_append]
  have hold := (paneIds_perm c.tabs).nodup_iff.mp h.panes_nodup
  rw [paneIds_append] at hold
  refine nodup_of_origin hold c.panes_nodup fun id hid => ?_
  rw [← paneIds_append, ← (paneIds_perm c.tabs).mem_iff]
  exact c.pane_origin id hid

lemma Change.terminals_nodup' : (terminalIds ws'.tabs).Nodup := by
  rw [(terminalIds_perm c.tabs').nodup_iff, terminalIds_append]
  have hold := (terminalIds_perm c.tabs).nodup_iff.mp h.terminals_nodup
  rw [terminalIds_append] at hold
  refine nodup_of_origin hold c.terminals_nodup fun id hid => ?_
  rw [← terminalIds_append, ← (terminalIds_perm c.tabs).mem_iff]
  exact c.terminal_origin id hid

lemma Change.consistent (hactive : ws'.tabs ≠ [] → ws'.activeTab < ws'.tabs.length) :
    ws'.Consistent where
  active_lt := hactive
  tabs_valid tab ht := by
    rcases c.mem_or_rest ht with hafter | hrest
    · exact c.valid tab hafter
    · exact h.tabs_valid tab (c.mem_of_rest hrest)
  tab_numbers_nodup := c.tab_numbers_nodup h
  panes_nodup := c.panes_nodup' h
  terminals_nodup := c.terminals_nodup' h
  next_tab_pos := lt_of_lt_of_le h.next_tab_pos c.next_tab_le
  tab_number_lt tab ht := by
    rcases c.mem_or_rest ht with hafter | hrest
    · exact c.number_lt tab hafter
    · exact lt_of_lt_of_le (h.tab_number_lt tab (c.mem_of_rest hrest)) c.next_tab_le
  public_iff id := by
    rw [c.public_iff, (paneIds_perm c.tabs').mem_iff, paneIds_append, List.mem_append]
  pane_number_pos := c.registers.pane_number_pos h
  pane_number_inj := c.registers.pane_number_inj h
  next_pane_pos := lt_of_lt_of_le h.next_pane_pos (c.registers.next_le)
  pane_number_lt := c.registers.pane_number_lt h

end Consistency

/-! ### Numbers over time -/

/-- Between `ws` and a later `ws'` no number below the counters changed hands. -/
structure KeepsNumbers (ws ws' : Workspace) : Prop where
  next_pane_le : ws.nextPublicPaneNumber ≤ ws'.nextPublicPaneNumber
  next_tab_le : ws.nextPublicTabNumber ≤ ws'.nextPublicTabNumber
  pane : ∀ id n, ws'.publicPaneNumbers.lookup id = some n → n < ws.nextPublicPaneNumber →
    ws.publicPaneNumbers.lookup id = some n
  tab : ∀ tab ∈ ws'.tabs, tab.number < ws.nextPublicTabNumber →
    ∃ old ∈ ws.tabs, old.number = tab.number

lemma KeepsNumbers.refl (ws : Workspace) : KeepsNumbers ws ws :=
  ⟨le_refl _, le_refl _, fun _ _ hid _ => hid, fun tab ht _ => ⟨tab, ht, rfl⟩⟩

lemma KeepsNumbers.trans {ws ws' ws'' : Workspace} (h : KeepsNumbers ws ws')
    (h' : KeepsNumbers ws' ws'') : KeepsNumbers ws ws'' where
  next_pane_le := h.next_pane_le.trans h'.next_pane_le
  next_tab_le := h.next_tab_le.trans h'.next_tab_le
  pane id n hid hn := h.pane id n (h'.pane id n hid (lt_of_lt_of_le hn h.next_pane_le)) hn
  tab tab ht hn := by
    obtain ⟨mid, hmid, hnum⟩ := h'.tab tab ht (lt_of_lt_of_le hn h.next_tab_le)
    obtain ⟨old, hold, hnum'⟩ := h.tab mid hmid (hnum ▸ hn)
    exact ⟨old, hold, hnum'.trans hnum⟩

section
variable {ws ws' : Workspace} (h : ws.Consistent) {before after rest : List Tab}
  (c : Change ws ws' before after rest)
include h c

/-- A tab whose number is below the counter continues a tab of that number. -/
lemma Change.continues {tab : Tab} (ht : tab ∈ ws'.tabs) (hn : tab.number < ws.nextPublicTabNumber) :
    ∃ old ∈ ws.tabs, old.number = tab.number ∧ old.Continues tab := by
  rcases c.mem_or_rest ht with hafter | hrest
  · rcases c.number_origin tab hafter with ⟨old, hmem, hold⟩ | hnew
    · exact ⟨old, c.tabs.mem_iff.mpr (List.mem_append.mpr (.inl hmem)), hold⟩
    · omega
  · have hmem := c.mem_of_rest hrest
    have hroot := (h.tabs_valid tab hmem).root_mem
    exact ⟨tab, hmem, rfl, tab.rootPane, hroot, hroot⟩

lemma Change.keepsNumbers : KeepsNumbers ws ws' where
  next_pane_le := c.registers.next_le
  next_tab_le := c.next_tab_le
  pane _ _ hid hn := c.registers.lookup_of_lt hid hn
  tab tab ht hn := by
    obtain ⟨old, hold, hnum, -⟩ := c.continues h ht hn
    exact ⟨old, hold, hnum⟩

end

/-! ### The kinds of change -/

section Kinds
variable {ws ws' : Workspace} (h : ws.Consistent)

lemma perm_of_getElem? {tabs : List Tab} {idx : Nat} {tab : Tab} (ht : tabs[idx]? = some tab) :
    tabs.Perm ([tab] ++ tabs.eraseIdx idx) := by
  obtain ⟨hlt, rfl⟩ := List.getElem?_eq_some_iff.mp ht
  exact (List.getElem_cons_eraseIdx_perm hlt).symm

lemma set_perm_of_getElem? {tabs : List Tab} {idx : Nat} {tab : Tab} (ht : tabs[idx]? = some tab)
    (tab' : Tab) : (tabs.set idx tab').Perm ([tab'] ++ tabs.eraseIdx idx) := by
  obtain ⟨hlt, -⟩ := List.getElem?_eq_some_iff.mp ht
  exact List.set_perm_cons_eraseIdx hlt tab'

include h

lemma Workspace.Consistent.public_iff_of_perm {before rest : List Tab}
    (hp : ws.tabs.Perm (before ++ rest)) (id : PaneId) :
    id ∈ ws.publicPaneNumbers ↔ id ∈ paneIds before ∨ id ∈ paneIds rest := by
  rw [h.public_iff, (paneIds_perm hp).mem_iff, paneIds_append, List.mem_append]

/-- The panes of different tabs are different. -/
lemma Workspace.Consistent.notMem_before {before rest : List Tab}
    (hp : ws.tabs.Perm (before ++ rest)) {id : PaneId} (hid : id ∈ paneIds rest) :
    id ∉ paneIds before := by
  have hn := (paneIds_perm hp).nodup_iff.mp h.panes_nodup
  rw [paneIds_append, List.nodup_append] at hn
  exact fun hb => hn.2.2 id hb id hid rfl

lemma Change.keep (ht : ws'.tabs.Perm ws.tabs) (hp : ws'.publicPaneNumbers = ws.publicPaneNumbers)
    (hnp : ws'.nextPublicPaneNumber = ws.nextPublicPaneNumber)
    (hnt : ws.nextPublicTabNumber ≤ ws'.nextPublicTabNumber) : Change ws ws' [] [] ws.tabs where
  tabs := List.Perm.refl _
  tabs' := ht
  valid := by simp
  numbers_nodup := List.nodup_nil
  number_origin := by simp
  number_lt := by simp
  next_tab_le := hnt
  panes_nodup := List.nodup_nil
  pane_origin := by simp
  terminals_nodup := List.nodup_nil
  terminal_origin := by simp
  public_iff id := by rw [hp, h.public_iff, paneIds_nil, List.mem_nil_iff, false_or]
  registers := .inl ⟨hnp, fun id n hid => hp ▸ hid⟩

/-- A tab with a single new pane comes in under the next tab number. -/
lemma Change.add {tab : Tab} {label : Option String} {moved : MovedPane}
    (htab : tab = .fromExistingPane ws.nextPublicTabNumber label moved)
    (hpane : moved.paneId ∉ paneIds ws.tabs)
    (hterm : moved.paneState.attachedTerminalId ∉ terminalIds ws.tabs)
    (ht : ws'.tabs.Perm ([tab] ++ ws.tabs))
    (hp : ws'.publicPaneNumbers = ws.publicPaneNumbers.insert moved.paneId ws.nextPublicPaneNumber)
    (hnp : ws'.nextPublicPaneNumber = ws.nextPublicPaneNumber + 1)
    (hnt : ws'.nextPublicTabNumber = ws.nextPublicTabNumber + 1) :
    Change ws ws' [] [tab] ws.tabs := by
  have hkeys : tab.panes.keys = [moved.paneId] := by rw [htab]; rfl
  have hterms : terminalsOf tab.panes = [moved.paneState.attachedTerminalId] := by rw [htab]; rfl
  have hnum : tab.number = ws.nextPublicTabNumber := by rw [htab]; rfl
  exact {
    tabs := List.Perm.refl _
    tabs' := ht
    valid := by
      intro tab' ht'
      rw [List.mem_singleton.mp ht', htab]
      exact Tab.fromExistingPane_valid h.next_tab_pos label moved
    numbers_nodup := by simp
    number_origin := by
      intro tab' ht'
      rw [List.mem_singleton.mp ht', hnum]
      exact .inr le_rfl
    number_lt := by
      intro tab' ht'
      rw [List.mem_singleton.mp ht', hnum]
      omega
    next_tab_le := by omega
    panes_nodup := by simp [hkeys]
    pane_origin := by
      intro id hid
      rw [paneIds_singleton, hkeys, List.mem_singleton] at hid
      exact .inr (hid ▸ hpane)
    terminals_nodup := by simp [hterms]
    terminal_origin := by
      intro id hid
      rw [terminalIds_singleton, hterms, List.mem_singleton] at hid
      exact .inr (hid ▸ hterm)
    public_iff := by
      intro id
      rw [hp, AList.mem_insert, h.public_iff, paneIds_singleton, hkeys, List.mem_singleton]
    registers := .inr ⟨moved.paneId, hnp, hp⟩ }

/-- A tab goes out with all its panes and their numbers. -/
lemma Change.drop {tab : Tab} {idx : Nat} (ht : ws.tabs[idx]? = some tab)
    (ht' : ws'.tabs = ws.tabs.eraseIdx idx)
    (hp : ∀ id, ws'.publicPaneNumbers.lookup id =
      if id ∈ tab.panes then none else ws.publicPaneNumbers.lookup id)
    (hnp : ws'.nextPublicPaneNumber = ws.nextPublicPaneNumber)
    (hnt : ws'.nextPublicTabNumber = ws.nextPublicTabNumber) :
    Change ws ws' [tab] [] (ws.tabs.eraseIdx idx) where
  tabs := perm_of_getElem? ht
  tabs' := by rw [ht', List.nil_append]
  valid := by simp
  numbers_nodup := List.nodup_nil
  number_origin := by simp
  number_lt := by simp
  next_tab_le := hnt.ge
  panes_nodup := List.nodup_nil
  pane_origin := by simp
  terminals_nodup := List.nodup_nil
  terminal_origin := by simp
  public_iff id := by
    have hperm := perm_of_getElem? ht
    have hiff := h.public_iff_of_perm hperm id
    rw [paneIds_singleton, ← AList.mem_keys] at hiff
    rw [← AList.lookup_isSome, hp, paneIds_nil, List.mem_nil_iff, false_or]
    by_cases hid : id ∈ tab.panes
    · rw [if_pos hid]
      refine iff_of_false (by simp) fun hrest => ?_
      have hno := h.notMem_before hperm hrest
      rw [paneIds_singleton, ← AList.mem_keys] at hno
      exact hno hid
    · rw [if_neg hid, AList.lookup_isSome, hiff, or_iff_right hid]
  registers := .inl ⟨hnp, fun id n hid => by
    rw [hp] at hid
    split_ifs at hid
    exact hid⟩

section Replace
variable {tab tab' : Tab} {idx : Nat} (ht : ws.tabs[idx]? = some tab) (hv : tab'.Valid)
  (hnum : tab'.number = tab.number) (ht' : ws'.tabs = ws.tabs.set idx tab')
  (hnt : ws'.nextPublicTabNumber = ws.nextPublicTabNumber)
include ht hv hnum ht' hnt

/-- A tab gives way to one of the same number that shows a pane of it. -/
lemma Change.replace (hcont : tab.Continues tab')
    (hpane : ∀ id ∈ tab'.panes, id ∈ tab.panes ∨ id ∉ paneIds ws.tabs)
    (hterms : (terminalsOf tab'.panes).Nodup)
    (hterm : ∀ id ∈ terminalsOf tab'.panes, id ∈ terminalsOf tab.panes ∨ id ∉ terminalIds ws.tabs)
    (hp : ∀ id, id ∈ ws'.publicPaneNumbers ↔
      id ∈ tab'.panes ∨ id ∈ paneIds (ws.tabs.eraseIdx idx))
    (hreg : RegistersAtMostOne ws ws') : Change ws ws' [tab] [tab'] (ws.tabs.eraseIdx idx) where
  tabs := perm_of_getElem? ht
  tabs' := ht' ▸ set_perm_of_getElem? ht tab'
  valid other ho := List.mem_singleton.mp ho ▸ hv
  numbers_nodup := by simp
  number_origin other ho := by
    rw [List.mem_singleton.mp ho]
    exact .inl ⟨tab, List.mem_singleton.mpr rfl, hnum.symm, hcont⟩
  number_lt other ho := by
    rw [List.mem_singleton.mp ho, hnum, hnt]
    exact h.tab_number_lt tab (List.mem_of_getElem? ht)
  next_tab_le := hnt.ge
  panes_nodup := by
    rw [paneIds_singleton]
    exact tab'.panes.keys_nodup
  pane_origin id hid := by
    rw [paneIds_singleton, ← AList.mem_keys] at hid ⊢
    exact hpane id hid
  terminals_nodup := by rwa [terminalIds_singleton]
  terminal_origin id hid := by
    rw [terminalIds_singleton] at hid ⊢
    exact hterm id hid
  public_iff id := by rw [hp, paneIds_singleton, AList.mem_keys]
  registers := hreg

omit hv hnum ht' hnt in
lemma Workspace.Consistent.terminalsOf_nodup : (terminalsOf tab.panes).Nodup := by
  have hn := (terminalIds_perm (perm_of_getElem? ht)).nodup_iff.mp h.terminals_nodup
  rw [terminalIds_append, List.nodup_append, terminalIds_singleton] at hn
  exact hn.1

omit hv hnum ht' hnt in
lemma Workspace.Consistent.public_iff_at (id : PaneId) :
    id ∈ ws.publicPaneNumbers ↔ id ∈ tab.panes ∨ id ∈ paneIds (ws.tabs.eraseIdx idx) := by
  rw [h.public_iff_of_perm (perm_of_getElem? ht), paneIds_singleton, AList.mem_keys]

lemma Change.touch (hkeys : ∀ id, id ∈ tab'.panes ↔ id ∈ tab.panes)
    (hterms : terminalsOf tab'.panes = terminalsOf tab.panes)
    (hp : ws'.publicPaneNumbers = ws.publicPaneNumbers)
    (hnp : ws'.nextPublicPaneNumber = ws.nextPublicPaneNumber) :
    Change ws ws' [tab] [tab'] (ws.tabs.eraseIdx idx) := by
  refine Change.replace h ht hv hnum ht' hnt ?_ (fun id hid => .inl ((hkeys id).mp hid)) ?_
    (fun id hid => .inl (hterms ▸ hid)) (fun id => ?_) (.inl ⟨hnp, fun id n hid => hp ▸ hid⟩)
  · exact ⟨tab'.rootPane, (hkeys _).mp hv.root_mem, hv.root_mem⟩
  · rw [hterms]
    exact h.terminalsOf_nodup ht
  · rw [hp, h.public_iff_at ht, hkeys]

/-- A tab comes to show a new pane, registered under the next number. -/
lemma Change.gain {id : PaneId} {state : PaneState} (hpanes : tab'.panes = tab.panes.insert id state)
    (hpane : id ∉ paneIds ws.tabs) (hterm : state.attachedTerminalId ∉ terminalIds ws.tabs)
    (hp : ws'.publicPaneNumbers = ws.publicPaneNumbers.insert id ws.nextPublicPaneNumber)
    (hnp : ws'.nextPublicPaneNumber = ws.nextPublicPaneNumber + 1) :
    Change ws ws' [tab] [tab'] (ws.tabs.eraseIdx idx) := by
  have hmem := List.mem_of_getElem? ht
  have hid : id ∉ tab.panes := fun hid => hpane (mem_paneIds.mpr ⟨tab, hmem, hid⟩)
  have hterms : terminalsOf tab'.panes = state.attachedTerminalId :: terminalsOf tab.panes := by
    rw [hpanes, terminalsOf_insert _ _ _ hid]
  have hnew : state.attachedTerminalId ∉ terminalsOf tab.panes := by
    rw [(terminalIds_perm (perm_of_getElem? ht)).mem_iff, terminalIds_append, List.mem_append,
      terminalIds_singleton] at hterm
    exact fun hin => hterm (.inl hin)
  refine Change.replace h ht hv hnum ht' hnt ?_ (fun other ho => ?_) ?_ (fun other ho => ?_)
    (fun other => ?_) (.inr ⟨id, hnp, hp⟩)
  · have hroot := (h.tabs_valid tab hmem).root_mem
    exact ⟨tab.rootPane, hroot, by rw [hpanes, AList.mem_insert]; exact .inr hroot⟩
  · rw [hpanes, AList.mem_insert] at ho
    rcases ho with rfl | hold
    · exact .inr hpane
    · exact .inl hold
  · rw [hterms]
    exact List.nodup_cons.mpr ⟨hnew, h.terminalsOf_nodup ht⟩
  · rw [hterms, List.mem_cons] at ho
    rcases ho with rfl | hold
    · exact .inr hterm
    · exact .inl hold
  · rw [hp, hpanes, AList.mem_insert, AList.mem_insert, h.public_iff_at ht, or_assoc]

/-- A tab of several panes loses one of them, and the pane its number. -/
lemma Change.lose {id : PaneId} (hid : id ∈ tab.panes) (hpanes : tab'.panes = tab.panes.erase id)
    (hp : ws'.publicPaneNumbers = ws.publicPaneNumbers.erase id)
    (hnp : ws'.nextPublicPaneNumber = ws.nextPublicPaneNumber) :
    Change ws ws' [tab] [tab'] (ws.tabs.eraseIdx idx) := by
  have hsub := terminalsOf_erase_sublist tab.panes id
  rw [← hpanes] at hsub
  refine Change.replace h ht hv hnum ht' hnt ?_ (fun other ho => ?_)
    (hsub.nodup (h.terminalsOf_nodup ht)) (fun other ho => .inl (hsub.subset ho)) (fun other => ?_)
    (.inl ⟨hnp, fun other n ho => ?_⟩)
  · have hroot := hv.root_mem
    rw [hpanes, AList.mem_erase] at hroot
    exact ⟨tab'.rootPane, hroot.2, hv.root_mem⟩
  · rw [hpanes, AList.mem_erase] at ho
    exact .inl ho.2
  · rw [hp, hpanes, AList.mem_erase, AList.mem_erase, h.public_iff_at ht]
    by_cases he : other = id
    · subst he
      have hrest : other ∉ paneIds (ws.tabs.eraseIdx idx) := by
        intro hrest
        have hno := h.notMem_before (perm_of_getElem? ht) hrest
        rw [paneIds_singleton, ← AList.mem_keys] at hno
        exact hno hid
      simp [hrest]
    · simp [he]
  · by_cases he : other = id
    · rw [hp, he, AList.lookup_erase] at ho
      cases ho
    · rwa [hp, AList.lookup_erase_ne he] at ho

end Replace

end Kinds

end Ork3.Workspaces
