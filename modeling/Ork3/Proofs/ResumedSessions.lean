import Ork3.Library.Reservations
import Ork3.Library.Separator
import Ork3.Proofs.Restore

/-!
# Which panes resume which sessions

A restore walks the panes of the tabs of the workspaces. Every pane that asks to resume an agent gets
its session unless a pane that came up before it has it.
-/

namespace Ork3.Terminal

open Ork3.Library

/-! ### Keys of sessions -/

def officialAgentSources : List (String × String) :=
  [("herdr:claude", "claude"), ("herdr:codex", "codex"), ("herdr:copilot", "copilot"),
    ("herdr:devin", "devin"), ("herdr:droid", "droid"), ("herdr:kimi", "kimi"),
    ("herdr:omp", "omp"), ("herdr:mastracode", "mastracode"), ("herdr:pi", "pi"),
    ("herdr:hermes", "hermes"), ("herdr:opencode", "opencode"), ("herdr:qodercli", "qodercli"),
    ("herdr:kilo", "kilo"), ("herdr:cursor", "cursor")]

lemma mem_officialAgentSources {source agent : String} :
    isOfficialAgentSource source agent = true ↔ (source, agent) ∈ officialAgentSources := by
  rw [isOfficialAgentSource, decide_eq_true_eq, officialAgentSources]

lemma separator_notMem_official : ∀ pair ∈ officialAgentSources,
    Char.ofNat 0 ∉ pair.1.toList ∧ Char.ofNat 0 ∉ pair.2.toList := by
  decide

lemma official_source_unique : ∀ pair ∈ officialAgentSources, ∀ other ∈ officialAgentSources,
    pair.2 = other.2 → pair.1 = other.1 := by
  decide

def AgentSessionRefKind.debugName : AgentSessionRefKind → String
  | .id => "Id"
  | .path => "Path"

lemma separator_notMem_debugName (kind : AgentSessionRefKind) :
    Char.ofNat 0 ∉ kind.debugName.toList := by
  cases kind <;> decide

lemma debugName_injective {kind kind' : AgentSessionRefKind}
    (h : kind.debugName = kind'.debugName) : kind = kind' := by
  cases kind <;> cases kind' <;> first | rfl | exact absurd h (by decide)

lemma toList_dedupeKey (source agent : String) (sessionRef : AgentSessionRef) :
    (dedupeKey source agent sessionRef).toList =
      source.toList ++ Char.ofNat 0 :: (agent.toList ++ Char.ofNat 0 ::
        (sessionRef.kind.debugName.toList ++ Char.ofNat 0 :: sessionRef.value.toList)) := by
  have hkey : dedupeKey source agent sessionRef =
      String.intercalate (String.singleton (Char.ofNat 0))
        [source, agent, sessionRef.kind.debugName, sessionRef.value] := by
    cases sessionRef with
    | mk kind value => cases kind <;> rfl
  rw [hkey]
  simp [String.intercalate_cons_cons, String.intercalate_singleton, String.toList_append]

/-- The key tells the agent and the session apart. -/
lemma dedupeKey_eq_iff {source source' agent agent' : String} {sessionRef sessionRef' : AgentSessionRef}
    (h : isOfficialAgentSource source agent = true)
    (h' : isOfficialAgentSource source' agent' = true) :
    dedupeKey source agent sessionRef = dedupeKey source' agent' sessionRef' ↔
      agent = agent' ∧ sessionRef = sessionRef' := by
  rw [mem_officialAgentSources] at h h'
  obtain ⟨hsource, hagent⟩ := separator_notMem_official _ h
  obtain ⟨hsource', hagent'⟩ := separator_notMem_official _ h'
  rw [← String.toList_inj, toList_dedupeKey, toList_dedupeKey, append_separator_inj hsource hsource',
    append_separator_inj hagent hagent', append_separator_inj (separator_notMem_debugName _)
      (separator_notMem_debugName _), String.toList_inj, String.toList_inj, String.toList_inj,
    String.toList_inj]
  constructor
  · rintro ⟨-, hagents, hkind, hvalue⟩
    cases sessionRef
    cases sessionRef'
    rw [AgentSessionRef.mk.injEq]
    exact ⟨hagents, debugName_injective hkind, hvalue⟩
  · rintro ⟨rfl, rfl⟩
    exact ⟨official_source_unique _ h _ h' rfl, rfl, rfl, rfl⟩

end Ork3.Terminal

namespace Ork3.Persist

open Ork3.Library Ork3.Layout Ork3.Terminal Ork3.Workspaces

/-! ### Turns of a restore -/

/-- The turn of a pane: the tab it belongs to and the state it finds. -/
structure PaneTurn where
  snap : TabSnapshot
  reverse : Table PaneId UInt32
  state : RestoreState
  id : PaneId

namespace PaneTurn
variable (ctx : RestoreContext) (turn : PaneTurn)

def session : Option PaneAgentSessionSnapshot :=
  (savedPane turn.snap turn.reverse turn.id).bind (·.agentSession)

/-- What the turn does to a tab without panes. -/
def result : PanesRestore :=
  restorePane ctx turn.snap turn.reverse ⟨turn.state, ∅, []⟩ turn.id

def startup : PaneRestoreStartup :=
  (paneRestoreStartup turn.session ctx.resumeAgentsOnRestore turn.state.resumedAgentSessions).1

attribute [grind =] startup

/-- The pane gets a terminal. -/
def live : Bool := ComesUp ctx turn.snap turn.reverse turn.state turn.id

/-- The plan the saved pane asks for. -/
def wanted : Option AgentResumePlan :=
  turn.session.bind fun session => restorePlanForSnapshot session ctx.resumeAgentsOnRestore

/-- The plan the pane receives. -/
def granted : Option AgentResumePlan := (turn.startup ctx).restorePlan

attribute [grind =] granted

/-- Agent and session reference of the saved pane. -/
def reference : Option (String × AgentSessionRef) :=
  (turn.session.bind persistedAgentSessionFromSnapshot).map fun persisted =>
    (persisted.agent, persisted.sessionRef)

/-- The key that stays reserved behind the turn. -/
def held : Option String :=
  if turn.live ctx then (turn.granted ctx).map (·.dedupeKey) else none

end PaneTurn

section
variable (ctx : RestoreContext)

def paneTurns (snap : TabSnapshot) (reverse : Table PaneId UInt32) :
    PanesRestore → List PaneId → List PaneTurn :=
  trace (restorePane ctx snap reverse) fun r id => [⟨snap, reverse, r.state, id⟩]

/-- The loop over the panes of a tab begins with the next free id behind the tab's. -/
def tabStart (snap : TabSnapshot) (state : RestoreState) : PanesRestore :=
  ⟨{ state with nextPaneId := (restoreNodeRemapped snap.layout state.nextPaneId).2.1 }, ∅, []⟩

def tabReverse (snap : TabSnapshot) (state : RestoreState) : Table PaneId UInt32 :=
  reverseIdMap (restoreNodeRemapped snap.layout state.nextPaneId).2.2

def tabPanes (snap : TabSnapshot) (state : RestoreState) : List PaneId :=
  (restoreNodeRemapped snap.layout state.nextPaneId).1.collectIds

def tabTurns (snap : TabSnapshot) (state : RestoreState) : List PaneTurn :=
  paneTurns ctx snap (tabReverse snap state) (tabStart snap state) (tabPanes snap state)

/-- The loop over the tabs of a workspace begins with the next workspace id behind its own. -/
def workspaceStart (snap : WorkspaceSnapshot) (state : RestoreState) : WorkspaceRestore :=
  ⟨{ state with
      nextWorkspace := if snap.id.isSome then state.nextWorkspace else state.nextWorkspace + 1 },
    [], [], ⟨∅, snap.migrated.2⟩, nextPublicNumber snap.publicTabNumbers snap.nextPublicTabNumber⟩

def workspaceTurns (snap : WorkspaceSnapshot) (state : RestoreState) : List PaneTurn :=
  trace (restoreNextTab ctx snap snap.migrated.1) (fun r entry => tabTurns ctx entry.1 r.state)
    (workspaceStart snap state) snap.tabs.zipIdx

/-- The turns of all panes of the snapshot, in their order. -/
def sessionTurns (snapshot : SessionSnapshot) (nextPaneId : UInt32)
    (nextTerminal nextWorkspace : Nat) (importedPanes : Finset UInt32) : List PaneTurn :=
  trace (restoreNextWorkspace ctx) (fun r snap => workspaceTurns ctx snap r.state)
    ⟨⟨nextPaneId, nextTerminal, nextWorkspace, ∅, importedPanes, 0⟩, [], ∅⟩ snapshot.workspaces

end

/-! ### One turn -/

section
variable {ctx : RestoreContext} {turn : PaneTurn}

/-- The session is the pane's unless it is reserved. -/
lemma PaneTurn.startup_eq : turn.startup ctx =
    (turn.wanted ctx).elim ⟨none, false, none⟩ fun plan =>
      if plan.dedupeKey ∈ turn.state.resumedAgentSessions then ⟨none, true, none⟩
      else ⟨some plan, false, some plan.dedupeKey⟩ := by
  unfold PaneTurn.startup PaneTurn.wanted paneRestoreStartup
  generalize turn.session.bind _ = wanted
  cases wanted with
  | none => rfl
  | some plan =>
    dsimp only [Option.elim]
    split <;> rfl

lemma PaneTurn.granted_of_wanted {plan : AgentResumePlan} (h : turn.wanted ctx = some plan) :
    turn.granted ctx =
      if plan.dedupeKey ∈ turn.state.resumedAgentSessions then none else some plan := by
  rw [PaneTurn.granted, turn.startup_eq, h]
  dsimp only [Option.elim]
  split <;> rfl

lemma PaneTurn.wanted_of_granted {plan : AgentResumePlan} (h : turn.granted ctx = some plan) :
    turn.wanted ctx = some plan ∧ plan.dedupeKey ∉ turn.state.resumedAgentSessions := by
  cases hwanted : turn.wanted ctx with
  | none =>
    rw [PaneTurn.granted, turn.startup_eq, hwanted] at h
    cases h
  | some other =>
    rw [PaneTurn.granted_of_wanted hwanted] at h
    split at h
    · cases h
    · rename_i hnotMem
      cases h
      exact ⟨rfl, hnotMem⟩

lemma PaneTurn.paneRestoreStartup_snd : (paneRestoreStartup turn.session ctx.resumeAgentsOnRestore
    turn.state.resumedAgentSessions).2 =
      turn.state.resumedAgentSessions ∪ ((turn.granted ctx).map (·.dedupeKey)).toFinset := by
  unfold PaneTurn.granted PaneTurn.startup paneRestoreStartup
  split
  · simp
  · split
    · simp
    · rw [Finset.union_comm, Option.map_some, Option.toFinset_some, Finset.insert_eq]

lemma PaneTurn.reserved_eq (ctx : RestoreContext) (turn : PaneTurn) :
    (turn.startup ctx).reservedAgentSession = (turn.granted ctx).map (·.dedupeKey) := by
  unfold PaneTurn.granted PaneTurn.startup paneRestoreStartup
  split
  · rfl
  · split <;> rfl

/-- A failed start gives the reservation back, the others keep it. -/
lemma startPane_cases (ctx : RestoreContext) (id : PaneId) (oldId : Option UInt32)
    (session : Option PaneAgentSessionSnapshot) (state : RestoreState) :
    ∃ start after, startPane ctx id oldId session state =
        (start, (paneRestoreStartup session ctx.resumeAgentsOnRestore
          state.resumedAgentSessions).1, after) ∧
      (∀ plan, start = .resumeLater plan →
        (paneRestoreStartup session ctx.resumeAgentsOnRestore
          state.resumedAgentSessions).1.restorePlan = some plan) ∧
      (start ≠ .failed → after.resumedAgentSessions =
        (paneRestoreStartup session ctx.resumeAgentsOnRestore state.resumedAgentSessions).2) ∧
      (start = .failed → after.resumedAgentSessions =
        (paneRestoreStartup session ctx.resumeAgentsOnRestore
          state.resumedAgentSessions).1.reservedAgentSession.elim
            (paneRestoreStartup session ctx.resumeAgentsOnRestore state.resumedAgentSessions).2
            (paneRestoreStartup session ctx.resumeAgentsOnRestore
              state.resumedAgentSessions).2.erase) := by
  unfold startPane
  dsimp only
  generalize paneRestoreStartup session ctx.resumeAgentsOnRestore state.resumedAgentSessions = reserve
  split
  · rename_i plan hplan
    refine ⟨_, _, rfl, ?_, fun _ => rfl, fun h => (nomatch h)⟩
    intro other hother
    obtain rfl := PaneStart.resumeLater.inj hother
    split at hplan
    · cases hplan
    · exact hplan
  · split
    · exact ⟨_, _, rfl, fun plan h => (nomatch h), fun _ => rfl, fun h => (nomatch h)⟩
    · refine ⟨_, _, rfl, fun plan h => (nomatch h), fun h => absurd rfl h, fun _ => ?_⟩
      split <;> rfl

/-- A pane that comes up gets a terminal and keeps its reservation. -/
lemma PaneTurn.result_of_live (h : turn.live ctx = true) :
    (turn.result ctx).state.resumedAgentSessions =
        turn.state.resumedAgentSessions ∪ ((turn.granted ctx).map (·.dedupeKey)).toFinset ∧
      ∃ id s, s.persistedAgentSession = none ∧
        (turn.granted ctx = none → s.pendingAgentResumePlan = none) ∧
        (turn.result ctx).terminals = [⟨id, restoredTerminal ctx turn.id (turn.startup ctx)
          (savedPane turn.snap turn.reverse turn.id) s⟩] := by
  obtain ⟨start, after, hstart, hplan, hkept, -⟩ := startPane_cases ctx turn.id
    (turn.reverse.lookup turn.id) turn.session turn.state
  rw [PaneTurn.paneRestoreStartup_snd] at hkept
  unfold PaneTurn.live ComesUp at h
  unfold PaneTurn.session savedPane at hstart
  unfold PaneTurn.result restorePane PaneTurn.granted PaneTurn.startup
  unfold savedPane at h
  rw [hstart] at h
  simp only [PaneTurn.session, savedPane, hstart] at hplan hkept ⊢
  cases start with
  | failed => simp at h
  | resumeLater plan =>
    refine ⟨hkept (by simp), _, _, rfl, ?_, rfl⟩
    intro hnone
    rw [hplan plan rfl] at hnone
    cases hnone
  | started wasImported =>
    dsimp only
    split
    · exact ⟨hkept (by simp), _, _, rfl, fun _ => rfl, rfl⟩
    · exact ⟨hkept (by simp), _, _, rfl, fun _ => rfl, rfl⟩

/-- A pane whose spawn failed gives its reservation back. -/
lemma PaneTurn.result_of_not_live (h : turn.live ctx = false) :
    (turn.result ctx).state.resumedAgentSessions = turn.state.resumedAgentSessions ∧
      (turn.result ctx).terminals = [] := by
  obtain ⟨start, after, hstart, -, -, hback⟩ := startPane_cases ctx turn.id
    (turn.reverse.lookup turn.id) turn.session turn.state
  rw [PaneTurn.paneRestoreStartup_snd] at hback
  have hreserved := PaneTurn.reserved_eq ctx turn
  unfold PaneTurn.startup at hreserved
  rw [hreserved] at hback
  have hkept : start = .failed →
      after.resumedAgentSessions = turn.state.resumedAgentSessions := by
    intro hfailed
    rw [hback hfailed]
    cases hgranted : turn.granted ctx with
    | none => simp
    | some plan =>
      have hnotMem := (PaneTurn.wanted_of_granted hgranted).2
      rw [Option.map_some, Option.toFinset_some, Option.elim_some, Finset.union_comm,
        ← Finset.insert_eq, Finset.erase_insert hnotMem]
  unfold PaneTurn.live ComesUp at h
  unfold PaneTurn.session savedPane at hstart
  unfold PaneTurn.result restorePane
  unfold savedPane at h
  rw [hstart] at h
  simp only [hstart]
  cases start with
  | failed => exact ⟨hkept rfl, rfl⟩
  | resumeLater plan => simp at h
  | started wasImported => simp at h

lemma PaneTurn.resumedAgentSessions_result (ctx : RestoreContext) (turn : PaneTurn) :
    (turn.result ctx).state.resumedAgentSessions =
      turn.state.resumedAgentSessions ∪ (turn.held ctx).toFinset := by
  unfold PaneTurn.held
  cases hlive : turn.live ctx with
  | false =>
    rw [(PaneTurn.result_of_not_live hlive).1]
    simp
  | true =>
    rw [(PaneTurn.result_of_live hlive).1]
    simp

/-- A pane that is denied a session keeps none. -/
lemma PaneTurn.terminal_of_denied {plan : AgentResumePlan} (hwanted : turn.wanted ctx = some plan)
    (hdenied : turn.granted ctx = none) {e : RestoredTerminal}
    (he : e ∈ (turn.result ctx).terminals) :
    e.terminal.state.persistedAgentSession = none ∧
      e.terminal.state.pendingAgentResumePlan = none := by
  cases hlive : turn.live ctx with
  | false =>
    rw [(PaneTurn.result_of_not_live hlive).2] at he
    cases he
  | true =>
    obtain ⟨-, id, s, hsession, hpending, hterminals⟩ := PaneTurn.result_of_live hlive
    rw [hterminals, List.mem_singleton] at he
    subst he
    have hmem : plan.dedupeKey ∈ turn.state.resumedAgentSessions := by
      by_contra hnotMem
      rw [PaneTurn.granted_of_wanted hwanted, if_neg hnotMem] at hdenied
      cases hdenied
    have hstartup : turn.startup ctx = ⟨none, true, none⟩ := by
      rw [PaneTurn.startup_eq, hwanted]
      dsimp only [Option.elim]
      rw [if_pos hmem]
    rw [hstartup]
    unfold restoredTerminal restoredTerminalAgentSession
    simp only [Option.bind_none, if_true]
    cases (savedPane turn.snap turn.reverse turn.id).bind (·.agentName) with
    | none => exact ⟨hsession, hpending hdenied⟩
    | some agentName => exact ⟨hsession, hpending hdenied⟩

/-! ### The whole restore -/

/-- What a turn finds reserved is what the one before it left. -/
abbrev LinkedTurns (ctx : RestoreContext) :
    Finset String → List PaneTurn → Finset String → Prop :=
  Linked (fun turn => turn.state.resumedAgentSessions)
    fun turn => (turn.result ctx).state.resumedAgentSessions

lemma linked_paneTurns (ctx : RestoreContext) (snap : TabSnapshot) (reverse : Table PaneId UInt32)
    (r : PanesRestore) (ids : List PaneId) :
    LinkedTurns ctx r.state.resumedAgentSessions (paneTurns ctx snap reverse r ids)
      (ids.foldl (restorePane ctx snap reverse) r).state.resumedAgentSessions := by
  apply linked_trace fun r : PanesRestore => r.state.resumedAgentSessions
  intro r id
  refine ⟨rfl, ?_⟩
  rw [state_restorePane]
  rfl

lemma restoreTab_snd (ctx : RestoreContext) (snap : TabSnapshot) (number : Nat)
    (state : RestoreState) : (restoreTab ctx snap number state).2 =
      ((tabPanes snap state).foldl (restorePane ctx snap (tabReverse snap state))
        (tabStart snap state)).state := by
  unfold restoreTab tabPanes tabReverse tabStart
  dsimp only
  split
  · rfl
  · split
    · rfl
    · split <;> rfl

lemma linked_tabTurns (ctx : RestoreContext) (snap : TabSnapshot) (number : Nat)
    (state : RestoreState) :
    LinkedTurns ctx state.resumedAgentSessions (tabTurns ctx snap state)
      (restoreTab ctx snap number state).2.resumedAgentSessions := by
  rw [restoreTab_snd]
  exact linked_paneTurns ctx snap (tabReverse snap state) (tabStart snap state) (tabPanes snap state)

lemma state_restoreNextTab (ctx : RestoreContext) (snap : WorkspaceSnapshot)
    (byOldRaw : Table UInt32 Nat) (r : WorkspaceRestore) (entry : TabSnapshot × Nat) :
    (restoreNextTab ctx snap byOldRaw r entry).state =
      (restoreTab ctx entry.1 (savedTabNumber snap entry.2) r.state).2 := by
  unfold restoreNextTab
  cases restoreTab ctx entry.1 (savedTabNumber snap entry.2) r.state with
  | mk restored state => cases restored <;> rfl

lemma restoreWorkspace_snd (ctx : RestoreContext) (snap : WorkspaceSnapshot)
    (state : RestoreState) : (restoreWorkspace ctx snap state).2 =
      (snap.tabs.zipIdx.foldl (restoreNextTab ctx snap snap.migrated.1)
        (workspaceStart snap state)).state := by
  unfold restoreWorkspace workspaceStart WorkspaceSnapshot.migrated WorkspaceSnapshot.firstNumber
  dsimp only
  generalize List.foldl _ _ _ = r
  split <;> rfl

lemma linked_workspaceTurns (ctx : RestoreContext) (snap : WorkspaceSnapshot)
    (state : RestoreState) :
    LinkedTurns ctx state.resumedAgentSessions (workspaceTurns ctx snap state)
      (restoreWorkspace ctx snap state).2.resumedAgentSessions := by
  rw [restoreWorkspace_snd]
  apply linked_trace (fun r : WorkspaceRestore => r.state.resumedAgentSessions)
    (s := workspaceStart snap state)
  intro r entry
  rw [state_restoreNextTab]
  exact linked_tabTurns ctx entry.1 _ r.state

lemma state_restoreNextWorkspace (ctx : RestoreContext) (r : SessionRestore)
    (snap : WorkspaceSnapshot) :
    (restoreNextWorkspace ctx r snap).state = (restoreWorkspace ctx snap r.state).2 := by
  unfold restoreNextWorkspace
  cases restoreWorkspace ctx snap r.state with
  | mk restored state => cases restored <;> rfl

section
variable (snapshot : SessionSnapshot) (nextPaneId : UInt32) (nextTerminal nextWorkspace : Nat)
  (importedPanes : Finset UInt32)

lemma linked_sessionTurns (ctx : RestoreContext) :
    LinkedTurns ctx ∅
      (sessionTurns ctx snapshot nextPaneId nextTerminal nextWorkspace importedPanes)
      (restoreWithImports ctx snapshot nextPaneId nextTerminal nextWorkspace
        importedPanes).state.resumedAgentSessions := by
  apply linked_trace (fun r : SessionRestore => r.state.resumedAgentSessions)
    (s := ⟨⟨nextPaneId, nextTerminal, nextWorkspace, ∅, importedPanes, 0⟩, [], ∅⟩)
  intro r snap
  rw [state_restoreNextWorkspace]
  exact linked_workspaceTurns ctx snap r.state

end

/-! ### Terminals -/

/-- The turn makes the terminal. -/
def PaneTurn.Makes (ctx : RestoreContext) (turn : PaneTurn) (e : RestoredTerminal) : Prop :=
  e ∈ (turn.result ctx).terminals

lemma terminals_restorePane (ctx : RestoreContext) (snap : TabSnapshot)
    (reverse : Table PaneId UInt32) (r : PanesRestore) (id : PaneId) :
    (restorePane ctx snap reverse r id).terminals = r.terminals ++
      (restorePane ctx snap reverse ⟨r.state, ∅, []⟩ id).terminals := by
  unfold restorePane
  dsimp only
  generalize startPane ctx id _ _ r.state = started
  obtain ⟨start, startup, state⟩ := started
  cases start with
  | resumeLater plan => rfl
  | started wasImported =>
    dsimp only
    split <;> rfl
  | failed => simp

lemma makes_of_restoreTab {snap : TabSnapshot} {number : Nat} {state : RestoreState}
    {restored : RestoredTab} (h : (restoreTab ctx snap number state).1 = some restored)
    {e : RestoredTerminal} (he : e ∈ restored.terminals) :
    ∃ turn ∈ tabTurns ctx snap state, turn.Makes ctx e := by
  have hterminals : e ∈ ((tabPanes snap state).foldl
      (restorePane ctx snap (tabReverse snap state)) (tabStart snap state)).terminals := by
    unfold restoreTab at h
    dsimp only at h
    split at h
    · cases h
    · split at h
      · cases h
      · split at h
        · cases h
          exact he
        · cases h
  have hbody : ∀ (r : PanesRestore) (id : PaneId) (e : RestoredTerminal),
      e ∈ (restorePane ctx snap (tabReverse snap state) r id).terminals → e ∈ r.terminals ∨
        ∃ turn ∈ [PaneTurn.mk snap (tabReverse snap state) r.state id], turn.Makes ctx e := by
    intro r id e he
    rw [terminals_restorePane, List.mem_append] at he
    exact he.imp_right fun he => ⟨_, List.mem_singleton_self _, he⟩
  have hmade := holds_foldl_trace (fun (r : PanesRestore) e => e ∈ r.terminals) (PaneTurn.Makes ctx)
    hbody hterminals
  exact hmade.resolve_left (by simp [tabStart])

lemma makes_of_restoreWorkspace {snap : WorkspaceSnapshot} {state : RestoreState}
    {restored : RestoredWorkspace} (h : (restoreWorkspace ctx snap state).1 = some restored)
    {e : RestoredTerminal} (he : e ∈ restored.terminals) :
    ∃ turn ∈ workspaceTurns ctx snap state, turn.Makes ctx e := by
  have hterminals : e ∈ (snap.tabs.zipIdx.foldl (restoreNextTab ctx snap snap.migrated.1)
      (workspaceStart snap state)).terminals := by
    unfold restoreWorkspace at h
    unfold workspaceStart WorkspaceSnapshot.migrated WorkspaceSnapshot.firstNumber
    dsimp only at h
    generalize List.foldl _ _ _ = r at h ⊢
    split at h
    · cases h
    · cases h
      exact he
  have hbody : ∀ (r : WorkspaceRestore) (entry : TabSnapshot × Nat) (e : RestoredTerminal),
      e ∈ (restoreNextTab ctx snap snap.migrated.1 r entry).terminals → e ∈ r.terminals ∨
        ∃ turn ∈ tabTurns ctx entry.1 r.state, turn.Makes ctx e := by
    intro r entry e he
    unfold restoreNextTab at he
    cases htab : restoreTab ctx entry.1 (savedTabNumber snap entry.2) r.state with
    | mk restored state =>
      rw [htab] at he
      cases restored with
      | none => exact Or.inl he
      | some restored =>
        rcases List.mem_append.mp he with he | he
        · exact Or.inl he
        · exact Or.inr (makes_of_restoreTab (by rw [htab]) he)
  have hmade := holds_foldl_trace (fun (r : WorkspaceRestore) e => e ∈ r.terminals)
    (PaneTurn.Makes ctx) hbody hterminals
  exact hmade.resolve_left (by simp [workspaceStart])

lemma lookup_foldl_insert {t : Table TerminalId LabelledTerminal} {restored : List RestoredTerminal}
    {id : TerminalId} {terminal : LabelledTerminal}
    (h : (restored.foldl (fun t e => t.insert e.id e.terminal) t).lookup id = some terminal) :
    t.lookup id = some terminal ∨ ⟨id, terminal⟩ ∈ restored := by
  induction restored generalizing t with
  | nil => exact Or.inl h
  | cons e restored ih =>
    rcases ih h with hhead | hmem
    · rw [Table.lookup_insert_eq] at hhead
      split at hhead
      · rename_i heq
        cases hhead
        rw [heq]
        exact Or.inr List.mem_cons_self
      · exact Or.inl hhead
    · exact Or.inr (List.mem_cons_of_mem _ hmem)

section
variable {snapshot : SessionSnapshot} {nextPaneId : UInt32} {nextTerminal nextWorkspace : Nat}
  {importedPanes : Finset UInt32}

/-- Every terminal of the session was made in the turn of a pane. -/
lemma makes_of_restoreWithImports {id : TerminalId} {terminal : LabelledTerminal}
    (h : (restoreWithImports ctx snapshot nextPaneId nextTerminal nextWorkspace
      importedPanes).terminals.lookup id = some terminal) :
    ∃ turn ∈ sessionTurns ctx snapshot nextPaneId nextTerminal nextWorkspace importedPanes,
      turn.Makes ctx ⟨id, terminal⟩ := by
  have hbody : ∀ (r : SessionRestore) (snap : WorkspaceSnapshot) (e : RestoredTerminal),
      (restoreNextWorkspace ctx r snap).terminals.lookup e.id = some e.terminal →
      r.terminals.lookup e.id = some e.terminal ∨
        ∃ turn ∈ workspaceTurns ctx snap r.state, turn.Makes ctx e := by
    intro r snap e he
    unfold restoreNextWorkspace at he
    cases hworkspace : restoreWorkspace ctx snap r.state with
    | mk restored state =>
      rw [hworkspace] at he
      cases restored with
      | none => exact Or.inl he
      | some restored =>
        apply (lookup_foldl_insert he).imp_right
        exact makes_of_restoreWorkspace (by rw [hworkspace])
  have hmade := holds_foldl_trace (fun (r : SessionRestore) e => r.terminals.lookup e.id = some e.terminal)
    (PaneTurn.Makes ctx) hbody (e := ⟨id, terminal⟩) h
  exact hmade.resolve_left (by simp)

end

/-! ### Duplicates -/

lemma plan_eq_some {source agent : String} {sessionRef : AgentSessionRef} {plan : AgentResumePlan}
    (h : Terminal.plan source agent sessionRef = some plan) :
    isOfficialAgentSource source agent = true ∧
      plan.dedupeKey = dedupeKey source agent sessionRef := by
  cases hofficial : isOfficialAgentSource source agent with
  | false => simp [Terminal.plan, hofficial] at h
  | true =>
    simp only [Terminal.plan, hofficial, Bool.not_true, Bool.false_eq_true, if_false] at h
    obtain ⟨argv, -, hplan⟩ := Option.bind_eq_some_iff.mp h
    cases hplan
    exact ⟨rfl, rfl⟩

lemma agent_of_persisted {session : PaneAgentSessionSnapshot} {persisted : PersistedAgentSession}
    (h : persistedAgentSessionFromSnapshot session = some persisted) :
    persisted.agent = session.agent := by
  unfold persistedAgentSessionFromSnapshot at h
  cases hofficial : isOfficialAgentSource session.source session.agent with
  | false => simp [sessionRefFromSnapshot, hofficial] at h
  | true =>
    simp only [sessionRefFromSnapshot, hofficial, Bool.not_true, Bool.false_eq_true, if_false] at h
    cases hkind : session.kind with
    | id =>
      rw [hkind] at h
      obtain ⟨sessionRef, -, hpersisted⟩ := Option.bind_eq_some_iff.mp h
      cases hpersisted
      rfl
    | path =>
      rw [hkind] at h
      dsimp only at h
      split at h
      · obtain ⟨sessionRef, -, hpersisted⟩ := Option.bind_eq_some_iff.mp h
        cases hpersisted
        rfl
      · cases h

lemma reference_of_wanted {plan : AgentResumePlan} (h : turn.wanted ctx = some plan) :
    ∃ source agent sessionRef, isOfficialAgentSource source agent = true ∧
      turn.reference = some (agent, sessionRef) ∧
      plan.dedupeKey = dedupeKey source agent sessionRef := by
  unfold PaneTurn.wanted at h
  obtain ⟨session, hsession, hplan⟩ := Option.bind_eq_some_iff.mp h
  unfold restorePlanForSnapshot at hplan
  cases henabled : ctx.resumeAgentsOnRestore with
  | false => simp [henabled] at hplan
  | true =>
    simp only [henabled, Bool.not_true, Bool.false_eq_true, if_false] at hplan
    obtain ⟨persisted, hpersisted, hplan⟩ := Option.bind_eq_some_iff.mp hplan
    obtain ⟨hofficial, hkey⟩ := plan_eq_some hplan
    refine ⟨session.source, session.agent, persisted.sessionRef, hofficial, ?_, hkey⟩
    rw [PaneTurn.reference, hsession, Option.bind_some, hpersisted, Option.map_some,
      agent_of_persisted hpersisted]

/-- Two panes that ask for the same agent and session ask for the same key. -/
lemma dedupeKey_eq_iff_reference {other : PaneTurn} {plan otherPlan : AgentResumePlan}
    (h : turn.wanted ctx = some plan) (hother : other.wanted ctx = some otherPlan) :
    plan.dedupeKey = otherPlan.dedupeKey ↔ turn.reference = other.reference := by
  obtain ⟨source, agent, sessionRef, hofficial, hreference, hkey⟩ := reference_of_wanted h
  obtain ⟨source', agent', sessionRef', hofficial', hreference', hkey'⟩ := reference_of_wanted hother
  rw [hkey, hkey', hreference, hreference', dedupeKey_eq_iff hofficial hofficial', Option.some_inj,
    Prod.mk.injEq]

section
variable {snapshot : SessionSnapshot} {nextPaneId : UInt32} {nextTerminal nextWorkspace : Nat}
  {importedPanes : Finset UInt32} {earlier later : List PaneTurn}

lemma resumedAgentSessions_of_turn
    (h : sessionTurns ctx snapshot nextPaneId nextTerminal nextWorkspace importedPanes =
      earlier ++ turn :: later) :
    turn.state.resumedAgentSessions = (earlier.filterMap (PaneTurn.held ctx)).toFinset := by
  have hlinked := linked_sessionTurns snapshot nextPaneId nextTerminal nextWorkspace
    importedPanes ctx
  rw [h] at hlinked
  have hbefore := hlinked.before_eq (PaneTurn.resumedAgentSessions_result ctx)
  rwa [Finset.empty_union] at hbefore

/-- The session is granted unless an earlier pane that came up has it. -/
lemma granted_iff {plan : AgentResumePlan}
    (h : sessionTurns ctx snapshot nextPaneId nextTerminal nextWorkspace importedPanes =
      earlier ++ turn :: later)
    (hwanted : turn.wanted ctx = some plan) :
    (turn.granted ctx).isSome = true ↔ ∀ other ∈ earlier, other.live ctx = true →
      (other.granted ctx).isSome = true → other.reference ≠ turn.reference := by
  have hmem : plan.dedupeKey ∈ turn.state.resumedAgentSessions ↔
      ∃ other ∈ earlier, other.held ctx = some plan.dedupeKey := by
    rw [resumedAgentSessions_of_turn h, List.mem_toFinset, List.mem_filterMap]
  rw [PaneTurn.granted_of_wanted hwanted]
  constructor
  · intro hgranted other hother hlive hsome href
    obtain ⟨otherPlan, hotherPlan⟩ := Option.isSome_iff_exists.mp hsome
    have hotherWanted := (PaneTurn.wanted_of_granted hotherPlan).1
    have hkey := (dedupeKey_eq_iff_reference hotherWanted hwanted).mpr href
    have hheld : other.held ctx = some plan.dedupeKey := by
      rw [PaneTurn.held, if_pos hlive, hotherPlan, Option.map_some, hkey]
    rw [if_pos (hmem.mpr ⟨other, hother, hheld⟩)] at hgranted
    cases hgranted
  · intro hothers
    rw [if_neg]
    · rfl
    · rw [hmem]
      rintro ⟨other, hother, hheld⟩
      unfold PaneTurn.held at hheld
      split at hheld
      · rename_i hlive
        obtain ⟨otherPlan, hotherPlan, hkey⟩ := Option.map_eq_some_iff.mp hheld
        have hotherWanted := (PaneTurn.wanted_of_granted hotherPlan).1
        have href := (dedupeKey_eq_iff_reference hotherWanted hwanted).mp hkey
        exact hothers other hother hlive (by rw [hotherPlan]; rfl) href
      · cases hheld

end

/-- The panes of a restore take their turns one after the other. Of the panes that come up no two
receive a plan for the same agent and session, and a pane that asks for a plan is denied it only for
such a pane before it: a pane that did not come up leaves its session to later ones. A pane that is
denied a plan has no persisted session. The terminals of the session are those of the turns. -/
theorem restoreWithImports_resumes (ctx : RestoreContext) (snapshot : SessionSnapshot)
    (nextPaneId : UInt32) (nextTerminal nextWorkspace : Nat) (importedPanes : Finset UInt32) :
    let turns := sessionTurns ctx snapshot nextPaneId nextTerminal nextWorkspace importedPanes
    let restored :=
      restoreWithImports ctx snapshot nextPaneId nextTerminal nextWorkspace importedPanes
    (∀ earlier turn later, turns = earlier ++ turn :: later → (turn.wanted ctx).isSome = true →
      ((turn.granted ctx).isSome = true ↔ ∀ other ∈ earlier, other.live ctx = true →
        (other.granted ctx).isSome = true → other.reference ≠ turn.reference)) ∧
    (turns.Pairwise fun other turn => other.live ctx = true → (other.granted ctx).isSome = true →
      (turn.granted ctx).isSome = true → other.reference ≠ turn.reference) ∧
    (∀ turn ∈ turns, (turn.wanted ctx).isSome = true → turn.granted ctx = none →
      ∀ e, turn.Makes ctx e → e.terminal.state.persistedAgentSession = none ∧
        e.terminal.state.pendingAgentResumePlan = none) ∧
    ∀ id terminal, restored.terminals.lookup id = some terminal →
      ∃ turn ∈ turns, turn.Makes ctx ⟨id, terminal⟩ := by
  intro turns restored
  have hiff : ∀ earlier turn later, turns = earlier ++ turn :: later →
      (turn.wanted ctx).isSome = true →
      ((turn.granted ctx).isSome = true ↔ ∀ other ∈ earlier, other.live ctx = true →
        (other.granted ctx).isSome = true → other.reference ≠ turn.reference) := by
    intro earlier turn later h hwanted
    obtain ⟨plan, hplan⟩ := Option.isSome_iff_exists.mp hwanted
    exact granted_iff h hplan
  refine ⟨hiff, ?_, ?_, ?_⟩
  · rw [List.pairwise_iff_getElem]
    intro i j hi hj hij hlive hgranted hgranted'
    have hsplit : turns = turns.take j ++ turns[j] :: turns.drop (j + 1) := by simp
    have hwanted : (turns[j].wanted ctx).isSome = true := by
      obtain ⟨plan, hplan⟩ := Option.isSome_iff_exists.mp hgranted'
      rw [(PaneTurn.wanted_of_granted hplan).1]
      rfl
    have hmem : turns[i] ∈ turns.take j := List.mem_take_iff_getElem.mpr ⟨i, by omega, rfl⟩
    exact (hiff _ _ _ hsplit hwanted).mp hgranted' _ hmem hlive hgranted
  · intro turn _ hwanted hdenied e he
    obtain ⟨plan, hplan⟩ := Option.isSome_iff_exists.mp hwanted
    exact PaneTurn.terminal_of_denied hplan hdenied he
  · intro id terminal h
    exact makes_of_restoreWithImports h

end

end Ork3.Persist
