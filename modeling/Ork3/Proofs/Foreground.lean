import Ork3.Proofs.TerminalSessions

/-!
# The client in the foreground

A client in the foreground that is no full app client was brought there by its own input.
-/

namespace Ork3.Server

open Ork3.Library Ork3.Input

/-- What a user does at the terminal, apart from moving the focus. -/
def hasUserInput (events : List RawInputEvent) : Bool :=
  events.any fun
    | .key _ | .mouse _ | .paste _ => true
    | _ => false

/-- The event brings a client that is no full app client to the foreground. -/
def ServerEvent.Intrudes (st : HeadlessServer) (around : Surroundings) (ev : ServerEvent)
    (client : ClientConnection) : Prop :=
  client.isFullAppClient = false ∧ st.handoffInProgress = false ∧
    match ev with
    | .clientInput _ data => client.mode = .app ∧ ∃ rawInput events,
      HeadlessServer.framedEvents client.rawInput data = .ok (rawInput, events) ∧
        hasUserInput events = true
    | .clientInputEvents _ events =>
      (∀ terminalId, client.mode ≠ .terminalObserve terminalId) ∧ hasUserInput events = true
    | .clientClipboardImage _ => client.mode = .app ∧ around.clipboardImageStaged = true
    | .clientResize _ _ => client.mode = .app
    | _ => False

/-- No client but a full app client brings itself to the foreground in this step. -/
def ServerOp.Unintruding (st : HeadlessServer) : ServerOp → Prop
  | .event ev around => ∀ clientId client, ev.clientId = some clientId →
    st.clients.lookup clientId = some client → ¬ev.Intrudes st around client
  | _ => True

namespace HeadlessServer

/-! ### Interaction -/

lemma interaction_of_notFull (events : List RawInputEvent) (foreground : Bool) :
    eventsIncludeInteraction (eventsForAppRouting events foreground false) =
      hasUserInput events := by
  induction events generalizing foreground with
  | nil => rfl
  | cons event events ih =>
    cases event with
    | key => rfl
    | mouse => rfl
    | paste => rfl
    | outerFocusGained => exact ih _
    | outerFocusLost => exact ih _
    | _ => exact ih _

/-! ### The invariant -/

/-- The foreground is a full app client, whose size is the effective one. -/
structure ForegroundShown (st : HeadlessServer) : Prop where
  client : ∀ clientId, st.foregroundClientId = some clientId →
    ∃ client, st.clients.lookup clientId = some client ∧ client.isFullAppClient = true ∧
      st.effectiveSize = client.terminalSize
  size : st.foregroundClientId = none → st.effectiveSize = (80, 24)

section
variable {st st' : HeadlessServer} {clientId : Nat}

lemma ForegroundShown.of_same (h : st.ForegroundShown) (hclients : st'.clients = st.clients)
    (hforeground : st'.foregroundClientId = st.foregroundClientId)
    (hsize : st'.effectiveSize = st.effectiveSize) : st'.ForegroundShown where
  client clientId hid := by
    rw [hforeground] at hid
    rw [hclients, hsize]
    exact h.client clientId hid
  size hnone := by
    rw [hforeground] at hnone
    rw [hsize]
    exact h.size hnone

/-- The state of the foreground client is looked up again. -/
lemma foregroundShown_sync (hfull : ∀ clientId client, st.foregroundClientId = some clientId →
    st.clients.lookup clientId = some client → client.isFullAppClient = true) :
    st.syncForegroundClientState.ForegroundShown := by
  unfold syncForegroundClientState
  split
  case h_1 hnone =>
    refine ⟨fun clientId hid => ?_, fun _ => rfl⟩
    rw [hnone] at hid
    cases hid
  case h_2 clientId hsome =>
    split
    case h_1 =>
      refine ⟨fun _ hid => ?_, fun _ => rfl⟩
      cases hid
    case h_2 client hclient =>
      refine ⟨fun other hid => ?_, fun hnone => ?_⟩
      · cases hsome.symm.trans hid
        exact ⟨client, hclient, hfull clientId client hsome hclient, rfl⟩
      · cases hsome.symm.trans hnone

lemma ForegroundShown.sync (h : st.ForegroundShown) :
    st.syncForegroundClientState.ForegroundShown :=
  foregroundShown_sync fun clientId client hid hclient => by
    obtain ⟨client', hclient', hfull, -⟩ := h.client clientId hid
    rw [hclient] at hclient'
    cases hclient'
    exact hfull

lemma latestAppClient_spec {clients : Table Nat ClientConnection}
    (h : latestAppClient clients = some clientId) :
    ∃ client, clients.lookup clientId = some client ∧ client.isFullAppClient = true := by
  unfold latestAppClient at h
  obtain ⟨entry, hentry, rfl⟩ := Option.map_eq_some_iff.mp h
  have hall : ∀ (entries : List (Sigma fun _ : Nat => ClientConnection)) best,
      (∀ held ∈ best, held ∈ clients.entries ∧ held.2.isFullAppClient = true) →
      (∀ e ∈ entries, e ∈ clients.entries ∧ e.2.isFullAppClient = true) →
      ∀ found ∈ entries.foldl (fun best entry =>
        match best with
        | none => some entry
        | some held =>
          if held.2.lastActivity ≤ entry.2.lastActivity then some entry else some held) best,
        found ∈ clients.entries ∧ found.2.isFullAppClient = true := by
    intro entries
    induction entries with
    | nil => exact fun best hbest _ => hbest
    | cons e entries ih =>
      intro best hbest hentries
      refine ih _ (fun held hheld => ?_) fun e' he' => hentries e' (List.mem_cons_of_mem e he')
      have he := hentries e List.mem_cons_self
      cases best with
      | none =>
        cases hheld
        exact he
      | some held' =>
        dsimp only at hheld
        split_ifs at hheld <;> cases hheld
        · exact he
        · exact hbest _ rfl
  obtain ⟨hmem, hfull⟩ := hall _ none (fun held hheld => nomatch hheld) (fun e he => by
    rw [List.mem_filter] at he
    exact he) entry hentry
  exact ⟨entry.2, AList.mem_lookup_iff.mpr hmem, hfull⟩

lemma foregroundShown_promoteLatest (st : HeadlessServer) :
    st.promoteLatestRemainingClient.ForegroundShown := by
  refine foregroundShown_sync fun clientId client hid hclient => ?_
  obtain ⟨client', hclient', hfull⟩ := latestAppClient_spec hid
  change st.clients.lookup clientId = some client at hclient
  rw [hclient] at hclient'
  cases hclient'
  exact hfull

/-- What changes about another client than the one in the foreground. -/
lemma ForegroundShown.of_others (h : st.ForegroundShown)
    (hforeground : st.foregroundClientId ≠ some clientId)
    (hid : st'.foregroundClientId = st.foregroundClientId)
    (hsize : st'.effectiveSize = st.effectiveSize)
    (hclients : ∀ other, other ≠ clientId →
      st'.clients.lookup other = st.clients.lookup other) : st'.ForegroundShown where
  client other hother := by
    rw [hid] at hother
    rw [hclients other fun he => hforeground (he ▸ hother), hsize]
    exact h.client other hother
  size hnone := by
    rw [hid] at hnone
    rw [hsize]
    exact h.size hnone

/-- A client that was inserted again with what counts for the foreground. -/
lemma ForegroundShown.insert_same (h : st.ForegroundShown) {client client' : ClientConnection}
    (hclient : st.clients.lookup clientId = some client)
    (hfull : client'.isFullAppClient = client.isFullAppClient)
    (hsize : client'.terminalSize = client.terminalSize) :
    ForegroundShown { st with clients := st.clients.insert clientId client' } := by
  refine ⟨fun other hother => ?_, h.size⟩
  obtain ⟨client₀, hclient₀, hfull₀, hsize₀⟩ := h.client other hother
  change ∃ client, (st.clients.insert clientId client').lookup other = some client ∧ _
  rw [Table.lookup_insert_eq]
  split
  case isTrue he =>
    rw [he, hclient] at hclient₀
    cases hclient₀
    exact ⟨client', rfl, hfull.trans hfull₀, hsize₀.trans hsize.symm⟩
  case isFalse => exact ⟨client₀, hclient₀, hfull₀, hsize₀⟩

lemma foregroundShown_promote {client : ClientConnection}
    (hclient : st.clients.lookup clientId = some client) (hfull : client.isFullAppClient = true) :
    (st.promoteClientToForeground clientId).1.ForegroundShown := by
  unfold HeadlessServer.promoteClientToForeground
  dsimp only
  rw [hclient]
  dsimp only
  refine foregroundShown_sync fun other client' hother hclient' => ?_
  cases hother
  change (st.clients.insert clientId _).lookup clientId = _ at hclient'
  rw [AList.lookup_insert] at hclient'
  cases hclient'
  exact hfull

lemma ForegroundShown.promoteClientToForeground (h : st.ForegroundShown)
    (hfull : ∀ client, st.clients.lookup clientId = some client →
      client.isFullAppClient = true) :
    (st.promoteClientToForeground clientId).1.ForegroundShown := by
  cases hclient : st.clients.lookup clientId with
  | none =>
    unfold HeadlessServer.promoteClientToForeground
    dsimp only
    rw [hclient]
    exact h.of_same rfl rfl rfl
  | some client => exact foregroundShown_promote hclient (hfull client hclient)

/-- A client that is no full app client is not in the foreground. -/
lemma ForegroundShown.not_foreground (h : st.ForegroundShown) {client : ClientConnection}
    (hclient : st.clients.lookup clientId = some client) (hfull : client.isFullAppClient = false) :
    st.foregroundClientId ≠ some clientId := by
  intro hid
  obtain ⟨client', hclient', hfull', -⟩ := h.client clientId hid
  rw [hclient] at hclient'
  cases hclient'
  rw [hfull] at hfull'
  cases hfull'

lemma release_same (st : HeadlessServer) (terminalId : String) :
    (st.releaseTerminalAttach terminalId).clients = st.clients ∧
      (st.releaseTerminalAttach terminalId).foregroundClientId = st.foregroundClientId ∧
        (st.releaseTerminalAttach terminalId).effectiveSize = st.effectiveSize := by
  unfold releaseTerminalAttach
  dsimp only
  split <;> exact ⟨rfl, rfl, rfl⟩

lemma ForegroundShown.removeClient (h : st.ForegroundShown) (clientId : Nat) :
    (st.removeClient clientId).ForegroundShown := by
  unfold HeadlessServer.removeClient
  dsimp only
  split_ifs with hforeground
  · exact foregroundShown_promoteLatest _
  · split
    · next terminalId hmode =>
      obtain ⟨hclients, hid, hsize⟩ := release_same
        { st with clients := st.clients.erase clientId } terminalId
      refine h.of_others hforeground hid hsize fun other hne => ?_
      rw [hclients]
      exact AList.lookup_erase_ne hne
    · exact h.of_others hforeground rfl rfl fun other hne => AList.lookup_erase_ne hne

variable (around : Surroundings)

lemma ForegroundShown.sendToClient (h : st.ForegroundShown) (clientId : Nat) :
    (st.sendToClient around clientId).ForegroundShown := by
  unfold HeadlessServer.sendToClient
  split
  · exact h
  · split_ifs
    · exact h.removeClient clientId
    · exact h

lemma ForegroundShown.refuse (h : st.ForegroundShown) (clientId : Nat) :
    (st.refuse around clientId).ForegroundShown :=
  (h.sendToClient around clientId).removeClient clientId

lemma ForegroundShown.shutdownTerminalStreamClients (h : st.ForegroundShown)
    (terminalId : String) :
    (st.shutdownTerminalStreamClients around terminalId).ForegroundShown := by
  unfold HeadlessServer.shutdownTerminalStreamClients
  dsimp only
  generalize (st.clients.entries.filter fun entry =>
    entry.2.mode = .terminalAttach terminalId || entry.2.mode = .terminalObserve terminalId).map
      (·.1) = clientIds
  exact List.foldlRecOn clientIds _ h fun st h clientId _ => h.refuse around clientId

lemma ForegroundShown.switchMode (h : st.ForegroundShown) (client : ClientConnection)
    (mode : ClientConnectionMode) (stamp : Nat) :
    (st.switchMode clientId client mode stamp).ForegroundShown := by
  unfold HeadlessServer.switchMode
  dsimp only
  split_ifs with hforeground
  · exact foregroundShown_promoteLatest _
  · exact h.of_others hforeground rfl rfl fun other hne => AList.lookup_insert_ne hne

lemma ForegroundShown.attachTerminalClient (h : st.ForegroundShown) (clientId : Nat)
    (terminalId : String) (takeover : Bool) :
    (st.attachTerminalClient around clientId terminalId takeover).ForegroundShown := by
  have htaken : (st.takeOver around clientId terminalId takeover).1.ForegroundShown := by
    unfold HeadlessServer.takeOver
    split
    · exact h
    · split_ifs
      · exact h.refuse around clientId
      · exact h.refuse around _
      · exact h
  unfold HeadlessServer.attachTerminalClient
  generalize st.takeOver around clientId terminalId takeover = result at htaken
  obtain ⟨taken, proceeds⟩ := result
  split
  · exact h.refuse around clientId
  · split
    · exact h.refuse around clientId
    · cases proceeds with
      | false => exact htaken
      | true =>
        dsimp only
        have hstamped : ForegroundShown
            { taken with nextActivityStamp := taken.nextActivityStamp + 1 } :=
          htaken.of_same rfl rfl rfl
        split
        · exact hstamped
        · exact (hstamped.switchMode _ _ _).of_same rfl rfl rfl

lemma ForegroundShown.observeTerminalClient (h : st.ForegroundShown) (clientId : Nat)
    (target : String) : (st.observeTerminalClient around clientId target).ForegroundShown := by
  unfold HeadlessServer.observeTerminalClient
  obtain hrefused | ⟨terminalId, client, hresolved, hclient, -⟩ :=
    resolve_spec around st clientId target
  · rw [hrefused]
    exact h.refuse around clientId
  · have hstamped : ForegroundShown { st with nextActivityStamp := st.nextActivityStamp + 1 } :=
      h.of_same rfl rfl rfl
    rw [hresolved]
    dsimp only
    rw [hclient]
    exact hstamped.switchMode _ _ _

lemma ForegroundShown.controlTerminalClient (h : st.ForegroundShown) (clientId : Nat)
    (target : String) (takeover : Bool) :
    (st.controlTerminalClient around clientId target takeover).ForegroundShown := by
  unfold HeadlessServer.controlTerminalClient
  obtain hrefused | ⟨terminalId, client, hresolved, -, -⟩ :=
    resolve_spec around st clientId target
  · rw [hrefused]
    exact h.refuse around clientId
  · rw [hresolved]
    exact h.attachTerminalClient around clientId terminalId takeover

/-! ### Events -/

lemma ForegroundShown.handleClientInputEvents (h : st.ForegroundShown)
    (events : List RawInputEvent)
    (hinput : ∀ client, st.clients.lookup clientId = some client →
      client.isFullAppClient = false → hasUserInput events = false) :
    (st.handleClientInputEvents around clientId events).ForegroundShown := by
  have hpromoted : eventsIncludeInteraction (eventsForAppRouting events
      (st.foregroundClientId = some clientId)
      ((st.clients.lookup clientId).any ClientConnection.isFullAppClient)) = true →
      (st.promoteClientToForeground clientId).1.ForegroundShown := by
    intro hinteraction
    refine h.promoteClientToForeground fun client hclient => ?_
    cases hfull : client.isFullAppClient with
    | true => rfl
    | false =>
      rw [hclient, Option.any_some, hfull, interaction_of_notFull,
        hinput client hclient hfull] at hinteraction
      cases hinteraction
  unfold HeadlessServer.handleClientInputEvents
  dsimp only
  have hshown : ForegroundShown (if eventsIncludeInteraction (eventsForAppRouting events
      (st.foregroundClientId = some clientId)
      ((st.clients.lookup clientId).any ClientConnection.isFullAppClient)) = true then
      (st.promoteClientToForeground clientId).1 else st) := by
    split_ifs with hinteraction
    · exact hpromoted hinteraction
    · exact h
  generalize (if eventsIncludeInteraction _ = true then
      (st.promoteClientToForeground clientId).1 else st) = promoted at hshown
  have hrouted : ForegroundShown { promoted with app := around.routed } :=
    hshown.of_same rfl rfl rfl
  split_ifs
  · have hsent := hrouted.sync.sendToClient around clientId
    unfold HeadlessServer.detachRequestedClient Table.modify
    dsimp only
    split
    · exact hsent
    · next client hclient => exact hsent.insert_same hclient rfl rfl
  · exact hrouted.sync

lemma ForegroundShown.handleClientInput (h : st.ForegroundShown) {clientId : Nat}
    {data : List UInt8}
    (hinput : ∀ client rawInput events, st.clients.lookup clientId = some client →
      client.isFullAppClient = false → client.mode = .app →
      framedEvents client.rawInput data = .ok (rawInput, events) → hasUserInput events = false)
    (hevent : st.handleClientInput around clientId data = .ok st') : st'.ForegroundShown := by
  unfold HeadlessServer.handleClientInput at hevent
  cases hclient : st.clients.lookup clientId with
  | none =>
    rw [hclient] at hevent
    cases hevent
    exact h.handleClientInputEvents around [] fun _ _ _ => rfl
  | some client =>
    rw [hclient] at hevent
    dsimp only at hevent
    split at hevent
    case h_1 =>
      cases hevent
      exact h
    case h_2 =>
      cases hevent
      exact h
    case h_3 hmode =>
      obtain ⟨⟨rawInput, events⟩, hframed, hevent⟩ := bind_eq_ok.mp hevent
      cases hevent
      have hinserted : ForegroundShown { st with
          clients := st.clients.insert clientId { client with rawInput := rawInput } } :=
        h.insert_same hclient rfl rfl
      refine hinserted.handleClientInputEvents around events fun client' hclient' hfull => ?_
      change (st.clients.insert clientId _).lookup clientId = _ at hclient'
      rw [AList.lookup_insert] at hclient'
      cases hclient'
      exact hinput client rawInput events hclient hfull hmode hframed

lemma ForegroundShown.pasteClientClipboardImagePath (h : st.ForegroundShown)
    (hinput : ∀ client, st.clients.lookup clientId = some client →
      client.isFullAppClient = false → client.mode ≠ .app) (hobserving : ¬st.isObserving clientId) :
    (st.pasteClientClipboardImagePath around clientId).ForegroundShown := by
  unfold HeadlessServer.pasteClientClipboardImagePath
  split
  · exact h
  · next hattached =>
    have hpromoted : (st.promoteClientToForeground clientId).1.ForegroundShown := by
      refine h.promoteClientToForeground fun client hclient => ?_
      cases hfull : client.isFullAppClient with
      | true => rfl
      | false =>
        cases hmode : client.mode with
        | app => exact absurd hmode (hinput client hclient hfull)
        | terminalAttach terminalId =>
          exact absurd (by rw [hclient, Option.map_some, hmode]) (hattached terminalId)
        | terminalObserve terminalId =>
          refine absurd ?_ hobserving
          unfold isObserving
          rw [hclient, Option.map_some, hmode]
    exact hpromoted.of_same rfl rfl rfl

lemma ForegroundShown.handleClientResize (h : st.ForegroundShown) (size : UInt16 × UInt16)
    (hinput : ∀ client, st.clients.lookup clientId = some client →
      client.isFullAppClient = false → client.mode ≠ .app) :
    (st.handleClientResize clientId size).ForegroundShown := by
  unfold HeadlessServer.handleClientResize
  cases hclient : st.clients.lookup clientId with
  | none =>
    refine h.promoteClientToForeground fun client hsome => ?_
    rw [hclient] at hsome
    cases hsome
  | some client =>
    have hother (hmode : client.mode ≠ .app) : ForegroundShown { st with
        clients := st.clients.insert clientId { client with terminalSize := size } } := by
      have hfull : client.isFullAppClient = false := by
        unfold ClientConnection.isFullAppClient
        rw [decide_eq_false hmode, Bool.false_and]
      exact h.of_others (h.not_foreground hclient hfull) rfl rfl fun other hne =>
        AList.lookup_insert_ne hne
    dsimp only
    split
    case h_1 terminalId hmode => exact hother (by rw [hmode]; exact fun he => nomatch he)
    case h_2 terminalId hmode => exact hother (by rw [hmode]; exact fun he => nomatch he)
    case h_3 hmode =>
      refine foregroundShown_promote (AList.lookup_insert _) ?_
      cases hfull : client.isFullAppClient with
      | true => exact hfull
      | false => exact absurd hmode (hinput client hclient hfull)

lemma ForegroundShown.handleClientConnected (h : st.ForegroundShown)
    (hfresh : clientId ∉ st.clients) (size : UInt16 × UInt16) (direct : Bool) :
    (st.handleClientConnected clientId size direct).ForegroundShown := by
  unfold HeadlessServer.handleClientConnected
  split
  · exact h
  · dsimp only
    refine foregroundShown_sync fun other client hother hclient => ?_
    cases direct with
    | true =>
      obtain ⟨client', hclient', hfull, -⟩ := h.client other hother
      have hne : other ≠ clientId := by
        rintro rfl
        rw [AList.lookup_eq_none.mpr hfresh] at hclient'
        cases hclient'
      change (st.clients.insert clientId _).lookup other = _ at hclient
      rw [AList.lookup_insert_ne hne, hclient'] at hclient
      cases hclient
      exact hfull
    | false =>
      cases hother
      change (st.clients.insert clientId _).lookup clientId = _ at hclient
      rw [AList.lookup_insert] at hclient
      cases hclient
      rfl

lemma ForegroundShown.handleClientDetach (h : st.ForegroundShown) (clientId : Nat) :
    (st.handleClientDetach around clientId).ForegroundShown := by
  unfold HeadlessServer.handleClientDetach
  dsimp only
  refine ForegroundShown.removeClient ?_ clientId
  split
  · exact h.sendToClient around clientId
  · exact h.sendToClient around clientId
  · exact h

lemma foregroundShown_disconnectAll (st : HeadlessServer) :
    (st.disconnectAllClientsForHandoff around).ForegroundShown := by
  unfold HeadlessServer.disconnectAllClientsForHandoff
  exact foregroundShown_sync fun _ _ hid => (nomatch hid)

lemma ForegroundShown.handleServerEvent (h : st.ForegroundShown) {ev : ServerEvent}
    (hfresh : ev.Fresh st)
    (hquiet : ∀ clientId client, ev.clientId = some clientId →
      st.clients.lookup clientId = some client → ¬ev.Intrudes st around client)
    (hevent : st.handleServerEvent around ev = .ok st') : st'.ForegroundShown := by
  unfold HeadlessServer.handleServerEvent at hevent
  split_ifs at hevent with hignored
  · cases hevent
    exact h
  · have hactive : ignoreClientEventDuringHandoff ev = true → st.handoffInProgress = false := by
      intro hignore
      rw [hignore, Bool.and_true] at hignored
      exact Bool.eq_false_iff.mpr hignored
    cases ev with
    | clientConnected clientId size direct =>
      cases hevent
      exact h.handleClientConnected hfresh size direct
    | clientAttachTerminal clientId terminalId takeover =>
      cases hevent
      exact h.attachTerminalClient around clientId terminalId takeover
    | clientObserveTerminal clientId target =>
      cases hevent
      exact h.observeTerminalClient around clientId target
    | clientControlTerminal clientId target takeover =>
      cases hevent
      exact h.controlTerminalClient around clientId target takeover
    | clientAttachScroll clientId =>
      cases hevent
      exact h
    | clientInput clientId data =>
      refine h.handleClientInput around (fun client rawInput events hclient hfull hmode hframed =>
        ?_) hevent
      refine Bool.eq_false_iff.mpr fun hinput => hquiet clientId client rfl hclient ?_
      exact ⟨hfull, hactive rfl, hmode, rawInput, events, hframed, hinput⟩
    | clientInputEvents clientId events =>
      cases hevent
      split_ifs with hobserving
      · exact h
      · refine h.handleClientInputEvents around events fun client hclient hfull => ?_
        refine Bool.eq_false_iff.mpr fun hinput => hquiet clientId client rfl hclient ?_
        refine ⟨hfull, hactive rfl, fun terminalId hmode => hobserving ?_, hinput⟩
        unfold isObserving
        rw [hclient, Option.map_some, hmode]
    | clientClipboardImage clientId =>
      cases hevent
      split_ifs with hskipped
      · exact h
      · rw [Bool.or_eq_true, not_or, Bool.not_eq_true', Bool.not_eq_false] at hskipped
        refine h.pasteClientClipboardImagePath around (fun client hclient hfull hmode => ?_)
          hskipped.1
        exact hquiet clientId client rfl hclient ⟨hfull, hactive rfl, hmode, hskipped.2⟩
    | clientResize clientId size =>
      cases hevent
      refine h.handleClientResize size fun client hclient hfull hmode => ?_
      exact hquiet clientId client rfl hclient ⟨hfull, hactive rfl, hmode⟩
    | clientDetach clientId =>
      cases hevent
      exact h.handleClientDetach around clientId
    | clientDisconnected clientId =>
      cases hevent
      exact h.removeClient clientId
    | clientWriterDrained clientId =>
      cases hevent
      exact h
    | quitSignal =>
      cases hevent
      exact h

end

end HeadlessServer

open HeadlessServer

/-! ### Every run -/

section
variable {st st' : HeadlessServer} {op : ServerOp} {ops : List ServerOp}

lemma ServerOp.Step.foregroundShown (hs : ServerOp.Step st op st') (hquiet : op.Unintruding st)
    (h : st.ForegroundShown) : st'.ForegroundShown := by
  cases op with
  | event ev around => exact h.handleServerEvent around hs.1 hquiet hs.2.2
  | appChanged app =>
    obtain ⟨-, rfl⟩ := hs
    exact h.of_same rfl rfl rfl
  | dropClient clientId =>
    obtain rfl := hs
    exact h.removeClient clientId
  | terminalEnded terminalId around =>
    obtain rfl := hs
    exact h.shutdownTerminalStreamClients around terminalId
  | handoff inProgress =>
    obtain rfl := hs
    exact h.of_same rfl rfl rfl
  | disconnectForHandoff around =>
    obtain rfl := hs
    exact foregroundShown_disconnectAll around st

lemma start_foregroundShown (app : AppTerminals) : (start app).ForegroundShown where
  client _ hid := nomatch hid
  size _ := rfl

/-- As long as no other client brings itself to the foreground, a full app client is there and the
panes have its size. -/
theorem foreground_is_full_app {app : AppTerminals}
    (hrun : Run (fun st op st' => ServerOp.Step st op st' ∧ op.Unintruding st) (start app) ops st) :
    (∀ clientId, st.foregroundClientId = some clientId →
      ∃ client, st.clients.lookup clientId = some client ∧ client.isFullAppClient = true ∧
        st.effectiveSize = client.terminalSize) ∧
    (st.foregroundClientId = none → st.effectiveSize = (80, 24)) := by
  have h := hrun.invariant (fun _ _ _ h hs => hs.1.foregroundShown hs.2 h)
    (start_foregroundShown app)
  exact ⟨h.client, h.size⟩

/-- A terminal session next to a full app client. -/
theorem foreground_is_full_app_attached :
    ∃ ops st, Run (fun st op st' => ServerOp.Step st op st' ∧ op.Unintruding st)
      (start ⟨{⟨"t"⟩}, ∅⟩) ops st ∧ st.foregroundClientId = some 1 ∧
        st.terminalAttachOwners.lookup "t" = some 2 ∧ st.effectiveSize = (120, 40) ∧
        ∃ client, st.clients.lookup 1 = some client ∧ client.isFullAppClient = true := by
  let around : Surroundings :=
    { writerGone := fun _ => false
      resolveTerminalTarget := fun _ => none
      clipboardImageStaged := false
      routed := ⟨{⟨"t"⟩}, ∅⟩
      detachRequested := false }
  have hrun : Run (fun st op st' => ServerOp.Step st op st' ∧ op.Unintruding st)
      (start ⟨{⟨"t"⟩}, ∅⟩) [.event (.clientConnected 1 (120, 40) false) around,
        .event (.clientConnected 2 (80, 24) true) around,
        .event (.clientAttachTerminal 2 "t" false) around] _ :=
    .cons ⟨⟨AList.lookup_eq_none.mp rfl, ⟨fun _ h => h, fun _ _ h => h,
      fun _ h hn => absurd h hn⟩, rfl⟩, fun _ _ _ _ hi => hi.2.2⟩
    (.cons ⟨⟨AList.lookup_eq_none.mp rfl, ⟨fun _ h => h, fun _ _ h => h,
      fun _ h hn => absurd h hn⟩, rfl⟩, fun _ _ _ _ hi => hi.2.2⟩
    (.cons ⟨⟨trivial, ⟨fun _ h => h, fun _ _ h => h, fun _ h hn => absurd h hn⟩, rfl⟩,
      fun _ _ _ _ hi => hi.2.2⟩ (.nil _)))
  obtain ⟨client, hclient, hfull, -⟩ := (foreground_is_full_app hrun).1 1 rfl
  exact ⟨_, _, hrun, rfl, rfl, rfl, client, hclient, hfull⟩

/-- A client that has not attached yet is resized and takes the foreground. -/
theorem pending_client_takes_foreground :
    ¬∀ ops st, Run ServerOp.Step (start ⟨{⟨"t"⟩}, ∅⟩) ops st → ∀ clientId,
      st.foregroundClientId = some clientId →
      ∃ client, st.clients.lookup clientId = some client ∧ client.isFullAppClient = true := by
  intro hclaim
  let around : Surroundings :=
    { writerGone := fun _ => false
      resolveTerminalTarget := fun _ => none
      clipboardImageStaged := false
      routed := ⟨{⟨"t"⟩}, ∅⟩
      detachRequested := false }
  have hrun : Run ServerOp.Step (start ⟨{⟨"t"⟩}, ∅⟩)
      [.event (.clientConnected 1 (80, 24) true) around,
        .event (.clientResize 1 (120, 40)) around] _ :=
    .cons ⟨AList.lookup_eq_none.mp rfl, ⟨fun _ h => h, fun _ _ h => h,
      fun _ h hn => absurd h hn⟩, rfl⟩
    (.cons ⟨trivial, ⟨fun _ h => h, fun _ _ h => h, fun _ h hn => absurd h hn⟩, rfl⟩ (.nil _))
  obtain ⟨client, hclient, hfull⟩ := hclaim _ _ hrun 1 rfl
  cases hclient
  cases hfull

end

end Ork3.Server
