import Ork3.Library.Except
import Ork3.Library.Run
import Ork3.Model.HeadlessClients

/-!
# Terminal sessions and the foreground

Over all events of the server: who owns the attachment of a terminal, and who is in the foreground.
-/

namespace Ork3.Server

open Ork3.Library Ork3.Input

namespace HeadlessServer

/-! ### Runs -/

/-- What the rest of the application does to its terminals. A new terminal has a new id, and a lock
goes only with its terminal. -/
structure AppStep (st : HeadlessServer) (app : AppTerminals) : Prop where
  locks : ∀ id ∈ app.directAttachResizeLocks, id ∈ st.app.directAttachResizeLocks
  kept : ∀ id ∈ app.terminals, id ∈ st.app.directAttachResizeLocks →
    id ∈ app.directAttachResizeLocks
  fresh : ∀ id ∈ app.terminals, id ∉ st.app.terminals →
    id ∉ st.app.directAttachResizeLocks ∧ st.terminalAttachOwners.lookup id.value = none

end HeadlessServer

inductive ServerOp
  | event (ev : ServerEvent) (around : Surroundings)
  | appChanged (app : AppTerminals)
  /-- A render or a broadcast found the writer of the client gone. -/
  | dropClient (clientId : Nat)
  | terminalEnded (terminalId : String) (around : Surroundings)
  | handoff (inProgress : Bool)
  | disconnectForHandoff (around : Surroundings)

/-- A new connection has a new id. -/
def ServerEvent.Fresh (st : HeadlessServer) : ServerEvent → Prop
  | .clientConnected clientId _ _ => clientId ∉ st.clients
  | _ => True

def ServerOp.Step (st : HeadlessServer) (op : ServerOp) (st' : HeadlessServer) : Prop :=
  match op with
  | .event ev around => ev.Fresh st ∧ st.AppStep around.routed ∧
    st.handleServerEvent around ev = .ok st'
  | .appChanged app => st.AppStep app ∧ st' = { st with app := app }
  | .dropClient clientId => st' = st.removeClient clientId
  | .terminalEnded terminalId around => st' = st.shutdownTerminalStreamClients around terminalId
  | .handoff inProgress => st' = { st with handoffInProgress := inProgress }
  | .disconnectForHandoff around => st' = st.disconnectAllClientsForHandoff around

namespace HeadlessServer

/-! ### What the operations leave alone -/

def modeOf (st : HeadlessServer) (clientId : Nat) : Option ClientConnectionMode :=
  (st.clients.lookup clientId).map ClientConnection.mode

section
variable (st : HeadlessServer)

@[simp] lemma app_sync : st.syncForegroundClientState.app = st.app := by
  unfold syncForegroundClientState
  split
  · rfl
  · split <;> rfl

@[simp] lemma clients_sync : st.syncForegroundClientState.clients = st.clients := by
  unfold syncForegroundClientState
  split
  · rfl
  · split <;> rfl

@[simp] lemma owners_sync :
    st.syncForegroundClientState.terminalAttachOwners = st.terminalAttachOwners := by
  unfold syncForegroundClientState
  split
  · rfl
  · split <;> rfl

lemma modeOf_insert (clientId other : Nat) (client : ClientConnection) :
    modeOf { st with clients := st.clients.insert clientId client } other =
      if other = clientId then some client.mode else st.modeOf other := by
  unfold modeOf
  rw [Table.lookup_insert_eq]
  split <;> rfl

lemma modeOf_erase (clientId other : Nat) :
    modeOf { st with clients := st.clients.erase clientId } other =
      if other = clientId then none else st.modeOf other := by
  unfold modeOf
  split
  case isTrue he => rw [he, AList.lookup_erase, Option.map_none]
  case isFalse he => rw [AList.lookup_erase_ne he]

end

/-! ### Owners -/

structure Owned (st : HeadlessServer) : Prop where
  owner_iff : ∀ terminalId clientId, st.terminalAttachOwners.lookup terminalId = some clientId ↔
    st.modeOf clientId = some (.terminalAttach terminalId)
  lock_iff : ∀ id ∈ st.app.terminals, id ∈ st.app.directAttachResizeLocks ↔
    (st.terminalAttachOwners.lookup id.value).isSome

section
variable {st st' : HeadlessServer} {clientId : Nat}

lemma Owned.of_same (h : st.Owned) (happ : st'.app = st.app)
    (howners : st'.terminalAttachOwners = st.terminalAttachOwners)
    (hmodes : ∀ clientId, st'.modeOf clientId = st.modeOf clientId) : st'.Owned where
  owner_iff terminalId clientId := by
    rw [howners, hmodes]
    exact h.owner_iff terminalId clientId
  lock_iff id hid := by
    rw [happ] at hid ⊢
    rw [howners]
    exact h.lock_iff id hid

lemma Owned.sync (h : st.Owned) : st.syncForegroundClientState.Owned := by
  refine h.of_same (app_sync st) (owners_sync st) fun clientId => ?_
  rw [modeOf, clients_sync]
  rfl

lemma Owned.promoteLatestRemainingClient (h : st.Owned) : st.promoteLatestRemainingClient.Owned :=
  Owned.sync (h.of_same rfl rfl fun _ => rfl)

/-- A client that is inserted again in the mode it has. -/
lemma Owned.insert_same (h : st.Owned) (client : ClientConnection) {mode : ClientConnectionMode}
    (hmode : st.modeOf clientId = some mode) (hclient : client.mode = mode) :
    Owned { st with clients := st.clients.insert clientId client } := by
  refine h.of_same rfl rfl fun other => ?_
  rw [modeOf_insert]
  split
  case isTrue he => rw [he, hmode, hclient]
  case isFalse => rfl

lemma Owned.promoteClientToForeground (h : st.Owned) (clientId : Nat) :
    (st.promoteClientToForeground clientId).1.Owned := by
  unfold HeadlessServer.promoteClientToForeground
  cases hclient : st.clients.lookup clientId with
  | none =>
    dsimp only
    rw [hclient]
    exact h.of_same rfl rfl fun _ => rfl
  | some client =>
    have hmode : st.modeOf clientId = some client.mode := by rw [modeOf, hclient, Option.map_some]
    have hinserted := h.insert_same { client with lastActivity := st.nextActivityStamp } hmode rfl
    dsimp only
    rw [hclient]
    dsimp only
    refine Owned.sync ?_
    exact hinserted.of_same rfl rfl fun _ => rfl

lemma Owned.erase (h : st.Owned) (hmode : ∀ terminalId,
    st.modeOf clientId ≠ some (.terminalAttach terminalId)) :
    Owned { st with clients := st.clients.erase clientId } where
  owner_iff terminalId other := by
    rw [modeOf_erase]
    split
    case isTrue he =>
      change st.terminalAttachOwners.lookup terminalId = some other ↔ _
      rw [h.owner_iff, he]
      exact ⟨fun hattached => absurd hattached (hmode terminalId), fun hnone => nomatch hnone⟩
    case isFalse => exact h.owner_iff terminalId other
  lock_iff := h.lock_iff

lemma Owned.release (h : st.Owned) {terminalId : String}
    (hmode : st.modeOf clientId = some (.terminalAttach terminalId)) :
    (releaseTerminalAttach { st with clients := st.clients.erase clientId } terminalId).Owned := by
  have howner := (h.owner_iff terminalId clientId).mpr hmode
  have hiff : ∀ other clientId', (st.terminalAttachOwners.erase terminalId).lookup other =
      some clientId' ↔ modeOf { st with clients := st.clients.erase clientId } clientId' =
        some (.terminalAttach other) := by
    intro other clientId'
    rw [modeOf_erase]
    by_cases hother : other = terminalId
    · rw [hother, AList.lookup_erase]
      refine ⟨fun hnone => (nomatch hnone), fun hattached => ?_⟩
      split at hattached
      case isTrue => cases hattached
      case isFalse hne =>
        have hsame := (h.owner_iff terminalId clientId').mpr hattached
        exact absurd (Option.some.inj (hsame.symm.trans howner)) hne
    · rw [AList.lookup_erase_ne hother, h.owner_iff]
      split
      case isTrue he =>
        rw [he, hmode]
        refine ⟨fun hsame => ?_, fun hnone => nomatch hnone⟩
        cases hsame
        exact absurd rfl hother
      case isFalse => exact Iff.rfl
  have hlock : ∀ id ∈ st.app.terminals, id.value ≠ terminalId →
      (id ∈ st.app.directAttachResizeLocks ↔
        ((st.terminalAttachOwners.erase terminalId).lookup id.value).isSome) := by
    intro id hid hne
    rw [AList.lookup_erase_ne hne]
    exact h.lock_iff id hid
  unfold releaseTerminalAttach terminalIdByString
  dsimp only
  split
  case h_1 hnone =>
    refine ⟨hiff, fun id hid => hlock id hid ?_⟩
    rintro rfl
    split_ifs at hnone
  case h_2 realId hsome =>
    split_ifs at hsome with hmem
    cases hsome
    refine ⟨hiff, fun id hid => ?_⟩
    dsimp only
    rw [Finset.mem_erase]
    by_cases he : id.value = terminalId
    · rw [he, AList.lookup_erase]
      have hid : id = ⟨terminalId⟩ := by rw [← he]
      exact ⟨fun hlocked => absurd hid hlocked.1, fun hnone => nomatch hnone⟩
    · have hne : id ≠ ⟨terminalId⟩ := fun hid => he (congrArg TerminalId.value hid)
      rw [← hlock id hid he]
      exact ⟨fun hlocked => hlocked.2, fun hlocked => ⟨hne, hlocked⟩⟩

lemma Owned.promoteIf (h : st.Owned) (wasForeground : Prop) [Decidable wasForeground] :
    Owned (if wasForeground then st.promoteLatestRemainingClient else st) := by
  split_ifs
  · exact h.promoteLatestRemainingClient
  · exact h

lemma Owned.removeClient (h : st.Owned) (clientId : Nat) : (st.removeClient clientId).Owned := by
  unfold HeadlessServer.removeClient
  dsimp only
  refine Owned.promoteIf ?_ _
  split
  case h_1 terminalId hmode => exact h.release hmode
  case h_2 hmode => exact h.erase fun terminalId he => hmode terminalId he

lemma app_removeClient (st : HeadlessServer) (clientId : Nat) :
    (st.removeClient clientId).app.terminals = st.app.terminals := by
  have hrelease : ∀ (st : HeadlessServer) (terminalId : String),
      (st.releaseTerminalAttach terminalId).app.terminals = st.app.terminals := by
    intro st terminalId
    unfold releaseTerminalAttach
    dsimp only
    split <;> rfl
  unfold HeadlessServer.removeClient
  dsimp only
  split_ifs
  · unfold HeadlessServer.promoteLatestRemainingClient
    rw [app_sync]
    dsimp only
    split
    · exact hrelease _ _
    · rfl
  · split
    · exact hrelease _ _
    · rfl

/-- Removing a client takes that client away and touches no other. -/
lemma clients_removeClient (st : HeadlessServer) (clientId : Nat) :
    (st.removeClient clientId).clients = st.clients.erase clientId := by
  have hrelease : ∀ (st : HeadlessServer) (terminalId : String),
      (st.releaseTerminalAttach terminalId).clients = st.clients := by
    intro st terminalId
    unfold releaseTerminalAttach
    dsimp only
    split <;> rfl
  unfold HeadlessServer.removeClient
  dsimp only
  split_ifs
  · unfold HeadlessServer.promoteLatestRemainingClient
    rw [clients_sync]
    dsimp only
    split
    · exact hrelease _ _
    · rfl
  · split
    · exact hrelease _ _
    · rfl

variable (around : Surroundings)

lemma Owned.sendToClient (h : st.Owned) (clientId : Nat) :
    (st.sendToClient around clientId).Owned := by
  unfold HeadlessServer.sendToClient
  split
  · exact h
  · split_ifs
    · exact h.removeClient clientId
    · exact h

lemma Owned.refuse (h : st.Owned) (clientId : Nat) : (st.refuse around clientId).Owned :=
  (h.sendToClient around clientId).removeClient clientId

lemma lookup_refuse (st : HeadlessServer) (clientId other : Nat) :
    (st.refuse around clientId).clients.lookup other =
      if other = clientId then none else st.clients.lookup other := by
  have herase : ∀ clients : Table Nat ClientConnection, (clients.erase clientId).lookup other =
      if other = clientId then none else clients.lookup other := by
    intro clients
    split
    case isTrue he => rw [he, AList.lookup_erase]
    case isFalse he => exact AList.lookup_erase_ne he
  unfold HeadlessServer.refuse HeadlessServer.sendToClient
  rw [clients_removeClient, herase]
  split
  · rfl
  · split
    · rfl
    · split_ifs
      · rw [clients_removeClient, herase, if_neg ‹_›]
      · rfl

lemma Owned.shutdownTerminalStreamClients (h : st.Owned) (terminalId : String) :
    (st.shutdownTerminalStreamClients around terminalId).Owned := by
  unfold HeadlessServer.shutdownTerminalStreamClients
  dsimp only
  generalize (st.clients.entries.filter fun entry =>
    entry.2.mode = .terminalAttach terminalId || entry.2.mode = .terminalObserve terminalId).map
      (·.1) = clientIds
  exact List.foldlRecOn clientIds _ h fun st h clientId _ => h.refuse around clientId

lemma Owned.disconnectAllClientsForHandoff (h : st.Owned) :
    (st.disconnectAllClientsForHandoff around).Owned := by
  have hall := List.foldlRecOn st.clients.keys (HeadlessServer.refuse around) h
    fun st h clientId _ => h.refuse around clientId
  unfold HeadlessServer.disconnectAllClientsForHandoff
  refine Owned.sync ?_
  exact hall.of_same rfl rfl fun _ => rfl

/-! ### Switching to a terminal session -/

lemma isPending_spec (h : st.clientIsPendingTerminalMode clientId = true) :
    ∃ client, st.clients.lookup clientId = some client ∧ client.pendingTerminalAttach = true ∧
      client.mode = .app := by
  unfold clientIsPendingTerminalMode at h
  split at h
  · cases h
  · next client hclient =>
    rw [Bool.and_eq_true, decide_eq_true_iff] at h
    exact ⟨client, hclient, h⟩

lemma Owned.switchMode_observe (h : st.Owned) {client : ClientConnection}
    (hclient : st.clients.lookup clientId = some client) (hmode : client.mode = .app)
    (terminalId : String) (stamp : Nat) :
    (st.switchMode clientId client (.terminalObserve terminalId) stamp).Owned := by
  have hinserted : Owned { st with
      clients := st.clients.insert clientId { client with
        mode := .terminalObserve terminalId
        pendingTerminalAttach := false
        lastActivity := stamp } } := by
    refine ⟨fun other clientId' => ?_, h.lock_iff⟩
    rw [modeOf_insert]
    split
    case isTrue he =>
      change st.terminalAttachOwners.lookup other = some clientId' ↔ _
      rw [h.owner_iff, he, modeOf, hclient, Option.map_some, hmode]
      exact ⟨fun hnone => (nomatch hnone), fun hnone => nomatch hnone⟩
    case isFalse => exact h.owner_iff other clientId'
  unfold HeadlessServer.switchMode
  dsimp only
  split_ifs
  · exact hinserted.promoteLatestRemainingClient
  · exact hinserted

/-- Once a terminal has no owner, a client that owns none can be made its owner. -/
lemma Owned.attach (h : st.Owned) {client : ClientConnection} {terminalId : String}
    (hclient : st.clients.lookup clientId = some client) (hmode : client.mode = .app)
    (hnone : st.terminalAttachOwners.lookup terminalId = none) (stamp : Nat) :
    let switched := st.switchMode clientId client (.terminalAttach terminalId) stamp
    Owned { switched with
      terminalAttachOwners := switched.terminalAttachOwners.insert terminalId clientId
      app := { switched.app with
        directAttachResizeLocks := insert ⟨terminalId⟩ switched.app.directAttachResizeLocks } } := by
  have hmodes : ∀ other, (st.switchMode clientId client (.terminalAttach terminalId) stamp).modeOf
      other = if other = clientId then some (.terminalAttach terminalId) else st.modeOf other := by
    intro other
    unfold HeadlessServer.switchMode
    dsimp only
    split_ifs with hforeground he he
    · unfold HeadlessServer.promoteLatestRemainingClient modeOf
      rw [clients_sync, he, AList.lookup_insert]
      rfl
    · unfold HeadlessServer.promoteLatestRemainingClient modeOf
      rw [clients_sync, AList.lookup_insert_ne he]
    · rw [modeOf_insert, if_pos he]
    · rw [modeOf_insert, if_neg he]
  have hsame : (st.switchMode clientId client (.terminalAttach terminalId) stamp).app = st.app ∧
      (st.switchMode clientId client (.terminalAttach terminalId) stamp).terminalAttachOwners =
        st.terminalAttachOwners := by
    unfold HeadlessServer.switchMode HeadlessServer.promoteLatestRemainingClient
    dsimp only
    split_ifs
    · rw [app_sync, owners_sync]
      exact ⟨rfl, rfl⟩
    · exact ⟨rfl, rfl⟩
  intro switched
  have hfree : ∀ other, st.modeOf other ≠ some (.terminalAttach terminalId) := fun other he => by
    rw [← h.owner_iff, hnone] at he
    cases he
  have hpending : st.modeOf clientId = some .app := by
    rw [modeOf, hclient, Option.map_some, hmode]
  refine ⟨fun other clientId' => ?_, fun id hid => ?_⟩
  · change (switched.terminalAttachOwners.insert terminalId clientId).lookup other =
      some clientId' ↔ switched.modeOf clientId' = _
    rw [hsame.2, hmodes, Table.lookup_insert_eq]
    by_cases hother : other = terminalId
    · rw [if_pos hother, hother]
      split
      case isTrue he =>
        rw [he]
        exact ⟨fun _ => rfl, fun _ => rfl⟩
      case isFalse he =>
        exact ⟨fun hsome => absurd (Option.some.inj hsome).symm he,
          fun hattached => absurd hattached (hfree clientId')⟩
    · rw [if_neg hother, h.owner_iff]
      split
      case isTrue he =>
        rw [he, hpending]
        refine ⟨fun hnone => (nomatch hnone), fun hsome => ?_⟩
        cases hsome
        exact absurd rfl hother
      case isFalse => exact Iff.rfl
  · change id ∈ insert _ switched.app.directAttachResizeLocks ↔
      ((switched.terminalAttachOwners.insert terminalId clientId).lookup id.value).isSome
    change id ∈ switched.app.terminals at hid
    rw [hsame.1] at hid ⊢
    rw [hsame.2, Finset.mem_insert, Table.lookup_insert_eq]
    by_cases he : id.value = terminalId
    · rw [if_pos he]
      exact ⟨fun _ => rfl, fun _ => .inl (by rw [← he])⟩
    · rw [if_neg he, ← h.lock_iff id hid]
      exact ⟨fun hor => hor.resolve_left fun hid => he (congrArg TerminalId.value hid), .inr⟩

/-- Taking over leaves the terminal without an owner and the client as it was. -/
lemma Owned.takeOver (h : st.Owned) {client : ClientConnection}
    (hclient : st.clients.lookup clientId = some client) (hmode : client.mode = .app)
    (terminalId : String) (takeover : Bool) :
    (st.takeOver around clientId terminalId takeover).1.Owned ∧
      ((st.takeOver around clientId terminalId takeover).2 = true →
        (st.takeOver around clientId terminalId takeover).1.terminalAttachOwners.lookup
          terminalId = none ∧
        (st.takeOver around clientId terminalId takeover).1.clients.lookup clientId =
          some client) := by
  unfold HeadlessServer.takeOver
  cases howner : st.terminalAttachOwners.lookup terminalId with
  | none => exact ⟨h, fun _ => ⟨howner, hclient⟩⟩
  | some existingOwner =>
    have hattached := (h.owner_iff terminalId existingOwner).mp howner
    have hne : existingOwner ≠ clientId := by
      rintro rfl
      rw [modeOf, hclient, Option.map_some, hmode] at hattached
      cases hattached
    dsimp only
    split_ifs
    · exact ⟨h.refuse around clientId, fun hfalse => nomatch hfalse⟩
    · have hrefused := h.refuse around existingOwner
      refine ⟨hrefused, fun _ => ⟨?_, ?_⟩⟩
      · cases hlookup : (st.refuse around existingOwner).terminalAttachOwners.lookup terminalId with
        | none => rfl
        | some other =>
          have hother := (hrefused.owner_iff terminalId other).mp hlookup
          unfold modeOf at hother
          rw [lookup_refuse] at hother
          split at hother
          case isTrue => cases hother
          case isFalse hdiffers =>
            have hsame := (h.owner_iff terminalId other).mpr hother
            exact absurd (Option.some.inj (hsame.symm.trans howner)) hdiffers
      · rw [lookup_refuse, if_neg fun he => hne he.symm]
        exact hclient

lemma Owned.attachTerminalClient (h : st.Owned) (clientId : Nat) (terminalId : String)
    (takeover : Bool) : (st.attachTerminalClient around clientId terminalId takeover).Owned := by
  unfold HeadlessServer.attachTerminalClient
  by_cases hpending : st.clientIsPendingTerminalMode clientId = true
  · obtain ⟨client, hclient, -, hmode⟩ := isPending_spec hpending
    rw [hpending, Bool.not_true, if_neg Bool.false_ne_true]
    unfold terminalIdByString
    by_cases hexists : ⟨terminalId⟩ ∈ st.app.terminals
    · rw [if_pos hexists]
      obtain ⟨htaken, hfree⟩ := h.takeOver around hclient hmode terminalId takeover
      dsimp only
      generalize st.takeOver around clientId terminalId takeover = result at htaken hfree
      obtain ⟨taken, proceeds⟩ := result
      cases proceeds with
      | false => exact htaken
      | true =>
        obtain ⟨hnone, hlookup⟩ := hfree rfl
        have hstamped : Owned { taken with nextActivityStamp := taken.nextActivityStamp + 1 } :=
          htaken.of_same rfl rfl fun _ => rfl
        have hattached := hstamped.attach hlookup hmode hnone taken.nextActivityStamp
        dsimp only at hlookup ⊢
        rw [hlookup]
        exact hattached
    · rw [if_neg hexists]
      exact h.refuse around clientId
  · rw [Bool.not_eq_true] at hpending
    rw [hpending]
    exact h.refuse around clientId

lemma resolve_spec (st : HeadlessServer) (clientId : Nat) (target : String) :
    st.resolveTerminalSessionTarget around clientId target = .inl (st.refuse around clientId) ∨
      ∃ terminalId client, st.resolveTerminalSessionTarget around clientId target =
        .inr terminalId ∧ st.clients.lookup clientId = some client ∧ client.mode = .app := by
  unfold HeadlessServer.resolveTerminalSessionTarget
  by_cases hpending : st.clientIsPendingTerminalMode clientId = true
  · obtain ⟨client, hclient, -, hmode⟩ := isPending_spec hpending
    rw [hpending]
    split
    · exact .inl rfl
    · split
      · exact .inl rfl
      · exact .inr ⟨_, client, rfl, hclient, hmode⟩
  · rw [Bool.not_eq_true] at hpending
    rw [hpending]
    exact .inl rfl

lemma Owned.observeTerminalClient (h : st.Owned) (clientId : Nat) (target : String) :
    (st.observeTerminalClient around clientId target).Owned := by
  unfold HeadlessServer.observeTerminalClient
  obtain hrefused | ⟨terminalId, client, hresolved, hclient, hmode⟩ :=
    resolve_spec around st clientId target
  · rw [hrefused]
    exact h.refuse around clientId
  · have hstamped : Owned { st with nextActivityStamp := st.nextActivityStamp + 1 } :=
      h.of_same rfl rfl fun _ => rfl
    rw [hresolved]
    dsimp only
    rw [hclient]
    exact hstamped.switchMode_observe hclient hmode terminalId st.nextActivityStamp

lemma Owned.controlTerminalClient (h : st.Owned) (clientId : Nat) (target : String)
    (takeover : Bool) : (st.controlTerminalClient around clientId target takeover).Owned := by
  unfold HeadlessServer.controlTerminalClient
  obtain hrefused | ⟨terminalId, client, hresolved, hclient, hmode⟩ :=
    resolve_spec around st clientId target
  · rw [hrefused]
    exact h.refuse around clientId
  · rw [hresolved]
    exact h.attachTerminalClient around clientId terminalId takeover

/-! ### Input -/

lemma Owned.withApp (h : st.Owned) {app : AppTerminals} (happ : st.AppStep app) :
    Owned { st with app := app } := by
  refine ⟨h.owner_iff, fun id hid => ?_⟩
  change id ∈ app.directAttachResizeLocks ↔ (st.terminalAttachOwners.lookup id.value).isSome
  by_cases hold : id ∈ st.app.terminals
  · rw [← h.lock_iff id hold]
    exact ⟨happ.locks id, happ.kept id hid⟩
  · obtain ⟨hlock, hnone⟩ := happ.fresh id hid hold
    rw [hnone]
    exact ⟨fun hin => absurd (happ.locks id hin) hlock, fun hsome => nomatch hsome⟩

lemma AppStep.of_same {app : AppTerminals} (h : st.AppStep app) (happ : st'.app = st.app)
    (howners : st'.terminalAttachOwners = st.terminalAttachOwners) : st'.AppStep app := by
  refine ⟨?_, ?_, ?_⟩
  · rw [happ]
    exact h.locks
  · rw [happ]
    exact h.kept
  · rw [happ, howners]
    exact h.fresh

lemma promote_same (st : HeadlessServer) (clientId : Nat) :
    (st.promoteClientToForeground clientId).1.app = st.app ∧
      (st.promoteClientToForeground clientId).1.terminalAttachOwners =
        st.terminalAttachOwners := by
  unfold HeadlessServer.promoteClientToForeground
  dsimp only
  split
  · exact ⟨rfl, rfl⟩
  · dsimp only
    rw [app_sync, owners_sync]
    exact ⟨rfl, rfl⟩

lemma Owned.handleClientInputEvents (h : st.Owned) (happ : st.AppStep around.routed)
    (clientId : Nat) (events : List RawInputEvent) :
    (st.handleClientInputEvents around clientId events).Owned := by
  unfold HeadlessServer.handleClientInputEvents
  dsimp only
  generalize eventsIncludeInteraction _ = interaction
  have hpromoted : Owned (if interaction = true then (st.promoteClientToForeground clientId).1
      else st) ∧ AppStep (if interaction = true then (st.promoteClientToForeground clientId).1
        else st) around.routed := by
    split_ifs
    · obtain ⟨hsame, howners⟩ := promote_same st clientId
      exact ⟨h.promoteClientToForeground clientId, happ.of_same hsame howners⟩
    · exact ⟨h, happ⟩
  generalize (if interaction = true then (st.promoteClientToForeground clientId).1 else st) =
    promoted at hpromoted
  have hrouted := (hpromoted.1.withApp hpromoted.2).sync
  split_ifs
  · have hsent := hrouted.sendToClient around clientId
    unfold HeadlessServer.detachRequestedClient
    refine hsent.of_same rfl rfl fun other => ?_
    unfold modeOf
    dsimp only
    rw [Table.lookup_modify]
    split
    case isTrue he =>
      rw [he, Option.map_map]
      rfl
    case isFalse => rfl
  · exact hrouted

lemma Owned.handleClientInput (h : st.Owned) (happ : st.AppStep around.routed) {clientId : Nat}
    {data : List UInt8} (hinput : st.handleClientInput around clientId data = .ok st') :
    st'.Owned := by
  unfold HeadlessServer.handleClientInput at hinput
  cases hclient : st.clients.lookup clientId with
  | none =>
    rw [hclient] at hinput
    cases hinput
    exact h.handleClientInputEvents around happ clientId []
  | some client =>
    rw [hclient] at hinput
    have hmode : st.modeOf clientId = some client.mode := by rw [modeOf, hclient, Option.map_some]
    dsimp only at hinput
    split at hinput
    · cases hinput
      exact h
    · cases hinput
      exact h
    · obtain ⟨⟨rawInput, events⟩, -, hinput⟩ := bind_eq_ok.mp hinput
      cases hinput
      have hinserted := h.insert_same { client with rawInput := rawInput } hmode rfl
      exact hinserted.handleClientInputEvents around (happ.of_same rfl rfl) clientId events

/-! ### Events -/

lemma Owned.handleClientResize (h : st.Owned) (clientId : Nat) (size : UInt16 × UInt16) :
    (st.handleClientResize clientId size).Owned := by
  unfold HeadlessServer.handleClientResize
  cases hclient : st.clients.lookup clientId with
  | none => exact h.promoteClientToForeground clientId
  | some client =>
    have hmode : st.modeOf clientId = some client.mode := by rw [modeOf, hclient, Option.map_some]
    have hresized := h.insert_same { client with terminalSize := size } hmode rfl
    dsimp only
    split
    · exact hresized
    · exact hresized
    · exact hresized.promoteClientToForeground clientId

lemma Owned.handleClientConnected (h : st.Owned) {clientId : Nat} (hfresh : clientId ∉ st.clients)
    (size : UInt16 × UInt16) (direct : Bool) :
    (st.handleClientConnected clientId size direct).Owned := by
  have hnone : st.modeOf clientId = none := by
    rw [modeOf, AList.lookup_eq_none.mpr hfresh, Option.map_none]
  unfold HeadlessServer.handleClientConnected
  split
  · exact h
  · refine Owned.sync ?_
    have hinserted : ∀ stamp, Owned { st with
        clients := st.clients.insert clientId
          { mode := .app
            pendingTerminalAttach := direct
            terminalSize := size
            rawInput := {}
            lastActivity := stamp
            writer := true } } := by
      intro stamp
      refine ⟨fun terminalId other => ?_, h.lock_iff⟩
      rw [modeOf_insert]
      split
      case isTrue he =>
        change st.terminalAttachOwners.lookup terminalId = some other ↔ _
        rw [h.owner_iff, he, hnone]
        exact ⟨fun habsent => (nomatch habsent), fun habsent => nomatch habsent⟩
      case isFalse => exact h.owner_iff terminalId other
    split_ifs
    · exact (hinserted st.nextActivityStamp).of_same rfl rfl fun _ => rfl
    · exact (hinserted st.nextActivityStamp).of_same rfl rfl fun _ => rfl

lemma Owned.handleClientDetach (h : st.Owned) (clientId : Nat) :
    (st.handleClientDetach around clientId).Owned := by
  unfold HeadlessServer.handleClientDetach
  dsimp only
  refine Owned.removeClient ?_ clientId
  split
  · exact h.sendToClient around clientId
  · exact h.sendToClient around clientId
  · exact h

lemma Owned.pasteClientClipboardImagePath (h : st.Owned) (happ : st.AppStep around.routed)
    (clientId : Nat) : (st.pasteClientClipboardImagePath around clientId).Owned := by
  unfold HeadlessServer.pasteClientClipboardImagePath
  split
  · exact h
  · obtain ⟨hsame, howners⟩ := promote_same st clientId
    exact (h.promoteClientToForeground clientId).withApp (happ.of_same hsame howners)

lemma Owned.handleServerEvent (h : st.Owned) {ev : ServerEvent} (hfresh : ev.Fresh st)
    (happ : st.AppStep around.routed) (hevent : st.handleServerEvent around ev = .ok st') :
    st'.Owned := by
  unfold HeadlessServer.handleServerEvent at hevent
  split_ifs at hevent
  · cases hevent
    exact h
  · cases ev with
    | clientConnected clientId size direct =>
      cases hevent
      exact h.handleClientConnected hfresh size direct
    | clientAttachTerminal clientId terminalId takeover =>
      cases hevent
      exact h.attachTerminalClient around clientId terminalId takeover
    | clientObserveTerminal clientId target =>
      cases hevent
      exact h.observeTerminalClient around clientId target
    | clientControlTerminal clientId target takeover =>
      cases hevent
      exact h.controlTerminalClient around clientId target takeover
    | clientAttachScroll clientId =>
      cases hevent
      exact h
    | clientInput clientId data => exact h.handleClientInput around happ hevent
    | clientInputEvents clientId events =>
      cases hevent
      split_ifs
      · exact h
      · exact h.handleClientInputEvents around happ clientId events
    | clientClipboardImage clientId =>
      cases hevent
      split_ifs
      · exact h
      · exact h.pasteClientClipboardImagePath around happ clientId
    | clientResize clientId size =>
      cases hevent
      exact h.handleClientResize clientId size
    | clientDetach clientId =>
      cases hevent
      exact h.handleClientDetach around clientId
    | clientDisconnected clientId =>
      cases hevent
      exact h.removeClient clientId
    | clientWriterDrained clientId =>
      cases hevent
      exact h
    | quitSignal =>
      cases hevent
      exact h

end

end HeadlessServer

/-! ### Every run -/

open HeadlessServer

section
variable {st st' : HeadlessServer} {op : ServerOp} {ops : List ServerOp}

lemma ServerOp.Step.owned (hs : ServerOp.Step st op st') (h : st.Owned) : st'.Owned := by
  cases op with
  | event ev around => exact h.handleServerEvent around hs.1 hs.2.1 hs.2.2
  | appChanged app =>
    obtain ⟨happ, rfl⟩ := hs
    exact h.withApp happ
  | dropClient clientId =>
    obtain rfl := hs
    exact h.removeClient clientId
  | terminalEnded terminalId around =>
    obtain rfl := hs
    exact h.shutdownTerminalStreamClients around terminalId
  | handoff inProgress =>
    obtain rfl := hs
    exact h.of_same rfl rfl fun _ => rfl
  | disconnectForHandoff around =>
    obtain rfl := hs
    exact h.disconnectAllClientsForHandoff around

lemma start_owned (terminals : Finset TerminalId) : (start ⟨terminals, ∅⟩).Owned where
  owner_iff _ _ := ⟨fun h => (nomatch h), fun h => nomatch h⟩
  lock_iff id _ := ⟨fun h => absurd h (Finset.notMem_empty id), fun h => nomatch h⟩

/-- The owner of a terminal is the client that is attached to it, and its lock is held as long as
it has one. -/
theorem attach_owner_iff {terminals : Finset TerminalId}
    (hrun : Run ServerOp.Step (start ⟨terminals, ∅⟩) ops st) :
    (∀ terminalId clientId, st.terminalAttachOwners.lookup terminalId = some clientId ↔
      ∃ client, st.clients.lookup clientId = some client ∧
        client.mode = .terminalAttach terminalId) ∧
    (∀ terminalId clientId clientId' client client', st.clients.lookup clientId = some client →
      st.clients.lookup clientId' = some client' → client.mode = .terminalAttach terminalId →
      client'.mode = .terminalAttach terminalId → clientId = clientId') ∧
    ∀ id ∈ st.app.terminals, id ∈ st.app.directAttachResizeLocks ↔
      (st.terminalAttachOwners.lookup id.value).isSome := by
  have h := hrun.invariant (fun _ _ _ h hs => hs.owned h) (start_owned terminals)
  have howner : ∀ terminalId clientId,
      st.terminalAttachOwners.lookup terminalId = some clientId ↔
        ∃ client, st.clients.lookup clientId = some client ∧
          client.mode = .terminalAttach terminalId := fun terminalId clientId => by
    rw [h.owner_iff, modeOf, Option.map_eq_some_iff]
  refine ⟨howner, ?_, h.lock_iff⟩
  intro terminalId clientId clientId' client client' hclient hclient' hmode hmode'
  have hfirst := (howner terminalId clientId).mpr ⟨client, hclient, hmode⟩
  have hsecond := (howner terminalId clientId').mpr ⟨client', hclient', hmode'⟩
  exact Option.some.inj (hfirst.symm.trans hsecond)

/-- A second client takes the terminal over. -/
theorem attach_owner_iff_takenOver :
    ∃ ops st, Run ServerOp.Step (start ⟨{⟨"t"⟩}, ∅⟩) ops st ∧
      st.terminalAttachOwners.lookup "t" = some 2 ∧ st.clients.lookup 1 = none ∧
      ∃ client, st.clients.lookup 2 = some client ∧ client.mode = .terminalAttach "t" := by
  let around (locks : Finset TerminalId) : Surroundings :=
    { writerGone := fun _ => false
      resolveTerminalTarget := fun _ => none
      clipboardImageStaged := false
      routed := ⟨{⟨"t"⟩}, locks⟩
      detachRequested := false }
  have hrun : Run ServerOp.Step (start ⟨{⟨"t"⟩}, ∅⟩)
      [.event (.clientConnected 1 (80, 24) true) (around ∅),
        .event (.clientAttachTerminal 1 "t" false) (around ∅),
        .event (.clientConnected 2 (80, 24) true) (around {⟨"t"⟩}),
        .event (.clientAttachTerminal 2 "t" true) (around {⟨"t"⟩})] _ :=
    .cons ⟨AList.lookup_eq_none.mp rfl, ⟨fun _ h => h, fun _ _ h => h,
      fun _ h hn => absurd h hn⟩, rfl⟩
    (.cons ⟨trivial, ⟨fun _ h => h, fun _ _ h => h, fun _ h hn => absurd h hn⟩, rfl⟩
    (.cons ⟨AList.lookup_eq_none.mp rfl, ⟨fun _ h => h, fun _ _ h => h,
      fun _ h hn => absurd h hn⟩, rfl⟩
    (.cons ⟨trivial, ⟨fun _ h => h, fun _ _ h => h, fun _ h hn => absurd h hn⟩, rfl⟩ (.nil _))))
  exact ⟨_, _, hrun, rfl, rfl, ((attach_owner_iff hrun).1 "t" 2).mp rfl⟩

end

end Ork3.Server
