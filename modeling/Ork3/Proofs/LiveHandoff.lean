import Ork3.Library.Dialogue
import Ork3.Model.LiveHandoff

/-!
# One reader for every PTY

The messages of a handoff are a dialogue of two sides, whatever fails and whoever crashes: an
operation that fails or that no message belongs to leaves the dialogue where it is.
-/

namespace Ork3.Server

open Ork3.Library Ork3.Persist

/-! ### The script -/

abbrev HandoffLine := Side × HandoffMessage

def ownedLines : List HandoffLine := [(.right, .owned)]

def committedLines : List HandoffLine := (.left, .committed) :: ownedLines

def readyLines : List HandoffLine := (.right, .ready) :: committedLines

def restoredLines : List HandoffLine := (.right, .restored) :: readyLines

/-- No descriptors are sent where there is no pane. -/
def fdsLines (entries : List (TerminalId × UInt32)) : List HandoffLine :=
  if entries.isEmpty then restoredLines else (.left, .fds (entries.map Prod.fst)) :: restoredLines

def validatedLines (entries : List (TerminalId × UInt32)) : List HandoffLine :=
  (.right, .validated) :: fdsLines entries

namespace SourceServer

variable (s : SourceServer)

def manifestLines : List HandoffLine :=
  (.left, .manifest s.manifest) :: validatedLines s.handoffEntries

def script (token : String) : List HandoffLine := (.right, .token token) :: s.manifestLines

/-- What the source server still has to say or hear. -/
def rest (token : String) : List HandoffLine :=
  match s.phase with
  | .idle | .pausing _ | .spawning | .duplicating _ | .accepting | .authenticating => s.script token
  | .sendingManifest => s.manifestLines
  | .validating => validatedLines s.handoffEntries
  | .sendingFds => fdsLines s.handoffEntries
  | .restoring => restoredLines
  | .unlinkingApi | .unlinkingClient | .readying => readyLines
  | .committing => committedLines
  | .releasing _ | .acknowledging | .done false => ownedLines
  | .done true => []

/-- The handoff has come as far as to spawn the import server. -/
def Spawned : Prop :=
  match s.phase with
  | .idle | .pausing _ | .spawning => False
  | _ => True

/-- The handoff has begun, but the import server is not spawned. -/
def Preparing : Prop :=
  match s.phase with
  | .pausing _ | .spawning => True
  | _ => False

/-- The handoff is committed. -/
def Released : Prop :=
  match s.phase with
  | .releasing _ | .acknowledging | .done _ => True
  | _ => False

/-- No terminal has been told to read again. -/
def Holding : Prop :=
  match s.recovery with
  | .none | .killing => True
  | _ => False

end SourceServer

/-- What the import server still has to say or hear. -/
def ImportServer.rest (i : ImportServer) (s : SourceServer) (token : String) : List HandoffLine :=
  match i.phase with
  | .absent | .connecting | .authenticating => s.script token
  | .receivingManifest => s.manifestLines
  | .validating => validatedLines s.handoffEntries
  | .receivingFds => fdsLines s.handoffEntries
  | .building | .reportingRestored => restoredLines
  | .awaitingSockets | .bindingApi | .bindingClient | .reportingReady => readyLines
  | .awaitingCommit => committedLines
  | .assuming | .unpausing _ | .reportingOwned | .serving false => ownedLines
  | .serving true => []

/-! ### The stream as a dialogue -/

def sided {α : Type*} (left right : α) : Side → α
  | .left => left
  | .right => right

/-- The stream is coherent when the source server has `a` and the import server has `b` to come. -/
def Talks (a b : List HandoffLine) (toSource toImporter : List HandoffMessage) : Prop :=
  (Dialogue.mk (sided a b) (sided toSource toImporter)).Coherent

section
variable {a b : List HandoffLine} {toSource toImporter : List HandoffMessage}
  {m m' : HandoffMessage}

lemma update_sided_left {α : Type*} (x y z : α) :
    Function.update (sided x y) .left z = sided z y := by
  funext p
  cases p <;> simp [sided]

lemma update_sided_right {α : Type*} (x y z : α) :
    Function.update (sided x y) .right z = sided x z := by
  funext p
  cases p <;> simp [sided]

lemma talks_start (script : List HandoffLine) : Talks script script [] [] := by
  have hsided {α : Type} (x : α) : sided x x = fun _ => x := by
    funext p
    cases p <;> rfl
  rw [Talks, hsided, hsided]
  exact Dialogue.coherent_start script

lemma Talks.sourceSends (h : Talks ((.left, m) :: a) b toSource toImporter) :
    Talks a b toSource (toImporter ++ [m]) := by
  have hstep := Dialogue.Coherent.step h (Dialogue.Step.send (p := .left) rfl)
  rw [Talks]
  simpa only [Side.other, update_sided_left, update_sided_right, sided] using hstep

lemma Talks.sourceReads (h : Talks ((.right, m) :: a) b (m' :: toSource) toImporter) :
    m' = m ∧ Talks a b toSource toImporter := by
  have hm : m' = m := Dialogue.Coherent.expected (p := .left) h rfl rfl
  rw [hm] at h
  have hstep := Dialogue.Coherent.step h (Dialogue.Step.receive (p := .left) rfl rfl)
  rw [update_sided_left, update_sided_left] at hstep
  exact ⟨hm, hstep⟩

lemma Talks.importerSends (h : Talks a ((.right, m) :: b) toSource toImporter) :
    Talks a b (toSource ++ [m]) toImporter := by
  have hstep := Dialogue.Coherent.step h (Dialogue.Step.send (p := .right) rfl)
  rw [Talks]
  simpa only [Side.other, update_sided_left, update_sided_right, sided] using hstep

lemma Talks.importerReads (h : Talks a ((.left, m) :: b) toSource (m' :: toImporter)) :
    m' = m ∧ Talks a b toSource toImporter := by
  have hm : m' = m := Dialogue.Coherent.expected (p := .right) h rfl rfl
  rw [hm] at h
  have hstep := Dialogue.Coherent.step h (Dialogue.Step.receive (p := .right) rfl rfl)
  rw [update_sided_right, update_sided_right] at hstep
  exact ⟨hm, hstep⟩

end

/-! ### The invariant -/

def ImportPhase.position : ImportPhase → Nat
  | .absent => 0
  | .connecting => 1
  | .authenticating => 2
  | .receivingManifest => 3
  | .validating => 4
  | .receivingFds => 5
  | .building => 6
  | .reportingRestored => 7
  | .awaitingSockets => 8
  | .bindingApi => 9
  | .bindingClient => 10
  | .reportingReady => 11
  | .awaitingCommit => 12
  | .assuming => 13
  | .unpausing _ => 14
  | .reportingOwned => 15
  | .serving _ => 16

/-- The import server is at the operation or past it. -/
def ImportServer.Reached (i : ImportServer) (phase : ImportPhase) : Prop :=
  phase.position ≤ i.phase.position

/-- The readers of the panes are stopped, and the descriptors duplicated so far are those of the
panes in the manifest. -/
structure SourceServer.Captured (s : SourceServer) (remaining : List (TerminalId × UInt32)) :
    Prop where
  quiesced : s.Holding → ∀ e ∈ s.handoffEntries, e.1 ∈ s.quiesced
  held : ∀ e ∈ remaining, e.1 ∈ s.runtimes
  fds_eq : s.fds ++ remaining.map Prod.fst = s.handoffEntries.map Prod.fst
  panes_eq : s.manifest.panes = s.handoffEntries.map Prod.snd
  attached : ∀ e ∈ s.handoffEntries, s.paneByTerminal.lookup e.1 = some e.2

def SourceServer.Ok (s : SourceServer) : Prop :=
  match s.phase with
  | .idle => True
  | .pausing keys => s.Holding →
    ∀ terminalId ∈ s.runtimes, terminalId ∈ s.paneByTerminal →
      terminalId ∈ s.quiesced ∨ terminalId ∈ keys
  | .spawning => s.Holding →
    ∀ terminalId ∈ s.runtimes, terminalId ∈ s.paneByTerminal → terminalId ∈ s.quiesced
  | .duplicating remaining => s.Captured remaining
  | _ => s.Captured []

/-- What the import server knows when it has come to an operation. -/
structure ImportServer.Ok (i : ImportServer) (s : SourceServer) : Prop where
  manifest_eq : i.Reached .validating →
    i.manifest = some s.manifest ∧ i.start.build.accepts s.manifest
  fds_eq : i.Reached .building → i.fds = s.handoffEntries.map Prod.fst
  imports_eq : i.Reached .reportingRestored →
    i.imports = Table.collect (s.handoffEntries.map Prod.swap)
  session_eq : i.Reached .reportingRestored → i.session.isSome ∧
    i.session = restoreHandoff i.start s.manifest.snapshot i.imports
  owns_iff : i.ownsProcesses ↔ i.Reached (.unpausing [])
  reading_eq : ¬ i.Reached (.unpausing []) → i.reading = []
  reading_sub : ∀ terminalId ∈ i.reading, terminalId ∈ i.imports.values
  unpausing_sub : ∀ remaining, i.phase = .unpausing remaining →
    ∀ terminalId ∈ remaining, terminalId ∈ i.imports.values

structure Handoff.Inv (h : Handoff) : Prop where
  leftover_dead : ∀ i ∈ h.leftover, ¬ i.alive
  spawned : h.importer.alive → h.source.Spawned ∧ h.source.Holding
  source_ok : h.source.Ok
  fresh : h.source.Preparing → h.toSource = [] ∧ h.toImporter = [] ∧ h.source.fds = [] ∧
    h.importer = .notSpawned h.importer.start
  talks : h.source.Spawned → Talks (h.source.rest h.token) (h.importer.rest h.source h.token)
    h.toSource h.toImporter
  import_ok : h.source.Spawned → h.importer.Ok h.source
  api_eq : h.importer.alive → h.importer.Reached .bindingClient → h.apiSocket = some .importer
  client_eq : h.importer.alive → h.importer.Reached .reportingReady →
    h.clientSocket = some .importer
  terminated : ∀ terminalId ∈ h.terminated,
    h.source.Released ∧ terminalId ∉ h.source.paneByTerminal
  released : h.source.Released → h.source.recovery = .none

/-! ### The import server's operations -/

/-- The operations after which the import server knows more than before. -/
def milestones : List ImportPhase := [.validating, .building, .reportingRestored, .unpausing []]

/-- Between two milestones an operation changes nothing the invariant speaks of. -/
lemma ImportServer.Ok.advance {i : ImportServer} {s : SourceServer} (h : i.Ok s)
    (phase : ImportPhase) (hle : i.phase.position ≤ phase.position)
    (hmile : ∀ m ∈ milestones, m.position ≤ phase.position → i.Reached m)
    (hunpausing : ∀ remaining, phase = .unpausing remaining →
      ∀ terminalId ∈ remaining, terminalId ∈ i.imports.values) :
    ImportServer.Ok { i with phase := phase } s where
  manifest_eq hr := h.manifest_eq (hmile _ (by simp [milestones]) hr)
  fds_eq hr := h.fds_eq (hmile _ (by simp [milestones]) hr)
  imports_eq hr := h.imports_eq (hmile _ (by simp [milestones]) hr)
  session_eq hr := h.session_eq (hmile _ (by simp [milestones]) hr)
  owns_iff := by
    rw [h.owns_iff]
    constructor
    · intro hr
      exact le_trans hr hle
    · intro hr
      exact hmile _ (by simp [milestones]) hr
  reading_eq hr := h.reading_eq (fun hold => hr (le_trans hold hle))
  reading_sub := h.reading_sub
  unpausing_sub := hunpausing

/-- Once an import server is spawned, the manifest names the panes of the entries. -/
lemma SourceServer.Ok.panes_eq {s : SourceServer} (h : s.Ok) (hspawned : s.Spawned) :
    s.manifest.panes = s.handoffEntries.map Prod.snd := by
  rw [SourceServer.Ok] at h
  rw [SourceServer.Spawned] at hspawned
  cases hphase : s.phase <;> rw [hphase] at h hspawned <;>
    first | exact hspawned.elim | exact h.panes_eq

/-- The entries pair every terminal with its pane. -/
lemma SourceServer.Ok.attached {s : SourceServer} (h : s.Ok) (hspawned : s.Spawned) :
    ∀ e ∈ s.handoffEntries, s.paneByTerminal.lookup e.1 = some e.2 := by
  unfold SourceServer.Ok at h
  unfold SourceServer.Spawned at hspawned
  cases hphase : s.phase <;> rw [hphase] at h hspawned <;>
    first | exact hspawned.elim | exact h.attached

/-- The message a phase of the source server waits for, and the phase that follows. -/
def SourcePhase.awaits (token : String) : SourcePhase → Option (HandoffMessage × SourcePhase)
  | .authenticating => some (.token token, .sendingManifest)
  | .validating => some (.validated, .sendingFds)
  | .restoring => some (.restored, .unlinkingApi)
  | .readying => some (.ready, .committing)
  | .acknowledging => some (.owned, .done true)
  | _ => none

namespace Handoff

variable {h h' : Handoff}

/-- What an operation of the import server has to show. -/
lemma Inv.ofImporter (hinv : h.Inv) (hspawned : h.source.Spawned)
    (hframe : h'.source = h.source ∧ h'.leftover = h.leftover ∧ h'.token = h.token ∧
      h'.terminated = h.terminated)
    (halive : h'.importer.alive → h.importer.alive)
    (htalks : Talks (h.source.rest h.token) (h'.importer.rest h.source h.token)
      h'.toSource h'.toImporter)
    (hok : h'.importer.Ok h.source)
    (hapi : h'.importer.alive → h'.importer.Reached .bindingClient →
      h'.apiSocket = some .importer)
    (hclient : h'.importer.alive → h'.importer.Reached .reportingReady →
      h'.clientSocket = some .importer) : h'.Inv := by
  obtain ⟨hsource, hleft, htoken, hterm⟩ := hframe
  have hnot : ¬ h.source.Preparing := by
    intro hprep
    revert hprep hspawned
    rw [SourceServer.Preparing, SourceServer.Spawned]
    cases h.source.phase <;> simp
  constructor
  · rw [hleft]
    exact hinv.leftover_dead
  · rw [hsource]
    intro ha
    exact hinv.spawned (halive ha)
  · rw [hsource]
    exact hinv.source_ok
  · rw [hsource]
    exact fun hprep => (hnot hprep).elim
  · rw [hsource, htoken]
    exact fun _ => htalks
  · rw [hsource]
    exact fun _ => hok
  · exact hapi
  · exact hclient
  · rw [hsource, hterm]
    exact hinv.terminated
  · rw [hsource]
    exact hinv.released

/-- An operation after which the import server knows as much as before. -/
lemma Inv.importMoves (hinv : h.Inv) (hspawned : h.source.Spawned) (phase : ImportPhase)
    (connected : Bool) {toSource toImporter : List HandoffMessage}
    {apiSocket clientSocket : Option Party}
    (hle : h.importer.phase.position ≤ phase.position)
    (hmile : ∀ m ∈ milestones, m.position ≤ phase.position → h.importer.Reached m)
    (hunpausing : ∀ remaining, phase = .unpausing remaining →
      ∀ terminalId ∈ remaining, terminalId ∈ h.importer.imports.values)
    (htalks : Talks (h.source.rest h.token) ((h.importAt phase).importer.rest h.source h.token)
      toSource toImporter)
    (hapi : ImportPhase.bindingClient.position ≤ phase.position → apiSocket = some .importer)
    (hclient : ImportPhase.reportingReady.position ≤ phase.position →
      clientSocket = some .importer) :
    Inv { h.importAt phase with
      connected := connected
      toSource := toSource
      toImporter := toImporter
      apiSocket := apiSocket
      clientSocket := clientSocket } :=
  hinv.ofImporter hspawned ⟨rfl, rfl, rfl, rfl⟩ (fun ha => ha) htalks
    ((hinv.import_ok hspawned).advance phase hle hmile hunpausing) (fun _ => hapi) fun _ => hclient

/-- The manifest is the one the source server sent. -/
lemma Inv.importReceivesManifest (hinv : h.Inv) (halive : h.importer.alive)
    (hphase : h.importer.phase = .receivingManifest) {manifest : HandoffManifest}
    {toImporter : List HandoffMessage} (hinbox : h.toImporter = .manifest manifest :: toImporter)
    (haccepts : h.importer.start.build.accepts manifest) :
    Inv { h with
      importer := { h.importer with phase := .validating, manifest := some manifest }
      toImporter := toImporter } := by
  have hspawned := (hinv.spawned halive).1
  have htalks := hinv.talks hspawned
  have hok := hinv.import_ok hspawned
  rw [ImportServer.rest, hphase, hinbox] at htalks
  obtain ⟨hm, htalks'⟩ := htalks.importerReads
  cases hm
  refine hinv.ofImporter hspawned ⟨rfl, rfl, rfl, rfl⟩ (fun ha => ha) htalks' ?_ ?_ ?_
  · constructor
    · exact fun _ => ⟨rfl, haccepts⟩
    · simp [ImportServer.Reached, ImportPhase.position]
    · simp [ImportServer.Reached, ImportPhase.position]
    · simp [ImportServer.Reached, ImportPhase.position]
    · rw [hok.owns_iff]
      simp [ImportServer.Reached, ImportPhase.position, hphase]
    · intro _
      apply hok.reading_eq
      simp [ImportServer.Reached, ImportPhase.position, hphase]
    · exact hok.reading_sub
    · simp
  · simp [ImportServer.Reached, ImportPhase.position]
  · simp [ImportServer.Reached, ImportPhase.position]

/-- The descriptors are the ones the source server sent, or none where there are no panes. -/
lemma Inv.importReceivesFds (hinv : h.Inv) (halive : h.importer.alive)
    (hphase : h.importer.phase = .receivingFds) {fds : List TerminalId}
    {toImporter : List HandoffMessage} (hfds : fds = h.source.handoffEntries.map Prod.fst)
    (htalks : Talks (h.source.rest h.token) restoredLines h.toSource toImporter) :
    Inv { h with
      importer := { h.importer with phase := .building, fds := fds }
      toImporter := toImporter } := by
  have hspawned := (hinv.spawned halive).1
  have hok := hinv.import_ok hspawned
  refine hinv.ofImporter hspawned ⟨rfl, rfl, rfl, rfl⟩ (fun ha => ha) htalks ?_ ?_ ?_
  · constructor
    · intro _
      apply hok.manifest_eq
      simp [ImportServer.Reached, ImportPhase.position, hphase]
    · exact fun _ => hfds
    · simp [ImportServer.Reached, ImportPhase.position]
    · simp [ImportServer.Reached, ImportPhase.position]
    · rw [hok.owns_iff]
      simp [ImportServer.Reached, ImportPhase.position, hphase]
    · intro _
      apply hok.reading_eq
      simp [ImportServer.Reached, ImportPhase.position, hphase]
    · exact hok.reading_sub
    · simp
  · simp [ImportServer.Reached, ImportPhase.position]
  · simp [ImportServer.Reached, ImportPhase.position]

lemma Inv.importBuilds (hinv : h.Inv) (halive : h.importer.alive)
    (hphase : h.importer.phase = .building) {session : SessionRestore}
    (hsession : restoreHandoff h.importer.start h.source.manifest.snapshot
      (Table.collect (h.source.manifest.panes.zip h.importer.fds)) = some session) :
    Inv { h with importer := { h.importer with
      phase := .reportingRestored
      imports := Table.collect (h.source.manifest.panes.zip h.importer.fds)
      session := some session } } := by
  have hspawned := (hinv.spawned halive).1
  have htalks := hinv.talks hspawned
  have hok := hinv.import_ok hspawned
  rw [ImportServer.rest, hphase] at htalks
  have hreading : h.importer.reading = [] := by
    apply hok.reading_eq
    simp [ImportServer.Reached, ImportPhase.position, hphase]
  refine hinv.ofImporter hspawned ⟨rfl, rfl, rfl, rfl⟩ (fun ha => ha) htalks ?_ ?_ ?_
  · constructor
    · intro _
      apply hok.manifest_eq
      simp [ImportServer.Reached, ImportPhase.position, hphase]
    · intro _
      apply hok.fds_eq
      simp [ImportServer.Reached, ImportPhase.position, hphase]
    · intro _
      have hfds := hok.fds_eq (by simp [ImportServer.Reached, ImportPhase.position, hphase])
      rw [hinv.source_ok.panes_eq hspawned, hfds, List.zip_map']
      rfl
    · exact fun _ => ⟨rfl, hsession.symm⟩
    · rw [hok.owns_iff]
      simp [ImportServer.Reached, ImportPhase.position, hphase]
    · exact fun _ => hreading
    · rw [hreading]
      simp
    · simp
  · simp [ImportServer.Reached, ImportPhase.position]
  · simp [ImportServer.Reached, ImportPhase.position]

lemma Inv.importAssumes (hinv : h.Inv) (halive : h.importer.alive)
    (hphase : h.importer.phase = .assuming) :
    Inv { h with importer := { h.importer with
      phase := .unpausing h.importer.imports.values
      ownsProcesses := true } } := by
  have hspawned := (hinv.spawned halive).1
  have htalks := hinv.talks hspawned
  have hok := hinv.import_ok hspawned
  have hapi := hinv.api_eq halive
  have hclient := hinv.client_eq halive
  rw [ImportServer.rest, hphase] at htalks
  rw [ImportServer.Reached, hphase] at hapi hclient
  refine hinv.ofImporter hspawned ⟨rfl, rfl, rfl, rfl⟩ (fun ha => ha) htalks ?_
    (fun _ _ => hapi (by simp [ImportPhase.position]))
    fun _ _ => hclient (by simp [ImportPhase.position])
  constructor
  · intro _
    apply hok.manifest_eq
    simp [ImportServer.Reached, ImportPhase.position, hphase]
  · intro _
    apply hok.fds_eq
    simp [ImportServer.Reached, ImportPhase.position, hphase]
  · intro _
    apply hok.imports_eq
    simp [ImportServer.Reached, ImportPhase.position, hphase]
  · intro _
    apply hok.session_eq
    simp [ImportServer.Reached, ImportPhase.position, hphase]
  · simp [ImportServer.Reached, ImportPhase.position]
  · intro _
    apply hok.reading_eq
    simp [ImportServer.Reached, ImportPhase.position, hphase]
  · exact hok.reading_sub
  · intro remaining heq terminalId hmem
    cases heq
    exact hmem

lemma Inv.importUnpauses (hinv : h.Inv) (halive : h.importer.alive) {terminalId : TerminalId}
    {remaining : List TerminalId} {reading : List TerminalId}
    (hphase : h.importer.phase = .unpausing (terminalId :: remaining))
    (hreading : ∀ t ∈ reading, t = terminalId ∨ t ∈ h.importer.reading) :
    Inv { h with importer := { h.importer with
      phase := .unpausing remaining
      reading := reading } } := by
  have hspawned := (hinv.spawned halive).1
  have htalks := hinv.talks hspawned
  have hok := hinv.import_ok hspawned
  have hapi := hinv.api_eq halive
  have hclient := hinv.client_eq halive
  have hunpausing := hok.unpausing_sub _ hphase
  rw [ImportServer.rest, hphase] at htalks
  rw [ImportServer.Reached, hphase] at hapi hclient
  refine hinv.ofImporter hspawned ⟨rfl, rfl, rfl, rfl⟩ (fun ha => ha) htalks ?_
    (fun _ _ => hapi (by simp [ImportPhase.position]))
    fun _ _ => hclient (by simp [ImportPhase.position])
  constructor
  · intro _
    apply hok.manifest_eq
    simp [ImportServer.Reached, ImportPhase.position, hphase]
  · intro _
    apply hok.fds_eq
    simp [ImportServer.Reached, ImportPhase.position, hphase]
  · intro _
    apply hok.imports_eq
    simp [ImportServer.Reached, ImportPhase.position, hphase]
  · intro _
    apply hok.session_eq
    simp [ImportServer.Reached, ImportPhase.position, hphase]
  · rw [hok.owns_iff]
    simp [ImportServer.Reached, ImportPhase.position, hphase]
  · intro hnot
    exact absurd (by simp [ImportServer.Reached, ImportPhase.position]) hnot
  · intro t ht
    rcases hreading t ht with rfl | hold
    · exact hunpausing t List.mem_cons_self
    · exact hok.reading_sub t hold
  · intro rest heq t ht
    cases heq
    exact hunpausing t (List.mem_cons_of_mem _ ht)

lemma Inv.importSucceeds (hinv : h.Inv) (halive : h.importer.alive)
    (hs : h.importSucceeds = some h') : h'.Inv := by
  obtain ⟨hspawned, hholding⟩ := hinv.spawned halive
  have htalks := hinv.talks hspawned
  have hok := hinv.import_ok hspawned
  have hapi := hinv.api_eq halive
  have hclient := hinv.client_eq halive
  have hmove (phase : ImportPhase) := hinv.importMoves hspawned phase
  rw [ImportServer.Reached] at hapi hclient
  simp only [ImportServer.Reached] at hmove
  cases hphase : h.importer.phase with
  | absent => simp [Handoff.importSucceeds, hphase] at hs
  | serving reported => simp [Handoff.importSucceeds, hphase] at hs
  | connecting =>
    simp only [Handoff.importSucceeds, hphase, Option.ite_none_right_eq_some] at hs
    obtain ⟨-, hs⟩ := hs
    cases hs
    rw [ImportServer.rest, hphase] at htalks
    rw [hphase] at hmove
    apply hmove .authenticating _ _ _ _ htalks
    all_goals simp [milestones, ImportPhase.position]
  | authenticating =>
    simp only [Handoff.importSucceeds, hphase] at hs
    cases hs
    rw [ImportServer.rest, hphase] at htalks
    rw [hphase] at hmove
    apply hmove .receivingManifest _ _ _ _ htalks.importerSends
    all_goals simp [milestones, ImportPhase.position]
  | receivingManifest =>
    simp only [Handoff.importSucceeds, hphase] at hs
    cases hinbox : h.toImporter with
    | nil => simp [hinbox] at hs
    | cons m toImporter =>
      rw [hinbox] at hs
      cases m with
      | manifest manifest =>
        simp only [Option.ite_none_right_eq_some] at hs
        obtain ⟨haccepts, hs⟩ := hs
        cases hs
        exact hinv.importReceivesManifest halive hphase hinbox haccepts
      | _ => cases hs
  | validating =>
    simp only [Handoff.importSucceeds, hphase] at hs
    cases hs
    rw [ImportServer.rest, hphase] at htalks
    rw [hphase] at hmove
    apply hmove .receivingFds _ _ _ _ htalks.importerSends
    all_goals simp [milestones, ImportPhase.position]
  | receivingFds =>
    obtain ⟨hmanifest, -⟩ :=
      hok.manifest_eq (by simp [ImportServer.Reached, ImportPhase.position, hphase])
    have hpanes := hinv.source_ok.panes_eq hspawned
    simp only [Handoff.importSucceeds, hphase, hmanifest] at hs
    rw [ImportServer.rest, hphase] at htalks
    rw [hpanes] at hs
    cases hentries : h.source.handoffEntries with
    | nil =>
      simp only [hentries, List.map_nil, List.isEmpty_nil, if_true] at hs
      cases hs
      rw [hentries] at htalks
      have hreceived := hinv.importReceivesFds halive hphase (by rw [hentries, List.map_nil]) htalks
      simpa only [hmanifest] using hreceived
    | cons entry entries =>
      simp only [hentries, List.map_cons, List.isEmpty_cons, Bool.false_eq_true, if_false] at hs
      cases hinbox : h.toImporter with
      | nil => simp [hinbox] at hs
      | cons m toImporter =>
        rw [hinbox] at hs htalks
        cases m with
        | fds fds =>
          simp only [Option.ite_none_right_eq_some] at hs
          obtain ⟨-, hs⟩ := hs
          cases hs
          rw [hentries] at htalks
          obtain ⟨hfds, htalks'⟩ := htalks.importerReads
          cases hfds
          have hreceived := hinv.importReceivesFds halive hphase (by rw [hentries]) htalks'
          simpa only [hmanifest, List.map_cons] using hreceived
        | _ => cases hs
  | building =>
    obtain ⟨hmanifest, -⟩ :=
      hok.manifest_eq (by simp [ImportServer.Reached, ImportPhase.position, hphase])
    simp only [Handoff.importSucceeds, hphase, hmanifest, Option.map_eq_some_iff] at hs
    obtain ⟨session, hsession, rfl⟩ := hs
    simpa only [hmanifest] using hinv.importBuilds halive hphase hsession
  | reportingRestored =>
    simp only [Handoff.importSucceeds, hphase] at hs
    cases hs
    rw [ImportServer.rest, hphase] at htalks
    rw [hphase] at hmove
    apply hmove .awaitingSockets _ _ _ _ htalks.importerSends
    all_goals simp [milestones, ImportPhase.position]
  | awaitingSockets =>
    simp only [Handoff.importSucceeds, hphase, Option.ite_none_right_eq_some] at hs
    obtain ⟨-, hs⟩ := hs
    cases hs
    rw [ImportServer.rest, hphase] at htalks
    rw [hphase] at hmove
    apply hmove .bindingApi _ _ _ _ htalks
    all_goals simp [milestones, ImportPhase.position]
  | bindingApi =>
    simp only [Handoff.importSucceeds, hphase, Option.ite_none_right_eq_some] at hs
    obtain ⟨-, hs⟩ := hs
    cases hs
    rw [ImportServer.rest, hphase] at htalks
    rw [hphase] at hmove
    apply hmove .bindingClient _ _ _ _ htalks
    all_goals simp [milestones, ImportPhase.position]
  | bindingClient =>
    simp only [Handoff.importSucceeds, hphase, Option.ite_none_right_eq_some] at hs
    obtain ⟨-, hs⟩ := hs
    cases hs
    rw [ImportServer.rest, hphase] at htalks
    rw [hphase] at hmove hapi
    apply hmove .reportingReady _ _ _ _ htalks (fun _ => hapi (by simp [ImportPhase.position]))
    all_goals simp [milestones, ImportPhase.position]
  | reportingReady =>
    simp only [Handoff.importSucceeds, hphase] at hs
    cases hs
    rw [ImportServer.rest, hphase] at htalks
    rw [hphase] at hmove hapi hclient
    apply hmove .awaitingCommit _ _ _ _ htalks.importerSends
      (fun _ => hapi (by simp [ImportPhase.position]))
      (fun _ => hclient (by simp [ImportPhase.position]))
    all_goals simp [milestones, ImportPhase.position]
  | awaitingCommit =>
    simp only [Handoff.importSucceeds, hphase] at hs
    cases hinbox : h.toImporter with
    | nil => simp [hinbox] at hs
    | cons m toImporter =>
      rw [hinbox] at hs htalks
      cases m with
      | committed =>
        cases hs
        rw [ImportServer.rest, hphase] at htalks
        rw [hphase] at hmove hapi hclient
        apply hmove .assuming _ _ _ _ htalks.importerReads.2
          (fun _ => hapi (by simp [ImportPhase.position]))
          (fun _ => hclient (by simp [ImportPhase.position]))
        all_goals simp [milestones, ImportPhase.position]
      | _ => cases hs
  | assuming =>
    simp only [Handoff.importSucceeds, hphase] at hs
    cases hs
    exact hinv.importAssumes halive hphase
  | unpausing remaining =>
    cases remaining with
    | nil =>
      simp only [Handoff.importSucceeds, hphase] at hs
      cases hs
      rw [ImportServer.rest, hphase] at htalks
      rw [hphase] at hmove hapi hclient
      apply hmove .reportingOwned _ _ _ _ htalks
        (fun _ => hapi (by simp [ImportPhase.position]))
        (fun _ => hclient (by simp [ImportPhase.position]))
      all_goals simp [milestones, ImportPhase.position]
    | cons terminalId remaining =>
      simp only [Handoff.importSucceeds, hphase] at hs
      cases hs
      exact hinv.importUnpauses halive hphase fun t ht => List.mem_cons.mp ht
  | reportingOwned =>
    simp only [Handoff.importSucceeds, hphase] at hs
    cases hs
    rw [ImportServer.rest, hphase] at htalks
    rw [hphase] at hmove hapi hclient
    apply hmove (.serving true) _ _ _ _ htalks.importerSends
      (fun _ => hapi (by simp [ImportPhase.position]))
      (fun _ => hclient (by simp [ImportPhase.position]))
    all_goals simp [milestones, ImportPhase.position]

lemma Inv.gone (hinv : h.Inv) : h.importerGone.Inv where
  leftover_dead := hinv.leftover_dead
  spawned ha := by simp [importerGone] at ha
  source_ok := hinv.source_ok
  fresh hprep := by
    obtain ⟨hsource, himporter, hfds, hfresh⟩ := hinv.fresh hprep
    refine ⟨hsource, himporter, hfds, ?_⟩
    simp only [importerGone]
    rw [hfresh]
    rfl
  talks := hinv.talks
  import_ok hspawned := by
    have hok := hinv.import_ok hspawned
    exact ⟨hok.manifest_eq, hok.fds_eq, hok.imports_eq, hok.session_eq, hok.owns_iff,
      hok.reading_eq, hok.reading_sub, hok.unpausing_sub⟩
  api_eq ha := by simp [importerGone] at ha
  client_eq ha := by simp [importerGone] at ha
  terminated := hinv.terminated
  released := hinv.released

lemma Inv.importFails (hinv : h.Inv) (halive : h.importer.alive)
    (hs : h.importFails = some h') : h'.Inv := by
  have hspawned := (hinv.spawned halive).1
  have htalks := hinv.talks hspawned
  have hapi := hinv.api_eq halive
  have hclient := hinv.client_eq halive
  have howns := (hinv.import_ok hspawned).owns_iff
  rw [ImportServer.Reached] at hapi hclient howns
  cases hphase : h.importer.phase with
  | absent | assuming | serving reported => simp [Handoff.importFails, hphase] at hs
  | unpausing remaining =>
    cases remaining with
    | nil => simp [Handoff.importFails, hphase] at hs
    | cons terminalId remaining =>
      simp only [Handoff.importFails, hphase] at hs
      cases hs
      exact hinv.importUnpauses halive hphase fun t ht => .inr ht
  | reportingOwned =>
    have hmove := hinv.importMoves hspawned (.serving false)
    simp only [Handoff.importFails, hphase] at hs
    cases hs
    rw [ImportServer.rest, hphase] at htalks
    rw [hphase] at hapi hclient
    simp only [ImportServer.Reached, hphase] at hmove
    apply hmove _ _ _ _ htalks
      (fun _ => hapi (by simp [ImportPhase.position]))
      (fun _ => hclient (by simp [ImportPhase.position]))
    all_goals simp [milestones, ImportPhase.position]
  | _ =>
    simp only [hphase, ImportPhase.position, Nat.reduceLeDiff, iff_false] at howns
    simp only [Handoff.importFails, hphase, howns] at hs
    cases hs
    exact hinv.gone

lemma Inv.importStep (hinv : h.Inv) {ok : Bool} (hs : h.importStep ok = some h') : h'.Inv := by
  rw [Handoff.importStep, Option.ite_none_right_eq_some] at hs
  obtain ⟨halive, hs⟩ := hs
  cases ok with
  | true => exact hinv.importSucceeds halive hs
  | false => exact hinv.importFails halive hs

lemma Inv.importCrash (hinv : h.Inv) (hs : h.importCrash = some h') : h'.Inv := by
  rw [Handoff.importCrash, Option.ite_none_right_eq_some] at hs
  obtain ⟨-, hs⟩ := hs
  cases hs
  exact hinv.gone

end Handoff

/-! ### The source server's operations -/

/-- The descriptors are duplicated. -/
def SourcePhase.Late (phase : SourcePhase) : Prop :=
  match phase with
  | .idle | .pausing _ | .spawning | .duplicating _ => False
  | _ => True

lemma SourceServer.ok_of_late {s : SourceServer} (hlate : s.phase.Late) (h : s.Captured []) :
    s.Ok := by
  unfold SourceServer.Ok
  cases hphase : s.phase <;> rw [hphase] at hlate <;> first | exact hlate.elim | exact h

lemma SourceServer.Ok.captured {s : SourceServer} (hlate : s.phase.Late) (h : s.Ok) :
    s.Captured [] := by
  unfold SourceServer.Ok at h
  cases hphase : s.phase <;> rw [hphase] at h hlate <;> first | exact hlate.elim | exact h

lemma SourceServer.spawned_of_late {s : SourceServer} (hlate : s.phase.Late) : s.Spawned := by
  unfold SourceServer.Spawned
  cases hphase : s.phase <;> rw [hphase] at hlate <;> first | exact hlate.elim | trivial

/-- The readers of the panes stay stopped from the spawn on. -/
lemma SourceServer.Ok.quiesced {s : SourceServer} (h : s.Ok) (hspawned : s.Spawned)
    (hholding : s.Holding) : ∀ e ∈ s.handoffEntries, e.1 ∈ s.quiesced := by
  unfold SourceServer.Ok at h
  unfold SourceServer.Spawned at hspawned
  cases hphase : s.phase <;> rw [hphase] at h hspawned <;>
    first | exact hspawned.elim | exact h.quiesced hholding

lemma SourceServer.not_preparing_of_spawned {s : SourceServer} (hspawned : s.Spawned) :
    ¬ s.Preparing := by
  rw [SourceServer.Spawned] at hspawned
  rw [SourceServer.Preparing]
  cases hphase : s.phase <;> rw [hphase] at hspawned <;> simp_all

lemma ImportServer.rest_congr (i : ImportServer) {s s' : SourceServer} (token : String)
    (hentries : s'.handoffEntries = s.handoffEntries) (hmanifest : s'.manifest = s.manifest) :
    i.rest s' token = i.rest s token := by
  simp only [ImportServer.rest, SourceServer.script, SourceServer.manifestLines, hentries,
    hmanifest]

lemma ImportServer.Ok.congr {i : ImportServer} {s s' : SourceServer} (h : i.Ok s)
    (hentries : s'.handoffEntries = s.handoffEntries) (hmanifest : s'.manifest = s.manifest) :
    i.Ok s' where
  manifest_eq hr := by
    rw [hmanifest]
    exact h.manifest_eq hr
  fds_eq hr := by
    rw [hentries]
    exact h.fds_eq hr
  imports_eq hr := by
    rw [hentries]
    exact h.imports_eq hr
  session_eq hr := by
    rw [hmanifest]
    exact h.session_eq hr
  owns_iff := h.owns_iff
  reading_eq := h.reading_eq
  reading_sub := h.reading_sub
  unpausing_sub := h.unpausing_sub

namespace Handoff

variable {h h' : Handoff}

/-- What an operation of the source server has to show once the import server is spawned. -/
lemma Inv.ofSource (hinv : h.Inv) (hspawned : h.source.Spawned)
    (hframe : h'.importer = h.importer ∧ h'.leftover = h.leftover ∧ h'.token = h.token)
    (hsource : h'.source.handoffEntries = h.source.handoffEntries ∧
      h'.source.manifest = h.source.manifest) (hrecovery : h'.source.recovery = .none)
    (hspawned' : h'.source.Spawned)
    (hok : h'.source.Ok)
    (htalks : Talks (h'.source.rest h.token) (h.importer.rest h.source h.token)
      h'.toSource h'.toImporter)
    (hapi : h.apiSocket = some .importer → h'.apiSocket = some .importer)
    (hclient : h.clientSocket = some .importer → h'.clientSocket = some .importer)
    (hterm : ∀ terminalId ∈ h'.terminated,
      h'.source.Released ∧ terminalId ∉ h'.source.paneByTerminal) : h'.Inv := by
  obtain ⟨himporter, hleft, htoken⟩ := hframe
  obtain ⟨hentries, hmanifest⟩ := hsource
  constructor
  · rw [hleft]
    exact hinv.leftover_dead
  · rw [himporter]
    intro ha
    refine ⟨hspawned', ?_⟩
    unfold SourceServer.Holding
    rw [hrecovery]
    trivial
  · exact hok
  · exact fun hprep => (SourceServer.not_preparing_of_spawned hspawned' hprep).elim
  · intro _
    rw [himporter, htoken, ImportServer.rest_congr _ _ hentries hmanifest]
    exact htalks
  · intro _
    rw [himporter]
    exact (hinv.import_ok hspawned).congr hentries hmanifest
  · rw [himporter]
    exact fun ha hr => hapi (hinv.api_eq ha hr)
  · rw [himporter]
    exact fun ha hr => hclient (hinv.client_eq ha hr)
  · exact hterm
  · exact fun _ => hrecovery

lemma socketWithout_eq_of_ne {party other : Party} (hne : party ≠ other)
    {socket : Option Party} (hs : socket = some other) :
    socketWithout party socket = some other := by
  rw [socketWithout, hs, if_neg (by simpa using hne.symm)]

/-- An operation after which the source server holds what it held before. -/
lemma Inv.sourceMoves (hinv : h.Inv) (hrecovery : h.source.recovery = .none)
    (hspawned : h.source.Spawned) (phase : SourcePhase)
    (hlate : phase.Late) (hcaptured : h.source.Captured [])
    (hreleased : h.source.Released → (h.sourceAt phase).source.Released) (listening : Bool)
    {toSource toImporter : List HandoffMessage} {apiSocket clientSocket : Option Party}
    (htalks : Talks ((h.sourceAt phase).source.rest h.token) (h.importer.rest h.source h.token)
      toSource toImporter)
    (hapi : h.apiSocket = some .importer → apiSocket = some .importer)
    (hclient : h.clientSocket = some .importer → clientSocket = some .importer) :
    Inv { h.sourceAt phase with
      listening := listening
      toSource := toSource
      toImporter := toImporter
      apiSocket := apiSocket
      clientSocket := clientSocket } := by
  refine hinv.ofSource hspawned ⟨rfl, rfl, rfl⟩ ⟨rfl, rfl⟩ hrecovery
    (SourceServer.spawned_of_late hlate) (SourceServer.ok_of_late hlate ?_) htalks
    hapi hclient ?_
  · exact ⟨hcaptured.quiesced, hcaptured.held, hcaptured.fds_eq, hcaptured.panes_eq,
      hcaptured.attached⟩
  · intro terminalId hmem
    obtain ⟨hrel, hnot⟩ := hinv.terminated terminalId hmem
    exact ⟨hreleased hrel, hnot⟩

lemma mem_handoffEntries {runtimes : List TerminalId} {panes : Table TerminalId UInt32}
    {e : TerminalId × UInt32} :
    e ∈ handoffEntries runtimes panes ↔ e.1 ∈ runtimes ∧ panes.lookup e.1 = some e.2 := by
  rw [handoffEntries, List.mem_filterMap]
  constructor
  · rintro ⟨terminalId, hmem, hlookup⟩
    obtain ⟨pane, hpane, rfl⟩ := Option.map_eq_some_iff.mp hlookup
    exact ⟨hmem, hpane⟩
  · rintro ⟨hmem, hlookup⟩
    exact ⟨e.1, hmem, by rw [hlookup]; rfl⟩

/-- What an operation before the spawn has to show. -/
lemma Inv.ofPreparing (hinv : h.Inv) (hprep : h.source.Preparing)
    (hframe : h'.importer = h.importer ∧ h'.leftover = h.leftover ∧ h'.source.fds = h.source.fds ∧
      h'.toSource = h.toSource ∧ h'.toImporter = h.toImporter ∧ h'.terminated = h.terminated)
    (hprep' : h'.source.Preparing) (hok : h'.source.Ok) : h'.Inv := by
  obtain ⟨himporter, hleft, hfds, htoSource, htoImporter, hterm⟩ := hframe
  have hfresh := hinv.fresh hprep
  have hdead : ¬ h'.importer.alive := by
    rw [himporter, hfresh.2.2.2]
    simp [ImportServer.notSpawned]
  have hunspawned : ¬ h'.source.Spawned :=
    fun hspawned => SourceServer.not_preparing_of_spawned hspawned hprep'
  constructor
  · rw [hleft]
    exact hinv.leftover_dead
  · exact fun ha => (hdead ha).elim
  · exact hok
  · rw [htoSource, htoImporter, himporter, hfds]
    exact fun _ => hfresh
  · exact fun hspawned => (hunspawned hspawned).elim
  · exact fun hspawned => (hunspawned hspawned).elim
  · exact fun ha => (hdead ha).elim
  · exact fun ha => (hdead ha).elim
  · intro terminalId hmem
    rw [hterm] at hmem
    have hreleased := (hinv.terminated terminalId hmem).1
    revert hreleased hprep
    unfold SourceServer.Preparing SourceServer.Released
    cases h.source.phase <;> simp
  · intro hreleased
    revert hreleased hprep'
    unfold SourceServer.Preparing SourceServer.Released
    cases h'.source.phase <;> simp

lemma Inv.spawns (hinv : h.Inv) (hphase : h.source.phase = .spawning)
    (hholding : h.source.Holding) :
    Inv { h with
      source := { h.source with
        phase := .duplicating (handoffEntries h.source.runtimes h.source.paneByTerminal)
        handoffEntries := handoffEntries h.source.runtimes h.source.paneByTerminal
        manifest := { h.source.manifest with
          panes := (handoffEntries h.source.runtimes h.source.paneByTerminal).map Prod.snd } }
      importer := { h.importer with alive := true, phase := .connecting } } := by
  have hprep : h.source.Preparing := by
    unfold SourceServer.Preparing
    rw [hphase]
    trivial
  have hquiet := hinv.source_ok
  unfold SourceServer.Ok at hquiet
  rw [hphase] at hquiet
  obtain ⟨htoSource, htoImporter, hfds, hfresh⟩ := hinv.fresh hprep
  constructor
  · exact hinv.leftover_dead
  · exact fun _ => ⟨trivial, hholding⟩
  · constructor
    · intro _ e he
      obtain ⟨hmem, hlookup⟩ := mem_handoffEntries.mp he
      exact hquiet hholding e.1 hmem (AList.lookup_isSome.mp (by rw [hlookup]; rfl))
    · exact fun e he => (mem_handoffEntries.mp he).1
    · rw [hfds, List.nil_append]
    · rfl
    · exact fun e he => (mem_handoffEntries.mp he).2
  · exact fun hprep => hprep.elim
  · intro _
    rw [htoSource, htoImporter]
    exact talks_start _
  · intro _
    rw [hfresh]
    constructor
    · simp [ImportServer.Reached, ImportPhase.position]
    · simp [ImportServer.Reached, ImportPhase.position]
    · simp [ImportServer.Reached, ImportPhase.position]
    · simp [ImportServer.Reached, ImportPhase.position]
    · simp [ImportServer.Reached, ImportPhase.position, ImportServer.notSpawned]
    · exact fun _ => rfl
    · simp [ImportServer.notSpawned]
    · simp
  · simp [ImportServer.Reached, ImportPhase.position]
  · simp [ImportServer.Reached, ImportPhase.position]
  · intro terminalId hmem
    have hreleased := (hinv.terminated terminalId hmem).1
    unfold SourceServer.Released at hreleased
    rw [hphase] at hreleased
    exact hreleased.elim
  · exact fun hreleased => hreleased.elim

/-- The next descriptor is that of the next pane. -/
lemma Inv.duplicates (hinv : h.Inv) (hrecovery : h.source.recovery = .none)
    {entry : TerminalId × UInt32}
    {entries : List (TerminalId × UInt32)}
    (hphase : h.source.phase = .duplicating (entry :: entries)) :
    Inv { h with source := { h.source with
      phase := .duplicating entries
      fds := h.source.fds ++ [entry.1] } } := by
  have hspawned : h.source.Spawned := by
    unfold SourceServer.Spawned
    rw [hphase]
    trivial
  have hcaptured := hinv.source_ok
  unfold SourceServer.Ok at hcaptured
  rw [hphase] at hcaptured
  have htalks := hinv.talks hspawned
  rw [SourceServer.rest, hphase] at htalks
  refine hinv.ofSource hspawned ⟨rfl, rfl, rfl⟩ ⟨rfl, rfl⟩ hrecovery trivial ?_ htalks
    (fun hs => hs) (fun hs => hs) ?_
  · constructor
    · exact hcaptured.quiesced
    · exact fun e he => hcaptured.held e (List.mem_cons_of_mem _ he)
    · rw [← hcaptured.fds_eq]
      simp
    · exact hcaptured.panes_eq
    · exact hcaptured.attached
  · intro terminalId hmem
    have hreleased := (hinv.terminated terminalId hmem).1
    unfold SourceServer.Released at hreleased
    rw [hphase] at hreleased
    exact hreleased.elim

/-- A runtime without a pane is dropped with its processes. -/
lemma Inv.releases (hinv : h.Inv) (hrecovery : h.source.recovery = .none)
    {terminalId : TerminalId} {drained : List TerminalId}
    (hphase : h.source.phase = .releasing (terminalId :: drained)) :
    Inv { h with
      source := { h.source with
        phase := .releasing drained
        runtimes := h.source.runtimes.erase terminalId }
      terminated :=
        if terminalId ∈ h.source.paneByTerminal then h.terminated
        else terminalId :: h.terminated } := by
  have hlate : h.source.phase.Late := by
    rw [hphase]
    trivial
  have hspawned := SourceServer.spawned_of_late hlate
  have hcaptured := hinv.source_ok.captured hlate
  have htalks := hinv.talks hspawned
  rw [SourceServer.rest, hphase] at htalks
  refine hinv.ofSource hspawned ⟨rfl, rfl, rfl⟩ ⟨rfl, rfl⟩ hrecovery trivial ?_ htalks
    (fun hs => hs) (fun hs => hs) ?_
  · constructor
    · exact hcaptured.quiesced
    · simp
    · exact hcaptured.fds_eq
    · exact hcaptured.panes_eq
    · exact hcaptured.attached
  · intro t hmem
    refine ⟨trivial, ?_⟩
    by_cases hpane : terminalId ∈ h.source.paneByTerminal
    · rw [if_pos hpane] at hmem
      exact (hinv.terminated t hmem).2
    · rw [if_neg hpane] at hmem
      rcases List.mem_cons.mp hmem with rfl | hmem
      · exact hpane
      · exact (hinv.terminated t hmem).2

/-- What the operations after the duplication have in common. -/
lemma Inv.late (hinv : h.Inv) (hrecovery : h.source.recovery = .none)
    (hlate : h.source.phase.Late) :
    h.source.phase.Late ∧
    (∀ phase : SourcePhase, phase.Late →
      (h.source.Released → (h.sourceAt phase).source.Released) →
      ∀ (listening : Bool) {toSource toImporter : List HandoffMessage}
        {apiSocket clientSocket : Option Party},
        Talks ((h.sourceAt phase).source.rest h.token) (h.importer.rest h.source h.token)
          toSource toImporter →
        (h.apiSocket = some .importer → apiSocket = some .importer) →
        (h.clientSocket = some .importer → clientSocket = some .importer) →
        Inv { h.sourceAt phase with
          listening := listening
          toSource := toSource
          toImporter := toImporter
          apiSocket := apiSocket
          clientSocket := clientSocket }) ∧
    Talks (h.source.rest h.token) (h.importer.rest h.source h.token) h.toSource h.toImporter :=
  have hspawned := SourceServer.spawned_of_late hlate
  ⟨hlate, fun phase hphase hreleased listening => hinv.sourceMoves hrecovery hspawned phase hphase
    (hinv.source_ok.captured hlate) hreleased listening, hinv.talks hspawned⟩

/-- Where the source server waits for a message, it goes on with that message only. -/
lemma sourceSucceeds_reads (m : HandoffMessage) (phase : SourcePhase)
    (hawaits : h.source.phase.awaits h.token = some (m, phase))
    (hs : h.sourceSucceeds = some h') :
    ∃ toSource listening, h.toSource = m :: toSource ∧
      h' = { h.sourceAt phase with toSource := toSource, listening := listening } := by
  cases hphase : h.source.phase with
  | authenticating =>
    rw [hphase] at hawaits
    cases hawaits
    simp only [Handoff.sourceSucceeds, hphase] at hs
    split at hs
    case h_1 token toSource hinbox =>
      obtain ⟨htoken, hgoes⟩ := Option.ite_none_right_eq_some.mp hs
      cases hgoes
      rw [htoken] at hinbox
      exact ⟨toSource, h.listening, hinbox, rfl⟩
    case h_2 => cases hs
  | validating | restoring | readying | acknowledging =>
    rw [hphase] at hawaits
    cases hawaits
    simp only [Handoff.sourceSucceeds, hphase] at hs
    split at hs
    case h_1 toSource hinbox =>
      cases hs
      exact ⟨toSource, _, hinbox, rfl⟩
    case h_2 => cases hs
  | _ =>
    rw [hphase] at hawaits
    cases hawaits

lemma Inv.sourceSucceeds (hinv : h.Inv) (hrecovery : h.source.recovery = .none)
    (hs : h.sourceSucceeds = some h') : h'.Inv := by
  have hok := hinv.source_ok
  have htalks := hinv.talks
  cases hphase : h.source.phase with
  | idle | done acknowledged => simp [Handoff.sourceSucceeds, hphase] at hs
  | pausing keys =>
    have hprep : h.source.Preparing := by
      unfold SourceServer.Preparing
      rw [hphase]
      trivial
    unfold SourceServer.Ok at hok
    rw [hphase] at hok
    cases keys with
    | nil =>
      simp only [Handoff.sourceSucceeds, hphase] at hs
      cases hs
      refine hinv.ofPreparing hprep ⟨rfl, rfl, rfl, rfl, rfl, rfl⟩ trivial ?_
      intro hh t ht hpane
      exact (hok hh t ht hpane).resolve_right (by simp)
    | cons terminalId keys =>
      simp only [Handoff.sourceSucceeds, hphase] at hs
      by_cases hmem : terminalId ∈ h.source.runtimes
      · rw [if_pos hmem] at hs
        cases hs
        refine hinv.ofPreparing hprep ⟨rfl, rfl, rfl, rfl, rfl, rfl⟩ trivial ?_
        intro hh t ht hpane
        rcases hok hh t ht hpane with hq | hkey
        · exact .inl (List.mem_cons_of_mem _ hq)
        · rcases List.mem_cons.mp hkey with rfl | hkey
          · exact .inl List.mem_cons_self
          · exact .inr hkey
      · rw [if_neg hmem] at hs
        cases hs
        refine hinv.ofPreparing hprep ⟨rfl, rfl, rfl, rfl, rfl, rfl⟩ trivial ?_
        intro hh t ht hpane
        rcases hok hh t ht hpane with hq | hkey
        · exact .inl hq
        · rcases List.mem_cons.mp hkey with rfl | hkey
          · exact (hmem ht).elim
          · exact .inr hkey
  | spawning =>
    simp only [Handoff.sourceSucceeds, hphase] at hs
    cases hs
    refine hinv.spawns hphase ?_
    unfold SourceServer.Holding
    rw [hrecovery]
    trivial
  | duplicating entries =>
    have hspawned : h.source.Spawned := by
      unfold SourceServer.Spawned
      rw [hphase]
      trivial
    unfold SourceServer.Ok at hok
    rw [hphase] at hok
    cases entries with
    | nil =>
      have hmove := hinv.sourceMoves hrecovery hspawned .accepting trivial hok
      have htalks := htalks hspawned
      rw [SourceServer.rest, hphase] at htalks
      simp only [Handoff.sourceSucceeds, hphase] at hs
      cases hs
      exact hmove (by simp [hphase, SourceServer.Released]) _ htalks (fun hs => hs) fun hs => hs
    | cons entry entries =>
      have hheld := hok.held entry List.mem_cons_self
      simp only [Handoff.sourceSucceeds, hphase, hheld, not_true_eq_false, if_false,
        Option.ite_none_right_eq_some] at hs
      obtain ⟨-, hs⟩ := hs
      cases hs
      exact hinv.duplicates hrecovery hphase
  | releasing drained =>
    cases drained with
    | cons terminalId drained =>
      simp only [Handoff.sourceSucceeds, hphase] at hs
      cases hs
      exact hinv.releases hrecovery hphase
    | nil =>
      obtain ⟨hlate, hmove, htalks⟩ := hinv.late hrecovery (by rw [hphase]; trivial)
      rw [SourceServer.rest, hphase] at htalks
      simp only [Handoff.sourceSucceeds, hphase] at hs
      cases hs
      exact hmove .acknowledging trivial (fun _ => trivial) _ htalks (fun hs => hs) fun hs => hs
  | accepting =>
    obtain ⟨hlate, hmove, htalks⟩ := hinv.late hrecovery (by rw [hphase]; trivial)
    rw [SourceServer.rest, hphase] at htalks
    simp only [Handoff.sourceSucceeds, hphase, Option.ite_none_right_eq_some] at hs
    obtain ⟨-, hs⟩ := hs
    cases hs
    exact hmove .authenticating trivial (by simp [SourceServer.Released, hphase])
      _ htalks (fun hs => hs) fun hs => hs
  | authenticating =>
    obtain ⟨hlate, hmove, htalks⟩ := hinv.late hrecovery (by rw [hphase]; trivial)
    obtain ⟨toSource, listening, hinbox, rfl⟩ :=
      sourceSucceeds_reads (.token h.token) .sendingManifest (by rw [hphase]; rfl) hs
    rw [SourceServer.rest, hphase, hinbox] at htalks
    exact hmove .sendingManifest trivial (by simp [SourceServer.Released, hphase]) listening
      htalks.sourceReads.2 (fun hs => hs) fun hs => hs
  | sendingManifest =>
    obtain ⟨hlate, hmove, htalks⟩ := hinv.late hrecovery (by rw [hphase]; trivial)
    rw [SourceServer.rest, hphase] at htalks
    simp only [Handoff.sourceSucceeds, hphase] at hs
    cases hs
    exact hmove .validating trivial (by simp [SourceServer.Released, hphase])
      _ htalks.sourceSends (fun hs => hs) fun hs => hs
  | validating =>
    obtain ⟨hlate, hmove, htalks⟩ := hinv.late hrecovery (by rw [hphase]; trivial)
    obtain ⟨toSource, listening, hinbox, rfl⟩ :=
      sourceSucceeds_reads .validated .sendingFds (by rw [hphase]; rfl) hs
    rw [SourceServer.rest, hphase, hinbox] at htalks
    exact hmove .sendingFds trivial (by simp [SourceServer.Released, hphase]) listening
      htalks.sourceReads.2 (fun hs => hs) fun hs => hs
  | sendingFds =>
    obtain ⟨hlate, hmove, htalks⟩ := hinv.late hrecovery (by rw [hphase]; trivial)
    have hfds := (hok.captured hlate).fds_eq
    rw [List.map_nil, List.append_nil] at hfds
    rw [SourceServer.rest, hphase] at htalks
    simp only [Handoff.sourceSucceeds, hphase, Option.ite_none_left_eq_some, hfds] at hs
    obtain ⟨-, hs⟩ := hs
    cases hentries : h.source.handoffEntries with
    | nil =>
      rw [hentries] at hs htalks
      cases hs
      exact hmove .restoring trivial (by simp [SourceServer.Released, hphase]) _ htalks
        (fun hs => hs) fun hs => hs
    | cons entry entries =>
      rw [hentries] at hs htalks
      cases hs
      exact hmove .restoring trivial (by simp [SourceServer.Released, hphase]) _
        htalks.sourceSends (fun hs => hs) fun hs => hs
  | restoring =>
    obtain ⟨hlate, hmove, htalks⟩ := hinv.late hrecovery (by rw [hphase]; trivial)
    obtain ⟨toSource, listening, hinbox, rfl⟩ :=
      sourceSucceeds_reads .restored .unlinkingApi (by rw [hphase]; rfl) hs
    rw [SourceServer.rest, hphase, hinbox] at htalks
    exact hmove .unlinkingApi trivial (by simp [SourceServer.Released, hphase]) listening
      htalks.sourceReads.2 (fun hs => hs) fun hs => hs
  | unlinkingApi =>
    obtain ⟨hlate, hmove, htalks⟩ := hinv.late hrecovery (by rw [hphase]; trivial)
    rw [SourceServer.rest, hphase] at htalks
    simp only [Handoff.sourceSucceeds, hphase] at hs
    cases hs
    exact hmove .unlinkingClient trivial (by simp [SourceServer.Released, hphase]) _ htalks
      (socketWithout_eq_of_ne (by simp)) fun hs => hs
  | unlinkingClient =>
    obtain ⟨hlate, hmove, htalks⟩ := hinv.late hrecovery (by rw [hphase]; trivial)
    rw [SourceServer.rest, hphase] at htalks
    simp only [Handoff.sourceSucceeds, hphase] at hs
    cases hs
    exact hmove .readying trivial (by simp [SourceServer.Released, hphase]) _ htalks
      (fun hs => hs) (socketWithout_eq_of_ne (by simp))
  | readying =>
    obtain ⟨hlate, hmove, htalks⟩ := hinv.late hrecovery (by rw [hphase]; trivial)
    obtain ⟨toSource, listening, hinbox, rfl⟩ :=
      sourceSucceeds_reads .ready .committing (by rw [hphase]; rfl) hs
    rw [SourceServer.rest, hphase, hinbox] at htalks
    exact hmove .committing trivial (by simp [SourceServer.Released, hphase]) listening
      htalks.sourceReads.2 (fun hs => hs) fun hs => hs
  | committing =>
    obtain ⟨hlate, hmove, htalks⟩ := hinv.late hrecovery (by rw [hphase]; trivial)
    rw [SourceServer.rest, hphase] at htalks
    simp only [Handoff.sourceSucceeds, hphase] at hs
    cases hs
    exact hmove (.releasing h.source.runtimes) trivial (fun _ => trivial) _ htalks.sourceSends
      (fun hs => hs) fun hs => hs
  | acknowledging =>
    obtain ⟨hlate, hmove, htalks⟩ := hinv.late hrecovery (by rw [hphase]; trivial)
    obtain ⟨toSource, listening, hinbox, rfl⟩ :=
      sourceSucceeds_reads .owned (.done true) (by rw [hphase]; rfl) hs
    rw [SourceServer.rest, hphase, hinbox] at htalks
    exact hmove (.done true) trivial (fun _ => trivial) listening
      htalks.sourceReads.2 (fun hs => hs) fun hs => hs

/-! ### Failures and crashes -/

/-- A crash or a recovery leaves the stream and the import server alone. -/
lemma Inv.ofRecovery (hinv : h.Inv) (recovery : Recovery) (quiesced : List TerminalId)
    (alive inProgress listening : Bool) {apiSocket clientSocket : Option Party}
    (hreleased : h.source.Released → recovery = .none)
    (hholding : SourceServer.Holding { h.source with recovery := recovery } →
      h.source.Holding ∧ quiesced = h.source.quiesced)
    (halive : h.importer.alive → SourceServer.Holding { h.source with recovery := recovery } ∧
      (h.apiSocket = some .importer → apiSocket = some .importer) ∧
      (h.clientSocket = some .importer → clientSocket = some .importer)) :
    Inv { h with
      source := { h.source with
        alive := alive
        recovery := recovery
        quiesced := quiesced
        handoffInProgress := inProgress }
      listening := listening
      apiSocket := apiSocket
      clientSocket := clientSocket } := by
  have hcaptured {remaining : List (TerminalId × UInt32)} (hold : h.source.Captured remaining) :
      SourceServer.Captured { h.source with
        alive := alive
        recovery := recovery
        quiesced := quiesced
        handoffInProgress := inProgress } remaining := by
    refine ⟨?_, hold.held, hold.fds_eq, hold.panes_eq, hold.attached⟩
    intro hh
    obtain ⟨hold', hq⟩ := hholding hh
    rw [hq]
    exact hold.quiesced hold'
  constructor
  · exact hinv.leftover_dead
  · exact fun ha => ⟨(hinv.spawned ha).1, (halive ha).1⟩
  · have hok := hinv.source_ok
    unfold SourceServer.Ok at hok ⊢
    cases hphase : h.source.phase <;> simp only [hphase] at hok ⊢
    case pausing | spawning =>
      intro hh
      obtain ⟨hold, hq⟩ := hholding hh
      rw [hq]
      exact hok hold
    all_goals simpa only [hphase] using hcaptured hok
  · exact hinv.fresh
  · exact hinv.talks
  · intro hspawned
    exact (hinv.import_ok hspawned).congr rfl rfl
  · exact fun ha hr => (halive ha).2.1 (hinv.api_eq ha hr)
  · exact fun ha hr => (halive ha).2.2 (hinv.client_eq ha hr)
  · exact hinv.terminated
  · exact hreleased

lemma Inv.not_alive_of_not_holding (hinv : h.Inv) (hnot : ¬ h.source.Holding) :
    ¬ h.importer.alive :=
  fun ha => hnot (hinv.spawned ha).2

lemma Inv.not_alive_of_preparing (hinv : h.Inv) (hprep : h.source.Preparing) :
    ¬ h.importer.alive := by
  rw [(hinv.fresh hprep).2.2.2]
  simp [ImportServer.notSpawned]

/-- The rollback starts when the import server is gone or was never there. -/
lemma Inv.resume (hinv : h.Inv) (restoreFailed : Bool) {apiSocket clientSocket : Option Party}
    (hdead : ¬ h.importer.alive) (hreleased : ¬ h.source.Released) :
    Inv { h.resume restoreFailed with apiSocket := apiSocket, clientSocket := clientSocket } :=
  hinv.ofRecovery (.resuming h.source.pausedTerminalIds restoreFailed) _ _ _ _
    (fun hr => (hreleased hr).elim) (fun hh => hh.elim) fun ha => (hdead ha).elim

lemma Inv.kills (hinv : h.Inv) (hholding : h.source.Holding) (hreleased : ¬ h.source.Released) :
    (h.recoverWith .killing).Inv :=
  hinv.ofRecovery .killing _ _ _ _ (fun hr => (hreleased hr).elim) (fun _ => ⟨hholding, rfl⟩)
    fun _ => ⟨trivial, fun hs => hs, fun hs => hs⟩

lemma Inv.sourceFails (hinv : h.Inv) (hrecovery : h.source.recovery = .none)
    (hs : h.sourceFails = some h') : h'.Inv := by
  have hholding : h.source.Holding := by
    unfold SourceServer.Holding
    rw [hrecovery]
    trivial
  cases hphase : h.source.phase with
  | idle | done acknowledged => simp [Handoff.sourceFails, hphase] at hs
  | pausing keys =>
    have hprep : h.source.Preparing := by
      unfold SourceServer.Preparing
      rw [hphase]
      trivial
    cases keys with
    | nil => simp [Handoff.sourceFails, hphase] at hs
    | cons terminalId keys =>
      simp only [Handoff.sourceFails, hphase, Option.ite_none_right_eq_some] at hs
      obtain ⟨-, hs⟩ := hs
      cases hs
      exact hinv.resume false (hinv.not_alive_of_preparing hprep)
        (by simp [SourceServer.Released, hphase])
  | spawning =>
    have hprep : h.source.Preparing := by
      unfold SourceServer.Preparing
      rw [hphase]
      trivial
    simp only [Handoff.sourceFails, hphase] at hs
    cases hs
    exact hinv.resume false (hinv.not_alive_of_preparing hprep)
      (by simp [SourceServer.Released, hphase])
  | duplicating entries =>
    cases entries with
    | nil => simp [Handoff.sourceFails, hphase] at hs
    | cons entry entries =>
      simp only [Handoff.sourceFails, hphase] at hs
      cases hs
      exact hinv.kills hholding (by simp [SourceServer.Released, hphase])
  | releasing drained =>
    cases drained with
    | nil => simp [Handoff.sourceFails, hphase] at hs
    | cons terminalId drained =>
      simp only [Handoff.sourceFails, hphase] at hs
      exact hinv.sourceSucceeds hrecovery hs
  | unlinkingApi =>
    obtain ⟨hlate, hmove, htalks⟩ := hinv.late hrecovery (by rw [hphase]; trivial)
    rw [SourceServer.rest, hphase] at htalks
    simp only [Handoff.sourceFails, hphase] at hs
    cases hs
    exact hmove .unlinkingClient trivial (by simp [SourceServer.Released, hphase]) _ htalks
      (fun hs => hs) fun hs => hs
  | unlinkingClient =>
    obtain ⟨hlate, hmove, htalks⟩ := hinv.late hrecovery (by rw [hphase]; trivial)
    rw [SourceServer.rest, hphase] at htalks
    simp only [Handoff.sourceFails, hphase] at hs
    cases hs
    exact hmove .readying trivial (by simp [SourceServer.Released, hphase]) _ htalks
      (fun hs => hs) fun hs => hs
  | acknowledging =>
    obtain ⟨hlate, hmove, htalks⟩ := hinv.late hrecovery (by rw [hphase]; trivial)
    rw [SourceServer.rest, hphase] at htalks
    simp only [Handoff.sourceFails, hphase] at hs
    cases hs
    exact hmove (.done false) trivial (fun _ => trivial) _ htalks (fun hs => hs) fun hs => hs
  | _ =>
    simp only [Handoff.sourceFails, hphase] at hs
    cases hs
    exact hinv.kills hholding (by simp [SourceServer.Released, hphase])

lemma Inv.sourceStep (hinv : h.Inv) {ok : Bool} (hs : h.sourceStep ok = some h') : h'.Inv := by
  unfold Handoff.sourceStep at hs
  split at hs
  · rename_i halive hrecovery
    cases ok with
    | true => exact hinv.sourceSucceeds hrecovery hs
    | false => exact hinv.sourceFails hrecovery hs
  · cases hs

/-- Once the import server is dead, the recovery goes on as it likes. -/
lemma Inv.recovers (hinv : h.Inv) (hdead : ¬ h.importer.alive) (hreleased : ¬ h.source.Released)
    (recovery : Recovery)
    (hnot : ¬ SourceServer.Holding { h.source with recovery := recovery })
    (quiesced : List TerminalId) (alive inProgress listening : Bool)
    {apiSocket clientSocket : Option Party} :
    Inv { h with
      source := { h.source with
        alive := alive
        recovery := recovery
        quiesced := quiesced
        handoffInProgress := inProgress }
      listening := listening
      apiSocket := apiSocket
      clientSocket := clientSocket } :=
  hinv.ofRecovery recovery quiesced alive inProgress listening (fun hr => (hreleased hr).elim)
    (fun hh => (hnot hh).elim) fun ha => (hdead ha).elim

lemma Inv.recoverStep (hinv : h.Inv) {ok : Bool} (hs : h.recoverStep ok = some h') : h'.Inv := by
  have hdead (hnot : ¬ h.source.Holding) := hinv.not_alive_of_not_holding hnot
  have hreleased (hne : h.source.recovery ≠ .none) : ¬ h.source.Released :=
    fun hr => hne (hinv.released hr)
  unfold SourceServer.Holding at hdead
  cases halive : h.source.alive with
  | false => simp [Handoff.recoverStep, halive] at hs
  | true =>
    cases hrecovery : h.source.recovery with
    | none => simp [Handoff.recoverStep, halive, hrecovery] at hs
    | failed restoreFailed => simp [Handoff.recoverStep, halive, hrecovery] at hs
    | killing =>
      cases ok with
      | false => simp [Handoff.recoverStep, halive, hrecovery] at hs
      | true =>
        rw [hrecovery] at hreleased
        have hgone : ¬ h.importerGone.importer.alive := by simp [importerGone]
        simp only [Handoff.recoverStep, halive, hrecovery, Option.some.injEq] at hs
        split at hs
        · cases hs
          exact hinv.gone.recovers hgone (hreleased (by simp)) .awaitingSockets
            (fun hh => hh) _ _ _ _
        · cases hs
          exact hinv.gone.resume false hgone (hreleased (by simp))
    | awaitingSockets =>
      rw [hrecovery] at hdead hreleased
      cases ok with
      | true =>
        simp only [Handoff.recoverStep, halive, hrecovery, Option.ite_none_right_eq_some] at hs
        obtain ⟨-, hs⟩ := hs
        cases hs
        exact hinv.recovers (hdead fun hh => hh) (hreleased (by simp)) .bindingApi
          (fun hh => hh) _ _ _ _
      | false =>
        simp only [Handoff.recoverStep, halive, hrecovery, Option.some.injEq] at hs
        cases hs
        exact hinv.resume true (hdead fun hh => hh) (hreleased (by simp))
    | bindingApi =>
      rw [hrecovery] at hdead hreleased
      cases ok with
      | true =>
        simp only [Handoff.recoverStep, halive, hrecovery, Option.ite_none_right_eq_some] at hs
        obtain ⟨-, hs⟩ := hs
        cases hs
        exact hinv.recovers (hdead fun hh => hh) (hreleased (by simp)) .bindingClient
          (fun hh => hh) _ _ _ _
      | false =>
        simp only [Handoff.recoverStep, halive, hrecovery, Option.some.injEq] at hs
        cases hs
        exact hinv.resume true (hdead fun hh => hh) (hreleased (by simp))
    | bindingClient =>
      rw [hrecovery] at hdead hreleased
      cases ok with
      | true =>
        simp only [Handoff.recoverStep, halive, hrecovery, Option.ite_none_right_eq_some] at hs
        obtain ⟨-, hs⟩ := hs
        cases hs
        exact hinv.resume false (hdead fun hh => hh) (hreleased (by simp))
      | false =>
        simp only [Handoff.recoverStep, halive, hrecovery, Option.some.injEq] at hs
        cases hs
        exact hinv.resume true (hdead fun hh => hh) (hreleased (by simp))
    | resuming paused restoreFailed =>
      rw [hrecovery] at hdead hreleased
      cases paused with
      | nil =>
        cases ok with
        | true =>
          simp only [Handoff.recoverStep, halive, hrecovery, Option.some.injEq] at hs
          cases hs
          exact hinv.recovers (hdead fun hh => hh) (hreleased (by simp)) (.failed restoreFailed)
            (fun hh => hh) _ _ _ _
        | false => simp [Handoff.recoverStep, halive, hrecovery] at hs
      | cons terminalId paused =>
        simp only [Handoff.recoverStep, halive, hrecovery, Option.some.injEq] at hs
        cases hs
        exact hinv.recovers (hdead fun hh => hh) (hreleased (by simp))
          (.resuming paused restoreFailed) (fun hh => hh)
          _ _ _ _

lemma Inv.sourceCrash (hinv : h.Inv) (hs : h.sourceCrash = some h') : h'.Inv := by
  rw [Handoff.sourceCrash, Option.ite_none_right_eq_some] at hs
  obtain ⟨-, hs⟩ := hs
  cases hs
  exact hinv.ofRecovery h.source.recovery _ _ _ _ hinv.released (fun hh => ⟨hh, rfl⟩)
    fun ha => ⟨(hinv.spawned ha).2, socketWithout_eq_of_ne (by simp),
      socketWithout_eq_of_ne (by simp)⟩

/-- A server that takes a request has neither committed a handoff nor left an import server
alive. -/
lemma Inv.of_acceptsRequest (hinv : h.Inv) (haccepts : h.acceptsRequest) :
    ¬ h.importer.alive ∧ ¬ h.source.Released := by
  unfold acceptsRequest at haccepts
  rw [Bool.and_eq_true] at haccepts
  cases hrecovery : h.source.recovery with
  | failed restoreFailed =>
    constructor
    · apply hinv.not_alive_of_not_holding
      unfold SourceServer.Holding
      rw [hrecovery]
      exact fun hh => hh
    · intro hr
      rw [hinv.released hr] at hrecovery
      cases hrecovery
  | none =>
    cases hphase : h.source.phase with
    | idle =>
      constructor
      · intro ha
        have hspawned := (hinv.spawned ha).1
        unfold SourceServer.Spawned at hspawned
        rw [hphase] at hspawned
        exact hspawned
      · simp [SourceServer.Released, hphase]
    | _ => simp [hrecovery, hphase] at haccepts
  | _ =>
    cases hphase : h.source.phase <;> simp [hrecovery, hphase] at haccepts

lemma Inv.request (hinv : h.Inv) {r : LiveHandoffRequest} {bound : Bool}
    (hs : h.request r bound = some h') : h'.Inv := by
  rw [Handoff.request] at hs
  by_cases haccepts : h.acceptsRequest
  · obtain ⟨hdead, hreleased⟩ := hinv.of_acceptsRequest haccepts
    simp only [haccepts, Bool.not_true, Bool.false_eq_true, if_false] at hs
    cases bound with
    | false =>
      cases hs
      exact hinv.ofRecovery h.source.recovery _ _ _ _ hinv.released (fun hh => ⟨hh, rfl⟩)
        fun ha => (hdead ha).elim
    | true =>
      simp only [Bool.not_true, Bool.false_eq_true, if_false] at hs
      split at hs
      · cases hs
        exact hinv
      · cases hs
        constructor
        · intro i hi
          rcases List.mem_cons.mp hi with rfl | hi
          · exact hdead
          · exact hinv.leftover_dead i hi
        · simp [ImportServer.notSpawned]
        · intro _ terminalId _ hpane
          exact .inr hpane
        · exact fun _ => ⟨rfl, rfl, rfl, rfl⟩
        · exact fun hspawned => hspawned.elim
        · exact fun hspawned => hspawned.elim
        · simp [ImportServer.notSpawned]
        · simp [ImportServer.notSpawned]
        · intro terminalId hmem
          exact (hreleased (hinv.terminated terminalId hmem).1).elim
        · exact fun hr => hr.elim
  · simp [haccepts] at hs

theorem Inv.step (hinv : h.Inv) {e : HandoffEvent} (hs : Step h e h') : h'.Inv := by
  cases e with
  | request r bound => exact hinv.request hs
  | source ok => exact hinv.sourceStep hs
  | recover ok => exact hinv.recoverStep hs
  | importer ok => exact hinv.importStep hs
  | sourceCrashes => exact hinv.sourceCrash hs
  | importerCrashes => exact hinv.importCrash hs

lemma Serving.inv (hserving : h.Serving) : h.Inv where
  leftover_dead := by
    rw [hserving.leftover_eq]
    simp
  spawned ha := (hserving.importer_dead ha).elim
  source_ok := by
    unfold SourceServer.Ok
    rw [hserving.phase_eq]
    trivial
  fresh hprep := by
    unfold SourceServer.Preparing at hprep
    rw [hserving.phase_eq] at hprep
    exact hprep.elim
  talks hspawned := by
    unfold SourceServer.Spawned at hspawned
    rw [hserving.phase_eq] at hspawned
    exact hspawned.elim
  import_ok hspawned := by
    unfold SourceServer.Spawned at hspawned
    rw [hserving.phase_eq] at hspawned
    exact hspawned.elim
  api_eq ha := (hserving.importer_dead ha).elim
  client_eq ha := (hserving.importer_dead ha).elim
  terminated := by
    rw [hserving.terminated_eq]
    simp
  released _ := hserving.recovery_eq

/-- The invariant holds in every state a serving server comes to. -/
theorem inv_of_run {h₀ h : Handoff} {es : List HandoffEvent} (hserving : h₀.Serving)
    (hrun : Run Step h₀ es h) : h.Inv :=
  hrun.invariant (fun _ _ _ hinv hs => hinv.step hs) hserving.inv

/-! ### Who reads -/

/-- The import server reads PTYs of the manifest only. -/
lemma Inv.reading_entries (hinv : h.Inv) (ha : h.importer.alive) {terminalId : TerminalId}
    (hmem : terminalId ∈ h.importer.reading) :
    ∃ e ∈ h.source.handoffEntries, e.1 = terminalId := by
  have hok := hinv.import_ok (hinv.spawned ha).1
  have hreached : h.importer.Reached (.unpausing []) := by
    by_contra hnot
    rw [hok.reading_eq hnot] at hmem
    cases hmem
  have himports := hok.imports_eq (le_trans (by decide) hreached)
  obtain ⟨pane, hpane⟩ : ∃ pane, h.importer.imports.lookup pane = some terminalId := by
    obtain ⟨⟨pane, t⟩, he, rfl⟩ := List.mem_map.mp (hok.reading_sub _ hmem)
    exact ⟨pane, AList.mem_lookup_iff.mpr he⟩
  rw [himports] at hpane
  obtain ⟨e, he, hswap⟩ := List.mem_map.mp (Table.mem_of_lookup_collect hpane)
  exact ⟨e, he, (Prod.ext_iff.mp hswap).2⟩

/-! ### A server with one pane -/

lemma run_of_foldlM {h h' : Handoff} {es : List HandoffEvent}
    (hes : es.foldlM Handoff.next h = some h') : Run Step h es h' := by
  induction es generalizing h with
  | nil =>
    cases hes
    exact .nil _
  | cons e es ih =>
    rw [List.foldlM_cons] at hes
    obtain ⟨m, hm, hes⟩ := Option.bind_eq_some_iff.mp hes
    exact .cons hm (ih hes)

def onePaneApp : RunningApp where
  workspaces := [.fromExistingPane "w1" none none ⟨⟨7⟩, .new ⟨"t7"⟩⟩]
  terminals := ∅
  active := some 0
  selected := 0

/-- The new server's surroundings: every runtime starts. -/
def importSurroundings : RestoreContext where
  resumeAgentsOnRestore := true
  spawns := fun _ => true
  allocTerminal := fun n => ⟨toString n⟩
  worktreeIsCurrent := fun _ => true
  generateWorkspaceId := fun n => toString n
  now := fun _ => 0
  suppressedAt := fun _ => 0

def updateRequest : LiveHandoffRequest where
  app := onePaneApp
  runtimes := [⟨"t7"⟩]
  expectedProtocol := some 2
  expectedVersion := none
  token := "1-1"
  importer := ⟨⟨"2.0", 2⟩, importSurroundings, 1, 0, 1⟩

def servingServer : Handoff where
  source :=
    { build := ⟨"1.0", 1⟩
      app := onePaneApp
      alive := true
      phase := .idle
      recovery := .none
      runtimes := [⟨"t7"⟩]
      quiesced := []
      paneByTerminal := ∅
      pausedTerminalIds := []
      handoffEntries := []
      manifest := manifestFor ⟨"1.0", 1⟩ ⟨[], none, 0⟩ [] none none
      fds := []
      handoffInProgress := false }
  importer := .notSpawned updateRequest.importer
  leftover := []
  token := ""
  toSource := []
  toImporter := []
  listening := false
  connected := false
  apiSocket := some .source
  clientSocket := some .source
  terminated := []

lemma servingServer_serving : servingServer.Serving :=
  ⟨rfl, rfl, rfl, rfl, rfl, by simp [servingServer, ImportServer.notSpawned], rfl, rfl, rfl, rfl⟩

/-- A handoff up to where the import server has reported that it is ready. -/
def readyEvents : List HandoffEvent :=
  .request updateRequest true :: List.replicate 5 (.source true) ++
    List.replicate 2 (.importer true) ++ List.replicate 3 (.source true) ++
    List.replicate 2 (.importer true) ++ List.replicate 2 (.source true) ++
    List.replicate 3 (.importer true) ++ List.replicate 3 (.source true) ++
    List.replicate 4 (.importer true)

/-- It is committed, and the import server reads. -/
def committedEvents : List HandoffEvent :=
  readyEvents ++ List.replicate 2 (.source true) ++ List.replicate 3 (.importer true)

def afterEvents (es : List HandoffEvent) : Handoff :=
  (es.foldlM Handoff.next servingServer).getD servingServer

lemma run_afterEvents {es : List HandoffEvent}
    (hes : (es.foldlM Handoff.next servingServer).isSome) :
    Run Step servingServer es (afterEvents es) := by
  apply run_of_foldlM
  obtain ⟨h, hh⟩ := Option.isSome_iff_exists.mp hes
  rw [afterEvents, hh]
  rfl

/-- Whatever fails and whoever crashes, no PTY has two readers. -/
theorem single_reader {h₀ h : Handoff} {es : List HandoffEvent} (hserving : h₀.Serving)
    (hrun : Run Step h₀ es h) (terminalId : TerminalId) :
    ¬ (h.SourceReads terminalId ∧ h.ImporterReads terminalId) := by
  have hinv := inv_of_run hserving hrun
  rintro ⟨⟨-, -, hnot⟩, hreads⟩
  rcases hreads with ⟨ha, hmem⟩ | ⟨i, hi, ha, -⟩
  · obtain ⟨hspawned, hholding⟩ := hinv.spawned ha
    obtain ⟨e, he, rfl⟩ := hinv.reading_entries ha hmem
    exact hnot (hinv.source_ok.quiesced hspawned hholding e he)
  · exact hinv.leftover_dead i hi ha

/-- The import server reads the PTY of a pane that the source server still holds. -/
theorem single_reader_committed :
    (afterEvents committedEvents).ImporterReads ⟨"t7"⟩ ∧
    ∀ terminalId, ¬ ((afterEvents committedEvents).SourceReads terminalId ∧
      (afterEvents committedEvents).ImporterReads terminalId) :=
  ⟨.inl (by decide),
    single_reader servingServer_serving (run_afterEvents (by decide))⟩

end Handoff

end Ork3.Server
