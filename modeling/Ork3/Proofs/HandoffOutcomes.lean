import Ork3.Proofs.LiveHandoff

/-!
# How a handoff ends

Either the import server has restored every pane before it learns of the commit, or it is dead and
the source server goes on with the panes it had.
-/

namespace Ork3.Server

open Ork3.Library Ork3.Persist

/-! ### The commit -/

section
variable {a b : List HandoffLine} {toSource toImporter : List HandoffMessage} {m : HandoffMessage}

lemma Talks.unheard_importer {post : List HandoffLine} (h : Talks a b toSource toImporter)
    (hsuffix : (.left, m) :: post <:+ a) : (.left, m) :: post <:+ b :=
  Dialogue.Coherent.unheard (p := .left) h hsuffix

lemma Talks.unheard_source {post : List HandoffLine} (h : Talks a b toSource toImporter)
    (hsuffix : (.right, m) :: post <:+ b) : (.right, m) :: post <:+ a :=
  Dialogue.Coherent.unheard (p := .right) h hsuffix

end

lemma committedLines_suffix_readyLines : committedLines <:+ readyLines :=
  List.suffix_cons _ _

lemma readyLines_suffix_restoredLines : readyLines <:+ restoredLines :=
  List.suffix_cons _ _

lemma readyLines_suffix_fdsLines (entries : List (TerminalId × UInt32)) :
    readyLines <:+ fdsLines entries := by
  rw [fdsLines]
  split
  · exact readyLines_suffix_restoredLines
  · exact readyLines_suffix_restoredLines.trans (List.suffix_cons _ _)

lemma readyLines_suffix_validatedLines (entries : List (TerminalId × UInt32)) :
    readyLines <:+ validatedLines entries :=
  (readyLines_suffix_fdsLines entries).trans (List.suffix_cons _ _)

lemma SourceServer.readyLines_suffix_manifestLines (s : SourceServer) :
    readyLines <:+ s.manifestLines :=
  (readyLines_suffix_validatedLines _).trans (List.suffix_cons _ _)

lemma SourceServer.readyLines_suffix_script (s : SourceServer) (token : String) :
    readyLines <:+ s.script token :=
  s.readyLines_suffix_manifestLines.trans (List.suffix_cons _ _)

/-- Before the commit the source server has it to say. -/
lemma SourceServer.committedLines_suffix_rest {s : SourceServer} (hnot : ¬ s.Released)
    (token : String) : committedLines <:+ s.rest token := by
  have hready := committedLines_suffix_readyLines
  unfold SourceServer.Released at hnot
  unfold SourceServer.rest
  cases hphase : s.phase <;> rw [hphase] at hnot <;>
    simp only [not_true_eq_false, not_false_eq_true] at hnot ⊢
  case sendingManifest => exact hready.trans s.readyLines_suffix_manifestLines
  case validating => exact hready.trans (readyLines_suffix_validatedLines _)
  case sendingFds => exact hready.trans (readyLines_suffix_fdsLines _)
  case restoring => exact hready.trans readyLines_suffix_restoredLines
  case unlinkingApi | unlinkingClient | readying => exact hready
  all_goals exact hready.trans (s.readyLines_suffix_script token)

/-- Until it has reported that it is ready, the import server has that to say. -/
lemma ImportServer.readyLines_suffix_rest {i : ImportServer} (s : SourceServer)
    (hnot : ¬ i.Reached .awaitingCommit) (token : String) : readyLines <:+ i.rest s token := by
  rw [ImportServer.Reached] at hnot
  unfold ImportServer.rest
  cases hphase : i.phase <;> rw [hphase] at hnot <;>
    simp only [ImportPhase.position, Nat.reduceLeDiff, not_true_eq_false, not_false_eq_true]
      at hnot ⊢
  case receivingManifest => exact s.readyLines_suffix_manifestLines
  case validating => exact readyLines_suffix_validatedLines _
  case receivingFds => exact readyLines_suffix_fdsLines _
  case building | reportingRestored => exact readyLines_suffix_restoredLines
  all_goals exact s.readyLines_suffix_script token

lemma ImportServer.length_rest_le {i : ImportServer} (s : SourceServer)
    (hreached : i.Reached .assuming) (token : String) : (i.rest s token).length ≤ 1 := by
  rw [ImportServer.Reached] at hreached
  unfold ImportServer.rest
  cases hphase : i.phase <;> rw [hphase] at hreached <;>
    simp only [ImportPhase.position, Nat.reduceLeDiff] at hreached ⊢
  case serving reported => cases reported <;> simp [ownedLines]
  all_goals simp [ownedLines]

lemma SourceServer.length_rest_le {s : SourceServer} (hreleased : s.Released) (token : String) :
    (s.rest token).length ≤ 1 := by
  unfold SourceServer.Released at hreleased
  unfold SourceServer.rest
  cases hphase : s.phase <;> rw [hphase] at hreleased <;> simp only at hreleased ⊢
  case done acknowledged => cases acknowledged <;> simp [ownedLines]
  all_goals simp [ownedLines]

lemma SourceServer.spawned_of_released {s : SourceServer} (hreleased : s.Released) :
    s.Spawned := by
  unfold SourceServer.Released at hreleased
  unfold SourceServer.Spawned
  cases hphase : s.phase <;> rw [hphase] at hreleased <;> simp only at hreleased ⊢

namespace Handoff

variable {h₀ h h' : Handoff} {es : List HandoffEvent}

/-- Who has read the commit has a source server that has sent it. -/
lemma Inv.released_of_assuming (hinv : h.Inv) (hspawned : h.source.Spawned)
    (hreached : h.importer.Reached .assuming) : h.source.Released := by
  by_contra hnot
  have hsuffix := (hinv.talks hspawned).unheard_importer
    (SourceServer.committedLines_suffix_rest hnot h.token)
  have hlength := hsuffix.length_le.trans
    (ImportServer.length_rest_le h.source hreached h.token)
  simp [ownedLines] at hlength

/-- Who has committed has an import server that has reported to be ready. -/
lemma Inv.awaitingCommit_of_released (hinv : h.Inv) (hreleased : h.source.Released) :
    h.importer.Reached .awaitingCommit := by
  by_contra hnot
  have hspawned := SourceServer.spawned_of_released hreleased
  have hsuffix := (hinv.talks hspawned).unheard_source
    (ImportServer.readyLines_suffix_rest h.source hnot h.token)
  have hlength := hsuffix.length_le.trans (SourceServer.length_rest_le hreleased h.token)
  simp [committedLines, ownedLines] at hlength

/-- What the source server may rely on when it has committed. -/
structure Agreed (h : Handoff) : Prop where
  accepts : h.importer.start.build.accepts h.source.manifest
  panes_eq : h.source.manifest.panes = h.source.handoffEntries.map Prod.snd
  attached : ∀ e ∈ h.source.handoffEntries, h.source.paneByTerminal.lookup e.1 = some e.2
  imports_eq : h.importer.imports = Table.collect (h.source.handoffEntries.map Prod.swap)
  restored : h.importer.session.isSome
  session_eq : h.importer.session =
    restoreHandoff h.importer.start h.source.manifest.snapshot h.importer.imports
  answers : h.importer.alive → h.apiSocket = some .importer ∧ h.clientSocket = some .importer

/-- An import server reads or owns processes only after the commit, and the commit is sent only to
one that accepts the manifest, has restored the session with every pane's own PTY and, unless it is
gone, answers on both public sockets. -/
theorem commit_agreement (hserving : h₀.Serving) (hrun : Run Step h₀ es h) :
    (h.importer.alive → (h.importer.ownsProcesses ∨ h.importer.reading ≠ []) →
      h.source.Released) ∧
    (h.source.Released → h.Agreed) := by
  have hinv := inv_of_run hserving hrun
  constructor
  · intro ha howns
    have hspawned := (hinv.spawned ha).1
    have hok := hinv.import_ok hspawned
    have hreached : h.importer.Reached (.unpausing []) := by
      rcases howns with howns | hreading
      · exact hok.owns_iff.mp howns
      · by_contra hnot
        exact hreading (hok.reading_eq hnot)
    exact hinv.released_of_assuming hspawned (le_trans (by decide) hreached)
  · intro hreleased
    have hspawned := SourceServer.spawned_of_released hreleased
    have hok := hinv.import_ok hspawned
    have hreached := hinv.awaitingCommit_of_released hreleased
    have hrestored : h.importer.Reached .reportingRestored := le_trans (by decide) hreached
    refine ⟨(hok.manifest_eq (le_trans (by decide) hreached)).2,
      hinv.source_ok.panes_eq hspawned, hinv.source_ok.attached hspawned, hok.imports_eq hrestored,
      (hok.session_eq hrestored).1, (hok.session_eq hrestored).2, ?_⟩
    intro ha
    exact ⟨hinv.api_eq ha (le_trans (by decide) hreached),
      hinv.client_eq ha (le_trans (by decide) hreached)⟩

theorem commit_agreement_onePane :
    (afterEvents committedEvents).source.Released ∧ (afterEvents committedEvents).Agreed := by
  have hboth := commit_agreement servingServer_serving
    (@run_afterEvents committedEvents (by decide))
  have hreleased := hboth.1 (by decide) (.inl (by decide))
  exact ⟨hreleased, hboth.2 hreleased⟩

end Handoff

/-! ### A handoff that fails -/

/-- The terminals that may have stopped reading. -/
def SourceServer.stopped (s : SourceServer) : List TerminalId :=
  match s.recovery with
  | .resuming paused _ => paused
  | .failed _ => []
  | _ =>
    match s.phase with
    | .idle => []
    | _ => s.pausedTerminalIds

/-- The source server has not given up the public sockets, or has them back. -/
def SourceServer.Answers (s : SourceServer) : Prop :=
  match s.recovery with
  | .resuming _ _ | .failed _ => True
  | .none | .killing =>
    match s.phase with
    | .unlinkingClient | .readying | .committing | .releasing _ | .acknowledging | .done _ => False
    | _ => True
  | _ => False

namespace Handoff

variable {h₀ h h' : Handoff} {es : List HandoffEvent}

/-- What holds while every operation of a recovery succeeds. -/
structure Recoverable (h : Handoff) : Prop where
  quiesced_sub : ∀ terminalId ∈ h.source.quiesced, terminalId ∈ h.source.stopped
  sockets : h.source.alive → h.source.Answers →
    h.apiSocket = some .source ∧ h.clientSocket = some .source
  rebound : h.source.alive → h.source.recovery = .bindingClient → h.apiSocket = some .source
  killed : h.source.recovery = .killing → h.source.phase ≠ .unlinkingClient
  kept : ¬ h.source.Released → ∀ e ∈ h.source.handoffEntries, e.1 ∈ h.source.runtimes
  ended : ∀ restoreFailed, h.source.recovery = .failed restoreFailed →
    h.source.handoffInProgress = false

/-- An operation of the import server takes no socket that the source server answers on. -/
lemma Recoverable.ofImporter (hrec : h.Recoverable) (hsource : h'.source = h.source)
    (hapi : h.apiSocket = some .source → h'.apiSocket = some .source)
    (hclient : h.clientSocket = some .source → h'.clientSocket = some .source) :
    h'.Recoverable := by
  constructor
  · rw [hsource]
    exact hrec.quiesced_sub
  · rw [hsource]
    intro ha hanswers
    obtain ⟨ha', hc'⟩ := hrec.sockets ha hanswers
    exact ⟨hapi ha', hclient hc'⟩
  · rw [hsource]
    exact fun ha hbinding => hapi (hrec.rebound ha hbinding)
  · rw [hsource]
    exact hrec.killed
  · rw [hsource]
    exact hrec.kept
  · rw [hsource]
    exact hrec.ended

lemma Recoverable.gone (hrec : h.Recoverable) : h.importerGone.Recoverable :=
  hrec.ofImporter rfl (socketWithout_eq_of_ne (by simp)) (socketWithout_eq_of_ne (by simp))

/-- What an operation of the import server leaves alone. -/
structure ImporterFrame (h h' : Handoff) : Prop where
  source_eq : h'.source = h.source
  apiSocket_eq : h.apiSocket = some .source → h'.apiSocket = some .source
  clientSocket_eq : h.clientSocket = some .source → h'.clientSocket = some .source

lemma importSucceeds_frame (hs : h.importSucceeds = some h') : ImporterFrame h h' := by
  have hsame (h' : Handoff) (hsource : h'.source = h.source) (hapi : h'.apiSocket = h.apiSocket)
      (hclient : h'.clientSocket = h.clientSocket) : ImporterFrame h h' :=
    ⟨hsource, fun ha => hapi.trans ha, fun hc => hclient.trans hc⟩
  unfold Handoff.importSucceeds at hs
  repeat' split at hs
  all_goals simp only [reduceCtorEq, Option.some.injEq, Option.map_eq_some_iff] at hs
  all_goals try (subst hs; exact hsame _ rfl rfl rfl)
  -- what is left: the restore and the two binds
  · obtain ⟨session, -, rfl⟩ := hs
    exact hsame _ rfl rfl rfl
  · rename_i hnone
    subst hs
    refine ⟨rfl, fun ha => ?_, fun hc => hc⟩
    simp [ha] at hnone
  · rename_i hnone
    subst hs
    refine ⟨rfl, fun ha => ha, fun hc => ?_⟩
    simp [hc] at hnone

lemma importFails_frame (hs : h.importFails = some h') : ImporterFrame h h' := by
  unfold Handoff.importFails at hs
  split at hs <;> cases hs
  case h_5 => exact ⟨rfl, fun ha => ha, fun hc => hc⟩
  case h_6 => exact ⟨rfl, fun ha => ha, fun hc => hc⟩
  all_goals
    exact ⟨rfl, socketWithout_eq_of_ne (by simp), socketWithout_eq_of_ne (by simp)⟩

lemma importStep_frame {ok : Bool} (hs : h.importStep ok = some h') : ImporterFrame h h' := by
  rw [Handoff.importStep, Option.ite_none_right_eq_some] at hs
  obtain ⟨-, hs⟩ := hs
  cases ok with
  | true => exact importSucceeds_frame hs
  | false => exact importFails_frame hs

lemma Recoverable.quiesced_paused (hrec : h.Recoverable) (hholding : h.source.Holding) :
    ∀ terminalId ∈ h.source.quiesced, terminalId ∈ h.source.pausedTerminalIds := by
  intro terminalId hmem
  have hold := hrec.quiesced_sub terminalId hmem
  unfold SourceServer.Holding at hholding
  unfold SourceServer.stopped at hold
  cases hrecovery : h.source.recovery <;> rw [hrecovery] at hold hholding <;>
    simp only at hold hholding
  all_goals cases hphase : h.source.phase <;> simp_all

/-- What an operation of the source server has to show. -/
lemma Recoverable.ofSource (hrec : h.Recoverable) (hrecovery : h'.source.recovery = .none)
    (halive : h'.source.alive = h.source.alive) (hidle : h'.source.phase ≠ .idle)
    (hquiesced : ∀ terminalId ∈ h'.source.quiesced, terminalId ∈ h'.source.pausedTerminalIds)
    (hanswers : h'.source.Answers → h.source.Answers ∧ h'.apiSocket = h.apiSocket ∧
      h'.clientSocket = h.clientSocket)
    (hkept : ¬ h'.source.Released →
      ∀ e ∈ h'.source.handoffEntries, e.1 ∈ h'.source.runtimes) : h'.Recoverable := by
  constructor
  · intro terminalId hmem
    unfold SourceServer.stopped
    rw [hrecovery]
    cases hphase : h'.source.phase with
    | idle => exact (hidle hphase).elim
    | _ => exact hquiesced terminalId hmem
  · intro ha hans
    obtain ⟨hold, hapi, hclient⟩ := hanswers hans
    rw [hapi, hclient]
    rw [halive] at ha
    exact hrec.sockets ha hold
  · intro _ hbinding
    rw [hrecovery] at hbinding
    cases hbinding
  · intro hkilling
    rw [hrecovery] at hkilling
    cases hkilling
  · exact hkept
  · intro restoreFailed hfailed
    rw [hrecovery] at hfailed
    cases hfailed

/-- An operation of the source server that only goes on. -/
lemma Recoverable.sourceMoves (hrec : h.Recoverable) (hrecovery : h.source.recovery = .none)
    (phase : SourcePhase) (hidle : phase ≠ .idle) (listening : Bool)
    {toSource toImporter : List HandoffMessage} {apiSocket clientSocket : Option Party}
    (hanswers : (h.sourceAt phase).source.Answers →
      h.source.Answers ∧ apiSocket = h.apiSocket ∧ clientSocket = h.clientSocket)
    (hreleased : ¬ (h.sourceAt phase).source.Released → ¬ h.source.Released) :
    Recoverable { h.sourceAt phase with
      listening := listening
      toSource := toSource
      toImporter := toImporter
      apiSocket := apiSocket
      clientSocket := clientSocket } := by
  have hholding : h.source.Holding := by
    unfold SourceServer.Holding
    rw [hrecovery]
    trivial
  exact hrec.ofSource hrecovery rfl hidle (hrec.quiesced_paused hholding) hanswers
    fun hnot => hrec.kept (hreleased hnot)

lemma Recoverable.sourceSucceeds (hrec : h.Recoverable) (hrecovery : h.source.recovery = .none)
    (hs : h.sourceSucceeds = some h') : h'.Recoverable := by
  have hholding : h.source.Holding := by
    unfold SourceServer.Holding
    rw [hrecovery]
    trivial
  have hpaused := hrec.quiesced_paused hholding
  have hmove := hrec.sourceMoves hrecovery
  cases hphase : h.source.phase with
  | idle | done acknowledged => simp [Handoff.sourceSucceeds, hphase] at hs
  | pausing keys =>
    have hanswers : h.source.Answers := by
      unfold SourceServer.Answers
      rw [hrecovery, hphase]
      trivial
    have hnot : ¬ h.source.Released := by simp [SourceServer.Released, hphase]
    cases keys with
    | nil =>
      simp only [Handoff.sourceSucceeds, hphase] at hs
      cases hs
      exact hmove .spawning (by simp) _ (fun _ => ⟨hanswers, rfl, rfl⟩) fun _ => hnot
    | cons terminalId keys =>
      simp only [Handoff.sourceSucceeds, hphase] at hs
      by_cases hmem : terminalId ∈ h.source.runtimes
      · rw [if_pos hmem] at hs
        cases hs
        refine hrec.ofSource hrecovery rfl (by simp) ?_ (fun _ => ⟨hanswers, rfl, rfl⟩)
          fun _ => hrec.kept hnot
        intro t ht
        rcases List.mem_cons.mp ht with rfl | ht
        · simp
        · exact List.mem_append_left _ (hpaused t ht)
      · rw [if_neg hmem] at hs
        cases hs
        exact hmove (.pausing keys) (by simp) _ (fun _ => ⟨hanswers, rfl, rfl⟩) fun _ => hnot
  | spawning =>
    simp only [Handoff.sourceSucceeds, hphase] at hs
    cases hs
    refine hrec.ofSource hrecovery rfl (by simp) hpaused ?_
      fun _ e he => (mem_handoffEntries.mp he).1
    intro _
    refine ⟨?_, rfl, rfl⟩
    unfold SourceServer.Answers
    rw [hrecovery, hphase]
    trivial
  | duplicating entries =>
    have hanswers : h.source.Answers := by
      unfold SourceServer.Answers
      rw [hrecovery, hphase]
      trivial
    have hnot : ¬ h.source.Released := by simp [SourceServer.Released, hphase]
    cases entries with
    | nil =>
      simp only [Handoff.sourceSucceeds, hphase] at hs
      cases hs
      exact hmove .accepting (by simp) _ (fun _ => ⟨hanswers, rfl, rfl⟩) fun _ => hnot
    | cons entry entries =>
      simp only [Handoff.sourceSucceeds, hphase] at hs
      split at hs
      · cases hs
        exact hmove (.duplicating entries) (by simp) _ (fun _ => ⟨hanswers, rfl, rfl⟩)
          fun _ => hnot
      · rw [Option.ite_none_right_eq_some] at hs
        obtain ⟨-, hs⟩ := hs
        cases hs
        exact hrec.ofSource hrecovery rfl (by simp) hpaused (fun _ => ⟨hanswers, rfl, rfl⟩)
          fun _ => hrec.kept hnot
  | accepting =>
    have hanswers : h.source.Answers := by
      unfold SourceServer.Answers
      rw [hrecovery, hphase]
      trivial
    have hnot : ¬ h.source.Released := by simp [SourceServer.Released, hphase]
    simp only [Handoff.sourceSucceeds, hphase, Option.ite_none_right_eq_some] at hs
    obtain ⟨-, hs⟩ := hs
    cases hs
    exact hmove .authenticating (by simp) _ (fun _ => ⟨hanswers, rfl, rfl⟩)
      fun _ => hnot
  | authenticating =>
    have hanswers : h.source.Answers := by
      unfold SourceServer.Answers
      rw [hrecovery, hphase]
      trivial
    have hnot : ¬ h.source.Released := by simp [SourceServer.Released, hphase]
    obtain ⟨toSource, listening, -, rfl⟩ :=
      sourceSucceeds_reads (.token h.token) .sendingManifest (by rw [hphase]; rfl) hs
    exact hmove .sendingManifest (by simp) listening (fun _ => ⟨hanswers, rfl, rfl⟩) fun _ => hnot
  | sendingManifest =>
    have hanswers : h.source.Answers := by
      unfold SourceServer.Answers
      rw [hrecovery, hphase]
      trivial
    have hnot : ¬ h.source.Released := by simp [SourceServer.Released, hphase]
    simp only [Handoff.sourceSucceeds, hphase] at hs
    cases hs
    exact hmove .validating (by simp) _ (fun _ => ⟨hanswers, rfl, rfl⟩)
      fun _ => hnot
  | validating =>
    have hanswers : h.source.Answers := by
      unfold SourceServer.Answers
      rw [hrecovery, hphase]
      trivial
    have hnot : ¬ h.source.Released := by simp [SourceServer.Released, hphase]
    obtain ⟨toSource, listening, -, rfl⟩ :=
      sourceSucceeds_reads .validated .sendingFds (by rw [hphase]; rfl) hs
    exact hmove .sendingFds (by simp) listening (fun _ => ⟨hanswers, rfl, rfl⟩) fun _ => hnot
  | sendingFds =>
    have hanswers : h.source.Answers := by
      unfold SourceServer.Answers
      rw [hrecovery, hphase]
      trivial
    have hnot : ¬ h.source.Released := by simp [SourceServer.Released, hphase]
    simp only [Handoff.sourceSucceeds, hphase, Option.ite_none_left_eq_some] at hs
    obtain ⟨-, hs⟩ := hs
    split at hs
    · cases hs
      exact hmove .restoring (by simp) _ (fun _ => ⟨hanswers, rfl, rfl⟩) fun _ => hnot
    · cases hs
      exact hmove .restoring (by simp) _ (fun _ => ⟨hanswers, rfl, rfl⟩) fun _ => hnot
  | restoring =>
    have hanswers : h.source.Answers := by
      unfold SourceServer.Answers
      rw [hrecovery, hphase]
      trivial
    have hnot : ¬ h.source.Released := by simp [SourceServer.Released, hphase]
    obtain ⟨toSource, listening, -, rfl⟩ :=
      sourceSucceeds_reads .restored .unlinkingApi (by rw [hphase]; rfl) hs
    exact hmove .unlinkingApi (by simp) listening (fun _ => ⟨hanswers, rfl, rfl⟩) fun _ => hnot
  | unlinkingApi =>
    have hnot : ¬ h.source.Released := by simp [SourceServer.Released, hphase]
    simp only [Handoff.sourceSucceeds, hphase] at hs
    cases hs
    exact hmove .unlinkingClient (by simp)
      _ (fun hans => by simp [SourceServer.Answers, sourceAt, hrecovery] at hans)
      fun _ => hnot
  | unlinkingClient =>
    have hnot : ¬ h.source.Released := by simp [SourceServer.Released, hphase]
    simp only [Handoff.sourceSucceeds, hphase] at hs
    cases hs
    exact hmove .readying (by simp)
      _ (fun hans => by simp [SourceServer.Answers, sourceAt, hrecovery] at hans)
      fun _ => hnot
  | readying =>
    have hnot : ¬ h.source.Released := by simp [SourceServer.Released, hphase]
    obtain ⟨toSource, listening, -, rfl⟩ :=
      sourceSucceeds_reads .ready .committing (by rw [hphase]; rfl) hs
    exact hmove .committing (by simp) listening
      (fun hans => by simp [SourceServer.Answers, sourceAt, hrecovery] at hans)
      fun _ => hnot
  | committing =>
    have hnot : ¬ h.source.Released := by simp [SourceServer.Released, hphase]
    simp only [Handoff.sourceSucceeds, hphase] at hs
    cases hs
    exact hmove (.releasing h.source.runtimes) (by simp)
      _ (fun hans => by simp [SourceServer.Answers, sourceAt, hrecovery] at hans)
      fun _ => hnot
  | releasing drained =>
    cases drained with
    | nil =>
      simp only [Handoff.sourceSucceeds, hphase] at hs
      cases hs
      exact hmove .acknowledging (by simp) _
        (fun hans => by simp [SourceServer.Answers, sourceAt, hrecovery] at hans)
        fun hnot => (hnot trivial).elim
    | cons terminalId drained =>
      simp only [Handoff.sourceSucceeds, hphase] at hs
      cases hs
      exact hrec.ofSource hrecovery rfl (by simp) hpaused
        (fun hans => by simp [SourceServer.Answers, hrecovery] at hans)
        fun hnot => (hnot trivial).elim
  | acknowledging =>
    obtain ⟨toSource, listening, -, rfl⟩ :=
      sourceSucceeds_reads .owned (.done true) (by rw [hphase]; rfl) hs
    exact hmove (.done true) (by simp) listening
      (fun hans => by simp [SourceServer.Answers, sourceAt, hrecovery] at hans)
      fun hnot => (hnot trivial).elim

lemma Recoverable.sourceFails (hrec : h.Recoverable) (hrecovery : h.source.recovery = .none)
    (hs : h.sourceFails = some h') : h'.Recoverable := by
  have hholding : h.source.Holding := by
    unfold SourceServer.Holding
    rw [hrecovery]
    trivial
  have hpaused := hrec.quiesced_paused hholding
  have hmove := hrec.sourceMoves hrecovery
  have hresume (hanswers : h.source.Answers) : (h.resume false).Recoverable := by
    refine ⟨hpaused, fun ha _ => hrec.sockets ha hanswers, ?_, ?_, hrec.kept, ?_⟩
    · exact fun _ hbinding => by cases hbinding
    · exact fun hkilling => by cases hkilling
    · exact fun _ hfailed => by cases hfailed
  have hkill (hidle : h.source.phase ≠ .idle) (hunlinked : h.source.phase ≠ .unlinkingClient) :
      (h.recoverWith .killing).Recoverable := by
    refine ⟨?_, ?_, ?_, fun _ => hunlinked, hrec.kept, ?_⟩
    · intro t ht
      have hold := hrec.quiesced_sub t ht
      unfold SourceServer.stopped at hold ⊢
      rw [hrecovery] at hold
      exact hold
    · intro ha hans
      apply hrec.sockets ha
      unfold SourceServer.Answers at hans ⊢
      rw [hrecovery]
      exact hans
    · exact fun _ hbinding => by cases hbinding
    · exact fun _ hfailed => by cases hfailed
  cases hphase : h.source.phase with
  | idle | done acknowledged => simp [Handoff.sourceFails, hphase] at hs
  | pausing keys =>
    cases keys with
    | nil => simp [Handoff.sourceFails, hphase] at hs
    | cons terminalId keys =>
      simp only [Handoff.sourceFails, hphase, Option.ite_none_right_eq_some] at hs
      obtain ⟨-, hs⟩ := hs
      cases hs
      apply hresume
      unfold SourceServer.Answers
      rw [hrecovery, hphase]
      trivial
  | spawning =>
    simp only [Handoff.sourceFails, hphase] at hs
    cases hs
    apply hresume
    unfold SourceServer.Answers
    rw [hrecovery, hphase]
    trivial
  | duplicating entries =>
    cases entries with
    | nil => simp [Handoff.sourceFails, hphase] at hs
    | cons entry entries =>
      simp only [Handoff.sourceFails, hphase] at hs
      cases hs
      exact hkill (by simp [hphase]) (by simp [hphase])
  | releasing drained =>
    cases drained with
    | nil => simp [Handoff.sourceFails, hphase] at hs
    | cons terminalId drained =>
      simp only [Handoff.sourceFails, hphase] at hs
      exact hrec.sourceSucceeds hrecovery hs
  | unlinkingApi =>
    simp only [Handoff.sourceFails, hphase] at hs
    cases hs
    exact hmove .unlinkingClient (by simp) _
      (fun hans => by simp [SourceServer.Answers, sourceAt, hrecovery] at hans)
      fun _ => by simp [SourceServer.Released, hphase]
  | unlinkingClient =>
    simp only [Handoff.sourceFails, hphase] at hs
    cases hs
    exact hmove .readying (by simp) _
      (fun hans => by simp [SourceServer.Answers, sourceAt, hrecovery] at hans)
      fun _ => by simp [SourceServer.Released, hphase]
  | acknowledging =>
    simp only [Handoff.sourceFails, hphase] at hs
    cases hs
    exact hmove (.done false) (by simp) _
      (fun hans => by simp [SourceServer.Answers, sourceAt, hrecovery] at hans)
      fun hnot => (hnot trivial).elim
  | _ =>
    simp only [Handoff.sourceFails, hphase] at hs
    cases hs
    exact hkill (by simp [hphase]) (by simp [hphase])

lemma Recoverable.sourceStep (hrec : h.Recoverable) {ok : Bool}
    (hs : h.sourceStep ok = some h') : h'.Recoverable := by
  unfold Handoff.sourceStep at hs
  split at hs
  · rename_i halive hrecovery
    cases ok with
    | true => exact hrec.sourceSucceeds hrecovery hs
    | false => exact hrec.sourceFails hrecovery hs
  · cases hs

/-- What an operation of the recovery has to show. -/
lemma Recoverable.ofRecovery (hrec : h.Recoverable) (recovery : Recovery)
    (alive inProgress listening : Bool) {quiesced : List TerminalId}
    {apiSocket clientSocket : Option Party}
    (hquiesced : ∀ terminalId ∈ quiesced,
      terminalId ∈ SourceServer.stopped { h.source with recovery := recovery })
    (hsockets : SourceServer.Answers { h.source with recovery := recovery } →
      apiSocket = some .source ∧ clientSocket = some .source)
    (hrebound : recovery = .bindingClient → apiSocket = some .source)
    (hkilling : recovery ≠ .killing)
    (hended : ∀ restoreFailed, recovery = .failed restoreFailed → inProgress = false) :
    Recoverable { h with
      source := { h.source with
        alive := alive
        recovery := recovery
        quiesced := quiesced
        handoffInProgress := inProgress }
      listening := listening
      apiSocket := apiSocket
      clientSocket := clientSocket } :=
  ⟨hquiesced, fun _ => hsockets, fun _ => hrebound, fun hk => (hkilling hk).elim, hrec.kept,
    hended⟩

/-- An operation of the recovery that succeeds. -/
lemma Recoverable.recoverStep (hrec : h.Recoverable) (hinv : h.Inv)
    (hs : h.recoverStep true = some h') : h'.Recoverable := by
  cases halive : h.source.alive with
  | false => simp [Handoff.recoverStep, halive] at hs
  | true =>
    have hquiesced := hrec.quiesced_sub
    have hsockets := hrec.sockets halive
    unfold SourceServer.stopped at hquiesced
    unfold SourceServer.Answers at hsockets
    cases hrecovery : h.source.recovery with
    | none => simp [Handoff.recoverStep, halive, hrecovery] at hs
    | failed restoreFailed => simp [Handoff.recoverStep, halive, hrecovery] at hs
    | killing =>
      have hpaused := hrec.quiesced_paused (by
        unfold SourceServer.Holding
        rw [hrecovery]
        trivial)
      rw [hrecovery] at hquiesced hsockets
      simp only [Handoff.recoverStep, halive, hrecovery, Option.some.injEq] at hs
      split at hs
      · cases hs
        exact hrec.gone.ofRecovery .awaitingSockets _ _ _ hquiesced (fun hans => hans.elim)
          (by simp) (by simp) (by simp)
      · rename_i hgave
        cases hs
        have hheld : h.importerGone.apiSocket = some .source ∧
            h.importerGone.clientSocket = some .source := by
          obtain ⟨hapi, hclient⟩ : h.apiSocket = some .source ∧ h.clientSocket = some .source := by
            apply hsockets
            have hreleased : ¬ h.source.Released := by
              intro hr
              rw [hinv.released hr] at hrecovery
              cases hrecovery
            have hkilled := hrec.killed hrecovery
            unfold gaveUpSockets importerGone at hgave
            unfold SourceServer.Released at hreleased
            cases hphase : h.source.phase <;> simp_all
          exact ⟨socketWithout_eq_of_ne (by simp) hapi, socketWithout_eq_of_ne (by simp) hclient⟩
        exact hrec.gone.ofRecovery (.resuming _ false) _ _ _ hpaused (fun _ => hheld)
          (by simp) (by simp) (by simp)
    | awaitingSockets =>
      rw [hrecovery] at hquiesced
      simp only [Handoff.recoverStep, halive, hrecovery, Option.ite_none_right_eq_some] at hs
      obtain ⟨-, hs⟩ := hs
      cases hs
      exact hrec.ofRecovery .bindingApi _ _ _ hquiesced (fun hans => hans.elim)
        (by simp) (by simp) (by simp)
    | bindingApi =>
      rw [hrecovery] at hquiesced
      simp only [Handoff.recoverStep, halive, hrecovery, Option.ite_none_right_eq_some] at hs
      obtain ⟨-, hs⟩ := hs
      cases hs
      exact hrec.ofRecovery .bindingClient _ _ _ hquiesced (fun hans => hans.elim)
        (fun _ => rfl) (by simp) (by simp)
    | bindingClient =>
      have hapi := hrec.rebound halive hrecovery
      rw [hrecovery] at hquiesced
      simp only [Handoff.recoverStep, halive, hrecovery, Option.ite_none_right_eq_some] at hs
      obtain ⟨-, hs⟩ := hs
      cases hs
      refine hrec.ofRecovery (.resuming _ false) _ _ _ ?_ (fun _ => ⟨hapi, rfl⟩)
        (by simp) (by simp) (by simp)
      intro t ht
      have hold := hquiesced t ht
      cases hphase : h.source.phase <;> simp_all [SourceServer.stopped]
    | resuming paused restoreFailed =>
      rw [hrecovery] at hquiesced hsockets
      have hheld := hsockets trivial
      cases paused with
      | nil =>
        simp only [Handoff.recoverStep, halive, hrecovery, Option.some.injEq] at hs
        cases hs
        exact hrec.ofRecovery (.failed restoreFailed) _ _ _ hquiesced (fun _ => hheld)
          (by simp) (by simp) (fun _ _ => rfl)
      | cons terminalId paused =>
        simp only [Handoff.recoverStep, halive, hrecovery, Option.some.injEq] at hs
        cases hs
        refine hrec.ofRecovery (.resuming paused restoreFailed) _ _ _ ?_ (fun _ => hheld)
          (by simp) (by simp) (by simp)
        intro t ht
        obtain ⟨hmem, hne⟩ := List.mem_filter.mp ht
        exact (List.mem_cons.mp (hquiesced t hmem)).resolve_left (by simpa using hne)

lemma Recoverable.request (hrec : h.Recoverable) {r : LiveHandoffRequest} {bound : Bool}
    (hs : h.request r bound = some h') : h'.Recoverable := by
  rw [Handoff.request] at hs
  by_cases haccepts : h.acceptsRequest
  · have hidle : h.source.Answers ∧ h.source.stopped = [] := by
      unfold acceptsRequest at haccepts
      rw [Bool.and_eq_true] at haccepts
      unfold SourceServer.Answers SourceServer.stopped
      cases hrecovery : h.source.recovery <;> cases hphase : h.source.phase <;>
        simp_all
    simp only [haccepts, Bool.not_true, Bool.false_eq_true, if_false] at hs
    cases bound with
    | false =>
      cases hs
      exact ⟨hrec.quiesced_sub, hrec.sockets, hrec.rebound, hrec.killed, hrec.kept,
        fun _ _ => rfl⟩
    | true =>
      simp only [Bool.not_true, Bool.false_eq_true, if_false] at hs
      split at hs
      · cases hs
        exact hrec
      · cases hs
        refine ⟨?_, fun ha _ => hrec.sockets ha hidle.1, ?_, ?_, ?_, ?_⟩
        · intro t ht
          have hold := hrec.quiesced_sub t ht
          rw [hidle.2] at hold
          cases hold
        · exact fun _ hbinding => by cases hbinding
        · exact fun hkilling => by cases hkilling
        · exact fun _ e he => by cases he
        · exact fun _ hfailed => by cases hfailed
  · simp [haccepts] at hs

lemma Recoverable.sourceCrash (hrec : h.Recoverable) (hs : h.sourceCrash = some h') :
    h'.Recoverable := by
  rw [Handoff.sourceCrash, Option.ite_none_right_eq_some] at hs
  obtain ⟨-, hs⟩ := hs
  cases hs
  exact ⟨hrec.quiesced_sub, fun ha => (by cases ha), fun ha => (by cases ha), hrec.killed,
    hrec.kept, hrec.ended⟩

lemma Recoverable.step (hrec : h.Recoverable) (hinv : h.Inv) {e : HandoffEvent}
    (he : e ≠ .recover false) (hs : Step h e h') : h'.Recoverable := by
  cases e with
  | request r bound => exact hrec.request hs
  | source ok => exact hrec.sourceStep hs
  | recover ok =>
    cases ok with
    | true => exact hrec.recoverStep hinv hs
    | false => exact (he rfl).elim
  | importer ok =>
    have hframe := importStep_frame hs
    exact hrec.ofImporter hframe.source_eq hframe.apiSocket_eq hframe.clientSocket_eq
  | sourceCrashes => exact hrec.sourceCrash hs
  | importerCrashes =>
    rw [Step, Handoff.next, Handoff.importCrash, Option.ite_none_right_eq_some] at hs
    obtain ⟨-, hs⟩ := hs
    cases hs
    exact hrec.gone

lemma Serving.recoverable (hserving : h.Serving) : h.Recoverable := by
  have hphase := hserving.phase_eq
  have hrecovery := hserving.recovery_eq
  refine ⟨?_, fun _ _ => ⟨hserving.api_eq, hserving.client_eq⟩, ?_, ?_, ?_, ?_⟩
  · rw [hserving.quiesced_eq]
    simp
  · intro _ hbinding
    rw [hrecovery] at hbinding
    cases hbinding
  · intro hkilling
    rw [hrecovery] at hkilling
    cases hkilling
  · rw [hserving.handoffEntries_eq]
    simp
  · intro restoreFailed hfailed
    rw [hrecovery] at hfailed
    cases hfailed

/-- After a handoff that failed, if every operation of the recovery succeeded, no import server is
left, and the source server reads every PTY again, answers on both public sockets and has ended no
process. -/
theorem failed_handoff_restores (hserving : h₀.Serving) (hrun : Run Step h₀ es h)
    (hes : ∀ e ∈ es, e ≠ .recover false) {restoreFailed : Bool}
    (hfailed : h.source.recovery = .failed restoreFailed) (halive : h.source.alive) :
    ¬ h.importer.alive ∧ (∀ i ∈ h.leftover, ¬ i.alive) ∧
    (∀ terminalId, h.SourceReads terminalId ↔ terminalId ∈ h.source.runtimes) ∧
    (∀ e ∈ h.source.handoffEntries, e.1 ∈ h.source.runtimes) ∧
    h.apiSocket = some .source ∧ h.clientSocket = some .source ∧
    h.source.handoffInProgress = false ∧ h.terminated = [] := by
  obtain ⟨hinv, hrec⟩ : h.Inv ∧ h.Recoverable := by
    refine @Run.invariant_of_labels _ _ Step (fun h => h.Inv ∧ h.Recoverable) _ ?_ _ _ _ hrun hes
      ⟨hserving.inv, hserving.recoverable⟩
    intro s e t hok hboth hs
    exact ⟨hboth.1.step hs, hboth.2.step hboth.1 hok hs⟩
  have hreleased : ¬ h.source.Released := by
    intro hr
    rw [hinv.released hr] at hfailed
    cases hfailed
  have hdead : ¬ h.importer.alive := by
    apply hinv.not_alive_of_not_holding
    unfold SourceServer.Holding
    rw [hfailed]
    exact fun hh => hh
  have hanswers : h.source.Answers := by
    unfold SourceServer.Answers
    rw [hfailed]
    trivial
  have hnone : ∀ terminalId, terminalId ∉ h.source.quiesced := by
    intro terminalId hmem
    have hstopped := hrec.quiesced_sub terminalId hmem
    unfold SourceServer.stopped at hstopped
    rw [hfailed] at hstopped
    cases hstopped
  obtain ⟨hapi, hclient⟩ := hrec.sockets halive hanswers
  refine ⟨hdead, hinv.leftover_dead, ?_, hrec.kept hreleased, hapi, hclient,
    hrec.ended _ hfailed, ?_⟩
  · intro terminalId
    exact ⟨fun hreads => hreads.2.1, fun hmem => ⟨halive, hmem, hnone terminalId⟩⟩
  · apply List.eq_nil_iff_forall_not_mem.mpr
    exact fun terminalId hmem => hreleased (hinv.terminated terminalId hmem).1

/-- The import server crashes before the commit. -/
def failedEvents : List HandoffEvent :=
  readyEvents ++ [.importerCrashes, .source false] ++ List.replicate 6 (.recover true)

theorem failed_handoff_restores_onePane :
    (afterEvents failedEvents).SourceReads ⟨"t7"⟩ ∧
    (afterEvents failedEvents).apiSocket = some .source := by
  have hrestores := failed_handoff_restores servingServer_serving
    (@run_afterEvents failedEvents (by decide)) (by simp [failedEvents, readyEvents])
    (show (afterEvents failedEvents).source.recovery = .failed false by decide)
    (by decide)
  obtain ⟨-, -, hreads, -, hapi, -⟩ := hrestores
  exact ⟨(hreads ⟨"t7"⟩).mpr (by decide), hapi⟩

end Handoff

end Ork3.Server
