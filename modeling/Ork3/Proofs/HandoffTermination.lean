import Ork3.Proofs.HandoffOutcomes

/-!
# Every handoff ends

A wait may fail at any time, and an operation that fails leads on as well. What is left to do only
grows when the next handoff is asked for.
-/

namespace Ork3.Server

open Ork3.Library Ork3.Persist

/-- What the source server has left to do: at least the operations of its phase and, should one of
them fail, those of the recovery. -/
def SourceServer.work (s : SourceServer) : Nat :=
  let paused := s.pausedTerminalIds.length
  let entries := s.runtimes.length
  match s.alive, s.recovery, s.phase with
  | false, _, _ => 0
  | true, .failed _, _ => 1
  | true, .resuming paused _, _ => paused.length + 2
  | true, .bindingClient, _ => paused + 3
  | true, .bindingApi, _ => paused + 4
  | true, .awaitingSockets, _ => paused + 5
  | true, .killing, _ => paused + 6
  | true, .none, .idle => 1
  | true, .none, .done _ => 1
  | true, .none, .acknowledging => 2
  | true, .none, .releasing drained => drained.length + 3
  | true, .none, .committing => paused + entries + 7
  | true, .none, .readying => paused + entries + 8
  | true, .none, .unlinkingClient => paused + entries + 9
  | true, .none, .unlinkingApi => paused + entries + 10
  | true, .none, .restoring => paused + entries + 11
  | true, .none, .sendingFds => paused + entries + 12
  | true, .none, .validating => paused + entries + 13
  | true, .none, .sendingManifest => paused + entries + 14
  | true, .none, .authenticating => paused + entries + 15
  | true, .none, .accepting => paused + entries + 16
  | true, .none, .duplicating rest => paused + entries + rest.length + 17
  | true, .none, .spawning => paused + 2 * entries + 18
  | true, .none, .pausing keys => paused + 2 * entries + 2 * keys.length + 19

/-- What the import server has left to do before it unpauses its runtimes. -/
def ImportServer.work (i : ImportServer) : Nat :=
  match i.alive, i.phase with
  | false, _ => 0
  | true, .absent => 1
  | true, .serving _ => 1
  | true, .reportingOwned => 2
  | true, .unpausing _ => 3
  | true, .assuming => 4
  | true, .awaitingCommit => 5
  | true, .reportingReady => 6
  | true, .bindingClient => 7
  | true, .bindingApi => 8
  | true, .awaitingSockets => 9
  | true, .reportingRestored => 10
  | true, .building => 11
  | true, .receivingFds => 12
  | true, .validating => 13
  | true, .receivingManifest => 14
  | true, .authenticating => 15
  | true, .connecting => 16

/-- The runtimes it is about to unpause. -/
def ImportServer.paused (i : ImportServer) : List TerminalId :=
  match i.phase with
  | .unpausing remaining => remaining
  | _ => []

def HandoffEvent.IsRequest : HandoffEvent → Prop
  | .request _ _ => True
  | _ => False

lemma SourceServer.work_pos {s : SourceServer} (halive : s.alive = true) : 0 < s.work := by
  unfold SourceServer.work
  rw [halive]
  cases s.recovery with
  | none => cases s.phase <;> simp
  | _ => simp

lemma ImportServer.work_pos {i : ImportServer} (halive : i.alive = true) : 0 < i.work := by
  unfold ImportServer.work
  rw [halive]
  cases i.phase <;> simp

lemma length_handoffEntries_le (runtimes : List TerminalId) (panes : Table TerminalId UInt32) :
    (handoffEntries runtimes panes).length ≤ runtimes.length :=
  List.length_filterMap_le _ _

namespace Handoff

variable {h₀ h h' : Handoff} {es : List HandoffEvent}

/-- What is left to do: first by the source server, then by the import server. -/
def work (h : Handoff) : Nat ×ₗ Nat ×ₗ Nat :=
  toLex (h.source.work, toLex (h.importer.work, h.importer.paused.length))

lemma work_lt_of_source (hlt : h'.source.work < h.source.work) : h'.work < h.work :=
  Prod.Lex.toLex_lt_toLex.mpr (.inl hlt)

lemma work_lt_of_importer (hsource : h'.source = h.source)
    (hlt : h'.importer.work < h.importer.work) : h'.work < h.work :=
  Prod.Lex.toLex_lt_toLex.mpr
    (.inr ⟨congrArg SourceServer.work hsource, Prod.Lex.toLex_lt_toLex.mpr (.inl hlt)⟩)

lemma work_lt_of_unpaused (hsource : h'.source = h.source)
    (heq : h'.importer.work = h.importer.work)
    (hlt : h'.importer.paused.length < h.importer.paused.length) : h'.work < h.work :=
  Prod.Lex.toLex_lt_toLex.mpr
    (.inr ⟨congrArg SourceServer.work hsource, Prod.Lex.toLex_lt_toLex.mpr (.inr ⟨heq, hlt⟩)⟩)

/-! ### Less is left after every step -/

lemma source_work_sourceSucceeds (halive : h.source.alive = true)
    (hrecovery : h.source.recovery = .none) (hs : h.sourceSucceeds = some h') :
    h'.source.work < h.source.work := by
  cases hphase : h.source.phase with
  | idle | done acknowledged => simp [Handoff.sourceSucceeds, hphase] at hs
  | pausing keys =>
    cases keys with
    | nil =>
      simp only [Handoff.sourceSucceeds, hphase] at hs
      cases hs
      simp [SourceServer.work, sourceAt, halive, hrecovery, hphase]
    | cons terminalId keys =>
      simp only [Handoff.sourceSucceeds, hphase] at hs
      split at hs
      · cases hs
        simp [SourceServer.work, halive, hrecovery, hphase]
        omega
      · cases hs
        simp [SourceServer.work, sourceAt, halive, hrecovery, hphase]
  | spawning =>
    have hle := length_handoffEntries_le h.source.runtimes h.source.paneByTerminal
    simp only [Handoff.sourceSucceeds, hphase] at hs
    cases hs
    simp [SourceServer.work, halive, hrecovery, hphase]
    omega
  | duplicating entries =>
    cases entries with
    | nil =>
      simp only [Handoff.sourceSucceeds, hphase] at hs
      cases hs
      simp [SourceServer.work, sourceAt, halive, hrecovery, hphase]
    | cons entry entries =>
      simp only [Handoff.sourceSucceeds, hphase] at hs
      split at hs
      · cases hs
        simp [SourceServer.work, sourceAt, halive, hrecovery, hphase]
      · simp only [Option.ite_none_right_eq_some] at hs
        obtain ⟨-, hs⟩ := hs
        cases hs
        simp [SourceServer.work, halive, hrecovery, hphase]
  | releasing drained =>
    cases drained with
    | nil =>
      simp only [Handoff.sourceSucceeds, hphase] at hs
      cases hs
      simp [SourceServer.work, sourceAt, halive, hrecovery, hphase]
    | cons terminalId drained =>
      simp only [Handoff.sourceSucceeds, hphase] at hs
      cases hs
      simp [SourceServer.work, halive, hrecovery, hphase]
  | sendingManifest | unlinkingApi | unlinkingClient =>
    simp only [Handoff.sourceSucceeds, hphase] at hs
    cases hs
    simp [SourceServer.work, sourceAt, halive, hrecovery, hphase]
  | committing =>
    simp only [Handoff.sourceSucceeds, hphase] at hs
    cases hs
    simp [SourceServer.work, sourceAt, halive, hrecovery, hphase]
    omega
  | accepting =>
    simp only [Handoff.sourceSucceeds, hphase, Option.ite_none_right_eq_some] at hs
    obtain ⟨-, hs⟩ := hs
    cases hs
    simp [SourceServer.work, sourceAt, halive, hrecovery, hphase]
  | sendingFds =>
    simp only [Handoff.sourceSucceeds, hphase, Option.ite_none_left_eq_some] at hs
    obtain ⟨-, hs⟩ := hs
    split at hs <;> cases hs <;>
      simp [SourceServer.work, sourceAt, halive, hrecovery, hphase]
  | authenticating =>
    obtain ⟨toSource, listening, -, rfl⟩ :=
      sourceSucceeds_reads (.token h.token) .sendingManifest (by rw [hphase]; rfl) hs
    simp [SourceServer.work, sourceAt, halive, hrecovery, hphase]
  | validating =>
    obtain ⟨toSource, listening, -, rfl⟩ :=
      sourceSucceeds_reads .validated .sendingFds (by rw [hphase]; rfl) hs
    simp [SourceServer.work, sourceAt, halive, hrecovery, hphase]
  | restoring =>
    obtain ⟨toSource, listening, -, rfl⟩ :=
      sourceSucceeds_reads .restored .unlinkingApi (by rw [hphase]; rfl) hs
    simp [SourceServer.work, sourceAt, halive, hrecovery, hphase]
  | readying =>
    obtain ⟨toSource, listening, -, rfl⟩ :=
      sourceSucceeds_reads .ready .committing (by rw [hphase]; rfl) hs
    simp [SourceServer.work, sourceAt, halive, hrecovery, hphase]
  | acknowledging =>
    obtain ⟨toSource, listening, -, rfl⟩ :=
      sourceSucceeds_reads .owned (.done true) (by rw [hphase]; rfl) hs
    simp [SourceServer.work, sourceAt, halive, hrecovery, hphase]

lemma source_work_resume (halive : h.source.alive = true) (restoreFailed : Bool) :
    (h.resume restoreFailed).source.work = h.source.pausedTerminalIds.length + 2 := by
  simp [SourceServer.work, resume, recoverWith, halive]

lemma source_work_sourceFails (halive : h.source.alive = true)
    (hrecovery : h.source.recovery = .none) (hs : h.sourceFails = some h') :
    h'.source.work < h.source.work := by
  have hresume := source_work_resume halive false
  cases hphase : h.source.phase with
  | idle | done acknowledged => simp [Handoff.sourceFails, hphase] at hs
  | pausing keys =>
    cases keys with
    | nil => simp [Handoff.sourceFails, hphase] at hs
    | cons terminalId keys =>
      simp only [Handoff.sourceFails, hphase, Option.ite_none_right_eq_some] at hs
      obtain ⟨-, hs⟩ := hs
      cases hs
      rw [hresume]
      simp [SourceServer.work, halive, hrecovery, hphase]
      omega
  | spawning =>
    simp only [Handoff.sourceFails, hphase] at hs
    cases hs
    rw [hresume]
    simp [SourceServer.work, halive, hrecovery, hphase]
    omega
  | duplicating entries =>
    cases entries with
    | nil => simp [Handoff.sourceFails, hphase] at hs
    | cons entry entries =>
      simp only [Handoff.sourceFails, hphase] at hs
      cases hs
      simp [SourceServer.work, recoverWith, halive, hrecovery, hphase]
      omega
  | accepting | authenticating | sendingManifest | validating | sendingFds | restoring | readying
  | committing =>
    simp only [Handoff.sourceFails, hphase] at hs
    cases hs
    simp [SourceServer.work, recoverWith, halive, hrecovery, hphase] <;> omega
  | unlinkingApi | unlinkingClient =>
    simp only [Handoff.sourceFails, hphase] at hs
    cases hs
    simp [SourceServer.work, sourceAt, halive, hrecovery, hphase]
  | releasing drained =>
    cases drained with
    | nil => simp [Handoff.sourceFails, hphase] at hs
    | cons terminalId drained =>
      simp only [Handoff.sourceFails, hphase] at hs
      exact source_work_sourceSucceeds halive hrecovery hs
  | acknowledging =>
    simp only [Handoff.sourceFails, hphase] at hs
    cases hs
    simp [SourceServer.work, sourceAt, halive, hrecovery, hphase]

lemma work_sourceStep {ok : Bool} (hs : h.sourceStep ok = some h') : h'.work < h.work := by
  unfold Handoff.sourceStep at hs
  split at hs
  case h_1 halive hrecovery =>
    apply work_lt_of_source
    cases ok with
    | true => exact source_work_sourceSucceeds halive hrecovery hs
    | false => exact source_work_sourceFails halive hrecovery hs
  case h_2 => cases hs

lemma work_recoverStep {ok : Bool} (hs : h.recoverStep ok = some h') : h'.work < h.work := by
  apply work_lt_of_source
  cases halive : h.source.alive with
  | false =>
    unfold Handoff.recoverStep at hs
    simp [halive] at hs
  | true =>
    have hresume := @source_work_resume h halive
    cases hrecovery : h.source.recovery with
    | none | failed restoreFailed =>
      cases ok <;> simp [Handoff.recoverStep, halive, hrecovery] at hs
    | killing =>
      cases ok with
      | false => simp [Handoff.recoverStep, halive, hrecovery] at hs
      | true =>
        simp only [Handoff.recoverStep, halive, hrecovery] at hs
        cases hs
        split
        · simp [SourceServer.work, recoverWith, importerGone, halive, hrecovery]
        · simp [SourceServer.work, resume, recoverWith, importerGone, halive, hrecovery]
    | awaitingSockets | bindingApi | bindingClient =>
      cases ok with
      | false =>
        simp only [Handoff.recoverStep, halive, hrecovery] at hs
        cases hs
        simp [SourceServer.work, resume, recoverWith, halive, hrecovery]
      | true =>
        simp only [Handoff.recoverStep, halive, hrecovery, Option.ite_none_right_eq_some] at hs
        obtain ⟨-, hs⟩ := hs
        cases hs
        simp [SourceServer.work, resume, recoverWith, halive, hrecovery]
    | resuming paused restoreFailed =>
      cases paused with
      | nil =>
        cases ok with
        | false => simp [Handoff.recoverStep, halive, hrecovery] at hs
        | true =>
          simp only [Handoff.recoverStep, halive, hrecovery] at hs
          cases hs
          simp [SourceServer.work, halive, hrecovery]
      | cons terminalId paused =>
        simp only [Handoff.recoverStep, halive, hrecovery] at hs
        cases hs
        simp [SourceServer.work, halive, hrecovery]

lemma work_importerGone (halive : h.importer.alive = true) : h.importerGone.work < h.work :=
  @work_lt_of_importer h h.importerGone rfl (ImportServer.work_pos halive)

lemma work_importSucceeds (halive : h.importer.alive = true) (hs : h.importSucceeds = some h') :
    h'.work < h.work := by
  cases hphase : h.importer.phase with
  | absent | serving reported => simp [Handoff.importSucceeds, hphase] at hs
  | unpausing remaining =>
    cases remaining with
    | nil =>
      simp only [Handoff.importSucceeds, hphase] at hs
      cases hs
      apply work_lt_of_importer
      · rfl
      · simp [ImportServer.work, importAt, halive, hphase]
    | cons terminalId remaining =>
      simp only [Handoff.importSucceeds, hphase] at hs
      cases hs
      apply work_lt_of_unpaused
      · rfl
      · simp [ImportServer.work, halive, hphase]
      · simp [ImportServer.paused, hphase]
  | authenticating | validating | reportingRestored | reportingReady | assuming | reportingOwned =>
    simp only [Handoff.importSucceeds, hphase] at hs
    cases hs
    apply work_lt_of_importer
    · rfl
    · simp [ImportServer.work, importAt, halive, hphase]
  | connecting | awaitingSockets | bindingApi | bindingClient =>
    simp only [Handoff.importSucceeds, hphase, Option.ite_none_right_eq_some] at hs
    obtain ⟨-, hs⟩ := hs
    cases hs
    apply work_lt_of_importer
    · rfl
    · simp [ImportServer.work, importAt, halive, hphase]
  | receivingManifest =>
    simp only [Handoff.importSucceeds, hphase] at hs
    split at hs
    · rw [Option.ite_none_right_eq_some] at hs
      obtain ⟨-, hs⟩ := hs
      cases hs
      apply work_lt_of_importer
      · rfl
      · simp [ImportServer.work, halive, hphase]
    · cases hs
  | receivingFds =>
    simp only [Handoff.importSucceeds, hphase] at hs
    split at hs
    · split at hs
      · cases hs
        apply work_lt_of_importer
        · rfl
        · simp [ImportServer.work, halive, hphase]
      · split at hs
        · rw [Option.ite_none_right_eq_some] at hs
          obtain ⟨-, hs⟩ := hs
          cases hs
          apply work_lt_of_importer
          · rfl
          · simp [ImportServer.work, halive, hphase]
        · cases hs
    · cases hs
  | building =>
    simp only [Handoff.importSucceeds, hphase] at hs
    split at hs
    · obtain ⟨session, -, hs⟩ := Option.map_eq_some_iff.mp hs
      cases hs
      apply work_lt_of_importer
      · rfl
      · simp [ImportServer.work, halive, hphase]
    · cases hs
  | awaitingCommit =>
    simp only [Handoff.importSucceeds, hphase] at hs
    split at hs
    · cases hs
      apply work_lt_of_importer
      · rfl
      · simp [ImportServer.work, importAt, halive, hphase]
    · cases hs

lemma work_importFails (halive : h.importer.alive = true) (hs : h.importFails = some h') :
    h'.work < h.work := by
  cases hphase : h.importer.phase with
  | absent | assuming | serving reported => simp [Handoff.importFails, hphase] at hs
  | unpausing remaining =>
    cases remaining with
    | nil => simp [Handoff.importFails, hphase] at hs
    | cons terminalId remaining =>
      simp only [Handoff.importFails, hphase] at hs
      cases hs
      apply work_lt_of_unpaused
      · rfl
      · simp [ImportServer.work, importAt, halive, hphase]
      · simp [ImportServer.paused, importAt, hphase]
  | reportingOwned =>
    simp only [Handoff.importFails, hphase] at hs
    cases hs
    apply work_lt_of_importer
    · rfl
    · simp [ImportServer.work, importAt, halive, hphase]
  | _ =>
    simp only [Handoff.importFails, hphase] at hs
    cases hs
    exact work_importerGone halive

lemma work_importStep {ok : Bool} (hs : h.importStep ok = some h') : h'.work < h.work := by
  unfold Handoff.importStep at hs
  rw [Option.ite_none_right_eq_some] at hs
  obtain ⟨halive, hs⟩ := hs
  cases ok with
  | true => exact work_importSucceeds halive hs
  | false => exact work_importFails halive hs

lemma work_sourceCrash (hs : h.sourceCrash = some h') : h'.work < h.work := by
  simp only [Handoff.sourceCrash, Option.ite_none_right_eq_some] at hs
  obtain ⟨halive, hs⟩ := hs
  cases hs
  exact work_lt_of_source (SourceServer.work_pos halive)

lemma work_importCrash (hs : h.importCrash = some h') : h'.work < h.work := by
  simp only [Handoff.importCrash, Option.ite_none_right_eq_some] at hs
  obtain ⟨halive, hs⟩ := hs
  cases hs
  exact work_importerGone halive

lemma Step.work_lt {e : HandoffEvent} (hs : Step h e h') (he : ¬ e.IsRequest) :
    h'.work < h.work := by
  cases e with
  | request r bound => exact (he trivial).elim
  | source ok => exact work_sourceStep hs
  | recover ok => exact work_recoverStep hs
  | importer ok => exact work_importStep hs
  | sourceCrashes => exact work_sourceCrash hs
  | importerCrashes => exact work_importCrash hs

/-! ### Where nothing can go on -/

/-- The source server serves alone, has handed over or is gone, and so has the import server. -/
structure Ended (h : Handoff) : Prop where
  source_ended : h.source.alive = true →
    (∃ restoreFailed, h.source.recovery = .failed restoreFailed) ∨
      h.source.recovery = .none ∧
        (h.source.phase = .idle ∨ ∃ acknowledged, h.source.phase = .done acknowledged)
  importer_ended : h.importer.alive = true →
    h.importer.phase = .absent ∨ ∃ reported, h.importer.phase = .serving reported

/-- No operation of either server can succeed or fail. -/
def Quiet (h : Handoff) : Prop :=
  ∀ ok, h.sourceStep ok = none ∧ h.recoverStep ok = none ∧ h.importStep ok = none

lemma Quiet.ended (hquiet : h.Quiet) : h.Ended := by
  constructor
  · intro halive
    cases hrecovery : h.source.recovery with
    | failed restoreFailed => exact .inl ⟨restoreFailed, rfl⟩
    | none =>
      refine .inr ⟨rfl, ?_⟩
      have hgoes := (hquiet true).1
      have hfails := (hquiet false).1
      simp only [Handoff.sourceStep, halive, hrecovery] at hgoes hfails
      cases hphase : h.source.phase with
      | idle => exact .inl rfl
      | done acknowledged => exact .inr ⟨acknowledged, rfl⟩
      | pausing keys =>
        cases keys with
        | nil => simp [Handoff.sourceSucceeds, hphase] at hgoes
        | cons terminalId keys =>
          simp only [if_true, Handoff.sourceSucceeds, hphase] at hgoes
          split at hgoes <;> cases hgoes
      | duplicating entries =>
        cases entries with
        | nil => simp [Handoff.sourceSucceeds, hphase] at hgoes
        | cons entry entries => simp [Handoff.sourceFails, hphase] at hfails
      | releasing drained =>
        cases drained <;> simp [Handoff.sourceSucceeds, hphase] at hgoes
      | _ => simp [Handoff.sourceFails, hphase] at hfails
    | killing =>
      have hgoes := (hquiet true).2.1
      simp [Handoff.recoverStep, halive, hrecovery] at hgoes
    | awaitingSockets | bindingApi | bindingClient =>
      have hfails := (hquiet false).2.1
      simp [Handoff.recoverStep, halive, hrecovery] at hfails
    | resuming paused restoreFailed =>
      have hgoes := (hquiet true).2.1
      cases paused <;> simp [Handoff.recoverStep, halive, hrecovery] at hgoes
  · intro halive
    have hgoes := (hquiet true).2.2
    have hfails := (hquiet false).2.2
    simp only [Handoff.importStep, halive, if_true] at hgoes hfails
    cases hphase : h.importer.phase with
    | absent => exact .inl rfl
    | serving reported => exact .inr ⟨reported, rfl⟩
    | assuming => simp [Handoff.importSucceeds, hphase] at hgoes
    | unpausing remaining =>
      cases remaining <;> simp [Handoff.importSucceeds, hphase] at hgoes
    | _ => simp [Handoff.importFails, hphase] at hfails

/-! ### An import server that lives -/

/-- A live import server has come to one of its operations. -/
def ImporterPresent (h : Handoff) : Prop :=
  h.importer.alive = true → h.importer.phase ≠ .absent

/-- All that the source server does to the import server is to spawn it. -/
lemma importer_sourceStep {ok : Bool} (hs : h.sourceStep ok = some h') :
    h'.importer = h.importer ∨ h'.importer.phase = .connecting := by
  simp only [sourceStep, sourceSucceeds, sourceFails] at hs
  repeat' split at hs
  all_goals try cases hs
  all_goals first | exact .inl rfl | exact .inr rfl

/-- The recovery may end the import server. -/
lemma importer_recoverStep {ok : Bool} (hs : h.recoverStep ok = some h') :
    h'.importer = h.importer ∨ h'.importer.alive = false := by
  unfold recoverStep at hs
  repeat' split at hs
  all_goals try cases hs
  · right
    split_ifs <;> rfl
  all_goals exact .inl rfl

/-- No operation of the import server leads back in front of all of them. -/
lemma importerPresent_importStep {ok : Bool} (hs : h.importStep ok = some h') :
    h'.ImporterPresent := by
  have hsucceeds : ∀ h', h.importSucceeds = some h' → h'.ImporterPresent := by
    intro h' hs
    unfold importSucceeds at hs
    repeat' split at hs
    all_goals
      first
        | cases hs
        | obtain ⟨session, -, rfl⟩ := Option.map_eq_some_iff.mp hs
    all_goals simp [ImporterPresent, importAt]
  have hfails : ∀ h', h.importFails = some h' → h'.ImporterPresent := by
    intro h' hs
    unfold importFails at hs
    repeat' split at hs
    all_goals try cases hs
    all_goals simp [ImporterPresent, importAt, importerGone]
  unfold importStep at hs
  rw [Option.ite_none_right_eq_some] at hs
  cases ok with
  | true => exact hsucceeds h' hs.2
  | false => exact hfails h' hs.2

lemma ImporterPresent.of_importer (hp : h.ImporterPresent) (hi : h'.importer = h.importer) :
    h'.ImporterPresent := by
  unfold ImporterPresent
  rw [hi]
  exact hp

lemma Step.importerPresent {e : HandoffEvent} (hs : Step h e h') (hp : h.ImporterPresent) :
    h'.ImporterPresent := by
  cases e with
  | request r bound =>
    simp only [Step, next, request] at hs
    repeat' split at hs
    all_goals try cases hs
    · exact hp
    · exact hp
    · intro halive
      cases halive
  | source ok =>
    rcases importer_sourceStep hs with hi | hi
    · exact hp.of_importer hi
    · intro _ hphase
      rw [hi] at hphase
      cases hphase
  | recover ok =>
    rcases importer_recoverStep hs with hi | hi
    · exact hp.of_importer hi
    · intro halive
      rw [hi] at halive
      cases halive
  | importer ok => exact importerPresent_importStep hs
  | sourceCrashes =>
    simp only [Step, next, sourceCrash, Option.ite_none_right_eq_some] at hs
    obtain ⟨-, hs⟩ := hs
    cases hs
    exact hp
  | importerCrashes =>
    simp only [Step, next, importCrash, Option.ite_none_right_eq_some] at hs
    obtain ⟨-, hs⟩ := hs
    cases hs
    intro halive
    cases halive

lemma importerPresent_of_run (hserving : h₀.Serving) (hrun : Run Step h₀ es h) :
    h.ImporterPresent :=
  hrun.invariant (fun _ _ _ hp hs => Step.importerPresent hs hp)
    fun halive => absurd halive hserving.importer_dead

/-- No handoff goes on for ever, and where it stops both servers have come to an end of it; in a run
from a serving server, an import server that is then alive serves. -/
theorem handoff_ends :
    (WellFounded fun h' h : Handoff => ∃ e : HandoffEvent, ¬ e.IsRequest ∧ Step h e h') ∧
    (∀ h : Handoff, h.Quiet → h.Ended) ∧
    ∀ (h₀ h : Handoff) (es : List HandoffEvent), h₀.Serving → Run Step h₀ es h → h.Quiet →
      h.importer.alive = true → ∃ reported, h.importer.phase = .serving reported := by
  refine ⟨?_, fun h hquiet => hquiet.ended, fun h₀ h es hserving hrun hquiet halive => ?_⟩
  · apply Subrelation.wf (r := InvImage (· < ·) work) _ (InvImage.wf work wellFounded_lt)
    rintro h' h ⟨e, he, hs⟩
    exact hs.work_lt he
  · have hpresent := importerPresent_of_run hserving hrun halive
    exact (hquiet.ended.importer_ended halive).resolve_left hpresent

/-- The commit is followed by everything else. -/
def handedOverEvents : List HandoffEvent :=
  committedEvents ++ List.replicate 2 (.importer true) ++ List.replicate 3 (.source true)

/-- After a handoff that failed the source server waits for the next request, and after one that was
committed the import server serves. -/
theorem handoff_ends_failed :
    (afterEvents failedEvents).Ended ∧
      ∃ reported, (afterEvents handedOverEvents).importer.phase = .serving reported := by
  obtain ⟨-, hended, hserves⟩ := handoff_ends
  constructor
  · apply hended
    unfold Quiet
    decide
  · have hrun := @run_afterEvents handedOverEvents (by decide)
    apply hserves _ _ _ servingServer_serving hrun _ (by decide)
    unfold Quiet
    decide

end Handoff

end Ork3.Server
