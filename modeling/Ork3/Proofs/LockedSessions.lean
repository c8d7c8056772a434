import Ork3.Library.Except
import Ork3.Library.Run
import Ork3.Model.CatalogReopening
import Ork3.Proofs.CandidateWrites
import Ork3.Proofs.DirectoryAssignment
import Ork3.Proofs.TopicMerges

/-!
# Sessions the user has locked

Every operation that rewrites or deletes assignments and sessions leaves a session with a manual
lock alone: its row stays, its assignment is not written, and its project keeps its number.
-/

namespace Ork3.Projects

open Ork3.Library

namespace ProjectCatalog

/-- The user has assigned the session and locked it. -/
def LockedByUser (db : ProjectCatalog) (stableKey : String) : Prop :=
  ∃ a, db.assignments.lookup stableKey = some a ∧ a.locked = true ∧ a.source = .manual

/-- The session keeps its row, its assignment and its project from `db` to `db'`. -/
structure KeepsSession (stableKey : String) (db db' : ProjectCatalog) : Prop where
  assignment : db'.assignments.lookup stableKey = db.assignments.lookup stableKey
  row : ∀ row, db.sessions.lookup stableKey = some row →
    ∃ row', db'.sessions.lookup stableKey = some row' ∧ row'.ref = row.ref
  projects : KeepsProjects db db'

section
variable {key : String} {db db' db'' : ProjectCatalog}

lemma LockedByUser.isLocked (h : db.LockedByUser key) : db.isLocked key = true := by
  obtain ⟨a, ha, hlocked, -⟩ := h
  rw [ProjectCatalog.isLocked, ha, Option.any_some]
  exact hlocked

lemma KeepsSession.refl (db : ProjectCatalog) : KeepsSession key db db :=
  ⟨rfl, fun row hrow => ⟨row, hrow, rfl⟩, .refl db⟩

lemma KeepsSession.trans (h : KeepsSession key db db') (h' : KeepsSession key db' db'') :
    KeepsSession key db db'' := by
  refine ⟨h'.assignment.trans h.assignment, fun row hrow => ?_, h.projects.trans h'.projects⟩
  obtain ⟨row', hrow', href⟩ := h.row row hrow
  obtain ⟨row'', hrow'', href'⟩ := h'.row row' hrow'
  exact ⟨row'', hrow'', href'.trans href⟩

lemma KeepsSession.locked (h : KeepsSession key db db') (hlocked : db.LockedByUser key) :
    db'.LockedByUser key := by
  rw [LockedByUser, h.assignment]
  exact hlocked

/-- Nothing the session depends on is written. -/
lemma KeepsSession.of_eq (hassignments : db'.assignments = db.assignments)
    (hsessions : db'.sessions = db.sessions) (hprojects : db'.projects = db.projects) :
    KeepsSession key db db' :=
  ⟨by rw [hassignments], fun row hrow => ⟨row, hsessions ▸ hrow, rfl⟩, .of_eq hprojects⟩

/-- What each step keeps of a locked session, a sequence of steps keeps. -/
lemma KeepsSession.foldl {ι : Type} {f : ProjectCatalog → ι → ProjectCatalog}
    (hstep : ∀ db x, db.LockedByUser key → KeepsSession key db (f db x)) (l : List ι)
    {db : ProjectCatalog} (hlocked : db.LockedByUser key) : KeepsSession key db (l.foldl f db) := by
  induction l generalizing db with
  | nil => exact .refl db
  | cons x l ih =>
    have hone := hstep db x hlocked
    exact hone.trans (ih (hone.locked hlocked))

/-! ### Candidates -/

lemma Written.keepsSession {candidate : SessionCandidate} (h : db.Written candidate db')
    (hlocked : db.LockedByUser key) : KeepsSession key db db' := by
  refine ⟨h.assignments key (.inr hlocked.isLocked), fun row hrow => ?_, h.projects⟩
  rw [h.sessions]
  by_cases hkey : key = candidate.identity.stableKey
  · subst hkey
    refine ⟨_, AList.lookup_insert _, ?_⟩
    rw [ref_upsertedSession, hrow]
    rfl
  · exact ⟨row, (AList.lookup_insert_ne hkey).trans hrow, rfl⟩

variable {ext : External}

lemma LockedByUser.upsertCandidate (hlocked : db.LockedByUser key) {candidate : SessionCandidate}
    (hok : db.upsertCandidate ext candidate = .ok db') : KeepsSession key db db' :=
  (upsertCandidate_ok hok).2.keepsSession hlocked

lemma LockedByUser.upsertScannedCandidate (hlocked : db.LockedByUser key)
    {cache cache' : Classifications} {candidate : SessionCandidate}
    (hok : upsertScannedCandidate ext cache db candidate = .ok (cache', db')) :
    KeepsSession key db db' := by
  unfold ProjectCatalog.upsertScannedCandidate at hok
  dsimp only at hok
  obtain ⟨written, hwrite, hdone⟩ := bind_eq_ok.mp hok
  obtain ⟨-, rfl⟩ := Prod.mk.inj (Except.ok.inj hdone)
  exact (writeCandidate_ok hwrite).2.keepsSession hlocked

/-- Only classes of sessions and topics change. -/
lemma keepsSession_refreshAutomationClasses (db : ProjectCatalog) :
    KeepsSession key db (db.refreshAutomationClasses ext).1 := by
  refine ⟨rfl, fun row hrow => ?_, .of_eq rfl⟩
  obtain ⟨f, hf, hlookup⟩ := lookup_refreshAutomationClasses ext db key
  obtain ⟨c, hc⟩ := hf row
  rw [hlookup, hrow, Option.map_some]
  exact ⟨f row, rfl, hc ▸ rfl⟩

lemma LockedByUser.upsertScannedCandidates (hlocked : db.LockedByUser key)
    {candidates : List SessionCandidate}
    (hok : db.upsertScannedCandidates ext candidates = .ok db') : KeepsSession key db db' := by
  unfold ProjectCatalog.upsertScannedCandidates at hok
  split at hok
  · obtain rfl := Except.ok.inj hok
    exact .refl db
  · obtain ⟨⟨cache, written⟩, hfold, hdone⟩ := bind_eq_ok.mp hok
    obtain rfl := Except.ok.inj hdone
    have hkept : KeepsSession key db written := by
      have hstep : ∀ (s : Classifications × ProjectCatalog) (candidate : SessionCandidate)
          (t : Classifications × ProjectCatalog), KeepsSession key db s.2 →
          ProjectCatalog.upsertScannedCandidate ext s.1 s.2 candidate = .ok t → KeepsSession key db t.2 :=
        fun s candidate t hs hone => hs.trans ((hs.locked hlocked).upsertScannedCandidate hone)
      exact foldlM_invariant hstep (.refl db) hfold
    have hrefresh : KeepsSession key written (written.refreshAutomationClasses ext).1 :=
      keepsSession_refreshAutomationClasses written
    exact hkept.trans (hrefresh.trans (.of_eq rfl rfl rfl))

/-! ### Scans and topics -/

lemma keepsSession_deleteSession {deleted : String} (hne : key ≠ deleted) :
    KeepsSession key db (db.deleteSession deleted) :=
  ⟨AList.lookup_erase_ne hne, fun row hrow => ⟨row, (AList.lookup_erase_ne hne).trans hrow, rfl⟩,
    .of_eq rfl⟩

/-- Deleting sessions of which none is the locked one. -/
lemma keepsSession_deleteSessions {deleted : List String} (h : key ∉ deleted) :
    KeepsSession key db (deleted.foldl deleteSession db) := by
  induction deleted generalizing db with
  | nil => exact .refl db
  | cons k deleted ih =>
    rw [List.mem_cons, not_or] at h
    exact (keepsSession_deleteSession h.1).trans (ih h.2)

lemma LockedByUser.deleteExcluded (hlocked : db.LockedByUser key)
    (adapter rootKey sourceKey : String) :
    KeepsSession key db (ProjectCatalog.deleteExcluded adapter rootKey db sourceKey) := by
  unfold ProjectCatalog.deleteExcluded
  apply keepsSession_deleteSessions
  intro hmem
  have hunlocked := (List.mem_filter.mp hmem).2
  rw [hlocked.isLocked] at hunlocked
  cases hunlocked

lemma LockedByUser.completeRootScan (hlocked : db.LockedByUser key) (adapter rootKey : String)
    (completion : ScanCompletion) (seenSourceKeys excludedSourceKeys : List String)
    (observedAt : Int) : KeepsSession key db (db.completeRootScan adapter rootKey completion
      seenSourceKeys excludedSourceKeys observedAt) := by
  unfold ProjectCatalog.completeRootScan
  dsimp only
  split
  · have hdeleted := KeepsSession.foldl (fun db sourceKey (h : db.LockedByUser key) =>
      h.deleteExcluded adapter rootKey sourceKey) excludedSourceKeys hlocked
    exact hdeleted.trans (.of_eq rfl rfl rfl)
  · exact .of_eq rfl rfl rfl

lemma keepsSession_upsertProject (db : ProjectCatalog) (project : ProjectClassification)
    (observedAt : Int) : KeepsSession key db (db.upsertProject project observedAt).1 := by
  have hframe := upsertProject_frame db project observedAt
  exact ⟨by rw [hframe], fun row hrow => ⟨row, by rw [hframe]; exact hrow, rfl⟩,
    keepsProjects_upsertProject db project observedAt⟩

lemma keepsSession_applySemantic (db : ProjectCatalog) (item : SemanticAssignment)
    (observedAt : Int) : KeepsSession key db (db.applySemantic ext item observedAt) := by
  unfold applySemantic
  dsimp only
  split
  · exact .refl db
  · exact (keepsSession_upsertProject db _ observedAt).trans (.of_eq rfl rfl rfl)

/-- No topic is written for a locked session. -/
lemma LockedByUser.applySemantic_topic (hlocked : db.LockedByUser key) (item : SemanticAssignment)
    (observedAt : Int) : (db.applySemantic ext item observedAt).semanticAssignments.lookup key =
      db.semanticAssignments.lookup key := by
  unfold applySemantic
  dsimp only
  split
  · rfl
  · rename_i heligible
    rw [upsertProject_frame]
    refine AList.lookup_insert_ne ?_
    rintro rfl
    obtain ⟨a, ha, hlock, -⟩ := hlocked
    simp [ha, hlock] at heligible

lemma LockedByUser.applySemanticBatch (hlocked : db.LockedByUser key)
    (batch : List SemanticAssignment) (observedAt : Int) :
    KeepsSession key db (db.applySemanticBatch ext batch observedAt) ∧
      (db.applySemanticBatch ext batch observedAt).semanticAssignments.lookup key =
        db.semanticAssignments.lookup key := by
  have hboth : ∀ (batch : List SemanticAssignment) (db : ProjectCatalog), db.LockedByUser key →
      KeepsSession key db (batch.foldl (fun db item => db.applySemantic ext item observedAt) db) ∧
        (batch.foldl (fun db item =>
          db.applySemantic ext item observedAt) db).semanticAssignments.lookup key =
            db.semanticAssignments.lookup key := by
    intro batch
    induction batch with
    | nil => exact fun db _ => ⟨.refl db, rfl⟩
    | cons item batch ih =>
      intro db hlocked
      have hone : KeepsSession key db (db.applySemantic ext item observedAt) :=
        keepsSession_applySemantic db item observedAt
      obtain ⟨hkept, htopic⟩ := ih _ (hone.locked hlocked)
      exact ⟨hone.trans hkept, htopic.trans (hlocked.applySemantic_topic item observedAt)⟩
  obtain ⟨hkept, htopic⟩ := hboth batch db hlocked
  exact ⟨hkept.trans (.of_eq rfl rfl rfl), htopic⟩

lemma keepsSession_applyTopicMerges {merges : List SemanticTopicMerge} {observedAt : Int}
    (hok : db.applyTopicMerges ext merges observedAt = .ok db') : KeepsSession key db db' := by
  obtain ⟨-, -, rfl⟩ := applyTopicMerges_iff.mp hok
  exact .of_eq rfl rfl rfl

/-! ### The user's assignments -/

/-- Assigning or unlocking another session. -/
lemma keepsSession_insertAssignment {other : String} (hne : key ≠ other) (row : AssignmentRow) :
    KeepsSession key db
      { db with assignments := db.assignments.insert other row }.bumpRevision :=
  ⟨AList.lookup_insert_ne hne, fun row hrow => ⟨row, hrow, rfl⟩, .of_eq rfl⟩

lemma keepsSession_assignSession {other projectKey : String} {lock : Bool} {observedAt : Int}
    (hne : key ≠ other) (hok : db.assignSession other projectKey lock observedAt = .ok db') :
    KeepsSession key db db' := by
  unfold assignSession at hok
  split at hok
  · cases hok
  · cases hok
  · obtain rfl := Except.ok.inj hok
    exact keepsSession_insertAssignment hne _

lemma keepsSession_unlockSession {other : String} {observedAt : Int} (hne : key ≠ other)
    (hok : db.unlockSession other observedAt = .ok db') : KeepsSession key db db' := by
  unfold unlockSession at hok
  split at hok
  · cases hok
  · obtain rfl := Except.ok.inj hok
    exact keepsSession_insertAssignment hne _

/-- What a locking assignment leaves behind. -/
lemma assignSession_locked {projectKey : String} {observedAt : Int}
    (hok : db.assignSession key projectKey true observedAt = .ok db') :
    db'.LockedByUser key ∧ ∃ a p, db'.assignments.lookup key = some a ∧
      db'.projects.lookup projectKey = some p ∧ p.id = a.projectId := by
  unfold assignSession at hok
  split at hok
  · cases hok
  · cases hok
  · rename_i project _ hproject _
    obtain rfl := Except.ok.inj hok
    exact ⟨⟨_, AList.lookup_insert _, rfl, rfl⟩, _, project, AList.lookup_insert _, hproject, rfl⟩

end

end ProjectCatalog

/-! ### Reopening -/

namespace CatalogFile
open ProjectCatalog

section
variable {key : String} {file file' : CatalogFile} {ext : External}

lemma keepsSession_mapSessions (file : CatalogFile) {f : SessionRow → SessionRow}
    (hf : ∀ row, (f row).ref = row.ref) :
    KeepsSession key file.catalog (file.mapSessions f).catalog := by
  refine ⟨rfl, fun row hrow => ⟨f row, ?_, hf row⟩, .of_eq rfl⟩
  exact (Table.lookup_map f file.catalog.sessions key).trans (congrArg (Option.map f) hrow)

lemma keepsSession_migrateV1ToV2 (file : CatalogFile) :
    KeepsSession key file.catalog file.migrateV1ToV2.catalog := by
  have hturns : KeepsSession key file.catalog file.addUserTurns.catalog := by
    unfold addUserTurns
    split
    · exact .refl _
    · exact keepsSession_mapSessions file fun _ => rfl
  have hchars : ∀ file : CatalogFile,
      KeepsSession key file.catalog file.addUserChars.catalog := by
    intro file
    unfold addUserChars
    split
    · exact .refl _
    · exact keepsSession_mapSessions file fun _ => rfl
  have hsemantic : ∀ file : CatalogFile,
      KeepsSession key file.catalog file.addSemanticAssignments.catalog := by
    intro file
    unfold addSemanticAssignments
    split
    · exact .refl _
    · exact .of_eq rfl rfl rfl
  exact hturns.trans ((hchars _).trans (hsemantic _))

lemma keepsSession_deleteDoomed {db : ProjectCatalog} (hlocked : db.LockedByUser key) :
    KeepsSession key db (deleteDoomed db) := by
  unfold deleteDoomed
  apply keepsSession_deleteSessions
  intro hmem
  obtain ⟨e, he, rfl⟩ := List.mem_map.mp hmem
  have hdoomed := (List.mem_filter.mp he).2
  rw [isDoomed, hlocked.isLocked] at hdoomed
  simp at hdoomed

lemma keepsSession_migrateV2ToV3 (hlocked : file.catalog.LockedByUser key) :
    KeepsSession key file.catalog file.migrateV2ToV3.catalog := by
  have hclass : KeepsSession key file.catalog file.addSessionClass.catalog := by
    unfold addSessionClass
    split
    · exact .refl _
    · exact keepsSession_mapSessions file fun _ => rfl
  unfold migrateV2ToV3
  dsimp only
  split
  · exact hclass.trans (keepsSession_deleteDoomed (hclass.locked hlocked))
  · exact hclass

lemma keepsSession_migrateV3ToV4 (file : CatalogFile) :
    KeepsSession key file.catalog file.migrateV3ToV4.catalog := by
  unfold migrateV3ToV4 addUserWeightKnown
  dsimp only
  split
  · exact .refl _
  · exact keepsSession_mapSessions file fun _ => rfl

/-- A file that has its tables is brought up to date. -/
lemma keepsSession_migrate (hlocked : file.catalog.LockedByUser key)
    (htables : file.userVersion ≠ 0) (hok : file.migrate = .ok file') :
    KeepsSession key file.catalog file'.catalog ∧ file'.userVersion ≠ 0 := by
  have h₂ : KeepsSession key file.catalog
      (if file.userVersion = 1 then file.migrateV1ToV2 else file).catalog := by
    split
    · exact keepsSession_migrateV1ToV2 file
    · exact .refl _
  unfold migrate at hok
  split at hok
  · cases hok
  · rename_i hsupported
    have hv₂ : 2 ≤ (if file.userVersion = 1 then file.migrateV1ToV2 else file).userVersion ∧
        (if file.userVersion = 1 then file.migrateV1ToV2 else file).userVersion ≤ 4 := by
      split
      · exact ⟨le_rfl, (by decide : 2 ≤ 4)⟩
      · exact ⟨by omega, not_lt.mp hsupported⟩
    dsimp only at hok
    generalize (if file.userVersion = 1 then file.migrateV1ToV2 else file) = file₂ at h₂ hv₂ hok
    have h₃ : KeepsSession key file₂.catalog
        (if file₂.userVersion = 2 then file₂.migrateV2ToV3 else file₂).catalog := by
      split
      · exact keepsSession_migrateV2ToV3 (h₂.locked hlocked)
      · exact .refl _
    have hv₃ : 3 ≤ (if file₂.userVersion = 2 then file₂.migrateV2ToV3 else file₂).userVersion ∧
        (if file₂.userVersion = 2 then file₂.migrateV2ToV3 else file₂).userVersion ≤ 4 := by
      split
      · exact ⟨le_rfl, (by decide : 3 ≤ 4)⟩
      · exact ⟨by omega, hv₂.2⟩
    generalize (if file₂.userVersion = 2 then file₂.migrateV2ToV3 else file₂) = file₃ at h₃ hv₃ hok
    split_ifs at hok with hthree hfour
    · obtain rfl := Except.ok.inj hok
      exact ⟨h₂.trans (h₃.trans (keepsSession_migrateV3ToV4 file₃)), four_ne_zero⟩
    · obtain rfl := Except.ok.inj hok
      exact ⟨h₂.trans h₃, by omega⟩
    · exact absurd (show file₃.userVersion = 4 by omega) hfour

lemma keepsSession_refreshAutomationClasses (file : CatalogFile) :
    KeepsSession key file.catalog (file.refreshAutomationClasses ext).catalog := by
  unfold CatalogFile.refreshAutomationClasses
  split
  · exact .refl _
  · have hrefresh : KeepsSession key file.catalog (file.catalog.refreshAutomationClasses ext).1 :=
      ProjectCatalog.keepsSession_refreshAutomationClasses file.catalog
    dsimp only
    split
    · exact hrefresh.trans (.of_eq rfl rfl rfl)
    · exact hrefresh

/-- A session goes to another project only where its assignment satisfies `p`. -/
lemma keepsSession_rehome {db : ProjectCatalog} {p : AssignmentRow → Bool}
    (hlocked : db.LockedByUser key)
    (hp : ∀ a : AssignmentRow, a.locked = true → a.source = .manual → p a = false)
    (sessionKey : String) (projectId : Nat) (evidence : String) (updatedAt : Int) :
    KeepsSession key db (rehome db p sessionKey projectId evidence updatedAt) := by
  refine ⟨?_, fun row hrow => ⟨row, hrow, rfl⟩, .of_eq rfl⟩
  refine (Table.lookup_modify _ _ _ _).trans ?_
  obtain ⟨a, ha, hlock, hmanual⟩ := hlocked
  by_cases hkey : key = sessionKey
  · subst hkey
    rw [if_pos rfl, ha, Option.map_some, if_neg]
    rw [hp a hlock hmanual]
    exact Bool.false_ne_true
  · rw [if_neg hkey]

lemma keepsSession_restoreLegacy (hlocked : file.catalog.LockedByUser key) :
    KeepsSession key file.catalog (file.restoreLegacySemanticAssignments ext).catalog := by
  unfold restoreLegacySemanticAssignments
  split
  · exact .refl _
  · dsimp only
    split
    · exact .refl _
    · refine KeepsSession.trans (KeepsSession.foldl ?_ _ hlocked) (.of_eq rfl rfl rfl)
      rintro db ⟨sessionKey, cwd, observedAt⟩ hdb
      have hproject : KeepsSession key db (db.upsertProject (classify ext (cwd.map PathBuf.ofStr))
          observedAt).1 := keepsSession_upsertProject db _ observedAt
      refine hproject.trans (keepsSession_rehome (hproject.locked hdb) ?_ _ _ _ _)
      intro a _ hmanual
      simp [hmanual]

lemma keepsSession_excludeEphemeral (isEphemeralAgentCwd : PathBuf → Bool)
    (hlocked : file.catalog.LockedByUser key) :
    KeepsSession key file.catalog
      (file.excludeEphemeralAgentAssignments ext isEphemeralAgentCwd).catalog := by
  unfold excludeEphemeralAgentAssignments
  split
  · exact .refl _
  · dsimp only
    split
    · exact .refl _
    · have hproject : ∀ observedAt, KeepsSession key file.catalog
          (file.catalog.upsertProject (.ephemeralAgent ext) observedAt).1 := fun observedAt =>
        keepsSession_upsertProject file.catalog _ observedAt
      refine (hproject _).trans (KeepsSession.trans
        (KeepsSession.foldl ?_ _ ((hproject _).locked hlocked)) (.of_eq rfl rfl rfl))
      rintro db ⟨sessionKey, cwd, updatedAt⟩ hdb
      refine keepsSession_rehome hdb ?_ _ _ _ _
      intro a hlock _
      simp [hlock]

end

end CatalogFile

/-! ### Runs -/

/-- An operation on an open catalog, or one of the transactions of opening it again. -/
inductive FileOp
  | catalog (op : CatalogOp)
  | applyTopicMerges (merges : List SemanticTopicMerge) (observedAt : Int)
  | clearRuntimeMapping (stableKey : String) (expectedGeneration : UInt64)
  | migrate (automationTitleThreshold : Nat)
  | refreshAutomationClasses
  | restoreLegacySemanticAssignments
  | excludeEphemeralAgentAssignments

namespace FileOp
open ProjectCatalog

section
variable (ext : External) (isEphemeralAgentCwd : PathBuf → Bool)

/-- An operation that fails leaves the file as it was. -/
def Step (file : CatalogFile) (op : FileOp) (file' : CatalogFile) : Prop :=
  match op with
  | .catalog op => ∃ db, op.Step ext file.catalog db ∧ file' = { file with catalog := db }
  | .applyTopicMerges merges observedAt =>
    match file.catalog.applyTopicMerges ext merges observedAt with
    | .ok db => file' = { file with catalog := db }
    | .error _ => file' = file
  | .clearRuntimeMapping stableKey expectedGeneration =>
    file' = { file with catalog := file.catalog.clearRuntimeMapping stableKey expectedGeneration }
  | .migrate automationTitleThreshold =>
    match CatalogFile.migrate (file.withThreshold automationTitleThreshold) with
    | .ok migrated => file' = migrated
    | .error _ => file' = file
  | .refreshAutomationClasses => file' = file.refreshAutomationClasses ext
  | .restoreLegacySemanticAssignments => file' = file.restoreLegacySemanticAssignments ext
  | .excludeEphemeralAgentAssignments =>
    file' = file.excludeEphemeralAgentAssignments ext isEphemeralAgentCwd

/-- The transactions of opening a catalog. -/
def reopening (automationTitleThreshold : Nat) : List FileOp :=
  [.migrate automationTitleThreshold, .refreshAutomationClasses, .restoreLegacySemanticAssignments,
    .excludeEphemeralAgentAssignments]

end

/-- The user decides about the session again. -/
def Reassigns (stableKey : String) : FileOp → Prop
  | .catalog (.assignSession key _ _ _) => key = stableKey
  | .catalog (.unlockSession key _) => key = stableKey
  | _ => False

end FileOp

section
variable {ext : External} {isEphemeralAgentCwd : PathBuf → Bool} {key : String}
  {file file' : CatalogFile} {op : FileOp}

open ProjectCatalog

/-- Opening a catalog again runs its transactions one after another. -/
lemma run_reopening {automationTitleThreshold : Nat}
    (hok : file.reopen ext isEphemeralAgentCwd automationTitleThreshold = .ok file') :
    Run (fun file op file' => FileOp.Step ext isEphemeralAgentCwd file op file') file
      (FileOp.reopening automationTitleThreshold) file' := by
  unfold CatalogFile.reopen at hok
  obtain ⟨migrated, hmigrate, hdone⟩ := bind_eq_ok.mp hok
  obtain rfl := Except.ok.inj hdone
  refine .cons (m := migrated) ?_ (.cons rfl (.cons rfl (.cons rfl (.nil _))))
  rw [FileOp.Step, hmigrate]

/-- The operations on the catalog keep a session the user has locked. -/
lemma ProjectCatalog.LockedByUser.step {db db' : ProjectCatalog} {op : CatalogOp}
    (hlocked : db.LockedByUser key) (hstep : op.Step ext db db')
    (hop : ¬(FileOp.catalog op).Reassigns key) : KeepsSession key db db' := by
  unfold CatalogOp.Step at hstep
  cases happly : op.apply ext db with
  | error e =>
    rw [happly] at hstep
    subst hstep
    exact .refl _
  | ok written =>
    rw [happly] at hstep
    subst hstep
    cases op with
    | upsertCandidate candidate => exact hlocked.upsertCandidate happly
    | upsertScannedCandidates candidates => exact hlocked.upsertScannedCandidates happly
    | assignSession other => exact keepsSession_assignSession (Ne.symm hop) happly
    | unlockSession other => exact keepsSession_unlockSession (Ne.symm hop) happly
    | completeRootScan adapter rootKey completion seenSourceKeys excludedSourceKeys observedAt =>
      obtain rfl := Except.ok.inj happly
      exact hlocked.completeRootScan adapter rootKey completion seenSourceKeys excludedSourceKeys
        observedAt
    | applySemanticBatch batch observedAt =>
      obtain rfl := Except.ok.inj happly
      exact (hlocked.applySemanticBatch batch observedAt).1

/-- Every operation keeps a session the user has locked. -/
lemma FileOp.Step.keepsSession (hstep : op.Step ext isEphemeralAgentCwd file file')
    (hop : ¬op.Reassigns key) (hlocked : file.catalog.LockedByUser key)
    (htables : file.userVersion ≠ 0) :
    KeepsSession key file.catalog file'.catalog ∧ file'.userVersion ≠ 0 := by
  cases op with
  | catalog op =>
    obtain ⟨db, hdb, rfl⟩ := hstep
    exact ⟨hlocked.step hdb hop, htables⟩
  | applyTopicMerges merges observedAt =>
    dsimp only [FileOp.Step] at hstep
    cases happly : file.catalog.applyTopicMerges ext merges observedAt with
    | error e =>
      rw [happly] at hstep
      subst hstep
      exact ⟨.refl _, htables⟩
    | ok db =>
      rw [happly] at hstep
      subst hstep
      exact ⟨keepsSession_applyTopicMerges happly, htables⟩
  | clearRuntimeMapping stableKey expectedGeneration =>
    obtain rfl : file' = _ := hstep
    exact ⟨.of_eq rfl rfl rfl, htables⟩
  | migrate automationTitleThreshold =>
    dsimp only [FileOp.Step] at hstep
    cases happly : (file.withThreshold automationTitleThreshold).migrate with
    | error e =>
      rw [happly] at hstep
      subst hstep
      exact ⟨.refl _, htables⟩
    | ok migrated =>
      rw [happly] at hstep
      subst hstep
      have hthreshold : KeepsSession key file.catalog
          (file.withThreshold automationTitleThreshold).catalog := .of_eq rfl rfl rfl
      obtain ⟨hkept, hversion⟩ := CatalogFile.keepsSession_migrate (hthreshold.locked hlocked)
        htables happly
      exact ⟨hthreshold.trans hkept, hversion⟩
  | refreshAutomationClasses =>
    obtain rfl : file' = _ := hstep
    refine ⟨CatalogFile.keepsSession_refreshAutomationClasses file, ?_⟩
    unfold CatalogFile.refreshAutomationClasses
    split
    · exact htables
    · exact htables
  | restoreLegacySemanticAssignments =>
    obtain rfl : file' = _ := hstep
    refine ⟨CatalogFile.keepsSession_restoreLegacy hlocked, ?_⟩
    unfold CatalogFile.restoreLegacySemanticAssignments
    dsimp only
    split_ifs
    · exact htables
    · exact htables
    · exact htables
  | excludeEphemeralAgentAssignments =>
    obtain rfl : file' = _ := hstep
    refine ⟨CatalogFile.keepsSession_excludeEphemeral isEphemeralAgentCwd hlocked, ?_⟩
    unfold CatalogFile.excludeEphemeralAgentAssignments
    dsimp only
    split_ifs
    · exact htables
    · exact htables
    · exact htables

lemma keepsSession_of_run {ops : List FileOp}
    (hrun : Run (fun file op file' => FileOp.Step ext isEphemeralAgentCwd file op file' ∧
      ¬op.Reassigns key) file ops file')
    (hlocked : file.catalog.LockedByUser key) (htables : file.userVersion ≠ 0) :
    KeepsSession key file.catalog file'.catalog := by
  induction hrun with
  | nil => exact .refl _
  | cons hstep _ ih =>
    obtain ⟨hkept, hversion⟩ := hstep.1.keepsSession hstep.2 hlocked htables
    exact hkept.trans (ih (hkept.locked hlocked) hversion)

/-- A session that the user assigned and locked keeps its row, its assignment with the lock and its
project until the user decides about it again, and no batch of the classifier writes its topic. -/
theorem lockedSession_kept {db : ProjectCatalog} {projectKey : String} {observedAt : Int}
    {ops : List FileOp} (htables : file.userVersion ≠ 0)
    (hassign : db.assignSession key projectKey true observedAt = .ok file.catalog)
    (hrun : Run (fun file op file' => FileOp.Step ext isEphemeralAgentCwd file op file' ∧
      ¬op.Reassigns key) file ops file') :
    (∀ row, file.catalog.sessions.lookup key = some row →
      ∃ row', file'.catalog.sessions.lookup key = some row' ∧ row'.ref = row.ref) ∧
    (∃ a p, file'.catalog.assignments.lookup key = some a ∧ a.locked = true ∧
      file'.catalog.projects.lookup projectKey = some p ∧ p.id = a.projectId) ∧
    ∀ batch at', (file'.catalog.applySemanticBatch ext batch at').semanticAssignments.lookup key =
      file'.catalog.semanticAssignments.lookup key := by
  obtain ⟨hlocked, a, p, ha, hp, hid⟩ := assignSession_locked hassign
  have hkept := keepsSession_of_run hrun hlocked htables
  have hlocked' := hkept.locked hlocked
  refine ⟨hkept.row, ?_, fun batch at' => (hlocked'.applySemanticBatch batch at').2⟩
  obtain ⟨p', hp', hid'⟩ := hkept.projects projectKey p hp
  obtain ⟨a', ha', hlock, -⟩ := hlocked
  obtain rfl : a' = a := Option.some.inj (ha'.symm.trans ha)
  exact ⟨a', p', hkept.assignment.trans ha, hlock, hp', hid'.trans hid⟩

end

/-! ### A locked session -/

/-- The session of the first transcript, which the user keeps in the project of its directory. -/
def lockedFile : CatalogFile where
  userVersion := catalogSchemaVersion
  columns := currentColumns
  catalog := (afterFirstTranscript.assignSession (transcriptCandidate "/a" 100).identity.stableKey
    (sampleDirectory "/a" "a").canonicalKey true 200).toOption.getD (.empty 20)

/-- A later transcript of another directory leaves the locked session where it is. -/
theorem lockedSession_kept_laterTranscript :
    ∃ db, CatalogOp.Step twoDirectories lockedFile.catalog
        (.upsertCandidate (transcriptCandidate "/b" 300)) db ∧
      ∃ a p, db.assignments.lookup (transcriptCandidate "/a" 100).identity.stableKey = some a ∧
        a.locked = true ∧ db.projects.lookup (sampleDirectory "/a" "a").canonicalKey = some p ∧
        p.id = a.projectId := by
  have hassign := eq_ok_of_isOk (x := afterFirstTranscript.assignSession
    (transcriptCandidate "/a" 100).identity.stableKey (sampleDirectory "/a" "a").canonicalKey true
    200) (by decide +kernel)
  have hwrite := eq_ok_of_isOk (x := lockedFile.catalog.upsertCandidate twoDirectories
    (transcriptCandidate "/b" 300)) (by decide +kernel)
  have hstep : CatalogOp.Step twoDirectories lockedFile.catalog
      (.upsertCandidate (transcriptCandidate "/b" 300))
      ((lockedFile.catalog.upsertCandidate twoDirectories
        (transcriptCandidate "/b" 300)).toOption.getD (.empty 20)) := by
    rw [CatalogOp.Step, CatalogOp.apply, hwrite]
    rfl
  refine ⟨_, hstep, ?_⟩
  have htables : lockedFile.userVersion ≠ 0 := four_ne_zero
  exact (lockedSession_kept htables hassign
    (.cons ⟨⟨_, hstep, rfl⟩, id⟩ (.nil _) : Run (fun file op file' =>
      FileOp.Step twoDirectories (fun _ => false) file op file' ∧
        ¬op.Reassigns (transcriptCandidate "/a" 100).identity.stableKey) lockedFile
      [.catalog (.upsertCandidate (transcriptCandidate "/b" 300))] _)).2.1

end Ork3.Projects
