import Ork3.Library.Run
import Ork3.Proofs.ProjectCatalog

/-!
# The directory of a session and its project

The stored directory of a session is chosen by rank, its automatic assignment by the candidate that
arrives. The two agree in a run as long as every candidate that decides an assignment also brings the
directory that is stored, or one of the same project.
-/

namespace Ork3.Projects

open Ork3.Library

section
variable (ext : External)

/-- The project of a stored directory. -/
def storedClassification (cwd : Option String) : ProjectClassification :=
  classify ext (cwd.map PathBuf.ofStr)

def SameProject (p q : ProjectClassification) : Prop :=
  p.canonicalKey = q.canonicalKey

instance (p q : ProjectClassification) : Decidable (SameProject p q) :=
  inferInstanceAs (Decidable (_ = _))

end

namespace ProjectCatalog

section
variable (ext : External)

/-- Every automatic assignment is to the project of the session's stored directory. -/
def DirectoriesAgree (db : ProjectCatalog) : Prop :=
  ∀ k a, db.assignments.lookup k = some a → a.source = .automatic →
    ∃ s, db.sessions.lookup k = some s ∧
      db.projectKeyById a.projectId = some (storedClassification ext s.cwd).canonicalKey

def IsAutomatic (db : ProjectCatalog) (stableKey : String) : Prop :=
  ∃ a, db.assignments.lookup stableKey = some a ∧ a.source = .automatic

/-- The condition under which writing a candidate keeps the two in agreement. A candidate that
leaves an automatic assignment alone may only bring a path that is no text where it is classified
like the absent directory; one that decides the assignment brings the directory that is then stored,
or one of the same project. -/
def KeepsAgreement (db : ProjectCatalog) (candidate : SessionCandidate) : Prop :=
  let candidate := db.resolveAliasPrimary ext candidate
  let existing := db.sessions.lookup candidate.identity.stableKey
  let stored := storedClassification ext (existing.bind (·.cwd))
  let written (field : CandidateField PathBuf) :=
    storedClassification ext (some field.value.toStringLossy)
  if db.canPreserveExistingAssignment candidate then
    ∀ field, candidate.cwd = some field → replacesCwd existing field → field.value.toStr = none →
      db.IsAutomatic candidate.identity.stableKey → SameProject (written field) stored
  else
    db.isLocked candidate.identity.stableKey ∨
      match candidate.cwd with
      | none => SameProject (.unclassified ext) stored
      | some field =>
        if replacesCwd existing field then SameProject (ext.classify field.value) (written field)
        else SameProject (ext.classify field.value) stored

/-- The invariant of the runs that keep the agreement. -/
structure Consistent (db : ProjectCatalog) : Prop where
  distinct : db.DistinctIds
  locked_manual : ∀ k a, db.assignments.lookup k = some a → a.locked → a.source = .manual
  agrees : ∀ k a, db.assignments.lookup k = some a → a.source = .automatic →
    ∃ s p, db.sessions.lookup k = some s ∧
      db.projects.lookup (storedClassification ext s.cwd).canonicalKey = some p ∧
      p.id = a.projectId

end

section
variable {ext : External} {db db' : ProjectCatalog}

lemma Consistent.directoriesAgree (h : db.Consistent ext) : db.DirectoriesAgree ext := by
  intro k a ha hauto
  obtain ⟨s, p, hs, hp, hid⟩ := h.agrees k a ha hauto
  exact ⟨s, hs, hid ▸ projectKeyById_eq h.distinct hp⟩

lemma consistent_empty (threshold : Nat) : (empty threshold).Consistent ext where
  distinct k p _ _ h := by
    rw [empty, AList.lookup_empty] at h
    cases h
  locked_manual k a h := by
    rw [empty, AList.lookup_empty] at h
    cases h
  agrees k a h := by
    rw [empty, AList.lookup_empty] at h
    cases h

/-- The invariant reads the projects, the sessions and the assignments only. -/
lemma Consistent.congr (h : db.Consistent ext) (hprojects : db'.projects = db.projects)
    (hsessions : db'.sessions = db.sessions) (hassignments : db'.assignments = db.assignments) :
    db'.Consistent ext where
  distinct := by
    unfold DistinctIds
    rw [hprojects]
    exact h.distinct
  locked_manual := by
    rw [hassignments]
    exact h.locked_manual
  agrees := by
    rw [hassignments, hsessions, hprojects]
    exact h.agrees

/-! ### Writing a candidate -/

/-- The directory a preserved assignment goes with is the one already stored. -/
lemma preserved_cwd {candidate : SessionCandidate} {field : CandidateField PathBuf}
    (h : db.canPreserveExistingAssignment candidate) (hcwd : candidate.cwd = some field) :
    (db.sessions.lookup candidate.identity.stableKey).bind (·.cwd) = field.value.toStr := by
  unfold canPreserveExistingAssignment at h
  dsimp only at h
  cases hs : db.sessions.lookup candidate.identity.stableKey with
  | none => simp [hs] at h
  | some s =>
    cases ha : db.assignments.lookup candidate.identity.stableKey with
    | none => simp [hs, ha] at h
    | some a =>
      cases hp : db.projectById a.projectId with
      | none => simp [hs, ha, hp] at h
      | some p =>
        simp only [hs, ha, hp, hcwd, Option.bind_eq_bind, Option.bind_some, Option.pure_def] at h
        split at h
        · cases h
        · simpa using h

lemma toStringLossy_of_toStr {path : PathBuf} {s : String} (h : path.toStr = some s) :
    path.toStringLossy = s := by
  unfold PathBuf.toStr at h
  cases hdecoded : fromUtf8 path.bytes with
  | error e =>
    rw [hdecoded] at h
    cases h
  | ok chars =>
    rw [hdecoded] at h
    rw [PathBuf.toStringLossy, fromUtf8Lossy_of_ok hdecoded]
    exact Option.some.inj h

/-- The project that a candidate assigns its session to, if it does not leave the assignment. -/
def candidateProject (ext : External) (db : ProjectCatalog) (candidate : SessionCandidate) :
    Option ProjectClassification :=
  if db.canPreserveExistingAssignment candidate then
    none
  else
    some (classify ext (candidate.cwd.map (·.value)))

/-- The directory stored after a resolved candidate is one of the project its session has then. -/
def StoresSameProject (ext : External) (db : ProjectCatalog) (candidate : SessionCandidate)
    (project : Option ProjectClassification) : Prop :=
  let existing := db.sessions.lookup candidate.identity.stableKey
  let stored := storedClassification ext (upsertedSession existing candidate).cwd
  match project with
  | none => db.IsAutomatic candidate.identity.stableKey →
      SameProject stored (storedClassification ext (existing.bind (·.cwd)))
  | some project => db.isLocked candidate.identity.stableKey ∨ SameProject project stored

lemma KeepsAgreement.storesSameProject {candidate : SessionCandidate}
    (h : db.KeepsAgreement ext candidate) :
    db.StoresSameProject ext (db.resolveAliasPrimary ext candidate)
      (db.candidateProject ext (db.resolveAliasPrimary ext candidate)) := by
  unfold KeepsAgreement at h
  unfold StoresSameProject candidateProject
  dsimp only at h ⊢
  generalize db.resolveAliasPrimary ext candidate = candidate at h ⊢
  rw [cwd_upsertedSession]
  split at h
  · rename_i hpreserve
    rw [if_pos hpreserve]
    cases hcwd : candidate.cwd with
    | none => exact fun _ => rfl
    | some field =>
      dsimp only
      split
      · rename_i hreplaces
        cases hstr : field.value.toStr with
        | none => exact h field hcwd hreplaces hstr
        | some s =>
          rw [toStringLossy_of_toStr hstr, preserved_cwd hpreserve hcwd, hstr]
          exact fun _ => rfl
      · exact fun _ => rfl
  · rename_i hpreserve
    rw [if_neg hpreserve]
    refine h.imp_right fun h => ?_
    cases hcwd : candidate.cwd with
    | none =>
      rw [hcwd] at h
      exact h
    | some field =>
      rw [hcwd] at h
      dsimp only [Option.map_some, classify] at h ⊢
      split
      · rename_i hreplaces
        rwa [if_pos hreplaces] at h
      · rename_i hreplaces
        rwa [if_neg hreplaces] at h

lemma Consistent.upsertSession (h : db.Consistent ext) {candidate : SessionCandidate}
    (hstored : db.StoresSameProject ext candidate none) :
    (db.upsertSession candidate).Consistent ext where
  distinct := h.distinct
  locked_manual := h.locked_manual
  agrees k a ha hauto := by
    obtain ⟨s, p, hs, hp, hid⟩ := h.agrees k a ha hauto
    by_cases hk : k = candidate.identity.stableKey
    · subst hk
      refine ⟨_, p, AList.lookup_insert _, ?_, hid⟩
      have hsame := hstored ⟨a, ha, hauto⟩
      rw [hs] at hsame ⊢
      rw [show (storedClassification ext (upsertedSession (some s) candidate).cwd).canonicalKey = _
        from hsame]
      exact hp
    · exact ⟨s, p, by rw [← hs]; exact AList.lookup_insert_ne hk, hp, hid⟩

/-- The rows of other sessions keep their projects. -/
lemma Consistent.agrees_of_eq (h : db.Consistent ext) {k : String} {a : AssignmentRow}
    (hassignments : db'.assignments.lookup k = db.assignments.lookup k)
    (hsessions : db'.sessions.lookup k = db.sessions.lookup k) (hprojects : KeepsProjects db db')
    (ha : db'.assignments.lookup k = some a) (hauto : a.source = .automatic) :
    ∃ s p, db'.sessions.lookup k = some s ∧
      db'.projects.lookup (storedClassification ext s.cwd).canonicalKey = some p ∧
      p.id = a.projectId := by
  obtain ⟨s, p, hs, hp, hid⟩ := h.agrees k a (hassignments ▸ ha) hauto
  obtain ⟨p', hp', hid'⟩ := hprojects _ _ hp
  exact ⟨s, p', hsessions.trans hs, hp', hid'.trans hid⟩

/-- An assignment is written together with the directory it comes from. -/
lemma Consistent.assign (h : db.Consistent ext) {candidate : SessionCandidate}
    {project : ProjectClassification}
    (hstored : db.StoresSameProject ext candidate (some project)) :
    (db.writeSession candidate (some project)).Consistent ext := by
  obtain ⟨hids, hkeeps, p, hp, hid⟩ := upsertProject_spec
    (show (db.upsertSession candidate).DistinctIds from h.distinct) project candidate.observedAt
  obtain ⟨hsessions, hassignments⟩ := upsertProject_tables (db.upsertSession candidate)
    project candidate.observedAt
  unfold ProjectCatalog.writeSession
  dsimp only
  generalize (db.upsertSession candidate).upsertProject project candidate.observedAt = r at *
  have hlocked : r.1.isLocked candidate.identity.stableKey =
      db.isLocked candidate.identity.stableKey := by
    rw [isLocked, hassignments]
    rfl
  have hother : ∀ k, k ≠ candidate.identity.stableKey →
      r.1.sessions.lookup k = db.sessions.lookup k := by
    intro k hk
    rw [hsessions]
    exact AList.lookup_insert_ne hk
  unfold upsertAssignment
  rw [hlocked]
  dsimp only
  split
  · rename_i hlock
    refine ⟨hids, hassignments ▸ h.locked_manual, fun k a ha hauto => ?_⟩
    have hk : k ≠ candidate.identity.stableKey := by
      rintro rfl
      rw [hassignments] at ha
      have ha' : db.assignments.lookup candidate.identity.stableKey = some a := ha
      rw [isLocked, ha', Option.any_some] at hlock
      rw [h.locked_manual _ a ha' hlock] at hauto
      cases hauto
    exact h.agrees_of_eq (by rw [hassignments]; rfl) (hother k hk) hkeeps ha hauto
  · rename_i hlock
    refine ⟨hids, fun k a ha halocked => ?_, fun k a ha hauto => ?_⟩
    · by_cases hk : k = candidate.identity.stableKey
      · rw [hk, AList.lookup_insert] at ha
        obtain rfl := Option.some.inj ha
        cases halocked
      · rw [AList.lookup_insert_ne hk, hassignments] at ha
        exact h.locked_manual k a ha halocked
    · by_cases hk : k = candidate.identity.stableKey
      · subst hk
        rw [AList.lookup_insert] at ha
        obtain rfl := Option.some.inj ha
        have hsame := hstored.resolve_left hlock
        refine ⟨_, p, by rw [hsessions]; exact AList.lookup_insert _, ?_, hid⟩
        exact hsame ▸ hp
      · refine h.agrees_of_eq ?_ (hother k hk) hkeeps ha hauto
        exact (AList.lookup_insert_ne hk).trans (by rw [hassignments]; rfl)

lemma Consistent.writeSession (h : db.Consistent ext) {candidate : SessionCandidate}
    {project : Option ProjectClassification}
    (hstored : db.StoresSameProject ext candidate project) :
    (db.writeSession candidate project).Consistent ext := by
  cases project with
  | none => exact h.upsertSession hstored
  | some project => exact h.assign hstored

lemma Consistent.reconcile (h : db.Consistent ext) (stableKey : String) :
    (db.reconcileSemanticAssignment ext stableKey).Consistent ext := by
  unfold reconcileSemanticAssignment
  dsimp only
  split
  · exact h
  · split
    · exact h.congr rfl rfl rfl
    · exact h

lemma Consistent.upsertAliases (h : db.Consistent ext) {candidate : SessionCandidate}
    (hok : db.upsertAliases candidate = .ok db') : db'.Consistent ext := by
  unfold ProjectCatalog.upsertAliases at hok
  generalize candidate.aliases = aliases at hok
  induction aliases generalizing db with
  | nil =>
    obtain rfl := Except.ok.inj hok
    exact h
  | cons sessionAlias aliases ih =>
    rw [List.foldlM_cons] at hok
    cases hone : db.upsertAlias candidate sessionAlias with
    | error e =>
      rw [hone] at hok
      cases hok
    | ok db₁ =>
      rw [hone] at hok
      refine ih ?_ hok
      unfold upsertAlias at hone
      dsimp only at hone
      split_ifs at hone
      obtain rfl := Except.ok.inj hone
      exact h.congr rfl rfl rfl

lemma Consistent.upsertRuntime (h : db.Consistent ext) (candidate : SessionCandidate) :
    (db.upsertRuntime candidate).Consistent ext := by
  unfold ProjectCatalog.upsertRuntime
  split
  · exact h
  · dsimp only
    split
    · exact h
    · exact h.congr rfl rfl rfl

/-- A candidate that meets the condition keeps the invariant. -/
lemma Consistent.writeCandidate (h : db.Consistent ext) {candidate : SessionCandidate}
    {project : Option ProjectClassification}
    (hstored : db.StoresSameProject ext candidate project)
    (hok : db.writeCandidate ext candidate project = .ok db') : db'.Consistent ext := by
  have hwritten : (((db.writeSession candidate project).reconcileSemanticAssignment ext
      candidate.identity.stableKey).upsertSource candidate).Consistent ext :=
    ((h.writeSession hstored).reconcile _).congr rfl rfl rfl
  unfold ProjectCatalog.writeCandidate at hok
  dsimp only at hok
  generalize ((db.writeSession candidate project).reconcileSemanticAssignment ext
    candidate.identity.stableKey).upsertSource candidate = written at *
  cases haliases : written.upsertAliases candidate with
  | error e =>
    rw [haliases] at hok
    cases hok
  | ok db₁ =>
    rw [haliases] at hok
    obtain rfl := Except.ok.inj hok
    exact (hwritten.upsertAliases haliases).upsertRuntime candidate

/-! ### Candidates and chunks -/

lemma Consistent.upsertCandidate (h : db.Consistent ext) {candidate : SessionCandidate}
    (hkeeps : db.KeepsAgreement ext candidate)
    (hok : db.upsertCandidate ext candidate = .ok db') : db'.Consistent ext := by
  unfold ProjectCatalog.upsertCandidate at hok
  change (db.writeCandidate ext _ (db.candidateProject ext _) >>= fun db => _) = _ at hok
  cases hwrite : db.writeCandidate ext (db.resolveAliasPrimary ext candidate)
      (db.candidateProject ext (db.resolveAliasPrimary ext candidate)) with
  | error e =>
    rw [hwrite] at hok
    cases hok
  | ok db₁ =>
    rw [hwrite] at hok
    obtain rfl := Except.ok.inj hok
    exact (h.writeCandidate hkeeps.storesSameProject hwrite).congr rfl rfl rfl

/-- The cache of a chunk holds what the classifier says. -/
def CacheSound (ext : External) (cache : Classifications) : Prop :=
  ∀ e ∈ cache, e.2 = ext.classify e.1

lemma classifyCached_eq {cache : Classifications} (h : CacheSound ext cache) (path : PathBuf) :
    (classifyCached ext cache path).2 = ext.classify path ∧
      CacheSound ext (classifyCached ext cache path).1 := by
  unfold classifyCached
  split
  · rename_i e he
    have hcomp : e.1.components = path.components := by simpa using List.find?_some he
    exact ⟨(h e (List.mem_of_find?_eq_some he)).trans (ext.classify_congr _ _ hcomp), h⟩
  · refine ⟨rfl, fun e he => ?_⟩
    rcases List.mem_cons.mp he with rfl | he
    · rfl
    · exact h e he

/-- In a chunk a candidate is written as it would be alone. -/
lemma upsertScannedCandidate_ok {cache cache' : Classifications} (hcache : CacheSound ext cache)
    {candidate : SessionCandidate}
    (hok : upsertScannedCandidate ext cache db candidate = .ok (cache', db')) :
    CacheSound ext cache' ∧ db.writeCandidate ext (db.resolveAliasPrimary ext candidate)
      (db.candidateProject ext (db.resolveAliasPrimary ext candidate)) = .ok db' := by
  unfold upsertScannedCandidate at hok
  unfold candidateProject
  dsimp only at hok
  generalize db.resolveAliasPrimary ext candidate = candidate at hok ⊢
  have hwrite : ∀ {cache₁ : Classifications} {project : Option ProjectClassification},
      (db.writeCandidate ext candidate project >>= fun db => Except.ok (cache₁, db)) =
        .ok (cache', db') →
      cache₁ = cache' ∧ db.writeCandidate ext candidate project = .ok db' := by
    intro cache₁ project hok
    cases hw : db.writeCandidate ext candidate project with
    | error e =>
      rw [hw] at hok
      cases hok
    | ok db₁ =>
      rw [hw] at hok
      obtain ⟨rfl, rfl⟩ := Prod.mk.inj (Except.ok.inj hok)
      exact ⟨rfl, rfl⟩
  split at hok
  · rename_i hpreserve
    obtain ⟨rfl, hw⟩ := hwrite hok
    exact ⟨hcache, by rw [if_pos hpreserve]; exact hw⟩
  · rename_i hpreserve
    rw [if_neg hpreserve]
    cases hcwd : candidate.cwd with
    | none =>
      rw [hcwd] at hok
      obtain ⟨rfl, hw⟩ := hwrite hok
      exact ⟨hcache, hw⟩
    | some field =>
      rw [hcwd] at hok
      obtain ⟨hproject, hsound⟩ := classifyCached_eq hcache field.value
      obtain ⟨rfl, hw⟩ := hwrite hok
      dsimp only at hw
      rw [hproject] at hw
      exact ⟨hsound, hw⟩

/-- Each candidate of a chunk meets the condition in the state before it. -/
def ChunkKeepsAgreement (ext : External) : Classifications → ProjectCatalog →
    List SessionCandidate → Prop
  | _, _, [] => True
  | cache, db, candidate :: candidates =>
    db.KeepsAgreement ext candidate ∧ ∀ cache' db',
      upsertScannedCandidate ext cache db candidate = .ok (cache', db') →
        ChunkKeepsAgreement ext cache' db' candidates

lemma Consistent.chunk (h : db.Consistent ext) {candidates : List SessionCandidate}
    {cache cache' : Classifications} (hcache : CacheSound ext cache)
    (hkeeps : ChunkKeepsAgreement ext cache db candidates)
    (hok : candidates.foldlM (fun (r : Classifications × ProjectCatalog) candidate =>
      upsertScannedCandidate ext r.1 r.2 candidate) (cache, db) = .ok (cache', db')) :
    db'.Consistent ext := by
  induction candidates generalizing db cache with
  | nil =>
    obtain ⟨-, rfl⟩ := Prod.mk.inj (Except.ok.inj hok)
    exact h
  | cons candidate candidates ih =>
    rw [List.foldlM_cons] at hok
    cases hone : upsertScannedCandidate ext cache db candidate with
    | error e =>
      rw [hone] at hok
      cases hok
    | ok r =>
      rw [hone] at hok
      obtain ⟨hsound, hwrite⟩ := upsertScannedCandidate_ok hcache hone
      exact ih (h.writeCandidate hkeeps.1.storesSameProject hwrite) hsound (hkeeps.2 _ _ hone) hok

/-- A refresh changes the classes of sessions, not their directories. -/
lemma Consistent.refreshAutomationClasses (h : db.Consistent ext) :
    (db.refreshAutomationClasses ext).1.Consistent ext := by
  refine ⟨h.distinct, h.locked_manual, fun k a ha hauto => ?_⟩
  obtain ⟨s, p, hs, hp, hid⟩ := h.agrees k a ha hauto
  obtain ⟨f, hf, hlookup⟩ := lookup_refreshAutomationClasses ext db k
  obtain ⟨c, hc⟩ := hf s
  refine ⟨f s, p, ?_, ?_, hid⟩
  · rw [hlookup, hs, Option.map_some]
  · rw [hc]
    exact hp

lemma Consistent.upsertScannedCandidates (h : db.Consistent ext)
    {candidates : List SessionCandidate} (hkeeps : ChunkKeepsAgreement ext [] db candidates)
    (hok : db.upsertScannedCandidates ext candidates = .ok db') : db'.Consistent ext := by
  unfold ProjectCatalog.upsertScannedCandidates at hok
  split at hok
  · obtain rfl := Except.ok.inj hok
    exact h
  · change (candidates.foldlM (fun (r : Classifications × ProjectCatalog) candidate =>
      upsertScannedCandidate ext r.1 r.2 candidate) (([] : Classifications), db) >>= _) = _ at hok
    cases hfold : candidates.foldlM (fun (r : Classifications × ProjectCatalog) candidate =>
        upsertScannedCandidate ext r.1 r.2 candidate) (([] : Classifications), db) with
    | error e =>
      rw [hfold] at hok
      cases hok
    | ok r =>
      rw [hfold] at hok
      obtain rfl := Except.ok.inj hok
      have hchunk : r.2.Consistent ext := h.chunk (fun e he => by cases he) hkeeps hfold
      exact hchunk.refreshAutomationClasses.congr rfl rfl rfl

/-! ### The other operations -/

/-- An assignment that is not automatic, or that keeps its project, disturbs nothing. -/
lemma Consistent.insertAssignment (h : db.Consistent ext) (k : String) (row : AssignmentRow)
    (hlocked : row.locked → row.source = .manual)
    (hauto : row.source = .automatic →
      ∃ a, db.assignments.lookup k = some a ∧ a.source = .automatic ∧ a.projectId = row.projectId) :
    Consistent ext { db with assignments := db.assignments.insert k row } where
  distinct := h.distinct
  locked_manual k' a ha halocked := by
    by_cases hk : k' = k
    · rw [hk, AList.lookup_insert] at ha
      obtain rfl := Option.some.inj ha
      exact hlocked halocked
    · rw [AList.lookup_insert_ne hk] at ha
      exact h.locked_manual k' a ha halocked
  agrees k' a ha haauto := by
    by_cases hk : k' = k
    · rw [hk, AList.lookup_insert] at ha
      obtain rfl := Option.some.inj ha
      obtain ⟨b, hb, hbauto, hid⟩ := hauto haauto
      obtain ⟨s, p, hs, hp, hpid⟩ := h.agrees k b hb hbauto
      exact ⟨s, p, hk ▸ hs, hp, hpid.trans hid⟩
    · rw [AList.lookup_insert_ne hk] at ha
      exact h.agrees k' a ha haauto

lemma Consistent.assignSession (h : db.Consistent ext) {stableKey projectKey : String}
    {lock : Bool} {observedAt : Int}
    (hok : db.assignSession stableKey projectKey lock observedAt = .ok db') :
    db'.Consistent ext := by
  unfold ProjectCatalog.assignSession at hok
  split at hok
  · cases hok
  · cases hok
  · rename_i project _ _ _
    obtain rfl := Except.ok.inj hok
    have hwritten := h.insertAssignment stableKey ⟨project.id, .manual, "manual", lock, observedAt⟩
      (fun _ => rfl) (fun hauto => by cases hauto)
    exact hwritten.congr rfl rfl rfl

lemma Consistent.unlockSession (h : db.Consistent ext) {stableKey : String} {observedAt : Int}
    (hok : db.unlockSession stableKey observedAt = .ok db') : db'.Consistent ext := by
  unfold ProjectCatalog.unlockSession at hok
  split at hok
  · cases hok
  · rename_i a ha
    obtain rfl := Except.ok.inj hok
    have hwritten := h.insertAssignment stableKey
      { a with locked := false, updatedAt := observedAt } (fun hlock => by cases hlock)
      (fun hauto => ⟨a, ha, hauto, rfl⟩)
    exact hwritten.congr rfl rfl rfl

lemma Consistent.deleteSession (h : db.Consistent ext) (stableKey : String) :
    (db.deleteSession stableKey).Consistent ext := by
  have hne : ∀ {k a}, (db.deleteSession stableKey).assignments.lookup k = some a →
      k ≠ stableKey ∧ db.assignments.lookup k = some a := by
    intro k a ha
    have hk : k ≠ stableKey := by
      rintro rfl
      change (db.assignments.erase k).lookup k = some a at ha
      rw [AList.lookup_erase] at ha
      cases ha
    exact ⟨hk, by rw [← ha]; exact (AList.lookup_erase_ne hk).symm⟩
  refine ⟨h.distinct, fun k a ha => h.locked_manual k a (hne ha).2, fun k a ha hauto => ?_⟩
  obtain ⟨hk, ha'⟩ := hne ha
  obtain ⟨s, p, hs, hp, hid⟩ := h.agrees k a ha' hauto
  exact ⟨s, p, by rw [← hs]; exact AList.lookup_erase_ne hk, hp, hid⟩

lemma Consistent.deleteSessions (h : db.Consistent ext) (keys : List String) :
    (keys.foldl ProjectCatalog.deleteSession db).Consistent ext := by
  induction keys generalizing db with
  | nil => exact h
  | cons key keys ih => exact ih (h.deleteSession key)

lemma Consistent.deleteExcluded (h : db.Consistent ext) (adapter rootKey : String)
    (sourceKeys : List String) :
    (sourceKeys.foldl (ProjectCatalog.deleteExcluded adapter rootKey) db).Consistent ext := by
  induction sourceKeys generalizing db with
  | nil => exact h
  | cons sourceKey sourceKeys ih => exact ih (h.deleteSessions _)

lemma Consistent.completeRootScan (h : db.Consistent ext) (adapter rootKey : String)
    (completion : ScanCompletion) (seenSourceKeys excludedSourceKeys : List String)
    (observedAt : Int) :
    (db.completeRootScan adapter rootKey completion seenSourceKeys excludedSourceKeys
      observedAt).Consistent ext := by
  unfold ProjectCatalog.completeRootScan
  dsimp only
  split
  · exact (h.deleteExcluded adapter rootKey excludedSourceKeys).congr rfl rfl rfl
  · exact h.congr rfl rfl rfl

lemma Consistent.applySemantic (h : db.Consistent ext) (item : SemanticAssignment)
    (observedAt : Int) : (db.applySemantic ext item observedAt).Consistent ext := by
  unfold ProjectCatalog.applySemantic
  dsimp only
  split
  · exact h
  · obtain ⟨hids, hkeeps, -⟩ := upsertProject_spec h.distinct
      (.new ext .semantic item.topicKey item.topicLabel "semantic") observedAt
    obtain ⟨hsessions, hassignments⟩ := upsertProject_tables db
      (.new ext .semantic item.topicKey item.topicLabel "semantic") observedAt
    refine ⟨hids, hassignments ▸ h.locked_manual, fun k a ha hauto => ?_⟩
    exact h.agrees_of_eq (by rw [hassignments]) (by rw [hsessions]) hkeeps ha hauto

lemma Consistent.applySemanticBatch (h : db.Consistent ext) (batch : List SemanticAssignment)
    (observedAt : Int) : (db.applySemanticBatch ext batch observedAt).Consistent ext := by
  have hbatch : (batch.foldl (fun db item => db.applySemantic ext item observedAt) db).Consistent
      ext := by
    induction batch generalizing db with
    | nil => exact h
    | cons item batch ih => exact ih (h.applySemantic item observedAt)
  exact hbatch.congr rfl rfl rfl

end

end ProjectCatalog

/-! ### Runs -/

/-- An operation on the catalog with its arguments. -/
inductive CatalogOp
  | upsertCandidate (candidate : SessionCandidate)
  | upsertScannedCandidates (candidates : List SessionCandidate)
  | assignSession (stableKey projectKey : String) (lock : Bool) (observedAt : Int)
  | unlockSession (stableKey : String) (observedAt : Int)
  | completeRootScan (adapter rootKey : String) (completion : ScanCompletion)
      (seenSourceKeys excludedSourceKeys : List String) (observedAt : Int)
  | applySemanticBatch (batch : List SemanticAssignment) (observedAt : Int)

namespace CatalogOp
variable (ext : External)

def apply (db : ProjectCatalog) : CatalogOp → Except CatalogError ProjectCatalog
  | upsertCandidate candidate => db.upsertCandidate ext candidate
  | upsertScannedCandidates candidates => db.upsertScannedCandidates ext candidates
  | assignSession stableKey projectKey lock observedAt =>
    db.assignSession stableKey projectKey lock observedAt
  | unlockSession stableKey observedAt => db.unlockSession stableKey observedAt
  | completeRootScan adapter rootKey completion seenSourceKeys excludedSourceKeys observedAt =>
    .ok (db.completeRootScan adapter rootKey completion seenSourceKeys excludedSourceKeys observedAt)
  | applySemanticBatch batch observedAt => .ok (db.applySemanticBatch ext batch observedAt)

/-- A failed operation is rolled back. -/
def Step (db : ProjectCatalog) (op : CatalogOp) (db' : ProjectCatalog) : Prop :=
  match op.apply ext db with
  | .ok written => db' = written
  | .error _ => db' = db

/-- The condition on a step: every candidate it writes keeps the agreement. -/
def KeepsAgreement (db : ProjectCatalog) : CatalogOp → Prop
  | upsertCandidate candidate => db.KeepsAgreement ext candidate
  | upsertScannedCandidates candidates =>
    ProjectCatalog.ChunkKeepsAgreement ext [] db candidates
  | _ => True

end CatalogOp

section
variable {ext : External} {db db' : ProjectCatalog}

lemma ProjectCatalog.Consistent.step (h : db.Consistent ext) {op : CatalogOp}
    (hkeeps : op.KeepsAgreement ext db) (hstep : op.Step ext db db') : db'.Consistent ext := by
  unfold CatalogOp.Step at hstep
  cases happly : op.apply ext db with
  | error e =>
    rw [happly] at hstep
    exact hstep ▸ h
  | ok written =>
    rw [happly] at hstep
    subst hstep
    cases op with
    | upsertCandidate candidate => exact h.upsertCandidate hkeeps happly
    | upsertScannedCandidates candidates => exact h.upsertScannedCandidates hkeeps happly
    | assignSession => exact h.assignSession happly
    | unlockSession => exact h.unlockSession happly
    | completeRootScan =>
      obtain rfl := Except.ok.inj happly
      exact h.completeRootScan ..
    | applySemanticBatch =>
      obtain rfl := Except.ok.inj happly
      exact h.applySemanticBatch ..

/-- In a run of a new catalog whose steps all meet the condition, every automatic assignment is to
the project of the session's stored directory. -/
theorem directoriesAgree_of_run {threshold : Nat} {ops : List CatalogOp}
    (hrun : Run (fun db op db' => op.KeepsAgreement ext db ∧ op.Step ext db db')
      (.empty threshold) ops db) : db.DirectoriesAgree ext :=
  (hrun.invariant (fun _ _ _ h hs => h.step hs.1 hs.2)
    (ProjectCatalog.consistent_empty threshold)).directoriesAgree

end

/-! ### Two directories -/

/-- The digests of one session and three projects. -/
def sampleDigest (_domain : List UInt8) (fields : List (List UInt8)) : String :=
  let digests : List (List String × String) :=
    [(["codex", "id", "session-1"],
        "5ddc2bdebeeb6ccff932958b590307e11100a383ce97d13c38cfd5c0d92ca739"),
      (["cwd", "/a"], "62b30ab2b586de00fff2eceafab217f860e60794c6493aeffc711610b535e101"),
      (["cwd", "/b"], "3efe61b5454771eb175d0c03d9e2fd4e0fd8d2f3eeadb3bccf98d5d95d1cd44a"),
      (["unclassified", "unclassified"],
        "975c63b81910c923b734276c1c434ca7f7ebbc5d8be91bc9b190c69a35a0f038")]
  ((digests.find? fun e => e.1.map utf8Bytes = fields).map (·.2)).getD ""

/-- The project of an existing directory outside version control. -/
def sampleDirectory (path name : String) : ProjectClassification where
  canonicalKey := sampleDigest [] [utf8Bytes "cwd", utf8Bytes path]
  kind := .cwd
  canonicalPath := path
  displayName := name
  evidence := "cwd"

/-- A machine whose directories are `/a` and `/b`. -/
def twoDirectories : External where
  versionedKey := sampleDigest
  toLowercase s := s.map Char.toLower
  classify path :=
    if path.components = (PathBuf.ofStr "/a").components then sampleDirectory "/a" "a"
    else if path.components = (PathBuf.ofStr "/b").components then sampleDirectory "/b" "b"
    else
      ⟨sampleDigest [] [utf8Bytes "unclassified", utf8Bytes "unclassified"], .unclassified,
        "unclassified", "Unclassified", "cwd unavailable"⟩
  classify_congr p q h := by simp only [h]

/-- A transcript of the session, read at the given time, that names its directory. -/
def transcriptCandidate (cwd : String) (observedAt : Int) : SessionCandidate where
  identity := .fromCanonical twoDirectories "codex" .id "session-1"
  title := none
  cwd := some ⟨.ofStr cwd, observedAt, .transcriptFile, "transcript"⟩
  transcriptRef := none
  firstActivityAt := observedAt
  lastActivityAt := observedAt
  adapter := "codex"
  rootKey := "root"
  sourceKey := "transcript"
  observedAt := observedAt
  aliases := []
  runtime := none
  weight := ⟨0, 0, false⟩
  sessionClass := none

def afterFirstTranscript : ProjectCatalog :=
  ((ProjectCatalog.empty 20).upsertCandidate twoDirectories
    (transcriptCandidate "/a" 100)).toOption.getD (.empty 20)

def afterOlderTranscript : ProjectCatalog :=
  (afterFirstTranscript.upsertCandidate twoDirectories
    (transcriptCandidate "/b" 50)).toOption.getD (.empty 20)

lemma eq_ok_of_isOk {x : Except CatalogError ProjectCatalog} (h : x.isOk) :
    x = .ok (x.toOption.getD (.empty 20)) := by
  cases x with
  | error e => cases h
  | ok db => rfl

/-- A candidate that the catalog accepts. -/
lemma upsertCandidate_step {ext : External} {db : ProjectCatalog} {candidate : SessionCandidate}
    (h : (db.upsertCandidate ext candidate).isOk) :
    CatalogOp.Step ext db (.upsertCandidate candidate)
      ((db.upsertCandidate ext candidate).toOption.getD (.empty 20)) := by
  rw [CatalogOp.Step, CatalogOp.apply, eq_ok_of_isOk h]
  rfl

/-- An older transcript loses the directory and wins the assignment. -/
theorem olderTranscript_reassigns :
    ¬∀ ops db, Run (fun db op db' => CatalogOp.Step twoDirectories db op db') (.empty 20) ops db →
      db.DirectoriesAgree twoDirectories := by
  intro h
  have hassigned : afterOlderTranscript.assignments.lookup
      (transcriptCandidate "/a" 100).identity.stableKey = some ⟨2, .automatic, "cwd", false, 50⟩ := by
    decide
  obtain ⟨s, hs, hproject⟩ := h _ _ (.cons (upsertCandidate_step (by decide))
    (.cons (upsertCandidate_step (by decide)) (.nil afterOlderTranscript))) _ _ hassigned rfl
  have hcwd : (afterOlderTranscript.sessions.lookup
      (transcriptCandidate "/a" 100).identity.stableKey).map (·.cwd) = some (some "/a") := by
    decide
  rw [hs, Option.map_some, Option.some.injEq] at hcwd
  rw [hcwd] at hproject
  exact absurd hproject (by decide)

def afterLaterTranscript : ProjectCatalog :=
  (afterFirstTranscript.upsertCandidate twoDirectories
    (transcriptCandidate "/b" 200)).toOption.getD (.empty 20)

/-- A later transcript wins both. -/
theorem directoriesAgree_of_run_transcript :
    (afterLaterTranscript.sessions.lookup
        (transcriptCandidate "/a" 100).identity.stableKey).map (·.cwd) = some (some "/b") ∧
      afterLaterTranscript.DirectoriesAgree twoDirectories := by
  have hfirst : (ProjectCatalog.empty 20).KeepsAgreement twoDirectories
      (transcriptCandidate "/a" 100) := by
    unfold ProjectCatalog.KeepsAgreement
    rw [if_neg (by decide)]
    exact .inr (by decide : SameProject _ _)
  have hlater : afterFirstTranscript.KeepsAgreement twoDirectories
      (transcriptCandidate "/b" 200) := by
    unfold ProjectCatalog.KeepsAgreement
    rw [if_neg (by decide)]
    exact .inr (by decide : SameProject _ _)
  have hrun : Run (fun db op db' => CatalogOp.KeepsAgreement twoDirectories db op ∧
      CatalogOp.Step twoDirectories db op db') (.empty 20)
      [.upsertCandidate (transcriptCandidate "/a" 100),
        .upsertCandidate (transcriptCandidate "/b" 200)] afterLaterTranscript :=
    .cons ⟨hfirst, upsertCandidate_step (by decide)⟩
      (.cons ⟨hlater, upsertCandidate_step (by decide)⟩ (.nil _))
  exact ⟨by decide, directoriesAgree_of_run hrun⟩

end Ork3.Projects
