import Ork3.Model.ProjectCatalog

/-!
# The tables a candidate touches

What the writes of one candidate do to the projects, the sessions and their assignments.
-/

namespace Ork3.Projects

open Ork3.Library

namespace ProjectCatalog

/-! ### Directories of sessions -/

/-- The stored directory with its rank. -/
def cwdField (existing : Option SessionRow) :
    Option String × Option Int × Option Int × Option String :=
  (existing.bind (·.cwd), existing.bind (·.cwdObservedAt), existing.bind (·.cwdPriority),
    existing.bind (·.cwdSourceKey))

/-- Whether the directory of a candidate takes the place of the one stored. -/
def replacesCwd (existing : Option SessionRow) (field : CandidateField PathBuf) : Bool :=
  replacesField field (cwdField existing).2.1 (cwdField existing).2.2.1 (cwdField existing).2.2.2

section
variable (row : SessionRow) (candidate : SessionCandidate)

lemma cwdField_updateTitle (field : CandidateField String) :
    cwdField (some (updateTitle field row)) = cwdField (some row) := by
  unfold updateTitle
  split
  · rfl
  · rfl

lemma cwd_updateTranscriptRef (field : CandidateField String) :
    (updateTranscriptRef field row).cwd = row.cwd := by
  unfold updateTranscriptRef
  split
  · rfl
  · rfl

lemma cwd_updateCwd (field : CandidateField PathBuf) : (updateCwd field row).cwd =
    if replacesCwd (some row) field then some field.value.toStringLossy else row.cwd := by
  unfold updateCwd
  change (if replacesCwd (some row) field then _ else _ : SessionRow).cwd = _
  split
  · rfl
  · rfl

/-- The directory of a session after a candidate: the candidate's where it outranks the stored one or
comes from the same reading of the same source, otherwise the stored one. -/
lemma cwd_upsertedSession (existing : Option SessionRow) :
    (upsertedSession existing candidate).cwd =
      match candidate.cwd with
      | none => existing.bind (·.cwd)
      | some field =>
        if replacesCwd existing field then some field.value.toStringLossy
        else existing.bind (·.cwd) := by
  have hbase : cwdField (some (existing.elim (insertedSession candidate) fun row =>
      mergedSession row candidate)) = cwdField existing := by
    cases existing with
    | none => rfl
    | some row => rfl
  have htitle : cwdField (some (candidate.title.elim (existing.elim (insertedSession candidate)
      fun row => mergedSession row candidate) fun field => updateTitle field (existing.elim
        (insertedSession candidate) fun row => mergedSession row candidate))) =
      cwdField existing := by
    cases candidate.title with
    | none => exact hbase
    | some field => exact (cwdField_updateTitle _ field).trans hbase
  unfold upsertedSession
  dsimp only
  generalize candidate.title.elim _ _ = row at htitle ⊢
  have hrow : row.cwd = existing.bind (·.cwd) := congrArg Prod.fst htitle
  have hcwd : (candidate.cwd.elim row fun field => updateCwd field row).cwd =
      match candidate.cwd with
      | none => existing.bind (·.cwd)
      | some field =>
        if replacesCwd existing field then some field.value.toStringLossy
        else existing.bind (·.cwd) := by
    cases candidate.cwd with
    | none => exact hrow
    | some field =>
      have hreplaces : replacesCwd (some row) field = replacesCwd existing field := by
        unfold replacesCwd
        rw [htitle]
      dsimp only [Option.elim_some]
      rw [cwd_updateCwd, hreplaces, hrow]
  cases candidate.transcriptRef with
  | none => exact hcwd
  | some field => exact (cwd_updateTranscriptRef _ field).trans hcwd

end

/-! ### Projects -/

/-- No two projects have the same number. -/
def DistinctIds (db : ProjectCatalog) : Prop :=
  ∀ k p k' p', db.projects.lookup k = some p → db.projects.lookup k' = some p' → p.id = p'.id →
    k = k'

/-- The key of the project with the given number. -/
def projectKeyById (db : ProjectCatalog) (id : Nat) : Option String :=
  (db.projects.entries.find? fun e => e.2.id = id).map (·.1)

section
variable {db : ProjectCatalog}

lemma projectKeyById_eq (hids : db.DistinctIds) {k : String} {p : ProjectRow}
    (h : db.projects.lookup k = some p) : db.projectKeyById p.id = some k := by
  have hmem := AList.mem_lookup_iff.mp h
  cases hfind : db.projects.entries.find? fun e => e.2.id = p.id with
  | none =>
    have hne := List.find?_eq_none.mp hfind _ hmem
    simp at hne
  | some e =>
    have hid : e.2.id = p.id := by simpa using List.find?_some hfind
    have hlookup : db.projects.lookup e.1 = some e.2 :=
      AList.mem_lookup_iff.mpr (List.mem_of_find?_eq_some hfind)
    rw [projectKeyById, hfind, Option.map_some, hids _ _ _ _ hlookup h hid]

lemma id_lt_nextProjectId {k : String} {p : ProjectRow} (h : db.projects.lookup k = some p) :
    p.id < db.nextProjectId := by
  have hmem : p.id ∈ db.projects.values.map (·.id) := List.mem_map_of_mem (Table.mem_values h)
  have hle : ∀ (l : List Nat) (n : Nat), n ∈ l → n ≤ l.foldr max 0 := by
    intro l n hn
    induction l with
    | nil => cases hn
    | cons m l ih =>
      rw [List.foldr_cons]
      rcases List.mem_cons.mp hn with rfl | hn
      · exact le_max_left _ _
      · exact (ih hn).trans (le_max_right _ _)
  exact Nat.lt_succ_of_le (hle _ _ hmem)

/-- Projects of `db` keep their numbers in `db'`. -/
def KeepsProjects (db db' : ProjectCatalog) : Prop :=
  ∀ k p, db.projects.lookup k = some p → ∃ p', db'.projects.lookup k = some p' ∧ p'.id = p.id

/-- A project is added under a new number or keeps the one it has. -/
lemma upsertProject_spec {db : ProjectCatalog} (hids : db.DistinctIds) (project : ProjectClassification)
    (observedAt : Int) :
    (db.upsertProject project observedAt).1.DistinctIds ∧
      KeepsProjects db (db.upsertProject project observedAt).1 ∧
      ∃ p, (db.upsertProject project observedAt).1.projects.lookup project.canonicalKey = some p ∧
        p.id = (db.upsertProject project observedAt).2 := by
  have hinsert : ∀ row : ProjectRow,
      (∀ k p, db.projects.lookup k = some p → p.id = row.id → k = project.canonicalKey) →
      (∀ p, db.projects.lookup project.canonicalKey = some p → row.id = p.id) →
      DistinctIds { db with projects := db.projects.insert project.canonicalKey row } ∧
        KeepsProjects db { db with projects := db.projects.insert project.canonicalKey row } := by
    intro row hfresh hold
    refine ⟨fun k p k' p' hk hk' hid => ?_, fun k p hk => ?_⟩
    · by_cases hkey : k = project.canonicalKey
      · by_cases hkey' : k' = project.canonicalKey
        · rw [hkey, hkey']
        · rw [hkey, AList.lookup_insert] at hk
          rw [AList.lookup_insert_ne hkey'] at hk'
          obtain rfl := Option.some.inj hk
          rw [hkey, hfresh k' p' hk' hid.symm]
      · rw [AList.lookup_insert_ne hkey] at hk
        by_cases hkey' : k' = project.canonicalKey
        · rw [hkey', AList.lookup_insert] at hk'
          obtain rfl := Option.some.inj hk'
          rw [hkey', hfresh k p hk hid]
        · rw [AList.lookup_insert_ne hkey'] at hk'
          exact hids k p k' p' hk hk' hid
    · by_cases hkey : k = project.canonicalKey
      · rw [hkey] at hk ⊢
        exact ⟨row, AList.lookup_insert _, hold p hk⟩
      · exact ⟨p, by rw [← hk]; exact AList.lookup_insert_ne hkey, rfl⟩
  unfold upsertProject
  split
  · rename_i row hrow
    obtain ⟨hdistinct, hkeeps⟩ := hinsert { row with updatedAt := max row.updatedAt observedAt }
      (fun k p hk hid => hids k p _ row hk hrow hid)
      (fun p hp => by rw [hrow] at hp; rw [← Option.some.inj hp])
    exact ⟨hdistinct, hkeeps, _, AList.lookup_insert _, rfl⟩
  · rename_i hrow
    obtain ⟨hdistinct, hkeeps⟩ := hinsert ⟨db.nextProjectId, project.kind, project.canonicalPath,
      project.displayName, observedAt, observedAt⟩
      (fun k p hk hid => absurd hid (id_lt_nextProjectId hk).ne)
      (fun p hp => by rw [hrow] at hp; cases hp)
    exact ⟨hdistinct, hkeeps, _, AList.lookup_insert _, rfl⟩

lemma upsertProject_tables (db : ProjectCatalog) (project : ProjectClassification) (observedAt : Int) :
    (db.upsertProject project observedAt).1.sessions = db.sessions ∧
      (db.upsertProject project observedAt).1.assignments = db.assignments := by
  unfold upsertProject
  split
  · exact ⟨rfl, rfl⟩
  · exact ⟨rfl, rfl⟩

end

/-- A refresh changes the classes of sessions only. -/
lemma lookup_refreshAutomationClasses (ext : External) (db : ProjectCatalog) (k : String) :
    ∃ f : SessionRow → SessionRow, (∀ row, ∃ c, f row = { row with sessionClass := c }) ∧
      (db.refreshAutomationClasses ext).1.sessions.lookup k = (db.sessions.lookup k).map f := by
  unfold refreshAutomationClasses
  dsimp only
  generalize db.sessions.entries.filter _ = promoted
  generalize db.sessions = t
  induction promoted generalizing t with
  | nil => exact ⟨id, fun row => ⟨row.sessionClass, rfl⟩, by rw [Option.map_id, List.foldl_nil]; rfl⟩
  | cons e promoted ih =>
    obtain ⟨f, hf, hlookup⟩ := ih (t.modify e.1 fun row => { row with sessionClass := .automation })
    rw [List.foldl_cons, hlookup, Table.lookup_modify]
    by_cases hk : k = e.1
    · rw [if_pos hk, ← hk, Option.map_map]
      refine ⟨_, fun row => ?_, rfl⟩
      obtain ⟨c, hc⟩ := hf { row with sessionClass := .automation }
      exact ⟨c, hc⟩
    · rw [if_neg hk]
      exact ⟨f, hf, rfl⟩

end ProjectCatalog

end Ork3.Projects
