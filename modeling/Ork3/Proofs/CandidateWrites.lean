import Ork3.Proofs.ProjectCatalog

/-!
# What one candidate writes

The effect of a candidate on each table, and when the catalog refuses its aliases.
-/

namespace Ork3.Projects

open Ork3.Library

/-- What an identity is looked up by in the table of aliases. -/
def SessionIdentity.aliasKey (identity : SessionIdentity) : String × SessionRefKind × String :=
  (identity.backend, identity.refKind, identity.canonicalRefValue)

/-- What a session is called by its agent. -/
def SessionRow.ref (row : SessionRow) : String × SessionRefKind × String :=
  (row.backend, row.refKind, row.refValue)

namespace ProjectCatalog

/-- The session an identity is registered as an alias of. -/
def primaryOf (db : ProjectCatalog) (k : String × SessionRefKind × String) : Option String :=
  (db.aliases.lookup k).map (·.primaryStableKey)

/-- The aliases of a candidate are of its backend and registered for no other session. -/
def AcceptsAliases (db : ProjectCatalog) (candidate : SessionCandidate) : Prop :=
  ∀ a ∈ candidate.aliases, a.identity.backend = candidate.identity.backend ∧
    (db.primaryOf a.identity.aliasKey = none ∨
      db.primaryOf a.identity.aliasKey = some candidate.identity.stableKey)

/-- The row of the candidate's session, if there is one, is of the candidate's backend. -/
def SameBackend (db : ProjectCatalog) (candidate : SessionCandidate) : Prop :=
  ∀ row, db.sessions.lookup candidate.identity.stableKey = some row →
    row.backend = candidate.identity.backend

/-! ### Aliases -/

section
variable {db db' : ProjectCatalog} {candidate : SessionCandidate}

lemma primaryOf_insert (db : ProjectCatalog) (k k' : String × SessionRefKind × String)
    (row : AliasRow) :
    primaryOf { db with aliases := db.aliases.insert k row } k' =
      if k' = k then some row.primaryStableKey else db.primaryOf k' := by
  unfold primaryOf
  dsimp only
  by_cases hk : k' = k
  · rw [if_pos hk, hk, AList.lookup_insert, Option.map_some]
  · rw [if_neg hk, AList.lookup_insert_ne hk]

/-- An alias is registered for the candidate's session. -/
lemma upsertAlias_ok {a : SessionAliasCandidate} (hok : db.upsertAlias candidate a = .ok db') :
    (a.identity.backend = candidate.identity.backend ∧
      (db.primaryOf a.identity.aliasKey = none ∨
        db.primaryOf a.identity.aliasKey = some candidate.identity.stableKey)) ∧
    db' = { db with
      aliases := db.aliases.insert a.identity.aliasKey
        ⟨candidate.identity.stableKey, a.evidence⟩ } := by
  unfold upsertAlias at hok
  dsimp only at hok
  split_ifs at hok with hbackend hother hrow
  refine ⟨⟨not_not.mp hbackend, ?_⟩, (Except.ok.inj hok).symm⟩
  unfold primaryOf SessionIdentity.aliasKey
  cases hl : db.aliases.lookup (a.identity.backend, a.identity.refKind,
      a.identity.canonicalRefValue) with
  | none => exact .inl rfl
  | some row =>
    rw [hl, Option.any_some, decide_eq_true_eq, not_not] at hother
    exact .inr (congrArg some hother)

lemma upsertAlias_of_accepts {a : SessionAliasCandidate}
    (hrow : (db.sessions.lookup candidate.identity.stableKey).map (·.backend) =
      some candidate.identity.backend)
    (hbackend : a.identity.backend = candidate.identity.backend)
    (hprimary : db.primaryOf a.identity.aliasKey = none ∨
      db.primaryOf a.identity.aliasKey = some candidate.identity.stableKey) :
    ∃ db', db.upsertAlias candidate a = .ok db' := by
  unfold upsertAlias
  dsimp only
  rw [if_neg (not_not.mpr hbackend), if_neg, if_neg]
  · exact ⟨_, rfl⟩
  · rw [hrow, hbackend, not_not]
  · unfold primaryOf SessionIdentity.aliasKey at hprimary
    cases hl : db.aliases.lookup (a.identity.backend, a.identity.refKind,
        a.identity.canonicalRefValue) with
    | none => simp
    | some row =>
      rw [hl] at hprimary
      simpa using hprimary

/-- What registering the aliases of a candidate leaves behind. -/
structure AliasesWritten (db : ProjectCatalog) (candidate : SessionCandidate)
    (db' : ProjectCatalog) : Prop where
  frame : db' = { db with aliases := db'.aliases }
  primary : ∀ k, db'.primaryOf k =
    if k ∈ candidate.aliases.map (·.identity.aliasKey) then some candidate.identity.stableKey
    else db.primaryOf k

lemma foldlM_upsertAlias_ok {aliases : List SessionAliasCandidate}
    (hok : aliases.foldlM (fun db a => upsertAlias db candidate a) db = .ok db') :
    (∀ a ∈ aliases, a.identity.backend = candidate.identity.backend ∧
      (db.primaryOf a.identity.aliasKey = none ∨
        db.primaryOf a.identity.aliasKey = some candidate.identity.stableKey)) ∧
    db' = { db with aliases := db'.aliases } ∧
    ∀ k, db'.primaryOf k =
      if k ∈ aliases.map (·.identity.aliasKey) then some candidate.identity.stableKey
      else db.primaryOf k := by
  induction aliases generalizing db with
  | nil =>
    obtain rfl := Except.ok.inj hok
    exact ⟨fun a ha => (nomatch ha), rfl, fun k => rfl⟩
  | cons a aliases ih =>
    rw [List.foldlM_cons] at hok
    cases hone : db.upsertAlias candidate a with
    | error e =>
      rw [hone] at hok
      cases hok
    | ok db₁ =>
      rw [hone] at hok
      obtain ⟨ha, rfl⟩ := upsertAlias_ok hone
      obtain ⟨haccept, hframe, hprimary⟩ := ih hok
      refine ⟨fun b hb => ?_, hframe, fun k => ?_⟩
      · rcases List.mem_cons.mp hb with rfl | hb
        · exact ha
        · obtain ⟨hbackend, hfree⟩ := haccept b hb
          rw [primaryOf_insert] at hfree
          by_cases hk : b.identity.aliasKey = a.identity.aliasKey
          · exact ⟨hbackend, hk ▸ ha.2⟩
          · rw [if_neg hk] at hfree
            exact ⟨hbackend, hfree⟩
      · rw [hprimary, primaryOf_insert, List.map_cons]
        by_cases hmem : k ∈ aliases.map (·.identity.aliasKey)
        · rw [if_pos hmem, if_pos (List.mem_cons_of_mem _ hmem)]
        · rw [if_neg hmem]
          by_cases hk : k = a.identity.aliasKey
          · rw [if_pos hk, if_pos (hk ▸ List.mem_cons_self)]
          · rw [if_neg hk, if_neg fun h => (List.mem_cons.mp h).elim hk hmem]

lemma upsertAliases_ok (hok : db.upsertAliases candidate = .ok db') :
    db.AcceptsAliases candidate ∧ db.AliasesWritten candidate db' := by
  obtain ⟨haccept, hframe, hprimary⟩ := foldlM_upsertAlias_ok hok
  exact ⟨haccept, hframe, hprimary⟩

lemma foldlM_upsertAlias_of_accepts {aliases : List SessionAliasCandidate}
    (hrow : (db.sessions.lookup candidate.identity.stableKey).map (·.backend) =
      some candidate.identity.backend)
    (haccept : ∀ a ∈ aliases, a.identity.backend = candidate.identity.backend ∧
      (db.primaryOf a.identity.aliasKey = none ∨
        db.primaryOf a.identity.aliasKey = some candidate.identity.stableKey)) :
    ∃ db', aliases.foldlM (fun db a => upsertAlias db candidate a) db = .ok db' := by
  induction aliases generalizing db with
  | nil => exact ⟨db, rfl⟩
  | cons a aliases ih =>
    obtain ⟨hbackend, hprimary⟩ := haccept a List.mem_cons_self
    obtain ⟨db₁, hone⟩ := upsertAlias_of_accepts hrow hbackend hprimary
    rw [List.foldlM_cons, hone]
    obtain ⟨-, rfl⟩ := upsertAlias_ok hone
    refine ih hrow fun b hb => ⟨(haccept b (List.mem_cons_of_mem _ hb)).1, ?_⟩
    rw [primaryOf_insert]
    by_cases hk : b.identity.aliasKey = a.identity.aliasKey
    · exact .inr (if_pos hk)
    · rw [if_neg hk]
      exact (haccept b (List.mem_cons_of_mem _ hb)).2

end

/-! ### The other tables -/

section
variable (row : SessionRow) (candidate : SessionCandidate)

lemma ref_updateTitle (field : CandidateField String) : (updateTitle field row).ref = row.ref := by
  unfold updateTitle
  split
  · rfl
  · rfl

lemma ref_updateCwd (field : CandidateField PathBuf) : (updateCwd field row).ref = row.ref := by
  unfold updateCwd
  split
  · rfl
  · rfl

lemma ref_updateTranscriptRef (field : CandidateField String) :
    (updateTranscriptRef field row).ref = row.ref := by
  unfold updateTranscriptRef
  split
  · rfl
  · rfl

/-- A row keeps the reference it was inserted with. -/
lemma ref_upsertedSession (existing : Option SessionRow) :
    (upsertedSession existing candidate).ref =
      (existing.map SessionRow.ref).getD candidate.identity.aliasKey := by
  have hbase : (existing.elim (insertedSession candidate) fun row =>
      mergedSession row candidate).ref =
        (existing.map SessionRow.ref).getD candidate.identity.aliasKey := by
    cases existing with
    | none => rfl
    | some row => rfl
  unfold upsertedSession
  dsimp only
  rw [← hbase]
  generalize existing.elim (insertedSession candidate) _ = row
  have htitle : (candidate.title.elim row fun field => updateTitle field row).ref = row.ref := by
    cases candidate.title with
    | none => rfl
    | some field => exact ref_updateTitle row field
  generalize candidate.title.elim row _ = row₁ at htitle ⊢
  have hcwd : (candidate.cwd.elim row₁ fun field => updateCwd field row₁).ref = row.ref := by
    cases candidate.cwd with
    | none => exact htitle
    | some field => exact (ref_updateCwd row₁ field).trans htitle
  generalize candidate.cwd.elim row₁ _ = row₂ at hcwd ⊢
  cases candidate.transcriptRef with
  | none => exact hcwd
  | some field => exact (ref_updateTranscriptRef row₂ field).trans hcwd

lemma backend_upsertedSession (existing : Option SessionRow) :
    (upsertedSession existing candidate).backend =
      (existing.map (·.backend)).getD candidate.identity.backend := by
  have hbackend := congrArg Prod.fst (ref_upsertedSession candidate existing)
  cases existing with
  | none => exact hbackend
  | some row => exact hbackend

end

section
variable {ext : External} {db db' : ProjectCatalog} {candidate : SessionCandidate}

lemma upsertProject_frame (db : ProjectCatalog) (project : ProjectClassification)
    (observedAt : Int) :
    (db.upsertProject project observedAt).1 =
      { db with projects := (db.upsertProject project observedAt).1.projects } := by
  unfold upsertProject
  split
  · rfl
  · rfl

/-- A topic touches the projects and the topics. -/
lemma applySemantic_frame (ext : External) (db : ProjectCatalog) (item : SemanticAssignment)
    (observedAt : Int) :
    db.applySemantic ext item observedAt =
      { db with
        projects := (db.applySemantic ext item observedAt).projects
        semanticAssignments := (db.applySemantic ext item observedAt).semanticAssignments } := by
  unfold applySemantic
  dsimp only
  split
  · rfl
  · rw [upsertProject_frame]

lemma KeepsProjects.refl (db : ProjectCatalog) : KeepsProjects db db :=
  fun _ p hp => ⟨p, hp, rfl⟩

lemma KeepsProjects.trans {db₁ db₂ db₃ : ProjectCatalog} (h : KeepsProjects db₁ db₂)
    (h' : KeepsProjects db₂ db₃) : KeepsProjects db₁ db₃ := by
  intro k p hp
  obtain ⟨p₂, hp₂, hid₂⟩ := h k p hp
  obtain ⟨p₃, hp₃, hid₃⟩ := h' k p₂ hp₂
  exact ⟨p₃, hp₃, hid₃.trans hid₂⟩

lemma KeepsProjects.of_eq {db₁ db₂ : ProjectCatalog} (h : db₂.projects = db₁.projects) :
    KeepsProjects db₁ db₂ :=
  fun _ p hp => ⟨p, h ▸ hp, rfl⟩

lemma keepsProjects_upsertProject (db : ProjectCatalog) (project : ProjectClassification)
    (observedAt : Int) : KeepsProjects db (db.upsertProject project observedAt).1 := by
  unfold upsertProject
  cases hold : db.projects.lookup project.canonicalKey with
  | none =>
    refine fun k p hp => ⟨p, ?_, rfl⟩
    refine (AList.lookup_insert_ne ?_).trans hp
    rintro rfl
    rw [hold] at hp
    cases hp
  | some row =>
    intro k p hp
    by_cases hk : k = project.canonicalKey
    · subst hk
      rw [hold, Option.some.injEq] at hp
      subst hp
      exact ⟨_, AList.lookup_insert _, rfl⟩
    · exact ⟨p, (AList.lookup_insert_ne hk).trans hp, rfl⟩

lemma keepsProjects_writeSession (db : ProjectCatalog) (candidate : SessionCandidate)
    (project : Option ProjectClassification) :
    KeepsProjects db (db.writeSession candidate project) := by
  cases project with
  | none => exact .refl db
  | some project =>
    have hproject := keepsProjects_upsertProject (db.upsertSession candidate) project
      candidate.observedAt
    refine KeepsProjects.trans hproject (.of_eq ?_)
    unfold writeSession upsertAssignment
    dsimp only
    split
    · rfl
    · rfl

/-- Writing a session touches its row, the projects and its assignment. -/
lemma writeSession_frame (db : ProjectCatalog) (candidate : SessionCandidate)
    (project : Option ProjectClassification) :
    db.writeSession candidate project =
      { db with
        sessions := db.sessions.insert candidate.identity.stableKey
          (upsertedSession (db.sessions.lookup candidate.identity.stableKey) candidate)
        projects := (db.writeSession candidate project).projects
        assignments := (db.writeSession candidate project).assignments } := by
  cases project with
  | none => rfl
  | some project =>
    unfold writeSession
    dsimp only
    rw [upsertProject_frame (db.upsertSession candidate) project candidate.observedAt]
    unfold upsertAssignment
    dsimp only
    split
    · rfl
    · rfl

/-- A locked assignment is left alone, and so are those of other sessions. -/
lemma writeSession_assignments (db : ProjectCatalog) (candidate : SessionCandidate)
    (project : Option ProjectClassification) {k : String}
    (hk : k ≠ candidate.identity.stableKey ∨ db.isLocked k) :
    (db.writeSession candidate project).assignments.lookup k = db.assignments.lookup k := by
  cases project with
  | none => rfl
  | some project =>
    unfold writeSession
    dsimp only
    rw [upsertProject_frame (db.upsertSession candidate) project candidate.observedAt]
    unfold upsertAssignment
    dsimp only
    split
    · rfl
    · rename_i hlock
      rcases hk with hk | hk
      · exact AList.lookup_insert_ne hk
      · refine AList.lookup_insert_ne fun heq => hlock ?_
        rw [← heq]
        exact hk

lemma reconcile_frame (ext : External) (db : ProjectCatalog) (stableKey : String) :
    db.reconcileSemanticAssignment ext stableKey =
      { db with semanticAssignments :=
          (db.reconcileSemanticAssignment ext stableKey).semanticAssignments } := by
  unfold reconcileSemanticAssignment
  dsimp only
  split
  · rfl
  · split
    · rfl
    · rfl

lemma upsertRuntime_frame (db : ProjectCatalog) (candidate : SessionCandidate) :
    db.upsertRuntime candidate =
      { db with runtimeMappings := (db.upsertRuntime candidate).runtimeMappings } := by
  unfold upsertRuntime
  split
  · rfl
  · dsimp only
    split
    · rfl
    · rfl

/-- What an accepted candidate leaves in the tables of sessions, projects, assignments and
aliases. -/
structure Written (db : ProjectCatalog) (candidate : SessionCandidate)
    (db' : ProjectCatalog) : Prop where
  sessions : db'.sessions = db.sessions.insert candidate.identity.stableKey
    (upsertedSession (db.sessions.lookup candidate.identity.stableKey) candidate)
  projects : KeepsProjects db db'
  assignments : ∀ k, k ≠ candidate.identity.stableKey ∨ db.isLocked k →
    db'.assignments.lookup k = db.assignments.lookup k
  primary : ∀ k, db'.primaryOf k =
    if k ∈ candidate.aliases.map (·.identity.aliasKey) then some candidate.identity.stableKey
    else db.primaryOf k

/-- The writes before the aliases. -/
lemma beforeAliases_frame (ext : External) (db : ProjectCatalog) (candidate : SessionCandidate)
    (project : Option ProjectClassification) :
    let db₁ := ((db.writeSession candidate project).reconcileSemanticAssignment ext
      candidate.identity.stableKey).upsertSource candidate
    db₁.sessions = db.sessions.insert candidate.identity.stableKey
      (upsertedSession (db.sessions.lookup candidate.identity.stableKey) candidate) ∧
    db₁.assignments = (db.writeSession candidate project).assignments ∧
    db₁.aliases = db.aliases ∧ db₁.projects = (db.writeSession candidate project).projects := by
  dsimp only
  unfold upsertSource
  dsimp only
  rw [reconcile_frame]
  dsimp only
  rw [writeSession_frame]
  exact ⟨rfl, rfl, rfl, rfl⟩

lemma writeCandidate_ok {project : Option ProjectClassification}
    (hok : db.writeCandidate ext candidate project = .ok db') :
    db.AcceptsAliases candidate ∧ db.Written candidate db' := by
  obtain ⟨hsessions, hassignments, haliases, hprojects⟩ :=
    beforeAliases_frame ext db candidate project
  unfold writeCandidate at hok
  dsimp only at hok hsessions hassignments haliases hprojects
  generalize ((db.writeSession candidate project).reconcileSemanticAssignment ext
    candidate.identity.stableKey).upsertSource candidate = db₁
      at hok hsessions hassignments haliases hprojects
  have hprimary : ∀ k, db₁.primaryOf k = db.primaryOf k := by
    intro k
    rw [primaryOf, haliases, primaryOf]
  cases hone : db₁.upsertAliases candidate with
  | error e =>
    rw [hone] at hok
    cases hok
  | ok db₂ =>
    rw [hone] at hok
    obtain ⟨haccept, hwritten⟩ := upsertAliases_ok hone
    have hruntime := db₂.upsertRuntime_frame candidate
    have hdb' : db₂.upsertRuntime candidate = db' := Except.ok.inj hok
    rw [hdb'] at hruntime
    refine ⟨fun a ha => ?_, ?_, ?_, fun k hk => ?_, fun k => ?_⟩
    · have hone := haccept a ha
      rwa [hprimary] at hone
    · rw [hruntime]
      exact (congrArg ProjectCatalog.sessions hwritten.frame).trans hsessions
    · refine (keepsProjects_writeSession db candidate project).trans (.of_eq ?_)
      rw [hruntime]
      exact (congrArg ProjectCatalog.projects hwritten.frame).trans hprojects
    · rw [hruntime]
      have h₂ := (congrArg ProjectCatalog.assignments hwritten.frame).trans hassignments
      exact (congrArg (AList.lookup k) h₂).trans (db.writeSession_assignments candidate project hk)
    · rw [hruntime, ← hprimary k]
      exact hwritten.primary k

/-- Of the rows of sources an accepted candidate writes its own. -/
lemma writeCandidate_sources_eq {project : Option ProjectClassification}
    (hok : db.writeCandidate ext candidate project = .ok db') :
    db'.sources = (db.upsertSource candidate).sources := by
  have hbefore : ((db.writeSession candidate project).reconcileSemanticAssignment ext
      candidate.identity.stableKey).sources = db.sources := by
    rw [reconcile_frame, writeSession_frame]
  unfold writeCandidate at hok
  dsimp only at hok
  generalize (db.writeSession candidate project).reconcileSemanticAssignment ext
    candidate.identity.stableKey = db₁ at hok hbefore
  cases hone : (db₁.upsertSource candidate).upsertAliases candidate with
  | error e =>
    rw [hone] at hok
    cases hok
  | ok db₂ =>
    rw [hone] at hok
    obtain ⟨-, hwritten⟩ := upsertAliases_ok hone
    have hdb' : db₂.upsertRuntime candidate = db' := Except.ok.inj hok
    rw [← hdb', upsertRuntime_frame]
    apply (congrArg ProjectCatalog.sources hwritten.frame).trans
    simp only [upsertSource, hbefore]

/-- The catalog accepts every candidate whose aliases it accepts. -/
lemma writeCandidate_of_accepts (hbackend : db.SameBackend candidate)
    (haccept : db.AcceptsAliases candidate) (project : Option ProjectClassification) :
    ∃ db', db.writeCandidate ext candidate project = .ok db' := by
  obtain ⟨hsessions, -, haliases, -⟩ := beforeAliases_frame ext db candidate project
  unfold writeCandidate
  dsimp only at hsessions haliases ⊢
  generalize ((db.writeSession candidate project).reconcileSemanticAssignment ext
    candidate.identity.stableKey).upsertSource candidate = db₁ at hsessions haliases ⊢
  have hrow : (db₁.sessions.lookup candidate.identity.stableKey).map (·.backend) =
      some candidate.identity.backend := by
    rw [hsessions, AList.lookup_insert, Option.map_some, backend_upsertedSession]
    cases hold : db.sessions.lookup candidate.identity.stableKey with
    | none => rfl
    | some row => exact congrArg some (hbackend row hold)
  obtain ⟨db₂, hone⟩ := foldlM_upsertAlias_of_accepts hrow
    fun a (ha : a ∈ candidate.aliases) => by
      rw [primaryOf, haliases]
      exact haccept a ha
  have hone' : db₁.upsertAliases candidate = .ok db₂ := hone
  rw [hone']
  exact ⟨_, rfl⟩

/-- An accepted candidate is written under the identity it resolves to. -/
lemma upsertCandidate_ok (hok : db.upsertCandidate ext candidate = .ok db') :
    db.AcceptsAliases (db.resolveAliasPrimary ext candidate) ∧
      db.Written (db.resolveAliasPrimary ext candidate) db' := by
  unfold upsertCandidate at hok
  dsimp only at hok
  cases hone : db.writeCandidate ext (db.resolveAliasPrimary ext candidate)
      (if db.canPreserveExistingAssignment (db.resolveAliasPrimary ext candidate) then none
        else some (classify ext ((db.resolveAliasPrimary ext candidate).cwd.map (·.value)))) with
  | error e =>
    rw [hone] at hok
    cases hok
  | ok db₁ =>
    rw [hone] at hok
    obtain ⟨haccept, hwritten⟩ := writeCandidate_ok hone
    obtain rfl : db₁.bumpRevision = db' := Except.ok.inj hok
    exact ⟨haccept, hwritten.sessions, hwritten.projects, hwritten.assignments, hwritten.primary⟩

lemma upsertCandidate_of_accepts (hbackend : db.SameBackend (db.resolveAliasPrimary ext candidate))
    (haccept : db.AcceptsAliases (db.resolveAliasPrimary ext candidate)) :
    ∃ db', db.upsertCandidate ext candidate = .ok db' := by
  unfold upsertCandidate
  dsimp only
  obtain ⟨db₁, hone⟩ : ∃ db₁, db.writeCandidate ext (db.resolveAliasPrimary ext candidate)
      (if db.canPreserveExistingAssignment (db.resolveAliasPrimary ext candidate) then none
        else some (classify ext ((db.resolveAliasPrimary ext candidate).cwd.map (·.value)))) =
          .ok db₁ :=
    writeCandidate_of_accepts hbackend haccept _
  rw [hone]
  exact ⟨_, rfl⟩

/-- A candidate whose identity is not an alias, or is one of its own session, is written as it is. -/
lemma resolveAliasPrimary_eq
    (hprimary : db.primaryOf candidate.identity.aliasKey = none ∨
      db.primaryOf candidate.identity.aliasKey = some candidate.identity.stableKey)
    (hrow : ∀ row, db.sessions.lookup candidate.identity.stableKey = some row →
      SessionIdentity.fromCanonical ext row.backend row.refKind row.refValue =
        candidate.identity) :
    db.resolveAliasPrimary ext candidate = candidate := by
  unfold primaryOf SessionIdentity.aliasKey at hprimary
  unfold resolveAliasPrimary
  dsimp only
  cases halias : db.aliases.lookup (candidate.identity.backend, candidate.identity.refKind,
      candidate.identity.canonicalRefValue) with
  | none => rfl
  | some row =>
    rw [halias, Option.map_some, Option.some.injEq] at hprimary
    obtain ⟨primaryStableKey, evidence⟩ := row
    obtain rfl : primaryStableKey = candidate.identity.stableKey :=
      hprimary.resolve_left (Option.some_ne_none _)
    cases hs : db.sessions.lookup candidate.identity.stableKey with
    | none => simp [hs]
    | some s => simp [hs, hrow s hs]

end

end ProjectCatalog

end Ork3.Projects
