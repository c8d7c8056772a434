import Ork3.Model.PendingSessions
import Ork3.Proofs.AliasResolution

/-!
# Every session that waits for a topic has its turn

The pending sessions and their duplicates are the first `limit` of the sessions that wait for a
topic, group by group. Once all of them are assigned, none of them waits any more.
-/

namespace Ork3.Projects

open Ork3.Library

namespace ProjectCatalog

/-- The session is unlocked, interactive and worth classifying, and has no topic for what it is
now. -/
def AwaitsTopic (ext : External) (db : ProjectCatalog) (key : String) : Prop :=
  ∃ session assignment, db.sessions.lookup key = some session ∧
    db.assignments.lookup key = some assignment ∧ assignment.locked = false ∧
    session.sessionClass = .interactive ∧ session.worthClassifying = true ∧
    (db.semanticAssignments.lookup key).map (·.fingerprint) ≠
      some (semanticFingerprint ext session.title session.cwd session.backend)

end ProjectCatalog

section
variable {ext : External} {db : ProjectCatalog} {limit consumed : Nat} {row : PendingRow}

/-! ### Groups -/

/-- A pending session is the first of some stale rows of a group, the others are its duplicates. -/
def PendingRow.Represents (ext : External) (group : List PendingRow)
    (session : PendingSemanticSession) (taken : List PendingRow) : Prop :=
  ∃ representative duplicates, taken = representative :: duplicates ∧
    (∀ row ∈ taken, row ∈ group ∧ row.stale ext = true) ∧
    session =
      { representative.pending with
        inheritedTopic := seedTopic ext group
        duplicates := duplicates.map fun row => ⟨row.stableKey, row.fingerprint ext⟩ }

def PendingRow.pair (ext : External) (row : PendingRow) : String × String :=
  (row.stableKey, row.fingerprint ext)

lemma PendingRow.Represents.fingerprints_eq {group taken : List PendingRow}
    {session : PendingSemanticSession} (h : PendingRow.Represents ext group session taken) :
    session.fingerprints ext = taken.map (PendingRow.pair ext) := by
  obtain ⟨representative, duplicates, rfl, -, rfl⟩ := h
  simp only [PendingSemanticSession.fingerprints, PendingRow.pending, List.map_cons, List.map_map,
    PendingRow.pair, PendingRow.fingerprint]
  rfl

/-- The groups are read in order, and of their stale rows as many as the limit leaves. -/
lemma takeGroups_spec {order : List String} {groups : Table String (List PendingRow)}
    {group : String → List PendingRow} (hnodup : order.Nodup)
    (hlookup : ∀ k ∈ order, groups.lookup k = some (group k)) :
    ∃ taken : List (List PendingRow),
      List.Forall₂ (fun session rows => ∃ k ∈ order,
        PendingRow.Represents ext (group k) session rows)
        (takeGroups ext limit order groups consumed) taken ∧
      taken.flatten = (order.flatMap fun k => (group k).filter (PendingRow.stale ext)).take
        (limit - consumed) := by
  induction order generalizing groups consumed with
  | nil => exact ⟨[], .nil, by simp⟩
  | cons k order ih =>
    obtain ⟨hk, horder⟩ := List.nodup_cons.mp hnodup
    have hlater : ∀ k' ∈ order, (groups.erase k).lookup k' = some (group k') := by
      intro k' hk'
      have hne : k' ≠ k := fun heq => hk (heq ▸ hk')
      rw [AList.lookup_erase_ne hne]
      exact hlookup k' (List.mem_cons_of_mem _ hk')
    rw [takeGroups]
    by_cases hfull : limit ≤ consumed
    · rw [if_pos hfull]
      refine ⟨[], .nil, ?_⟩
      have hzero : limit - consumed = 0 := by omega
      rw [hzero, List.take_zero, List.flatten_nil]
    · rw [if_neg hfull, hlookup k List.mem_cons_self]
      dsimp only
      rw [List.flatMap_cons, List.take_append]
      generalize hstale : (group k).filter (PendingRow.stale ext) = stale
      cases htake : stale.take (limit - consumed) with
      | nil =>
        have hempty : stale = [] := by
          rcases List.take_eq_nil_iff.mp htake with hzero | hnil
          · omega
          · exact hnil
        obtain ⟨taken, hforall, hflatten⟩ := @ih consumed (groups.erase k) horder hlater
        refine ⟨taken, ?_, ?_⟩
        · apply hforall.imp
          rintro session rows ⟨k', hk', hrepresents⟩
          exact ⟨k', List.mem_cons_of_mem _ hk', hrepresents⟩
        · rw [hflatten, hempty]
          simp
      | cons representative duplicates =>
        obtain ⟨taken, hforall, hflatten⟩ :=
          @ih (consumed + (1 + duplicates.length)) (groups.erase k) horder hlater
        refine ⟨(representative :: duplicates) :: taken, .cons ?_ ?_, ?_⟩
        · refine ⟨k, List.mem_cons_self, representative, duplicates, rfl, ?_, rfl⟩
          intro row hrow
          rw [← htake] at hrow
          have hmem := List.mem_of_mem_take hrow
          rw [← hstale] at hmem
          exact List.mem_filter.mp hmem
        · apply hforall.imp
          rintro session rows ⟨k', hk', hrepresents⟩
          exact ⟨k', List.mem_cons_of_mem _ hk', hrepresents⟩
        · have hlength := congrArg List.length htake
          rw [List.length_take, List.length_cons] at hlength
          have hleft : limit - (consumed + (1 + duplicates.length)) =
              limit - consumed - stale.length ∨
              limit - (consumed + (1 + duplicates.length)) = 0 ∧
                limit - consumed - stale.length = 0 := by omega
          rw [List.flatten_cons, hflatten]
          rcases hleft with heq | ⟨hzero, hzero'⟩
          · rw [heq]
          · rw [hzero, hzero']

/-! ### The query -/

lemma stale_iff : row.stale ext = true ↔
    row.topic.map (·.fingerprint) ≠ some (row.fingerprint ext) := by
  simp [PendingRow.stale, PendingRow.pending]

namespace ProjectCatalog

lemma pendingRow_eq_some {key : String} {session : SessionRow} :
    db.pendingRow key session = some row ↔
      (∃ assignment, db.assignments.lookup key = some assignment ∧ assignment.locked = false) ∧
        session.sessionClass = .interactive ∧ session.worthClassifying = true ∧
        row = ⟨key, session, db.semanticAssignments.lookup key⟩ := by
  unfold pendingRow
  split_ifs with hquery
  · simp only [Bool.and_eq_true, Option.any_eq_true, Bool.not_eq_true', decide_eq_true_eq] at hquery
    obtain ⟨⟨hassignment, hclass⟩, hworth⟩ := hquery
    rw [Option.some_inj, eq_comm]
    simp [hassignment, hclass, hworth]
  · simp only [Bool.and_eq_true, Option.any_eq_true, Bool.not_eq_true', decide_eq_true_eq] at hquery
    constructor
    · intro h
      cases h
    · rintro ⟨hassignment, hclass, hworth, -⟩
      exact absurd ⟨⟨hassignment, hclass⟩, hworth⟩ hquery

lemma mem_pendingRows : row ∈ db.pendingRows ↔
    db.sessions.lookup row.stableKey = some row.session ∧
      db.pendingRow row.stableKey row.session = some row := by
  unfold pendingRows
  rw [(List.perm_insertionSort _ _).mem_iff, List.mem_filterMap]
  constructor
  · rintro ⟨e, he, hrow⟩
    obtain rfl := (pendingRow_eq_some.mp hrow).2.2.2
    exact ⟨AList.mem_lookup_iff.mpr he, hrow⟩
  · rintro ⟨hsession, hrow⟩
    exact ⟨⟨row.stableKey, row.session⟩, AList.mem_lookup_iff.mp hsession, hrow⟩

lemma nodup_stableKey_pendingRows (db : ProjectCatalog) :
    (db.pendingRows.map PendingRow.stableKey).Nodup := by
  unfold pendingRows
  rw [((List.perm_insertionSort _ _).map PendingRow.stableKey).nodup_iff]
  have hkeys : ∀ entries : List (Sigma fun _ : String => SessionRow),
      ((entries.filterMap fun e => db.pendingRow e.1 e.2).map PendingRow.stableKey).Sublist
        (entries.map Sigma.fst) := by
    intro entries
    induction entries with
    | nil => simp
    | cons e entries ih =>
      rw [List.filterMap_cons]
      cases hrow : db.pendingRow e.1 e.2 with
      | none => exact ih.cons _
      | some row =>
        rw [List.map_cons, List.map_cons, (pendingRow_eq_some.mp hrow).2.2.2]
        exact ih.cons_cons _
  exact (hkeys db.sessions.entries).nodup db.sessions.nodupKeys

/-- The stale rows of the query are those of the sessions that wait for a topic. -/
lemma awaitsTopic_iff {key : String} : db.AwaitsTopic ext key ↔
    ∃ row ∈ db.pendingRows, row.stale ext = true ∧ row.stableKey = key := by
  constructor
  · rintro ⟨session, assignment, hsession, hassignment, hlocked, hclass, hworth, htopic⟩
    refine ⟨⟨key, session, db.semanticAssignments.lookup key⟩, ?_, ?_, rfl⟩
    · rw [mem_pendingRows]
      exact ⟨hsession, pendingRow_eq_some.mpr ⟨⟨assignment, hassignment, hlocked⟩, hclass, hworth, rfl⟩⟩
    · rw [stale_iff]
      exact htopic
  · rintro ⟨row, hrow, hstale, rfl⟩
    obtain ⟨hsession, hpending⟩ := mem_pendingRows.mp hrow
    obtain ⟨⟨assignment, hassignment, hlocked⟩, hclass, hworth, heq⟩ := pendingRow_eq_some.mp hpending
    refine ⟨row.session, assignment, hsession, hassignment, hlocked, hclass, hworth, ?_⟩
    rw [stale_iff, heq] at hstale
    exact hstale

/-- The stale rows group by group. -/
lemma exists_staleRows (ext : External) (db : ProjectCatalog) (limit : Nat) :
    ∃ (taken : List (List PendingRow)) (rows : List PendingRow),
      rows.Perm (db.pendingRows.filter (PendingRow.stale ext)) ∧ taken.flatten = rows.take limit ∧
      List.Forall₂ (fun session group => ∃ title,
        PendingRow.Represents ext (db.pendingRows.filter fun row =>
          normalizeSessionTitle ext row.session.title = title) session group)
        (db.pendingSemanticSessions ext limit) taken := by
  have hholds := holds_groupInOrder
    (fun row : PendingRow => normalizeSessionTitle ext row.session.title) db.pendingRows
  obtain ⟨taken, hforall, hflatten⟩ :=
    @takeGroups_spec ext limit 0 _ _ _ hholds.nodup hholds.lookup
  refine ⟨taken, _, ?_, hflatten, ?_⟩
  · rw [← List.filter_flatMap]
    exact (perm_flatMap_groups _ _).filter _
  · apply hforall.imp
    rintro session group ⟨title, -, hrepresents⟩
    exact ⟨title, hrepresents⟩

/-! ### Assigning the pending sessions -/

/-- The item of an eligible session becomes its topic. -/
lemma fingerprint_applySemantic {item : SemanticAssignment} {observedAt : Int} {session : SessionRow}
    {assignment : AssignmentRow} (hsession : db.sessions.lookup item.sessionKey = some session)
    (hassignment : db.assignments.lookup item.sessionKey = some assignment)
    (hlocked : assignment.locked = false) (hclass : session.sessionClass = .interactive) :
    ((db.applySemantic ext item observedAt).semanticAssignments.lookup item.sessionKey).map
      (·.fingerprint) = some item.fingerprint := by
  have heligible : ((db.assignments.lookup item.sessionKey).any fun a => !a.locked &&
      (db.sessions.lookup item.sessionKey).any (·.sessionClass = .interactive)) = true := by
    rw [hassignment, hsession]
    simp [hlocked, hclass]
  unfold applySemantic
  dsimp only
  rw [heligible, if_neg (by simp)]
  dsimp only
  rw [AList.lookup_insert]
  rfl

lemma topic_applySemantic_of_ne {key : String} {item : SemanticAssignment} {observedAt : Int}
    (hkey : item.sessionKey ≠ key) :
    (db.applySemantic ext item observedAt).semanticAssignments.lookup key =
      db.semanticAssignments.lookup key := by
  unfold applySemantic
  dsimp only
  split
  · rfl
  · dsimp only
    rw [AList.lookup_insert_ne (Ne.symm hkey), upsertProject_frame]

/-- The topic an eligible session has behind a batch whose items for it agree on the fingerprint. -/
lemma fingerprint_foldl_applySemantic {key fingerprint : String} {batch : List SemanticAssignment}
    {observedAt : Int} {session : SessionRow} {assignment : AssignmentRow}
    (hsession : db.sessions.lookup key = some session)
    (hassignment : db.assignments.lookup key = some assignment)
    (hlocked : assignment.locked = false) (hclass : session.sessionClass = .interactive)
    (hagree : ∀ item ∈ batch, item.sessionKey = key → item.fingerprint = fingerprint)
    (hstart : (∃ item ∈ batch, item.sessionKey = key) ∨
      (db.semanticAssignments.lookup key).map (·.fingerprint) = some fingerprint) :
    ((batch.foldl (fun db item => db.applySemantic ext item observedAt) db).semanticAssignments.lookup
      key).map (·.fingerprint) = some fingerprint := by
  induction batch generalizing db with
  | nil => exact hstart.resolve_left (by simp)
  | cons item batch ih =>
    rw [List.foldl_cons]
    apply ih
    · rw [applySemantic_frame]
      exact hsession
    · rw [applySemantic_frame]
      exact hassignment
    · exact fun other hother => hagree other (List.mem_cons_of_mem _ hother)
    · by_cases hkey : item.sessionKey = key
      · right
        subst hkey
        rw [fingerprint_applySemantic hsession hassignment hlocked hclass,
          hagree item List.mem_cons_self rfl]
      · rw [topic_applySemantic_of_ne hkey]
        refine hstart.imp_left ?_
        rintro ⟨other, hother, hotherKey⟩
        rcases List.mem_cons.mp hother with rfl | hother
        · exact absurd hotherKey hkey
        · exact ⟨other, hother, hotherKey⟩

/-- A session that waits for a topic waits no more behind a batch with items for it that have its
fingerprint. -/
lemma not_awaitsTopic_applySemanticBatch {key : String} {batch : List SemanticAssignment}
    {observedAt : Int} {session : SessionRow} {assignment : AssignmentRow}
    (hsession : db.sessions.lookup key = some session)
    (hassignment : db.assignments.lookup key = some assignment)
    (hlocked : assignment.locked = false) (hclass : session.sessionClass = .interactive)
    (hagree : ∀ item ∈ batch, item.sessionKey = key → item.fingerprint =
      semanticFingerprint ext session.title session.cwd session.backend)
    (hitem : ∃ item ∈ batch, item.sessionKey = key) :
    ¬ (db.applySemanticBatch ext batch observedAt).AwaitsTopic ext key := by
  have hsessions : (db.applySemanticBatch ext batch observedAt).sessions = db.sessions := by
    have hfold : (batch.foldl (fun db item => db.applySemantic ext item observedAt) db).sessions =
        db.sessions := by
      clear hsession hassignment hagree hitem
      induction batch generalizing db with
      | nil => rfl
      | cons item batch ih => rw [List.foldl_cons, ih, applySemantic_frame]
    exact hfold
  rintro ⟨session', assignment', hsession', -, -, -, -, htopic⟩
  rw [hsessions, hsession] at hsession'
  cases hsession'
  exact htopic (fingerprint_foldl_applySemantic hsession hassignment hlocked hclass hagree
    (Or.inl hitem))

/-! ### The pending sessions -/

lemma flatMap_fingerprints {pending : List PendingSemanticSession} {taken : List (List PendingRow)}
    {group : String → List PendingRow}
    (h : List.Forall₂ (fun session rows => ∃ title,
      PendingRow.Represents ext (group title) session rows) pending taken) :
    pending.flatMap (PendingSemanticSession.fingerprints ext) =
      taken.flatten.map (PendingRow.pair ext) := by
  induction h with
  | nil => rfl
  | cons hone _ ih =>
    obtain ⟨title, hrepresents⟩ := hone
    rw [List.flatMap_cons, List.flatten_cons, List.map_append, hrepresents.fingerprints_eq, ih]

lemma exists_represents {pending : List PendingSemanticSession} {taken : List (List PendingRow)}
    {group : String → List PendingRow} {session : PendingSemanticSession}
    (h : List.Forall₂ (fun session rows => ∃ title,
      PendingRow.Represents ext (group title) session rows) pending taken)
    (hsession : session ∈ pending) :
    ∃ rows title, PendingRow.Represents ext (group title) session rows := by
  induction h with
  | nil => cases hsession
  | cons hone _ ih =>
    rcases List.mem_cons.mp hsession with rfl | hsession
    · exact ⟨_, hone⟩
    · exact ih hsession

/-- The sessions that one pending session stands for have one title. -/
lemma titles_of_represents {title : String} {session : PendingSemanticSession}
    {rows : List PendingRow}
    (h : PendingRow.Represents ext (db.pendingRows.filter fun row =>
      normalizeSessionTitle ext row.session.title = title) session rows) :
    ∃ row, db.sessions.lookup session.stableKey = some row ∧ row.title = session.title ∧
      ∀ duplicate ∈ session.duplicates, ∃ other,
        db.sessions.lookup duplicate.stableKey = some other ∧
          normalizeSessionTitle ext other.title = normalizeSessionTitle ext row.title := by
  obtain ⟨representative, duplicates, rfl, hrows, rfl⟩ := h
  have hgroup : ∀ row ∈ representative :: duplicates,
      db.sessions.lookup row.stableKey = some row.session ∧
        normalizeSessionTitle ext row.session.title = title := by
    intro row hrow
    obtain ⟨hmem, htitle⟩ := List.mem_filter.mp (hrows row hrow).1
    exact ⟨(mem_pendingRows.mp hmem).1, of_decide_eq_true htitle⟩
  obtain ⟨hsession, htitle⟩ := hgroup representative List.mem_cons_self
  refine ⟨representative.session, hsession, rfl, ?_⟩
  intro duplicate hduplicate
  obtain ⟨row, hrow, rfl⟩ := List.mem_map.mp hduplicate
  obtain ⟨hother, hotherTitle⟩ := hgroup row (List.mem_cons_of_mem _ hrow)
  exact ⟨row.session, hother, hotherTitle.trans htitle.symm⟩

/-- The keys of the pending sessions and of their duplicates are the first `limit` keys of a list
without repetitions of the sessions that wait for a topic. A pending session has the title of its
session, and the sessions of its duplicates have the same title but for the normalisation. After a
batch of items for all these sessions, each with the fingerprint given for it, none of them waits. -/
theorem pendingSemanticSessions_spec (ext : External) (db : ProjectCatalog) (limit : Nat) :
    let pending := db.pendingSemanticSessions ext limit
    let pairs := pending.flatMap (PendingSemanticSession.fingerprints ext)
    (∃ waiting : List String, waiting.Nodup ∧ (∀ key, key ∈ waiting ↔ db.AwaitsTopic ext key) ∧
      pairs.map Prod.fst = waiting.take limit) ∧
    (∀ session ∈ pending, ∃ row, db.sessions.lookup session.stableKey = some row ∧
      row.title = session.title ∧ ∀ duplicate ∈ session.duplicates, ∃ other,
        db.sessions.lookup duplicate.stableKey = some other ∧
          normalizeSessionTitle ext other.title = normalizeSessionTitle ext row.title) ∧
    ∀ (batch : List SemanticAssignment) (observedAt : Int),
      (∀ item ∈ batch, (item.sessionKey, item.fingerprint) ∈ pairs) →
      (∀ pair ∈ pairs, ∃ item ∈ batch, item.sessionKey = pair.1) →
      ∀ pair ∈ pairs, ¬ (db.applySemanticBatch ext batch observedAt).AwaitsTopic ext pair.1 := by
  intro pending pairs
  obtain ⟨taken, rows, hperm, hflatten, hforall⟩ := exists_staleRows ext db limit
  have hpairs : pairs = (rows.take limit).map (PendingRow.pair ext) := by
    rw [← hflatten]
    exact flatMap_fingerprints hforall
  have hmem : ∀ row ∈ rows, row ∈ db.pendingRows ∧ row.stale ext = true :=
    fun row hrow => List.mem_filter.mp (hperm.mem_iff.mp hrow)
  have hnodup : (rows.map PendingRow.stableKey).Nodup := by
    rw [(hperm.map PendingRow.stableKey).nodup_iff]
    exact (List.filter_sublist.map _).nodup (nodup_stableKey_pendingRows db)
  refine ⟨⟨rows.map PendingRow.stableKey, hnodup, ?_, ?_⟩, ?_, ?_⟩
  · intro key
    rw [awaitsTopic_iff, List.mem_map]
    constructor
    · rintro ⟨row, hrow, hkey⟩
      exact ⟨row, (hmem row hrow).1, (hmem row hrow).2, hkey⟩
    · rintro ⟨row, hrow, hstale, hkey⟩
      exact ⟨row, hperm.mem_iff.mpr (List.mem_filter.mpr ⟨hrow, hstale⟩), hkey⟩
  · rw [hpairs, List.map_map, List.map_take]
    rfl
  · intro session hsession
    obtain ⟨group, title, hrepresents⟩ := exists_represents hforall hsession
    exact titles_of_represents hrepresents
  · intro batch observedAt hitems hcover pair hpair
    rw [hpairs] at hitems hpair
    obtain ⟨row, hrow, rfl⟩ := List.mem_map.mp hpair
    have hrowMem := List.mem_of_mem_take hrow
    obtain ⟨hsession, hpending⟩ := mem_pendingRows.mp (hmem row hrowMem).1
    obtain ⟨⟨assignment, hassignment, hlocked⟩, hclass, -, -⟩ := pendingRow_eq_some.mp hpending
    apply not_awaitsTopic_applySemanticBatch hsession hassignment hlocked hclass
    · intro item hitem hkey
      obtain ⟨other, hother, heq⟩ := List.mem_map.mp (hitems item hitem)
      obtain ⟨hotherKey, hfingerprint⟩ := Prod.mk.inj heq
      have hsame : other = row := List.inj_on_of_nodup_map hnodup (List.mem_of_mem_take hother)
        hrowMem (hotherKey.trans hkey)
      rw [← hfingerprint, hsame]
      rfl
    · exact hcover _ (hpairs ▸ hpair)

end ProjectCatalog

end

/-! ### Two sessions with one title -/

def buildSession (lastActivityAt : Int) : SessionRow where
  backend := "pi"
  refKind := .id
  refValue := "build"
  title := "Fix the build"
  titleObservedAt := 10
  titlePriority := 10
  titleSourceKey := "build"
  cwd := none
  cwdObservedAt := none
  cwdPriority := none
  cwdSourceKey := none
  transcriptRef := none
  transcriptObservedAt := none
  transcriptPriority := none
  transcriptSourceKey := none
  firstActivityAt := 10
  lastActivityAt := lastActivityAt
  userTurns := 5
  userChars := 90
  userWeightKnown := true
  sessionClass := .interactive
  createdAt := 10
  updatedAt := 10

def buildSessions : ProjectCatalog :=
  let assignment : AssignmentRow := ⟨1, .automatic, "cwd", false, 10⟩
  { ProjectCatalog.empty 20 with
    sessions := Table.collect [("first", buildSession 10), ("second", buildSession 20)]
    assignments := Table.collect [("first", assignment), ("second", assignment)] }

def buildTopics : List SemanticAssignment :=
  ((buildSessions.pendingSemanticSessions piMachine 10).flatMap
    (PendingSemanticSession.fingerprints piMachine)).map fun pair =>
      ⟨pair.1, "build", "Build", pair.2, "pi", none⟩

theorem pendingSemanticSessions_spec_build :
    ¬ (buildSessions.applySemanticBatch piMachine buildTopics 30).AwaitsTopic piMachine "first" := by
  have hspec := (ProjectCatalog.pendingSemanticSessions_spec piMachine buildSessions 10).2.2
    buildTopics 30
  apply hspec ?_ ?_ ("first", (PendingRow.mk "first" (buildSession 10) none).fingerprint piMachine)
  · decide +kernel
  · intro item hitem
    obtain ⟨pair, hpair, rfl⟩ := List.mem_map.mp hitem
    exact hpair
  · intro pair hpair
    exact ⟨_, List.mem_map.mpr ⟨pair, hpair, rfl⟩, rfl⟩

end Ork3.Projects
