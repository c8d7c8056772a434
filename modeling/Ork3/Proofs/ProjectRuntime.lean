import Ork3.Model.ProjectRuntime
import Ork3.Proofs.AliasResolution

/-!
# Live sessions and the panes that show them

A session is marked as running as long as some pane holds a lease on it, in a run in which every
lease that ends leaves the mark of its session to another pane or takes it away from nobody.
-/

namespace Ork3.Projects

open Ork3.Library

namespace ProjectCatalog

/-- The key a reported identity is written under. -/
def sessionOfRef (ext : External) (db : ProjectCatalog) (k : String × SessionRefKind × String) :
    String :=
  let r := ((db.primaryOf k).bind db.refOf).getD k
  (SessionIdentity.fromCanonical ext r.1 r.2.1 r.2.2).stableKey

/-- The session that the key of a reported identity stands for. -/
def sessionOf (ext : External) (db : ProjectCatalog) (key : String) : String :=
  let aliased := db.aliases.keys.find? fun k =>
    (SessionIdentity.fromCanonical ext k.1 k.2.1 k.2.2).stableKey = key
  aliased.elim key (db.sessionOfRef ext)

/-- An alias leads to a session that has a row. -/
def AliasesStored (db : ProjectCatalog) : Prop :=
  ∀ k p, db.primaryOf k = some p → (db.refOf p).isSome

section
variable {ext : External} {db db' : ProjectCatalog} {candidate : SessionCandidate}

/-! ### Aliases of any catalog -/

lemma AliasesStored.written (h : db.AliasesStored) (hw : db.Written candidate db') :
    db'.AliasesStored := by
  intro k p hk
  rw [hw.refOf]
  by_cases heq : p = candidate.identity.stableKey
  · rw [if_pos heq]
    rfl
  · rw [if_neg heq]
    rw [hw.primary] at hk
    split at hk
    · exact absurd (Option.some.inj hk).symm heq
    · exact h k p hk

lemma AliasesStored.shrink (h : db.AliasesStored) (hs : Shrinks db db') : db'.AliasesStored := by
  intro k p hk
  obtain ⟨hk', hrow⟩ := hs.primary k p hk
  exact hrow (h k p hk')

lemma AliasesStored.upsertScannedCandidates (h : db.AliasesStored)
    {candidates : List SessionCandidate}
    (hok : db.upsertScannedCandidates ext candidates = .ok db') : db'.AliasesStored := by
  unfold ProjectCatalog.upsertScannedCandidates at hok
  split at hok
  · obtain rfl := Except.ok.inj hok
    exact h
  · obtain ⟨⟨cache, written⟩, hfold, hdone⟩ := bind_eq_ok.mp hok
    obtain rfl := Except.ok.inj hdone
    have hstep : ∀ (s : Classifications × ProjectCatalog) (c : SessionCandidate)
        (t : Classifications × ProjectCatalog), s.2.AliasesStored →
        upsertScannedCandidate ext s.1 s.2 c = .ok t → t.2.AliasesStored := by
      intro s c t hs hone
      obtain ⟨project, hwrite⟩ := upsertScannedCandidate_written hone
      exact hs.written (writeCandidate_ok hwrite).2
    have hwritten : written.AliasesStored := foldlM_invariant hstep h hfold
    exact hwritten.shrink (shrinks_refreshAutomationClasses ext written)

lemma AliasesStored.step (h : db.AliasesStored) {op : CatalogOp} (hstep : op.Step ext db db') :
    db'.AliasesStored := by
  unfold CatalogOp.Step at hstep
  cases happly : op.apply ext db with
  | error e =>
    rw [happly] at hstep
    exact hstep ▸ h
  | ok written =>
    rw [happly] at hstep
    subst hstep
    cases op with
    | upsertCandidate candidate => exact h.written (upsertCandidate_ok happly).2
    | upsertScannedCandidates candidates => exact h.upsertScannedCandidates happly
    | assignSession => exact h.shrink (shrinks_assignSession happly)
    | unlockSession => exact h.shrink (shrinks_unlockSession happly)
    | completeRootScan =>
      obtain rfl := Except.ok.inj happly
      exact h.shrink (shrinks_completeRootScan ..)
    | applySemanticBatch batch observedAt =>
      obtain rfl := Except.ok.inj happly
      exact h.shrink (shrinks_applySemanticBatch ext db batch observedAt)

/-! ### Writing a report -/

lemma aliases_resolveAliasPrimary (ext : External) (db : ProjectCatalog)
    (candidate : SessionCandidate) :
    (db.resolveAliasPrimary ext candidate).aliases = candidate.aliases ∧
      (db.resolveAliasPrimary ext candidate).runtime = candidate.runtime ∧
      (db.resolveAliasPrimary ext candidate).observedAt = candidate.observedAt := by
  unfold resolveAliasPrimary
  dsimp only
  split <;> exact ⟨rfl, rfl, rfl⟩

lemma stableKey_resolveAliasPrimary (h : candidate.identity.Canonical ext) :
    (db.resolveAliasPrimary ext candidate).identity.stableKey =
      db.sessionOfRef ext candidate.identity.aliasKey := by
  unfold resolveAliasPrimary sessionOfRef primaryOf refOf SessionIdentity.aliasKey
  dsimp only
  cases halias : db.aliases.lookup (candidate.identity.backend, candidate.identity.refKind,
      candidate.identity.canonicalRefValue) with
  | none => exact congrArg SessionIdentity.stableKey h
  | some row =>
    cases hs : db.sessions.lookup row.primaryStableKey with
    | none =>
      simp only [Option.bind_eq_bind, Option.bind_some, Option.map_some, hs, Option.map_none,
        Option.getD_none]
      exact congrArg SessionIdentity.stableKey h
    | some s =>
      simp only [Option.bind_eq_bind, Option.bind_some, Option.map_some, hs, Option.getD_some]
      rfl

/-- A candidate without aliases is always accepted. -/
lemma writeCandidate_noAliases (ext : External) (db : ProjectCatalog)
    (haliases : candidate.aliases = []) (project : Option ProjectClassification) :
    ∃ db', db.writeCandidate ext candidate project = .ok db' ∧
      db'.runtimeMappings = (db.upsertRuntime candidate).runtimeMappings ∧
      db'.aliases = db.aliases := by
  have hframe : ∀ db₁ : ProjectCatalog, db₁.runtimeMappings = db.runtimeMappings →
      db₁.aliases = db.aliases →
      (db₁.upsertRuntime candidate).runtimeMappings =
        (db.upsertRuntime candidate).runtimeMappings ∧
      (db₁.upsertRuntime candidate).aliases = db.aliases := by
    intro db₁ hmappings h
    refine ⟨?_, ?_⟩
    · unfold upsertRuntime
      cases candidate.runtime with
      | none => exact hmappings
      | some runtime =>
        dsimp only
        generalize asI64 runtime.generation.toNat = generation
        rw [hmappings]
        split_ifs
        · exact hmappings
        · rfl
    · exact (congrArg ProjectCatalog.aliases (db₁.upsertRuntime_frame candidate)).trans h
  have hbefore : (((db.writeSession candidate project).reconcileSemanticAssignment ext
      candidate.identity.stableKey).upsertSource candidate).runtimeMappings = db.runtimeMappings ∧
      (((db.writeSession candidate project).reconcileSemanticAssignment ext
      candidate.identity.stableKey).upsertSource candidate).aliases = db.aliases := by
    unfold upsertSource
    dsimp only
    rw [reconcile_frame]
    dsimp only
    rw [writeSession_frame]
    exact ⟨rfl, rfl⟩
  unfold writeCandidate upsertAliases
  rw [haliases]
  dsimp only
  generalize ((db.writeSession candidate project).reconcileSemanticAssignment ext
    candidate.identity.stableKey).upsertSource candidate = db₁ at hbefore ⊢
  exact ⟨db₁.upsertRuntime candidate, rfl, hframe db₁ hbefore.1 hbefore.2⟩

/-- What a report leaves behind: the session it is written to is marked as running in its pane,
unless a later generation has marked it. -/
structure Reported (ext : External) (db : ProjectCatalog) (input : RuntimeCandidateInput)
    (db' : ProjectCatalog) : Prop where
  aliases : db'.aliases = db.aliases
  refs : ∀ s r, db.refOf s = some r → db'.refOf s = some r
  others : ∀ s, s ≠ db.sessionOfRef ext input.identity.aliasKey →
    db'.runtimeMappings.lookup s = db.runtimeMappings.lookup s
  own : db'.runtimeMappings.lookup (db.sessionOfRef ext input.identity.aliasKey) =
      some ⟨input.workspaceId, input.paneId, asI64 input.generation.toNat, input.observedAt⟩ ∨
    ∃ old, db.runtimeMappings.lookup (db.sessionOfRef ext input.identity.aliasKey) = some old ∧
      asI64 input.generation.toNat < old.generation ∧
      db'.runtimeMappings.lookup (db.sessionOfRef ext input.identity.aliasKey) = some old

lemma upsertCandidate_report (ext : External) (db : ProjectCatalog)
    (input : RuntimeCandidateInput) (hcanonical : input.identity.Canonical ext) :
    ∃ db', db.upsertCandidate ext (candidateFromReport input) = .ok db' ∧
      db.Reported ext input db' := by
  have hkey : (db.resolveAliasPrimary ext (candidateFromReport input)).identity.stableKey =
      db.sessionOfRef ext input.identity.aliasKey := stableKey_resolveAliasPrimary hcanonical
  obtain ⟨haliases, hruntime, hobserved⟩ :=
    aliases_resolveAliasPrimary ext db (candidateFromReport input)
  unfold upsertCandidate
  dsimp only
  generalize db.resolveAliasPrimary ext (candidateFromReport input) = candidate at *
  obtain ⟨db₁, hwrite, hmappings, hsame⟩ := writeCandidate_noAliases ext db haliases
    (if db.canPreserveExistingAssignment candidate then none
      else some (classify ext (candidate.cwd.map (·.value))))
  have hwritten := (writeCandidate_ok hwrite).2
  rw [hwrite]
  refine ⟨db₁.bumpRevision, rfl, hsame, fun s r hr => ?_, fun s hs => ?_, ?_⟩
  · change db₁.refOf s = some r
    rw [hwritten.refOf, hr]
    split <;> rfl
  · change db₁.runtimeMappings.lookup s = _
    rw [hmappings]
    unfold upsertRuntime
    rw [hruntime, hkey]
    dsimp only [candidateFromReport]
    split
    · rfl
    · exact AList.lookup_insert_ne hs
  · change db₁.runtimeMappings.lookup _ = _ ∨ ∃ old, _ ∧ _ ∧ db₁.runtimeMappings.lookup _ = _
    rw [hmappings]
    unfold upsertRuntime
    rw [hruntime, hkey, hobserved]
    dsimp only [candidateFromReport]
    generalize asI64 input.generation.toNat = generation
    split_ifs with hold
    · obtain ⟨old, hlookup, hlt⟩ := (Option.any_eq_true _ _).mp hold
      exact .inr ⟨old, hlookup, of_decide_eq_true hlt, hlookup⟩
    · exact .inl (AList.lookup_insert _)

lemma Reported.sessionOfRef {input : RuntimeCandidateInput} (h : db.Reported ext input db')
    (hstored : db.AliasesStored) (k : String × SessionRefKind × String) :
    db'.sessionOfRef ext k = db.sessionOfRef ext k := by
  have hprimary : db'.primaryOf k = db.primaryOf k := by
    unfold primaryOf
    rw [h.aliases]
  have href : (db'.primaryOf k).bind db'.refOf = (db.primaryOf k).bind db.refOf := by
    rw [hprimary]
    cases hk : db.primaryOf k with
    | none => rfl
    | some p =>
      obtain ⟨r, hr⟩ := Option.isSome_iff_exists.mp (hstored k p hk)
      rw [Option.bind_some, Option.bind_some, hr, h.refs p r hr]
  unfold ProjectCatalog.sessionOfRef
  rw [href]

/-- What a key stands for does not depend on what is reported. -/
lemma Reported.sessionOf {input : RuntimeCandidateInput} (h : db.Reported ext input db')
    (hstored : db.AliasesStored) (key : String) :
    db'.sessionOf ext key = db.sessionOf ext key := by
  have hrefs : db'.sessionOfRef ext = db.sessionOfRef ext := funext (h.sessionOfRef hstored)
  unfold ProjectCatalog.sessionOf
  rw [h.aliases, hrefs]

lemma Reported.aliasesStored {input : RuntimeCandidateInput} (h : db.Reported ext input db')
    (hstored : db.AliasesStored) : db'.AliasesStored := by
  intro k p hk
  unfold primaryOf at hk
  rw [h.aliases] at hk
  obtain ⟨r, hr⟩ := Option.isSome_iff_exists.mp (hstored k p hk)
  rw [h.refs p r hr]
  rfl

lemma lookup_clearRuntimeMapping (db : ProjectCatalog) (key : String) (generation : UInt64)
    (s : String) : (db.clearRuntimeMapping key generation).runtimeMappings.lookup s =
      (db.runtimeMappings.lookup s).filter fun row =>
        !(s = key && row.generation = asI64 generation.toNat) :=
  Table.lookup_retain _ _ _

end

end ProjectCatalog

lemma asI64_of_lt {n : Nat} (h : n < 2 ^ 63) : asI64 n = n := by
  unfold asI64
  rw [Int.bmod_def]
  omega

namespace ProjectRuntime

/-- The session of a lease. -/
def sessionOf (ext : External) (rt : ProjectRuntime) (lease : RuntimeLease) : String :=
  rt.projectService.sessionOf ext lease.sessionKey

/-- The session a report is written to. -/
def reportedSession (ext : External) (rt : ProjectRuntime) (report : Option PaneReport) :
    Option String :=
  (report.bind PaneReport.identity).map (rt.projectService.sessionOfRef ext)

/-! ### Marks and leases -/

/-- The row is what the report of the lease has written. -/
structure RowOf (row : RuntimeRow) (lease : RuntimeLease) : Prop where
  workspaceId : row.workspaceId = lease.workspaceId
  paneId : row.paneId = lease.paneId
  generation : row.generation = lease.generation.toNat

/-- A session is marked as running, in one of its panes, as long as there is a lease on it;
`off` is a session of which this need not hold. -/
structure Consistent (ext : External) (rt : ProjectRuntime) (off : Option String) : Prop where
  stored : rt.projectService.AliasesStored
  live : ∀ pane lease, rt.projectRuntimeLeases.lookup pane = some lease →
    off ≠ some (rt.sessionOf ext lease) →
    (rt.projectService.runtimeMappings.lookup (rt.sessionOf ext lease)).isSome
  held : ∀ session row, rt.projectService.runtimeMappings.lookup session = some row →
    off ≠ some session → ∃ pane lease, rt.projectRuntimeLeases.lookup pane = some lease ∧
      rt.sessionOf ext lease = session ∧ RowOf row lease
  distinct : ∀ pane pane' lease lease', rt.projectRuntimeLeases.lookup pane = some lease →
    rt.projectRuntimeLeases.lookup pane' = some lease' → lease.generation = lease'.generation →
    pane = pane'
  below : ∀ pane lease, rt.projectRuntimeLeases.lookup pane = some lease →
    lease.generation < rt.nextProjectRuntimeGeneration
  rows_below : ∀ session row, rt.projectService.runtimeMappings.lookup session = some row →
    row.generation < rt.nextProjectRuntimeGeneration.toNat
  bounded : rt.nextProjectRuntimeGeneration.toNat ≤ 2 ^ 63

/-- The lease of the pane ends without harm: its pane goes on on the same session; or another
report has marked the session since; or the key is the session's own and no other pane is on it. -/
def LeaseEndsWell (ext : External) (rt : ProjectRuntime) (pane : PaneId)
    (report : Option PaneReport) : Prop :=
  ∀ lease, rt.projectRuntimeLeases.lookup pane = some lease →
    rt.reportedSession ext report = some (rt.sessionOf ext lease) ∨
    (∀ row, rt.projectService.runtimeMappings.lookup (rt.sessionOf ext lease) = some row →
      row.generation ≠ lease.generation.toNat) ∨
    (rt.sessionOf ext lease = lease.sessionKey ∧ ∀ other lease', other ≠ pane →
      rt.projectRuntimeLeases.lookup other = some lease' →
      rt.sessionOf ext lease' ≠ rt.sessionOf ext lease)

section
variable {ext : External} {rt rt' : ProjectRuntime} {pane : PaneId} {report : Option PaneReport}
  {off : Option String}

lemma Consistent.weaken (h : rt.Consistent ext none) (off : Option String) :
    rt.Consistent ext off :=
  { h with
    live := fun pane lease hlease _ => h.live pane lease hlease (Option.some_ne_none _).symm
    held := fun session row hrow _ => h.held session row hrow (Option.some_ne_none _).symm }

lemma Consistent.generation_asI64 (h : rt.Consistent ext none) {lease : RuntimeLease}
    (hlease : rt.projectRuntimeLeases.lookup pane = some lease) :
    asI64 lease.generation.toNat = lease.generation.toNat := by
  have hlt : lease.generation.toNat < rt.nextProjectRuntimeGeneration.toNat :=
    UInt64.lt_iff_toNat_lt.mp (h.below pane lease hlease)
  exact asI64_of_lt (hlt.trans_le h.bounded)

/-- A row with the generation of a lease is that lease's. -/
lemma Consistent.row_of_generation (h : rt.Consistent ext none) {lease : RuntimeLease}
    (hlease : rt.projectRuntimeLeases.lookup pane = some lease) {session : String}
    {row : RuntimeRow} (hrow : rt.projectService.runtimeMappings.lookup session = some row)
    (hgeneration : row.generation = lease.generation.toNat) :
    rt.sessionOf ext lease = session := by
  obtain ⟨pane', lease', hlease', hsession, hrowOf⟩ :=
    h.held session row hrow (Option.some_ne_none _).symm
  have hsame : lease'.generation = lease.generation := by
    refine UInt64.toNat_inj.mp ?_
    exact_mod_cast hrowOf.generation.symm.trans hgeneration
  obtain rfl := h.distinct pane' pane lease' lease hlease' hlease hsame
  rw [hlease] at hlease'
  cases hlease'
  exact hsession

/-- Ending a lease. -/
lemma Consistent.clear (h : rt.Consistent ext none) (hends : rt.LeaseEndsWell ext pane report) :
    (rt.clearProjectRuntimeForPane pane).Consistent ext (rt.reportedSession ext report) := by
  unfold clearProjectRuntimeForPane
  cases hlease : rt.projectRuntimeLeases.lookup pane with
  | none => exact h.weaken _
  | some lease =>
    have hgeneration := h.generation_asI64 hlease
    have hback : ∀ session row, (rt.projectService.clearRuntimeMapping lease.sessionKey
        lease.generation).runtimeMappings.lookup session = some row ↔
        rt.projectService.runtimeMappings.lookup session = some row ∧
          ¬(session = lease.sessionKey ∧ row.generation = lease.generation.toNat) := by
      intro session row
      rw [ProjectCatalog.lookup_clearRuntimeMapping, Option.filter_eq_some_iff, hgeneration,
        Bool.not_eq_true', Bool.and_eq_false_iff, decide_eq_false_iff_not,
        decide_eq_false_iff_not, not_and_or]
    have herased : ∀ pane' lease',
        (rt.projectRuntimeLeases.erase pane).lookup pane' = some lease' →
        pane' ≠ pane ∧ rt.projectRuntimeLeases.lookup pane' = some lease' := by
      intro pane' lease' hlease'
      by_cases he : pane' = pane
      · rw [he, AList.lookup_erase] at hlease'
        cases hlease'
      · rw [AList.lookup_erase_ne he] at hlease'
        exact ⟨he, hlease'⟩
    refine ⟨h.stored, ?_, ?_, ?_, ?_, ?_, h.bounded⟩
    · intro pane' lease' hlease' hoff
      obtain ⟨hne, hlease'⟩ := herased pane' lease' hlease'
      change rt.reportedSession ext report ≠ some (rt.sessionOf ext lease') at hoff
      obtain ⟨row, hrow⟩ := Option.isSome_iff_exists.mp
        (h.live pane' lease' hlease' (Option.some_ne_none _).symm)
      refine Option.isSome_iff_exists.mpr ⟨row, (hback _ _).mpr ⟨hrow, ?_⟩⟩
      rintro ⟨-, hrowGeneration⟩
      have hsession := h.row_of_generation hlease hrow hrowGeneration
      rcases hends lease hlease with hstays | hmarked | ⟨-, hothers⟩
      · exact hoff (hstays.trans (congrArg some hsession))
      · rw [hsession] at hmarked
        exact hmarked row hrow hrowGeneration
      · exact hothers pane' lease' hne hlease' hsession.symm
    · intro session row hcleared hoff
      obtain ⟨hrow, hkept⟩ := (hback session row).mp hcleared
      obtain ⟨pane', lease', hlease', hsession, hrowOf⟩ :=
        h.held session row hrow (Option.some_ne_none _).symm
      refine ⟨pane', lease', ?_, hsession, hrowOf⟩
      have hne : pane' ≠ pane := by
        rintro rfl
        rw [hlease] at hlease'
        cases hlease'
        rcases hends lease hlease with hstays | hmarked | ⟨hkey, -⟩
        · exact hoff (hstays.trans (congrArg some hsession))
        · rw [hsession] at hmarked
          exact hmarked row hrow hrowOf.generation
        · exact hkept ⟨hsession.symm.trans hkey, hrowOf.generation⟩
      exact (AList.lookup_erase_ne hne).trans hlease'
    · intro pane₁ pane₂ lease₁ lease₂ hlease₁ hlease₂
      exact h.distinct pane₁ pane₂ lease₁ lease₂ (herased _ _ hlease₁).2 (herased _ _ hlease₂).2
    · exact fun pane' lease' hlease' => h.below pane' lease' (herased _ _ hlease').2
    · exact fun session row hrow => h.rows_below session row ((hback session row).mp hrow).1

lemma takeNext_spec (hfew : rt.nextProjectRuntimeGeneration.toNat < 2 ^ 63) :
    rt.takeNextProjectRuntimeGeneration =
      ({ rt with nextProjectRuntimeGeneration := rt.nextProjectRuntimeGeneration + 1 },
        rt.nextProjectRuntimeGeneration) ∧
    (rt.nextProjectRuntimeGeneration + 1).toNat = rt.nextProjectRuntimeGeneration.toNat + 1 := by
  have hlt : rt.nextProjectRuntimeGeneration.toNat + 1 < 2 ^ 64 := by omega
  refine ⟨?_, ?_⟩
  · unfold takeNextProjectRuntimeGeneration
    dsimp only
    rw [if_pos hlt]
  · rw [UInt64.toNat_add, UInt64.toNat_one, Nat.mod_eq_of_lt hlt]

lemma Consistent.take (h : rt.Consistent ext off)
    (hfew : rt.nextProjectRuntimeGeneration.toNat < 2 ^ 63) :
    Consistent ext { rt with
      nextProjectRuntimeGeneration := rt.nextProjectRuntimeGeneration + 1 } off := by
  obtain ⟨-, hnext⟩ := takeNext_spec hfew
  refine ⟨h.stored, h.live, h.held, h.distinct, fun pane lease hlease => ?_,
    fun session row hrow => ?_, ?_⟩
  · have hold := UInt64.lt_iff_toNat_lt.mp (h.below pane lease hlease)
    refine UInt64.lt_iff_toNat_lt.mpr ?_
    dsimp only
    omega
  · have hold := h.rows_below session row hrow
    dsimp only
    omega
  · dsimp only
    omega

/-- The report of a pane whose lease, if it has one, is on the same session. -/
lemma Consistent.commitReport (h : rt.Consistent ext off) {k : String × SessionRefKind × String}
    {r : PaneReport} {generation : UInt64} (now : Int)
    (hoff : ∀ session, off = some session → session = rt.projectService.sessionOfRef ext k)
    (hkey : rt.projectService.sessionOf ext
      (SessionIdentity.fromCanonical ext k.1 k.2.1 k.2.2).stableKey =
        rt.projectService.sessionOfRef ext k)
    (hbelow : generation < rt.nextProjectRuntimeGeneration)
    (hown : ∀ other lease, rt.projectRuntimeLeases.lookup other = some lease → other ≠ pane →
      lease.generation ≠ generation)
    (hpane : ∀ lease, rt.projectRuntimeLeases.lookup pane = some lease →
      sameMapping lease (SessionIdentity.fromCanonical ext k.1 k.2.1 k.2.2) r = true ∧
        lease.generation = generation)
    (hrows : off = none ∨ ∀ row, rt.projectService.runtimeMappings.lookup
      (rt.projectService.sessionOfRef ext k) = some row → row.generation ≤ generation.toNat) :
    (rt.commitReport ext pane (SessionIdentity.fromCanonical ext k.1 k.2.1 k.2.2) r generation
      now).Consistent ext none ∧
    ∃ observedAt, (rt.commitReport ext pane (SessionIdentity.fromCanonical ext k.1 k.2.1 k.2.2) r
      generation now).projectRuntimeLeases = rt.projectRuntimeLeases.insert pane
        ⟨(SessionIdentity.fromCanonical ext k.1 k.2.1 k.2.2).stableKey, r.workspaceId,
          r.publicPaneId, generation, observedAt⟩ := by
  unfold ProjectRuntime.commitReport
  dsimp only
  generalize max now _ = observedAt
  obtain ⟨db', hok, hreported⟩ := ProjectCatalog.upsertCandidate_report ext rt.projectService
    ⟨.fromCanonical ext k.1 k.2.1 k.2.2, r.cwd, r.workspaceId, r.publicPaneId, generation,
      observedAt⟩ rfl
  rw [hok]
  have hsession : ∀ key, db'.sessionOf ext key = rt.projectService.sessionOf ext key :=
    hreported.sessionOf h.stored
  have hgeneration : asI64 generation.toNat = generation.toNat :=
    asI64_of_lt ((UInt64.lt_iff_toNat_lt.mp hbelow).trans_le h.bounded)
  have hown' := hreported.own
  have hothers := hreported.others
  dsimp only [SessionIdentity.aliasKey, SessionIdentity.fromCanonical] at hown' hothers
  rw [hgeneration] at hown'
  have hpaneSession : ∀ lease, rt.projectRuntimeLeases.lookup pane = some lease →
      rt.sessionOf ext lease = rt.projectService.sessionOfRef ext k := by
    intro lease hlease
    obtain ⟨hsame, -⟩ := hpane lease hlease
    unfold sameMapping at hsame
    rw [Bool.and_eq_true, Bool.and_eq_true, decide_eq_true_iff] at hsame
    rw [sessionOf, hsame.1.1, hkey]
  have hmoved : ∀ other lease, rt.projectRuntimeLeases.lookup other = some lease →
      rt.sessionOf ext lease ≠ rt.projectService.sessionOfRef ext k → other ≠ pane := by
    rintro other lease hlease hne rfl
    exact hne (hpaneSession lease hlease)
  refine ⟨⟨hreported.aliasesStored h.stored, ?_, ?_, ?_, ?_, ?_, h.bounded⟩, observedAt, rfl⟩
  · intro other lease hlease _
    change (db'.runtimeMappings.lookup (db'.sessionOf ext lease.sessionKey)).isSome
    rw [hsession]
    by_cases hT : rt.projectService.sessionOf ext lease.sessionKey =
        rt.projectService.sessionOfRef ext k
    · rw [hT]
      obtain hnew | ⟨old, -, -, hold⟩ := hown'
      · rw [hnew]
        rfl
      · rw [hold]
        rfl
    · rw [hothers _ hT]
      dsimp only at hlease
      rw [Table.lookup_insert_eq] at hlease
      split at hlease
      case isTrue =>
        cases hlease
        exact absurd hkey hT
      case isFalse =>
        exact h.live other lease hlease fun hoff' => hT (hoff _ hoff')
  · intro session row hrow _
    change db'.runtimeMappings.lookup session = some row at hrow
    by_cases hT : session = rt.projectService.sessionOfRef ext k
    · rw [hT] at hrow
      obtain hnew | ⟨old, hold, hlt, hkept⟩ := hown'
      · cases hrow.symm.trans hnew
        exact ⟨pane, _, AList.lookup_insert _, (hsession _).trans (hkey.trans hT.symm),
          ⟨rfl, rfl, rfl⟩⟩
      · cases hrow.symm.trans hkept
        have hnone : off = none := by
          rcases hrows with hnone | hrows
          · exact hnone
          · exact absurd (hrows row hold) (not_le.mpr hlt)
        rw [hnone] at h
        obtain ⟨other, lease, hlease, hleaseSession, hrowOf⟩ :=
          h.held _ row hold (Option.some_ne_none _).symm
        have hne : other ≠ pane := by
          rintro rfl
          rw [hrowOf.generation, (hpane lease hlease).2] at hlt
          exact lt_irrefl _ hlt
        exact ⟨other, lease, (AList.lookup_insert_ne hne).trans hlease,
          (hsession _).trans (hleaseSession.trans hT.symm), hrowOf⟩
    · rw [hothers session hT] at hrow
      obtain ⟨other, lease, hlease, hleaseSession, hrowOf⟩ :=
        h.held session row hrow fun hoff' => hT (hoff _ hoff')
      have hne := hmoved other lease hlease (hleaseSession ▸ hT)
      exact ⟨other, lease, (AList.lookup_insert_ne hne).trans hlease,
        (hsession _).trans hleaseSession, hrowOf⟩
  · intro pane₁ pane₂ lease₁ lease₂ hlease₁ hlease₂ hsame
    dsimp only at hlease₁ hlease₂
    rw [Table.lookup_insert_eq] at hlease₁ hlease₂
    split at hlease₁ <;> split at hlease₂
    · next h₁ h₂ => rw [h₁, h₂]
    · next h₁ h₂ =>
      cases hlease₁
      exact absurd hsame.symm (hown pane₂ lease₂ hlease₂ h₂)
    · next h₁ h₂ =>
      cases hlease₂
      exact absurd hsame (hown pane₁ lease₁ hlease₁ h₁)
    · exact h.distinct pane₁ pane₂ lease₁ lease₂ hlease₁ hlease₂ hsame
  · intro other lease hlease
    dsimp only at hlease
    rw [Table.lookup_insert_eq] at hlease
    split at hlease
    · cases hlease
      exact hbelow
    · exact h.below other lease hlease
  · intro session row hrow
    change db'.runtimeMappings.lookup session = some row at hrow
    by_cases hT : session = rt.projectService.sessionOfRef ext k
    · rw [hT] at hrow
      obtain hnew | ⟨old, hold, -, hkept⟩ := hown'
      · cases hrow.symm.trans hnew
        exact Int.ofNat_lt.mpr (UInt64.lt_iff_toNat_lt.mp hbelow)
      · cases hrow.symm.trans hkept
        exact h.rows_below _ row hold
    · rw [hothers session hT] at hrow
      exact h.rows_below session row hrow

/-- What a pane shows: a session, under the names of its workspace and its own. -/
def leaseNames (lease : RuntimeLease) : String × String × String :=
  (lease.sessionKey, lease.workspaceId, lease.paneId)

lemma lookup_clear (rt : ProjectRuntime) (pane other : PaneId) :
    (rt.clearProjectRuntimeForPane pane).projectRuntimeLeases.lookup other =
      if other = pane then none else rt.projectRuntimeLeases.lookup other := by
  unfold clearProjectRuntimeForPane
  cases hlease : rt.projectRuntimeLeases.lookup pane with
  | none =>
    dsimp only
    split_ifs with he
    · rw [he, hlease]
    · rfl
  | some lease =>
    dsimp only
    split_ifs with he
    · rw [he, AList.lookup_erase]
    · exact AList.lookup_erase_ne he

/-- Ending a lease changes no alias and takes no generation. -/
lemma clear_frame (ext : External) (rt : ProjectRuntime) (pane : PaneId) :
    (rt.clearProjectRuntimeForPane pane).projectService.sessionOf ext =
      rt.projectService.sessionOf ext ∧
    (rt.clearProjectRuntimeForPane pane).projectService.sessionOfRef ext =
      rt.projectService.sessionOfRef ext ∧
    (rt.clearProjectRuntimeForPane pane).nextProjectRuntimeGeneration =
      rt.nextProjectRuntimeGeneration := by
  unfold clearProjectRuntimeForPane
  split <;> exact ⟨rfl, rfl, rfl⟩

end

end ProjectRuntime

/-! ### Runs -/

/-- What happens to a pane ends in one of these. -/
inductive RuntimeOp
  | sync (pane : PaneId) (report : Option PaneReport) (forceMetadataRefresh : Bool) (now : Int)
  | clear (pane : PaneId)

namespace RuntimeOp

def pane : RuntimeOp → PaneId
  | sync pane _ _ _ => pane
  | clear pane => pane

/-- What the pane shows from now on. -/
def report : RuntimeOp → Option PaneReport
  | sync _ report _ _ => report
  | clear _ => none

def apply (ext : External) (rt : ProjectRuntime) : RuntimeOp → ProjectRuntime
  | sync pane report force now => rt.syncProjectRuntimeForPane ext pane report force now
  | clear pane => rt.clearProjectRuntimeForPane pane

/-- The condition on a step: a lease that ends does so without harm, no other identity has the key
of the reported one, and fewer than `2 ^ 63` leases have been given out. -/
structure Keeps (ext : External) (rt : ProjectRuntime) (op : RuntimeOp) : Prop where
  ends : rt.LeaseEndsWell ext op.pane op.report
  keys : ∀ k, op.report.bind PaneReport.identity = some k → rt.projectService.sessionOf ext
    (SessionIdentity.fromCanonical ext k.1 k.2.1 k.2.2).stableKey =
      rt.projectService.sessionOfRef ext k
  few : rt.nextProjectRuntimeGeneration.toNat < 2 ^ 63

/-- The session a pane shows after an operation on it, with the names it is shown under. -/
def shown (ext : External) (op : RuntimeOp) : Option (String × String × String) :=
  op.report.bind fun report => report.identity.map fun k =>
    ((SessionIdentity.fromCanonical ext k.1 k.2.1 k.2.2).stableKey, report.workspaceId,
      report.publicPaneId)

end RuntimeOp

namespace ProjectRuntime

section
variable {ext : External} {rt : ProjectRuntime} {pane : PaneId}

/-- After an operation marks and leases agree, and its pane holds the lease on what it shows. -/
structure Synced (ext : External) (rt : ProjectRuntime) (op : RuntimeOp) (rt' : ProjectRuntime) :
    Prop where
  consistent : rt'.Consistent ext none
  own : (rt'.projectRuntimeLeases.lookup op.pane).map leaseNames = op.shown ext
  others : ∀ other, other ≠ op.pane →
    rt'.projectRuntimeLeases.lookup other = rt.projectRuntimeLeases.lookup other

/-- The pane holds a lease on what it has just reported. -/
lemma Synced.of_insert {rt' : ProjectRuntime} {report : PaneReport}
    {k : String × SessionRefKind × String} (hk : report.identity = some k) (force : Bool)
    (now : Int) {generation : UInt64} {observedAt : Int} (hconsistent : rt'.Consistent ext none)
    (hleases : rt'.projectRuntimeLeases = rt.projectRuntimeLeases.insert pane
      ⟨(SessionIdentity.fromCanonical ext k.1 k.2.1 k.2.2).stableKey, report.workspaceId,
        report.publicPaneId, generation, observedAt⟩) :
    Synced ext rt (.sync pane (some report) force now) rt' := by
  refine ⟨hconsistent, ?_, fun other hne => ?_⟩
  · rw [hleases, RuntimeOp.pane, AList.lookup_insert]
    unfold RuntimeOp.shown
    rw [RuntimeOp.report, Option.bind_some, hk]
    rfl
  · rw [hleases]
    exact AList.lookup_insert_ne hne

/-- A report for a pane that holds no lease; the session it is written to may be off. -/
lemma Consistent.newReport {off : Option String} (h : rt.Consistent ext off)
    (hlease : rt.projectRuntimeLeases.lookup pane = none) {report : PaneReport}
    {k : String × SessionRefKind × String} (hk : report.identity = some k) (force : Bool)
    (now : Int)
    (hkey : rt.projectService.sessionOf ext
      (SessionIdentity.fromCanonical ext k.1 k.2.1 k.2.2).stableKey =
        rt.projectService.sessionOfRef ext k)
    (hoff : ∀ session, off = some session → session = rt.projectService.sessionOfRef ext k)
    (hfew : rt.nextProjectRuntimeGeneration.toNat < 2 ^ 63) :
    Synced ext rt (.sync pane (some report) force now)
      (rt.takeNextProjectRuntimeGeneration.1.commitReport ext pane
        (SessionIdentity.fromCanonical ext k.1 k.2.1 k.2.2) report
        rt.takeNextProjectRuntimeGeneration.2 now) := by
  obtain ⟨htake, hnext⟩ := takeNext_spec hfew
  rw [htake]
  obtain ⟨hconsistent, observedAt, hleases⟩ := (h.take hfew).commitReport (r := report) now hoff
    hkey (UInt64.lt_iff_toNat_lt.mpr (by dsimp only; omega))
    (fun other lease hother _ hsame => by
      have hlt := h.below other lease hother
      rw [hsame] at hlt
      exact UInt64.lt_irrefl _ hlt)
    (fun lease hsome => by
      rw [hlease] at hsome
      cases hsome)
    (.inr fun row hrow => (h.rows_below _ row hrow).le)
  exact .of_insert hk force now hconsistent hleases

lemma Consistent.clearOp (h : rt.Consistent ext none) (op : RuntimeOp)
    (hends : rt.LeaseEndsWell ext op.pane op.report)
    (hnone : op.report.bind PaneReport.identity = none) :
    Synced ext rt op (rt.clearProjectRuntimeForPane op.pane) := by
  have hconsistent := h.clear hends
  unfold reportedSession at hconsistent
  rw [hnone] at hconsistent
  refine ⟨hconsistent, ?_, fun other hne => ?_⟩
  · rw [lookup_clear, if_pos rfl]
    unfold RuntimeOp.shown
    cases hreport : op.report with
    | none => rfl
    | some report =>
      rw [hreport, Option.bind_some] at hnone
      rw [Option.bind_some, hnone]
      rfl
  · rw [lookup_clear, if_neg hne]

lemma Consistent.sync (h : rt.Consistent ext none) {report : Option PaneReport} {force : Bool}
    {now : Int} (hop : (RuntimeOp.sync pane report force now).Keeps ext rt) :
    Synced ext rt (.sync pane report force now)
      (rt.syncProjectRuntimeForPane ext pane report force now) := by
  unfold syncProjectRuntimeForPane
  cases report with
  | none => exact h.clearOp (.sync pane none force now) hop.ends rfl
  | some report =>
    dsimp only
    cases hk : report.identity with
    | none => exact h.clearOp (.sync pane (some report) force now) hop.ends hk
    | some k =>
      have hkey := hop.keys k hk
      obtain ⟨backend, refKind, refValue⟩ := k
      dsimp only
      cases hlease : rt.projectRuntimeLeases.lookup pane with
      | none =>
        exact h.newReport hlease hk force now hkey (fun _ hoff => nomatch hoff) hop.few
      | some existing =>
        dsimp only
        split_ifs with hsame hforce
        · obtain ⟨hconsistent, observedAt, hleases⟩ := h.commitReport (r := report) now
            (fun _ hoff => nomatch hoff) hkey (h.below pane existing hlease)
            (fun other lease hother hne heq => hne (h.distinct _ _ _ _ hother hlease heq))
            (fun lease hsome => by
              rw [hlease] at hsome
              cases hsome
              exact ⟨hsame, rfl⟩) (.inl rfl)
          exact .of_insert hk force now hconsistent hleases
        · refine ⟨h, ?_, fun _ _ => rfl⟩
          unfold sameMapping at hsame
          rw [Bool.and_eq_true, Bool.and_eq_true, decide_eq_true_iff, decide_eq_true_iff,
            decide_eq_true_iff] at hsame
          obtain ⟨⟨hsessionKey, hworkspaceId⟩, hpaneId⟩ := hsame
          unfold RuntimeOp.shown leaseNames
          rw [RuntimeOp.pane, hlease, RuntimeOp.report, Option.map_some, Option.bind_some, hk,
            Option.map_some, hsessionKey, hworkspaceId, hpaneId]
        · obtain ⟨hsessionOf, hsessionOfRef, hnext⟩ := clear_frame ext rt pane
          have hcleared : (rt.clearProjectRuntimeForPane pane).Consistent ext
              (rt.reportedSession ext (some report)) := h.clear hop.ends
          have hnone : (rt.clearProjectRuntimeForPane pane).projectRuntimeLeases.lookup pane =
              none := by
            rw [lookup_clear, if_pos rfl]
          have hnew := hcleared.newReport hnone hk force now (by
            rw [hsessionOf, hsessionOfRef]
            exact hkey) (by
            rintro session hoff
            unfold reportedSession at hoff
            rw [Option.bind_some, hk] at hoff
            cases hoff
            rw [hsessionOfRef]) (by
            rw [hnext]
            exact hop.few)
          refine ⟨hnew.consistent, hnew.own, fun other hne => ?_⟩
          rw [hnew.others other hne, lookup_clear]
          exact if_neg hne

lemma Consistent.step (h : rt.Consistent ext none) {op : RuntimeOp} (hop : op.Keeps ext rt) :
    Synced ext rt op (op.apply ext rt) := by
  cases op with
  | sync pane report force now => exact h.sync hop
  | clear pane => exact h.clearOp (.clear pane) hop.ends rfl

lemma start_consistent {db : ProjectCatalog} (hstored : db.AliasesStored) :
    (start db).Consistent ext none := by
  have hempty : db.clearAllRuntimeMappings.runtimeMappings = ∅ := by
    unfold ProjectCatalog.clearAllRuntimeMappings
    dsimp only
    split <;> rfl
  have hstored' : db.clearAllRuntimeMappings.AliasesStored := by
    unfold ProjectCatalog.clearAllRuntimeMappings
    dsimp only
    split <;> exact hstored
  refine ⟨hstored', fun _ _ hlease => (nomatch hlease), ?_, fun _ _ _ _ hlease => (nomatch hlease),
    fun _ _ hlease => (nomatch hlease), ?_, Nat.one_le_two_pow⟩
  all_goals
    intro session row hrow
    change db.clearAllRuntimeMappings.runtimeMappings.lookup session = some row at hrow
    rw [hempty] at hrow
    cases hrow

end

end ProjectRuntime

/-- What each pane shows after some operations. -/
def RuntimeOp.showing (ext : External) (ops : List RuntimeOp) :
    PaneId → Option (String × String × String) :=
  ops.foldl (fun shows op => Function.update shows op.pane (op.shown ext)) fun _ => none

section
variable {ext : External} {db : ProjectCatalog} {rt : ProjectRuntime} {threshold : Nat}
  {catalogOps : List CatalogOp} {ops : List RuntimeOp}

open ProjectRuntime

/-- A session is live exactly while some pane holds a lease on it, and its row names such a pane;
the panes that hold one are those that show a session. -/
theorem live_while_shown
    (hdb : Run (CatalogOp.Step ext) (ProjectCatalog.empty threshold) catalogOps db)
    (hrun : Run (fun rt op rt' => op.Keeps ext rt ∧ rt' = op.apply ext rt) (start db) ops rt) :
    (∀ session, (rt.projectService.runtimeMappings.lookup session).isSome ↔
      ∃ pane lease, rt.projectRuntimeLeases.lookup pane = some lease ∧
        rt.sessionOf ext lease = session) ∧
    (∀ session row, rt.projectService.runtimeMappings.lookup session = some row →
      ∃ pane lease, rt.projectRuntimeLeases.lookup pane = some lease ∧
        rt.sessionOf ext lease = session ∧ row.workspaceId = lease.workspaceId ∧
        row.paneId = lease.paneId) ∧
    ∀ pane, (rt.projectRuntimeLeases.lookup pane).map leaseNames =
      RuntimeOp.showing ext ops pane := by
  have hstored : db.AliasesStored :=
    hdb.invariant (fun _ _ _ h hs => h.step hs) fun k p hk => (nomatch hk)
  have hstep : ∀ done rt op rt', rt.Consistent ext none ∧
      (∀ pane, (rt.projectRuntimeLeases.lookup pane).map leaseNames =
        RuntimeOp.showing ext done pane) →
      op.Keeps ext rt ∧ rt' = op.apply ext rt → rt'.Consistent ext none ∧
      ∀ pane, (rt'.projectRuntimeLeases.lookup pane).map leaseNames =
        RuntimeOp.showing ext (done ++ [op]) pane := by
    rintro done rt op rt' ⟨h, hshowing⟩ ⟨hop, rfl⟩
    have hsynced := h.step hop
    refine ⟨hsynced.consistent, fun pane => ?_⟩
    unfold RuntimeOp.showing
    rw [List.foldl_append, List.foldl_cons, List.foldl_nil]
    by_cases hpane : pane = op.pane
    · rw [hpane, Function.update_self]
      exact hsynced.own
    · rw [Function.update_of_ne hpane, hsynced.others pane hpane]
      exact hshowing pane
  have hstart : (start db).Consistent ext none ∧
      ∀ pane, ((start db).projectRuntimeLeases.lookup pane).map leaseNames =
        RuntimeOp.showing ext [] pane :=
    ⟨start_consistent hstored, fun _ => rfl⟩
  obtain ⟨h, hshowing⟩ := Run.history_invariant hstep hrun hstart
  refine ⟨fun session => ⟨fun hlive => ?_, ?_⟩, fun session row hrow => ?_, hshowing⟩
  · obtain ⟨row, hrow⟩ := Option.isSome_iff_exists.mp hlive
    obtain ⟨pane, lease, hlease, hsession, -⟩ :=
      h.held session row hrow (Option.some_ne_none _).symm
    exact ⟨pane, lease, hlease, hsession⟩
  · rintro ⟨pane, lease, hlease, rfl⟩
    exact h.live pane lease hlease (Option.some_ne_none _).symm
  · obtain ⟨pane, lease, hlease, hsession, hrowOf⟩ :=
      h.held session row hrow (Option.some_ne_none _).symm
    exact ⟨pane, lease, hlease, hsession, hrowOf.workspaceId, hrowOf.paneId⟩

end

/-- A pane shows the pi session by its official id, which is an alias. -/
def officialReport (paneId : String) : PaneReport :=
  ⟨some ("pi", .id, "official-id"), .ofStr "/work", "workspace", paneId⟩

lemma afterPiScanFirst_run : Run (CatalogOp.Step piMachine) (.empty 20)
    [.upsertCandidate foundTranscript] afterPiScanFirst :=
  .cons (upsertCandidate_step (by decide)) (.nil _)

/-- The pane shows the session and then does so under another name. -/
theorem live_while_shown_moved :
    ∃ ops rt, Run (fun rt (op : RuntimeOp) rt' => op.Keeps piMachine rt ∧
        rt' = op.apply piMachine rt) (ProjectRuntime.start afterPiScanFirst) ops rt ∧
      RuntimeOp.showing piMachine ops ⟨1⟩ = some (officialId.stableKey, "workspace", "moved") ∧
      ∃ pane lease, rt.projectRuntimeLeases.lookup pane = some lease ∧
        rt.sessionOf piMachine lease = foundTranscript.identity.stableKey := by
  let first : RuntimeOp := .sync ⟨1⟩ (some (officialReport "pane")) false 30
  let second : RuntimeOp := .sync ⟨1⟩ (some (officialReport "moved")) false 40
  have hfirst : first.Keeps piMachine (ProjectRuntime.start afterPiScanFirst) := by
    refine ⟨fun lease hlease => (nomatch hlease), ?_, by decide⟩
    rintro k hk
    cases hk
    decide
  have hsecond : second.Keeps piMachine
      (first.apply piMachine (ProjectRuntime.start afterPiScanFirst)) := by
    refine ⟨fun lease hlease => .inl ?_, ?_, by decide⟩
    · have hkey : ((first.apply piMachine
          (ProjectRuntime.start afterPiScanFirst)).projectRuntimeLeases.lookup ⟨1⟩).map
            (·.sessionKey) = some officialId.stableKey := by
        decide
      change (first.apply piMachine
        (ProjectRuntime.start afterPiScanFirst)).projectRuntimeLeases.lookup ⟨1⟩ = _ at hlease
      rw [hlease, Option.map_some, Option.some.injEq] at hkey
      unfold ProjectRuntime.sessionOf
      rw [hkey]
      decide
    · rintro k hk
      cases hk
      decide
  have hrun : Run (fun rt (op : RuntimeOp) rt' => op.Keeps piMachine rt ∧
      rt' = op.apply piMachine rt) (ProjectRuntime.start afterPiScanFirst) [first, second] _ :=
    .cons ⟨hfirst, rfl⟩ (.cons ⟨hsecond, rfl⟩ (.nil _))
  obtain ⟨hlive, -, -⟩ := live_while_shown afterPiScanFirst_run hrun
  exact ⟨_, _, hrun, by decide, (hlive _).mp (by decide)⟩

/-- The pane exits and its session stays live. -/
theorem alias_stays_live :
    ¬∀ db ops rt, Run (CatalogOp.Step piMachine) (.empty 20) [.upsertCandidate foundTranscript] db →
      Run (fun rt (op : RuntimeOp) rt' => rt' = op.apply piMachine rt) (ProjectRuntime.start db) ops
        rt → ∀ session, (rt.projectService.runtimeMappings.lookup session).isSome → ∃ pane lease,
          rt.projectRuntimeLeases.lookup pane = some lease := by
  intro hclaim
  obtain ⟨pane, lease, hlease⟩ := hclaim afterPiScanFirst
    [.sync ⟨1⟩ (some (officialReport "pane")) false 30, .clear ⟨1⟩] _ afterPiScanFirst_run
    (.cons rfl (.cons rfl (.nil _))) foundTranscript.identity.stableKey (by decide)
  have hmem : pane ∈ (RuntimeOp.apply piMachine (RuntimeOp.apply piMachine
      (ProjectRuntime.start afterPiScanFirst)
      (.sync ⟨1⟩ (some (officialReport "pane")) false 30)) (.clear ⟨1⟩)).projectRuntimeLeases.keys :=
    AList.mem_keys.mp (AList.lookup_isSome.mp (hlease ▸ rfl))
  have hnone : (RuntimeOp.apply piMachine (RuntimeOp.apply piMachine
      (ProjectRuntime.start afterPiScanFirst)
      (.sync ⟨1⟩ (some (officialReport "pane")) false 30)) (.clear ⟨1⟩)).projectRuntimeLeases.keys =
        [] := by
    decide
  rw [hnone] at hmem
  cases hmem

end Ork3.Projects
