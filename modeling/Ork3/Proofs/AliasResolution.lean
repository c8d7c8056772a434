import Ork3.Library.Except
import Ork3.Library.Run
import Ork3.Proofs.CandidateWrites
import Ork3.Proofs.DirectoryAssignment

/-!
# Sessions known under several names

A candidate is written to the session that its identity is registered for as an alias. This goes
one step only, and it leaves rows that exist already where they are. It is enough in a run in which
no accepted candidate names a session as its alias that has a row of its own by then.
-/

namespace Ork3.Projects

open Ork3.Library

/-- The key of an identity is the digest of the rest. -/
def SessionIdentity.Canonical (ext : External) (identity : SessionIdentity) : Prop :=
  identity = .fromCanonical ext identity.backend identity.refKind identity.canonicalRefValue

namespace ProjectCatalog

/-- What the session under a key is called by its agent. -/
def refOf (db : ProjectCatalog) (stableKey : String) :
    Option (String × SessionRefKind × String) :=
  (db.sessions.lookup stableKey).map (·.ref)

/-- Resolving leads to a session that is no alias, in one step and for every candidate; what is
linked by an alias has one row. -/
structure AliasesSettled (ext : External) (db : ProjectCatalog) : Prop where
  not_aliased : ∀ candidate p,
    db.primaryOf (db.resolveAliasPrimary ext candidate).identity.aliasKey = some p →
      p = (db.resolveAliasPrimary ext candidate).identity.stableKey
  idempotent : ∀ candidate, db.resolveAliasPrimary ext (db.resolveAliasPrimary ext candidate) =
    db.resolveAliasPrimary ext candidate
  linked : ∀ candidate p, db.primaryOf candidate.identity.aliasKey = some p →
    (db.resolveAliasPrimary ext candidate).identity.stableKey = p ∧ (db.refOf p).isSome
  one_row : ∀ k p s, db.primaryOf k = some p → db.refOf s = some k → s = p

/-- The candidate, if the catalog accepts its aliases, names no session as an alias that has a row
of its own. -/
def LinksUnstored (ext : External) (db : ProjectCatalog) (candidate : SessionCandidate) : Prop :=
  let candidate := db.resolveAliasPrimary ext candidate
  db.AcceptsAliases candidate → ∀ a ∈ candidate.aliases, ∀ s,
    db.refOf s = some a.identity.aliasKey → s = candidate.identity.stableKey

/-- Each candidate of a chunk meets the condition in the state before it. -/
def ChunkLinksUnstored (ext : External) : Classifications → ProjectCatalog →
    List SessionCandidate → Prop
  | _, _, [] => True
  | cache, db, candidate :: candidates =>
    (candidate.identity.Canonical ext ∧ db.LinksUnstored ext candidate) ∧ ∀ cache' db',
      upsertScannedCandidate ext cache db candidate = .ok (cache', db') →
        ChunkLinksUnstored ext cache' db' candidates

/-- The rows of sessions stand under the digests of their references. -/
def RowsKeyed (ext : External) (db : ProjectCatalog) : Prop :=
  ∀ s r, db.refOf s = some r → (SessionIdentity.fromCanonical ext r.1 r.2.1 r.2.2).stableKey = s

/-- The invariant of the runs in which no alias has a row of its own. -/
structure AliasesConsistent (ext : External) (db : ProjectCatalog) : Prop where
  rows_keyed : db.RowsKeyed ext
  primary_stored : ∀ k p, db.primaryOf k = some p → (db.refOf p).isSome
  one_row : ∀ k p s, db.primaryOf k = some p → db.refOf s = some k → s = p

section
variable {ext : External} {db db' : ProjectCatalog} {candidate : SessionCandidate}

lemma resolveAliasPrimary_of_none (h : db.primaryOf candidate.identity.aliasKey = none) :
    db.resolveAliasPrimary ext candidate = candidate := by
  unfold primaryOf SessionIdentity.aliasKey at h
  rw [Option.map_eq_none_iff] at h
  unfold resolveAliasPrimary
  simp [h]

lemma resolveAliasPrimary_of_some {p : String} {r : String × SessionRefKind × String}
    (h : db.primaryOf candidate.identity.aliasKey = some p) (hr : db.refOf p = some r) :
    db.resolveAliasPrimary ext candidate =
      { candidate with identity := .fromCanonical ext r.1 r.2.1 r.2.2 } := by
  unfold primaryOf SessionIdentity.aliasKey at h
  obtain ⟨row, halias, rfl⟩ := Option.map_eq_some_iff.mp h
  obtain ⟨s, hs, rfl⟩ := Option.map_eq_some_iff.mp hr
  unfold resolveAliasPrimary
  simp [halias, hs, SessionRow.ref]

/-- A candidate resolves to itself or to the session it is an alias of. -/
lemma AliasesConsistent.resolve_cases (h : db.AliasesConsistent ext)
    (candidate : SessionCandidate) :
    (db.primaryOf candidate.identity.aliasKey = none ∧
      db.resolveAliasPrimary ext candidate = candidate) ∨
    ∃ p, db.primaryOf candidate.identity.aliasKey = some p ∧
      (db.resolveAliasPrimary ext candidate).identity.stableKey = p ∧
      (db.resolveAliasPrimary ext candidate).identity.Canonical ext ∧
      db.refOf p = some (db.resolveAliasPrimary ext candidate).identity.aliasKey := by
  cases hprimary : db.primaryOf candidate.identity.aliasKey with
  | none => exact .inl ⟨rfl, resolveAliasPrimary_of_none hprimary⟩
  | some p =>
    obtain ⟨r, hr⟩ := Option.isSome_iff_exists.mp (h.primary_stored _ _ hprimary)
    refine .inr ⟨p, rfl, ?_⟩
    rw [resolveAliasPrimary_of_some hprimary hr]
    exact ⟨h.rows_keyed p r hr, rfl, hr⟩

lemma AliasesConsistent.not_aliased (h : db.AliasesConsistent ext) {p : String}
    (hp : db.primaryOf (db.resolveAliasPrimary ext candidate).identity.aliasKey = some p) :
    p = (db.resolveAliasPrimary ext candidate).identity.stableKey := by
  rcases h.resolve_cases candidate with ⟨hnone, hself⟩ | ⟨q, -, hkey, -, href⟩
  · rw [hself, hnone] at hp
    cases hp
  · rw [hkey]
    exact (h.one_row _ _ _ hp href).symm

lemma AliasesConsistent.settled (h : db.AliasesConsistent ext) : db.AliasesSettled ext where
  not_aliased _ _ hp := h.not_aliased hp
  idempotent candidate := by
    rcases h.resolve_cases (db.resolveAliasPrimary ext candidate) with ⟨-, hself⟩ | ⟨p, hp, -⟩
    · exact hself
    · rcases h.resolve_cases candidate with ⟨-, hself⟩ | ⟨q, -, hkey, hcanonical, href⟩
      · rw [hself, hself]
      · obtain rfl := (h.not_aliased hp).trans hkey
        rw [resolveAliasPrimary_of_some hp href]
        unfold SessionIdentity.Canonical at hcanonical
        exact congrArg (fun i => { db.resolveAliasPrimary ext candidate with identity := i })
          hcanonical.symm
  linked candidate p hp := by
    refine ⟨?_, h.primary_stored _ _ hp⟩
    rcases h.resolve_cases candidate with ⟨hnone, -⟩ | ⟨q, hq, hkey, -⟩
    · rw [hnone] at hp
      cases hp
    · rw [hp] at hq
      rw [hkey, Option.some.inj hq]
  one_row := h.one_row

lemma aliasesConsistent_empty (threshold : Nat) : (empty threshold).AliasesConsistent ext where
  rows_keyed s r h := by cases h
  primary_stored k p h := by cases h
  one_row k p s h := by cases h

/-- Sessions may go, with the aliases that lead to them; nothing else happens to references and
aliases. -/
structure Shrinks (db db' : ProjectCatalog) : Prop where
  refs : ∀ s r, db'.refOf s = some r → db.refOf s = some r
  primary : ∀ k p, db'.primaryOf k = some p →
    db.primaryOf k = some p ∧ ((db.refOf p).isSome → (db'.refOf p).isSome)

lemma Shrinks.of_eq (hprimary : ∀ k, db'.primaryOf k = db.primaryOf k)
    (href : ∀ s, db'.refOf s = db.refOf s) : Shrinks db db' where
  refs s r hs := by rwa [← href]
  primary k p hk := by
    rw [hprimary] at hk
    rw [href]
    exact ⟨hk, id⟩

lemma Shrinks.trans {db'' : ProjectCatalog} (h : Shrinks db db') (h' : Shrinks db' db'') :
    Shrinks db db'' where
  refs s r hs := h.refs s r (h'.refs s r hs)
  primary k p hk := by
    obtain ⟨hk', hrow'⟩ := h'.primary k p hk
    obtain ⟨hk'', hrow⟩ := h.primary k p hk'
    exact ⟨hk'', hrow' ∘ hrow⟩

lemma Shrinks.foldl {ι : Type} {f : ProjectCatalog → ι → ProjectCatalog}
    (hstep : ∀ db x, Shrinks db (f db x)) (l : List ι) (db : ProjectCatalog) :
    Shrinks db (l.foldl f db) := by
  induction l generalizing db with
  | nil => exact .of_eq (fun k => rfl) fun s => rfl
  | cons x l ih => exact (hstep db x).trans (ih (f db x))

lemma RowsKeyed.shrink (h : db.RowsKeyed ext) (hs : Shrinks db db') : db'.RowsKeyed ext :=
  fun s r hr => h s r (hs.refs s r hr)

lemma AliasesConsistent.shrink (h : db.AliasesConsistent ext) (hs : Shrinks db db') :
    db'.AliasesConsistent ext where
  rows_keyed := h.rows_keyed.shrink hs
  primary_stored k p hk := by
    obtain ⟨hk', hrow⟩ := hs.primary k p hk
    exact hrow (h.primary_stored k p hk')
  one_row k p s hk hr := h.one_row k p s (hs.primary k p hk).1 (hs.refs s k hr)

/-! ### Candidates -/

lemma Written.refOf (h : db.Written candidate db') (s : String) :
    db'.refOf s = if s = candidate.identity.stableKey then
      some ((db.refOf s).getD candidate.identity.aliasKey) else db.refOf s := by
  unfold ProjectCatalog.refOf
  rw [h.sessions]
  by_cases hs : s = candidate.identity.stableKey
  · rw [if_pos hs, hs, AList.lookup_insert, Option.map_some, ref_upsertedSession]
  · rw [if_neg hs, AList.lookup_insert_ne hs]

lemma RowsKeyed.written (h : db.RowsKeyed ext) (hcanonical : candidate.identity.Canonical ext)
    (hw : db.Written candidate db') : db'.RowsKeyed ext := by
  intro s r hs
  rw [hw.refOf] at hs
  by_cases heq : s = candidate.identity.stableKey
  · rw [if_pos heq, Option.some.injEq] at hs
    cases hold : db.refOf s with
    | none =>
      rw [hold, Option.getD_none] at hs
      rw [heq, ← hs]
      exact (congrArg SessionIdentity.stableKey hcanonical).symm
    | some r' =>
      rw [hold, Option.getD_some] at hs
      exact h s r (hs ▸ hold)
  · rw [if_neg heq] at hs
    exact h s r hs

/-- A resolved candidate that links no stored session keeps the invariant. -/
lemma AliasesConsistent.written (h : db.AliasesConsistent ext)
    (hcanonical : candidate.identity.Canonical ext)
    (hfree : ∀ p, db.primaryOf candidate.identity.aliasKey = some p →
      p = candidate.identity.stableKey)
    (hlinks : ∀ a ∈ candidate.aliases, ∀ s, db.refOf s = some a.identity.aliasKey →
      s = candidate.identity.stableKey)
    (hw : db.Written candidate db') : db'.AliasesConsistent ext where
  rows_keyed := h.rows_keyed.written hcanonical hw
  primary_stored k p hk := by
    rw [hw.refOf]
    by_cases heq : p = candidate.identity.stableKey
    · rw [if_pos heq]
      rfl
    · rw [if_neg heq]
      rw [hw.primary] at hk
      split at hk
      · exact absurd (Option.some.inj hk).symm heq
      · exact h.primary_stored k p hk
  one_row k p s hk hs := by
    rw [hw.primary] at hk
    rw [hw.refOf] at hs
    by_cases heq : s = candidate.identity.stableKey
    · rw [if_pos heq, Option.some.injEq] at hs
      split at hk
      · exact heq.trans (Option.some.inj hk)
      · cases hold : db.refOf s with
        | none =>
          rw [hold, Option.getD_none] at hs
          exact heq.trans (hfree p (hs ▸ hk)).symm
        | some r =>
          rw [hold, Option.getD_some] at hs
          exact h.one_row k p s hk (hs ▸ hold)
    · rw [if_neg heq] at hs
      split at hk
      · rename_i hmem
        obtain ⟨a, ha, rfl⟩ := List.mem_map.mp hmem
        exact absurd (hlinks a ha s hs) heq
      · exact h.one_row k p s hk hs

lemma canonical_resolve (db : ProjectCatalog) (h : candidate.identity.Canonical ext) :
    (db.resolveAliasPrimary ext candidate).identity.Canonical ext := by
  unfold resolveAliasPrimary
  dsimp only
  split
  · exact h
  · exact rfl

lemma upsertScannedCandidate_written {cache cache' : Classifications}
    (hok : upsertScannedCandidate ext cache db candidate = .ok (cache', db')) :
    ∃ project, db.writeCandidate ext (db.resolveAliasPrimary ext candidate) project = .ok db' := by
  unfold upsertScannedCandidate at hok
  dsimp only at hok
  obtain ⟨written, hwrite, hdone⟩ := bind_eq_ok.mp hok
  obtain ⟨-, rfl⟩ := Prod.mk.inj (Except.ok.inj hdone)
  exact ⟨_, hwrite⟩

/-- What the catalog writes for a candidate that meets the condition. -/
lemma AliasesConsistent.resolved (h : db.AliasesConsistent ext)
    (hcanonical : candidate.identity.Canonical ext) (hlinks : db.LinksUnstored ext candidate)
    (haccept : db.AcceptsAliases (db.resolveAliasPrimary ext candidate))
    (hw : db.Written (db.resolveAliasPrimary ext candidate) db') : db'.AliasesConsistent ext :=
  h.written (canonical_resolve db hcanonical) (fun _ hp => h.not_aliased hp) (hlinks haccept) hw

lemma AliasesConsistent.upsertCandidate (h : db.AliasesConsistent ext)
    (hcanonical : candidate.identity.Canonical ext) (hlinks : db.LinksUnstored ext candidate)
    (hok : db.upsertCandidate ext candidate = .ok db') : db'.AliasesConsistent ext := by
  obtain ⟨haccept, hw⟩ := upsertCandidate_ok hok
  exact h.resolved hcanonical hlinks haccept hw

/-- The condition is also necessary: an accepted candidate that names a stored session as its alias
leaves that session its row. -/
lemma AliasesSettled.linksUnstored (h : db'.AliasesSettled ext)
    (hok : db.upsertCandidate ext candidate = .ok db') : db.LinksUnstored ext candidate := by
  intro haccept a ha s hs
  obtain ⟨-, hw⟩ := upsertCandidate_ok hok
  by_cases heq : s = (db.resolveAliasPrimary ext candidate).identity.stableKey
  · exact heq
  · have hprimary : db'.primaryOf a.identity.aliasKey =
        some (db.resolveAliasPrimary ext candidate).identity.stableKey := by
      rw [hw.primary]
      exact if_pos (List.mem_map_of_mem ha)
    have hrow : db'.refOf s = some a.identity.aliasKey := by
      rw [hw.refOf]
      exact (if_neg heq).trans hs
    exact h.one_row _ _ _ hprimary hrow

lemma AliasesConsistent.chunk (h : db.AliasesConsistent ext) {candidates : List SessionCandidate}
    {cache cache' : Classifications} (hlinks : ChunkLinksUnstored ext cache db candidates)
    (hok : candidates.foldlM (fun (r : Classifications × ProjectCatalog) candidate =>
      upsertScannedCandidate ext r.1 r.2 candidate) (cache, db) = .ok (cache', db')) :
    db'.AliasesConsistent ext := by
  induction candidates generalizing db cache with
  | nil =>
    obtain ⟨-, rfl⟩ := Prod.mk.inj (foldlM_nil_eq_ok.mp hok)
    exact h
  | cons candidate candidates ih =>
    obtain ⟨⟨cache₁, db₁⟩, hone, hrest⟩ := foldlM_cons_eq_ok.mp hok
    obtain ⟨⟨hcanonical, hlink⟩, hlater⟩ := hlinks
    have hwritten : db₁.AliasesConsistent ext := by
      obtain ⟨project, hwrite⟩ := upsertScannedCandidate_written hone
      obtain ⟨haccept, hw⟩ := writeCandidate_ok hwrite
      exact h.resolved hcanonical hlink haccept hw
    exact ih hwritten (hlater _ _ hone) hrest

lemma refOf_refreshAutomationClasses (ext : External) (db : ProjectCatalog) (s : String) :
    (db.refreshAutomationClasses ext).1.bumpRevision.refOf s = db.refOf s := by
  obtain ⟨f, hf, hlookup⟩ := lookup_refreshAutomationClasses ext db s
  unfold ProjectCatalog.refOf bumpRevision
  dsimp only
  rw [hlookup, Option.map_map]
  refine Option.map_congr fun row _ => ?_
  obtain ⟨c, hc⟩ := hf row
  rw [Function.comp_apply, hc]
  rfl

lemma shrinks_refreshAutomationClasses (ext : External) (db : ProjectCatalog) :
    Shrinks db (db.refreshAutomationClasses ext).1.bumpRevision :=
  .of_eq (fun _ => rfl) (refOf_refreshAutomationClasses ext db)

lemma AliasesConsistent.upsertScannedCandidates (h : db.AliasesConsistent ext)
    {candidates : List SessionCandidate} (hlinks : ChunkLinksUnstored ext [] db candidates)
    (hok : db.upsertScannedCandidates ext candidates = .ok db') : db'.AliasesConsistent ext := by
  unfold ProjectCatalog.upsertScannedCandidates at hok
  split at hok
  · obtain rfl := Except.ok.inj hok
    exact h
  · obtain ⟨⟨cache, written⟩, hfold, hdone⟩ := bind_eq_ok.mp hok
    obtain rfl := Except.ok.inj hdone
    have hwritten : written.AliasesConsistent ext := h.chunk hlinks hfold
    exact hwritten.shrink (shrinks_refreshAutomationClasses ext written)

lemma RowsKeyed.upsertCandidate (h : db.RowsKeyed ext)
    (hcanonical : candidate.identity.Canonical ext)
    (hok : db.upsertCandidate ext candidate = .ok db') : db'.RowsKeyed ext :=
  h.written (canonical_resolve db hcanonical) (upsertCandidate_ok hok).2

lemma RowsKeyed.upsertScannedCandidates (h : db.RowsKeyed ext) {candidates : List SessionCandidate}
    (hcanonical : ∀ c ∈ candidates, c.identity.Canonical ext)
    (hok : db.upsertScannedCandidates ext candidates = .ok db') : db'.RowsKeyed ext := by
  unfold ProjectCatalog.upsertScannedCandidates at hok
  split at hok
  · obtain rfl := Except.ok.inj hok
    exact h
  · obtain ⟨⟨cache, written⟩, hfold, hdone⟩ := bind_eq_ok.mp hok
    obtain rfl := Except.ok.inj hdone
    have hstep : ∀ (s : Classifications × ProjectCatalog) (c : SessionCandidate)
        (t : Classifications × ProjectCatalog), c ∈ candidates → s.2.RowsKeyed ext →
        upsertScannedCandidate ext s.1 s.2 c = .ok t → t.2.RowsKeyed ext := by
      intro s c t hc hs hone
      obtain ⟨project, hwrite⟩ := upsertScannedCandidate_written hone
      exact hs.written (canonical_resolve s.2 (hcanonical c hc)) (writeCandidate_ok hwrite).2
    have hwritten : written.RowsKeyed ext := foldlM_invariant_of_mem hstep h hfold
    exact hwritten.shrink (shrinks_refreshAutomationClasses ext written)

/-! ### The other operations -/

/-- A session goes with the aliases that lead to it. -/
lemma shrinks_deleteSession (db : ProjectCatalog) (stableKey : String) :
    Shrinks db (db.deleteSession stableKey) := by
  have href : ∀ s, (db.deleteSession stableKey).refOf s =
      if s = stableKey then none else db.refOf s := by
    intro s
    unfold ProjectCatalog.refOf deleteSession
    dsimp only
    by_cases hs : s = stableKey
    · rw [if_pos hs, hs, AList.lookup_erase, Option.map_none]
    · rw [if_neg hs, AList.lookup_erase_ne hs]
  refine ⟨fun s r hs => ?_, fun k p hk => ?_⟩
  · rw [href] at hs
    split at hs
    · cases hs
    · exact hs
  · obtain ⟨row, hrow, rfl⟩ := Option.map_eq_some_iff.mp hk
    unfold deleteSession at hrow
    dsimp only at hrow
    rw [Table.lookup_retain] at hrow
    obtain ⟨hlookup, hkeep⟩ := Option.filter_eq_some_iff.mp hrow
    rw [href, if_neg (of_decide_eq_true hkeep)]
    exact ⟨Option.map_eq_some_iff.mpr ⟨row, hlookup, rfl⟩, id⟩

lemma shrinks_completeRootScan (db : ProjectCatalog) (adapter rootKey : String)
    (completion : ScanCompletion) (seenSourceKeys excludedSourceKeys : List String)
    (observedAt : Int) :
    Shrinks db (db.completeRootScan adapter rootKey completion seenSourceKeys excludedSourceKeys
      observedAt) := by
  unfold completeRootScan
  dsimp only
  split
  · have hdeleted : Shrinks db (excludedSourceKeys.foldl (deleteExcluded adapter rootKey) db) := by
      apply Shrinks.foldl
      intro db sourceKey
      apply Shrinks.foldl
      exact shrinks_deleteSession
    exact hdeleted.trans (.of_eq (fun k => rfl) fun s => rfl)
  · exact .of_eq (fun k => rfl) fun s => rfl

lemma shrinks_assignSession {stableKey projectKey : String} {lock : Bool} {observedAt : Int}
    (hok : db.assignSession stableKey projectKey lock observedAt = .ok db') : Shrinks db db' := by
  unfold assignSession at hok
  split at hok
  · cases hok
  · cases hok
  · obtain rfl := Except.ok.inj hok
    exact .of_eq (fun k => rfl) fun s => rfl

lemma shrinks_unlockSession {stableKey : String} {observedAt : Int}
    (hok : db.unlockSession stableKey observedAt = .ok db') : Shrinks db db' := by
  unfold unlockSession at hok
  split at hok
  · cases hok
  · obtain rfl := Except.ok.inj hok
    exact .of_eq (fun k => rfl) fun s => rfl

lemma shrinks_applySemanticBatch (ext : External) (db : ProjectCatalog)
    (batch : List SemanticAssignment) (observedAt : Int) :
    Shrinks db (db.applySemanticBatch ext batch observedAt) := by
  have hbatch : Shrinks db
      (batch.foldl (fun db item => db.applySemantic ext item observedAt) db) := by
    apply Shrinks.foldl
    intro db item
    unfold applySemantic
    dsimp only
    split
    · exact .of_eq (fun k => rfl) fun s => rfl
    · rw [upsertProject_frame]
      exact .of_eq (fun k => rfl) fun s => rfl
  exact hbatch.trans (.of_eq (fun k => rfl) fun s => rfl)

end

end ProjectCatalog

/-! ### Runs -/

/-- The condition on a step: every candidate it writes links no stored session. -/
def CatalogOp.LinksUnstored (ext : External) (db : ProjectCatalog) : CatalogOp → Prop
  | upsertCandidate candidate =>
    candidate.identity.Canonical ext ∧ db.LinksUnstored ext candidate
  | upsertScannedCandidates candidates =>
    ProjectCatalog.ChunkLinksUnstored ext [] db candidates
  | _ => True

section
variable {ext : External} {db db' : ProjectCatalog}

lemma ProjectCatalog.AliasesConsistent.step (h : db.AliasesConsistent ext) {op : CatalogOp}
    (hlinks : op.LinksUnstored ext db) (hstep : op.Step ext db db') :
    db'.AliasesConsistent ext := by
  unfold CatalogOp.Step at hstep
  cases happly : op.apply ext db with
  | error e =>
    rw [happly] at hstep
    exact hstep ▸ h
  | ok written =>
    rw [happly] at hstep
    subst hstep
    cases op with
    | upsertCandidate candidate => exact h.upsertCandidate hlinks.1 hlinks.2 happly
    | upsertScannedCandidates candidates => exact h.upsertScannedCandidates hlinks happly
    | assignSession => exact h.shrink (shrinks_assignSession happly)
    | unlockSession => exact h.shrink (shrinks_unlockSession happly)
    | completeRootScan =>
      obtain rfl := Except.ok.inj happly
      exact h.shrink (shrinks_completeRootScan ..)
    | applySemanticBatch batch observedAt =>
      obtain rfl := Except.ok.inj happly
      exact h.shrink (shrinks_applySemanticBatch ext db batch observedAt)

/-- In a run of a new catalog whose steps all meet the condition, every candidate resolves in one
step to a session that is no alias, and what an alias links has one row. -/
theorem aliasesSettled_of_run {threshold : Nat} {ops : List CatalogOp}
    (hrun : Run (fun db op db' => op.LinksUnstored ext db ∧ op.Step ext db db')
      (.empty threshold) ops db) : db.AliasesSettled ext :=
  (hrun.invariant (fun _ _ _ h hs => h.step hs.1 hs.2)
    (ProjectCatalog.aliasesConsistent_empty threshold)).settled

end

/-! ### Rows and their keys -/

/-- The candidates of an operation have identities made by `from_canonical`. -/
def CatalogOp.Canonical (ext : External) : CatalogOp → Prop
  | upsertCandidate candidate => candidate.identity.Canonical ext
  | upsertScannedCandidates candidates => ∀ c ∈ candidates, c.identity.Canonical ext
  | _ => True

lemma rowsKeyed_of_run {ext : External} {threshold : Nat} {ops : List CatalogOp}
    {db : ProjectCatalog}
    (hrun : Run (fun db op db' => op.Canonical ext ∧ op.Step ext db db') (.empty threshold) ops db) :
    db.RowsKeyed ext := by
  have hstep : ∀ (db : ProjectCatalog) (op : CatalogOp) (db' : ProjectCatalog), db.RowsKeyed ext →
      op.Canonical ext ∧ op.Step ext db db' → db'.RowsKeyed ext := by
    rintro db op db' h ⟨hcanonical, hstep⟩
    unfold CatalogOp.Step at hstep
    cases happly : op.apply ext db with
    | error e =>
      rw [happly] at hstep
      exact hstep ▸ h
    | ok written =>
      rw [happly] at hstep
      subst hstep
      cases op with
      | upsertCandidate candidate => exact h.upsertCandidate hcanonical happly
      | upsertScannedCandidates candidates => exact h.upsertScannedCandidates hcanonical happly
      | assignSession => exact h.shrink (ProjectCatalog.shrinks_assignSession happly)
      | unlockSession => exact h.shrink (ProjectCatalog.shrinks_unlockSession happly)
      | completeRootScan =>
        obtain rfl := Except.ok.inj happly
        exact h.shrink (ProjectCatalog.shrinks_completeRootScan ..)
      | applySemanticBatch batch observedAt =>
        obtain rfl := Except.ok.inj happly
        exact h.shrink (ProjectCatalog.shrinks_applySemanticBatch ext db batch observedAt)
  exact hrun.invariant hstep fun s r h => (nomatch h)

/-! ### A session reported before it is scanned -/

/-- The digests of a session under both its names and of a copy of its transcript, and of the
project of sessions without a directory. -/
def piDigest (_domain : List UInt8) (fields : List (List UInt8)) : String :=
  let digests : List (List String × String) :=
    [(["pi", "id", "official-id"],
        "a988129846042f3007366e2afc43344807e58542968343479e5e5c14752ddfc5"),
      (["pi", "path", "/sessions/session.jsonl"],
        "ae4b79e3bee64b1957fe7150ce4cab7a03ad8dfbe9b71ce6fec9e24799dda527"),
      (["pi", "path", "/sessions/copy.jsonl"],
        "1ca63c24773563f738661a1272f544d3c757e8fe8d34c220e78f37cc97335024"),
      (["unclassified", "unclassified"],
        "975c63b81910c923b734276c1c434ca7f7ebbc5d8be91bc9b190c69a35a0f038")]
  ((digests.find? fun e => e.1.map utf8Bytes = fields).map (·.2)).getD ""

/-- A machine whose directories have all gone. -/
def piMachine : External where
  versionedKey := piDigest
  toLowercase s := s.map Char.toLower
  classify _ := ⟨piDigest [] [utf8Bytes "unclassified", utf8Bytes "unclassified"],
    .unclassified, "unclassified", "Unclassified", "cwd unavailable"⟩
  classify_congr _ _ _ := rfl

def officialId : SessionIdentity :=
  .fromCanonical piMachine "pi" .id "official-id"

/-- A pane reports the session under its official id. -/
def piReport : SessionCandidate :=
  candidateFromReport ⟨officialId, .ofStr "/work", "workspace", "pane", 1, 10⟩

/-- Its transcript, found later, is named by its path and gives the official id as an alias. -/
def piTranscript (path : String) : SessionCandidate where
  identity := .fromCanonical piMachine "pi" .path path
  title := none
  cwd := none
  transcriptRef := some ⟨path, 20, .transcriptFile, path⟩
  firstActivityAt := 20
  lastActivityAt := 20
  adapter := "pi"
  rootKey := "/sessions"
  sourceKey := path
  observedAt := 20
  aliases := [⟨officialId, "pi session header id"⟩]
  runtime := none
  weight := ⟨0, 0, true⟩
  sessionClass := some .interactive

def foundTranscript : SessionCandidate :=
  piTranscript "/sessions/session.jsonl"

def afterPiReport : ProjectCatalog :=
  ((ProjectCatalog.empty 20).upsertCandidate piMachine piReport).toOption.getD (.empty 20)

def afterPiScan : ProjectCatalog :=
  (afterPiReport.upsertScannedCandidates piMachine [foundTranscript]).toOption.getD (.empty 20)

lemma afterPiScan_step : CatalogOp.Step piMachine afterPiReport
    (.upsertScannedCandidates [foundTranscript]) afterPiScan := by
  have hok : afterPiReport.upsertScannedCandidates piMachine [foundTranscript] = .ok afterPiScan :=
    eq_ok_of_isOk (by decide)
  rw [CatalogOp.Step, CatalogOp.apply, hok]

/-- The row of the report stays beside the row of the transcript. -/
theorem scannedAlias_keeps_row :
    ¬∀ ops db, Run (CatalogOp.Step piMachine) (.empty 20) ops db → db.AliasesSettled piMachine := by
  intro h
  have hsettled := h _ _ (.cons (upsertCandidate_step (by decide)) (.cons afterPiScan_step (.nil _)))
  have hprimary : afterPiScan.primaryOf officialId.aliasKey =
      some foundTranscript.identity.stableKey := by
    decide
  have hrow : afterPiScan.refOf officialId.stableKey = some officialId.aliasKey := by
    decide +kernel
  have hkey := hsettled.one_row _ _ _ hprimary hrow
  exact absurd hkey (by decide)

def afterPiScanFirst : ProjectCatalog :=
  ((ProjectCatalog.empty 20).upsertCandidate piMachine foundTranscript).toOption.getD (.empty 20)

def afterLateReport : ProjectCatalog :=
  (afterPiScanFirst.upsertCandidate piMachine piReport).toOption.getD (.empty 20)

/-- Scanned first, the transcript names no stored session, and the report that follows writes to the
row of the transcript. -/
theorem aliasesSettled_of_run_scanFirst :
    afterLateReport.refOf officialId.stableKey = none ∧ afterLateReport.AliasesSettled piMachine := by
  have hscan : CatalogOp.LinksUnstored piMachine (.empty 20) (.upsertCandidate foundTranscript) := by
    refine ⟨rfl, ?_⟩
    intro _ _ _ s hs
    cases hs
  have hreport : CatalogOp.LinksUnstored piMachine afterPiScanFirst (.upsertCandidate piReport) := by
    have haliases : (afterPiScanFirst.resolveAliasPrimary piMachine piReport).aliases = [] := by
      decide
    refine ⟨rfl, ?_⟩
    intro _ a ha
    rw [haliases] at ha
    cases ha
  have hrun : Run (fun db op db' => CatalogOp.LinksUnstored piMachine db op ∧
      CatalogOp.Step piMachine db op db') (.empty 20)
      [.upsertCandidate foundTranscript, .upsertCandidate piReport] afterLateReport :=
    .cons ⟨hscan, upsertCandidate_step (by decide)⟩
      (.cons ⟨hreport, upsertCandidate_step (by decide)⟩ (.nil _))
  exact ⟨by decide, aliasesSettled_of_run hrun⟩

end Ork3.Projects
