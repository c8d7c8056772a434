import Ork3.Proofs.AliasResolution

/-!
# How often a source was missed

The streak of a source counts the complete scans of its root that came after it was last written or
seen. What happened to the sources is read off the operations of a run, in their order.
-/

namespace Ork3.Projects

open Ork3.Library

/-- Session, adapter, root and source. -/
abbrev SourceKey := String × String × String × String

def SessionCandidate.sourceRowKey (candidate : SessionCandidate) : SourceKey :=
  (candidate.identity.stableKey, candidate.adapter, candidate.rootKey, candidate.sourceKey)

/-! ### What happens to the sources -/

/-- A candidate of a source is written, or a complete scan of a root has seen some sources. -/
inductive SourceEvent
  | upserted (key : SourceKey)
  | scanned (adapter rootKey : String) (seenSourceKeys : List String)

namespace SourceEvent

def scans (key : SourceKey) : SourceEvent → Bool
  | upserted _ => false
  | scanned adapter rootKey _ => key.2.1 = adapter && key.2.2.1 = rootKey

/-- The source is written or seen. -/
def resets (key : SourceKey) : SourceEvent → Bool
  | upserted written => written = key
  | scanned adapter rootKey seen =>
    (key.2.1 = adapter && key.2.2.1 = rootKey) && decide (key.2.2.2 ∈ seen)

end SourceEvent

/-- The complete scans of the source's root since it was last written or seen. -/
def scansSince (key : SourceKey) (events : List SourceEvent) : Nat :=
  (events.reverse.takeWhile fun e => !e.resets key).countP fun e => e.scans key

lemma scansSince_snoc (key : SourceKey) (events : List SourceEvent) (e : SourceEvent) :
    scansSince key (events ++ [e]) =
      if e.resets key then 0 else scansSince key events + if e.scans key then 1 else 0 := by
  rw [scansSince, List.reverse_append, List.reverse_singleton, List.singleton_append,
    List.takeWhile_cons]
  cases e.resets key with
  | true => simp
  | false =>
    rw [Bool.not_false, if_pos rfl, if_neg Bool.false_ne_true, List.countP_cons, scansSince]

/-! ### Runs of the catalog -/

section
variable (ext : External)

/-- The candidates of a chunk, each under the identity it resolves to when its turn comes. -/
def chunkEvents : ProjectCatalog.Classifications → ProjectCatalog → List SessionCandidate → List SourceEvent
  | _, _, [] => []
  | cache, db, candidate :: candidates =>
    match ProjectCatalog.upsertScannedCandidate ext cache db candidate with
    | .ok (cache, next) =>
      .upserted (db.resolveAliasPrimary ext candidate).sourceRowKey ::
        chunkEvents cache next candidates
    | .error _ => []

/-- A failed operation is rolled back, and a scan that did not complete counts for nothing. -/
def CatalogOp.sourceEvents (db : ProjectCatalog) (op : CatalogOp) : List SourceEvent :=
  match op.apply ext db with
  | .error _ => []
  | .ok _ =>
    match op with
    | .upsertCandidate candidate => [.upserted (db.resolveAliasPrimary ext candidate).sourceRowKey]
    | .upsertScannedCandidates candidates => chunkEvents ext [] db candidates
    | .completeRootScan adapter rootKey completion seenSourceKeys _ _ =>
      if completion.isComplete then [.scanned adapter rootKey seenSourceKeys] else []
    | _ => []

def CatalogOp.next (db : ProjectCatalog) (op : CatalogOp) : ProjectCatalog :=
  (op.apply ext db).toOption.getD db

/-- What the operations do to the sources, in their order. -/
def sourceHistory : ProjectCatalog → List CatalogOp → List SourceEvent
  | _, [] => []
  | db, op :: ops => op.sourceEvents ext db ++ sourceHistory (op.next ext db) ops

end

def streakState : Nat → SourceState
  | 0 => .present
  | 1 => .suspectedMissing
  | _ => .missing

namespace ProjectCatalog

/-- Every stored source has the streak and the state that the events give it. -/
def StreaksCounted (events : List SourceEvent) (db : ProjectCatalog) : Prop :=
  ∀ key row, db.sources.lookup key = some row →
    row.missingStreak = scansSince key events ∧ row.state = streakState (scansSince key events)

section
variable {ext : External} {db db' : ProjectCatalog} {events : List SourceEvent}
  {candidate : SessionCandidate}

lemma StreaksCounted.congr (h : db.StreaksCounted events) (hsources : db'.sources = db.sources) :
    db'.StreaksCounted events := by
  intro key row hrow
  rw [hsources] at hrow
  exact h key row hrow

/-! ### Writing a source -/

lemma StreaksCounted.upsertSource (h : db.StreaksCounted events) (candidate : SessionCandidate) :
    (db.upsertSource candidate).StreaksCounted (events ++ [.upserted candidate.sourceRowKey]) := by
  intro key row hrow
  rw [scansSince_snoc]
  simp only [ProjectCatalog.upsertSource] at hrow
  rw [Table.lookup_insert_eq] at hrow
  by_cases hkey : key = candidate.sourceRowKey
  · have hrowKey : key = (candidate.identity.stableKey, candidate.adapter, candidate.rootKey,
        candidate.sourceKey) := hkey
    rw [if_pos hrowKey, Option.some_inj] at hrow
    have hreset : (SourceEvent.upserted candidate.sourceRowKey).resets key = true := by
      simp [SourceEvent.resets, hkey]
    rw [if_pos hreset, ← hrow]
    cases db.sources.lookup (candidate.identity.stableKey, candidate.adapter, candidate.rootKey,
      candidate.sourceKey) <;> exact ⟨rfl, rfl⟩
  · have hrowKey : ¬ key = (candidate.identity.stableKey, candidate.adapter, candidate.rootKey,
        candidate.sourceKey) := hkey
    rw [if_neg hrowKey] at hrow
    have hreset : ¬ (SourceEvent.upserted candidate.sourceRowKey).resets key = true := by
      simpa [SourceEvent.resets] using Ne.symm hkey
    rw [if_neg hreset]
    simpa [SourceEvent.scans] using h key row hrow

lemma StreaksCounted.writeCandidate (h : db.StreaksCounted events)
    {project : Option ProjectClassification}
    (hok : db.writeCandidate ext candidate project = .ok db') :
    db'.StreaksCounted (events ++ [.upserted candidate.sourceRowKey]) :=
  (h.upsertSource candidate).congr (writeCandidate_sources_eq hok)

lemma StreaksCounted.upsertCandidate (h : db.StreaksCounted events)
    (hok : db.upsertCandidate ext candidate = .ok db') :
    db'.StreaksCounted
      (events ++ [.upserted (db.resolveAliasPrimary ext candidate).sourceRowKey]) := by
  unfold ProjectCatalog.upsertCandidate at hok
  obtain ⟨written, hwrite, hdone⟩ := bind_eq_ok.mp hok
  obtain rfl := Except.ok.inj hdone
  exact (h.writeCandidate hwrite).congr rfl

lemma StreaksCounted.foldlM_upsertScannedCandidate {candidates : List SessionCandidate}
    {cache cache' : Classifications} (h : db.StreaksCounted events)
    (hok : candidates.foldlM (fun (r : Classifications × ProjectCatalog) candidate =>
      upsertScannedCandidate ext r.1 r.2 candidate) (cache, db) = .ok (cache', db')) :
    db'.StreaksCounted (events ++ chunkEvents ext cache db candidates) := by
  induction candidates generalizing db cache events with
  | nil =>
    obtain ⟨-, rfl⟩ := Prod.mk.inj (foldlM_nil_eq_ok.mp hok)
    rw [chunkEvents, List.append_nil]
    exact h
  | cons candidate candidates ih =>
    obtain ⟨⟨cache₁, db₁⟩, hone, hrest⟩ := foldlM_cons_eq_ok.mp hok
    obtain ⟨project, hwrite⟩ := upsertScannedCandidate_written hone
    have hlater := ih (h.writeCandidate hwrite) hrest
    rw [List.append_assoc] at hlater
    rw [chunkEvents, hone]
    exact hlater

lemma StreaksCounted.upsertScannedCandidates (h : db.StreaksCounted events)
    {candidates : List SessionCandidate} (hok : db.upsertScannedCandidates ext candidates = .ok db') :
    db'.StreaksCounted (events ++ chunkEvents ext [] db candidates) := by
  unfold ProjectCatalog.upsertScannedCandidates at hok
  split at hok
  · rename_i hempty
    obtain rfl := Except.ok.inj hok
    obtain rfl := List.isEmpty_iff.mp hempty
    rw [chunkEvents, List.append_nil]
    exact h
  · obtain ⟨⟨cache, written⟩, hfold, hdone⟩ := bind_eq_ok.mp hok
    obtain rfl := Except.ok.inj hdone
    exact (h.foldlM_upsertScannedCandidate hfold).congr rfl

/-! ### Scans -/

lemma lookup_sources_deleteSession {stableKey : String} {key : SourceKey} {row : SourceRow}
    (h : (db.deleteSession stableKey).sources.lookup key = some row) :
    db.sources.lookup key = some row := by
  simp only [deleteSession] at h
  rw [Table.lookup_retain] at h
  exact (Option.filter_eq_some_iff.mp h).1

lemma lookup_sources_foldl_deleteSession {stableKeys : List String} {key : SourceKey}
    {row : SourceRow} (h : (stableKeys.foldl deleteSession db).sources.lookup key = some row) :
    db.sources.lookup key = some row := by
  induction stableKeys generalizing db with
  | nil => exact h
  | cons stableKey stableKeys ih => exact lookup_sources_deleteSession (ih h)

lemma lookup_sources_deleteExcluded {adapter rootKey : String} {excluded : List String}
    {key : SourceKey} {row : SourceRow}
    (h : (excluded.foldl (deleteExcluded adapter rootKey) db).sources.lookup key = some row) :
    db.sources.lookup key = some row := by
  induction excluded generalizing db with
  | nil => exact h
  | cons sourceKey excluded ih => exact lookup_sources_foldl_deleteSession (ih h)

/-- Every key of the list is marked once. -/
lemma lookup_foldl_markSources {seen : List String} {observedAt nextGeneration : Int}
    {keys : List SourceKey} (hkeys : keys.Nodup) (t : Table SourceKey SourceRow) (key : SourceKey) :
    (keys.foldl (fun t k =>
        if k.2.2.2 ∈ seen then t.modify k fun row => seenSource row observedAt nextGeneration
        else t.modify k missedSource) t).lookup key =
      if key ∈ keys then
        (t.lookup key).map fun row =>
          if key.2.2.2 ∈ seen then seenSource row observedAt nextGeneration else missedSource row
      else t.lookup key := by
  induction keys generalizing t with
  | nil => simp
  | cons k keys ih =>
    obtain ⟨hnotMem, hrest⟩ := List.nodup_cons.mp hkeys
    rw [List.foldl_cons, ih hrest]
    have hone : (if k.2.2.2 ∈ seen then
        t.modify k fun row => seenSource row observedAt nextGeneration
        else t.modify k missedSource).lookup key =
        if key = k then
          (t.lookup key).map fun row =>
            if key.2.2.2 ∈ seen then seenSource row observedAt nextGeneration else missedSource row
        else t.lookup key := by
      by_cases hkey : key = k
      · subst hkey
        rw [if_pos rfl]
        split_ifs <;> rw [Table.lookup_modify, if_pos rfl]
      · rw [if_neg hkey]
        split_ifs <;> rw [Table.lookup_modify, if_neg hkey]
    rw [hone]
    by_cases hkey : key = k
    · subst hkey
      rw [if_neg hnotMem, if_pos rfl, if_pos List.mem_cons_self]
    · simp only [List.mem_cons, hkey, false_or, if_false]

lemma nodup_keys (t : Table SourceKey SourceRow) : t.keys.Nodup := t.nodupKeys

lemma StreaksCounted.completeRootScan_of_complete (h : db.StreaksCounted events)
    {adapter rootKey : String} {completion : ScanCompletion} {seen excluded : List String}
    {observedAt : Int} (hcomplete : completion.isComplete = true) :
    (db.completeRootScan adapter rootKey completion seen excluded observedAt).StreaksCounted
      (events ++ [.scanned adapter rootKey seen]) := by
  intro key row hrow
  unfold completeRootScan at hrow
  simp only [if_pos hcomplete] at hrow
  replace hrow := (lookup_foldl_markSources ((nodup_keys _).filter _) _ key).symm.trans hrow
  rw [scansSince_snoc]
  have hmem : ∀ old, (excluded.foldl (deleteExcluded adapter rootKey) db).sources.lookup key =
      some old → (key ∈ (excluded.foldl (deleteExcluded adapter rootKey) db).sources.keys.filter
        (fun k => k.2.1 = adapter && k.2.2.1 = rootKey) ↔
          (key.2.1 = adapter && key.2.2.1 = rootKey) = true) := by
    intro old hold
    have hkey : key ∈ (excluded.foldl (deleteExcluded adapter rootKey) db).sources.keys :=
      AList.mem_keys.mp (AList.lookup_isSome.mp (by rw [hold]; rfl))
    rw [List.mem_filter]
    simp [hkey]
  cases hold : (excluded.foldl (deleteExcluded adapter rootKey) db).sources.lookup key with
  | none =>
    rw [hold, Option.map_none, ite_self] at hrow
    cases hrow
  | some old =>
    obtain ⟨hstreak, hstate⟩ := h key old (lookup_sources_deleteExcluded hold)
    rw [hold, Option.map_some] at hrow
    by_cases hroot : (key.2.1 = adapter && key.2.2.1 = rootKey) = true
    · rw [if_pos ((hmem old hold).mpr hroot), Option.some_inj] at hrow
      by_cases hseen : key.2.2.2 ∈ seen
      · rw [if_pos hseen] at hrow
        have hreset : (SourceEvent.scanned adapter rootKey seen).resets key = true := by
          simp only [SourceEvent.resets, hroot, hseen, decide_true, Bool.and_self]
        rw [if_pos hreset, ← hrow]
        exact ⟨rfl, rfl⟩
      · rw [if_neg hseen] at hrow
        have hreset : ¬ (SourceEvent.scanned adapter rootKey seen).resets key = true := by
          simp only [SourceEvent.resets, hseen, decide_false, Bool.and_false, Bool.false_eq_true,
            not_false_eq_true]
        have hscan : (SourceEvent.scanned adapter rootKey seen).scans key = true := hroot
        rw [if_neg hreset, if_pos hscan, ← hrow]
        refine ⟨?_, ?_⟩
        · simp only [missedSource, hstreak, Nat.cast_add, Nat.cast_one]
        · simp only [missedSource, hstreak]
          generalize scansSince key events = n
          cases n with
          | zero => rfl
          | succ n =>
            rw [if_pos (by omega)]
            rfl
    · have hreset : ¬ (SourceEvent.scanned adapter rootKey seen).resets key = true := by
        simp only [SourceEvent.resets, Bool.and_eq_true (_ && _)]
        exact fun hboth => hroot hboth.1
      have hscan : ¬ (SourceEvent.scanned adapter rootKey seen).scans key = true := hroot
      rw [if_neg fun hmem' => hroot ((hmem old hold).mp hmem'), Option.some_inj] at hrow
      rw [if_neg hreset, if_neg hscan, Nat.add_zero, ← hrow]
      exact ⟨hstreak, hstate⟩

/-- A scan that did not complete leaves the sources as they are. -/
lemma sources_completeRootScan_of_not_complete {adapter rootKey : String}
    {completion : ScanCompletion} {seen excluded : List String} {observedAt : Int}
    (h : ¬ completion.isComplete = true) :
    (db.completeRootScan adapter rootKey completion seen excluded observedAt).sources =
      db.sources := by
  unfold completeRootScan
  simp only [if_neg h]
  rfl

/-! ### Runs -/

lemma sources_assignSession {stableKey projectKey : String} {lock : Bool} {observedAt : Int}
    (hok : db.assignSession stableKey projectKey lock observedAt = .ok db') :
    db'.sources = db.sources := by
  unfold assignSession at hok
  split at hok
  · cases hok
  · cases hok
  · obtain rfl := Except.ok.inj hok
    rfl

lemma sources_unlockSession {stableKey : String} {observedAt : Int}
    (hok : db.unlockSession stableKey observedAt = .ok db') : db'.sources = db.sources := by
  unfold unlockSession at hok
  split at hok
  · cases hok
  · obtain rfl := Except.ok.inj hok
    rfl

lemma sources_applySemanticBatch (batch : List SemanticAssignment) (observedAt : Int) :
    (db.applySemanticBatch ext batch observedAt).sources = db.sources := by
  have hbatch : (batch.foldl (fun db item => db.applySemantic ext item observedAt) db).sources =
      db.sources := by
    induction batch generalizing db with
    | nil => rfl
    | cons item batch ih =>
      rw [List.foldl_cons, ih, applySemantic_frame]
  exact hbatch

end

end ProjectCatalog

section
variable {ext : External} {db db' : ProjectCatalog} {events : List SourceEvent}

lemma CatalogOp.Step.next_eq {op : CatalogOp} (h : op.Step ext db db') : op.next ext db = db' := by
  unfold CatalogOp.Step at h
  unfold CatalogOp.next
  cases happly : op.apply ext db with
  | ok written =>
    rw [happly] at h
    exact h.symm
  | error e =>
    rw [happly] at h
    exact h.symm

lemma ProjectCatalog.StreaksCounted.step (h : db.StreaksCounted events) {op : CatalogOp}
    (hstep : op.Step ext db db') : db'.StreaksCounted (events ++ op.sourceEvents ext db) := by
  unfold CatalogOp.Step at hstep
  unfold CatalogOp.sourceEvents
  cases happly : op.apply ext db with
  | error e =>
    rw [happly] at hstep
    rw [hstep, List.append_nil]
    exact h
  | ok written =>
    rw [happly] at hstep
    subst hstep
    cases op with
    | upsertCandidate candidate => exact h.upsertCandidate happly
    | upsertScannedCandidates candidates => exact h.upsertScannedCandidates happly
    | assignSession => simpa using h.congr (ProjectCatalog.sources_assignSession happly)
    | unlockSession => simpa using h.congr (ProjectCatalog.sources_unlockSession happly)
    | completeRootScan adapter rootKey completion seen excluded observedAt =>
      obtain rfl := Except.ok.inj happly
      dsimp only
      by_cases hcomplete : completion.isComplete = true
      · rw [if_pos hcomplete]
        exact h.completeRootScan_of_complete hcomplete
      · rw [if_neg hcomplete, List.append_nil]
        exact h.congr (ProjectCatalog.sources_completeRootScan_of_not_complete hcomplete)
    | applySemanticBatch batch observedAt =>
      obtain rfl := Except.ok.inj happly
      simpa using h.congr (ProjectCatalog.sources_applySemanticBatch batch observedAt)

lemma ProjectCatalog.StreaksCounted.run (h : db.StreaksCounted events) {ops : List CatalogOp}
    (hrun : Run (CatalogOp.Step ext) db ops db') :
    db'.StreaksCounted (events ++ sourceHistory ext db ops) := by
  induction hrun generalizing events with
  | nil =>
    rw [sourceHistory, List.append_nil]
    exact h
  | cons hstep _ ih =>
    have hlater := ih (h.step hstep)
    rw [List.append_assoc] at hlater
    rw [sourceHistory, hstep.next_eq]
    exact hlater

/-- In every run of a new catalog the streak of a source is the number of complete scans of its
root since it was last written or seen, and its state is the one of the streak. A scan that did not
complete changes no source. -/
theorem streaksCounted_of_run {threshold : Nat} {ops : List CatalogOp}
    (hrun : Run (CatalogOp.Step ext) (.empty threshold) ops db) :
    db.StreaksCounted (sourceHistory ext (.empty threshold) ops) ∧
      ∀ adapter rootKey completion seen excluded observedAt, completion ≠ ScanCompletion.complete →
        (db.completeRootScan adapter rootKey completion seen excluded observedAt).sources =
          db.sources := by
  have hempty : (ProjectCatalog.empty threshold).StreaksCounted [] := by
    intro key row hrow
    cases hrow
  refine ⟨hempty.run hrun, ?_⟩
  intro adapter rootKey completion seen excluded observedAt hne
  apply ProjectCatalog.sources_completeRootScan_of_not_complete
  simpa [ScanCompletion.isComplete] using hne

/-- The transcript is written, and two scans of its root in a row miss it. -/
theorem streaksCounted_of_run_missedTwice :
    ((afterPiScanFirst.completeRootScan "pi" "/sessions" .complete [] [] 30).completeRootScan "pi"
      "/sessions" .complete [] [] 40).StreaksCounted
      (sourceHistory piMachine (.empty 20) [.upsertCandidate foundTranscript,
        .completeRootScan "pi" "/sessions" .complete [] [] 30,
        .completeRootScan "pi" "/sessions" .complete [] [] 40]) := by
  have hstep : CatalogOp.Step piMachine (.empty 20) (.upsertCandidate foundTranscript)
      afterPiScanFirst := upsertCandidate_step (by decide)
  have hscan : ∀ db observedAt, CatalogOp.Step piMachine db
      (.completeRootScan "pi" "/sessions" .complete [] [] observedAt)
      (db.completeRootScan "pi" "/sessions" .complete [] [] observedAt) := fun _ _ => rfl
  exact (streaksCounted_of_run (.cons hstep (.cons (hscan _ _) (.cons (hscan _ _) (.nil _))))).1

end

end Ork3.Projects
