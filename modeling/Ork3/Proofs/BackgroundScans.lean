import Ork3.Model.BackgroundScan
import Ork3.Proofs.AliasResolution

/-!
# What background scans leave in the catalog

A scan is cached before its candidates are written. As long as no cached scan is used again after one
of its batches was refused, a scan that is committed as complete leaves every candidate of its files
in the catalog.
-/

namespace Ork3.Projects

open Ork3.Library

namespace ProjectCatalog

/-- The candidate's source is stored with its session, at its time or later. -/
def Stores (db : ProjectCatalog) (c : SessionCandidate) : Prop :=
  ∃ s src, (s = c.identity.stableKey ∨ db.primaryOf c.identity.aliasKey = some s) ∧
    (db.refOf s).isSome ∧ db.sources.lookup (s, c.adapter, c.rootKey, c.sourceKey) = some src ∧
    c.observedAt ≤ src.observedAt

/-- Of these candidates, those that the catalog accepts on their own are stored. -/
def StoresAccepted (ext : External) (db : ProjectCatalog) (candidates : List SessionCandidate) :
    Prop :=
  ∀ c ∈ candidates, (∃ db', db.upsertCandidate ext c = .ok db') → db.Stores c

/-- The sessions that go when a scan excludes these sources. -/
def Excludable (db : ProjectCatalog) (adapter rootKey : String) (excluded : List String)
    (s : String) : Prop :=
  ¬db.isLocked s ∧ ∃ e ∈ excluded, (s, adapter, rootKey, e) ∈ db.sources

section
variable {ext : External} {db db' : ProjectCatalog} {candidate : SessionCandidate}

/-! ### Writing -/

/-- The source of a candidate is stored with its time or a later one. -/
lemma writeCandidate_sources {project : Option ProjectClassification}
    (hok : db.writeCandidate ext candidate project = .ok db') :
    ∃ src, db'.sources = db.sources.insert (candidate.identity.stableKey, candidate.adapter,
        candidate.rootKey, candidate.sourceKey) src ∧
      candidate.observedAt ≤ src.observedAt ∧
      ∀ old, db.sources.lookup (candidate.identity.stableKey, candidate.adapter,
        candidate.rootKey, candidate.sourceKey) = some old → old.observedAt ≤ src.observedAt := by
  rw [writeCandidate_sources_eq hok]
  unfold upsertSource
  dsimp only
  refine ⟨_, rfl, ?_, ?_⟩
  · split
    · exact le_rfl
    · exact le_max_right _ _
  · intro old hold
    rw [hold]
    exact le_max_left _ _

lemma RowsKeyed.resolve_cases (h : db.RowsKeyed ext) (candidate : SessionCandidate) :
    db.resolveAliasPrimary ext candidate = candidate ∨
      db.primaryOf candidate.identity.aliasKey =
        some (db.resolveAliasPrimary ext candidate).identity.stableKey := by
  cases hprimary : db.primaryOf candidate.identity.aliasKey with
  | none => exact .inl (resolveAliasPrimary_of_none hprimary)
  | some p =>
    cases hr : db.refOf p with
    | none =>
      left
      unfold primaryOf SessionIdentity.aliasKey at hprimary
      obtain ⟨row, halias, rfl⟩ := Option.map_eq_some_iff.mp hprimary
      have hs := Option.map_eq_none_iff.mp hr
      unfold resolveAliasPrimary
      simp [halias, hs]
    | some r =>
      right
      rw [resolveAliasPrimary_of_some hprimary hr]
      exact congrArg some (h p r hr).symm

/-- Resolving changes the identity of a candidate only. -/
lemma resolveAliasPrimary_frame (ext : External) (db : ProjectCatalog)
    (candidate : SessionCandidate) :
    db.resolveAliasPrimary ext candidate =
      { candidate with identity := (db.resolveAliasPrimary ext candidate).identity } := by
  unfold resolveAliasPrimary
  dsimp only
  split
  · rfl
  · rfl

/-- A written candidate is stored. -/
lemma RowsKeyed.stores (h : db.RowsKeyed ext) {project : Option ProjectClassification}
    (hok : db.writeCandidate ext (db.resolveAliasPrimary ext candidate) project = .ok db') :
    db'.Stores candidate := by
  obtain ⟨src, hsources, hobserved, -⟩ := writeCandidate_sources hok
  obtain ⟨-, hw⟩ := writeCandidate_ok hok
  have hframe := resolveAliasPrimary_frame ext db candidate
  refine ⟨(db.resolveAliasPrimary ext candidate).identity.stableKey, src, ?_, ?_, ?_, ?_⟩
  · rcases h.resolve_cases candidate with hself | hprimary
    · left
      rw [hself]
    · right
      rw [hw.primary]
      split
      · rfl
      · exact hprimary
  · rw [hw.refOf, if_pos rfl]
    rfl
  · rw [hsources]
    rw [hframe]
    exact AList.lookup_insert _
  · rw [hframe] at hobserved
    exact hobserved

/-- What is stored stays stored when another candidate is written. -/
lemma Stores.written {c : SessionCandidate} (h : db.Stores c)
    {project : Option ProjectClassification}
    (hok : db.writeCandidate ext candidate project = .ok db') : db'.Stores c := by
  obtain ⟨s, src, hlink, hrow, hsrc, hobserved⟩ := h
  obtain ⟨new, hsources, -, hlater⟩ := writeCandidate_sources hok
  obtain ⟨haccept, hw⟩ := writeCandidate_ok hok
  have hsrc' : ∃ src', db'.sources.lookup (s, c.adapter, c.rootKey, c.sourceKey) = some src' ∧
      src.observedAt ≤ src'.observedAt := by
    rw [hsources]
    by_cases hk : (s, c.adapter, c.rootKey, c.sourceKey) = (candidate.identity.stableKey,
        candidate.adapter, candidate.rootKey, candidate.sourceKey)
    · rw [hk] at hsrc ⊢
      exact ⟨new, AList.lookup_insert _, hlater src hsrc⟩
    · exact ⟨src, (AList.lookup_insert_ne hk).trans hsrc, le_rfl⟩
  obtain ⟨src', hsrc', hle⟩ := hsrc'
  refine ⟨s, src', hlink.imp_right fun hp => ?_, ?_, hsrc', hobserved.trans hle⟩
  · rw [hw.primary]
    split
    · rename_i hmem
      obtain ⟨a, ha, hkey⟩ := List.mem_map.mp hmem
      rcases (haccept a ha).2 with hnone | hsome
      · rw [hkey, hp] at hnone
        cases hnone
      · rw [← hsome, hkey, hp]
    · exact hp
  · rw [hw.refOf]
    split
    · rfl
    · exact hrow

/-- Storing depends on references, aliases and sources. -/
lemma Stores.congr {c : SessionCandidate} (h : db.Stores c) (href : ∀ s, db'.refOf s = db.refOf s)
    (haliases : db'.aliases = db.aliases) (hsources : db'.sources = db.sources) : db'.Stores c := by
  obtain ⟨s, src, hlink, hrow, hsrc, hobserved⟩ := h
  refine ⟨s, src, ?_, ?_, ?_, hobserved⟩
  · unfold primaryOf
    rw [haliases]
    exact hlink
  · rw [href]
    exact hrow
  · rw [hsources]
    exact hsrc

/-! ### Sessions apart from excluded sources -/

/-- The sessions in `E`, which may go, are apart from those that the candidates lead to. -/
structure Spares (E : Set String) (adapter rootKey : String) (excluded : List String)
    (cs : Set SessionCandidate) (db : ProjectCatalog) : Prop where
  own : ∀ c ∈ cs, c.identity.stableKey ∉ E
  linked : ∀ c ∈ cs, ∀ p, db.primaryOf c.identity.aliasKey = some p → p ∉ E
  excludable : ∀ s, db.Excludable adapter rootKey excluded s → s ∈ E

variable {E : Set String} {adapter rootKey : String} {excluded : List String}
  {cs : Set SessionCandidate}

lemma Spares.notMem (h : Spares E adapter rootKey excluded cs db) {c : SessionCandidate}
    (hc : c ∈ cs) {s : String}
    (hs : s = c.identity.stableKey ∨ db.primaryOf c.identity.aliasKey = some s) : s ∉ E := by
  rcases hs with rfl | hp
  · exact h.own c hc
  · exact h.linked c hc s hp

lemma Written.isLocked (h : db.Written candidate db') {s : String} (hs : db.isLocked s) :
    db'.isLocked s := by
  unfold ProjectCatalog.isLocked
  rw [h.assignments s (.inr hs)]
  exact hs

/-- Writing one of the candidates, none of whose sources is excluded, brings no session to go. -/
lemma Spares.written (h : Spares E adapter rootKey excluded cs db) (hkeys : db.RowsKeyed ext)
    (hc : candidate ∈ cs) (hsource : candidate.sourceKey ∉ excluded)
    {project : Option ProjectClassification}
    (hok : db.writeCandidate ext (db.resolveAliasPrimary ext candidate) project = .ok db') :
    Spares E adapter rootKey excluded cs db' := by
  obtain ⟨src, hsources, -⟩ := writeCandidate_sources hok
  obtain ⟨-, hw⟩ := writeCandidate_ok hok
  have hresolved : (db.resolveAliasPrimary ext candidate).identity.stableKey ∉ E := by
    apply h.notMem hc
    rcases hkeys.resolve_cases candidate with hself | hprimary
    · exact .inl (by rw [hself])
    · exact .inr hprimary
  refine ⟨h.own, fun c hc p hp => ?_, fun s hs => ?_⟩
  · rw [hw.primary] at hp
    split at hp
    · exact Option.some.inj hp ▸ hresolved
    · exact h.linked c hc p hp
  · obtain ⟨hlock, e, he, hmem⟩ := hs
    refine h.excludable s ⟨fun hlocked => hlock (hw.isLocked hlocked), e, he, ?_⟩
    rw [hsources, AList.mem_insert] at hmem
    refine hmem.resolve_left fun heq => hsource ?_
    have hkey : e = (db.resolveAliasPrimary ext candidate).sourceKey :=
      congrArg (fun k : String × String × String × String => k.2.2.2) heq
    rw [resolveAliasPrimary_frame] at hkey
    exact hkey ▸ he

/-- What writing the batches of a scan keeps, and what it brings about. -/
structure Accepts (E : Set String) (adapter rootKey : String) (excluded : List String)
    (cs : Set SessionCandidate) (batch : List SessionCandidate) (ext : External)
    (db db' : ProjectCatalog) : Prop where
  keyed : db'.RowsKeyed ext
  spares : Spares E adapter rootKey excluded cs db'
  keeps : ∀ c, db.Stores c → db'.Stores c
  stores : ∀ c ∈ batch, db'.Stores c

lemma foldlM_upsertScannedCandidate {batch : List SessionCandidate} {cache cache' : Classifications}
    (hkeys : db.RowsKeyed ext) (hspares : Spares E adapter rootKey excluded cs db)
    (hbatch : ∀ c ∈ batch, c ∈ cs ∧ c.identity.Canonical ext ∧ c.sourceKey ∉ excluded)
    (hok : batch.foldlM (fun (r : Classifications × ProjectCatalog) candidate =>
      upsertScannedCandidate ext r.1 r.2 candidate) (cache, db) = .ok (cache', db')) :
    Accepts E adapter rootKey excluded cs batch ext db db' := by
  induction batch generalizing db cache with
  | nil =>
    obtain ⟨-, rfl⟩ := Prod.mk.inj (foldlM_nil_eq_ok.mp hok)
    exact ⟨hkeys, hspares, fun c hc => hc, fun c hc => (nomatch hc)⟩
  | cons c batch ih =>
    obtain ⟨⟨cache₁, db₁⟩, hone, hrest⟩ := foldlM_cons_eq_ok.mp hok
    obtain ⟨project, hwrite⟩ := upsertScannedCandidate_written hone
    obtain ⟨hc, hcanonical, hsource⟩ := hbatch c List.mem_cons_self
    have hkeys₁ : db₁.RowsKeyed ext :=
      hkeys.written (canonical_resolve db hcanonical) (writeCandidate_ok hwrite).2
    have hlater := ih hkeys₁ (hspares.written hkeys hc hsource hwrite)
      (fun c hc => hbatch c (List.mem_cons_of_mem _ hc)) hrest
    refine ⟨hlater.keyed, hlater.spares, fun c hc => hlater.keeps c (hc.written hwrite),
      fun c' hc' => ?_⟩
    rcases List.mem_cons.mp hc' with rfl | hc'
    · exact hlater.keeps _ (hkeys.stores hwrite)
    · exact hlater.stores c' hc'

lemma upsertScannedCandidates_accepts {batch : List SessionCandidate}
    (hkeys : db.RowsKeyed ext) (hspares : Spares E adapter rootKey excluded cs db)
    (hbatch : ∀ c ∈ batch, c ∈ cs ∧ c.identity.Canonical ext ∧ c.sourceKey ∉ excluded)
    (hok : db.upsertScannedCandidates ext batch = .ok db') :
    Accepts E adapter rootKey excluded cs batch ext db db' := by
  unfold upsertScannedCandidates at hok
  split at hok
  · rename_i hempty
    obtain rfl := Except.ok.inj hok
    obtain rfl := List.isEmpty_iff.mp hempty
    exact ⟨hkeys, hspares, fun c hc => hc, fun c hc => (nomatch hc)⟩
  · obtain ⟨⟨cache, written⟩, hfold, hdone⟩ := bind_eq_ok.mp hok
    obtain rfl := Except.ok.inj hdone
    have hwritten : Accepts E adapter rootKey excluded cs batch ext db written :=
      foldlM_upsertScannedCandidate hkeys hspares hbatch hfold
    have href := refOf_refreshAutomationClasses ext written
    refine ⟨fun s r hr => hwritten.keyed s r (href s ▸ hr),
      ⟨hwritten.spares.own, hwritten.spares.linked, hwritten.spares.excludable⟩,
      fun c hc => (hwritten.keeps c hc).congr href rfl rfl,
      fun c hc => (hwritten.stores c hc).congr href rfl rfl⟩

/-! ### Batches -/

lemma Accepts.append {b b' : List SessionCandidate} {db₁ : ProjectCatalog}
    (h : Accepts E adapter rootKey excluded cs b ext db db₁)
    (h' : Accepts E adapter rootKey excluded cs b' ext db₁ db') :
    Accepts E adapter rootKey excluded cs (b ++ b') ext db db' where
  keyed := h'.keyed
  spares := h'.spares
  keeps c hc := h'.keeps c (h.keeps c hc)
  stores c hc := by
    rcases List.mem_append.mp hc with hc | hc
    · exact h'.keeps c (h.stores c hc)
    · exact h'.stores c hc

/-- A scan that is still complete after its batches had all of them accepted. -/
lemma foldl_writeBatch {batches : List (List SessionCandidate)} {completion : ScanCompletion}
    (hkeys : db.RowsKeyed ext) (hspares : Spares E adapter rootKey excluded cs db)
    (hbatches : ∀ b ∈ batches, ∀ c ∈ b,
      c ∈ cs ∧ c.identity.Canonical ext ∧ c.sourceKey ∉ excluded) :
    ∃ taken, Accepts E adapter rootKey excluded cs taken ext db
        (batches.foldl (writeBatch ext) (db, completion)).1 ∧
      ((batches.foldl (writeBatch ext) (db, completion)).2 = .complete →
        completion = .complete ∧ taken = batches.flatten) := by
  induction batches generalizing db completion with
  | nil => exact ⟨[], ⟨hkeys, hspares, fun c hc => hc, fun c hc => (nomatch hc)⟩, fun h => ⟨h, rfl⟩⟩
  | cons b batches ih =>
    have hrest : ∀ b ∈ batches, ∀ c ∈ b, c ∈ cs ∧ c.identity.Canonical ext ∧ c.sourceKey ∉ excluded :=
      fun b hb => hbatches b (List.mem_cons_of_mem _ hb)
    rw [List.foldl_cons]
    unfold writeBatch
    dsimp only
    cases hone : db.upsertScannedCandidates ext b with
    | ok db₁ =>
      have hb := upsertScannedCandidates_accepts hkeys hspares (hbatches b List.mem_cons_self) hone
      obtain ⟨taken, haccepts, hcomplete⟩ := @ih db₁ completion hb.keyed hb.spares hrest
      refine ⟨b ++ taken, hb.append haccepts, fun h => ?_⟩
      obtain ⟨hc, rfl⟩ := hcomplete h
      exact ⟨hc, rfl⟩
    | error e =>
      obtain ⟨taken, haccepts, hcomplete⟩ := @ih db
        (if completion = .complete then .degraded else completion) hkeys hspares hrest
      refine ⟨taken, haccepts, fun h => absurd (hcomplete h).1 ?_⟩
      split
      · exact fun h => (nomatch h)
      · assumption

lemma chunksOf_flatten {α : Type} {n : Nat} (hn : 0 < n) {fuel : Nat} {l : List α}
    (hfuel : l.length ≤ fuel) : (chunksOf n fuel l).flatten = l := by
  induction fuel generalizing l with
  | zero => rw [List.length_eq_zero_iff.mp (Nat.le_zero.mp hfuel)]; rfl
  | succ fuel ih =>
    cases l with
    | nil => rfl
    | cons x xs =>
      have hrest : ((x :: xs).drop n).length ≤ fuel := by
        rw [List.length_drop]
        rw [List.length_cons] at hfuel ⊢
        omega
      rw [chunksOf, List.flatten_cons, ih hrest, List.take_append_drop]

/-! ### Completing -/

lemma Excludable.of_deleteSession {key s : String}
    (h : (db.deleteSession key).Excludable adapter rootKey excluded s) :
    db.Excludable adapter rootKey excluded s := by
  obtain ⟨hlock, e, he, hmem⟩ := h
  obtain ⟨src, hsrc⟩ := Option.isSome_iff_exists.mp (AList.lookup_isSome.mpr hmem)
  unfold deleteSession at hsrc
  dsimp only at hsrc
  rw [Table.lookup_retain] at hsrc
  obtain ⟨hlookup, hkeep⟩ := Option.filter_eq_some_iff.mp hsrc
  have hne : s ≠ key := of_decide_eq_true hkeep
  refine ⟨fun hlocked => hlock ?_, e, he, AList.lookup_isSome.mp (hlookup ▸ rfl)⟩
  unfold isLocked deleteSession
  dsimp only
  rw [AList.lookup_erase_ne hne]
  exact hlocked

/-- The deletion of a session in `E` keeps the others apart and stored. -/
lemma Spares.deleteSession (h : Spares E adapter rootKey excluded cs db) {key : String}
    (hkey : key ∈ E) : Spares E adapter rootKey excluded cs (db.deleteSession key) ∧
      ∀ c ∈ cs, db.Stores c → (db.deleteSession key).Stores c := by
  have hshrinks := shrinks_deleteSession db key
  refine ⟨⟨h.own, fun c hc p hp => h.linked c hc p (hshrinks.primary _ p hp).1,
    fun s hs => h.excludable s hs.of_deleteSession⟩, fun c hc hstores => ?_⟩
  obtain ⟨s, src, hlink, hrow, hsrc, hobserved⟩ := hstores
  have hne : s ≠ key := fun heq => h.notMem hc hlink (heq ▸ hkey)
  refine ⟨s, src, hlink.imp_right fun hp => ?_, ?_, ?_, hobserved⟩
  · obtain ⟨row, hlookup, rfl⟩ := Option.map_eq_some_iff.mp hp
    unfold primaryOf ProjectCatalog.deleteSession
    dsimp only
    rw [Table.lookup_retain, hlookup, Option.filter_some, if_pos (decide_eq_true hne)]
    rfl
  · unfold ProjectCatalog.refOf ProjectCatalog.deleteSession
    dsimp only
    rw [AList.lookup_erase_ne hne]
    exact hrow
  · unfold ProjectCatalog.deleteSession
    dsimp only
    rw [Table.lookup_retain, hsrc, Option.filter_some, if_pos (decide_eq_true hne)]

lemma Spares.deleteExcluded (h : Spares E adapter rootKey excluded cs db) {e : String}
    (he : e ∈ excluded) :
    Spares E adapter rootKey excluded cs (db.deleteExcluded adapter rootKey e) ∧
      ∀ c ∈ cs, db.Stores c → (db.deleteExcluded adapter rootKey e).Stores c := by
  have hkeys : ∀ key ∈ ((db.sources.keys.filter fun k => k.2 = (adapter, rootKey, e)).map
      (·.1)).filter fun key => !db.isLocked key, key ∈ E := by
    intro key hkey
    obtain ⟨hmem, hlock⟩ := List.mem_filter.mp hkey
    obtain ⟨k, hk, rfl⟩ := List.mem_map.mp hmem
    obtain ⟨hk, heq⟩ := List.mem_filter.mp hk
    refine h.excludable k.1 ⟨by simpa using hlock, e, he, ?_⟩
    rw [← of_decide_eq_true heq]
    exact hk
  unfold ProjectCatalog.deleteExcluded
  dsimp only
  generalize List.filter _ _ = keys at hkeys ⊢
  induction keys generalizing db with
  | nil => exact ⟨h, fun c _ hc => hc⟩
  | cons key keys ih =>
    obtain ⟨hspares, hkeeps⟩ := h.deleteSession (hkeys key List.mem_cons_self)
    obtain ⟨hspares', hkeeps'⟩ := ih hspares fun k hk => hkeys k (List.mem_cons_of_mem _ hk)
    exact ⟨hspares', fun c hc hs => hkeeps' c hc (hkeeps c hc hs)⟩

lemma Spares.deleteAllExcluded (h : Spares E adapter rootKey excluded cs db) {es : List String}
    (hes : ∀ e ∈ es, e ∈ excluded) {c : SessionCandidate} (hc : c ∈ cs) (hstores : db.Stores c) :
    (es.foldl (ProjectCatalog.deleteExcluded adapter rootKey) db).Stores c := by
  induction es generalizing db with
  | nil => exact hstores
  | cons e es ih =>
    obtain ⟨hspares, hkeeps⟩ := h.deleteExcluded (hes e List.mem_cons_self)
    exact ih hspares (fun e he => hes e (List.mem_cons_of_mem _ he)) (hkeeps c hc hstores)

/-- Marking the sources a scan has seen or missed never makes one older. -/
lemma foldl_markSources {seen : List String} {observedAt nextGeneration : Int}
    (keys : List (String × String × String × String))
    {t : Table (String × String × String × String) SourceRow}
    {k : String × String × String × String} {src : SourceRow} (h : t.lookup k = some src) :
    ∃ src', (keys.foldl (fun t k =>
        if k.2.2.2 ∈ seen then t.modify k fun row => seenSource row observedAt nextGeneration
        else t.modify k missedSource) t).lookup k = some src' ∧ src.observedAt ≤ src'.observedAt := by
  induction keys generalizing t src with
  | nil => exact ⟨src, h, le_rfl⟩
  | cons key keys ih =>
    rw [List.foldl_cons]
    have hone : ∃ src₁, (if key.2.2.2 ∈ seen then
        t.modify key fun row => seenSource row observedAt nextGeneration
        else t.modify key missedSource).lookup k = some src₁ ∧ src.observedAt ≤ src₁.observedAt := by
      split
      · rw [Table.lookup_modify]
        split
        · rename_i heq
          rw [← heq, h]
          exact ⟨_, rfl, le_max_left _ _⟩
        · exact ⟨src, h, le_rfl⟩
      · rw [Table.lookup_modify]
        split
        · rename_i heq
          rw [← heq, h]
          exact ⟨_, rfl, le_rfl⟩
        · exact ⟨src, h, le_rfl⟩
    obtain ⟨src₁, hsrc₁, hle₁⟩ := hone
    obtain ⟨src', hsrc', hle'⟩ := ih hsrc₁
    exact ⟨src', hsrc', hle₁.trans hle'⟩

/-- Completing a scan keeps what is stored for the candidates that it spares. -/
lemma Spares.completeRootScan (h : Spares E adapter rootKey excluded cs db) {c : SessionCandidate}
    (hc : c ∈ cs) (hstores : db.Stores c) (completion : ScanCompletion) (seen : List String)
    (observedAt : Int) :
    (db.completeRootScan adapter rootKey completion seen excluded observedAt).Stores c := by
  unfold ProjectCatalog.completeRootScan
  dsimp only
  split
  · have hdeleted := h.deleteAllExcluded (fun e he => he) hc hstores
    obtain ⟨s, src, hlink, hrow, hsrc, hobserved⟩ := hdeleted
    obtain ⟨src', hsrc', hle⟩ := foldl_markSources _ hsrc
    exact ⟨s, src', hlink, hrow, hsrc', hobserved.trans hle⟩
  · exact hstores.congr (fun s => rfl) rfl rfl

/-- A scan that is not complete deletes nothing. -/
lemma Stores.completeRootScan_of_ne {c : SessionCandidate} (h : db.Stores c)
    {completion : ScanCompletion} (hne : completion ≠ .complete) (adapter rootKey : String)
    (seen excluded : List String) (observedAt : Int) :
    (db.completeRootScan adapter rootKey completion seen excluded observedAt).Stores c := by
  unfold ProjectCatalog.completeRootScan
  dsimp only
  rw [if_neg (by unfold ScanCompletion.isComplete; simpa using hne)]
  exact h.congr (fun s => rfl) rfl rfl

end

end ProjectCatalog

/-! ### Scans -/

/-- What is in the files now, read without the cache. -/
def fullScan (root : AdapterRoot) (view : RootView) : AdapterScan :=
  (AdapterScanner.default.scanRoot root view true).2

/-- The key a root is cached under and the fingerprint of its files, where it can be read. -/
def readRoot (root : AdapterRoot) (view : RootView) : Option ((String × String) × RootFingerprint) :=
  if root.preflight.isSome then
    none
  else do
    let rootKey ← view.canonicalDirectory
    let fingerprint ← view.rootFingerprint
    return ((root.adapter, rootKey), fingerprint)

namespace AdapterScanner

/-- The cached scan that takes the place of reading the files. -/
def reused (scanner : AdapterScanner) (root : AdapterRoot) (view : RootView) : Option CachedScan := do
  let (cacheKey, fingerprint) ← readRoot root view
  scanner.reusable cacheKey fingerprint false

section
variable {scanner : AdapterScanner} {root : AdapterRoot} {view : RootView}

/-- A root that cannot be read gives the same empty scan with every cache. -/
lemma scanRoot_unread (h : readRoot root view = none) (forceFull : Bool) :
    scanner.scanRoot root view forceFull = (scanner, fullScan root view) ∧
      (fullScan root view).reusedCache = false := by
  unfold readRoot at h
  unfold fullScan scanRoot
  cases hpreflight : root.preflight with
  | some completion => exact ⟨rfl, rfl⟩
  | none =>
    cases hdirectory : view.canonicalDirectory with
    | none => exact ⟨rfl, rfl⟩
    | some rootKey =>
      cases hfingerprint : view.rootFingerprint with
      | none => exact ⟨rfl, rfl⟩
      | some fingerprint =>
        rw [hpreflight, hdirectory, hfingerprint] at h
        cases h

/-- A root that can be read is scanned from the cache or from its files. -/
lemma scanRoot_read {key : String × String} {fingerprint : RootFingerprint}
    (h : readRoot root view = some (key, fingerprint)) (forceFull : Bool) :
    scanner.scanRoot root view forceFull =
      match scanner.reusable key fingerprint forceFull with
      | some cached => (scanner, { cached.scan with reusedCache := true })
      | none =>
        let scan := performScan key.1 key.2 view
        let scanner := { scanner with parseAttempts := scanner.parseAttempts + scan.2 }
        if scan.1.completion.isUncached then
          (scanner, scan.1)
        else
          ({ scanner with cache := scanner.cache.insert key ⟨fingerprint, scan.1⟩ }, scan.1) := by
  unfold readRoot at h
  split at h
  · cases h
  · rename_i hpreflight
    obtain ⟨rootKey, hdirectory, h⟩ := Option.bind_eq_some_iff.mp h
    obtain ⟨fingerprint', hfingerprint, h⟩ := Option.bind_eq_some_iff.mp h
    obtain ⟨rfl, rfl⟩ := Prod.mk.inj (Option.some.inj h)
    have hnone := Option.not_isSome_iff_eq_none.mp hpreflight
    unfold scanRoot
    cases hreusable : scanner.reusable (root.adapter, rootKey) fingerprint' forceFull with
    | some cached => simp only [hnone, hdirectory, hfingerprint, hreusable]
    | none => simp only [hnone, hdirectory, hfingerprint, hreusable]

lemma fullScan_read {key : String × String} {fingerprint : RootFingerprint}
    (h : readRoot root view = some (key, fingerprint)) :
    fullScan root view = (performScan key.1 key.2 view).1 := by
  unfold fullScan
  rw [scanRoot_read h]
  change (if _ then _ else _ : AdapterScanner × AdapterScan).2 = _
  split
  · rfl
  · rfl

/-- Where the root can be read, its scan carries the key it is cached under. -/
lemma fullScan_key {key : String × String} {fingerprint : RootFingerprint}
    (h : readRoot root view = some (key, fingerprint)) :
    ((fullScan root view).adapter, (fullScan root view).rootKey) = key ∧
      (fullScan root view).reusedCache = false := by
  rw [fullScan_read h]
  unfold performScan
  split
  · exact ⟨rfl, rfl⟩
  · exact ⟨rfl, rfl⟩

lemma scanRoot_reused {cached : CachedScan} (h : scanner.reused root view = some cached) :
    scanner.scanRoot root view false = (scanner, { cached.scan with reusedCache := true }) ∧
      ∃ key fingerprint, readRoot root view = some (key, fingerprint) ∧
        scanner.cache.lookup key = some cached := by
  obtain ⟨⟨key, fingerprint⟩, hread, hreusable⟩ := Option.bind_eq_some_iff.mp h
  have hreusable : scanner.reusable key fingerprint false = some cached := hreusable
  refine ⟨?_, key, fingerprint, hread, (Option.filter_eq_some_iff.mp hreusable).1⟩
  rw [scanRoot_read hread, hreusable]

/-- A scan that is not the cached one is what is in the files, and it is cached if they could be
read. -/
lemma scanRoot_fresh (h : scanner.reused root view = none) :
    (scanner.scanRoot root view false).2 = fullScan root view ∧
      (fullScan root view).reusedCache = false ∧
      ((scanner.scanRoot root view false).1.cache = scanner.cache ∧
          (readRoot root view = none ∨ (fullScan root view).completion.isUncached) ∨
        ∃ key fingerprint, readRoot root view = some (key, fingerprint) ∧
          (fullScan root view).completion.isUncached = false ∧
          (scanner.scanRoot root view false).1.cache =
            scanner.cache.insert key ⟨fingerprint, fullScan root view⟩) := by
  cases hread : readRoot root view with
  | none =>
    obtain ⟨hscan, hreused⟩ := @scanRoot_unread scanner root view hread false
    rw [hscan]
    exact ⟨rfl, hreused, .inl ⟨rfl, .inl rfl⟩⟩
  | some r =>
    obtain ⟨key, fingerprint⟩ := r
    have hnone : scanner.reusable key fingerprint false = none := by
      unfold reused at h
      rw [hread] at h
      exact h
    rw [scanRoot_read hread, hnone]
    dsimp only
    rw [← fullScan_read hread]
    refine ⟨?_, (fullScan_key hread).2, ?_⟩
    · split
      · rfl
      · rfl
    · cases huncached : (fullScan root view).completion.isUncached with
      | true => exact .inl ⟨if_pos rfl ▸ rfl, .inr rfl⟩
      | false => exact .inr ⟨key, fingerprint, rfl, rfl, by rw [if_neg Bool.false_ne_true]⟩

end

end AdapterScanner

/-! ### Runs -/

/-- The service, and what each cached scan was committed with when its files were read. -/
structure ScanLog where
  service : ScanService
  committed : Table (String × String) ScanCompletion

namespace ScanLog
variable (ext : External) (root : AdapterRoot)

/-- A new service over a catalog. -/
def start (db : ProjectCatalog) : ScanLog :=
  ⟨⟨.default, db⟩, ∅⟩

def scan (log : ScanLog) (view : RootView) (observedAt : Int) : ScanLog :=
  let (service, completion) := log.service.runBackgroundScan ext root view observedAt
  let committed :=
    match log.service.scanner.reused root view, readRoot root view with
    | none, some (key, _) =>
      if (fullScan root view).completion.isUncached then log.committed
      else log.committed.insert key completion
    | _, _ => log.committed
  ⟨service, committed⟩

/-- The candidates in the files now, and those of the cached scans. -/
def candidates (log : ScanLog) (view : RootView) : Set SessionCandidate :=
  {c | c ∈ (fullScan root view).candidates ∨
    ∃ k cached, log.service.scanner.cache.lookup k = some cached ∧ c ∈ cached.scan.candidates}

/-- The condition on a scan. A cached scan is used again only for files that are still the same, and
if it was committed as what it is; a session that goes for an excluded source is none of a
candidate's. -/
structure Sound (log : ScanLog) (view : RootView) : Prop where
  canonical : ∀ c ∈ (fullScan root view).candidates, c.identity.Canonical ext
  unchanged : ∀ cached, log.service.scanner.reused root view = some cached →
    cached.scan.completion = .complete → cached.scan = fullScan root view
  as_committed : ∀ cached, log.service.scanner.reused root view = some cached →
    cached.scan.completion = .complete → ∀ key ∈ (readRoot root view).map (·.1),
      log.committed.lookup key = some .complete
  not_excluded : ∀ c ∈ (fullScan root view).candidates,
    c.sourceKey ∉ (fullScan root view).excludedSourceKeys
  apart : ∀ s, log.service.catalog.Excludable (fullScan root view).adapter
      (fullScan root view).rootKey (fullScan root view).excludedSourceKeys s →
    ∀ c ∈ log.candidates root view, s ≠ c.identity.stableKey ∧
      log.service.catalog.primaryOf c.identity.aliasKey ≠ some s

/-- A scan that meets the condition. -/
def Step (log : ScanLog) (seen : RootView × Int) (log' : ScanLog) : Prop :=
  log.Sound ext root seen.1 ∧ log' = log.scan ext root seen.1 seen.2

/-- The candidates of a complete cached scan that was committed as complete are stored. -/
structure Consistent (log : ScanLog) : Prop where
  keyed : log.service.catalog.RowsKeyed ext
  stored : ∀ k cached, log.service.scanner.cache.lookup k = some cached →
    log.committed.lookup k = some .complete → cached.scan.completion = .complete →
      ∀ c ∈ cached.scan.candidates, log.service.catalog.Stores c

end ScanLog

section
variable {ext : External} {root : AdapterRoot} {log : ScanLog} {view : RootView}

lemma ScanLog.Sound.spares (h : log.Sound ext root view) :
    ProjectCatalog.Spares {s | log.service.catalog.Excludable (fullScan root view).adapter
        (fullScan root view).rootKey (fullScan root view).excludedSourceKeys s}
      (fullScan root view).adapter (fullScan root view).rootKey
      (fullScan root view).excludedSourceKeys (log.candidates root view) log.service.catalog where
  own c hc hmem := (h.apart _ hmem c hc).1 rfl
  linked c hc p hp hmem := (h.apart p hmem c hc).2 hp
  excludable _ hs := hs

lemma runBackgroundScan_reused {service : ScanService} {cached : CachedScan}
    (h : service.scanner.reused root view = some cached) (observedAt : Int) :
    service.runBackgroundScan ext root view observedAt =
      (⟨service.scanner, service.catalog.completeRootScan cached.scan.adapter cached.scan.rootKey
        cached.scan.completion cached.scan.seenSourceKeys cached.scan.excludedSourceKeys
        observedAt⟩, cached.scan.completion) := by
  unfold ScanService.runBackgroundScan
  rw [(AdapterScanner.scanRoot_reused h).1]
  rfl

lemma runBackgroundScan_fresh {service : ScanService}
    (h : service.scanner.reused root view = none) (observedAt : Int) :
    service.runBackgroundScan ext root view observedAt =
      let full := fullScan root view
      let written := (scanBatches full.candidates).foldl (writeBatch ext)
        (service.catalog, full.completion)
      (⟨(service.scanner.scanRoot root view false).1,
        written.1.completeRootScan full.adapter full.rootKey written.2 full.seenSourceKeys
          full.excludedSourceKeys observedAt⟩, written.2) := by
  obtain ⟨hscan, hreused, -⟩ := AdapterScanner.scanRoot_fresh h
  unfold ScanService.runBackgroundScan writeScan
  dsimp only
  rw [hscan, hreused]
  rfl

lemma mem_of_scanBatches {candidates b : List SessionCandidate} {c : SessionCandidate}
    (hb : b ∈ scanBatches candidates) (hc : c ∈ b) : c ∈ candidates := by
  have hflatten : (scanBatches candidates).flatten = candidates :=
    ProjectCatalog.chunksOf_flatten (by decide) le_rfl
  rw [← hflatten]
  exact List.mem_flatten.mpr ⟨b, hb, hc⟩

/-- The catalog after a scan, and what it was committed as. -/
def ScanLog.result (ext : External) (root : AdapterRoot) (log : ScanLog) (view : RootView)
    (observedAt : Int) : ScanService × ScanCompletion :=
  log.service.runBackgroundScan ext root view observedAt

/-- What the catalog keeps and stores in one scan. -/
lemma ScanLog.Consistent.result (h : log.Consistent ext) (hsound : log.Sound ext root view)
    (observedAt : Int) :
    (log.result ext root view observedAt).1.catalog.RowsKeyed ext ∧
    (∀ c ∈ log.candidates root view, log.service.catalog.Stores c →
      (log.result ext root view observedAt).1.catalog.Stores c) ∧
    ((log.result ext root view observedAt).2 = .complete → ∀ c ∈ (fullScan root view).candidates,
      (log.result ext root view observedAt).1.catalog.Stores c) := by
  have hspares := hsound.spares
  unfold ScanLog.result
  cases hreused : log.service.scanner.reused root view with
  | some cached =>
    obtain ⟨-, key, fingerprint, hread, hlookup⟩ := AdapterScanner.scanRoot_reused hreused
    rw [runBackgroundScan_reused hreused]
    refine ⟨h.keyed.shrink (ProjectCatalog.shrinks_completeRootScan ..), ?_⟩
    by_cases hcomplete : cached.scan.completion = .complete
    · have hsame := hsound.unchanged cached hreused hcomplete
      have hcommitted := hsound.as_committed cached hreused hcomplete key (by rw [hread]; rfl)
      have hstored := h.stored key cached hlookup hcommitted hcomplete
      rw [hsame] at hstored ⊢
      refine ⟨fun c hc hstores => hspares.completeRootScan hc hstores _ _ _, fun _ c hc => ?_⟩
      exact hspares.completeRootScan (.inl hc) (hstored c hc) _ _ _
    · refine ⟨fun c _ hstores => ?_, fun h => absurd h hcomplete⟩
      exact hstores.completeRootScan_of_ne hcomplete _ _ _ _ _
  | none =>
    rw [runBackgroundScan_fresh hreused]
    dsimp only
    obtain ⟨taken, haccepts, hall⟩ := ProjectCatalog.foldl_writeBatch h.keyed hspares
      fun b (hb : b ∈ scanBatches (fullScan root view).candidates) c hc =>
        have hmem := mem_of_scanBatches hb hc
        ⟨.inl hmem, hsound.canonical c hmem, hsound.not_excluded c hmem⟩
    refine ⟨haccepts.keyed.shrink (ProjectCatalog.shrinks_completeRootScan ..),
      fun c hc hstores => haccepts.spares.completeRootScan hc (haccepts.keeps c hstores) _ _ _,
      fun hcomplete c hc => ?_⟩
    have hflatten : (scanBatches (fullScan root view).candidates).flatten =
        (fullScan root view).candidates :=
      ProjectCatalog.chunksOf_flatten (by decide) le_rfl
    have htaken : c ∈ taken := by
      rw [(hall hcomplete).2, hflatten]
      exact hc
    exact haccepts.spares.completeRootScan (.inl hc) (haccepts.stores c htaken) _ _ _

lemma ScanLog.Consistent.scan (h : log.Consistent ext) (hsound : log.Sound ext root view)
    (observedAt : Int) : (log.scan ext root view observedAt).Consistent ext := by
  obtain ⟨hkeyed, hkeeps, hstores⟩ := h.result hsound observedAt
  refine ⟨hkeyed, fun k cached hk hcommitted hcomplete c hc => ?_⟩
  change (log.result ext root view observedAt).1.scanner.cache.lookup k = some cached at hk
  change (log.result ext root view observedAt).1.catalog.Stores c
  have hold : log.service.scanner.cache.lookup k = some cached →
      log.committed.lookup k = some .complete →
      (log.result ext root view observedAt).1.catalog.Stores c :=
    fun hk hcommitted => hkeeps c (.inr ⟨k, cached, hk, hc⟩)
      (h.stored k cached hk hcommitted hcomplete c hc)
  unfold ScanLog.scan at hcommitted
  dsimp only at hcommitted
  cases hreused : log.service.scanner.reused root view with
  | some other =>
    rw [hreused] at hcommitted
    unfold ScanLog.result at hk
    rw [runBackgroundScan_reused hreused] at hk
    exact hold hk hcommitted
  | none =>
    have hcache : (log.result ext root view observedAt).1.scanner =
        (log.service.scanner.scanRoot root view false).1 := by
      unfold ScanLog.result
      rw [runBackgroundScan_fresh hreused]
    rw [hcache] at hk
    rw [hreused] at hcommitted
    obtain ⟨-, -, ⟨hsame, hunread⟩ | ⟨key, fingerprint, hread, huncached, hinsert⟩⟩ :=
      AdapterScanner.scanRoot_fresh hreused
    · rw [hsame] at hk
      refine hold hk ?_
      rcases hunread with hnone | huncached
      · rwa [hnone] at hcommitted
      · cases hread : readRoot root view with
        | none => rwa [hread] at hcommitted
        | some r =>
          rw [hread] at hcommitted
          dsimp only at hcommitted
          rwa [if_pos huncached] at hcommitted
    · rw [hread] at hcommitted
      dsimp only at hcommitted
      rw [if_neg (by rw [huncached]; exact Bool.false_ne_true)] at hcommitted
      rw [hinsert] at hk
      by_cases heq : k = key
      · rw [heq, AList.lookup_insert, Option.some.injEq] at hk hcommitted
        obtain rfl := hk
        exact hstores hcommitted c hc
      · rw [AList.lookup_insert_ne heq] at hk hcommitted
        exact hold hk hcommitted

lemma ScanLog.consistent_start {db : ProjectCatalog} (h : db.RowsKeyed ext) :
    (ScanLog.start db).Consistent ext where
  keyed := h
  stored k cached hk := by
    change (∅ : Table (String × String) CachedScan).lookup k = some cached at hk
    rw [AList.lookup_empty] at hk
    cases hk

/-- In a run of scans of one root that all meet the condition, over any catalog, a scan that is
committed as complete leaves every candidate of the files in the catalog that it accepts. -/
theorem storesAccepted_of_run {threshold : Nat} {ops : List CatalogOp} {db : ProjectCatalog}
    {scans : List (RootView × Int)} {observedAt : Int}
    (hdb : Run (fun db op db' => op.Canonical ext ∧ op.Step ext db db') (.empty threshold) ops db)
    (hrun : Run (ScanLog.Step ext root) (.start db) scans log) (hsound : log.Sound ext root view)
    (hcomplete : (log.service.runBackgroundScan ext root view observedAt).2 = .complete) :
    (log.service.runBackgroundScan ext root view observedAt).1.catalog.StoresAccepted ext
      (fullScan root view).candidates := by
  have hstep : ∀ (log : ScanLog) (seen : RootView × Int) (log' : ScanLog), log.Consistent ext →
      log.Step ext root seen log' → log'.Consistent ext := by
    rintro log seen log' h ⟨hs, rfl⟩
    exact h.scan hs seen.2
  have hconsistent := hrun.invariant hstep (ScanLog.consistent_start (rowsKeyed_of_run hdb))
  exact fun c hc _ => (hconsistent.result hsound observedAt).2.2 hcomplete c hc

end

/-! ### Two transcripts of one session -/

def piRoot : AdapterRoot :=
  ⟨"pi", "/sessions", .explicit, none⟩

/-- A root with these transcripts, none of them malformed. -/
def piView (paths : List String) : RootView where
  pathExists := true
  canonicalDirectory := some "/sessions"
  rootFingerprint := some ⟨paths.map fun path => ⟨path, 64, 20000000⟩, 0⟩
  scanned := .ok ⟨paths.map piTranscript, paths, [], 0, paths.length⟩

def bothTranscripts : RootView :=
  piView ["/sessions/copy.jsonl", "/sessions/session.jsonl"]

/-- The log after the two transcripts were refused together. -/
def afterRefusal : ScanLog :=
  (ScanLog.start (.empty 20)).scan piMachine piRoot bothTranscripts 30

/-- Scanned again, the two transcripts are not written, and the scan is complete. -/
theorem refusedBatch_stays_missing :
    ¬∀ (scans : List (RootView × Int)) (log : ScanLog) (view : RootView) (observedAt : Int),
      Run (fun log seen log' => log' = log.scan piMachine piRoot seen.1 seen.2)
        (ScanLog.start (.empty 20)) scans log →
      (log.service.runBackgroundScan piMachine piRoot view observedAt).2 = .complete →
      (log.service.runBackgroundScan piMachine piRoot view observedAt).1.catalog.StoresAccepted
        piMachine (fullScan piRoot view).candidates := by
  intro h
  have hrun : Run (fun (log : ScanLog) (seen : RootView × Int) log' =>
      log' = log.scan piMachine piRoot seen.1 seen.2) (ScanLog.start (.empty 20))
      [(bothTranscripts, 30)] afterRefusal :=
    .cons rfl (.nil _)
  have haccepted := h _ _ bothTranscripts 40 hrun (by decide)
    (piTranscript "/sessions/copy.jsonl") (by decide)
    ⟨_, eq_ok_of_isOk (by decide)⟩
  obtain ⟨s, src, -, -, hsrc, -⟩ := haccepted
  have hempty : (afterRefusal.service.runBackgroundScan piMachine piRoot bothTranscripts
      40).1.catalog.sources.keys = [] := by
    decide
  have hmem := AList.lookup_isSome.mp (Option.isSome_of_mem hsrc)
  rw [AList.mem_keys, hempty] at hmem
  cases hmem

def oneTranscript : RootView :=
  piView ["/sessions/session.jsonl"]

/-- One transcript is stored, and its scan may be used again. -/
theorem storesAccepted_of_run_oneTranscript :
    (((ScanLog.start (.empty 20)).scan piMachine piRoot oneTranscript
      30).service.runBackgroundScan piMachine piRoot oneTranscript 40).1.catalog.StoresAccepted
        piMachine (fullScan piRoot oneTranscript).candidates := by
  have hcandidates : (fullScan piRoot oneTranscript).candidates = [foundTranscript] := by
    decide
  have hexcluded : (fullScan piRoot oneTranscript).excludedSourceKeys = [] := by decide
  have hsound : ∀ log : ScanLog,
      (∀ cached, log.service.scanner.reused piRoot oneTranscript = some cached →
        cached.scan = fullScan piRoot oneTranscript ∧
          ∀ key ∈ (readRoot piRoot oneTranscript).map (·.1),
            log.committed.lookup key = some .complete) →
      log.Sound piMachine piRoot oneTranscript := by
    refine fun log h => ⟨?_, fun cached hc _ => (h cached hc).1, fun cached hc _ => (h cached hc).2,
      ?_, ?_⟩
    · rw [hcandidates]
      rintro c hc
      obtain rfl := List.mem_singleton.mp hc
      rfl
    · rw [hexcluded]
      exact fun c _ h => (nomatch h)
    · rw [hexcluded]
      rintro s ⟨-, e, he, -⟩
      cases he
  have hfirst := hsound (.start (.empty 20)) fun cached hc => (nomatch hc)
  have hrun : Run (ScanLog.Step piMachine piRoot) (.start (.empty 20)) [(oneTranscript, 30)]
      ((ScanLog.start (.empty 20)).scan piMachine piRoot oneTranscript 30) :=
    .cons ⟨hfirst, rfl⟩ (.nil _)
  refine storesAccepted_of_run (.nil _) hrun (hsound _ fun cached hc => ?_) (by decide)
  have hreused : ((ScanLog.start (.empty 20)).scan piMachine piRoot oneTranscript
      30).service.scanner.reused piRoot oneTranscript =
        some ⟨⟨[⟨"/sessions/session.jsonl", 64, 20000000⟩], 0⟩, fullScan piRoot oneTranscript⟩ := by
    decide
  rw [hreused] at hc
  obtain rfl := Option.some.inj hc
  exact ⟨rfl, by decide⟩

end Ork3.Projects
