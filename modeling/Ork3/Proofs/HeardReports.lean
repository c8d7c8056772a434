import Ork3.Library.Newest
import Ork3.Proofs.TerminalFrame

/-!
# What the sources of metadata said

A terminal keeps one metadata entry for each source. A report that clears nothing replaces it; a
report that clears fields patches it. Here the reports themselves are remembered, newest first, and
every entry is shown to say what the reports behind it said.
-/

namespace Ork3.Terminal

open Ork3.Library

namespace AgentMetadataReport

def clearsFields (report : AgentMetadataReport) : Bool :=
  report.clearTitle || report.clearDisplayAgent || report.clearStateLabels

def setsFields (report : AgentMetadataReport) : Bool :=
  report.title.isSome || report.displayAgent.isSome || !report.stateLabels.entries.isEmpty

/-- When a report heard at `now` ends. -/
def deadlineAt (report : AgentMetadataReport) (now : Instant) : Option Instant :=
  report.ttl.map fun ttl => (Instant.checkedAdd now ttl).getD now

end AgentMetadataReport

/-! ### The reports behind an entry -/

/-- The reports behind the entry of a source with the times they were heard, newest first. -/
abbrev Episode := List (AgentMetadataReport × Instant)

namespace Episode

/-- The deadline given by the newest report that sets a field or has a time to live. -/
def deadline : Episode → Option Instant
  | [] => none
  | report :: older =>
    if report.1.setsFields || report.1.ttl.isSome then
      report.1.deadlineAt report.2
    else
      deadline older

def Unexpired (reports : Episode) (now : Instant) : Prop :=
  ∀ d ∈ reports.deadline, now < d

instance (reports : Episode) (now : Instant) : Decidable (reports.Unexpired now) :=
  inferInstanceAs (Decidable (∀ d ∈ _, now < d))

/-- What is left of the reports at `now`. -/
def leftAt (reports : Episode) (now : Instant) : Episode :=
  if reports.Unexpired now then reports else []

def agentLabel (reports : Episode) : Option String :=
  lastGiven (·.agentLabel) reports

def appliesToSource (reports : Episode) : Option String :=
  lastGiven (·.appliesToSource) reports

def title (reports : Episode) : Option (String × Instant) :=
  stated (·.title) (·.clearTitle) reports

def displayAgent (reports : Episode) : Option (String × Instant) :=
  stated (·.displayAgent) (·.clearDisplayAgent) reports

def stateLabel (state : String) (reports : Episode) : Option (String × Instant) :=
  stated (·.stateLabels.lookup state) (·.clearStateLabels) reports

end Episode

/-- What a source was heard to say. -/
structure Heard where
  lastSeq : Option UInt64
  reports : Episode

namespace Heard

/-- A report whose sequence number is not new is not heard. -/
def report (h : Heard) (report : AgentMetadataReport) (now : Instant) : Heard :=
  if report.seq.all fun seq => h.lastSeq.all fun last => last < seq then
    { lastSeq := report.seq.or h.lastSeq
      reports :=
        if report.clearsFields then (report, now) :: h.reports.leftAt now else [(report, now)] }
  else
    h

end Heard

def hear (h : String → Heard) : TerminalOp → String → Heard
  | .setAgentMetadata report now =>
    Function.update h report.source ((h report.source).report report now)
  | .expireAgentMetadataAt _ now => fun source =>
    { h source with reports := (h source).reports.leftAt now }
  | .clearAgentRuntimeIdentityAfterRespawn => fun source => { h source with reports := [] }
  | _ => h

/-- What the sources were heard to say in a run. -/
def heard (ops : List TerminalOp) : String → Heard :=
  ops.foldl hear fun _ => ⟨none, []⟩

/-! ### Entries that say what the reports said -/

/-- An entry holds what stands of the reports behind it. -/
structure Describes (reports : Episode) (metadata : AgentMetadata) : Prop where
  title : metadata.title = reports.title.map (·.1)
  titleReportedAt : metadata.titleReportedAt = reports.title.map (·.2)
  displayAgent : metadata.displayAgent = reports.displayAgent.map (·.1)
  displayAgentReportedAt : metadata.displayAgentReportedAt = reports.displayAgent.map (·.2)
  stateLabels : ∀ state,
    metadata.stateLabels.lookup state = (reports.stateLabel state).map (·.1)
  stateLabelReportedAt : ∀ state,
    metadata.stateLabelReportedAt.lookup state = (reports.stateLabel state).map (·.2)
  agentLabel : metadata.agentLabel = reports.agentLabel
  appliesToSource : metadata.appliesToSource = reports.appliesToSource
  deadline : agentMetadataExpiry metadata = reports.deadline

/-- An entry without its pending flag, which no report speaks of. -/
def AgentMetadata.unflagged (metadata : AgentMetadata) : AgentMetadata :=
  { metadata with expiryEventPending := false }

lemma describes_unflagged {reports : Episode} {metadata : AgentMetadata} :
    Describes reports metadata.unflagged ↔ Describes reports metadata := by
  constructor
  · rintro ⟨h1, h2, h3, h4, h5, h6, h7, h8, h9⟩
    exact ⟨h1, h2, h3, h4, h5, h6, h7, h8, h9⟩
  · rintro ⟨h1, h2, h3, h4, h5, h6, h7, h8, h9⟩
    exact ⟨h1, h2, h3, h4, h5, h6, h7, h8, h9⟩

lemma Describes.expired_iff {reports : Episode} {metadata : AgentMetadata}
    (h : Describes reports metadata) (now : Instant) :
    agentMetadataIsExpired metadata now = true ↔ ¬reports.Unexpired now := by
  unfold agentMetadataIsExpired Episode.Unexpired
  rw [h.deadline]
  cases reports.deadline with
  | none => simp
  | some d => simp

open TerminalState

section Reports
variable (report : AgentMetadataReport) (now : Instant)

lemma lookup_stateLabels_entries (labels : Table String String) (now : Instant) (state : String) :
    (Table.collect (labels.keys.map fun state => (state, now))).lookup state =
      (labels.lookup state).map fun _ => now := by
  have hnodup : ((labels.keys.map fun state => (state, now)).map Prod.fst).Nodup := by
    rw [List.map_map]
    exact (List.map_id labels.keys).symm ▸ labels.nodupKeys
  ext t
  rw [Table.lookup_collect hnodup, List.mem_map, Option.map_eq_some_iff]
  constructor
  · rintro ⟨key, hkey, heq⟩
    cases heq
    obtain ⟨v, hv⟩ := Option.isSome_iff_exists.mp (AList.lookup_isSome.mpr hkey)
    exact ⟨v, hv, rfl⟩
  · rintro ⟨v, hv, rfl⟩
    have hmem : state ∈ labels := AList.lookup_isSome.mp (by rw [hv]; rfl)
    exact ⟨state, hmem, rfl⟩

lemma describes_replacing :
    Describes [(report, now)] (replacingMetadata report now) := by
  have hstated {α : Type} (sets : AgentMetadataReport → Option α)
      (clears : AgentMetadataReport → Bool) :
      stated sets clears [(report, now)] = (sets report).map fun v => (v, now) := by
    unfold stated
    cases sets report with
    | none => simp [stated]
    | some v => rfl
  constructor
  · simp [replacingMetadata, Episode.title, hstated, Function.comp_def]
  · simp [replacingMetadata, Episode.title, hstated, Function.comp_def]
  · simp [replacingMetadata, Episode.displayAgent, hstated, Function.comp_def]
  · simp [replacingMetadata, Episode.displayAgent, hstated, Function.comp_def]
  · simp [replacingMetadata, Episode.stateLabel, hstated, Function.comp_def]
  · intro state
    simp only [replacingMetadata, lookup_stateLabels_entries, Episode.stateLabel, hstated,
      Option.map_map, Function.comp_def]
  · simp [replacingMetadata, Episode.agentLabel, lastGiven]
  · simp [replacingMetadata, Episode.appliesToSource, lastGiven]
  · unfold Episode.deadline
    split
    · rfl
    · rename_i hnone
      have hnottl : report.ttl = none := by
        simpa using (Bool.or_eq_false_iff.mp (Bool.eq_false_iff.mpr hnone)).2
      simp [replacingMetadata, agentMetadataExpiry, Episode.deadline, hnottl]

/-! ### Patched entries -/

variable (metadata : AgentMetadata)

/-- Inserting the reported labels one by one changes the two label tables only. -/
lemma foldl_stateLabels (labels : List (Sigma fun _ : String => String)) :
    labels.foldl (fun metadata e =>
        { metadata with
          stateLabels := metadata.stateLabels.insert e.1 e.2
          stateLabelReportedAt := metadata.stateLabelReportedAt.insert e.1 now }) metadata =
      { metadata with
        stateLabels := (labels.map fun e => (e.1, e.2)).foldl (fun t e => t.insert e.1 e.2)
          metadata.stateLabels
        stateLabelReportedAt := (labels.map fun e => (e.1, now)).foldl
          (fun t e => t.insert e.1 e.2) metadata.stateLabelReportedAt } := by
  induction labels generalizing metadata with
  | nil => rfl
  | cons e labels ih =>
    rw [List.foldl_cons, ih]
    rfl

lemma collect_entries_lookup (t : Table String String) (state : String) :
    (Table.collect (t.entries.map fun e => (e.1, e.2))).lookup state = t.lookup state := by
  have hnodup : ((t.entries.map fun e => (e.1, e.2)).map Prod.fst).Nodup := by
    rw [List.map_map]
    exact t.nodupKeys
  ext v
  rw [Table.lookup_collect hnodup, ← Option.mem_def, AList.mem_lookup_iff, List.mem_map]
  constructor
  · rintro ⟨⟨k, v'⟩, hmem, heq⟩
    cases heq
    exact hmem
  · intro h
    exact ⟨⟨state, v⟩, h, rfl⟩

/-- What a patch leaves of a field. -/
lemma patchedMetadata_eq :
    patchedMetadata metadata report now =
      { source := metadata.source
        agentLabel := report.agentLabel.or metadata.agentLabel
        appliesToSource := report.appliesToSource.or metadata.appliesToSource
        title := report.title.or (if report.clearTitle then none else metadata.title)
        displayAgent :=
          report.displayAgent.or (if report.clearDisplayAgent then none else metadata.displayAgent)
        stateLabels := (report.stateLabels.entries.map fun e => (e.1, e.2)).foldl
          (fun t e => t.insert e.1 e.2)
          (if report.clearStateLabels then ∅ else metadata.stateLabels)
        reportedAt :=
          if report.setsFields || report.ttl.isSome then now else metadata.reportedAt
        titleReportedAt := (report.title.map fun _ => now).or
          (if report.clearTitle then none else metadata.titleReportedAt)
        displayAgentReportedAt := (report.displayAgent.map fun _ => now).or
          (if report.clearDisplayAgent then none else metadata.displayAgentReportedAt)
        stateLabelReportedAt := (report.stateLabels.entries.map fun e => (e.1, now)).foldl
          (fun t e => t.insert e.1 e.2)
          (if report.clearStateLabels then ∅ else metadata.stateLabelReportedAt)
        ttl := if report.setsFields || report.ttl.isSome then report.ttl else metadata.ttl
        expiryEventPending :=
          if report.setsFields || report.ttl.isSome then false
          else metadata.expiryEventPending } := by
  have hclearTitle (m : AgentMetadata) :
      (if report.clearTitle then { m with title := none, titleReportedAt := none } else m) =
        { m with
          title := if report.clearTitle then none else m.title
          titleReportedAt := if report.clearTitle then none else m.titleReportedAt } := by
    cases report.clearTitle <;> rfl
  have hclearDisplayAgent (m : AgentMetadata) :
      (if report.clearDisplayAgent then
        { m with displayAgent := none, displayAgentReportedAt := none } else m) =
        { m with
          displayAgent := if report.clearDisplayAgent then none else m.displayAgent
          displayAgentReportedAt :=
            if report.clearDisplayAgent then none else m.displayAgentReportedAt } := by
    cases report.clearDisplayAgent <;> rfl
  have hclearStateLabels (m : AgentMetadata) :
      (if report.clearStateLabels then
        { m with stateLabels := ∅, stateLabelReportedAt := ∅ } else m) =
        { m with
          stateLabels := if report.clearStateLabels then ∅ else m.stateLabels
          stateLabelReportedAt :=
            if report.clearStateLabels then ∅ else m.stateLabelReportedAt } := by
    cases report.clearStateLabels <;> rfl
  have htitle (m : AgentMetadata) :
      (report.title.elim m fun title =>
        { m with title := some title, titleReportedAt := some now }) =
        { m with
          title := report.title.or m.title
          titleReportedAt := (report.title.map fun _ => now).or m.titleReportedAt } := by
    cases report.title <;> rfl
  have hdisplayAgent (m : AgentMetadata) :
      (report.displayAgent.elim m fun displayAgent =>
        { m with displayAgent := some displayAgent, displayAgentReportedAt := some now }) =
        { m with
          displayAgent := report.displayAgent.or m.displayAgent
          displayAgentReportedAt :=
            (report.displayAgent.map fun _ => now).or m.displayAgentReportedAt } := by
    cases report.displayAgent <;> rfl
  have hrestarts (m : AgentMetadata) (b : Bool) :
      (if b then { m with reportedAt := now, ttl := report.ttl, expiryEventPending := false }
        else m) =
        { m with
          reportedAt := if b then now else m.reportedAt
          ttl := if b then report.ttl else m.ttl
          expiryEventPending := if b then false else m.expiryEventPending } := by
    cases b <;> rfl
  unfold patchedMetadata
  extract_lets untitled unnamed unlabelled guarded titled named labelled sets
  have h₁ := hclearTitle metadata
  have h₂ := hclearDisplayAgent untitled
  have h₃ := hclearStateLabels unnamed
  have h₄ : guarded = { unlabelled with
      agentLabel := report.agentLabel.or unlabelled.agentLabel
      appliesToSource := report.appliesToSource.or unlabelled.appliesToSource } := rfl
  have h₅ := htitle guarded
  have h₆ := hdisplayAgent titled
  have h₇ := foldl_stateLabels now named report.stateLabels.entries
  have hsets : sets = report.setsFields := rfl
  rw [hrestarts, hsets]
  change labelled = _ at h₇
  change named = _ at h₆
  change titled = _ at h₅
  change unlabelled = _ at h₃
  change unnamed = _ at h₂
  change untitled = _ at h₁
  clear_value labelled named titled guarded unlabelled unnamed untitled
  subst h₁ h₂ h₃ h₄ h₅ h₆ h₇
  rfl

lemma stated_cons {α : Type} (sets : AgentMetadataReport → Option α)
    (clears : AgentMetadataReport → Bool) (older : Episode) :
    stated sets clears ((report, now) :: older) =
      ((sets report).map fun v => (v, now)).or
        (if clears report then none else stated sets clears older) := by
  rw [stated]
  cases sets report with
  | none => rfl
  | some v => rfl

lemma lookup_or_ite {α : Type} (labels : List (String × α)) (clears : Bool)
    (old : Table String α) (state : String) :
    (labels.foldl (fun t e => t.insert e.1 e.2) (if clears then ∅ else old)).lookup state =
      ((Table.collect labels).lookup state).or (if clears then none else old.lookup state) := by
  rw [Table.lookup_foldl_insert]
  cases clears with
  | false => rfl
  | true => rfl

/-- A patched entry holds what stands once the report is heard too. -/
lemma describes_patched {metadata : AgentMetadata} {older : Episode}
    (hold : Describes older metadata) :
    Describes ((report, now) :: older) (patchedMetadata metadata report now) := by
  have hvalue {α : Type} (set : Option α) (clears : Bool) (o : Option (α × Instant)) :
      ((set.map fun v => (v, now)).or (if clears then none else o)).map (·.1) =
        set.or (if clears then none else o.map (·.1)) := by
    cases set <;> cases clears <;> rfl
  have htime {α : Type} (set : Option α) (clears : Bool) (o : Option (α × Instant)) :
      ((set.map fun v => (v, now)).or (if clears then none else o)).map (·.2) =
        (set.map fun _ => now).or (if clears then none else o.map (·.2)) := by
    cases set <;> cases clears <;> rfl
  have hkeys : (report.stateLabels.entries.map fun e => (e.1, now)) =
      report.stateLabels.keys.map fun state => (state, now) := by
    simp only [AList.keys, List.keys, List.map_map, Function.comp_def]
  rw [patchedMetadata_eq]
  constructor
  · rw [Episode.title, stated_cons, hvalue, hold.title]
    rfl
  · rw [Episode.title, stated_cons, htime, hold.titleReportedAt]
    rfl
  · rw [Episode.displayAgent, stated_cons, hvalue, hold.displayAgent]
    rfl
  · rw [Episode.displayAgent, stated_cons, htime, hold.displayAgentReportedAt]
    rfl
  · intro state
    rw [Episode.stateLabel, stated_cons, hvalue, lookup_or_ite, collect_entries_lookup,
      hold.stateLabels]
    rfl
  · intro state
    rw [Episode.stateLabel, stated_cons, htime, lookup_or_ite, hkeys, lookup_stateLabels_entries,
      hold.stateLabelReportedAt]
    rfl
  · rw [hold.agentLabel]
    rfl
  · rw [hold.appliesToSource]
    rfl
  · rw [Episode.deadline, ← hold.deadline]
    by_cases hsets : (report.setsFields || report.ttl.isSome) = true
    · simp only [agentMetadataExpiry, AgentMetadataReport.deadlineAt, hsets, if_true]
    · simp only [agentMetadataExpiry, hsets, if_false, Bool.false_eq_true]

/-- The empty entry takes its guards and its time to live from the report it is patched with. -/
lemma patchedMetadata_emptyMetadata :
    patchedMetadata (emptyMetadata report now) report now =
      patchedMetadata { emptyMetadata report now with
        agentLabel := none
        appliesToSource := none
        ttl := none } report now := by
  have hor {α : Type} (o : Option α) : o.or o = o.or none := by
    cases o <;> rfl
  have httl : (if (report.setsFields || report.ttl.isSome) = true then report.ttl
      else report.ttl) =
      if (report.setsFields || report.ttl.isSome) = true then report.ttl else none := by
    cases report.ttl with
    | none => rfl
    | some ttl => simp
  rw [patchedMetadata_eq, patchedMetadata_eq]
  simp only [emptyMetadata, hor report.agentLabel, hor report.appliesToSource, httl]

lemma describes_started :
    Describes [(report, now)] (patchedMetadata (emptyMetadata report now) report now) := by
  rw [patchedMetadata_emptyMetadata]
  exact describes_patched report now ⟨rfl, rfl, rfl, rfl, fun _ => rfl, fun _ => rfl, rfl, rfl, rfl⟩

end Reports

/-! ### Terminals that record what was heard -/

/-- What a terminal holds for a source is what the source was heard to say. -/
structure Heard.Recorded (h : Heard) (lastSeq : Option UInt64) (metadata : Option AgentMetadata) :
    Prop where
  lastSeq : lastSeq = h.lastSeq
  silent : metadata = none → h.reports = []
  describes : ∀ m, metadata = some m → Describes h.reports m

/-- Every source is recorded. -/
def Records (h : String → Heard) (s : TerminalState) : Prop :=
  ∀ source, (h source).Recorded (s.metadataReportSequences.lookup source)
    (s.agentMetadata.lookup source)

section Steps
variable {h : String → Heard} {s t : TerminalState}

/-- The pending flags do not matter. -/
lemma Heard.Recorded.congr {heard : Heard} {lastSeq : Option UInt64}
    {metadata metadata' : Option AgentMetadata} (hr : heard.Recorded lastSeq metadata)
    (heq : metadata'.map AgentMetadata.unflagged = metadata.map AgentMetadata.unflagged) :
    heard.Recorded lastSeq metadata' := by
  obtain ⟨hlast, hsilent, hdescribes⟩ := hr
  refine ⟨hlast, fun hnone => hsilent ?_, fun m hm => ?_⟩
  · rw [hnone, Option.map_none] at heq
    exact Option.map_eq_none_iff.mp heq.symm
  · rw [hm, Option.map_some] at heq
    obtain ⟨m', hm', heq⟩ := Option.map_eq_some_iff.mp heq.symm
    rw [← describes_unflagged, ← heq, describes_unflagged]
    exact hdescribes m' hm'

lemma Records.congr (hs : Records h s)
    (hsequences : t.metadataReportSequences = s.metadataReportSequences)
    (hmetadata : ∀ source, (t.agentMetadata.lookup source).map AgentMetadata.unflagged =
      (s.agentMetadata.lookup source).map AgentMetadata.unflagged) : Records h t := by
  intro source
  rw [hsequences]
  exact (hs source).congr (hmetadata source)

lemma unflagged_foldl_modify (sources : List String) (table : Table String AgentMetadata)
    (source : String) :
    ((sources.foldl (fun t source => t.modify source fun metadata =>
        { metadata with expiryEventPending := false }) table).lookup source).map
        AgentMetadata.unflagged =
      (table.lookup source).map AgentMetadata.unflagged := by
  induction sources generalizing table with
  | nil => rfl
  | cons x sources ih =>
    rw [List.foldl_cons, ih, Table.lookup_modify]
    split
    · rename_i hx
      rw [hx, Option.map_map]
      rfl
    · rfl

lemma Records.clearExpiryPending (hs : Records h s) :
    Records h s.clearExpiryPendingForHiddenMetadata :=
  hs.congr rfl (unflagged_foldl_modify _ s.agentMetadata)

lemma unflagged_recompute (s : TerminalState) (previous : Previous) (now : Instant)
    (source : String) :
    ((s.recomputeEffectiveState previous now).1.agentMetadata.lookup source).map
        AgentMetadata.unflagged =
      (s.agentMetadata.lookup source).map AgentMetadata.unflagged := by
  unfold recomputeEffectiveState
  dsimp only
  split
  · exact unflagged_foldl_modify _ s.agentMetadata source
  · exact unflagged_foldl_modify _ s.agentMetadata source

lemma metadataReportSequences_recompute (s : TerminalState) (previous : Previous)
    (now : Instant) :
    (s.recomputeEffectiveState previous now).1.metadataReportSequences =
      s.metadataReportSequences := by
  unfold recomputeEffectiveState
  dsimp only
  split
  · rfl
  · rfl

lemma Records.recompute (hs : Records h s) (previous : Previous) (now : Instant) :
    Records h (s.recomputeEffectiveState previous now).1 :=
  hs.congr (metadataReportSequences_recompute s previous now) (unflagged_recompute s previous now)

lemma recomputed_records (h : String → Heard) : Recomputed (Records h) where
  sequences _ _ hs := hs
  session _ _ hs := hs
  recompute s t previous now hs hkept _ := by
    have hmetadata : t.agentMetadata = s.agentMetadata := congrArg Kept.agentMetadata hkept
    have hsequences : t.metadataReportSequences = s.metadataReportSequences :=
      congrArg Kept.metadataReportSequences hkept
    exact (hs.congr hsequences fun source => by rw [hmetadata]).recompute previous now

lemma lookup_foldl_erase (entries : List (String × Instant)) (table : Table String AgentMetadata)
    (source : String) :
    (entries.foldl (fun t e => t.erase e.1) table).lookup source =
      if source ∈ entries.map Prod.fst then none else table.lookup source := by
  induction entries generalizing table with
  | nil => rfl
  | cons e entries ih =>
    rw [List.foldl_cons, ih, List.map_cons]
    by_cases he : source = e.1
    · rw [he, AList.lookup_erase, if_pos List.mem_cons_self]
      exact ite_self none
    · rw [AList.lookup_erase_ne he]
      exact if_congr (by rw [List.mem_cons, or_iff_right he]) rfl rfl

/-- The entries whose deadline has passed, with their deadlines. -/
lemma mem_due (table : Table String AgentMetadata) (now : Instant) (source : String) :
    source ∈ (table.entries.filterMap fun e => (agentMetadataExpiry e.2).bind fun deadline =>
        if deadline ≤ now then some (e.1, deadline) else none).map Prod.fst ↔
      ∃ m, table.lookup source = some m ∧ agentMetadataIsExpired m now = true := by
  rw [List.map_filterMap, List.mem_filterMap]
  constructor
  · rintro ⟨⟨source', m⟩, hmem, heq⟩
    cases hexpiry : agentMetadataExpiry m with
    | none => simp [hexpiry] at heq
    | some deadline =>
      by_cases hle : deadline ≤ now
      · simp only [hexpiry, Option.bind_some, hle, if_true, Option.map_some,
          Option.some.injEq] at heq
        cases heq
        exact ⟨m, AList.mem_lookup_iff.mpr hmem, by simp [agentMetadataIsExpired, hexpiry, hle]⟩
      · simp [hexpiry, hle] at heq
  · rintro ⟨m, hm, hexpired⟩
    refine ⟨⟨source, m⟩, AList.mem_lookup_iff.mp hm, ?_⟩
    obtain ⟨deadline, hexpiry, hle⟩ := (Option.any_eq_true _ _).mp hexpired
    simp [hexpiry, of_decide_eq_true hle]

/-- An expiry removes the entries whose deadline has passed, whichever deadline it was scheduled
for. -/
lemma lookup_expireAgentMetadataAt (scheduledDeadline now : Instant) (source : String) :
    ((s.expireAgentMetadataAt scheduledDeadline now).1.agentMetadata.lookup source).map
        AgentMetadata.unflagged =
      ((s.agentMetadata.lookup source).filter fun m => !agentMetadataIsExpired m now).map
        AgentMetadata.unflagged := by
  have hdue := mem_due s.agentMetadata now source
  have hfilter : (s.agentMetadata.lookup source).filter (fun m => !agentMetadataIsExpired m now) =
      if ∃ m, s.agentMetadata.lookup source = some m ∧ agentMetadataIsExpired m now = true
        then none else s.agentMetadata.lookup source := by
    cases s.agentMetadata.lookup source with
    | none => simp
    | some m => cases hm : agentMetadataIsExpired m now <;> simp [hm]
  rw [hfilter, ← if_congr hdue rfl rfl]
  unfold expireAgentMetadataAt
  dsimp only
  generalize (s.agentMetadata.entries.filterMap fun e =>
    (agentMetadataExpiry e.2).bind fun deadline =>
      if deadline ≤ now then some (e.1, deadline) else none) = due
  have hparts : source ∈ due.map Prod.fst ↔
      source ∈ (due.partition fun e => decide (scheduledDeadline ≤ e.2)).1.map Prod.fst ∨
        source ∈ (due.partition fun e => decide (scheduledDeadline ≤ e.2)).2.map Prod.fst := by
    rw [List.partition_eq_filter_filter, ← List.mem_append, ← List.map_append]
    refine (List.Perm.map Prod.fst ?_).mem_iff.symm
    exact List.filter_append_perm _ due
  generalize due.partition (fun e => decide (scheduledDeadline ≤ e.2)) = parts at hparts ⊢
  split
  · rename_i hempty
    rw [List.isEmpty_iff.mp hempty, List.map_nil, or_iff_right List.not_mem_nil] at hparts
    rw [lookup_foldl_erase, if_congr hparts rfl rfl]
  · rw [unflagged_recompute, lookup_foldl_erase, lookup_foldl_erase, if_congr hparts rfl rfl,
      ite_or]

lemma metadataReportSequences_expireAgentMetadataAt (scheduledDeadline now : Instant) :
    (s.expireAgentMetadataAt scheduledDeadline now).1.metadataReportSequences =
      s.metadataReportSequences := by
  unfold expireAgentMetadataAt
  dsimp only
  split
  · rfl
  · exact metadataReportSequences_recompute _ _ now

lemma Records.expire (hs : Records h s) (scheduledDeadline now : Instant) :
    Records (hear h (.expireAgentMetadataAt scheduledDeadline now))
      (s.expireAgentMetadataAt scheduledDeadline now).1 := by
  have hsequences := @metadataReportSequences_expireAgentMetadataAt s scheduledDeadline now
  have hleft : Records (hear h (.expireAgentMetadataAt scheduledDeadline now))
      { s with agentMetadata :=
          s.agentMetadata.retain fun _ m => !agentMetadataIsExpired m now } := by
    intro source
    obtain ⟨hlast, hsilent, hdescribes⟩ := hs source
    refine ⟨hlast, fun hnone => ?_, fun m hm => ?_⟩
    · rw [Table.lookup_retain] at hnone
      change (h source).reports.leftAt now = []
      unfold Episode.leftAt
      cases hlookup : s.agentMetadata.lookup source with
      | none => rw [hsilent hlookup, ite_self]
      | some m =>
        have hexpired : agentMetadataIsExpired m now = true := by
          simpa [hlookup, Option.filter] using hnone
        rw [if_neg (((hdescribes m hlookup).expired_iff now).mp hexpired)]
    · rw [Table.lookup_retain, Option.filter_eq_some_iff] at hm
      have hunexpired : (h source).reports.Unexpired now := by
        by_contra hnot
        have hexpired := ((hdescribes m hm.1).expired_iff now).mpr hnot
        simp [hexpired] at hm
      change Describes ((h source).reports.leftAt now) m
      rw [Episode.leftAt, if_pos hunexpired]
      exact hdescribes m hm.1
  exact hleft.congr hsequences fun source => by
    rw [lookup_expireAgentMetadataAt, Table.lookup_retain]

/-! ### A metadata report -/

lemma lookup_noteAgentMetadata (report : AgentMetadataReport) (now : Instant) (source : String) :
    ((s.noteAgentMetadata report now).agentMetadata.lookup source).map AgentMetadata.unflagged =
      if source = report.source then
        some (if report.clearsFields then
            patchedMetadata ((s.agentMetadata.lookup report.source).getD
              (emptyMetadata report now)) report now
          else replacingMetadata report now).unflagged
      else (s.agentMetadata.lookup source).map AgentMetadata.unflagged := by
  unfold noteAgentMetadata
  dsimp only
  change _ = if source = report.source then some (AgentMetadata.unflagged (if (report.clearTitle ||
    report.clearDisplayAgent || report.clearStateLabels) = true then _ else _)) else _
  generalize (if (report.clearTitle || report.clearDisplayAgent || report.clearStateLabels) = true
    then patchedMetadata ((s.agentMetadata.lookup report.source).getD
      (emptyMetadata report now)) report now
    else replacingMetadata report now) = metadata
  split_ifs with _ hsource hsource
  · rw [Table.lookup_modify, if_pos hsource, AList.lookup_insert]
    rfl
  · rw [Table.lookup_modify, if_neg hsource, AList.lookup_insert_ne hsource]
  · rw [hsource, AList.lookup_insert]
    rfl
  · rw [AList.lookup_insert_ne hsource]

lemma metadataReportSequences_noteAgentMetadata (report : AgentMetadataReport) (now : Instant) :
    (s.noteAgentMetadata report now).metadataReportSequences = s.metadataReportSequences := by
  unfold noteAgentMetadata
  dsimp only
  split_ifs <;> rfl

lemma acceptMetadataReport_eq (source : String) (seq : Option UInt64) :
    s.acceptMetadataReport source seq false =
      if sequenceIsFresh s.metadataReportSequences source seq then
        ({ s with
          metadataReportSequences :=
            seq.elim s.metadataReportSequences (s.metadataReportSequences.insert source) }, .ok true)
      else (s, .ok false) := by
  cases seq with
  | none => rfl
  | some seq =>
    unfold acceptMetadataReport
    cases hfresh : sequenceIsFresh s.metadataReportSequences source (some seq) with
    | false => simp [hfresh]
    | true => simp [hfresh]

/-- What the source of a report has after it is noted. -/
lemma describes_noted {heard : Heard} {lastSeq : Option UInt64} {old : Option AgentMetadata}
    (hold : heard.Recorded lastSeq old) (report : AgentMetadataReport) (now : Instant) :
    Describes
      (if report.clearsFields then (report, now) :: heard.reports.leftAt now else [(report, now)])
      (if report.clearsFields then
        patchedMetadata ((old.filter fun m => !agentMetadataIsExpired m now).getD
          (emptyMetadata report now)) report now
      else replacingMetadata report now) := by
  cases report.clearsFields with
  | false => exact describes_replacing report now
  | true =>
    simp only [if_true]
    cases old with
    | none =>
      rw [hold.silent rfl, Episode.leftAt, ite_self]
      exact describes_started report now
    | some m =>
      have hm := hold.describes m rfl
      by_cases hunexpired : heard.reports.Unexpired now
      · have hlive : agentMetadataIsExpired m now = false := by
          by_contra hnot
          exact (hm.expired_iff now).mp (Bool.eq_true_of_not_eq_false hnot) hunexpired
        rw [Episode.leftAt, if_pos hunexpired, Option.filter_some, hlive]
        exact describes_patched report now hm
      · have hexpired := (hm.expired_iff now).mpr hunexpired
        rw [Episode.leftAt, if_neg hunexpired, Option.filter_some, hexpired]
        exact describes_started report now

/-- The entry of the source of a report is looked up without it where it has expired. -/
lemma lookup_pruned (table : Table String AgentMetadata) (source source' : String)
    (now : Instant) :
    (if (table.lookup source).any (agentMetadataIsExpired · now) then table.erase source
      else table).lookup source' =
      if source' = source then (table.lookup source).filter fun m => !agentMetadataIsExpired m now
      else table.lookup source' := by
  by_cases hsource : source' = source
  · rw [if_pos hsource, hsource]
    cases hlookup : table.lookup source with
    | none => simp [hlookup]
    | some m => cases hm : agentMetadataIsExpired m now <;> simp [hm, hlookup, Option.filter]
  · rw [if_neg hsource]
    split
    · exact AList.lookup_erase_ne hsource
    · rfl

lemma Records.noted (hs : Records h s) (report : AgentMetadataReport) (now : Instant)
    {accepted : TerminalState}
    (hsequences : ∀ source, accepted.metadataReportSequences.lookup source =
      if source = report.source then report.seq.or (h source).lastSeq else (h source).lastSeq)
    (hmetadata : ∀ source, accepted.agentMetadata.lookup source =
      if source = report.source then
        (s.agentMetadata.lookup source).filter fun m => !agentMetadataIsExpired m now
      else s.agentMetadata.lookup source)
    (hfresh : (report.seq.all fun seq =>
      (h report.source).lastSeq.all fun last => last < seq) = true) :
    Records (hear h (.setAgentMetadata report now)) (accepted.noteAgentMetadata report now) := by
  intro source
  rw [metadataReportSequences_noteAgentMetadata, hsequences]
  have hlookup := @lookup_noteAgentMetadata accepted report now source
  by_cases hsource : source = report.source
  · rw [if_pos hsource] at hlookup ⊢
    rw [hmetadata, if_pos rfl] at hlookup
    rw [hear, hsource, Function.update_self, Heard.report, if_pos hfresh]
    rw [hsource] at hlookup
    have hentry := describes_noted (hs report.source) report now
    exact Heard.Recorded.congr ⟨rfl, fun hnone => absurd hnone (Option.some_ne_none _),
      fun m hm => Option.some.inj hm ▸ hentry⟩ hlookup
  · rw [if_neg hsource] at hlookup ⊢
    rw [hmetadata, if_neg hsource] at hlookup
    rw [hear, Function.update_of_ne hsource]
    have hr := hs source
    exact Heard.Recorded.congr ⟨rfl, hr.silent, hr.describes⟩ hlookup

lemma Records.set (hs : Records h s) (report : AgentMetadataReport) (now : Instant) :
    Records (hear h (.setAgentMetadata report now)) (s.setAgentMetadata report now).1 := by
  have hfresh : sequenceIsFresh s.metadataReportSequences report.source report.seq =
      report.seq.all fun seq => (h report.source).lastSeq.all fun last => last < seq := by
    rw [← (hs report.source).lastSeq]
    rfl
  unfold setAgentMetadata
  rw [acceptMetadataReport_eq, hfresh]
  by_cases hall : (report.seq.all fun seq =>
      (h report.source).lastSeq.all fun last => last < seq) = true
  · rw [if_pos hall]
    have hsequences (source : String) :
        (report.seq.elim s.metadataReportSequences
          (s.metadataReportSequences.insert report.source)).lookup source =
        if source = report.source then report.seq.or (h source).lastSeq
          else (h source).lastSeq := by
      rw [← (hs source).lastSeq]
      cases report.seq with
      | none => exact (ite_self _).symm
      | some seq => exact Table.lookup_insert_eq ..
    have hnoted (accepted : TerminalState)
        (haccepted : accepted.metadataReportSequences =
          report.seq.elim s.metadataReportSequences
            (s.metadataReportSequences.insert report.source))
        (hpruned : accepted.agentMetadata =
          if (s.agentMetadata.lookup report.source).any (agentMetadataIsExpired · now) then
            s.agentMetadata.erase report.source
          else s.agentMetadata) (previous : Previous) :
        Records (hear h (.setAgentMetadata report now))
          (let r := (accepted.noteAgentMetadata report now).recomputeEffectiveState previous now
          if r.2.isSome then r.1.clearExpiryPendingForHiddenMetadata else r.1) := by
      have hrecords : Records (hear h (.setAgentMetadata report now))
          ((accepted.noteAgentMetadata report now).recomputeEffectiveState previous now).1 := by
        refine Records.recompute (hs.noted report now ?_ ?_ hall) previous now
        · intro source
          rw [haccepted, hsequences]
        · intro source
          rw [hpruned, lookup_pruned]
          by_cases hsource : source = report.source
          · rw [if_pos hsource, if_pos hsource, hsource]
          · rw [if_neg hsource, if_neg hsource]
      dsimp only
      split
      · exact hrecords.clearExpiryPending
      · exact hrecords
    dsimp only
    by_cases hpruned :
        (s.agentMetadata.lookup report.source).any (agentMetadataIsExpired · now) = true
    · rw [if_pos hpruned]
      exact hnoted _ rfl (if_pos hpruned).symm _
    · rw [if_neg hpruned]
      exact hnoted { s with
        metadataReportSequences := report.seq.elim s.metadataReportSequences
          (s.metadataReportSequences.insert report.source) } rfl (if_neg hpruned).symm _
  · rw [if_neg hall]
    have hsame : hear h (.setAgentMetadata report now) = h := by
      rw [hear, Heard.report, if_neg hall, Function.update_eq_self]
    rw [hsame]
    exact hs

/-- Every operation leaves what was heard recorded. -/
theorem Records.apply (hs : Records h s) (op : TerminalOp) :
    Records (hear h op) (op.apply s) := by
  have hP := recomputed_records h
  cases op with
  | setDetectedStateWithScreenSignalsAt => exact hP.setDetectedState hs _ _ _ _ _ _ _ _
  | setHookAuthorityAt => exact hP.setHookAuthorityAt hs _ _ _ _ _ _ _ _
  | setAgentSessionRefForSessionStart => exact hP.setAgentSessionRefForSessionStart hs _ _ _ _ _ _ _
  | clearHookAuthorityWithMutation => exact hP.clearHookAuthorityWithMutation hs _ _ _ _
  | releaseAgentWithMutation => exact hP.releaseAgentWithMutation hs _ _ _ _ _
  | setAgentMetadata report now => exact hs.set report now
  | expireAgentMetadataAt scheduledDeadline now => exact hs.expire scheduledDeadline now
  | setPersistedAgentSession session => exact hP.session s session hs
  | clearAgentRuntimeIdentityAfterRespawn =>
    exact fun source => ⟨(hs source).lastSeq, fun _ => rfl, nofun⟩

end Steps

/-- After any operations on a new terminal, with any arguments and clock readings, every source is
recorded. -/
theorem records_after (ops : List TerminalOp) : Records (heard ops) (TerminalState.after ops) := by
  induction ops using List.reverseRecOn with
  | nil => exact fun source => ⟨rfl, fun _ => rfl, nofun⟩
  | append_singleton ops op ih =>
    rw [heard, TerminalState.after, List.foldl_append, List.foldl_append]
    exact ih.apply op

end Ork3.Terminal
