import Ork3.Proofs.HeardReports

/-!
# The metadata shown for a terminal

The presentation resolves every field over the entries of all sources, the expiry schedule and the
pruning go over the same entries on their own. All three agree with what the sources were heard to
say.
-/

namespace Ork3.Terminal

open Ork3.Library TerminalState

/-! ### Who is shown -/

/-- The guards of a source match the agent in charge and its deadline has not passed. -/
def Applies (s : TerminalState) (now : Instant) (reports : Episode) : Prop :=
  s.metadataGuardsMatch reports.agentLabel reports.appliesToSource = true ∧ reports.Unexpired now

/-- A source that applies set the field to `v` at `t` and has neither set nor cleared it since. -/
def Candidate (h : String → Heard) (s : TerminalState) (now : Instant)
    (sets : AgentMetadataReport → Option String) (clears : AgentMetadataReport → Bool) (v : String)
    (t : Instant) : Prop :=
  ∃ source newer report older, (h source).reports = newer ++ (report, t) :: older ∧
    sets report = some v ∧ (∀ x ∈ newer, sets x.1 = none ∧ clears x.1 = false) ∧
    Applies s now (h source).reports

/-- Every field shows a newest candidate. -/
structure ShowsNewest (h : String → Heard) (s : TerminalState) (now : Instant)
    (presentation : EffectivePresentation) : Prop where
  title : Newest (Candidate h s now (·.title) (·.clearTitle)) presentation.title
  displayAgent :
    Newest (Candidate h s now (·.displayAgent) (·.clearDisplayAgent)) presentation.displayAgent
  stateLabels : ∀ state,
    Newest (Candidate h s now (·.stateLabels.lookup state) (·.clearStateLabels))
      (presentation.stateLabels.lookup state)

/-! ### The entries that are resolved -/

section
variable {h : String → Heard} {s : TerminalState}

lemma exists_lookup_of_mem_values {κ υ : Type*} [DecidableEq κ] {t : Table κ υ} {v : υ}
    (hv : v ∈ t.values) : ∃ k, t.lookup k = some v := by
  obtain ⟨⟨k, v'⟩, hmem, rfl⟩ := List.mem_map.mp hv
  exact ⟨k, AList.mem_lookup_iff.mpr hmem⟩

lemma Records.guardsMatch (hs : Records h s) {source : String} {m : AgentMetadata}
    (hm : s.agentMetadata.lookup source = some m) :
    s.agentMetadataMatchesGuards m =
      s.metadataGuardsMatch (h source).reports.agentLabel (h source).reports.appliesToSource := by
  have hd := (hs source).describes m hm
  rw [agentMetadataMatchesGuards, hd.agentLabel, hd.appliesToSource]

/-- Without the enforcement of deadlines, no entry may be past its own. -/
def DeadlinesKept (s : TerminalState) (now : Instant) (enforceTtl : Bool) : Prop :=
  enforceTtl = true ∨ ∀ source m, s.agentMetadata.lookup source = some m →
    agentMetadataIsExpired m now = false

lemma Records.mem_validAgentMetadata (hs : Records h s) {now : Instant} {enforceTtl : Bool}
    (hkept : DeadlinesKept s now enforceTtl) {m : AgentMetadata} :
    m ∈ s.validAgentMetadata now enforceTtl ↔
      m.hasFields = true ∧
        ∃ source, s.agentMetadata.lookup source = some m ∧ Applies s now (h source).reports := by
  rw [validAgentMetadata, List.mem_filter, agentMetadataIsValid]
  constructor
  · rintro ⟨hmem, hvalid⟩
    obtain ⟨source, hm⟩ := exists_lookup_of_mem_values hmem
    have hd := (hs source).describes m hm
    split_ifs at hvalid with hfields hexpired
    refine ⟨by simpa using hfields, source, hm, hs.guardsMatch hm ▸ hvalid, ?_⟩
    by_contra hnot
    have hm' := (hd.expired_iff now).mpr hnot
    rcases hkept with htrue | hnone
    · exact hexpired (by rw [htrue, hm']; rfl)
    · exact Bool.false_ne_true ((hnone source m hm).symm.trans hm')
  · rintro ⟨hfields, source, hm, hguards, hunexpired⟩
    have hd := (hs source).describes m hm
    have hlive : agentMetadataIsExpired m now = false :=
      Bool.eq_false_iff.mpr fun hexpired => (hd.expired_iff now).mp hexpired hunexpired
    refine ⟨Table.mem_values hm, ?_⟩
    rw [hfields, hlive, Bool.and_false]
    simpa [hs.guardsMatch hm] using hguards

/-- A field of an entry that says what the reports said. -/
structure FieldOf (value : AgentMetadata → Option String) (time : AgentMetadata → Option Instant)
    (sets : AgentMetadataReport → Option String) (clears : AgentMetadataReport → Bool) : Prop where
  value_eq : ∀ reports m, Describes reports m → value m = (stated sets clears reports).map (·.1)
  time_eq : ∀ reports m, Describes reports m → time m = (stated sets clears reports).map (·.2)
  hasFields : ∀ m, (value m).isSome = true → m.hasFields = true

lemma fieldOf_title : FieldOf (·.title) (·.titleReportedAt) (·.title) (·.clearTitle) where
  value_eq _ _ hd := hd.title
  time_eq _ _ hd := hd.titleReportedAt
  hasFields m hm := by simp [AgentMetadata.hasFields, hm]

lemma fieldOf_displayAgent :
    FieldOf (·.displayAgent) (·.displayAgentReportedAt) (·.displayAgent) (·.clearDisplayAgent) where
  value_eq _ _ hd := hd.displayAgent
  time_eq _ _ hd := hd.displayAgentReportedAt
  hasFields m hm := by simp [AgentMetadata.hasFields, hm]

lemma fieldOf_stateLabel (state : String) :
    FieldOf (·.stateLabels.lookup state) (·.stateLabelReportedAt.lookup state)
      (·.stateLabels.lookup state) (·.clearStateLabels) where
  value_eq _ _ hd := hd.stateLabels state
  time_eq _ _ hd := hd.stateLabelReportedAt state
  hasFields m hm := by
    have hmem : state ∈ m.stateLabels := AList.lookup_isSome.mp hm
    have hne : m.stateLabels.entries ≠ [] := by
      intro hnil
      rw [AList.mem_keys, AList.keys, hnil] at hmem
      exact List.not_mem_nil hmem
    simp [AgentMetadata.hasFields, hne]

variable {value : AgentMetadata → Option String} {time : AgentMetadata → Option Instant}
  {sets : AgentMetadataReport → Option String} {clears : AgentMetadataReport → Bool}

/-- The resolved entries with the field are the candidates for it. -/
lemma FieldOf.candidate_iff (hf : FieldOf value time sets clears) (hs : Records h s)
    {now : Instant} {enforceTtl : Bool} (hkept : DeadlinesKept s now enforceTtl) (v : String)
    (t : Instant) :
    (∃ m ∈ s.validAgentMetadata now enforceTtl, value m = some v ∧ time m = some t) ↔
      Candidate h s now sets clears v t := by
  constructor
  · rintro ⟨m, hm, hvalue, htime⟩
    obtain ⟨-, source, hlookup, happlies⟩ := (hs.mem_validAgentMetadata hkept).mp hm
    have hd := (hs source).describes m hlookup
    rw [hf.value_eq _ _ hd] at hvalue
    rw [hf.time_eq _ _ hd] at htime
    have hstated : stated sets clears (h source).reports = some (v, t) := by
      cases hst : stated sets clears (h source).reports with
      | none => simp [hst] at hvalue
      | some e =>
        rw [hst, Option.map_some, Option.some.injEq] at hvalue htime
        rw [← hvalue, ← htime]
    obtain ⟨newer, report, older, hreports, hset, hnewer⟩ := stated_eq_some.mp hstated
    exact ⟨source, newer, report, older, hreports, hset, hnewer, happlies⟩
  · rintro ⟨source, newer, report, older, hreports, hset, hnewer, happlies⟩
    have hstated : stated sets clears (h source).reports = some (v, t) :=
      stated_eq_some.mpr ⟨newer, report, older, hreports, hset, hnewer⟩
    cases hlookup : s.agentMetadata.lookup source with
    | none =>
      rw [(hs source).silent hlookup] at hstated
      cases hstated
    | some m =>
      have hd := (hs source).describes m hlookup
      have hvalue : value m = some v := by rw [hf.value_eq _ _ hd, hstated, Option.map_some]
      have htime : time m = some t := by rw [hf.time_eq _ _ hd, hstated, Option.map_some]
      have hfields := hf.hasFields m (by rw [hvalue, Option.isSome_some])
      exact ⟨m, (hs.mem_validAgentMetadata hkept).mpr ⟨hfields, source, hlookup, happlies⟩,
        hvalue, htime⟩

/-! ### The newest entry -/

/-- `max_by_key` over the entries with the field takes a newest one. -/
lemma newest_maxByReportedAt (entries : List AgentMetadata)
    (hsome : ∀ m ∈ entries, (value m).isSome = (time m).isSome) :
    Newest (fun v t => ∃ m ∈ entries, value m = some v ∧ time m = some t)
      ((maxByReportedAt time (entries.filter fun m => (value m).isSome)).bind value) := by
  have hmem (m : AgentMetadata) :
      m ∈ (entries.filter fun m => (value m).isSome).reverse ↔
        m ∈ entries ∧ (value m).isSome = true := by
    rw [List.mem_reverse, List.mem_filter]
  cases hmax : maxByReportedAt time (entries.filter fun m => (value m).isSome) with
  | none =>
    rintro v t ⟨m, hm, hvalue, -⟩
    have hnil := List.argmax_eq_none.mp hmax
    have hm' := (hmem m).mpr ⟨hm, by rw [hvalue, Option.isSome_some]⟩
    rw [hnil] at hm'
    cases hm'
  | some m =>
    obtain ⟨hm, hvalue⟩ := (hmem m).mp (List.argmax_mem hmax)
    obtain ⟨v, hv⟩ := Option.isSome_iff_exists.mp hvalue
    obtain ⟨t, ht⟩ := Option.isSome_iff_exists.mp (hsome m hm ▸ hvalue)
    rw [Option.bind_some, hv]
    refine ⟨t, ⟨m, hm, hv, ht⟩, ?_⟩
    rintro w u ⟨m', hm', hw, hu⟩
    have hm'mem := (hmem m').mpr ⟨hm', by rw [hw, Option.isSome_some]⟩
    have hle := List.le_of_mem_argmax hm'mem hmax
    rw [hu, ht] at hle
    exact Nat.le_of_succ_le_succ hle

lemma FieldOf.newest (hf : FieldOf value time sets clears) (hs : Records h s) {now : Instant}
    {enforceTtl : Bool} (hkept : DeadlinesKept s now enforceTtl) :
    Newest (Candidate h s now sets clears)
      ((maxByReportedAt time
        ((s.validAgentMetadata now enforceTtl).filter fun m => (value m).isSome)).bind value) := by
  refine (newest_maxByReportedAt _ fun m hm => ?_).congr (hf.candidate_iff hs hkept)
  obtain ⟨-, source, hlookup, -⟩ := (hs.mem_validAgentMetadata hkept).mp hm
  have hd := (hs source).describes m hlookup
  rw [hf.value_eq _ _ hd, hf.time_eq _ _ hd, Option.isSome_map, Option.isSome_map]

lemma newest_stateLabel (hs : Records h s) {now : Instant} {enforceTtl : Bool}
    (hkept : DeadlinesKept s now enforceTtl) (state : String) :
    Newest (Candidate h s now (·.stateLabels.lookup state) (·.clearStateLabels))
      ((s.effectiveMetadataStateLabels now enforceTtl).lookup state) := by
  refine (Table.newest_collect_sorted _ state).congr fun v t =>
    Iff.trans ?_ ((fieldOf_stateLabel state).candidate_iff hs hkept v t)
  rw [List.mem_flatMap]
  refine exists_congr fun m => and_congr_right fun _ => ?_
  rw [List.mem_filterMap]
  constructor
  · rintro ⟨⟨key, label⟩, hmem, heq⟩
    obtain ⟨reportedAt, htime, heq⟩ := Option.map_eq_some_iff.mp heq
    cases heq
    exact ⟨AList.mem_lookup_iff.mpr hmem, htime⟩
  · rintro ⟨hvalue, htime⟩
    refine ⟨⟨state, v⟩, AList.mem_lookup_iff.mp hvalue, ?_⟩
    rw [htime, Option.map_some]

lemma showsNewest (hs : Records h s) {now : Instant} {enforceTtl : Bool}
    (hkept : DeadlinesKept s now enforceTtl) :
    ShowsNewest h s now
      (s.effectivePresentationForStateAtWithTtl s.state now enforceTtl) where
  title := fieldOf_title.newest hs hkept
  displayAgent := fieldOf_displayAgent.newest hs hkept
  stateLabels state := newest_stateLabel hs hkept state

/-! ### After an expiry -/

lemma Episode.unexpired_leftAt (reports : Episode) (now : Instant) :
    (reports.leftAt now).Unexpired now := by
  unfold Episode.leftAt
  split
  · assumption
  · exact nofun

lemma Records.deadlinesKept_expire (hs : Records h s) (scheduledDeadline now : Instant) :
    DeadlinesKept (s.expireAgentMetadataAt scheduledDeadline now).1 now false := by
  refine Or.inr fun source m hm => ?_
  have hd := (hs.expire scheduledDeadline now source).describes m hm
  exact Bool.eq_false_iff.mpr fun hexpired =>
    (hd.expired_iff now).mp hexpired ((h source).reports.unexpired_leftAt now)

/-- Forgetting what has ended changes no candidate. -/
lemma candidate_hear_expire {t : TerminalState} (scheduledDeadline now : Instant) (v : String)
    (reportedAt : Instant) :
    Candidate (hear h (.expireAgentMetadataAt scheduledDeadline now)) t now sets clears v
        reportedAt ↔
      Candidate h t now sets clears v reportedAt := by
  have hleft (source : String) (hunexpired : (h source).reports.Unexpired now) :
      (hear h (.expireAgentMetadataAt scheduledDeadline now) source).reports =
        (h source).reports := if_pos hunexpired
  constructor
  · rintro ⟨source, newer, report, older, hreports, hset, hnewer, happlies⟩
    by_cases hunexpired : (h source).reports.Unexpired now
    · rw [hleft source hunexpired] at hreports happlies
      exact ⟨source, newer, report, older, hreports, hset, hnewer, happlies⟩
    · have hnil : (hear h (.expireAgentMetadataAt scheduledDeadline now) source).reports = [] :=
        if_neg hunexpired
      rw [hnil] at hreports
      simp at hreports
  · rintro ⟨source, newer, report, older, hreports, hset, hnewer, happlies⟩
    have heq := hleft source happlies.2
    exact ⟨source, newer, report, older, heq.trans hreports, hset, hnewer, heq.symm ▸ happlies⟩

lemma Records.showsNewest_expire (hs : Records h s) (scheduledDeadline now : Instant) :
    let t := (s.expireAgentMetadataAt scheduledDeadline now).1
    ShowsNewest h t now (t.effectivePresentationForStateAtIgnoringTtl t.state now) := by
  have hshown := showsNewest (hs.expire scheduledDeadline now)
    (hs.deadlinesKept_expire scheduledDeadline now)
  exact ⟨hshown.title.congr (candidate_hear_expire scheduledDeadline now),
    hshown.displayAgent.congr (candidate_hear_expire scheduledDeadline now),
    fun state => (hshown.stateLabels state).congr (candidate_hear_expire scheduledDeadline now)⟩

/-! ### The schedule -/

lemma exists_min?_le {l : List Nat} {n : Nat} (hn : n ∈ l) : ∃ m, l.min? = some m ∧ m ≤ n := by
  obtain ⟨m, hm⟩ := Option.isSome_iff_exists.mp (List.isSome_min?_of_mem hn)
  exact ⟨m, hm, (List.min?_eq_some_iff.mp hm).2 n hn⟩

lemma Records.exists_nextAgentMetadataExpiry (hs : Records h s) {now : Instant} {source : String}
    {deadline : Instant} (happlies : Applies s now (h source).reports)
    (hdeadline : (h source).reports.deadline = some deadline) :
    ∃ next, s.nextAgentMetadataExpiry now = some next ∧ next ≤ deadline := by
  refine exists_min?_le ?_
  cases hlookup : s.agentMetadata.lookup source with
  | none =>
    rw [(hs source).silent hlookup] at hdeadline
    cases hdeadline
  | some m =>
    have hd := (hs source).describes m hlookup
    have hexpiry := hd.deadline.trans hdeadline
    have hguards := (hs.guardsMatch hlookup).trans happlies.1
    have hlive := happlies.2 deadline hdeadline
    refine List.mem_filter.mpr ⟨List.mem_filterMap.mpr ⟨m, ?_, hexpiry⟩, ?_⟩
    · exact List.mem_filter.mpr ⟨Table.mem_values hlookup, hguards⟩
    · rw [decide_eq_true hlive, Bool.true_or]

end

/-! ### Runs -/

/-- A report that sets and clears nothing. -/
def silentReport (source : String) : AgentMetadataReport where
  source := source
  agentLabel := none
  appliesToSource := none
  title := none
  displayAgent := none
  stateLabels := ∅
  clearTitle := false
  clearDisplayAgent := false
  clearStateLabels := false
  ttl := none
  seq := none

/-- After any operations on a new terminal, with any arguments and clock readings: every field shown
at `now` is a newest one among the sources that apply; after an expiry at `now` this holds even of
the presentation that ignores deadlines; and the next expiry is no later than the deadline of any
source that applies. -/
theorem metadata_shown_after (ops : List TerminalOp) (scheduledDeadline now : Instant) :
    let s := TerminalState.after ops
    let t := (s.expireAgentMetadataAt scheduledDeadline now).1
    ShowsNewest (heard ops) s now (s.effectivePresentation now) ∧
      ShowsNewest (heard ops) t now (t.effectivePresentationForStateAtIgnoringTtl t.state now) ∧
      ∀ source deadline, Applies s now (heard ops source).reports →
        (heard ops source).reports.deadline = some deadline →
          ∃ next, s.nextAgentMetadataExpiry now = some next ∧ next ≤ deadline := by
  have hs := records_after ops
  exact ⟨showsNewest hs (Or.inl rfl), hs.showsNewest_expire scheduledDeadline now,
    fun _ _ => hs.exists_nextAgentMetadataExpiry⟩

/-- A source has one entry with one deadline. A report that clears nothing drops the title set
before it; one that clears the labels and sets another field lifts the deadline of the title; and an
entry hidden by its guards is not scheduled to expire. -/
theorem one_entry_for_a_source :
    ((TerminalState.after [
        .setAgentMetadata { silentReport "a" with title := some "one" } 0,
        .setAgentMetadata { silentReport "a" with displayAgent := some "two" } 1]
      ).effectivePresentation 2).title = none ∧
    (((TerminalState.after [
        .setAgentMetadata { silentReport "a" with
          title := some "one"
          ttl := some 5 } 0,
        .setAgentMetadata { silentReport "a" with
          displayAgent := some "two"
          clearStateLabels := true } 3]
      ).expireAgentMetadataAt 5 10).1.effectivePresentation 10).title = some "one" ∧
    let s := TerminalState.after [
        .setAgentMetadata { silentReport "a" with
          agentLabel := some "claude"
          title := some "one"
          ttl := some 10 } 0]
    (s.agentMetadata.lookup "a").bind agentMetadataExpiry = some 10 ∧
      s.nextAgentMetadataExpiry 1 = none := by
  decide +kernel

end Ork3.Terminal
