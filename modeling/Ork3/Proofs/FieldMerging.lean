import Ork3.Library.Ranked
import Ork3.Proofs.CandidateWrites
import Ork3.Proofs.DirectoryAssignment

/-!
# Merging the candidates of one session

A field of a session is the highest-ranked one among those its candidates bring, its activity and
its weight are bounds of theirs. The title starts from the candidate that comes first, which may
have none and then ranks its generated title by its own time.
-/

namespace Ork3.Projects

open Ork3.Library

/-! ### Ranks -/

/-- Later fields replace earlier ones, then those of a higher priority, then those of a lesser
source. -/
abbrev FieldRank := Int ×ₗ Int ×ₗ Stringᵒᵈ

def fieldRank (observedAt priority : Int) (sourceKey : String) : FieldRank :=
  toLex (observedAt, toLex (priority, OrderDual.toDual sourceKey))

def CandidateField.rank {α : Type} (field : CandidateField α) : FieldRank :=
  fieldRank field.observedAt field.priority.asI64 field.sourceKey

lemma fieldRank_le_iff {o p o' p' : Int} {k k' : String} :
    fieldRank o p k ≤ fieldRank o' p' k' ↔ o < o' ∨ o = o' ∧ (p < p' ∨ p = p' ∧ k' ≤ k) := by
  unfold fieldRank
  rw [Prod.Lex.toLex_le_toLex, Prod.Lex.toLex_le_toLex, OrderDual.toDual_le_toDual]

lemma SourcePriority.asI64_pos (priority : SourcePriority) : 0 < priority.asI64 := by
  cases priority
  · decide
  · decide
  · decide

section
variable {α : Type} {field field' : CandidateField α}

lemma CandidateField.rank_inj (h : field.rank = field'.rank) :
    field.observedAt = field'.observedAt ∧ field.priority = field'.priority ∧
      field.sourceKey = field'.sourceKey := by
  unfold rank fieldRank at h
  obtain ⟨hobserved, hrest⟩ := Prod.mk.inj (toLex_inj.mp h)
  obtain ⟨hpriority, hsource⟩ := Prod.mk.inj (toLex_inj.mp hrest)
  refine ⟨hobserved, ?_, OrderDual.toDual_inj.mp hsource⟩
  cases hf : field.priority <;> cases hf' : field'.priority <;>
    simp_all [SourcePriority.asI64]

/-- A field replaces the stored one exactly if it ranks at least as high. -/
lemma replacesField_iff {o p : Option Int} {k : Option String} :
    ProjectCatalog.replacesField field o p k ↔
      fieldRank (o.getD (-1)) (p.getD (-1)) (k.getD "") ≤ field.rank := by
  unfold ProjectCatalog.replacesField CandidateField.outranks CandidateField.rank
  rw [fieldRank_le_iff]
  simp only [gt_iff_lt, Bool.or_eq_true, Bool.and_eq_true, decide_eq_true_eq]
  constructor
  · rintro ((hlt | ⟨heq, hlt | ⟨hpeq, hk⟩⟩) | ⟨⟨heq, hpeq⟩, hk⟩)
    · exact .inl hlt
    · exact .inr ⟨heq.symm, .inl hlt⟩
    · exact .inr ⟨heq.symm, .inr ⟨hpeq.symm, hk.le⟩⟩
    · exact .inr ⟨heq.symm, .inr ⟨hpeq.symm, hk.le⟩⟩
  · rintro (hlt | ⟨heq, hlt | ⟨hpeq, hk⟩⟩)
    · exact .inl (.inl hlt)
    · exact .inl (.inr ⟨heq.symm, .inl hlt⟩)
    · rcases hk.lt_or_eq with hlt | hkeq
      · exact .inl (.inr ⟨heq.symm, .inr ⟨hpeq.symm, hlt⟩⟩)
      · exact .inr ⟨⟨heq.symm, hpeq.symm⟩, hkeq⟩

end

/-! ### The ranked fields of a row -/

section
variable (row : SessionRow) (candidate : SessionCandidate)

def SessionRow.rankedTitle : FieldRank × String :=
  (fieldRank row.titleObservedAt row.titlePriority row.titleSourceKey, row.title)

def SessionRow.rankedCwd : FieldRank × Option String :=
  (fieldRank (row.cwdObservedAt.getD (-1)) (row.cwdPriority.getD (-1))
    (row.cwdSourceKey.getD ""), row.cwd)

def SessionRow.rankedTranscriptRef : FieldRank × Option String :=
  (fieldRank (row.transcriptObservedAt.getD (-1)) (row.transcriptPriority.getD (-1))
    (row.transcriptSourceKey.getD ""), row.transcriptRef)

/-- The columns of a row that are bounds over its candidates. -/
def SessionRow.bounds : Int × Int × Int × Int × Bool :=
  (row.firstActivityAt, row.lastActivityAt, row.userTurns, row.userChars, row.userWeightKnown)

end

namespace ProjectCatalog

section
variable (row : SessionRow) (candidate : SessionCandidate)

lemma updateTitle_ranked (field : CandidateField String) :
    (updateTitle field row).rankedTitle =
        keepBest Prod.fst row.rankedTitle (field.rank, field.value) ∧
      (updateTitle field row).rankedCwd = row.rankedCwd ∧
      (updateTitle field row).rankedTranscriptRef = row.rankedTranscriptRef ∧
      (updateTitle field row).bounds = row.bounds := by
  unfold updateTitle keepBest
  by_cases h : replacesField field (some row.titleObservedAt) (some row.titlePriority)
      (some row.titleSourceKey)
  · rw [if_pos h]
    exact ⟨(if_pos (replacesField_iff.mp h)).symm, rfl, rfl, rfl⟩
  · rw [if_neg h]
    exact ⟨(if_neg (mt replacesField_iff.mpr h)).symm, rfl, rfl, rfl⟩

lemma updateCwd_ranked (field : CandidateField PathBuf) :
    (updateCwd field row).rankedTitle = row.rankedTitle ∧
      (updateCwd field row).rankedCwd =
        keepBest Prod.fst row.rankedCwd (field.rank, some field.value.toStringLossy) ∧
      (updateCwd field row).rankedTranscriptRef = row.rankedTranscriptRef ∧
      (updateCwd field row).bounds = row.bounds := by
  unfold updateCwd keepBest
  by_cases h : replacesField field row.cwdObservedAt row.cwdPriority row.cwdSourceKey
  · rw [if_pos h]
    exact ⟨rfl, (if_pos (replacesField_iff.mp h)).symm, rfl, rfl⟩
  · rw [if_neg h]
    exact ⟨rfl, (if_neg (mt replacesField_iff.mpr h)).symm, rfl, rfl⟩

lemma updateTranscriptRef_ranked (field : CandidateField String) :
    (updateTranscriptRef field row).rankedTitle = row.rankedTitle ∧
      (updateTranscriptRef field row).rankedCwd = row.rankedCwd ∧
      (updateTranscriptRef field row).rankedTranscriptRef =
        keepBest Prod.fst row.rankedTranscriptRef (field.rank, some field.value) ∧
      (updateTranscriptRef field row).bounds = row.bounds := by
  unfold updateTranscriptRef keepBest
  by_cases h : replacesField field row.transcriptObservedAt row.transcriptPriority
      row.transcriptSourceKey
  · rw [if_pos h]
    exact ⟨rfl, rfl, (if_pos (replacesField_iff.mp h)).symm, rfl⟩
  · rw [if_neg h]
    exact ⟨rfl, rfl, (if_neg (mt replacesField_iff.mpr h)).symm, rfl⟩

/-- The row a candidate starts from. -/
def startingRow (existing : Option SessionRow) (candidate : SessionCandidate) : SessionRow :=
  existing.elim (insertedSession candidate) fun row => mergedSession row candidate

lemma upsertedSession_ranked (existing : Option SessionRow) :
    (upsertedSession existing candidate).rankedTitle =
        candidate.title.elim (startingRow existing candidate).rankedTitle (fun field =>
          keepBest Prod.fst (startingRow existing candidate).rankedTitle
            (field.rank, field.value)) ∧
      (upsertedSession existing candidate).rankedCwd =
        candidate.cwd.elim (startingRow existing candidate).rankedCwd (fun field =>
          keepBest Prod.fst (startingRow existing candidate).rankedCwd
            (field.rank, some field.value.toStringLossy)) ∧
      (upsertedSession existing candidate).rankedTranscriptRef =
        candidate.transcriptRef.elim (startingRow existing candidate).rankedTranscriptRef
          (fun field => keepBest Prod.fst (startingRow existing candidate).rankedTranscriptRef
            (field.rank, some field.value)) ∧
      (upsertedSession existing candidate).bounds = (startingRow existing candidate).bounds := by
  have hrow : upsertedSession existing candidate =
      let row := candidate.title.elim (startingRow existing candidate)
        fun field => updateTitle field (startingRow existing candidate)
      let row := candidate.cwd.elim row fun field => updateCwd field row
      candidate.transcriptRef.elim row fun field => updateTranscriptRef field row := rfl
  rw [hrow]
  generalize startingRow existing candidate = row
  dsimp only
  obtain ⟨title₁, cwd₁, ref₁, bounds₁⟩ :
      (candidate.title.elim row fun field => updateTitle field row).rankedTitle =
          candidate.title.elim row.rankedTitle (fun field =>
            keepBest Prod.fst row.rankedTitle (field.rank, field.value)) ∧
        (candidate.title.elim row fun field => updateTitle field row).rankedCwd = row.rankedCwd ∧
        (candidate.title.elim row fun field => updateTitle field row).rankedTranscriptRef =
          row.rankedTranscriptRef ∧
        (candidate.title.elim row fun field => updateTitle field row).bounds = row.bounds := by
    cases candidate.title with
    | none => exact ⟨rfl, rfl, rfl, rfl⟩
    | some field => exact updateTitle_ranked row field
  rw [← title₁, ← cwd₁, ← ref₁, ← bounds₁]
  generalize (candidate.title.elim row fun field => updateTitle field row) = row₁
  obtain ⟨title₂, cwd₂, ref₂, bounds₂⟩ :
      (candidate.cwd.elim row₁ fun field => updateCwd field row₁).rankedTitle = row₁.rankedTitle ∧
        (candidate.cwd.elim row₁ fun field => updateCwd field row₁).rankedCwd =
          candidate.cwd.elim row₁.rankedCwd (fun field =>
            keepBest Prod.fst row₁.rankedCwd (field.rank, some field.value.toStringLossy)) ∧
        (candidate.cwd.elim row₁ fun field => updateCwd field row₁).rankedTranscriptRef =
          row₁.rankedTranscriptRef ∧
        (candidate.cwd.elim row₁ fun field => updateCwd field row₁).bounds = row₁.bounds := by
    cases candidate.cwd with
    | none => exact ⟨rfl, rfl, rfl, rfl⟩
    | some field => exact updateCwd_ranked row₁ field
  rw [← title₂, ← cwd₂, ← ref₂, ← bounds₂]
  generalize (candidate.cwd.elim row₁ fun field => updateCwd field row₁) = row₂
  cases candidate.transcriptRef with
  | none => exact ⟨rfl, rfl, rfl, rfl⟩
  | some field => exact updateTranscriptRef_ranked row₂ field

end

/-! ### The candidates of a row -/

/-- What a candidate offers for a field. -/
def offer {γ δ : Type} (field : Option (CandidateField γ)) (value : γ → δ) : Set (FieldRank × δ) :=
  {e | ∃ f, field = some f ∧ e = (f.rank, value f.value)}

lemma isBest_offer {γ δ : Type} {s : Set (FieldRank × δ)} {held : FieldRank × δ}
    (h : IsBest Prod.fst s held) (field : Option (CandidateField γ)) (value : γ → δ) :
    IsBest Prod.fst (offer field value ∪ s)
      (field.elim held fun f => keepBest Prod.fst held (f.rank, value f.value)) := by
  cases field with
  | none =>
    have hoffer : offer (none : Option (CandidateField γ)) value = ∅ := by
      ext e
      simp [offer]
    rw [hoffer, Set.empty_union]
    exact h
  | some f =>
    have hoffer : offer (some f) value = {(f.rank, value f.value)} := by
      ext e
      simp [offer]
    rw [hoffer, Set.singleton_union]
    exact h.keepBest _

/-- The row of a session whose candidates are `cs`, the first of which was `first`. -/
structure Merged (first : SessionCandidate) (cs : Set SessionCandidate) (row : SessionRow) :
    Prop where
  title : IsBest Prod.fst ((⋃ c ∈ cs, offer c.title id) ∪ {(insertedSession first).rankedTitle})
    row.rankedTitle
  cwd : IsBest Prod.fst ((⋃ c ∈ cs, offer c.cwd fun path => some path.toStringLossy) ∪
    {(fieldRank (-1) (-1) "", none)}) row.rankedCwd
  transcriptRef : IsBest Prod.fst ((⋃ c ∈ cs, offer c.transcriptRef some) ∪
    {(fieldRank (-1) (-1) "", none)}) row.rankedTranscriptRef
  firstActivityAt : IsLeast ((fun c => c.firstActivityAt) '' cs) row.firstActivityAt
  lastActivityAt : IsGreatest ((fun c => c.lastActivityAt) '' cs) row.lastActivityAt
  userTurns : IsGreatest ((fun c => asI64 c.weight.turns) '' cs) row.userTurns
  userChars : IsGreatest ((fun c => asI64 c.weight.chars) '' cs) row.userChars
  userWeightKnown : row.userWeightKnown = true ↔ ∃ c ∈ cs, c.weight.known = true

lemma bounds_eq_iff {row row' : SessionRow} : row.bounds = row'.bounds ↔
    row.firstActivityAt = row'.firstActivityAt ∧ row.lastActivityAt = row'.lastActivityAt ∧
      row.userTurns = row'.userTurns ∧ row.userChars = row'.userChars ∧
      row.userWeightKnown = row'.userWeightKnown := by
  simp [SessionRow.bounds]

lemma merged_first (first : SessionCandidate) :
    Merged first {first} (upsertedSession none first) := by
  obtain ⟨htitle, hcwd, href, hbounds⟩ := upsertedSession_ranked first none
  obtain ⟨hfirst, hlast, hturns, hchars, hknown⟩ := bounds_eq_iff.mp hbounds
  refine ⟨?_, ?_, ?_, ?_, ?_, ?_, ?_, ?_⟩
  · rw [htitle, Set.biUnion_singleton]
    exact isBest_offer (isBest_singleton _) first.title id
  · have hstart : (startingRow none first).rankedCwd = (fieldRank (-1) (-1) "", none) := by
      simp only [startingRow, Option.elim_none, insertedSession, SessionRow.rankedCwd,
        Option.getD_none]
    rw [hcwd, hstart, Set.biUnion_singleton]
    exact isBest_offer (isBest_singleton _) first.cwd _
  · have hstart : (startingRow none first).rankedTranscriptRef =
        (fieldRank (-1) (-1) "", none) := by
      simp only [startingRow, Option.elim_none, insertedSession, SessionRow.rankedTranscriptRef,
        Option.getD_none]
    rw [href, hstart, Set.biUnion_singleton]
    exact isBest_offer (isBest_singleton _) first.transcriptRef some
  · rw [hfirst, Set.image_singleton]
    exact isLeast_singleton
  · rw [hlast, Set.image_singleton]
    exact isGreatest_singleton
  · rw [hturns, Set.image_singleton]
    simp only [startingRow, Option.elim_none, insertedSession]
    exact isGreatest_singleton
  · rw [hchars, Set.image_singleton]
    simp only [startingRow, Option.elim_none, insertedSession]
    exact isGreatest_singleton
  · rw [hknown]
    simp [startingRow, insertedSession]

lemma Merged.upsert {first : SessionCandidate} {cs : Set SessionCandidate} {row : SessionRow}
    (h : Merged first cs row) (c : SessionCandidate) :
    Merged first (insert c cs) (upsertedSession (some row) c) := by
  obtain ⟨htitle, hcwd, href, hbounds⟩ := upsertedSession_ranked c (some row)
  obtain ⟨hfirst, hlast, hturns, hchars, hknown⟩ := bounds_eq_iff.mp hbounds
  refine ⟨?_, ?_, ?_, ?_, ?_, ?_, ?_, ?_⟩
  · rw [htitle, Set.biUnion_insert, Set.union_assoc]
    exact isBest_offer h.title c.title id
  · rw [hcwd, Set.biUnion_insert, Set.union_assoc]
    exact isBest_offer h.cwd c.cwd _
  · rw [href, Set.biUnion_insert, Set.union_assoc]
    exact isBest_offer h.transcriptRef c.transcriptRef some
  · rw [hfirst, Set.image_insert_eq]
    have hbound := h.firstActivityAt.insert c.firstActivityAt
    rw [min_comm] at hbound
    exact hbound
  · rw [hlast, Set.image_insert_eq]
    have hbound := h.lastActivityAt.insert c.lastActivityAt
    rw [max_comm] at hbound
    exact hbound
  · rw [hturns, Set.image_insert_eq]
    have hbound := h.userTurns.insert (asI64 c.weight.turns)
    rw [max_comm] at hbound
    exact hbound
  · rw [hchars, Set.image_insert_eq]
    have hbound := h.userChars.insert (asI64 c.weight.chars)
    rw [max_comm] at hbound
    exact hbound
  · rw [hknown]
    have hk := h.userWeightKnown
    simp only [startingRow, mergedSession, Option.elim_some, Bool.or_eq_true, hk,
      Set.mem_insert_iff, exists_eq_or_imp]
    exact or_comm

/-- The row of a session after its candidates, taken in this order. -/
def mergedRow (cs : List SessionCandidate) : Option SessionRow :=
  cs.foldl (fun row c => some (upsertedSession row c)) none

lemma merged_foldl {first : SessionCandidate} {cs : Set SessionCandidate} {row : SessionRow}
    (h : Merged first cs row) (l : List SessionCandidate) :
    ∃ row', l.foldl (fun row c => some (upsertedSession row c)) (some row) = some row' ∧
      Merged first (cs ∪ {c | c ∈ l}) row' := by
  induction l generalizing cs row with
  | nil => exact ⟨row, rfl, by simpa using h⟩
  | cons c l ih =>
    obtain ⟨row', hrow', hmerged⟩ := ih (h.upsert c)
    refine ⟨row', hrow', ?_⟩
    convert hmerged using 1
    ext x
    simp [or_assoc, or_comm, or_left_comm]

/-- The candidates of a session merge into its row, whatever their order. -/
lemma merged_mergedRow (first : SessionCandidate) (l : List SessionCandidate) :
    ∃ row, mergedRow (first :: l) = some row ∧ Merged first {c | c ∈ first :: l} row := by
  obtain ⟨row, hrow, hmerged⟩ := merged_foldl (merged_first first) l
  refine ⟨row, hrow, ?_⟩
  convert hmerged using 1
  ext x
  simp

/-! ### Candidates of one session, in any order -/

/-- What is stored for a session from its candidates. -/
structure SessionFields where
  title : String
  cwd : Option String
  transcriptRef : Option String
  firstActivityAt : Int
  lastActivityAt : Int
  userTurns : Int
  userChars : Int
  userWeightKnown : Bool
  deriving DecidableEq

def sessionFields (row : SessionRow) : SessionFields where
  title := row.title
  cwd := row.cwd
  transcriptRef := row.transcriptRef
  firstActivityAt := row.firstActivityAt
  lastActivityAt := row.lastActivityAt
  userTurns := row.userTurns
  userChars := row.userChars
  userWeightKnown := row.userWeightKnown

/-- Fields of one rank have one value. -/
def FieldsAgree {γ : Type} (cs : List SessionCandidate)
    (field : SessionCandidate → Option (CandidateField γ)) : Prop :=
  ∀ c ∈ cs, ∀ c' ∈ cs, ∀ f f', field c = some f → field c' = some f' →
    f.observedAt = f'.observedAt → f.priority = f'.priority → f.sourceKey = f'.sourceKey →
    f.value = f'.value

/-- The candidates of a session. -/
structure OfOneSession (ext : External) (identity : SessionIdentity) (cs : List SessionCandidate) :
    Prop where
  canonical : identity = .fromCanonical ext identity.backend identity.refKind
    identity.canonicalRefValue
  identity_eq : ∀ c ∈ cs, c.identity = identity
  titles_agree : FieldsAgree cs (·.title)
  cwds_agree : FieldsAgree cs (·.cwd)
  transcriptRefs_agree : FieldsAgree cs (·.transcriptRef)

/-- The highest-ranked title among the candidates. -/
def BestTitle (cs : List SessionCandidate) (best : CandidateField String) : Prop :=
  IsBest CandidateField.rank {f | ∃ c ∈ cs, c.title = some f} best

/-- No candidate without a title is later than the highest-ranked title, unless that title reads like
the generated one. -/
def TitlesOutlast (cs : List SessionCandidate) : Prop :=
  ∀ best, BestTitle cs best → ∀ c ∈ cs, c.title = none →
    c.observedAt ≤ best.observedAt ∨ best.value = c.fallbackTitle

section
variable {ext : External} {identity : SessionIdentity} {cs : List SessionCandidate}
  {first : SessionCandidate} {row row' : SessionRow}

/-- The rank of the title a session starts with when its first candidate has none. -/
lemma rankedTitle_untitled {c : SessionCandidate} (hc : c.title = none) :
    (insertedSession c).rankedTitle =
      (fieldRank c.observedAt 0 c.sourceKey, c.fallbackTitle) := by
  simp only [SessionRow.rankedTitle, insertedSession, hc, Option.elim_none]

lemma rankedTitle_titled {c : SessionCandidate} {f : CandidateField String}
    (hc : c.title = some f) : (insertedSession c).rankedTitle = (f.rank, f.value) := by
  simp only [SessionRow.rankedTitle, insertedSession, hc, Option.elim_some, CandidateField.rank,
    SessionCandidate.fallbackTitle]

lemma not_rank_le_untitled {best : CandidateField String} {o : Int} {k : String}
    (ho : o ≤ best.observedAt) : ¬best.rank ≤ fieldRank o 0 k := by
  intro hle
  have hpos := best.priority.asI64_pos
  rcases fieldRank_le_iff.mp hle with hlt | ⟨-, hlt | ⟨heq, -⟩⟩
  · omega
  · omega
  · omega

/-- The stored title is one of the candidates' titles or the generated one of the first. -/
lemma Merged.title_cases (h : Merged first {c | c ∈ cs} row) (hfirst : first ∈ cs) :
    (∃ c ∈ cs, ∃ f, c.title = some f ∧ row.rankedTitle = (f.rank, f.value)) ∨
    (first.title = none ∧
      row.rankedTitle = (fieldRank first.observedAt 0 first.sourceKey, first.fallbackTitle)) := by
  rcases h.title.1 with hmem | hstart
  · obtain ⟨c, hc, f, hf, he⟩ := Set.mem_iUnion₂.mp hmem
    exact .inl ⟨c, hc, f, hf, he⟩
  · have he : row.rankedTitle = (insertedSession first).rankedTitle := hstart
    cases hf : first.title with
    | none => exact .inr ⟨rfl, he.trans (rankedTitle_untitled hf)⟩
    | some f => exact .inl ⟨first, hfirst, f, hf, he.trans (rankedTitle_titled hf)⟩

lemma Merged.rank_title_le (h : Merged first {c | c ∈ cs} row) {c : SessionCandidate}
    {f : CandidateField String} (hc : c ∈ cs) (hf : c.title = some f) :
    f.rank ≤ row.rankedTitle.1 :=
  h.title.2 (f.rank, f.value) (.inl (Set.mem_iUnion₂.mpr ⟨c, hc, f, hf, rfl⟩))

/-- Where titles outlast the candidates without one, the highest-ranked title is stored. -/
lemma Merged.title_eq_best (h : Merged first {c | c ∈ cs} row) (hfirst : first ∈ cs)
    (hagree : FieldsAgree cs (·.title)) (hlate : TitlesOutlast cs) {best : CandidateField String}
    (hbest : BestTitle cs best) : row.title = best.value := by
  obtain ⟨c₀, hc₀, hf₀⟩ := hbest.1
  have hle := h.rank_title_le hc₀ hf₀
  rcases h.title_cases hfirst with ⟨c, hc, f, hf, he⟩ | ⟨hnone, he⟩
  · rw [he] at hle
    obtain ⟨ho, hp, hk⟩ := CandidateField.rank_inj
      (le_antisymm (hbest.2 f ⟨c, hc, hf⟩) hle)
    exact (congrArg Prod.snd he).trans (hagree c hc c₀ hc₀ f best hf hf₀ ho hp hk)
  · rw [he] at hle
    rcases hlate best hbest first hfirst hnone with ho | hsame
    · exact absurd hle (not_rank_le_untitled ho)
    · exact (congrArg Prod.snd he).trans hsame.symm

/-- A first candidate without a title that is later than every title leaves its generated title. -/
lemma Merged.title_eq_fallback (h : Merged first {c | c ∈ cs} row) (hfirst : first ∈ cs)
    (hnone : first.title = none) {best : CandidateField String} (hbest : BestTitle cs best)
    (hlate : best.observedAt < first.observedAt) : row.title = first.fallbackTitle := by
  rcases h.title_cases hfirst with ⟨c, hc, f, hf, he⟩ | ⟨-, he⟩
  · have hstart := h.title.2 _ (.inr rfl)
    rw [rankedTitle_untitled hnone, he] at hstart
    have hle : fieldRank first.observedAt 0 first.sourceKey ≤ best.rank :=
      hstart.trans (hbest.2 f ⟨c, hc, hf⟩)
    rcases fieldRank_le_iff.mp hle with hlt | ⟨heq, -⟩
    · omega
    · omega
  · exact congrArg Prod.snd he

/-- Two rows merged from the same candidates differ at most in their title. -/
lemma Merged.fields_eq {first' : SessionCandidate} (hone : OfOneSession ext identity cs)
    (h : Merged first {c | c ∈ cs} row) (h' : Merged first' {c | c ∈ cs} row')
    (htitle : row.title = row'.title) : sessionFields row = sessionFields row' := by
  have hvalue : ∀ {γ : Type} (field : SessionCandidate → Option (CandidateField γ))
      (value : γ → Option String), FieldsAgree cs field →
      ∀ a ∈ (⋃ c ∈ {c | c ∈ cs}, offer (field c) value) ∪ {(fieldRank (-1) (-1) "", none)},
      ∀ b ∈ (⋃ c ∈ {c | c ∈ cs}, offer (field c) value) ∪ {(fieldRank (-1) (-1) "", none)},
        a.1 = b.1 → a.2 = b.2 := by
    intro γ field value hagree
    have hstart : ∀ f : CandidateField γ, f.rank ≠ fieldRank (-1) (-1) "" := by
      intro f heq
      have hpos := f.priority.asI64_pos
      have hp := (Prod.mk.inj (toLex_inj.mp (Prod.mk.inj (toLex_inj.mp heq)).2)).1
      omega
    rintro a (ha | rfl) b (hb | rfl) heq
    · obtain ⟨c, hc, f, hf, rfl⟩ := Set.mem_iUnion₂.mp ha
      obtain ⟨c', hc', f', hf', rfl⟩ := Set.mem_iUnion₂.mp hb
      obtain ⟨ho, hp, hk⟩ := CandidateField.rank_inj heq
      exact congrArg value (hagree c hc c' hc' f f' hf hf' ho hp hk)
    · obtain ⟨c, -, f, -, rfl⟩ := Set.mem_iUnion₂.mp ha
      exact absurd heq (hstart f)
    · obtain ⟨c, -, f, -, rfl⟩ := Set.mem_iUnion₂.mp hb
      exact absurd heq.symm (hstart f)
    · rfl
  have hcwd : row.cwd = row'.cwd := h.cwd.congr h'.cwd (f := Prod.snd)
    (hvalue (·.cwd) (fun path => some path.toStringLossy) hone.cwds_agree)
  have href : row.transcriptRef = row'.transcriptRef :=
    h.transcriptRef.congr h'.transcriptRef (f := Prod.snd)
      (hvalue (·.transcriptRef) some hone.transcriptRefs_agree)
  have hknown : row.userWeightKnown = row'.userWeightKnown :=
    Bool.eq_iff_iff.mpr (h.userWeightKnown.trans h'.userWeightKnown.symm)
  unfold sessionFields
  rw [htitle, hcwd, href, hknown, h.firstActivityAt.unique h'.firstActivityAt,
    h.lastActivityAt.unique h'.lastActivityAt, h.userTurns.unique h'.userTurns,
    h.userChars.unique h'.userChars]

end

/-! ### Upserting them -/

/-- Upserting candidates one after another. -/
def upsertEach (ext : External) (db : ProjectCatalog) (cs : List SessionCandidate) :
    Except CatalogError ProjectCatalog :=
  cs.foldlM (fun db c => db.upsertCandidate ext c) db

def storedFields (db : ProjectCatalog) (stableKey : String) : Option SessionFields :=
  (db.sessions.lookup stableKey).map sessionFields

/-- The identity is not an alias of another session, and the row of its session goes by it. -/
structure OwnSession (db : ProjectCatalog) (identity : SessionIdentity) : Prop where
  primary : db.primaryOf identity.aliasKey = none ∨
    db.primaryOf identity.aliasKey = some identity.stableKey
  row : ∀ row, db.sessions.lookup identity.stableKey = some row → row.ref = identity.aliasKey

section
variable {ext : External} {identity : SessionIdentity} {db db' : ProjectCatalog}
  {c : SessionCandidate}

lemma OwnSession.resolve (h : db.OwnSession c.identity)
    (hcanonical : c.identity = .fromCanonical ext c.identity.backend c.identity.refKind
      c.identity.canonicalRefValue) : db.resolveAliasPrimary ext c = c := by
  refine resolveAliasPrimary_eq h.primary fun row hrow => ?_
  obtain ⟨hbackend, hrest⟩ := Prod.mk.inj (h.row row hrow)
  obtain ⟨hkind, hvalue⟩ := Prod.mk.inj hrest
  rw [hbackend, hkind, hvalue]
  exact hcanonical.symm

/-- A candidate of the session merges into its row and leaves what the catalog accepts as it was. -/
lemma OwnSession.upsert (h : db.OwnSession c.identity)
    (hcanonical : c.identity = .fromCanonical ext c.identity.backend c.identity.refKind
      c.identity.canonicalRefValue) (hok : db.upsertCandidate ext c = .ok db') :
    db.AcceptsAliases c ∧ db'.OwnSession c.identity ∧
      db'.sessions.lookup c.identity.stableKey =
        some (upsertedSession (db.sessions.lookup c.identity.stableKey) c) ∧
      ∀ c', c'.identity = c.identity → (db'.AcceptsAliases c' ↔ db.AcceptsAliases c') := by
  obtain ⟨haccept, hwritten⟩ := upsertCandidate_ok hok
  rw [h.resolve hcanonical] at haccept hwritten
  have hrow : db'.sessions.lookup c.identity.stableKey =
      some (upsertedSession (db.sessions.lookup c.identity.stableKey) c) := by
    rw [hwritten.sessions]
    exact AList.lookup_insert _
  have hprimary : ∀ k, (db'.primaryOf k = none ∨ db'.primaryOf k = some c.identity.stableKey) ↔
      (db.primaryOf k = none ∨ db.primaryOf k = some c.identity.stableKey) := by
    intro k
    rw [hwritten.primary]
    by_cases hmem : k ∈ c.aliases.map (·.identity.aliasKey)
    · obtain ⟨a, ha, rfl⟩ := List.mem_map.mp hmem
      rw [if_pos hmem]
      exact iff_of_true (.inr rfl) (haccept a ha).2
    · rw [if_neg hmem]
  refine ⟨haccept, ⟨(hprimary _).mpr h.primary, fun row hlookup => ?_⟩, hrow, fun c' hc' => ?_⟩
  · rw [hrow, Option.some.injEq] at hlookup
    rw [← hlookup, ref_upsertedSession]
    cases hold : db.sessions.lookup c.identity.stableKey with
    | none => rfl
    | some row => exact h.row row hold
  · unfold AcceptsAliases
    rw [hc']
    exact forall₂_congr fun a _ => and_congr_right fun _ => hprimary _

lemma OwnSession.upsert_ok (h : db.OwnSession c.identity)
    (hcanonical : c.identity = .fromCanonical ext c.identity.backend c.identity.refKind
      c.identity.canonicalRefValue) (haccept : db.AcceptsAliases c) :
    ∃ db', db.upsertCandidate ext c = .ok db' := by
  refine upsertCandidate_of_accepts ?_ ?_
  · rw [h.resolve hcanonical]
    exact fun row hrow => congrArg Prod.fst (h.row row hrow)
  · rw [h.resolve hcanonical]
    exact haccept

/-- The candidates of a session are accepted together or not, and merge into its row. -/
lemma OwnSession.upsertEach (hcanonical : identity = .fromCanonical ext identity.backend
      identity.refKind identity.canonicalRefValue) {cs : List SessionCandidate}
    (h : db.OwnSession identity) (hcs : ∀ c ∈ cs, c.identity = identity) :
    ((∃ db', upsertEach ext db cs = .ok db') ↔ ∀ c ∈ cs, db.AcceptsAliases c) ∧
    ∀ db', upsertEach ext db cs = .ok db' →
      db'.sessions.lookup identity.stableKey =
        cs.foldl (fun row c => some (upsertedSession row c))
          (db.sessions.lookup identity.stableKey) := by
  induction cs generalizing db with
  | nil =>
    refine ⟨⟨fun _ c hc => (nomatch hc), fun _ => ⟨db, rfl⟩⟩, fun db' hok => ?_⟩
    obtain rfl := Except.ok.inj hok
    rfl
  | cons c cs ih =>
    obtain rfl := hcs c List.mem_cons_self
    have hrest : ∀ c' ∈ cs, c'.identity = c.identity := fun c' hc' =>
      hcs c' (List.mem_cons_of_mem _ hc')
    cases hone : db.upsertCandidate ext c with
    | error e =>
      have herror : ProjectCatalog.upsertEach ext db (c :: cs) = .error e := by
        rw [ProjectCatalog.upsertEach, List.foldlM_cons, hone]
        rfl
      refine ⟨⟨fun ⟨db', hok⟩ => ?_, fun hall => ?_⟩, fun db' hok => ?_⟩
      · rw [herror] at hok
        cases hok
      · obtain ⟨db', hok⟩ := h.upsert_ok hcanonical (hall c List.mem_cons_self)
        rw [hone] at hok
        cases hok
      · rw [herror] at hok
        cases hok
    | ok db₁ =>
      obtain ⟨haccept, hown, hrow, hsame⟩ := h.upsert hcanonical hone
      obtain ⟨hiff, hlookup⟩ := ih hown hrest
      have hcons : ProjectCatalog.upsertEach ext db (c :: cs) =
          ProjectCatalog.upsertEach ext db₁ cs := by
        rw [ProjectCatalog.upsertEach, List.foldlM_cons, hone]
        rfl
      rw [hcons, hiff, List.forall_mem_cons]
      refine ⟨?_, fun db' hok => ?_⟩
      · refine ⟨fun hall => ⟨haccept, fun c' hc' => ?_⟩, fun hall c' hc' => ?_⟩
        · exact (hsame c' (hrest c' hc')).mp (hall c' hc')
        · exact (hsame c' (hrest c' hc')).mpr (hall.2 c' hc')
      · rw [hlookup db' hok, hrow, List.foldl_cons]

end

section
variable (ext : External) (db : ProjectCatalog) (identity : SessionIdentity)
  (cs : List SessionCandidate)

/-- Every order of the candidates stores the same fields, and the highest-ranked title where there
is one. -/
def MergesInAnyOrder : Prop :=
  ∃ fields : Option SessionFields, ∀ l, l.Perm cs → ∃ db', upsertEach ext db l = .ok db' ∧
    db'.storedFields identity.stableKey = fields ∧
    ∀ best, BestTitle cs best → fields.map (·.title) = some best.value

variable {ext db identity cs}

/-- What an order of the candidates of a new session stores. -/
lemma upsertEach_perm (hone : OfOneSession ext identity cs)
    (hnew : db.sessions.lookup identity.stableKey = none)
    (hfree : db.primaryOf identity.aliasKey = none) (hok : ∃ db', upsertEach ext db cs = .ok db')
    {l : List SessionCandidate} (hl : l.Perm cs) :
    ∃ db', upsertEach ext db l = .ok db' ∧
      db'.sessions.lookup identity.stableKey = mergedRow l := by
  have hown : db.OwnSession identity :=
    ⟨.inl hfree, fun row hrow => by rw [hnew] at hrow; cases hrow⟩
  have haccept := (hown.upsertEach hone.canonical hone.identity_eq).1.mp hok
  obtain ⟨hiff, hlookup⟩ := hown.upsertEach hone.canonical fun c hc =>
    hone.identity_eq c (hl.mem_iff.mp hc)
  obtain ⟨db', hdb'⟩ := hiff.mpr fun c hc => haccept c (hl.mem_iff.mp hc)
  refine ⟨db', hdb', ?_⟩
  rw [hlookup db' hdb', hnew]
  rfl

lemma merged_of_perm {first : SessionCandidate} {rest : List SessionCandidate}
    (hl : (first :: rest).Perm cs) :
    ∃ row, mergedRow (first :: rest) = some row ∧ Merged first {c | c ∈ cs} row := by
  obtain ⟨row, hrow, hmerged⟩ := merged_mergedRow first rest
  refine ⟨row, hrow, ?_⟩
  convert hmerged using 1
  ext c
  exact hl.mem_iff.symm

/-- The titles of two rows merged from the same candidates are the same where titles outlast the
candidates without one. -/
lemma Merged.title_eq {first first' : SessionCandidate} {row row' : SessionRow}
    (hone : OfOneSession ext identity cs) (hlate : TitlesOutlast cs)
    (h : Merged first {c | c ∈ cs} row) (hfirst : first ∈ cs)
    (h' : Merged first' {c | c ∈ cs} row') (hfirst' : first' ∈ cs) : row.title = row'.title := by
  by_cases htitled : ∃ c ∈ cs, ∃ f, c.title = some f
  · obtain ⟨c, hc, f, hf⟩ := htitled
    have hfinite : {f | ∃ c ∈ cs, c.title = some f}.Finite := by
      refine (cs.filterMap (·.title)).finite_toSet.subset ?_
      rintro f ⟨c, hc, hf⟩
      exact List.mem_filterMap.mpr ⟨c, hc, hf⟩
    obtain ⟨best, hbest⟩ := exists_isBest CandidateField.rank hfinite ⟨f, c, hc, hf⟩
    rw [h.title_eq_best hfirst hone.titles_agree hlate hbest,
      h'.title_eq_best hfirst' hone.titles_agree hlate hbest]
  · have hfallback : ∀ {first : SessionCandidate} {row : SessionRow},
        Merged first {c | c ∈ cs} row → first ∈ cs → row.title = first.fallbackTitle := by
      intro first row h hfirst
      rcases h.title_cases hfirst with ⟨c, hc, f, hf, -⟩ | ⟨-, he⟩
      · exact absurd ⟨c, hc, f, hf⟩ htitled
      · exact congrArg Prod.snd he
    have hnone : ∀ c ∈ cs, c.title = none := fun c hc =>
      Option.eq_none_iff_forall_ne_some.mpr fun f hf => htitled ⟨c, hc, f, hf⟩
    rw [hfallback h hfirst, hfallback h' hfirst']
    unfold SessionCandidate.fallbackTitle
    rw [hnone first hfirst, hnone first' hfirst', hone.identity_eq first hfirst,
      hone.identity_eq first' hfirst']

/-- Every order of upserting the candidates of a new session stores the same exactly if no candidate
without a title is later than the highest-ranked title. -/
theorem mergesInAnyOrder_iff (hone : OfOneSession ext identity cs)
    (hnew : db.sessions.lookup identity.stableKey = none)
    (hfree : db.primaryOf identity.aliasKey = none)
    (hok : ∃ db', upsertEach ext db cs = .ok db') :
    MergesInAnyOrder ext db identity cs ↔ TitlesOutlast cs := by
  constructor
  · rintro ⟨fields, hfields⟩ best hbest c hc hnone
    by_contra hno
    obtain ⟨hlate, hdiffers⟩ := not_or.mp hno
    obtain ⟨before, after, rfl⟩ := List.append_of_mem hc
    have hl : (c :: (before ++ after)).Perm (before ++ c :: after) := List.perm_middle.symm
    obtain ⟨db', hdb', hsame, htitle⟩ := hfields _ hl
    obtain ⟨db'', hdb'', hlookup⟩ := upsertEach_perm hone hnew hfree hok hl
    obtain rfl := Except.ok.inj (hdb''.symm.trans hdb')
    obtain ⟨row, hrow, hmerged⟩ := merged_of_perm hl
    have hvalue := htitle best hbest
    rw [← hsame, storedFields, hlookup, hrow] at hvalue
    have hfallback := hmerged.title_eq_fallback hc hnone hbest (not_le.mp hlate)
    exact hdiffers ((Option.some.inj hvalue).symm.trans hfallback)
  · intro hlate
    cases hcs : cs with
    | nil =>
      refine ⟨none, fun l hl => ?_⟩
      obtain ⟨db', hdb', hlookup⟩ := upsertEach_perm hone hnew hfree hok (hcs ▸ hl)
      obtain rfl := List.Perm.eq_nil hl
      refine ⟨db', hdb', by rw [storedFields, hlookup]; rfl, ?_⟩
      rintro best ⟨⟨c, hc, -⟩, -⟩
      cases hc
    | cons first rest =>
      rw [← hcs]
      obtain ⟨row, hrow, hmerged⟩ := merged_of_perm (.of_eq hcs.symm)
      have hfirst : first ∈ cs := hcs ▸ List.mem_cons_self
      refine ⟨some (sessionFields row), fun l hl => ?_⟩
      obtain ⟨db', hdb', hlookup⟩ := upsertEach_perm hone hnew hfree hok hl
      refine ⟨db', hdb', ?_, fun best hbest => ?_⟩
      · cases l with
        | nil =>
          rw [hcs] at hl
          exact absurd hl.length_eq (by simp)
        | cons first' rest' =>
          obtain ⟨row', hrow', hmerged'⟩ := merged_of_perm hl
          have hfirst' : first' ∈ cs := hl.mem_iff.mp List.mem_cons_self
          rw [storedFields, hlookup, hrow', Option.map_some]
          exact congrArg some (hmerged'.fields_eq hone hmerged
            (hmerged'.title_eq hone hlate hfirst' hmerged hfirst))
      · rw [Option.map_some]
        exact congrArg some (hmerged.title_eq_best hfirst hone.titles_agree hlate hbest)

end

end ProjectCatalog

/-! ### A report and a transcript -/

open ProjectCatalog

/-- A report of the running session. -/
def reportCandidate (observedAt : Int) : SessionCandidate :=
  candidateFromReport ⟨.fromCanonical twoDirectories "codex" .id "session-1", .ofStr "/a", "w1",
    "p1", 1, observedAt⟩

/-- A transcript of the session that has a title. -/
def titledTranscript (observedAt : Int) : SessionCandidate :=
  { transcriptCandidate "/a" observedAt with
    title := some ⟨"Fix the parser", observedAt, .transcriptFile, "transcript"⟩ }

lemma ofOneSession_pair (reported observed : Int) :
    OfOneSession twoDirectories (reportCandidate reported).identity
      [reportCandidate reported, titledTranscript observed] := by
  refine ⟨rfl, fun c hc => ?_, ?_, ?_, ?_⟩
  · rcases List.mem_pair.mp hc with rfl | rfl
    · rfl
    · rfl
  all_goals
    intro c hc c' hc' f f' hf hf' ho hp hk
    rcases List.mem_pair.mp hc with rfl | rfl <;> rcases List.mem_pair.mp hc' with rfl | rfl <;>
      cases hf <;> cases hf' <;> rfl

lemma upsertEach_pair_isOk (cs : List SessionCandidate) :
    (upsertEach twoDirectories (.empty 20) cs).isOk →
      ∃ db', upsertEach twoDirectories (.empty 20) cs = .ok db' :=
  fun h => ⟨_, eq_ok_of_isOk h⟩

/-- A report that is later than the transcript keeps the generated title if it comes first. -/
theorem laterReport_keeps_generated_title :
    ¬MergesInAnyOrder twoDirectories (.empty 20) (reportCandidate 100).identity
      [reportCandidate 100, titledTranscript 50] := by
  rintro ⟨fields, hfields⟩
  obtain ⟨db', hdb', hstored, htitle⟩ := hfields _ (.refl _)
  have hbest : BestTitle [reportCandidate 100, titledTranscript 50]
      ⟨"Fix the parser", 50, .transcriptFile, "transcript"⟩ := by
    refine ⟨⟨titledTranscript 50, by simp, rfl⟩, ?_⟩
    rintro f ⟨c, hc, hf⟩
    rcases List.mem_pair.mp hc with rfl | rfl
    · cases hf
    · cases hf
      exact le_rfl
  have hvalue := htitle _ hbest
  have hgenerated : ((upsertEach twoDirectories (.empty 20)
      [reportCandidate 100, titledTranscript 50]).toOption.bind fun db =>
        (db.storedFields (reportCandidate 100).identity.stableKey).map (·.title)) =
      some "Codex session · 5ddc2bde" := by
    decide +kernel
  rw [hdb', Except.toOption, Option.bind_some, hstored, hvalue] at hgenerated
  exact absurd hgenerated (by decide)

/-- A report no later than the transcript leaves the title to it in both orders. -/
theorem mergesInAnyOrder_iff_earlierReport :
    MergesInAnyOrder twoDirectories (.empty 20) (reportCandidate 50).identity
      [reportCandidate 50, titledTranscript 100] := by
  refine (mergesInAnyOrder_iff (ofOneSession_pair 50 100) rfl rfl
    (upsertEach_pair_isOk _ (by decide +kernel))).mpr ?_
  rintro best ⟨⟨c, hc, hf⟩, -⟩ c' hc' hnone
  rcases List.mem_pair.mp hc with rfl | rfl
  · cases hf
  · cases hf
    rcases List.mem_pair.mp hc' with rfl | rfl
    · exact .inl (by decide)
    · cases hnone

end Ork3.Projects
