import Ork3.Library.Except
import Ork3.Model.SemanticTopics

/-!
# Merging topics

The merges of a list move the rows of their topics one after another. They act as one move of all
topics at once exactly if no topic is both moved and moved to.
-/

namespace Ork3.Projects

open Ork3.Library

namespace ProjectCatalog

section
variable (ext : External)

/-- The keys of the topics that are moved away. -/
def mergedKeys (merges : List SemanticTopicMerge) : List String :=
  merges.flatMap fun merge => merge.from.map (semanticTopicKey ext)

/-- The labels of a merge are known, and it does not move a topic to itself. -/
structure MergeKnown (known : List String) (merge : SemanticTopicMerge) : Prop where
  from_ne_nil : merge.from ≠ []
  into_known : semanticTopicKey ext merge.into ∈ known
  from_known : ∀ label ∈ merge.from, semanticTopicKey ext label ∈ known
  from_ne_into : ∀ label ∈ merge.from, semanticTopicKey ext label ≠ semanticTopicKey ext merge.into

variable {ext} {known seenFrom seenFrom' : List String}

lemma checkLabels_iff {intoKey : String} {labels : List String} :
    labels.foldlM (fun seenFrom label =>
      let fromKey := semanticTopicKey ext label
      if fromKey = intoKey ∨ fromKey ∉ known ∨ fromKey ∈ seenFrom then
        Except.error CatalogError.sqlite
      else .ok (fromKey :: seenFrom)) seenFrom = .ok seenFrom' ↔
    (∀ label ∈ labels, semanticTopicKey ext label ∈ known) ∧
      (∀ label ∈ labels, semanticTopicKey ext label ≠ intoKey) ∧
      (labels.map (semanticTopicKey ext)).Nodup ∧
      (∀ k ∈ labels.map (semanticTopicKey ext), k ∉ seenFrom) ∧
      seenFrom' = (labels.map (semanticTopicKey ext)).reverse ++ seenFrom := by
  induction labels generalizing seenFrom with
  | nil =>
    rw [foldlM_nil_eq_ok]
    simp
  | cons label labels ih =>
    rw [foldlM_cons_eq_ok]
    constructor
    · rintro ⟨seen, hone, hrest⟩
      dsimp only at hone
      split_ifs at hone with hbad
      obtain rfl := Except.ok.inj hone
      obtain ⟨hinto, hknown, hseen⟩ := not_or.mp hbad |>.imp_right not_or.mp
      obtain ⟨hk, hi, hnodup, hfresh, rfl⟩ := ih.mp hrest
      refine ⟨List.forall_mem_cons.mpr ⟨not_not.mp hknown, hk⟩,
        List.forall_mem_cons.mpr ⟨hinto, hi⟩, ?_, ?_, by simp⟩
      · rw [List.map_cons, List.nodup_cons]
        exact ⟨fun hmem => hfresh _ hmem List.mem_cons_self, hnodup⟩
      · rw [List.map_cons, List.forall_mem_cons]
        exact ⟨hseen, fun k hk hmem => hfresh k hk (List.mem_cons_of_mem _ hmem)⟩
    · rintro ⟨hk, hi, hnodup, hfresh, rfl⟩
      rw [List.map_cons, List.nodup_cons] at hnodup
      rw [List.map_cons, List.forall_mem_cons] at hfresh
      refine ⟨semanticTopicKey ext label :: seenFrom, ?_, ih.mpr ⟨?_, ?_, hnodup.2, ?_, by simp⟩⟩
      · dsimp only
        rw [if_neg]
        rintro (hinto | hknown | hseen)
        · exact hi label List.mem_cons_self hinto
        · exact hknown (hk label List.mem_cons_self)
        · exact hfresh.1 hseen
      · exact fun l hl => hk l (List.mem_cons_of_mem _ hl)
      · exact fun l hl => hi l (List.mem_cons_of_mem _ hl)
      · intro k hk hmem
        rcases List.mem_cons.mp hmem with rfl | hmem
        · exact hnodup.1 hk
        · exact hfresh.2 k hk hmem

/-- The check passes if every merge is known and no topic is moved twice. -/
lemma checkTopicMerges_iff {merges : List SemanticTopicMerge} :
    merges.foldlM (checkTopicMerge ext known) seenFrom = .ok seenFrom' ↔
    (∀ merge ∈ merges, MergeKnown ext known merge) ∧ (mergedKeys ext merges).Nodup ∧
      (∀ k ∈ mergedKeys ext merges, k ∉ seenFrom) ∧
      seenFrom' = (mergedKeys ext merges).reverse ++ seenFrom := by
  induction merges generalizing seenFrom with
  | nil =>
    rw [foldlM_nil_eq_ok]
    simp [mergedKeys]
  | cons merge merges ih =>
    have hkeys : mergedKeys ext (merge :: merges) =
        merge.from.map (semanticTopicKey ext) ++ mergedKeys ext merges := rfl
    have hone : ∀ seen, checkTopicMerge ext known seenFrom merge = .ok seen ↔
        MergeKnown ext known merge ∧ (merge.from.map (semanticTopicKey ext)).Nodup ∧
          (∀ k ∈ merge.from.map (semanticTopicKey ext), k ∉ seenFrom) ∧
          seen = (merge.from.map (semanticTopicKey ext)).reverse ++ seenFrom := by
      intro seen
      unfold checkTopicMerge
      dsimp only
      by_cases hbad : (merge.from.isEmpty || decide (semanticTopicKey ext merge.into ∉ known)) = true
      · rw [if_pos hbad]
        refine ⟨fun h => (nomatch h), fun ⟨h, _⟩ => ?_⟩
        have hne := h.from_ne_nil
        have hinto := h.into_known
        simp_all
      · rw [if_neg hbad, checkLabels_iff]
        simp only [Bool.or_eq_true, List.isEmpty_iff, decide_eq_true_eq, not_or, not_not] at hbad
        constructor
        · rintro ⟨hk, hi, hrest⟩
          exact ⟨⟨hbad.1, hbad.2, hk, hi⟩, hrest⟩
        · rintro ⟨h, hrest⟩
          exact ⟨h.from_known, h.from_ne_into, hrest⟩
    rw [foldlM_cons_eq_ok, hkeys, List.nodup_append, List.forall_mem_append, List.forall_mem_cons]
    constructor
    · rintro ⟨seen, hfirst, hrest⟩
      obtain ⟨hknown, hnodup, hfresh, rfl⟩ := (hone seen).mp hfirst
      obtain ⟨hk, hn, hf, rfl⟩ := ih.mp hrest
      refine ⟨⟨hknown, hk⟩, ⟨hnodup, hn, ?_⟩, ⟨hfresh, ?_⟩, by simp⟩
      · rintro k hk k' hk' rfl
        exact hf k hk' (List.mem_append_left _ (List.mem_reverse.mpr hk))
      · exact fun k hk hmem => hf k hk (List.mem_append_right _ hmem)
    · rintro ⟨⟨hknown, hk⟩, ⟨hnodup, hn, hdisjoint⟩, ⟨hfresh, hf⟩, rfl⟩
      refine ⟨_, (hone _).mpr ⟨hknown, hnodup, hfresh, rfl⟩, ih.mpr ⟨hk, hn, ?_, by simp⟩⟩
      intro k hk hmem
      rcases List.mem_append.mp hmem with hmem | hmem
      · exact hdisjoint k (List.mem_reverse.mp hmem) k hk rfl
      · exact hf k hk hmem

/-! ### Moving rows -/

variable (ext) in
/-- The moves of a list of merges: from which key, to which key and label. -/
def topicMoves (merges : List SemanticTopicMerge) : List (String × String × String) :=
  merges.flatMap fun merge => merge.from.map fun label =>
    (semanticTopicKey ext label, semanticTopicKey ext merge.into, merge.into)

lemma topicMoves_fst (merges : List SemanticTopicMerge) :
    (topicMoves ext merges).map (·.1) = mergedKeys ext merges := by
  unfold topicMoves mergedKeys
  rw [List.map_flatMap]
  simp only [List.map_map, Function.comp_def]

lemma mem_topicMoves {merges : List SemanticTopicMerge} {move : String × String × String} :
    move ∈ topicMoves ext merges ↔ ∃ merge ∈ merges, ∃ label ∈ merge.from,
      move = (semanticTopicKey ext label, semanticTopicKey ext merge.into, merge.into) := by
  simp only [topicMoves, List.mem_flatMap, List.mem_map, eq_comm]

/-- What one move does to a row. -/
def movedRow (observedAt : Int) (row : SemanticRow) (move : String × String × String) :
    SemanticRow :=
  if row.topicKey = move.1 then
    { row with topicKey := move.2.1, topicLabel := move.2.2, classifiedAt := observedAt }
  else
    row

section
variable {moves : List (String × String × String)} {row : SemanticRow} {observedAt : Int}

lemma foldl_movedRow_of_notMem (h : ∀ move ∈ moves, move.1 ≠ row.topicKey) :
    moves.foldl (movedRow observedAt) row = row := by
  induction moves with
  | nil => rfl
  | cons move moves ih =>
    have hrow : movedRow observedAt row move = row :=
      if_neg (h move List.mem_cons_self).symm
    rw [List.foldl_cons, hrow]
    exact ih fun move' hmove' => h move' (List.mem_cons_of_mem _ hmove')

/-- A row is moved by the one move from its topic, if no topic moved to is moved away. -/
lemma foldl_movedRow_of_mem (hnodup : (moves.map (·.1)).Nodup)
    (hstay : ∀ move ∈ moves, ∀ move' ∈ moves, move'.1 ≠ move.2.1)
    {move : String × String × String} (hmove : move ∈ moves) (hrow : row.topicKey = move.1) :
    moves.foldl (movedRow observedAt) row =
      { row with topicKey := move.2.1, topicLabel := move.2.2, classifiedAt := observedAt } := by
  induction moves with
  | nil => cases hmove
  | cons first moves ih =>
    rw [List.map_cons, List.nodup_cons] at hnodup
    rw [List.foldl_cons]
    rcases List.mem_cons.mp hmove with rfl | hmove
    · rw [movedRow, if_pos hrow]
      exact foldl_movedRow_of_notMem fun move' hmove' =>
        hstay move List.mem_cons_self move' (List.mem_cons_of_mem _ hmove')
    · have hfirst : movedRow observedAt row first = row := by
        refine if_neg fun heq => hnodup.1 ?_
        rw [← heq, hrow]
        exact List.mem_map_of_mem hmove
      rw [hfirst]
      exact ih hnodup.2 (fun m hm m' hm' => hstay m (List.mem_cons_of_mem _ hm) m'
        (List.mem_cons_of_mem _ hm')) hmove

end

/-- Applying merges moves every row along the moves. -/
lemma foldl_moveTopic (db : ProjectCatalog) (merges : List SemanticTopicMerge)
    (observedAt : Int) :
    merges.foldl (fun db merge => merge.from.foldl (fun db label =>
        db.moveTopic (semanticTopicKey ext label) (semanticTopicKey ext merge.into) merge.into
          observedAt) db) db =
      { db with semanticAssignments := db.semanticAssignments.map fun row =>
          (topicMoves ext merges).foldl (movedRow observedAt) row } := by
  have hmoves : ∀ (moves : List (String × String × String)) (db : ProjectCatalog),
      moves.foldl (fun db move => db.moveTopic move.1 move.2.1 move.2.2 observedAt) db =
        { db with semanticAssignments := db.semanticAssignments.map fun row =>
            moves.foldl (movedRow observedAt) row } := by
    intro moves
    induction moves with
    | nil =>
      intro db
      have hid : (fun row => [].foldl (movedRow observedAt) row) = id := rfl
      rw [hid, Table.map_id]
      rfl
    | cons move moves ih =>
      intro db
      rw [List.foldl_cons, ih, moveTopic]
      dsimp only
      rw [Table.map_map]
      rfl
  rw [← hmoves, topicMoves, List.foldl_flatMap]
  simp only [List.foldl_map]

/-- What an accepted list of merges did. -/
lemma applyTopicMerges_iff {db db' : ProjectCatalog} {merges : List SemanticTopicMerge}
    {observedAt : Int} : db.applyTopicMerges ext merges observedAt = .ok db' ↔
    (∀ merge ∈ merges, MergeKnown ext (db.semanticAssignments.values.map (·.topicKey)) merge) ∧
      (mergedKeys ext merges).Nodup ∧
      db' = bumpRevision { db with
        semanticAssignments := db.semanticAssignments.map fun row =>
          (topicMoves ext merges).foldl (movedRow observedAt) row } := by
  unfold applyTopicMerges
  dsimp only
  rw [bind_eq_ok]
  constructor
  · rintro ⟨seen, hcheck, hdone⟩
    obtain ⟨hknown, hnodup, -, -⟩ := checkTopicMerges_iff.mp hcheck
    rw [foldl_moveTopic] at hdone
    exact ⟨hknown, hnodup, (Except.ok.inj hdone).symm⟩
  · rintro ⟨hknown, hnodup, rfl⟩
    refine ⟨_, checkTopicMerges_iff.mpr ⟨hknown, hnodup, fun k _ => List.not_mem_nil, rfl⟩, ?_⟩
    rw [foldl_moveTopic]
    rfl

/-! ### All merges at once -/

variable (ext) in
/-- The merges move every row of a topic in some `from` list to the topic of that merge, leave the
other rows alone, and do the same in every order. -/
structure MergesAtOnce (db db' : ProjectCatalog) (merges : List SemanticTopicMerge)
    (observedAt : Int) : Prop where
  gone : ∀ k row, db'.semanticAssignments.lookup k = some row →
    ∀ merge ∈ merges, ∀ label ∈ merge.from, row.topicKey ≠ semanticTopicKey ext label
  moved : ∀ k row, db.semanticAssignments.lookup k = some row →
    ∀ merge ∈ merges, ∀ label ∈ merge.from, row.topicKey = semanticTopicKey ext label →
    ∃ row', db'.semanticAssignments.lookup k = some row' ∧
      row'.topicKey = semanticTopicKey ext merge.into
  kept : ∀ k, (∀ row, db.semanticAssignments.lookup k = some row →
      ∀ merge ∈ merges, ∀ label ∈ merge.from, row.topicKey ≠ semanticTopicKey ext label) →
    db'.semanticAssignments.lookup k = db.semanticAssignments.lookup k
  anyOrder : ∀ merges', merges'.Perm merges →
    db.applyTopicMerges ext merges' observedAt = .ok db'

lemma exists_row_of_known {db : ProjectCatalog} {key : String}
    (h : key ∈ db.semanticAssignments.values.map (·.topicKey)) :
    ∃ k row, db.semanticAssignments.lookup k = some row ∧ row.topicKey = key := by
  obtain ⟨row, hrow, rfl⟩ := List.mem_map.mp h
  obtain ⟨e, he, rfl⟩ := List.mem_map.mp hrow
  exact ⟨e.1, e.2, AList.mem_lookup_iff.mpr he, rfl⟩

/-- An accepted list of merges acts at once exactly if no topic it moves to is moved away. -/
theorem mergesAtOnce_iff {db db' : ProjectCatalog} {merges : List SemanticTopicMerge}
    {observedAt : Int} (hok : db.applyTopicMerges ext merges observedAt = .ok db') :
    MergesAtOnce ext db db' merges observedAt ↔
      ∀ merge ∈ merges, ∀ merge' ∈ merges, ∀ label ∈ merge'.from,
        semanticTopicKey ext label ≠ semanticTopicKey ext merge.into := by
  obtain ⟨hknown, hnodup, hdb'⟩ := applyTopicMerges_iff.mp hok
  have hlookup : ∀ k, db'.semanticAssignments.lookup k =
      (db.semanticAssignments.lookup k).map fun row =>
        (topicMoves ext merges).foldl (movedRow observedAt) row := by
    intro k
    rw [hdb']
    exact Table.lookup_map _ _ _
  constructor
  · intro h merge hmerge merge' hmerge' label hlabel heq
    -- a row of the first topic of `merge` ends in a topic that is moved away
    obtain ⟨label₀, hlabel₀⟩ := List.exists_mem_of_ne_nil _ (hknown merge hmerge).from_ne_nil
    obtain ⟨k, row, hrow, hkey⟩ := exists_row_of_known
      ((hknown merge hmerge).from_known label₀ hlabel₀)
    obtain ⟨row', hrow', hkey'⟩ := h.moved k row hrow merge hmerge label₀ hlabel₀ hkey
    exact h.gone k row' hrow' merge' hmerge' label hlabel (hkey'.trans heq.symm)
  · intro hstay
    have hmovesStay : ∀ move ∈ topicMoves ext merges, ∀ move' ∈ topicMoves ext merges,
        move'.1 ≠ move.2.1 := by
      intro move hmove move' hmove'
      obtain ⟨merge, hmerge, _, _, rfl⟩ := mem_topicMoves.mp hmove
      obtain ⟨merge', hmerge', label, hlabel, rfl⟩ := mem_topicMoves.mp hmove'
      exact hstay merge hmerge merge' hmerge' label hlabel
    rw [← topicMoves_fst] at hnodup
    refine ⟨fun k row hrow merge hmerge label hlabel heq => ?_,
      fun k row hrow merge hmerge label hlabel hkey => ?_, fun k hfree => ?_,
      fun merges' hperm => ?_⟩
    · rw [hlookup] at hrow
      obtain ⟨old, -, rfl⟩ := Option.map_eq_some_iff.mp hrow
      have hmove : (semanticTopicKey ext label, semanticTopicKey ext merge.into, merge.into) ∈
          topicMoves ext merges := mem_topicMoves.mpr ⟨merge, hmerge, label, hlabel, rfl⟩
      by_cases hold : ∃ move ∈ topicMoves ext merges, move.1 = old.topicKey
      · obtain ⟨move, hmem, hkey⟩ := hold
        rw [foldl_movedRow_of_mem hnodup hmovesStay hmem hkey.symm] at heq
        exact hmovesStay move hmem _ hmove heq.symm
      · have hnone : ∀ move ∈ topicMoves ext merges, move.1 ≠ old.topicKey :=
          fun move hmem hkey => hold ⟨move, hmem, hkey⟩
        rw [foldl_movedRow_of_notMem hnone] at heq
        exact hnone _ hmove heq.symm
    · have hmove : (semanticTopicKey ext label, semanticTopicKey ext merge.into, merge.into) ∈
          topicMoves ext merges := mem_topicMoves.mpr ⟨merge, hmerge, label, hlabel, rfl⟩
      refine ⟨_, by rw [hlookup, hrow]; rfl, ?_⟩
      dsimp only
      rw [foldl_movedRow_of_mem hnodup hmovesStay hmove hkey]
    · rw [hlookup]
      cases hrow : db.semanticAssignments.lookup k with
      | none => rfl
      | some row =>
        rw [Option.map_some, foldl_movedRow_of_notMem]
        intro move hmove
        obtain ⟨merge, hmerge, label, hlabel, rfl⟩ := mem_topicMoves.mp hmove
        exact (hfree row hrow merge hmerge label hlabel).symm
    · have hmoves : (topicMoves ext merges').Perm (topicMoves ext merges) :=
        hperm.flatMap_right _
      have hnodup' : ((topicMoves ext merges').map (·.1)).Nodup :=
        (hmoves.map _).nodup_iff.mpr hnodup
      have hsame : (fun row => (topicMoves ext merges').foldl (movedRow observedAt) row) =
          fun row => (topicMoves ext merges).foldl (movedRow observedAt) row := by
        funext row
        by_cases hold : ∃ move ∈ topicMoves ext merges, move.1 = row.topicKey
        · obtain ⟨move, hmem, hkey⟩ := hold
          rw [foldl_movedRow_of_mem hnodup hmovesStay hmem hkey.symm,
            foldl_movedRow_of_mem hnodup' (fun m hm m' hm' => hmovesStay m
              (hmoves.mem_iff.mp hm) m' (hmoves.mem_iff.mp hm')) (hmoves.mem_iff.mpr hmem)
              hkey.symm]
        · rw [foldl_movedRow_of_notMem fun move hmem hkey =>
              hold ⟨move, hmoves.mem_iff.mp hmem, hkey⟩,
            foldl_movedRow_of_notMem fun move hmem hkey => hold ⟨move, hmem, hkey⟩]
      refine applyTopicMerges_iff.mpr ⟨fun merge hmerge => ?_, ?_, ?_⟩
      · exact hknown merge (hperm.mem_iff.mp hmerge)
      · rw [← topicMoves_fst]
        exact hnodup'
      · rw [hdb', hsame]

end

/-! ### Three topics -/

/-- The digests of three sessions, their topics and the projects of these. -/
def topicDigest (_domain : List UInt8) (fields : List (List UInt8)) : String :=
  let digests : List (List String × String) :=
    [(["codex", "id", "s1"], "3842d1c8b11ddc938e9da64b05c5bc00de479aea9ef7c122acf813fac59854f1"),
      (["codex", "id", "s2"], "de0889765583920aa73605d8cb0d6bb7967ac1d079461e761c9d8ae1acae0f9d"),
      (["codex", "id", "s3"], "7e10ef20d65f2249b52bee9218b898800165f9dc16730434bdcd4abb070285c2"),
      (["build"], "1bd561784e130757d4be2c7b5884ae742f25130ed3e597d2b4665aef4ff1f400"),
      (["parser"], "e33d948ac7ddaea912d015a9b75678345c40fea27baac5dcd7151ee2f39dcc28"),
      (["tools"], "b5cca70e5491c485b87f8ab9a3c9a712adb2ca1b30537e3a97650ff5f0646cfe"),
      (["unclassified", "unclassified"],
        "975c63b81910c923b734276c1c434ca7f7ebbc5d8be91bc9b190c69a35a0f038"),
      (["semantic", "1bd561784e130757d4be2c7b5884ae742f25130ed3e597d2b4665aef4ff1f400"],
        "f429d2f75999e56e4fdce3a3c96eb070ce890e844b0e099eb41c702032a555dd"),
      (["semantic", "e33d948ac7ddaea912d015a9b75678345c40fea27baac5dcd7151ee2f39dcc28"],
        "47ce6ea55e9e10970cc66542ec315fb462928eb7649a4552f877434585245442"),
      (["semantic", "b5cca70e5491c485b87f8ab9a3c9a712adb2ca1b30537e3a97650ff5f0646cfe"],
        "da7fd8709323ba1d98047fe9c32604fad4666a1a24307e7ee06fe8ba81b546ff")]
  ((digests.find? fun e => e.1.map utf8Bytes = fields).map (·.2)).getD ""

/-- A machine without the directories of the sessions. -/
def noDirectories : External where
  versionedKey := topicDigest
  toLowercase s := s.map Char.toLower
  classify _ := ⟨topicDigest [] [utf8Bytes "unclassified", utf8Bytes "unclassified"],
    .unclassified, "unclassified", "Unclassified", "cwd unavailable"⟩
  classify_congr _ _ _ := rfl

def namedSession (name : String) : SessionIdentity :=
  .fromCanonical noDirectories "codex" .id name

/-- A transcript of the session without title and directory. -/
def bareTranscript (name : String) : SessionCandidate where
  identity := namedSession name
  title := none
  cwd := none
  transcriptRef := none
  firstActivityAt := 1
  lastActivityAt := 1
  adapter := "codex"
  rootKey := "root"
  sourceKey := name
  observedAt := 1
  aliases := []
  runtime := none
  weight := ⟨4, 80, true⟩
  sessionClass := none

def topicOf (name label : String) : SemanticAssignment :=
  ⟨(namedSession name).stableKey, semanticTopicKey noDirectories label, label, "fingerprint",
    "codex", none⟩

/-- Three sessions, each with a topic of its own. -/
def threeTopics : ProjectCatalog :=
  let db := ["s1", "s2", "s3"].foldl (fun db name =>
    ((db.upsertCandidate noDirectories (bareTranscript name)).toOption).getD db) (empty 20)
  db.applySemanticBatch noDirectories [topicOf "s1" "build", topicOf "s2" "parser",
    topicOf "s3" "tools"] 2

/-- The rows of a topic that is merged away after its own target move on. -/
theorem chainedMerges_move_on :
    ¬∀ db', threeTopics.applyTopicMerges noDirectories [⟨"parser", ["build"]⟩,
        ⟨"tools", ["parser"]⟩] 3 = .ok db' →
      MergesAtOnce noDirectories threeTopics db' [⟨"parser", ["build"]⟩, ⟨"tools", ["parser"]⟩] 3 := by
  intro h
  have hlabel : (threeTopics.semanticAssignments.lookup (namedSession "s1").stableKey).map
      (·.topicKey) = some (semanticTopicKey noDirectories "build") := by
    decide +kernel
  have hend : ((threeTopics.applyTopicMerges noDirectories [⟨"parser", ["build"]⟩,
      ⟨"tools", ["parser"]⟩] 3).toOption.bind fun db =>
        (db.semanticAssignments.lookup (namedSession "s1").stableKey).map (·.topicKey)) =
      some (semanticTopicKey noDirectories "tools") := by
    decide +kernel
  obtain ⟨row, hrow, hkey⟩ := Option.map_eq_some_iff.mp hlabel
  cases hok : threeTopics.applyTopicMerges noDirectories [⟨"parser", ["build"]⟩,
      ⟨"tools", ["parser"]⟩] 3 with
  | error e =>
    rw [hok] at hend
    cases hend
  | ok db' =>
    rw [hok] at hend
    obtain ⟨row', hrow', hkey'⟩ := (h db' hok).moved _ row hrow ⟨"parser", ["build"]⟩ (by simp)
      "build" (by simp) hkey
    rw [Except.toOption, Option.bind_some, hrow', Option.map_some, hkey'] at hend
    exact absurd hend (by decide +kernel)

/-- Two topics merged into a third one. -/
theorem mergesAtOnce_iff_twoIntoOne :
    ∃ db', threeTopics.applyTopicMerges noDirectories [⟨"tools", ["build", "parser"]⟩] 3 =
        .ok db' ∧
      MergesAtOnce noDirectories threeTopics db' [⟨"tools", ["build", "parser"]⟩] 3 := by
  have hisOk : (threeTopics.applyTopicMerges noDirectories
      [⟨"tools", ["build", "parser"]⟩] 3).isOk := by
    decide +kernel
  cases hok : threeTopics.applyTopicMerges noDirectories [⟨"tools", ["build", "parser"]⟩] 3 with
  | error e =>
    rw [hok] at hisOk
    cases hisOk
  | ok db' =>
    exact ⟨db', rfl, (mergesAtOnce_iff hok).mpr (by decide +kernel)⟩

end ProjectCatalog

end Ork3.Projects
