import Ork3.Library.Paging
import Ork3.Model.SessionPages

/-!
# Following the cursors of a session list

The pages of a project or topic, from the first to the one without a cursor, against the sessions
its query selects.
-/

namespace Ork3.Projects

open Ork3.Library OrderDual

/-! ### The two orders -/

/-- A cursor as a key of the query's order. -/
def SessionCursor.key (cursor : SessionCursor) : Lex (Intᵒᵈ × String) :=
  toLex (toDual cursor.lastActivityAt, cursor.stableKey)

def SessionCursor.ofKey (key : Lex (Intᵒᵈ × String)) : SessionCursor :=
  ⟨ofDual (ofLex key).1, (ofLex key).2⟩

namespace PageRow

def key (row : PageRow) : Lex (Intᵒᵈ × String) :=
  row.cursor.key

lemma queriedBefore_iff (x y : PageRow) : queriedBefore x y ↔ x.key ≤ y.key := by
  rw [key, key, SessionCursor.key, SessionCursor.key, Prod.Lex.toLex_le_toLex]
  rfl

lemma shownBefore_iff (x y : PageRow) : shownBefore x y ↔ ShownBefore key thin x y := by
  rw [ShownBefore, Prod.Lex.toLex_le_toLex, Bool.lt_iff, ← queriedBefore_iff]
  rfl

lemma afterCursor_iff (cursor : Option SessionCursor) (row : PageRow) :
    afterCursor cursor row = (cursor.map SessionCursor.key).all fun c => c < row.key := by
  cases cursor with
  | none => rfl
  | some c =>
    simp only [afterCursor, Option.all_some, Option.map_some, key, SessionCursor.key, cursor,
      Prod.Lex.toLex_lt_toLex, toDual_lt_toDual, toDual_inj, eq_comm (a := c.lastActivityAt)]
    simp [Bool.decide_or, Bool.decide_and]

end PageRow

/-! ### The rows of a query -/

namespace ProjectCatalog
variable (db : ProjectCatalog) (selected : String → SessionRow → Bool)

lemma pageRows_perm : (db.pageRows selected).Perm
    ((db.sessions.entries.filter fun e => selected e.1 e.2).map fun e =>
      PageRow.mk e.1 e.2 (db.runtimeMappings.lookup e.1)) :=
  List.perm_insertionSort _ _

/-- Distinct sessions have distinct keys. -/
lemma pageRows_stableKeys_nodup : ((db.pageRows selected).map (·.stableKey)).Nodup := by
  refine ((db.pageRows_perm selected).map _).nodup_iff.mpr ?_
  rw [List.map_map]
  exact db.sessions.keys_nodup.sublist (List.filter_sublist.map Sigma.fst)

lemma pageRows_keySorted : KeySorted PageRow.key (db.pageRows selected) := by
  have htotal : Std.Total PageRow.queriedBefore :=
    ⟨fun x y => by simp only [PageRow.queriedBefore_iff, le_total]⟩
  have htrans : IsTrans PageRow PageRow.queriedBefore :=
    ⟨fun x y z => by simpa only [PageRow.queriedBefore_iff] using le_trans⟩
  have hsorted : (db.pageRows selected).Pairwise PageRow.queriedBefore :=
    List.pairwise_insertionSort _ _
  have hdistinct : (db.pageRows selected).Pairwise fun x y => x.stableKey ≠ y.stableKey :=
    List.pairwise_map.mp (db.pageRows_stableKeys_nodup selected)
  refine hsorted.imp₂ (fun x y hle hne => ?_) hdistinct
  refine lt_of_le_of_ne ((PageRow.queriedBefore_iff x y).mp hle) fun heq => hne ?_
  exact congrArg (fun k => (ofLex k).2) heq

/-! ### Pages -/

/-- A page of the catalog is a page of the query's rows. -/
lemma sessionsPageOf_eq (c : Option (Lex (Intᵒᵈ × String))) (limit : Nat) :
    db.sessionsPageOf selected (c.map SessionCursor.ofKey) limit =
      ((page PageRow.key PageRow.thin (db.pageRows selected) (min (max limit 1) 500) c).1.map
          PageRow.summary,
        (page PageRow.key PageRow.thin (db.pageRows selected) (min (max limit 1) 500) c).2.map
          SessionCursor.ofKey) := by
  have hfetch : ((db.pageRows selected).filter
      (PageRow.afterCursor (c.map SessionCursor.ofKey))).take (min (max limit 1) 500 + 1) =
      fetch PageRow.key (db.pageRows selected) (min (max limit 1) 500) c := by
    unfold fetch
    congr 1
    refine List.filter_congr fun row _ => ?_
    rw [PageRow.afterCursor_iff, Option.map_map]
    have hid : SessionCursor.key ∘ SessionCursor.ofKey = id := rfl
    rw [hid, Option.map_id, id]
  have hsort : ∀ rows : List PageRow, rows.insertionSort PageRow.shownBefore =
      rows.insertionSort (ShownBefore PageRow.key PageRow.thin) := by
    intro rows
    have h := List.map_insertionSort (r := PageRow.shownBefore)
      (s := ShownBefore PageRow.key PageRow.thin) id rows fun x _ y _ => PageRow.shownBefore_iff x y
    simpa using h
  unfold sessionsPageOf page
  dsimp only
  rw [hfetch, hsort]
  split
  · refine Prod.ext rfl ?_
    simp only [Option.map_map]
    rfl
  · rfl

lemma sessionsPage_eq {projectKey : String} {project : ProjectRow}
    (h : db.projects.lookup projectKey = some project) (cursor : Option SessionCursor)
    (limit : Nat) : db.sessionsPage projectKey cursor limit =
      .ok (db.sessionsPageOf (db.selects project) cursor limit) := by
  unfold sessionsPage selects
  rw [h]
  dsimp only
  split
  · rfl
  · rfl

/-- The summaries of selected rows determine the rows. -/
lemma summary_perm_iff {l : List PageRow} (hl : l ⊆ db.pageRows selected) :
    (l.map PageRow.summary).Perm ((db.pageRows selected).map PageRow.summary) ↔
      l.Perm (db.pageRows selected) := by
  have hinj : ∀ x ∈ db.pageRows selected,
      ((db.pageRows selected).find? fun y => y.stableKey = x.summary.stableKey) = some x := by
    intro x hx
    refine List.find?_eq_some_iff_append.mpr ⟨by simp [PageRow.summary], ?_⟩
    obtain ⟨u, v, huv⟩ := List.append_of_mem hx
    refine ⟨u, v, huv, fun y hy => ?_⟩
    have hnodup := db.pageRows_stableKeys_nodup selected
    rw [huv, List.map_append, List.nodup_append] at hnodup
    have hne := hnodup.2.2 _ (List.mem_map_of_mem hy) _ (List.mem_map_of_mem List.mem_cons_self)
    simp only [PageRow.summary, Bool.not_eq_true']
    exact decide_eq_false hne
  have hmap : ∀ l : List PageRow, l ⊆ db.pageRows selected → (l.map PageRow.summary).map
      (fun s => (db.pageRows selected).find? fun y => y.stableKey = s.stableKey) = l.map some := by
    intro l hl
    rw [List.map_map]
    exact List.map_congr_left fun x hx => hinj x (hl hx)
  refine ⟨fun h => ?_, fun h => h.map _⟩
  have h' := h.map fun s => (db.pageRows selected).find? fun y => y.stableKey = s.stableKey
  rw [hmap l hl, hmap _ (List.Subset.refl _)] at h'
  exact (List.map_perm_map_iff (Option.some_injective _)).mp h'

/-- Following the cursors of a project or topic from none on comes to an end, and the pages together
show every selected session exactly once if and only if their boundaries in the query's order are
clean: a thin session on a page comes with a thin session on both sides of the page's end. -/
theorem sessionsPages_perm_iff {projectKey : String} {project : ProjectRow}
    (h : db.projects.lookup projectKey = some project) (limit : Nat) :
    ∃ pages, PageChain (fun c r => db.sessionsPage projectKey c limit = .ok r) none pages ∧
      (pages.flatten.Perm ((db.pageRows (db.selects project)).map PageRow.summary) ↔
        CleanBoundaries PageRow.thin (min (max limit 1) 500)
          (db.pageRows (db.selects project))) := by
  obtain ⟨pages, hchain, hiff⟩ := pageChain_perm_iff PageRow.thin
    (db.pageRows_keySorted (db.selects project)) (L := min (max limit 1) 500) (by omega) none
  have hsub := hchain.subset
  rw [afterCursor_none] at hiff hsub
  refine ⟨pages.map (·.map PageRow.summary), ?_, ?_⟩
  · refine hchain.map SessionCursor.ofKey PageRow.summary fun c rows next hpage => ?_
    rw [db.sessionsPage_eq h, sessionsPageOf_eq, hpage]
  · rw [← List.map_flatten, db.summary_perm_iff _ hsub, hiff]

/-! ### A skipped session -/

/-- A session last active at the given time, in which the user typed so many characters. -/
def typedSession (lastActivityAt userChars : Int) : SessionRow where
  backend := "codex"
  refKind := .id
  refValue := "session"
  title := "Title"
  titleObservedAt := 0
  titlePriority := 1
  titleSourceKey := "source"
  cwd := none
  cwdObservedAt := none
  cwdPriority := none
  cwdSourceKey := none
  transcriptRef := none
  transcriptObservedAt := none
  transcriptPriority := none
  transcriptSourceKey := none
  firstActivityAt := 0
  lastActivityAt := lastActivityAt
  userTurns := 1
  userChars := userChars
  userWeightKnown := true
  sessionClass := .interactive
  createdAt := 0
  updatedAt := 0

/-- One project whose most recent session is thin and whose other two are not. -/
def thinSessionFirst : ProjectCatalog :=
  let assignment : AssignmentRow := ⟨1, .automatic, "cwd", false, 0⟩
  { empty 20 with
    projects := Table.collect [("project", ⟨1, .cwd, "/work", "work", 0, 0⟩)]
    sessions := Table.collect
      [("a", typedSession 10 5), ("b", typedSession 9 100), ("c", typedSession 8 100)]
    assignments := Table.collect [("a", assignment), ("b", assignment), ("c", assignment)] }

/-- Read in pages of one, the thin session is on none of them. -/
theorem sessionsPages_skip_thin :
    ¬ ∃ pages, PageChain (fun c r => thinSessionFirst.sessionsPage "project" c 1 = .ok r) none
        pages ∧
      pages.flatten.Perm ((thinSessionFirst.pageRows (thinSessionFirst.selects
        ⟨1, .cwd, "/work", "work", 0, 0⟩)).map PageRow.summary) := by
  rintro ⟨pages, hchain, hperm⟩
  have hpages : PageChain (fun c r => thinSessionFirst.sessionsPage "project" c 1 = .ok r) none
      [[(PageRow.mk "b" (typedSession 9 100) none).summary],
        [(PageRow.mk "c" (typedSession 8 100) none).summary]] :=
    .more (by decide : _ = Except.ok (_, some (SessionCursor.mk 9 "b")))
      (.last (by decide))
  have hunique := hchain.unique (fun c r r' h h' => Except.ok.inj (h.symm.trans h')) hpages
  rw [hunique] at hperm
  exact absurd hperm.length_eq (by decide)

theorem sessionsPages_perm_iff_thin_first :
    thinSessionFirst.projects.lookup "project" = some ⟨1, .cwd, "/work", "work", 0, 0⟩ ∧
    ∃ pages, PageChain (fun c r => thinSessionFirst.sessionsPage "project" c 2 = .ok r) none pages ∧
      (pages.flatten.Perm ((thinSessionFirst.pageRows (thinSessionFirst.selects
          ⟨1, .cwd, "/work", "work", 0, 0⟩)).map PageRow.summary) ↔
        CleanBoundaries PageRow.thin 2 (thinSessionFirst.pageRows (thinSessionFirst.selects
          ⟨1, .cwd, "/work", "work", 0, 0⟩))) :=
  ⟨by decide, thinSessionFirst.sessionsPages_perm_iff (by decide) 2⟩

end ProjectCatalog

end Ork3.Projects
