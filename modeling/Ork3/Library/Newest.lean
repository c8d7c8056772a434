import Ork3.Library.Table

/-!
# The newest statement

Several speakers set and clear a field. What a speaker last said of it stands; among speakers, the
statement with the greatest time is the one that counts.
-/

namespace Ork3.Library

section
variable {α ρ τ : Type*}

/-- What stands of the reports of one speaker, newest first: the newest report that sets the field
decides, unless a later one cleared it. -/
def stated (sets : ρ → Option α) (clears : ρ → Bool) : List (ρ × τ) → Option (α × τ)
  | [] => none
  | report :: older =>
    match sets report.1 with
    | some v => some (v, report.2)
    | none => if clears report.1 then none else stated sets clears older

/-- The newest value given by any report, whatever later reports cleared. -/
def lastGiven (gives : ρ → Option α) : List (ρ × τ) → Option α
  | [] => none
  | report :: older => (gives report.1).or (lastGiven gives older)

/-- What stands was set by one of the reports and neither set nor cleared since. -/
lemma stated_eq_some {sets : ρ → Option α} {clears : ρ → Bool} {reports : List (ρ × τ)}
    {v : α} {t : τ} :
    stated sets clears reports = some (v, t) ↔
      ∃ newer r older, reports = newer ++ (r, t) :: older ∧ sets r = some v ∧
        ∀ x ∈ newer, sets x.1 = none ∧ clears x.1 = false := by
  constructor
  · intro h
    induction reports with
    | nil => cases h
    | cons report older ih =>
      unfold stated at h
      split at h
      · rename_i w hw
        cases h
        exact ⟨[], report.1, older, rfl, hw, by simp⟩
      · rename_i hsets
        split at h
        · cases h
        · rename_i hclears
          obtain ⟨newer, r, older', rfl, hr, hnewer⟩ := ih h
          refine ⟨report :: newer, r, older', rfl, hr, fun x hx => ?_⟩
          cases hx with
          | head => exact ⟨hsets, by simpa using hclears⟩
          | tail _ hx => exact hnewer x hx
  · rintro ⟨newer, r, older, rfl, hr, hnewer⟩
    induction newer with
    | nil => simp [stated, hr]
    | cons report newer ih =>
      obtain ⟨hsets, hclears⟩ := hnewer report List.mem_cons_self
      rw [List.cons_append, stated, hsets]
      simp only [hclears, Bool.false_eq_true, if_false]
      exact ih fun x hx => hnewer x (List.mem_cons_of_mem _ hx)

variable [LinearOrder τ]

/-- `shown` is a candidate with the greatest time, or there is no candidate. -/
def Newest (candidate : α → τ → Prop) : Option α → Prop
  | none => ∀ v t, ¬candidate v t
  | some v => ∃ t, candidate v t ∧ ∀ w u, candidate w u → u ≤ t

lemma Newest.congr {candidate candidate' : α → τ → Prop} {shown : Option α}
    (h : Newest candidate shown) (hiff : ∀ v t, candidate v t ↔ candidate' v t) :
    Newest candidate' shown := by
  have heq : candidate = candidate' := by
    funext v t
    exact propext (hiff v t)
  exact heq ▸ h

end

namespace Table

section
variable {κ υ τ : Type*} [DecidableEq κ] [LinearOrder τ]

/-- Entries inserted one after another are found before those of the table they are put into. -/
lemma lookup_foldl_insert (l : List (κ × υ)) (t : Table κ υ) (k : κ) :
    (l.foldl (fun t e => t.insert e.1 e.2) t).lookup k =
      ((collect l).lookup k).or (t.lookup k) := by
  induction l using List.reverseRecOn with
  | nil => simp [collect]
  | append_singleton l e ih =>
    rw [List.foldl_append, collect_append_singleton, lookup_insert_eq]
    change ((l.foldl (fun t e => t.insert e.1 e.2) t).insert e.1 e.2).lookup k = _
    rw [lookup_insert_eq]
    by_cases hk : k = e.1
    · rw [if_pos hk, if_pos hk, Option.some_or]
    · rw [if_neg hk, if_neg hk, ih]

/-- In a list in the order of its times, the entry collected under a key is a newest one. -/
lemma newest_collect {l : List (τ × κ × υ)} (hl : l.Pairwise fun a b => a.1 ≤ b.1) (k : κ) :
    Newest (fun v t => (t, k, v) ∈ l) ((collect (l.map (·.2))).lookup k) := by
  induction l using List.reverseRecOn with
  | nil => simp [Newest, collect]
  | append_singleton l e ih =>
    rw [List.map_append, List.map_singleton, collect_append_singleton, lookup_insert_eq]
    obtain ⟨hl, -, hlast⟩ := List.pairwise_append.mp hl
    by_cases hk : k = e.2.1
    · rw [if_pos hk]
      refine ⟨e.1, ?_, fun w u hw => ?_⟩
      · rw [hk]
        exact List.mem_append_right _ (List.mem_singleton.mpr rfl)
      · rcases List.mem_append.mp hw with hw | hw
        · exact hlast _ hw e (List.mem_singleton.mpr rfl)
        · rw [← List.mem_singleton.mp hw]
    · rw [if_neg hk]
      refine (ih hl).congr fun v t => ?_
      rw [List.mem_append, List.mem_singleton]
      refine ⟨Or.inl, fun h => h.resolve_right fun he => hk ?_⟩
      rw [← he]

lemma newest_collect_sorted (l : List (τ × κ × υ)) (k : κ) :
    Newest (fun v t => (t, k, v) ∈ l)
      ((collect ((l.insertionSort fun a b => a.1 ≤ b.1).map (·.2))).lookup k) := by
  have : Std.Total fun a b : τ × κ × υ => a.1 ≤ b.1 := ⟨fun a b => le_total a.1 b.1⟩
  have : IsTrans (τ × κ × υ) fun a b => a.1 ≤ b.1 := ⟨fun _ _ _ => le_trans⟩
  refine (newest_collect (List.pairwise_insertionSort _ l) k).congr fun v t => ?_
  rw [List.mem_insertionSort]

end

end Table

end Ork3.Library
