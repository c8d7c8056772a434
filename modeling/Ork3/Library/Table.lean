import Mathlib

/-!
# Tables

A hash map is an association list with distinct keys. Its iteration follows the order of the
entries, which the maps modelled here leave unspecified; `Finmap` is the same content without it.
-/

namespace Ork3.Library

/-- A map with at most one value for each key. -/
abbrev Table (κ υ : Type*) := AList fun _ : κ => υ

namespace Table

section
variable {κ υ : Type*}

def values (t : Table κ υ) : List υ :=
  t.entries.map Sigma.snd

/-- The entries that satisfy `p`. -/
def retain (p : κ → υ → Bool) (t : Table κ υ) : Table κ υ :=
  ⟨t.entries.filter fun e => p e.1 e.2, t.nodupKeys.sublist List.filter_sublist⟩

def map (f : υ → υ) (t : Table κ υ) : Table κ υ :=
  ⟨t.entries.map fun e => ⟨e.1, f e.2⟩, by
    rw [List.NodupKeys, List.keys, List.map_map]
    exact t.nodupKeys⟩

@[simp] lemma keys_map (f : υ → υ) (t : Table κ υ) : (map f t).keys = t.keys := by
  simp only [AList.keys, map, List.keys, List.map_map]
  rfl

@[simp] lemma mem_map (f : υ → υ) (t : Table κ υ) (k : κ) : k ∈ map f t ↔ k ∈ t := by
  rw [AList.mem_keys, AList.mem_keys, keys_map]

lemma values_map (f : υ → υ) (t : Table κ υ) : (map f t).values = t.values.map f := by
  simp only [values, map, List.map_map]
  rfl

lemma map_map (f g : υ → υ) (t : Table κ υ) : map g (map f t) = map (g ∘ f) t := by
  ext1
  simp [map]

lemma map_id (t : Table κ υ) : map id t = t := by
  ext1
  simp [map]

variable [DecidableEq κ]

/-- Updates the value of `k` where there is one. -/
def modify (k : κ) (f : υ → υ) (t : Table κ υ) : Table κ υ :=
  match t.lookup k with
  | none => t
  | some v => t.insert k (f v)

/-- The table of a list of entries, later ones overwriting earlier ones. -/
def collect (entries : List (κ × υ)) : Table κ υ :=
  entries.foldl (fun t e => t.insert e.1 e.2) ∅

lemma lookup_modify (k k' : κ) (f : υ → υ) (t : Table κ υ) :
    (modify k f t).lookup k' = if k' = k then (t.lookup k).map f else t.lookup k' := by
  unfold modify
  split
  · rename_i hnone
    by_cases hk : k' = k
    · rw [hk, hnone, if_pos rfl, Option.map_none]
    · rw [if_neg hk]
  · rename_i v hv
    by_cases hk : k' = k
    · rw [hk, AList.lookup_insert, hv, if_pos rfl, Option.map_some]
    · rw [AList.lookup_insert_ne hk, if_neg hk]

lemma lookup_retain (p : κ → υ → Bool) (t : Table κ υ) (k : κ) :
    (retain p t).lookup k = (t.lookup k).filter (p k) := by
  ext v
  rw [← Option.mem_def, AList.mem_lookup_iff, Option.filter_eq_some_iff, ← Option.mem_def,
    AList.mem_lookup_iff]
  exact List.mem_filter

lemma lookup_map (f : υ → υ) (t : Table κ υ) (k : κ) :
    (map f t).lookup k = (t.lookup k).map f := by
  ext v
  rw [← Option.mem_def, AList.mem_lookup_iff, Option.map_eq_some_iff]
  constructor
  · intro h
    obtain ⟨⟨k', v'⟩, hmem, heq⟩ := List.mem_map.mp h
    cases heq
    exact ⟨v', AList.mem_lookup_iff.mpr hmem, rfl⟩
  · rintro ⟨v', hv', rfl⟩
    exact List.mem_map.mpr ⟨⟨k, v'⟩, AList.mem_lookup_iff.mp hv', rfl⟩

lemma mem_values {t : Table κ υ} {k : κ} {v : υ} (h : t.lookup k = some v) : v ∈ t.values :=
  List.mem_map.mpr ⟨⟨k, v⟩, AList.mem_lookup_iff.mp h, rfl⟩

lemma keys_insert_of_notMem {t : Table κ υ} {k : κ} (v : υ) (h : k ∉ t) :
    (t.insert k v).keys = k :: t.keys := by
  rw [AList.keys, AList.entries_insert_of_notMem h]
  rfl

lemma values_insert_of_notMem {t : Table κ υ} {k : κ} (v : υ) (h : k ∉ t) :
    values (t.insert k v) = v :: values t := by
  rw [values, AList.entries_insert_of_notMem h]
  rfl

lemma lookup_insert_eq (t : Table κ υ) (k k' : κ) (v : υ) :
    (t.insert k v).lookup k' = if k' = k then some v else t.lookup k' := by
  split
  · rename_i h
    rw [h, AList.lookup_insert]
  · rename_i h
    exact AList.lookup_insert_ne h

/-! ### Collected entries -/

lemma collect_append_singleton (l : List (κ × υ)) (e : κ × υ) :
    collect (l ++ [e]) = (collect l).insert e.1 e.2 := by
  rw [collect, List.foldl_append]
  rfl

lemma mem_of_lookup_collect {l : List (κ × υ)} {k : κ} {v : υ}
    (h : (collect l).lookup k = some v) : (k, v) ∈ l := by
  induction l using List.reverseRecOn with
  | nil => simp [collect] at h
  | append_singleton l e ih =>
    rw [collect_append_singleton, lookup_insert_eq] at h
    split at h
    · rename_i hk
      cases h
      simp [hk]
    · exact List.mem_append_left _ (ih h)

lemma exists_lookup_collect {l : List (κ × υ)} {e : κ × υ} (he : e ∈ l) :
    ∃ v, (collect l).lookup e.1 = some v := by
  induction l using List.reverseRecOn with
  | nil => cases he
  | append_singleton l e' ih =>
    rw [collect_append_singleton, lookup_insert_eq]
    by_cases hk : e.1 = e'.1
    · exact ⟨e'.2, by rw [if_pos hk]⟩
    · rw [if_neg hk]
      apply ih
      apply (List.mem_append.mp he).resolve_right
      rintro he
      exact hk (by rw [List.mem_singleton.mp he])

/-- Where all entries of a key agree, their value is found. -/
lemma lookup_collect_of_agree {l : List (κ × υ)} {k : κ} {v : υ} (hmem : (k, v) ∈ l)
    (hagree : ∀ w, (k, w) ∈ l → w = v) : (collect l).lookup k = some v := by
  obtain ⟨w, hw⟩ := exists_lookup_collect hmem
  rw [hw, hagree w (mem_of_lookup_collect hw)]

/-- Entries with different keys are all found again. -/
lemma lookup_collect {l : List (κ × υ)} (hl : (l.map Prod.fst).Nodup) {k : κ} {v : υ} :
    (collect l).lookup k = some v ↔ (k, v) ∈ l := by
  refine ⟨mem_of_lookup_collect, ?_⟩
  induction l using List.reverseRecOn with
  | nil => simp
  | append_singleton l e ih =>
    intro h
    rw [List.map_append, List.nodup_append] at hl
    obtain ⟨hl, -, hne⟩ := hl
    rw [collect_append_singleton, lookup_insert_eq]
    rcases List.mem_append.mp h with h | h
    · have hk : k ≠ e.1 := hne k (List.mem_map.mpr ⟨_, h, rfl⟩) e.1 (by simp)
      rw [if_neg hk]
      exact ih hl h
    · cases List.mem_singleton.mp h
      rw [if_pos rfl]

end

end Table

end Ork3.Library
