import Mathlib

/-!
# Trees of depth three

Lists of lists of lists, their leaves by position, and two of them walked side by side.
-/

namespace Ork3.Library

section
variable {α β : Type*}

/-- The leaf at a position. -/
def leafAt (t : List (List (List α))) (p : Nat × Nat × Nat) : Option α :=
  (t[p.1]?).bind fun branch => (branch[p.2.1]?).bind fun twig => twig[p.2.2]?

/-- The leaves found at the same position. -/
def zipLeaves (t : List (List (List α))) (u : List (List (List β))) : List (α × β) :=
  (t.zip u).flatMap fun e => (e.1.zip e.2).flatMap fun e => e.1.zip e.2

lemma mem_zip_iff {l : List α} {m : List β} {e : α × β} :
    e ∈ l.zip m ↔ ∃ i : Nat, l[i]? = some e.1 ∧ m[i]? = some e.2 := by
  rw [List.mem_iff_getElem?]
  exact exists_congr fun i => List.getElem?_zip_eq_some

lemma leafAt_eq_some {t : List (List (List α))} {i j k : Nat} {a : α} :
    leafAt t (i, j, k) = some a ↔
      ∃ branch, t[i]? = some branch ∧ ∃ twig, branch[j]? = some twig ∧ twig[k]? = some a := by
  simp only [leafAt, Option.bind_eq_some_iff]

lemma mem_zipLeaves {t : List (List (List α))} {u : List (List (List β))} {e : α × β} :
    e ∈ zipLeaves t u ↔ ∃ p, leafAt t p = some e.1 ∧ leafAt u p = some e.2 := by
  simp only [zipLeaves, List.mem_flatMap, Prod.exists, mem_zip_iff, leafAt_eq_some]
  constructor
  · rintro ⟨b, b', ⟨i, hb, hb'⟩, w, w', ⟨j, hw, hw'⟩, k, ha, ha'⟩
    exact ⟨i, j, k, ⟨b, hb, w, hw, ha⟩, b', hb', w', hw', ha'⟩
  · rintro ⟨i, j, k, ⟨b, hb, w, hw, ha⟩, b', hb', w', hw', ha'⟩
    exact ⟨b, b', ⟨i, hb, hb'⟩, w, w', ⟨j, hw, hw'⟩, k, ha, ha'⟩

/-- In a list of lists without duplicates, a member is in one list only. -/
lemma eq_index_of_mem {l : List (List α)} (h : l.flatten.Nodup) {i j : Nat} {m m' : List α}
    (hi : l[i]? = some m) (hj : l[j]? = some m') {a : α} (ha : a ∈ m) (ha' : a ∈ m') : i = j := by
  rw [List.nodup_flatten] at h
  obtain ⟨hi', rfl⟩ := List.getElem?_eq_some_iff.mp hi
  obtain ⟨hj', rfl⟩ := List.getElem?_eq_some_iff.mp hj
  rcases Nat.lt_trichotomy i j with hlt | heq | hgt
  · exact absurd ha' (List.pairwise_iff_getElem.mp h.2 i j hi' hj' hlt ha)
  · exact heq
  · exact absurd ha (List.pairwise_iff_getElem.mp h.2 j i hj' hi' hgt ha')

/-- In a tree without duplicates, a leaf is at one position only. -/
lemma leafAt_injective {t : List (List (List α))} (h : t.flatten.flatten.Nodup)
    {p q : Nat × Nat × Nat} {a : α} (hp : leafAt t p = some a) (hq : leafAt t q = some a) :
    p = q := by
  obtain ⟨i, j, k⟩ := p
  obtain ⟨i', j', k'⟩ := q
  obtain ⟨b, hb, w, hw, ha⟩ := leafAt_eq_some.mp hp
  obtain ⟨b', hb', w', hw', ha'⟩ := leafAt_eq_some.mp hq
  have hbranch {i : Nat} {b : List (List α)} (hb : t[i]? = some b) :
      (t.map List.flatten)[i]? = some b.flatten := by
    rw [List.getElem?_map, hb, Option.map_some]
  have hmem {b : List (List α)} {w : List α} {j k : Nat} (hw : b[j]? = some w)
      (ha : w[k]? = some a) : a ∈ b.flatten :=
    List.mem_flatten.mpr ⟨w, List.mem_of_getElem? hw, List.mem_of_getElem? ha⟩
  have hflat : (t.map List.flatten).flatten.Nodup := by
    rw [← List.flatten_flatten]
    exact h
  have hi := eq_index_of_mem hflat (hbranch hb) (hbranch hb') (hmem hw ha) (hmem hw' ha')
  subst hi
  rw [hb, Option.some.injEq] at hb'
  subst hb'
  have hinner : b.flatten.Nodup :=
    (List.nodup_flatten.mp hflat).1 _ (List.mem_of_getElem? (hbranch hb))
  have hj := eq_index_of_mem hinner hw hw' (List.mem_of_getElem? ha) (List.mem_of_getElem? ha')
  subst hj
  rw [hw, Option.some.injEq] at hw'
  subst hw'
  have htwig : w.Nodup := (List.nodup_flatten.mp hinner).1 _ (List.mem_of_getElem? hw)
  obtain ⟨hk, rfl⟩ := List.getElem?_eq_some_iff.mp ha
  obtain ⟨hk', heq⟩ := List.getElem?_eq_some_iff.mp ha'
  rw [(List.Nodup.getElem_inj_iff htwig).mp heq]

end

end Ork3.Library
