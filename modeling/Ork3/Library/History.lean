import Mathlib

/-!
# Histories of a stream

What holds of each stretch of a stream from its start: a property that every stretch has as long as
each of its steps is admitted, and the latest event of a stream.
-/

namespace Ork3.Library

section
variable {σ α β : Type*} {xs seen : List α} {a : α}

/-- Every element is admitted behind the ones before it. -/
def AllSteps (ok : List α → α → Prop) (xs : List α) : Prop :=
  ∀ seen a, seen ++ [a] <+: xs → ok seen a

lemma AllSteps.mono {ok : List α → α → Prop} (h : AllSteps ok xs) (hseen : seen <+: xs) :
    AllSteps ok seen :=
  fun before a hbefore => h before a (hbefore.trans hseen)

lemma allSteps_nil {ok : List α → α → Prop} : AllSteps ok [] := by
  intro seen a h
  simpa using h.length_le

lemma allSteps_concat {ok : List α → α → Prop} :
    AllSteps ok (xs ++ [a]) ↔ AllSteps ok xs ∧ ok xs a := by
  constructor
  · intro h
    exact ⟨h.mono (List.prefix_append _ _), h xs a List.prefix_rfl⟩
  · rintro ⟨h, ha⟩ seen b hb
    rcases List.prefix_concat_iff.mp hb with hb | hb
    · obtain ⟨rfl, hlast⟩ := List.append_inj' hb rfl
      obtain rfl := List.singleton_injective hlast
      exact ha
    · exact h seen b hb

/-- A property of the stretches that one element keeps exactly when it is admitted holds throughout
exactly when every element is admitted. -/
theorem forall_prefix_iff_allSteps {good : List α → Prop} {ok : List α → α → Prop} (hnil : good [])
    (hstep : ∀ seen a, AllSteps ok seen → good seen → (good (seen ++ [a]) ↔ ok seen a)) :
    (∀ seen, seen <+: xs → good seen) ↔ AllSteps ok xs := by
  induction xs using List.reverseRecOn with
  | nil =>
    refine ⟨fun _ => allSteps_nil, fun _ seen hseen => ?_⟩
    rwa [List.prefix_nil.mp hseen]
  | append_singleton xs a ih =>
    rw [allSteps_concat, ← ih]
    constructor
    · intro h
      have hxs : ∀ seen, seen <+: xs → good seen :=
        fun seen hseen => h seen (hseen.trans (List.prefix_append _ _))
      exact ⟨hxs, (hstep xs a (ih.mp hxs) (hxs xs List.prefix_rfl)).mp (h _ List.prefix_rfl)⟩
    · rintro ⟨hxs, ha⟩ seen hseen
      rcases List.prefix_concat_iff.mp hseen with rfl | hseen
      · exact (hstep xs a (ih.mp hxs) (hxs xs List.prefix_rfl)).mpr ha
      · exact hxs seen hseen

/-- What a machine's state says of the elements it has read. -/
theorem foldl_history {step : σ → α → σ} {inv : List α → σ → Prop} {ok : List α → α → Prop} {s : σ}
    (hnil : inv [] s)
    (hstep : ∀ seen s a, inv seen s → ok seen a → inv (seen ++ [a]) (step s a))
    (h : AllSteps ok xs) : inv xs (xs.foldl step s) := by
  induction xs using List.reverseRecOn with
  | nil => exact hnil
  | append_singleton xs a ih =>
    rw [allSteps_concat] at h
    rw [List.foldl_concat]
    exact hstep xs _ a (ih h.1) h.2

/-! ### The latest event -/

variable {event : List α → β → Prop} {v w : β}

/-- The value of the latest event, an event being a relation between the elements so far and its
value. -/
def Latest (event : List α → β → Prop) (xs : List α) (v : β) : Prop :=
  ∃ seen, seen <+: xs ∧ event seen v ∧
    ∀ longer w, longer <+: xs → seen.length < longer.length → ¬ event longer w

lemma latest_nil (h : ∀ v, ¬ event [] v) : ¬ Latest event [] v := by
  rintro ⟨seen, hseen, hv, -⟩
  rw [List.prefix_nil.mp hseen] at hv
  exact h v hv

lemma latest_concat_of_event (hv : event (xs ++ [a]) v)
    (hunique : ∀ w, event (xs ++ [a]) w → w = v) : Latest event (xs ++ [a]) w ↔ w = v := by
  constructor
  · rintro ⟨seen, hseen, hw, hlast⟩
    rcases List.prefix_concat_iff.mp hseen with rfl | hseen
    · exact hunique w hw
    · refine absurd hv (hlast _ v List.prefix_rfl ?_)
      have hlength := hseen.length_le
      rw [List.length_append, List.length_singleton]
      omega
  · rintro rfl
    refine ⟨_, List.prefix_rfl, hv, fun longer w hlonger hlength => ?_⟩
    have hle := hlonger.length_le
    omega

lemma latest_concat_of_not (h : ∀ w, ¬ event (xs ++ [a]) w) :
    Latest event (xs ++ [a]) v ↔ Latest event xs v := by
  constructor
  · rintro ⟨seen, hseen, hv, hlast⟩
    rcases List.prefix_concat_iff.mp hseen with rfl | hseen
    · exact absurd hv (h v)
    · exact ⟨seen, hseen, hv, fun longer w hlonger =>
        hlast longer w (hlonger.trans (List.prefix_append _ _))⟩
  · rintro ⟨seen, hseen, hv, hlast⟩
    refine ⟨seen, hseen.trans (List.prefix_append _ _), hv, fun longer w hlonger hlength => ?_⟩
    rcases List.prefix_concat_iff.mp hlonger with rfl | hlonger
    · exact h w
    · exact hlast longer w hlonger hlength

/-! ### What stands behind the latest mark -/

variable [DecidableEq α] {mark : α} {body : List α}

/-- The elements behind the last `mark`. -/
def behindLast (mark : α) (xs : List α) : Option (List α) :=
  xs.foldl (fun body a => if a = mark then some [] else body.map (· ++ [a])) none

lemma behindLast_concat : behindLast mark (xs ++ [a]) =
    if a = mark then some [] else (behindLast mark xs).map (· ++ [a]) := by
  unfold behindLast
  rw [List.foldl_concat]

theorem behindLast_eq_some_iff : behindLast mark xs = some body ↔
    ∃ front, xs = front ++ mark :: body ∧ mark ∉ body := by
  induction xs using List.reverseRecOn generalizing body with
  | nil =>
    constructor
    · intro h
      cases h
    · rintro ⟨front, h, -⟩
      cases front <;> cases h
  | append_singleton xs a ih =>
    rw [behindLast_concat]
    split
    · next ha =>
      rw [ha]
      constructor
      · intro h
        obtain rfl := Option.some.inj h
        exact ⟨xs, rfl, List.not_mem_nil⟩
      · rintro ⟨front, h, hbody⟩
        rcases List.eq_nil_or_concat body with rfl | ⟨body, b, rfl⟩
        · rfl
        · rw [List.concat_eq_append, ← List.cons_append, ← List.append_assoc] at h
          obtain ⟨-, hb⟩ := List.append_inj' h rfl
          obtain rfl := List.singleton_injective hb
          simp at hbody
    · next ha =>
      rw [Option.map_eq_some_iff]
      constructor
      · rintro ⟨body, h, rfl⟩
        obtain ⟨front, rfl, hbody⟩ := ih.mp h
        refine ⟨front, by rw [List.append_assoc, List.cons_append], ?_⟩
        rw [List.mem_append, List.mem_singleton]
        rintro (hmem | rfl)
        · exact hbody hmem
        · exact ha rfl
      · rintro ⟨front, h, hbody⟩
        rcases List.eq_nil_or_concat body with rfl | ⟨body, b, rfl⟩
        · obtain ⟨-, hb⟩ := List.append_inj' h rfl
          exact absurd (List.singleton_injective hb) ha
        · rw [List.concat_eq_append, ← List.cons_append, ← List.append_assoc] at h
          obtain ⟨rfl, hlast⟩ := List.append_inj' h rfl
          obtain rfl := List.singleton_injective hlast
          refine ⟨body, ih.mpr ⟨front, rfl, fun hmem => hbody ?_⟩, List.concat_eq_append.symm⟩
          rw [List.concat_eq_append]
          exact List.mem_append_left _ hmem

end

end Ork3.Library
