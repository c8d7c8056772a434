import Ork3.Library.Except
import Ork3.Model.TopicReplies

/-!
# A reply is applied whole or not at all

The scan for the end of an object passes over every nested text. The loop over the clusters keeps
one assignment for each id named so far.
-/

namespace Ork3.Projects

open Ork3.Library Ork3.Library.JsonText Ork3.Integration

/-! ### The object in a reply -/

namespace ObjectScan
variable {scan : ObjectScan} {c : Char} {w text : List Char} {d : ℕ}

lemma run_cons_of_not_closes (h : scan.closes c = false) :
    scan.run (c :: text) = ((scan.next c).run text).map (c :: ·) := by
  rw [run, if_neg (by simp [h])]

lemma run_plain (hc : IsPlain c) :
    (ObjectScan.mk d false false).run (c :: text) =
      ((ObjectScan.mk d false false).run text).map (c :: ·) := by
  obtain ⟨hquote, hopen, hclose⟩ := hc
  rw [run_cons_of_not_closes (by simp [closes, hclose])]
  simp [next, hquote, hopen, hclose]

lemma run_inString_plain (hquote : c ≠ '"') (hbackslash : c ≠ '\\') :
    (ObjectScan.mk d true false).run (c :: text) =
      ((ObjectScan.mk d true false).run text).map (c :: ·) := by
  rw [run_cons_of_not_closes (by simp [closes])]
  simp [next, hquote, hbackslash]

lemma run_escape :
    (ObjectScan.mk d true false).run ('\\' :: c :: text) =
      ((ObjectScan.mk d true false).run text).map fun taken => '\\' :: c :: taken := by
  rw [run_cons_of_not_closes (by simp [closes])]
  have hnext : (ObjectScan.mk d true false).next '\\' = ⟨d, true, true⟩ := by simp [next]
  rw [hnext, run_cons_of_not_closes (by simp [closes]), Option.map_map]
  rfl

lemma ne_of_isHexDigit (hc : isHexDigit c = true) : c ≠ '"' ∧ c ≠ '\\' := by
  constructor <;> rintro rfl <;> exact absurd hc (by decide)

lemma run_inString_digits (hdigits : ∀ c ∈ w, isHexDigit c = true) :
    (ObjectScan.mk d true false).run (w ++ text) =
      ((ObjectScan.mk d true false).run text).map (w ++ ·) := by
  induction w with
  | nil => simp
  | cons c w ih =>
    obtain ⟨hquote, hbackslash⟩ := ne_of_isHexDigit (hdigits c List.mem_cons_self)
    have hrest := ih fun e he => hdigits e (List.mem_cons_of_mem c he)
    rw [List.cons_append, run_inString_plain hquote hbackslash, hrest, Option.map_map]
    rfl

/-- Inside a string the scan reaches the quote that ends it. -/
lemma run_stringBody (hw : StringBody w) :
    (ObjectScan.mk d true false).run (w ++ '"' :: text) =
      ((ObjectScan.mk d false false).run text).map (w ++ '"' :: ·) := by
  induction hw with
  | nil =>
    rw [List.nil_append, run_cons_of_not_closes (by simp [closes])]
    simp [next]
  | plain hquote hbackslash _ _ ih =>
    rw [List.cons_append, run_inString_plain hquote hbackslash, ih, Option.map_map]
    rfl
  | escape _ _ ih =>
    rw [List.cons_append, List.cons_append, run_escape, ih, Option.map_map]
    rfl
  | @unicode digits s _ hdigits _ ih =>
    rw [List.cons_append, List.cons_append, run_escape, List.append_assoc,
      run_inString_digits hdigits, ih, Option.map_map, Option.map_map]
    simp [Function.comp_def]

lemma run_isString (hw : IsString w) :
    (ObjectScan.mk d false false).run (w ++ text) =
      ((ObjectScan.mk d false false).run text).map (w ++ ·) := by
  obtain ⟨body, hbody, rfl⟩ := hw
  have hnext : (ObjectScan.mk d false false).next '"' = ⟨d, true, false⟩ := by simp [next]
  rw [List.cons_append, List.append_assoc, run_cons_of_not_closes (by simp [closes]), hnext]
  rw [List.cons_append, List.nil_append, run_stringBody hbody, Option.map_map]
  simp [Function.comp_def]

lemma next_open : (ObjectScan.mk d false false).next '\x7b' = ⟨d + 1, false, false⟩ := by
  simp [next]

lemma next_close : (ObjectScan.mk (d + 1) false false).next '\x7d' = ⟨d, false, false⟩ := by
  simp [next]

/-- Inside an object the scan passes over a nested text. -/
lemma run_nested (hw : Nested w) (d : ℕ) (text : List Char) :
    (ObjectScan.mk (d + 1) false false).run (w ++ text) =
      ((ObjectScan.mk (d + 1) false false).run text).map (w ++ ·) := by
  induction hw generalizing d text with
  | nil => simp
  | plain hc _ ih =>
    rw [List.cons_append, run_plain hc, ih, Option.map_map]
    rfl
  | string hv _ ih =>
    rw [List.append_assoc, run_isString hv, ih, Option.map_map]
    simp [Function.comp_def]
  | braces _ _ ihw ih =>
    rw [List.cons_append, List.append_assoc, List.cons_append,
      run_cons_of_not_closes (by simp [closes]), next_open, ihw,
      run_cons_of_not_closes (by simp [closes, next_close]), next_close, ih]
    simp [Option.map_map, Function.comp_def]

/-- The scan stops at the brace that closes the first one. -/
lemma run_object (hw : Nested w) (text : List Char) :
    start.run ('{' :: (w ++ ['}']) ++ text) = some ('{' :: (w ++ ['}'])) := by
  have hclose : (ObjectScan.mk 1 false false).closes '}' = true := by
    simp [closes, next]
  rw [List.cons_append, List.append_assoc, List.cons_append, List.nil_append, start,
    run_cons_of_not_closes (by simp [closes]), next_open, run_nested hw, run, if_pos hclose]
  rfl

end ObjectScan

lemma extractJson_object {before object after : List Char} (hbefore : '{' ∉ before)
    (hobject : Derives .object object) :
    extractJson (String.ofList (before ++ (object ++ after))) = some (String.ofList object) := by
  obtain ⟨body, hbody, rfl⟩ := hobject.nested.2 rfl
  have hskip : (before ++ ('{' :: (body ++ ['}']) ++ after)).dropWhile (· ≠ '{') =
      '{' :: (body ++ ['}']) ++ after := by
    rw [List.dropWhile_append_of_pos]
    · rfl
    · intro c hc
      have hne : c ≠ '{' := fun h => hbefore (h ▸ hc)
      simpa using hne
  rw [extractJson, String.toList_ofList, hskip, ObjectScan.run_object hbody, Option.map_some]

/-! ### What a reply names -/

/-- The label of a cluster without the blanks around it. -/
def topicLabel (cluster : Value) : String :=
  String.ofList (Terminal.trim (((cluster.get "topic").bind Value.asStr).getD "").toList)

/-- The ids of a cluster, counted from one. -/
def namedIds (cluster : Value) : List ℕ :=
  (((cluster.get "ids").bind Value.asArray).getD []).filterMap fun id => id.asU64.map UInt64.toNat

/-- The label may be used and every id is one of the batch. -/
structure ValidCluster (ext : External) (batch : List PendingSemanticSession) (cluster : Value) :
    Prop where
  isString : ∃ topic, cluster.get "topic" = some (.string topic)
  nonempty : topicLabel cluster ≠ ""
  short : (topicLabel cluster).length ≤ maxTopicLabelChars
  allowed : isDisallowedTopic ext (topicLabel cluster) = false
  withinBatch : ∃ ids, cluster.get "ids" = some (.array ids) ∧
    ∀ id ∈ ids, ∃ value, id = .number (.posInt value) ∧
      1 ≤ value.toNat ∧ value.toNat ≤ batch.length

section
variable (ext : External) (batch : List PendingSemanticSession) (backend : String)
  (model : Option String)

/-- The clusters are valid, name an id once, and the assignments are those of the named ids. -/
structure ReplyApplied (clusters : List Value) (assignments : List SemanticAssignment) : Prop where
  valid : ∀ cluster ∈ clusters, ValidCluster ext batch cluster
  once : (clusters.flatMap namedIds).Nodup
  nonempty : assignments ≠ []
  paired : ∃ e : Fin assignments.length ≃ { id // id ∈ clusters.flatMap namedIds },
    ∀ i, ∃ cluster ∈ clusters, (e i).val ∈ namedIds cluster ∧
      ∃ session, batch[(e i).val - 1]? = some session ∧
        assignments.get i = {
          sessionKey := session.stableKey
          topicKey := semanticTopicKey ext (topicLabel cluster)
          topicLabel := topicLabel cluster
          fingerprint := semanticFingerprint ext session.title session.cwd session.backend
          backendUsed := backend
          modelUsed := model }

/-- The assignment of the session at a slot. -/
def assignmentAt (name : Fin batch.length × String) : SemanticAssignment where
  sessionKey := (batch.get name.1).stableKey
  topicKey := semanticTopicKey ext name.2
  topicLabel := name.2
  fingerprint := semanticFingerprint ext (batch.get name.1).title (batch.get name.1).cwd
    (batch.get name.1).backend
  backendUsed := backend
  modelUsed := model

/-- The loop has one assignment for each session named so far. -/
structure Claims.Records (claims : Claims batch) (named : List (Fin batch.length × String)) :
    Prop where
  assignments : claims.assignments = named.map (assignmentAt ext batch backend model)
  claimed : ∀ slot, claims.claimed slot = true ↔ slot ∈ named.map Prod.fst
  nodup : (named.map Prod.fst).Nodup

end

section
variable {ext : External} {serde : SerdeJson} {batch : List PendingSemanticSession}
  {backend : String} {model : Option String} {claims claims' : Claims batch}
  {named : List (Fin batch.length × String)} {topic : String} {cluster id : Value}

lemma sessionSlot_eq_some {slot : Fin batch.length} (h : sessionSlot batch id = some slot) :
    ∃ value, id = .number (.posInt value) ∧ value.toNat = slot.val + 1 := by
  obtain ⟨value, hvalue, hslot⟩ := Option.bind_eq_some_iff.mp h
  have hid : id = .number (.posInt value) := by
    unfold Value.asU64 at hvalue
    split at hvalue
    · rw [Option.some.inj hvalue]
    · cases hvalue
  by_cases hrange : 1 ≤ value.toNat ∧ value.toNat ≤ batch.length
  · rw [dif_pos hrange] at hslot
    refine ⟨value, hid, ?_⟩
    rw [← Option.some.inj hslot]
    dsimp only
    omega
  · rw [dif_neg hrange] at hslot
    cases hslot

namespace Claims

lemma records_empty : Records ext batch backend model ⟨[], fun _ => false⟩ [] where
  assignments := rfl
  claimed slot := by simp
  nodup := List.nodup_nil

/-- An id that is taken is one of the batch and was not named before. -/
lemma Records.claimId (h : claims.Records ext batch backend model named)
    (hok : claimId ext serde batch backend model topic claims id = .ok claims') :
    ∃ slot, sessionSlot batch id = some slot ∧
      claims'.Records ext batch backend model (named ++ [(slot, topic)]) := by
  unfold Projects.claimId at hok
  cases hslot : sessionSlot batch id with
  | none =>
    rw [hslot] at hok
    cases hok
  | some slot =>
    rw [hslot] at hok
    dsimp only at hok
    by_cases hclaimed : claims.claimed slot = true
    · rw [if_pos hclaimed] at hok
      cases hok
    · rw [if_neg hclaimed] at hok
      have hnew : slot ∉ named.map Prod.fst := fun hmem => hclaimed ((h.claimed slot).mpr hmem)
      refine ⟨slot, rfl, ?_⟩
      rw [← Except.ok.inj hok]
      constructor
      · rw [List.map_append, ← h.assignments]
        rfl
      · intro other
        rw [List.map_append, List.mem_append, ← h.claimed other]
        by_cases hother : other = slot
        · simp [hother]
        · simp [hother]
      · rw [List.map_append]
        apply List.Nodup.append h.nodup (List.nodup_singleton slot)
        rintro x hx hx'
        exact hnew (List.mem_singleton.mp hx' ▸ hx)

lemma Records.foldlM_claimId {ids : List Value} (h : claims.Records ext batch backend model named)
    (hok : ids.foldlM (Projects.claimId ext serde batch backend model topic) claims =
      .ok claims') :
    ∃ slots : List (Fin batch.length), ids.map (sessionSlot batch) = slots.map some ∧
      claims'.Records ext batch backend model (named ++ slots.map fun slot => (slot, topic)) := by
  induction ids generalizing claims named with
  | nil =>
    rw [foldlM_nil_eq_ok] at hok
    subst hok
    refine ⟨[], rfl, ?_⟩
    rwa [List.map_nil, List.append_nil]
  | cons id ids ih =>
    obtain ⟨between, hone, hrest⟩ := foldlM_cons_eq_ok.mp hok
    obtain ⟨slot, hslot, hbetween⟩ := h.claimId hone
    obtain ⟨slots, hslots, hdone⟩ := ih hbetween hrest
    refine ⟨slot :: slots, ?_, ?_⟩
    · rw [List.map_cons, List.map_cons, hslot, hslots]
    · rwa [List.append_assoc] at hdone

end Claims

/-! ### Clusters -/

lemma namedIds_eq {ids : List Value} {slots : List (Fin batch.length)}
    (hids : cluster.get "ids" = some (.array ids))
    (hslots : ids.map (sessionSlot batch) = slots.map some) :
    namedIds cluster = slots.map (·.val + 1) ∧
      ∀ id ∈ ids, ∃ value, id = .number (.posInt value) ∧
        1 ≤ value.toNat ∧ value.toNat ≤ batch.length := by
  have hget : ((cluster.get "ids").bind Value.asArray).getD [] = ids := by
    rw [hids]
    rfl
  rw [namedIds, hget]
  clear hget hids
  induction ids generalizing slots with
  | nil =>
    have hnone : slots = [] := List.map_eq_nil_iff.mp hslots.symm
    subst hnone
    exact ⟨rfl, fun id hid => absurd hid List.not_mem_nil⟩
  | cons id ids ih =>
    cases slots with
    | nil => cases hslots
    | cons slot slots =>
      obtain ⟨hslot, hrest⟩ := List.cons.inj hslots
      obtain ⟨value, rfl, hvalue⟩ := sessionSlot_eq_some hslot
      obtain ⟨hmap, hall⟩ := ih hrest
      constructor
      · rw [List.filterMap_cons, hmap]
        simp [Value.asU64, hvalue]
      · intro other hother
        rcases List.mem_cons.mp hother with rfl | hother
        · exact ⟨value, rfl, by omega, by have := slot.isLt; omega⟩
        · exact hall other hother

/-- A label that may be used is that of the cluster. -/
lemma clusterTopic_ok (hok : clusterTopic ext cluster = .ok topic) :
    topic = topicLabel cluster ∧ (∃ s, cluster.get "topic" = some (.string s)) ∧ topic ≠ "" ∧
      topic.length ≤ maxTopicLabelChars ∧ isDisallowedTopic ext topic = false := by
  unfold clusterTopic at hok
  cases hget : (cluster.get "topic").bind Value.asStr with
  | none =>
    rw [hget] at hok
    cases hok
  | some s =>
    have hstring : cluster.get "topic" = some (.string s) := by
      obtain ⟨value, hvalue, hs⟩ := Option.bind_eq_some_iff.mp hget
      unfold Value.asStr at hs
      split at hs
      · rw [hvalue, Option.some.inj hs]
      · cases hs
    have hlabel : topicLabel cluster = String.ofList (Terminal.trim s.toList) := by
      rw [topicLabel, hget]
      rfl
    rw [hget, Option.map_some, ← hlabel] at hok
    dsimp only at hok
    by_cases hempty : topicLabel cluster = ""
    · rw [Option.filter_some_neg (by simp [hempty])] at hok
      cases hok
    · rw [Option.filter_some_pos (by simp [hempty])] at hok
      dsimp only at hok
      by_cases hlong : (topicLabel cluster).length > maxTopicLabelChars
      · rw [if_pos hlong] at hok
        cases hok
      · rw [if_neg hlong] at hok
        by_cases hdisallowed : isDisallowedTopic ext (topicLabel cluster) = true
        · rw [if_pos hdisallowed] at hok
          cases hok
        · rw [if_neg hdisallowed] at hok
          obtain rfl := Except.ok.inj hok
          have hallowed := Bool.eq_false_of_not_eq_true hdisallowed
          exact ⟨rfl, ⟨s, hstring⟩, hempty, not_lt.mp hlong, hallowed⟩

lemma clusterIds_ok {ids : List Value} (hok : clusterIds cluster = .ok ids) :
    cluster.get "ids" = some (.array ids) := by
  unfold clusterIds at hok
  cases hget : (cluster.get "ids").bind Value.asArray with
  | none =>
    rw [hget] at hok
    cases hok
  | some items =>
    rw [hget] at hok
    obtain rfl := Except.ok.inj hok
    obtain ⟨value, hvalue, hitems⟩ := Option.bind_eq_some_iff.mp hget
    unfold Value.asArray at hitems
    split at hitems
    · rw [hvalue, Option.some.inj hitems]
    · cases hitems

namespace Claims

/-- A cluster that is taken is valid; its sessions are recorded under its label. -/
lemma Records.claimCluster (h : claims.Records ext batch backend model named)
    (hok : claimCluster ext serde batch backend model claims cluster = .ok claims') :
    ∃ slots : List (Fin batch.length), ValidCluster ext batch cluster ∧
      namedIds cluster = slots.map (·.val + 1) ∧
      claims'.Records ext batch backend model
        (named ++ slots.map fun slot => (slot, topicLabel cluster)) := by
  obtain ⟨topic, htopic, hrest⟩ := bind_eq_ok.mp hok
  obtain ⟨ids, hids, hfold⟩ := bind_eq_ok.mp hrest
  obtain ⟨rfl, hstring, hnonempty, hshort, hallowed⟩ := clusterTopic_ok htopic
  have harray := clusterIds_ok hids
  obtain ⟨slots, hslots, hrecords⟩ := h.foldlM_claimId hfold
  obtain ⟨hnamed, hwithin⟩ := namedIds_eq harray hslots
  exact ⟨slots, ⟨hstring, hnonempty, hshort, hallowed, ids, harray, hwithin⟩, hnamed, hrecords⟩

lemma Records.foldlM_claimCluster {clusters : List Value}
    (h : claims.Records ext batch backend model named)
    (hok : clusters.foldlM (Projects.claimCluster ext serde batch backend model) claims =
      .ok claims') :
    ∃ later : List (Fin batch.length × String),
      claims'.Records ext batch backend model (named ++ later) ∧
      (∀ cluster ∈ clusters, ValidCluster ext batch cluster) ∧
      clusters.flatMap namedIds = later.map (·.1.val + 1) ∧
      ∀ name ∈ later, ∃ cluster ∈ clusters, name.1.val + 1 ∈ namedIds cluster ∧
        name.2 = topicLabel cluster := by
  induction clusters generalizing claims named with
  | nil =>
    rw [foldlM_nil_eq_ok] at hok
    subst hok
    refine ⟨[], ?_, ?_, rfl, ?_⟩
    · rwa [List.append_nil]
    · exact fun cluster hcluster => absurd hcluster List.not_mem_nil
    · exact fun name hname => absurd hname List.not_mem_nil
  | cons cluster clusters ih =>
    obtain ⟨between, hone, hrest⟩ := foldlM_cons_eq_ok.mp hok
    obtain ⟨slots, hvalid, hslots, hbetween⟩ := h.claimCluster hone
    obtain ⟨later, hrecords, hall, hlater, hfrom⟩ := ih hbetween hrest
    refine ⟨slots.map (fun slot => (slot, topicLabel cluster)) ++ later, ?_, ?_, ?_, ?_⟩
    · rwa [← List.append_assoc]
    · exact List.forall_mem_cons.mpr ⟨hvalid, hall⟩
    · rw [List.flatMap_cons, hslots, hlater, List.map_append, List.map_map]
      rfl
    · intro name hname
      rcases List.mem_append.mp hname with hname | hname
      · obtain ⟨slot, hslot, rfl⟩ := List.mem_map.mp hname
        refine ⟨cluster, List.mem_cons_self, ?_, rfl⟩
        rw [hslots]
        exact List.mem_map_of_mem hslot
      · obtain ⟨other, hother, hname⟩ := hfrom name hname
        exact ⟨other, List.mem_cons_of_mem cluster hother, hname⟩

end Claims

lemma replyClusters_ok {response : String} {clusters : List Value}
    (hok : replyClusters serde response = .ok clusters) :
    ∃ json parsed, extractJson response = some json ∧ serde.fromStr json = .ok parsed ∧
      parsed.get "clusters" = some (.array clusters) := by
  unfold replyClusters at hok
  cases hjson : extractJson response with
  | none =>
    rw [hjson] at hok
    cases hok
  | some json =>
    rw [hjson] at hok
    dsimp only at hok
    cases hparsed : serde.fromStr json with
    | error err =>
      rw [hparsed] at hok
      cases hok
    | ok parsed =>
      rw [hparsed] at hok
      dsimp only at hok
      cases hget : (parsed.get "clusters").bind Value.asArray with
      | none =>
        rw [hget] at hok
        cases hok
      | some items =>
        rw [hget] at hok
        obtain rfl := Except.ok.inj hok
        obtain ⟨value, hvalue, hitems⟩ := Option.bind_eq_some_iff.mp hget
        refine ⟨json, parsed, rfl, hparsed, ?_⟩
        unfold Value.asArray at hitems
        split at hitems
        · rw [hvalue, Option.some.inj hitems]
        · cases hitems

/-- The assignments of the named sessions are paired with their ids. -/
lemma Claims.Records.replyApplied {clusters : List Value}
    (h : claims.Records ext batch backend model named)
    (hvalid : ∀ cluster ∈ clusters, ValidCluster ext batch cluster)
    (hids : clusters.flatMap namedIds = named.map (·.1.val + 1))
    (hfrom : ∀ name ∈ named, ∃ cluster ∈ clusters, name.1.val + 1 ∈ namedIds cluster ∧
      name.2 = topicLabel cluster)
    (hnonempty : claims.assignments ≠ []) :
    ReplyApplied ext batch backend model clusters claims.assignments := by
  have honce : (clusters.flatMap namedIds).Nodup := by
    have hcomp : named.map (·.1.val + 1) = (named.map Prod.fst).map (·.val + 1) := by
      rw [List.map_map]
      rfl
    rw [hids, hcomp]
    apply h.nodup.map
    intro x y hxy
    exact Fin.ext (Nat.succ.inj hxy)
  have hlength : claims.assignments.length = (clusters.flatMap namedIds).length := by
    rw [h.assignments, hids, List.length_map, List.length_map]
  refine ⟨hvalid, honce, hnonempty, (finCongr hlength).trans (honce.getEquiv _), ?_⟩
  intro i
  have hnamed : claims.assignments.length = named.length := by
    rw [h.assignments, List.length_map]
  have hi : i.val < named.length := hnamed ▸ i.isLt
  obtain ⟨cluster, hcluster, hmem, hlabel⟩ := hfrom named[i.val] (List.getElem_mem hi)
  have hval : (((finCongr hlength).trans (honce.getEquiv _)) i).val = named[i.val].1.val + 1 := by
    simp [hids]
  refine ⟨cluster, hcluster, ?_, batch.get named[i.val].1, ?_, ?_⟩
  · rw [hval]
    exact hmem
  · rw [hval, Nat.add_sub_cancel]
    exact List.getElem?_eq_getElem named[i.val].1.isLt
  · rw [← hlabel]
    simp [h.assignments, assignmentAt]

end

/-! ### The whole reply -/

/-- A reply that is accepted names valid clusters and each id once, and its assignments are those of
the named sessions; the object of a reply is found whatever stands around it. -/
theorem parseResponse_applied (ext : External) (serde : SerdeJson)
    (batch : List PendingSemanticSession) (backend : String) (model : Option String) :
    (∀ response assignments,
      parseResponse ext serde batch backend model response = .ok assignments →
      ∃ json parsed clusters, extractJson response = some json ∧
        serde.fromStr json = .ok parsed ∧ parsed.get "clusters" = some (.array clusters) ∧
        ReplyApplied ext batch backend model clusters assignments) ∧
    ∀ before object after : List Char, '{' ∉ before → Derives .object object →
      extractJson (String.ofList (before ++ (object ++ after))) = some (String.ofList object) := by
  refine ⟨?_, fun before object after hbefore hobject => extractJson_object hbefore hobject⟩
  intro response assignments hok
  obtain ⟨clusters, hclusters, hrest⟩ := bind_eq_ok.mp hok
  obtain ⟨claims, hfold, hdone⟩ := bind_eq_ok.mp hrest
  obtain ⟨json, parsed, hjson, hparsed, harray⟩ := replyClusters_ok hclusters
  obtain ⟨named, hrecords, hvalid, hids, hfrom⟩ := Claims.records_empty.foldlM_claimCluster hfold
  rw [List.nil_append] at hrecords
  by_cases hempty : claims.assignments.isEmpty = true
  · rw [if_pos hempty] at hdone
    cases hdone
  · rw [if_neg hempty] at hdone
    obtain rfl := Except.ok.inj hdone
    refine ⟨json, parsed, clusters, hjson, hparsed, harray, ?_⟩
    exact hrecords.replyApplied hvalid hids hfrom fun h => hempty (List.isEmpty_iff.mpr h)

/-! ### A reply with prose around it -/

/-- The digests of the topics and of what the sessions are. -/
def buildDigest (fields : List (List UInt8)) : String :=
  let digests : List (List String × String) :=
    [(["build"], "1bd561784e130757d4be2c7b5884ae742f25130ed3e597d2b4665aef4ff1f400"),
      (["docs"], "49b8074a6ea917c211f99402ca66ded71fbea72934c35c52b938d387d042b980"),
      (["Fix the build", "", "pi"],
        "fba67d604c4f2de1730ed82b243be83a1805681250f2aa900271d13b938b306a"),
      (["Explain the flags", "/docs", "codex"],
        "beff836613455e6039cec3ca10962250588863807ee83ceefba32d60047b0cb4"),
      (["Speed up the build", "", "pi"],
        "c788032a52a97adadbcebc926d5752ee0c0a1e07d125a10f6b1c98a01549d24a")]
  ((digests.find? fun e => e.1.map utf8Bytes = fields).map (·.2)).getD ""

def buildMachine : External where
  versionedKey _ fields := buildDigest fields
  toLowercase s := s.map Char.toLower
  classify _ := ⟨"", .unclassified, "unclassified", "Unclassified", "cwd unavailable"⟩
  classify_congr _ _ _ := rfl

def buildObject : String :=
  "\x7b\"clusters\":[\x7b\"topic\":\" Build \",\"ids\":[1,3]\x7d," ++
    "\x7b\"topic\":\"Docs\",\"ids\":[2]\x7d]\x7d"

def buildReply : String := "Sure: " ++ buildObject ++ "."

def buildCluster (topic : String) (ids : List UInt64) : Value :=
  .object ((Map.empty.insert "topic" (.string topic)).insert "ids"
    (.array (ids.map fun id => .number (.posInt id))))

def buildSerde : SerdeJson where
  fromStr s :=
    if s = buildObject then
      .ok (.object (Map.empty.insert "clusters"
        (.array [buildCluster " Build " [1, 3], buildCluster "Docs" [2]])))
    else .error "expected value at line 1 column 1"
  display _ := ""

def buildBatch : List PendingSemanticSession :=
  [⟨"first", "Fix the build", none, "pi", none, [], none⟩,
    ⟨"second", "Explain the flags", some "/docs", "codex", none, [], none⟩,
    ⟨"third", "Speed up the build", none, "pi", none, [], none⟩]

/-- The assignment of a session to a topic. -/
def buildAssignment (sessionKey topicLabel : String) (fields : List String) :
    SemanticAssignment where
  sessionKey := sessionKey
  topicKey := buildDigest [utf8Bytes (topicLabel.map Char.toLower)]
  topicLabel := topicLabel
  fingerprint := buildDigest (fields.map utf8Bytes)
  backendUsed := "pi"
  modelUsed := none

theorem parseResponse_applied_build :
    ∃ json parsed clusters, extractJson buildReply = some json ∧
      buildSerde.fromStr json = .ok parsed ∧ parsed.get "clusters" = some (.array clusters) ∧
      ReplyApplied buildMachine buildBatch "pi" none clusters [
        buildAssignment "first" "Build" ["Fix the build", "", "pi"],
        buildAssignment "third" "Build" ["Speed up the build", "", "pi"],
        buildAssignment "second" "Docs" ["Explain the flags", "/docs", "codex"]] :=
  (parseResponse_applied buildMachine buildSerde buildBatch "pi" none).1 buildReply _
    (by decide +kernel)

end Ork3.Projects
