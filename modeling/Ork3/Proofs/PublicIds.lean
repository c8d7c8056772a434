import Ork3.Model.AppState
import Ork3.Proofs.Workspace

/-!
# Public ids are read back

An id made of a number has the number as its last piece, so that resolving it finds what has the
number.
-/

namespace Ork3.Workspaces

open Ork3.Library

/-! ### Numbers -/

lemma nodup_publicIdAlphabet : publicIdAlphabet.Nodup := by decide

lemma publicIdAlphabet_ne_nil : publicIdAlphabet ≠ [] := List.cons_ne_nil _ _

lemma encodePublicNumber_of_pos {value : Nat} (hpos : 0 < value) :
    encodePublicNumber value = (letters publicIdAlphabet value).reverse :=
  if_neg (Nat.pos_iff_ne_zero.mp hpos)

lemma decode_encodePublicNumber {value : Nat} (hpos : 0 < value) (hbound : value < usizeBound) :
    decodePublicNumber (encodePublicNumber value) = some value := by
  rw [encodePublicNumber_of_pos hpos]
  exact valueOf_letters nodup_publicIdAlphabet publicIdAlphabet_ne_nil hbound

lemma encodePublicNumber_injOn {a b : Nat} (ha : 0 < a) (hb : 0 < b)
    (h : encodePublicNumber a = encodePublicNumber b) : a = b := by
  rw [encodePublicNumber_of_pos ha, encodePublicNumber_of_pos hb, List.reverse_inj] at h
  exact letters_injective nodup_publicIdAlphabet publicIdAlphabet_ne_nil h

lemma usizeBound_pos : 0 < usizeBound := by decide

/-- Only the empty text is read as zero. -/
lemma decodePublicNumber_eq_zero {value : List Char} (h : decodePublicNumber value = some 0) :
    value = [] := by
  unfold decodePublicNumber at h
  rw [valueOf_eq_filter usizeBound_pos, Option.filter_eq_some_iff] at h
  have hletters := letters_of_unboundedValue h.1
  simpa [letters, lettersFrom] using hletters.symm

lemma encode_decodePublicNumber {value : List Char} {n : Nat} (hpos : 0 < n)
    (h : decodePublicNumber value = some n) : encodePublicNumber n = value := by
  unfold decodePublicNumber at h
  rw [valueOf_eq_filter usizeBound_pos, Option.filter_eq_some_iff] at h
  rw [encodePublicNumber_of_pos hpos, letters_of_unboundedValue h.1]

/-- Numbers and their spellings correspond; what is no `usize` is not read. -/
theorem publicNumber_spelling :
    (∀ n, 1 ≤ n → n < usizeBound → decodePublicNumber (encodePublicNumber n) = some n) ∧
    (∀ value n, 1 ≤ n → decodePublicNumber value = some n → encodePublicNumber n = value) ∧
    (∀ value, decodePublicNumber value = some 0 ↔ value = []) ∧
    ∀ value, decodePublicNumber value =
      (unboundedValue publicIdAlphabet value).filter (· < usizeBound) := by
  refine ⟨fun n hpos hbound => decode_encodePublicNumber hpos hbound,
    fun value n hpos h => encode_decodePublicNumber hpos h, fun value => ⟨?_, ?_⟩,
    valueOf_eq_filter usizeBound_pos⟩
  · exact decodePublicNumber_eq_zero
  · rintro rfl
    rfl

lemma mem_encodePublicNumber {value : Nat} {c : Char} (h : c ∈ encodePublicNumber value) :
    c ∈ publicIdAlphabet := by
  unfold encodePublicNumber at h
  split at h
  · rw [List.mem_singleton] at h
    rw [h]
    decide
  · exact mem_of_mem_letters _ (List.mem_reverse.mp h)

lemma colon_notMem_encodePublicNumber (value : Nat) : ':' ∉ encodePublicNumber value :=
  fun h => absurd (mem_encodePublicNumber h) (by decide)

/-! ### Ids -/

lemma toList_generateWorkspaceId (counter : Nat) :
    (generateWorkspaceId counter).toList = 'w' :: encodePublicNumber counter :=
  String.toList_ofList

lemma generateWorkspaceId_injOn {a b : Nat} (ha : 0 < a) (hb : 0 < b)
    (h : generateWorkspaceId a = generateWorkspaceId b) : a = b := by
  have hlist := congrArg String.toList h
  rw [toList_generateWorkspaceId, toList_generateWorkspaceId, List.cons.injEq] at hlist
  exact encodePublicNumber_injOn ha hb hlist.2

lemma rsplitOnce_publicTabId (workspaceId : String) (number : Nat) :
    rsplitOnce [':'] (publicTabIdForNumber workspaceId number).toList =
      some (workspaceId.toList, 't' :: encodePublicNumber number) := by
  have hcolon : ':' ∉ 't' :: encodePublicNumber number :=
    List.not_mem_cons_of_ne_of_not_mem (by decide) (colon_notMem_encodePublicNumber number)
  have hsplit := rsplitOnce_append (List.not_mem_nil : ':' ∉ []) workspaceId.toList hcolon
  rw [publicTabIdForNumber, String.toList_ofList]
  rw [List.append_assoc] at hsplit ⊢
  exact hsplit

lemma rsplitOnce_publicPaneId (workspaceId : String) (number : Nat) :
    rsplitOnce [':', 'p'] (publicPaneIdForNumber workspaceId number).toList =
      some (workspaceId.toList, encodePublicNumber number) := by
  rw [publicPaneIdForNumber, String.toList_ofList]
  exact rsplitOnce_append (by decide) workspaceId.toList (colon_notMem_encodePublicNumber number)

lemma publicPaneIdForNumber_injOn {a b : String} {n m : Nat} (hn : 0 < n) (hm : 0 < m)
    (h : publicPaneIdForNumber a n = publicPaneIdForNumber b m) : a = b ∧ n = m := by
  have hsplit := rsplitOnce_publicPaneId a n
  rw [h, rsplitOnce_publicPaneId, Option.some.injEq, Prod.mk.injEq] at hsplit
  exact ⟨(String.toList_inj.mp hsplit.1).symm, (encodePublicNumber_injOn hm hn hsplit.2).symm⟩

/-- An id that starts with `w` is in none of the older spellings. -/
lemma stripStart_publicId (c : Char) (hc : c ≠ 'w') (counter : Nat) (rest : List Char) :
    stripStart [c, '_'] ((generateWorkspaceId counter).toList ++ rest) = none := by
  rw [toList_generateWorkspaceId, List.cons_append]
  exact stripStart_cons_of_ne hc

end Ork3.Workspaces

namespace Ork3.App

open Ork3.Library Ork3.Workspaces

/-! ### Resolving -/

section
variable {st : AppState} {i : Nat} {ws : Workspace}

/-- The ids of the workspaces differ and come from the generator. -/
def AppState.IdsGenerated (st : AppState) : Prop :=
  (st.workspaces.map (·.id)).Nodup ∧
    ∀ ws ∈ st.workspaces, ∃ n, 0 < n ∧ n < st.nextWorkspaceId ∧ ws.id = generateWorkspaceId n

lemma findIdx?_eq_some_of_unique {α : Type*} {xs : List α} {p : α → Bool} {i : Nat} {x : α}
    (hx : xs[i]? = some x) (hp : p x = true)
    (hunique : ∀ j y, xs[j]? = some y → p y = true → j = i) : xs.findIdx? p = some i := by
  obtain ⟨hi, rfl⟩ := List.getElem?_eq_some_iff.mp hx
  rw [List.findIdx?_eq_some_iff_getElem]
  refine ⟨hi, hp, fun j hj hpj => ?_⟩
  have hj' : j < xs.length := hj.trans hi
  exact hj.ne (hunique j xs[j] (List.getElem?_eq_getElem hj') hpj)

lemma eq_of_id_eq (hnodup : (st.workspaces.map (·.id)).Nodup) {j : Nat} {ws' : Workspace}
    (hws : st.workspaces[i]? = some ws) (hws' : st.workspaces[j]? = some ws')
    (hid : ws'.id = ws.id) : j = i := by
  have hlt : j < (st.workspaces.map (·.id)).length := by
    rw [List.length_map]
    exact (List.getElem?_eq_some_iff.mp hws').1
  refine (List.getElem?_inj hlt hnodup).mp ?_
  rw [List.getElem?_map, List.getElem?_map, hws, hws', Option.map_some, Option.map_some, hid]

lemma parseWorkspaceIdFrom_toList (hnodup : (st.workspaces.map (·.id)).Nodup)
    (hws : st.workspaces[i]? = some ws) : st.parseWorkspaceIdFrom ws.id.toList = some i := by
  have hfind : st.workspaces.findIdx? (fun ws' => ws'.id.toList = ws.id.toList) = some i :=
    findIdx?_eq_some_of_unique hws (decide_eq_true rfl) fun j ws' hws' hid =>
      eq_of_id_eq hnodup hws hws' (String.toList_inj.mp (of_decide_eq_true hid))
  rw [AppState.parseWorkspaceIdFrom, hfind]
  rfl

lemma parseWorkspaceId_id (hnodup : (st.workspaces.map (·.id)).Nodup)
    (hws : st.workspaces[i]? = some ws) : st.parseWorkspaceId ws.id = some i :=
  parseWorkspaceIdFrom_toList hnodup hws

lemma publicTabId_eq (hws : st.workspaces[i]? = some ws) {j : Nat} {tab : Tab}
    (htab : ws.tabs[j]? = some tab) :
    st.publicTabId i j = some (publicTabIdForNumber ws.id tab.number) := by
  rw [AppState.publicTabId, hws, Option.bind_eq_bind, Option.bind_some, Workspace.publicTabNumber,
    htab]
  rfl

/-- The tab a public tab id was made for. -/
lemma parseTabId_publicTabId (h : st.IdsGenerated) (hws : st.workspaces[i]? = some ws)
    (hnumbers : (ws.tabs.map Tab.number).Nodup) {j : Nat} {tab : Tab}
    (htab : ws.tabs[j]? = some tab) (hpos : 0 < tab.number) (hbound : tab.number < usizeBound) :
    st.parseTabId (publicTabIdForNumber ws.id tab.number) = some (i, j) := by
  obtain ⟨n, -, -, hid⟩ := h.2 ws (List.mem_of_getElem? hws)
  have hstart : stripStart ['t', '_'] (publicTabIdForNumber ws.id tab.number).toList = none := by
    rw [publicTabIdForNumber, String.toList_ofList, List.append_assoc, hid]
    exact stripStart_publicId 't' (by decide) n _
  have hnumber : stripStart ['t'] ('t' :: encodePublicNumber tab.number) =
      some (encodePublicNumber tab.number) :=
    stripStart_append ['t'] _
  have hfind : ws.tabs.findIdx? (fun tab' => tab'.number = tab.number) = some j := by
    refine findIdx?_eq_some_of_unique htab (decide_eq_true rfl) fun k tab' htab' hnum => ?_
    have hlt : k < (ws.tabs.map Tab.number).length := by
      rw [List.length_map]
      exact (List.getElem?_eq_some_iff.mp htab').1
    refine (List.getElem?_inj hlt hnumbers).mp ?_
    rw [List.getElem?_map, List.getElem?_map, htab, htab', Option.map_some, Option.map_some,
      of_decide_eq_true hnum]
  rw [AppState.parseTabId, hstart]
  dsimp only
  have hdecode := decode_encodePublicNumber hpos hbound
  simp only [rsplitOnce_publicTabId, parseWorkspaceIdFrom_toList h.1 hws, hnumber, hdecode, hws,
    hfind, htab, Option.bind_eq_bind, Option.bind_some]

lemma publicPaneId_eq (hws : st.workspaces[i]? = some ws) (paneId : PaneId) :
    st.publicPaneId i paneId =
      (ws.publicPaneNumbers.lookup paneId).map (publicPaneIdForNumber ws.id) := by
  rw [AppState.publicPaneId, hws, Option.bind_eq_bind, Option.bind_some,
    Workspace.publicPaneNumber]
  cases ws.publicPaneNumbers.lookup paneId <;> rfl

lemma find?_entries {ws : Workspace} (hc : ws.Consistent) {paneId : PaneId} {number : Nat}
    (hnumber : ws.publicPaneNumbers.lookup paneId = some number) :
    ws.publicPaneNumbers.entries.find? (fun entry => entry.2 = number) =
      some ⟨paneId, number⟩ := by
  have hmem := AList.mem_lookup_iff.mp hnumber
  have hsome : (ws.publicPaneNumbers.entries.find? fun entry => entry.2 = number).isSome := by
    rw [List.find?_isSome]
    exact ⟨_, hmem, decide_eq_true rfl⟩
  obtain ⟨⟨paneId', number'⟩, hfind⟩ := Option.isSome_iff_exists.mp hsome
  have hentry := List.mem_of_find?_eq_some hfind
  have heq := List.find?_some hfind
  obtain rfl : number' = number := of_decide_eq_true heq
  have hlookup := AList.mem_lookup_iff.mpr hentry
  rw [hfind, hc.pane_number_inj paneId' paneId number' hlookup hnumber]

/-- The pane a public pane id was made for, where no alias has that id. -/
lemma parsePaneId_publicPaneId (h : st.IdsGenerated) (hws : st.workspaces[i]? = some ws)
    (hc : ws.Consistent) {paneId : PaneId} {number : Nat}
    (hnumber : ws.publicPaneNumbers.lookup paneId = some number) (hbound : number < usizeBound)
    (halias : st.publicPaneIdAliases.lookup (publicPaneIdForNumber ws.id number) = none) :
    st.parsePaneId (publicPaneIdForNumber ws.id number) = some (i, paneId) := by
  obtain ⟨n, -, -, hid⟩ := h.2 ws (List.mem_of_getElem? hws)
  have hstart : stripStart ['p', '_'] (publicPaneIdForNumber ws.id number).toList = none := by
    rw [publicPaneIdForNumber, String.toList_ofList, List.append_assoc, hid]
    exact stripStart_publicId 'p' (by decide) n _
  rw [AppState.parsePaneId, halias]
  dsimp only
  rw [hstart]
  dsimp only
  have hdecode := decode_encodePublicNumber (hc.pane_number_pos paneId number hnumber) hbound
  simp only [rsplitOnce_publicPaneId, parseWorkspaceIdFrom_toList h.1 hws, hdecode,
    AppState.paneWithNumber, hws, find?_entries hc hnumber, Option.bind_eq_bind, Option.bind_some]

end

end Ork3.App
