import Ork3.Library.Tokens
import Ork3.Model.LayoutApply
import Ork3.Proofs.Layout

/-!
# What a layout description asks for

The tree of a description is built below one pane after the other: what is built below a pane takes
the place of its leaf. A description is asked for again by what is exported of its tree.
-/

namespace Ork3.Layout

/-! ### Putting a tree in the place of a leaf -/

/-- The tree with `t` in the place of the leaf `target`. -/
def Node.substitute (n : Node) (target : PaneId) (t : Node) : Node :=
  match n with
  | .pane id => if id = target then t else .pane id
  | .split d r first second => .split d r (first.substitute target t) (second.substitute target t)

section
variable {n : Node} {a b : PaneId}

lemma Node.splitAt_eq_substitute (d : Direction) (r : ℚ) :
    n.splitAt a d b r = n.substitute a (.split d r (.pane a) (.pane b)) := by
  induction n with
  | pane id =>
    unfold Node.splitAt Node.substitute
    by_cases hid : id = a
    · rw [if_pos hid, if_pos hid, hid]
    · rw [if_neg hid, if_neg hid]
  | split d' r' first second ih₁ ih₂ => rw [Node.splitAt, Node.substitute, ih₁, ih₂]

lemma Node.substitute_of_notMem (h : a ∉ n.collectIds) (t : Node) : n.substitute a t = n := by
  induction n with
  | pane id =>
    have hne : id ≠ a := by
      rintro rfl
      exact h (List.mem_singleton.mpr rfl)
    rw [Node.substitute, if_neg hne]
  | split d r first second ih₁ ih₂ =>
    rw [Node.collectIds, List.mem_append, not_or] at h
    rw [Node.substitute, ih₁ h.1, ih₂ h.2]

lemma Node.substitute_self : n.substitute a (.pane a) = n := by
  induction n with
  | pane id =>
    unfold Node.substitute
    by_cases hid : id = a
    · rw [if_pos hid, hid]
    · rw [if_neg hid]
  | split d r first second ih₁ ih₂ => rw [Node.substitute, ih₁, ih₂]

/-- A leaf that only what was put in may have is replaced there. -/
lemma Node.substitute_substitute (h : b ∈ n.collectIds → b = a) (t u : Node) :
    (n.substitute a t).substitute b u = n.substitute a (t.substitute b u) := by
  induction n with
  | pane id =>
    by_cases hid : id = a
    · have hput : ∀ t, (Node.pane id).substitute a t = t := fun t => if_pos hid
      rw [hput, hput]
    · have hne : id ≠ b := by
        rintro rfl
        exact hid (h (List.mem_singleton.mpr rfl))
      have hkept : ∀ t, (Node.pane id).substitute a t = .pane id := fun t => if_neg hid
      rw [hkept, hkept]
      exact if_neg hne
  | split d r first second ih₁ ih₂ =>
    rw [Node.collectIds, List.mem_append] at h
    rw [Node.substitute, Node.substitute, ih₁ fun hb => h (.inl hb), ih₂ fun hb => h (.inr hb),
      Node.substitute]

end

end Ork3.Layout

namespace Ork3.Workspaces

open Ork3.Library Ork3.Layout

/-! ### Labels -/

lemma trim_trim (s : List Char) : Terminal.trim (Terminal.trim s) = Terminal.trim s :=
  trimBy_of_ends (fun _ hc => ws_head_trimBy hc) fun _ hc => ws_getLast_trimBy hc

/-- What is left of a label is a label and stays one. -/
lemma trimmedLabel_of_trimmedLabel {label trimmed : String} (h : trimmedLabel label = some trimmed) :
    trimmedLabel trimmed = some trimmed := by
  unfold trimmedLabel at h ⊢
  dsimp only at h ⊢
  by_cases hempty : (String.ofList (Terminal.trim label.toList)).isEmpty = true
  · rw [if_pos hempty] at h
    cases h
  · rw [if_neg hempty, Option.some.injEq] at h
    subst h
    rw [String.toList_ofList, trim_trim, if_neg hempty]

lemma trimmedLabel_bind (label : Option String) :
    (label.bind trimmedLabel).bind trimmedLabel = label.bind trimmedLabel := by
  cases hlabel : label.bind trimmedLabel with
  | none => rfl
  | some trimmed =>
    obtain ⟨original, -, htrimmed⟩ := Option.bind_eq_some_iff.mp hlabel
    exact trimmedLabel_of_trimmedLabel htrimmed

/-! ### What a description asks for -/

/-- The terminal that a leaf asks for. -/
def LayoutPane.terminal (pane : LayoutPane) : LayoutTerminal :=
  ⟨pane.label.bind trimmedLabel, pane.command⟩

/-- The tree has the shape, the directions and the ratios that are asked for, and its leaves, in
order, have the terminals that are asked for. -/
def Realizes (terminalOf : PaneId → Option LayoutTerminal) : LayoutNode → Node → Prop
  | .pane pane, .pane id => terminalOf id = some pane.terminal
  | .split direction ratio first second, .split direction' ratio' first' second' =>
    direction' = direction.toDirection ∧ ratio' = ratio.clamp (1 / 10) (9 / 10) ∧
      Realizes terminalOf first first' ∧ Realizes terminalOf second second'
  | _, _ => False

lemma Realizes.congr {look look' : PaneId → Option LayoutTerminal}
    {node : LayoutNode} {t : Node} (hsame : ∀ id ∈ t.collectIds, look' id = look id)
    (h : Realizes look node t) : Realizes look' node t := by
  induction node generalizing t with
  | pane leaf =>
    cases t with
    | pane id => exact (hsame id (List.mem_singleton.mpr rfl)).trans h
    | split d r first second => exact h
  | split direction ratio first second ih₁ ih₂ =>
    cases t with
    | pane id => exact h
    | split d r first' second' =>
      obtain ⟨hd, hr, hfirst, hsecond⟩ := h
      refine ⟨hd, hr, ih₁ (fun id hid => ?_) hfirst, ih₂ (fun id hid => ?_) hsecond⟩
      · exact hsame id (List.mem_append_left _ hid)
      · exact hsame id (List.mem_append_right _ hid)

namespace LayoutNode

def leafCount : LayoutNode → Nat
  | .pane _ => 1
  | .split _ _ first second => first.leafCount + second.leafCount

/-- The description without what belongs to the panes that were described. -/
def anonymous : LayoutNode → LayoutNode
  | .pane leaf => .pane { leaf with paneId := none, cwd := none }
  | .split direction ratio first second => .split direction ratio first.anonymous second.anonymous

/-- What is left of a description once it is applied: environments are not kept. -/
def applied : LayoutNode → LayoutNode
  | .pane leaf => .pane ⟨none, leaf.label.bind trimmedLabel, none, leaf.command, []⟩
  | .split direction ratio first second =>
    .split direction (.finite (ratio.clamp (1 / 10) (9 / 10))) first.applied second.applied

/-- Each leaf can be launched and each ratio is a number. -/
def Launchable : LayoutNode → Prop
  | .pane leaf =>
    layoutCommand leaf = .ok leaf.command ∧ ∃ env, normalizeLaunchEnv leaf.env = .ok env
  | .split _ ratio first second => ratio.isFinite ∧ first.Launchable ∧ second.Launchable

variable {node : LayoutNode}

lemma leafCount_pos : 0 < node.leafCount := by
  induction node with
  | pane leaf => exact one_pos
  | split direction ratio first second ih₁ ih₂ => exact Nat.add_pos_left ih₁ _

lemma Launchable.leaf (h : node.Launchable) : (LayoutNode.pane (firstLayoutLeaf node)).Launchable := by
  induction node with
  | pane leaf => exact h
  | split direction ratio first second ih₁ ih₂ => exact ih₁ h.2.1

lemma layoutCommand_eq {leaf : LayoutPane} {command : Option (List String)}
    (h : layoutCommand leaf = .ok command) : command = leaf.command := by
  unfold layoutCommand at h
  cases hcommand : leaf.command with
  | none =>
    rw [hcommand] at h
    cases h
    rfl
  | some argv =>
    rw [hcommand] at h
    cases argv with
    | nil => cases h
    | cons program arguments =>
      cases h
      rfl

lemma normalizeLaunchEnv_nil : normalizeLaunchEnv [] = .ok [] := by
  simp [normalizeLaunchEnv, pure, Except.pure, bind, Except.bind]

/-- What the validation of a leaf finds. -/
lemma validateLayoutNode_pane {stats stats' : LayoutTreeStats} {depth : Nat} {leaf : LayoutPane}
    (h : validateLayoutNode stats depth (.pane leaf) = .ok stats') :
    depth ≤ maxLayoutDepth ∧ stats.panes + 1 ≤ maxLayoutPanes ∧
      stats' = ⟨stats.panes + 1, max stats.maxDepth depth⟩ ∧
      layoutCommand leaf = .ok leaf.command ∧ ∃ env, normalizeLaunchEnv leaf.env = .ok env := by
  unfold validateLayoutNode at h
  dsimp only at h
  by_cases hdepth : depth > maxLayoutDepth
  · rw [if_pos hdepth] at h
    cases h
  by_cases hpanes : stats.panes + 1 > maxLayoutPanes
  · rw [if_neg hdepth, if_pos hpanes] at h
    cases h
  rw [if_neg hdepth, if_neg hpanes] at h
  cases hcommand : layoutCommand leaf with
  | error message =>
    rw [hcommand] at h
    cases h
  | ok command =>
    cases henv : normalizeLaunchEnv leaf.env with
    | error failure =>
      rw [hcommand, henv] at h
      cases h
    | ok env =>
      rw [hcommand, henv] at h
      cases h
      rw [layoutCommand_eq hcommand]
      exact ⟨not_lt.mp hdepth, not_lt.mp hpanes, rfl, rfl, env, rfl⟩

lemma validateLayoutNode_split {stats stats' : LayoutTreeStats} {depth : Nat}
    {direction : SplitDirection} {ratio : F32} {first second : LayoutNode}
    (h : validateLayoutNode stats depth (.split direction ratio first second) = .ok stats') :
    depth ≤ maxLayoutDepth ∧ ratio.isFinite = true ∧
      ∃ between, validateLayoutNode ⟨stats.panes, max stats.maxDepth depth⟩ (depth + 1) first =
        .ok between ∧ validateLayoutNode between (depth + 1) second = .ok stats' := by
  unfold validateLayoutNode at h
  dsimp only at h
  by_cases hdepth : depth > maxLayoutDepth
  · rw [if_pos hdepth] at h
    cases h
  cases hratio : ratio.isFinite with
  | false =>
    rw [if_neg hdepth, hratio] at h
    cases h
  | true =>
    rw [if_neg hdepth, hratio] at h
    cases hfirst : validateLayoutNode ⟨stats.panes, max stats.maxDepth depth⟩ (depth + 1) first with
    | error message =>
      simp only [hfirst, Bool.not_true, Bool.false_eq_true, if_false] at h
      cases h
    | ok between =>
      simp only [hfirst, Bool.not_true, Bool.false_eq_true, if_false] at h
      exact ⟨not_lt.mp hdepth, rfl, between, rfl, h⟩

lemma launchable_of_validateLayoutNode {stats stats' : LayoutTreeStats} {depth : Nat}
    (h : validateLayoutNode stats depth node = .ok stats') : node.Launchable := by
  induction node generalizing stats stats' depth with
  | pane leaf =>
    obtain ⟨-, -, -, hlaunch⟩ := validateLayoutNode_pane h
    exact hlaunch
  | split direction ratio first second ih₁ ih₂ =>
    obtain ⟨-, hratio, between, hfirst, hsecond⟩ := validateLayoutNode_split h
    exact ⟨hratio, ih₁ hfirst, ih₂ hsecond⟩

lemma launchable_of_validateLayoutTree (h : validateLayoutTree node = .ok ()) :
    node.Launchable := by
  unfold validateLayoutTree at h
  cases hnode : validateLayoutNode ⟨0, 0⟩ 1 node with
  | error message =>
    rw [hnode] at h
    cases h
  | ok stats => exact launchable_of_validateLayoutNode hnode

/-- What is exported after an apply passes the validation that the description passed. -/
lemma validateLayoutNode_of_applied {exported : LayoutNode} {stats stats' : LayoutTreeStats}
    {depth : Nat} (hsame : exported.anonymous = node.applied)
    (h : validateLayoutNode stats depth node = .ok stats') :
    validateLayoutNode stats depth exported = .ok stats' := by
  induction node generalizing exported stats stats' depth with
  | pane leaf =>
    obtain ⟨hdepth, hpanes, rfl, hcommand, -⟩ := validateLayoutNode_pane h
    cases exported with
    | split direction ratio first second => cases hsame
    | pane exported =>
      have hfields := LayoutNode.pane.inj hsame
      rw [LayoutPane.mk.injEq] at hfields
      obtain ⟨-, -, -, hcommand', henv'⟩ := hfields
      have hsame' : layoutCommand exported = .ok leaf.command := by
        unfold layoutCommand at hcommand ⊢
        rw [hcommand']
        exact hcommand
      have henv : normalizeLaunchEnv exported.env = .ok [] := by
        rw [henv']
        exact normalizeLaunchEnv_nil
      unfold validateLayoutNode
      dsimp only
      rw [if_neg (not_lt.mpr hdepth), if_neg (not_lt.mpr hpanes), hsame', henv]
  | split direction ratio first second ih₁ ih₂ =>
    obtain ⟨hdepth, hratio, between, hfirst, hsecond⟩ := validateLayoutNode_split h
    cases exported with
    | pane exported => cases hsame
    | split direction' ratio' first' second' =>
      obtain ⟨-, hratio', hfirst', hsecond'⟩ := LayoutNode.split.inj hsame
      have hfinite : ratio'.isFinite = true := by
        rw [hratio']
        rfl
      unfold validateLayoutNode
      dsimp only
      rw [if_neg (not_lt.mpr hdepth), hfinite, ih₁ hfirst' hfirst]
      exact ih₂ hsecond' hsecond

lemma validateLayoutTree_of_applied {exported : LayoutNode}
    (hsame : exported.anonymous = node.applied) (h : validateLayoutTree node = .ok ()) :
    validateLayoutTree exported = .ok () := by
  unfold validateLayoutTree at h ⊢
  cases hnode : validateLayoutNode ⟨0, 0⟩ 1 node with
  | error message =>
    rw [hnode] at h
    cases h
  | ok stats =>
    rw [hnode] at h
    rw [validateLayoutNode_of_applied hsame hnode]
    exact h

/-- Applying what is exported after an apply leaves as much as the first apply. -/
lemma applied_of_applied {exported : LayoutNode} (hsame : exported.anonymous = node.applied) :
    exported.applied = node.applied := by
  induction node generalizing exported with
  | pane leaf =>
    cases exported with
    | split direction ratio first second => cases hsame
    | pane exported =>
      have hfields := LayoutNode.pane.inj hsame
      rw [LayoutPane.mk.injEq] at hfields
      obtain ⟨-, hlabel, -, hcommand, -⟩ := hfields
      rw [applied, applied, hlabel, hcommand, trimmedLabel_bind]
  | split direction ratio first second ih₁ ih₂ =>
    cases exported with
    | pane exported => cases hsame
    | split direction' ratio' first' second' =>
      obtain ⟨hdirection, hratio, hfirst, hsecond⟩ := LayoutNode.split.inj hsame
      have hbounds := ratio.clamp_mem (by norm_num : (1 / 10 : ℚ) ≤ 9 / 10)
      have hkept : F32.clamp (.finite (ratio.clamp (1 / 10) (9 / 10))) (1 / 10) (9 / 10) =
          ratio.clamp (1 / 10) (9 / 10) := by
        generalize ratio.clamp (1 / 10) (9 / 10) = q at hbounds
        unfold F32.clamp
        dsimp only
        rw [if_neg (not_lt.mpr hbounds.1), if_neg (not_lt.mpr hbounds.2)]
      rw [applied, applied, ih₁ hfirst, ih₂ hsecond, hdirection, hratio, hkept]

end LayoutNode

end Ork3.Workspaces
