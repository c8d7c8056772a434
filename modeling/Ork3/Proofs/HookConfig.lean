import Ork3.Model.HookConfig

/-!
# Installing and uninstalling a hook

Installing keeps what is there and installing again changes nothing. Uninstalling also takes out groups
and events that were empty before, so it gives back what was there exactly where nothing was empty.
-/

namespace Ork3.Integration

open Value

/-! ### What the operations are for -/

/-- The formats of hook files. A direct entry names its command by the platform's shell. -/
inductive HookFormat
  | nested
  | flat
  | direct (windows : Bool)
  | simple

namespace HookFormat

/-- The entry runs the command. -/
def carries (format : HookFormat) (command : String) (entry : Value) : Bool :=
  match format with
  | .nested => isInstalledGroup entry command
  | .flat => isMatchingCommandHook entry command
  | .direct _ => isDirectCommandEntry entry command
  | .simple => isSimpleCommandEntry entry command

/-- The group without the command's hooks, unless it has no others. -/
def stripGroup (command : String) : Value → Option Value
  | .object fields =>
    let others := ((fields "hooks").bind asArray).elim [] fun hookEntries =>
      hookEntries.filter fun hook => !isMatchingCommandHook hook command
    if others = [] then none else some (.object (Map.insert fields "hooks" (.array others)))
  | entry => some entry

/-- What should be left of an entry. -/
def strip (format : HookFormat) (command : String) (entry : Value) : Option Value :=
  if format.carries command entry then
    match format with
    | .nested => stripGroup command entry
    | _ => none
  else some entry

/-- The group has no hooks at all. -/
def hollow (format : HookFormat) (entry : Value) : Prop :=
  match format with
  | .nested => (entry.get "hooks").bind asArray = some []
  | _ => False

def ensure (format : HookFormat) (event command : String) (timeout : UInt64)
    (matcher : Option String) (hooks : Map) : Except String Map :=
  match format with
  | .nested => ensureCommandHook hooks event command timeout matcher
  | .flat => ensureFlatCommandHook hooks event command timeout
  | .direct windows => ensureDirectCommandHook windows hooks event command timeout matcher
  | .simple => ensureSimpleCommandHook hooks event command

def remove (format : HookFormat) (event command : String) (hooks : Map) :
    Except String (Map × Bool) :=
  match format with
  | .nested => removeCommandHook hooks event command
  | .flat => removeFlatCommandHook hooks event command
  | .direct _ => removeDirectCommandHook hooks event command
  | .simple => removeSimpleCommandHook hooks event command

end HookFormat

/-- The entries of an event. -/
def entriesOf (hooks : Map) (event : String) : List Value :=
  ((hooks event).bind asArray).getD []

/-- An event that has lost its last entry goes with it; nothing else changes. -/
def removed (format : HookFormat) (event command : String) (hooks : Map) :
    Except String (Map × Bool) :=
  match hooks event with
  | none => .ok (hooks, false)
  | some (.array entries) =>
    if entries.any (format.carries command) then
      .ok (setEntries hooks event (entries.filterMap (format.strip command)), true)
    else .ok (hooks, false)
  | some _ => .error (notAnArray event)

/-- What is asked of installing and uninstalling a hook. -/
structure HookLaws (format : HookFormat) (event command : String) (timeout : UInt64)
    (matcher : Option String) (hooks : Map) : Prop where
  idempotent : ∀ hooks', format.ensure event command timeout matcher hooks = .ok hooks' →
    format.ensure event command timeout matcher hooks' = .ok hooks'
  keeps : ∀ hooks', format.ensure event command timeout matcher hooks = .ok hooks' →
    (∀ other ≠ event, hooks' other = hooks other) ∧
      (entriesOf hooks' event).filter (fun entry => !format.carries command entry) =
        (entriesOf hooks event).filter fun entry => !format.carries command entry
  removes : format.remove event command hooks = removed format event command hooks
  inverse : (∀ entry ∈ entriesOf hooks event, format.carries command entry = false) →
    ∀ hooks', format.ensure event command timeout matcher hooks = .ok hooks' →
      format.remove event command hooks' = .ok (hooks, true)

/-- The event has no entries, or one of its groups has no hooks. -/
def HasHollow (format : HookFormat) (event : String) (hooks : Map) : Prop :=
  hooks event = some (.array []) ∨ ∃ entry ∈ entriesOf hooks event, format.hollow entry

section
variable {hooks hooks' : Map} {event command : String} {timeout : UInt64}
  {matcher : Option String} {format : HookFormat} {entries entries' : List Value} {entry entry' : Value}

/-! ### Maps -/

@[simp] lemma Map.insert_same (map : Map) (key : String) (value : Value) :
    map.insert key value key = some value :=
  Function.update_self ..

@[simp] lemma Map.insert_of_ne (map : Map) {key other : String} (value : Value)
    (h : other ≠ key) : map.insert key value other = map other :=
  Function.update_of_ne h ..

@[simp] lemma Map.remove_same (map : Map) (key : String) : map.remove key key = none :=
  Function.update_self ..

@[simp] lemma Map.remove_of_ne (map : Map) {key other : String} (h : other ≠ key) :
    map.remove key other = map other :=
  Function.update_of_ne h ..

@[simp] lemma Map.insert_insert (map : Map) (key : String) (a b : Value) :
    (map.insert key a).insert key b = map.insert key b :=
  Function.update_idem ..

@[simp] lemma Map.remove_insert (map : Map) (key : String) (value : Value) :
    (map.insert key value).remove key = map.remove key :=
  Function.update_idem ..

lemma Map.insert_of_eq {map : Map} {key : String} {value : Value} (h : map key = some value) :
    map.insert key value = map := by
  unfold Map.insert
  rw [← h, Function.update_eq_self]

lemma Map.remove_of_eq {map : Map} {key : String} (h : map key = none) : map.remove key = map := by
  unfold Map.remove
  rw [← h, Function.update_eq_self]

lemma Map.orInsert_of_none {map : Map} {key : String} (h : map key = none) (value : Value) :
    map.orInsert key value = map.insert key value := by
  simp [Map.orInsert, h]

lemma Map.orInsert_of_some {map : Map} {key : String} {old : Value} (h : map key = some old)
    (value : Value) : map.orInsert key value = map := by
  simp [Map.orInsert, h]

lemma setEntries_injective (h : setEntries hooks event entries = setEntries hooks event entries') :
    entries = entries' := by
  have hsame := congrFun h event
  unfold setEntries at hsame
  cases entries <;> cases entries' <;> simp_all

/-! ### What uninstalling keeps -/

/-- What the code keeps of an entry. -/
def HookFormat.kept (format : HookFormat) (command : String) (entry : Value) : Option Value :=
  match format with
  | .nested => (retainGroup command entry).1
  | _ => if format.carries command entry then none else some entry

lemma length_filter_not_bne {α : Type} (p : α → Bool) (xs : List α) :
    ((xs.filter fun x => !p x).length != xs.length) = xs.any p := by
  induction xs with
  | nil => rfl
  | cons x xs ih =>
    have hle := List.length_filter_le (fun x => !p x) xs
    cases hx : p x with
    | false =>
      rw [List.filter_cons_of_pos (by simp [hx]), List.any_cons, hx, Bool.false_or, ← ih]
      simp [bne]
    | true =>
      rw [List.filter_cons_of_neg (by simp [hx]), List.any_cons, hx, Bool.true_or, bne_iff_ne,
        List.length_cons]
      omega

lemma filterMap_ite_not {α : Type} (p : α → Bool) (xs : List α) :
    xs.filterMap (fun x => if p x then none else some x) = xs.filter fun x => !p x := by
  induction xs with
  | nil => rfl
  | cons x xs ih =>
    cases hx : p x <;> simp [hx, ih]

lemma retainGroup_snd (command : String) (entry : Value) :
    (retainGroup command entry).2 = isInstalledGroup entry command := by
  cases entry with
  | object fields =>
    cases hhooks : fields "hooks" with
    | none => simp [retainGroup, isInstalledGroup, Value.get, hhooks]
    | some value =>
      cases value with
      | array hookEntries =>
        simp only [retainGroup, isInstalledGroup, Value.get, hhooks, Option.bind_some, asArray,
          Option.any_some]
        exact length_filter_not_bne _ _
      | _ => simp [retainGroup, isInstalledGroup, Value.get, hhooks, asArray]
  | _ => rfl

/-- Only a group without hooks is not treated as it should be. -/
lemma retainGroup_fst (h : ¬ HookFormat.nested.hollow entry) :
    (retainGroup command entry).1 = HookFormat.nested.strip command entry := by
  have hstrip : HookFormat.nested.strip command entry =
      if isInstalledGroup entry command then HookFormat.stripGroup command entry
      else some entry := rfl
  rw [hstrip]
  cases entry with
  | object fields =>
    cases hhooks : fields "hooks" with
    | none => simp [retainGroup, isInstalledGroup, Value.get, hhooks]
    | some value =>
      cases value with
      | array hookEntries =>
        have hinstalled : isInstalledGroup (.object fields) command =
            hookEntries.any fun hook => isMatchingCommandHook hook command := by
          simp [isInstalledGroup, Value.get, hhooks, asArray]
        have hne : hookEntries ≠ [] := by
          intro hnil
          apply h
          simp [HookFormat.hollow, Value.get, hhooks, asArray, hnil]
        rw [hinstalled]
        cases hany : hookEntries.any fun hook => isMatchingCommandHook hook command with
        | true => simp [retainGroup, HookFormat.stripGroup, hhooks, asArray]
        | false =>
          have hall : hookEntries.filter (fun hook => !isMatchingCommandHook hook command) =
              hookEntries := by
            apply List.filter_eq_self.mpr
            intro hook hmem
            simpa using List.any_eq_false.mp hany hook hmem
          have hsame : Map.insert fields "hooks" (.array hookEntries) = fields :=
            Map.insert_of_eq hhooks
          simp [retainGroup, hhooks, hall, hne, hsame]
      | _ => simp [retainGroup, isInstalledGroup, Value.get, hhooks, asArray]
  | _ => rfl

lemma retainGroup_hollow (h : HookFormat.nested.hollow entry) :
    (retainGroup command entry).1 = none := by
  cases entry with
  | object fields =>
    have hhooks : (fields "hooks").bind asArray = some [] := h
    cases hvalue : fields "hooks" with
    | none => simp [hvalue] at hhooks
    | some value =>
      cases value with
      | array hookEntries =>
        have hnil : hookEntries = [] := by simpa [hvalue, asArray] using hhooks
        simp [retainGroup, hvalue, hnil]
      | _ => simp [hvalue, asArray] at hhooks
  | _ => cases h

lemma not_hollow_of_retainGroup (h : (retainGroup command entry).1 = some entry') :
    ¬ HookFormat.nested.hollow entry' := by
  by_cases hhollow : HookFormat.nested.hollow entry
  · rw [retainGroup_hollow hhollow] at h
    cases h
  · cases entry with
    | object fields =>
      cases hvalue : fields "hooks" with
      | none => simp_all [retainGroup]
      | some value =>
        cases value with
        | array hookEntries =>
          by_cases hnil : (hookEntries.filter fun hook =>
              !isMatchingCommandHook hook command) = []
          · simp [retainGroup, hvalue, hnil] at h
          · have hentry' : entry' = .object (Map.insert fields "hooks"
                (.array (hookEntries.filter fun hook => !isMatchingCommandHook hook command))) := by
              simpa [retainGroup, hvalue, hnil] using h.symm
            rw [hentry']
            simp only [HookFormat.hollow, Value.get, Map.insert_same, Option.bind_some, asArray,
              Option.some.injEq]
            exact hnil
        | _ => simp_all [retainGroup]
    | _ => simp_all [retainGroup]

namespace HookFormat

lemma strip_of_not_carries (h : format.carries command entry = false) :
    format.strip command entry = some entry := by
  simp [strip, h]

lemma carries_of_hollow (h : format.hollow entry) : format.carries command entry = false := by
  cases format with
  | nested =>
    have hhooks : (entry.get "hooks").bind asArray = some [] := h
    simp [carries, isInstalledGroup, hhooks]
  | _ => exact h.elim

lemma kept_of_not_hollow (h : ¬ format.hollow entry) :
    format.kept command entry = format.strip command entry := by
  cases format with
  | nested => exact retainGroup_fst h
  | _ => rfl

lemma not_hollow_of_kept (h : format.kept command entry = some entry') :
    ¬ format.hollow entry' := by
  cases format with
  | nested => exact not_hollow_of_retainGroup h
  | _ => exact not_false

lemma remove_of_array (h : hooks event = some (.array entries)) :
    format.remove event command hooks =
      .ok (setEntries hooks event (entries.filterMap (format.kept command)),
        entries.any (format.carries command)) := by
  have hflat : ∀ matching : Value → Bool, removeEntries matching hooks event =
      .ok (setEntries hooks event
        (entries.filterMap fun entry => if matching entry then none else some entry),
        entries.any matching) := by
    intro matching
    rw [filterMap_ite_not, ← length_filter_not_bne]
    simp [removeEntries, h]
  cases format with
  | nested =>
    have hany : (entries.any fun entry => (retainGroup command entry).2) =
        entries.any fun entry => isInstalledGroup entry command := by
      simp only [retainGroup_snd]
    change removeCommandHook hooks event command = _
    simp only [removeCommandHook, h, hany]
    rfl
  | flat => exact hflat _
  | direct windows => exact hflat _
  | simple => exact hflat _

lemma remove_of_none (h : hooks event = none) :
    format.remove event command hooks = .ok (hooks, false) := by
  cases format <;> simp [remove, removeCommandHook, removeFlatCommandHook, removeDirectCommandHook,
    removeSimpleCommandHook, removeEntries, h]

lemma remove_of_other {value : Value} (h : hooks event = some value)
    (hother : ∀ entries, value ≠ .array entries) :
    format.remove event command hooks = .error (notAnArray event) := by
  cases value with
  | array entries => exact absurd rfl (hother entries)
  | _ =>
    cases format <;> simp [remove, removeCommandHook, removeFlatCommandHook,
      removeDirectCommandHook, removeSimpleCommandHook, removeEntries, h]

end HookFormat

/-! ### What installing adds -/

lemma any_replaceF {α : Type} {p : α → Bool} {f : α → α} (hf : ∀ x, p x = true → p (f x) = true)
    (xs : List α) :
    (xs.replaceF fun x => if p x then some (f x) else none).any p = xs.any p := by
  induction xs with
  | nil => rfl
  | cons x xs ih =>
    cases hx : p x with
    | true => simp [List.replaceF, hx, hf x hx]
    | false => simp [List.replaceF, hx, ih]

lemma filter_replaceF {α : Type} {p : α → Bool} {f : α → α} (hf : ∀ x, p x = true → p (f x) = true)
    (xs : List α) :
    (xs.replaceF fun x => if p x then some (f x) else none).filter (fun x => !p x) =
      xs.filter fun x => !p x := by
  induction xs with
  | nil => rfl
  | cons x xs ih =>
    cases hx : p x with
    | true => simp [List.replaceF, hx, hf x hx]
    | false => simp [List.replaceF, hx, ih]

lemma replaceF_replaceF {α : Type} {p : α → Bool} {f : α → α}
    (hf : ∀ x, p x = true → p (f x) = true) (hidem : ∀ x, p x = true → f (f x) = f x)
    (xs : List α) :
    (xs.replaceF fun x => if p x then some (f x) else none).replaceF
        (fun x => if p x then some (f x) else none) =
      xs.replaceF fun x => if p x then some (f x) else none := by
  induction xs with
  | nil => rfl
  | cons x xs ih =>
    cases hx : p x with
    | true => simp [List.replaceF, hx, hf x hx, hidem x hx]
    | false => simp [List.replaceF, hx, ih]

lemma replaceF_concat {α : Type} {p : α → Bool} {f : α → α} {x : α} {xs : List α}
    (hxs : ∀ y ∈ xs, p y = false) (hx : p x = true) (hfix : f x = x) :
    (xs ++ [x]).replaceF (fun x => if p x then some (f x) else none) = xs ++ [x] := by
  induction xs with
  | nil => simp [List.replaceF, hx, hfix]
  | cons y xs ih =>
    have hy := hxs y List.mem_cons_self
    have hrest := ih fun z hz => hxs z (List.mem_cons_of_mem y hz)
    simp [List.replaceF, hy, hrest]

lemma updateDirectEntry_carries (windows : Bool) (timeout : UInt64) (matcher : Option String)
    (entry : Value) (h : isDirectCommandEntry entry command = true) :
    isDirectCommandEntry (updateDirectEntry windows command timeout matcher entry) command =
      true := by
  cases entry with
  | object fields =>
    have htype : (fields "type").bind asStr = some "command" := by
      simp only [isDirectCommandEntry, Value.get, Bool.and_eq_true] at h
      exact of_decide_eq_true h.1
    cases windows <;> cases matcher <;>
      simp [isDirectCommandEntry, isMatchingDirectCommandEntry, updateDirectEntry, Value.get,
        directCommandField, htype, asStr]
  | _ => simp [isDirectCommandEntry, Value.get] at h

/-- The second update writes what the first one has written. -/
lemma updateDirectEntry_idempotent (windows : Bool) (command : String) (timeout : UInt64)
    (matcher : Option String) (entry : Value) :
    updateDirectEntry windows command timeout matcher
        (updateDirectEntry windows command timeout matcher entry) =
      updateDirectEntry windows command timeout matcher entry := by
  cases entry with
  | object fields =>
    simp only [updateDirectEntry, Value.object.injEq]
    funext key
    cases windows <;> cases matcher <;>
      simp only [directCommandField, Map.insert, Map.remove, Function.update_apply] <;>
      grind
  | _ => rfl

lemma updateDirectEntry_directEntry (windows : Bool) (command : String) (timeout : UInt64)
    (matcher : Option String) :
    updateDirectEntry windows command timeout matcher
        (directEntry windows command timeout matcher) =
      directEntry windows command timeout matcher := by
  simp only [updateDirectEntry, directEntry, Value.object.injEq]
  funext key
  cases windows <;> cases matcher <;>
    simp only [directCommandField, Map.insert, Map.remove, Map.empty, Function.update_apply] <;>
    grind

namespace HookFormat

/-- The entry that is pushed. -/
def added (format : HookFormat) (command : String) (timeout : UInt64) (matcher : Option String) :
    Value :=
  match format with
  | .nested => commandGroup command timeout matcher
  | .flat => flatEntry command timeout
  | .direct windows => directEntry windows command timeout matcher
  | .simple => simpleEntry command

/-- What becomes of entries of which one carries the command. -/
def updated (format : HookFormat) (command : String) (timeout : UInt64) (matcher : Option String)
    (entries : List Value) : List Value :=
  match format with
  | .direct windows => entries.replaceF fun entry =>
      if isDirectCommandEntry entry command then
        some (updateDirectEntry windows command timeout matcher entry)
      else none
  | _ => entries

/-- The entries of the event behind an installation. -/
def installed (format : HookFormat) (command : String) (timeout : UInt64) (matcher : Option String)
    (entries : List Value) : List Value :=
  if entries.any (format.carries command) then format.updated command timeout matcher entries
  else entries ++ [format.added command timeout matcher]

lemma carries_added : format.carries command (format.added command timeout matcher) = true := by
  cases format with
  | nested => cases matcher <;> simp [carries, added, isInstalledGroup, isMatchingCommandHook,
      commandGroup, Value.get, asArray, asStr]
  | flat => simp [carries, added, isMatchingCommandHook, flatEntry, Value.get, asStr]
  | direct windows => cases windows <;> cases matcher <;>
      simp [carries, added, isDirectCommandEntry, isMatchingDirectCommandEntry, directEntry,
        directCommandField, Value.get, asStr]
  | simple => simp [carries, added, isSimpleCommandEntry, simpleEntry, Value.get, asStr]

lemma kept_added : format.kept command (format.added command timeout matcher) = none := by
  have hcarries : format.carries command (format.added command timeout matcher) = true :=
    carries_added
  cases format with
  | nested => cases matcher <;> simp [kept, added, retainGroup, isMatchingCommandHook,
      commandGroup, Value.get, asStr]
  | _ => exact if_pos hcarries

lemma any_updated (entries : List Value) :
    (format.updated command timeout matcher entries).any (format.carries command) =
      entries.any (format.carries command) := by
  cases format with
  | direct windows => exact any_replaceF (updateDirectEntry_carries windows timeout matcher) entries
  | _ => rfl

lemma filter_updated (entries : List Value) :
    (format.updated command timeout matcher entries).filter
        (fun entry => !format.carries command entry) =
      entries.filter fun entry => !format.carries command entry := by
  cases format with
  | direct windows => exact filter_replaceF (updateDirectEntry_carries windows timeout matcher) entries
  | _ => rfl

lemma updated_updated (entries : List Value) :
    format.updated command timeout matcher (format.updated command timeout matcher entries) =
      format.updated command timeout matcher entries := by
  cases format with
  | direct windows =>
    have hidem := updateDirectEntry_idempotent windows command timeout matcher
    exact replaceF_replaceF (updateDirectEntry_carries windows timeout matcher)
      (fun entry _ => hidem entry) entries
  | _ => rfl

lemma updated_concat (h : ∀ entry ∈ entries, format.carries command entry = false) :
    format.updated command timeout matcher (entries ++ [format.added command timeout matcher]) =
      entries ++ [format.added command timeout matcher] := by
  cases format with
  | direct windows =>
    have hadded : carries (.direct windows) command
        (added (.direct windows) command timeout matcher) = true := carries_added
    exact replaceF_concat h hadded (updateDirectEntry_directEntry windows command timeout matcher)
  | _ => rfl

end HookFormat

/-! ### The laws -/

/-- The event has these entries, or is not there and has none. -/
def HasEntries (hooks : Map) (event : String) (entries : List Value) : Prop :=
  hooks event = none ∧ entries = [] ∨ hooks event = some (.array entries)

lemma HasEntries.entriesOf (h : HasEntries hooks event entries) :
    entriesOf hooks event = entries := by
  rcases h with ⟨hnone, rfl⟩ | hsome
  · simp [Integration.entriesOf, hnone]
  · simp [Integration.entriesOf, hsome, asArray]

lemma hasEntries_insert (hooks : Map) (event : String) (entries : List Value) :
    HasEntries (hooks.insert event (.array entries)) event entries :=
  .inr (Map.insert_same ..)

namespace HookFormat

lemma ensure_of_hasEntries (h : HasEntries hooks event entries) :
    format.ensure event command timeout matcher hooks =
      .ok (hooks.insert event (.array (format.installed command timeout matcher entries))) := by
  have hevent : hooks.orInsert event (.array []) event = some (.array entries) := by
    rcases h with ⟨hnone, rfl⟩ | hsome
    · simp [Map.orInsert_of_none hnone]
    · simp [Map.orInsert_of_some hsome, hsome]
  have hinsert : ∀ value, (hooks.orInsert event (.array [])).insert event value =
      hooks.insert event value := by
    intro value
    rcases h with ⟨hnone, rfl⟩ | hsome
    · simp [Map.orInsert_of_none hnone]
    · simp [Map.orInsert_of_some hsome]
  have hsame : hooks.orInsert event (.array []) = hooks.insert event (.array entries) := by
    rw [← hinsert, Map.insert_of_eq hevent]
  have hentry : ∀ matching added, ensureEntry matching added hooks event =
      .ok (hooks.insert event
        (.array (if entries.any matching then entries else entries ++ [added]))) := by
    intro matching added
    simp only [ensureEntry, hevent, hinsert]
    split
    · rw [hsame]
    · rfl
  cases format with
  | direct windows =>
    have hcarries : carries (.direct windows) command = (isDirectCommandEntry · command) := rfl
    simp only [ensure, ensureDirectCommandHook, hevent, hinsert, installed, hcarries, updated, added]
    split <;> rfl
  | nested => exact hentry _ _
  | flat => exact hentry _ _
  | simple => exact hentry _ _

lemma ensure_of_other {value : Value} (h : hooks event = some value)
    (hother : ∀ entries, value ≠ .array entries) :
    format.ensure event command timeout matcher hooks = .error (notAnArray event) := by
  cases value with
  | array entries => exact absurd rfl (hother entries)
  | _ =>
    cases format <;> simp [ensure, ensureCommandHook, ensureFlatCommandHook,
      ensureDirectCommandHook, ensureSimpleCommandHook, ensureEntry, Map.orInsert_of_some h, h]

lemma ensure_ok (h : format.ensure event command timeout matcher hooks = .ok hooks') :
    ∃ entries, HasEntries hooks event entries ∧
      hooks' = hooks.insert event (.array (format.installed command timeout matcher entries)) := by
  have hspec : ∀ entries, HasEntries hooks event entries →
      hooks' = hooks.insert event
        (.array (format.installed command timeout matcher entries)) := by
    intro entries hentries
    rw [ensure_of_hasEntries hentries] at h
    exact (Except.ok.inj h).symm
  cases hevent : hooks event with
  | none => exact ⟨[], .inl ⟨hevent, rfl⟩, hspec [] (.inl ⟨hevent, rfl⟩)⟩
  | some value =>
    by_cases harray : ∃ entries, value = .array entries
    · obtain ⟨entries, rfl⟩ := harray
      exact ⟨entries, .inr hevent, hspec entries (.inr hevent)⟩
    · rw [ensure_of_other hevent fun entries hvalue => harray ⟨entries, hvalue⟩] at h
      cases h

lemma any_installed (entries : List Value) :
    (format.installed command timeout matcher entries).any (format.carries command) = true := by
  unfold installed
  cases hany : entries.any (format.carries command) with
  | true => rw [if_pos rfl, any_updated, hany]
  | false => simp [carries_added]

lemma installed_installed (entries : List Value) :
    format.installed command timeout matcher (format.installed command timeout matcher entries) =
      format.installed command timeout matcher entries := by
  have hany : (format.installed command timeout matcher entries).any (format.carries command) =
      true := any_installed entries
  generalize hinstalled : format.installed command timeout matcher entries = now at hany ⊢
  unfold installed
  rw [if_pos hany, ← hinstalled]
  unfold installed
  cases hold : entries.any (format.carries command) with
  | true => rw [if_pos rfl, updated_updated]
  | false =>
    rw [if_neg Bool.false_ne_true, updated_concat]
    intro entry hmem
    simpa using List.any_eq_false.mp hold entry hmem

lemma filter_installed (entries : List Value) :
    (format.installed command timeout matcher entries).filter
        (fun entry => !format.carries command entry) =
      entries.filter fun entry => !format.carries command entry := by
  unfold installed
  split
  · exact filter_updated entries
  · simp [List.filter_append, carries_added]

/-- What the code keeps is what should be left, exactly where no group is hollow. -/
lemma filterMap_kept (h : ∀ entry ∈ entries, ¬ format.hollow entry) :
    entries.filterMap (format.kept command) = entries.filterMap (format.strip command) :=
  List.filterMap_congr fun entry hmem => kept_of_not_hollow (h entry hmem)

lemma filterMap_strip (h : ∀ entry ∈ entries, format.carries command entry = false) :
    entries.filterMap (format.strip command) = entries := by
  have hsome : entries.filterMap (format.strip command) = entries.filterMap some :=
    List.filterMap_congr fun entry hmem => strip_of_not_carries (h entry hmem)
  rw [hsome, List.filterMap_some]

end HookFormat

lemma setEntries_of_eq (h : hooks event = some (.array entries)) (hne : entries ≠ []) :
    setEntries hooks event entries = hooks := by
  unfold setEntries
  rw [if_neg (by simpa using hne), Map.insert_of_eq h]

/-- Uninstalling leaves what it should wherever the event has entries and no group is hollow. -/
lemma removes_of_not_hasHollow (h : ¬ HasHollow format event hooks) :
    format.remove event command hooks = removed format event command hooks := by
  cases hevent : hooks event with
  | none => rw [HookFormat.remove_of_none hevent, removed, hevent]
  | some value =>
    by_cases harray : ∃ entries, value = .array entries
    · obtain ⟨entries, rfl⟩ := harray
      have hentries : entriesOf hooks event = entries := HasEntries.entriesOf (.inr hevent)
      have hne : entries ≠ [] := fun hnil => h (.inl (by rw [hevent, hnil]))
      have hfull : ∀ entry ∈ entries, ¬ format.hollow entry := by
        intro entry hmem hhollow
        exact h (.inr ⟨entry, hentries ▸ hmem, hhollow⟩)
      rw [HookFormat.remove_of_array hevent, HookFormat.filterMap_kept hfull, removed, hevent]
      dsimp only
      cases hany : entries.any (format.carries command) with
      | true => rw [if_pos rfl]
      | false =>
        have hstrip : entries.filterMap (format.strip command) = entries := by
          apply HookFormat.filterMap_strip
          intro entry hmem
          simpa using List.any_eq_false.mp hany entry hmem
        rw [hstrip, setEntries_of_eq hevent hne, if_neg Bool.false_ne_true]
    · have hother : ∀ entries, value ≠ .array entries := fun entries hvalue =>
        harray ⟨entries, hvalue⟩
      rw [HookFormat.remove_of_other hevent hother, removed, hevent]
      cases value with
      | array entries => exact absurd rfl (hother entries)
      | _ => rfl

/-- A hollow group is not among what the code keeps, but should be left. -/
lemma not_hasHollow_of_removes
    (h : format.remove event command hooks = removed format event command hooks) :
    ¬ HasHollow format event hooks := by
  intro hhollow
  cases hevent : hooks event with
  | none =>
    have hnil : entriesOf hooks event = [] := HasEntries.entriesOf (.inl ⟨hevent, rfl⟩)
    rcases hhollow with hempty | ⟨entry, hmem, -⟩
    · simp [hevent] at hempty
    · simp [hnil] at hmem
  | some value =>
    by_cases harray : ∃ entries, value = .array entries
    · obtain ⟨entries, rfl⟩ := harray
      have hentries : entriesOf hooks event = entries := HasEntries.entriesOf (.inr hevent)
      rw [HookFormat.remove_of_array hevent, removed, hevent] at h
      dsimp only at h
      -- What is left is the stripped entries, or with no hook to take out the old ones.
      have hkept : setEntries hooks event (entries.filterMap (format.kept command)) =
          if entries.any (format.carries command) then
            setEntries hooks event (entries.filterMap (format.strip command))
          else hooks := by
        cases hany : entries.any (format.carries command) <;> rw [hany] at h <;>
          exact congrArg Prod.fst (Except.ok.inj h)
      rcases hhollow with hempty | ⟨entry, hmem, hentry⟩
      · obtain rfl : entries = [] := by simpa [hevent] using hempty
        have hlost := congrFun hkept event
        simp [setEntries, hevent] at hlost
      · have hgone : entry ∉ entries.filterMap (format.kept command) := by
          intro hin
          obtain ⟨old, -, hold⟩ := List.mem_filterMap.mp hin
          exact HookFormat.not_hollow_of_kept hold hentry
        rw [hentries] at hmem
        have hstripped : entry ∈ entries.filterMap (format.strip command) :=
          List.mem_filterMap.mpr ⟨entry, hmem, HookFormat.strip_of_not_carries
            (HookFormat.carries_of_hollow hentry)⟩
        split at hkept
        · exact hgone (setEntries_injective hkept ▸ hstripped)
        · have hsame : setEntries hooks event entries = hooks :=
            setEntries_of_eq hevent (List.ne_nil_of_mem hmem)
          have hall := setEntries_injective (hkept.trans hsame.symm)
          exact hgone (hall.symm ▸ hmem)
    · rcases hhollow with hempty | ⟨entry, hmem, -⟩
      · rw [hevent] at hempty
        exact harray ⟨[], Option.some.inj hempty⟩
      · cases value with
        | array entries => exact harray ⟨entries, rfl⟩
        | _ => simp [entriesOf, hevent, asArray] at hmem

/-- What was installed is taken out again, with the event if installing has brought it in. -/
lemma inverse_of_not_hasHollow (h : ¬ HasHollow format event hooks)
    (hnone : ∀ entry ∈ entriesOf hooks event, format.carries command entry = false)
    (hensure : format.ensure event command timeout matcher hooks = .ok hooks') :
    format.remove event command hooks' = .ok (hooks, true) := by
  obtain ⟨entries, hentries, rfl⟩ := HookFormat.ensure_ok hensure
  rw [hentries.entriesOf] at hnone
  have hpushed : format.installed command timeout matcher entries =
      entries ++ [format.added command timeout matcher] := by
    have hany : entries.any (format.carries command) = false := by
      apply List.any_eq_false.mpr
      intro entry hmem
      simp [hnone entry hmem]
    simp [HookFormat.installed, hany]
  have hfull : ∀ entry ∈ entries, ¬ format.hollow entry := by
    intro entry hmem hhollow
    exact h (.inr ⟨entry, hentries.entriesOf.symm ▸ hmem, hhollow⟩)
  have hkept : (entries ++ [format.added command timeout matcher]).filterMap
      (format.kept command) = entries := by
    rw [List.filterMap_append, HookFormat.filterMap_kept hfull, HookFormat.filterMap_strip hnone]
    simp [HookFormat.kept_added]
  have hany : (format.installed command timeout matcher entries).any (format.carries command) =
      true := HookFormat.any_installed entries
  rw [HookFormat.remove_of_array (Map.insert_same ..), hany, hpushed, hkept]
  congr 2
  rcases hentries with ⟨hevent, rfl⟩ | hevent
  · simp [setEntries, Map.remove_of_eq hevent]
  · have hne : entries ≠ [] := fun hnil => h (.inl (by rw [hevent, hnil]))
    simp [setEntries, hne, Map.insert_of_eq hevent]

/-- The laws hold exactly where the event is not without entries and none of its groups is without
hooks. -/
theorem hookLaws_iff (format : HookFormat) (event command : String) (timeout : UInt64)
    (matcher : Option String) (hooks : Map) :
    HookLaws format event command timeout matcher hooks ↔ ¬ HasHollow format event hooks := by
  constructor
  · intro h
    exact not_hasHollow_of_removes h.removes
  · intro h
    refine ⟨?_, ?_, removes_of_not_hasHollow h, fun hnone _ => inverse_of_not_hasHollow h hnone⟩
    · intro hooks' hensure
      obtain ⟨entries, -, rfl⟩ := HookFormat.ensure_ok hensure
      rw [HookFormat.ensure_of_hasEntries (hasEntries_insert ..), HookFormat.installed_installed,
        Map.insert_insert]
    · intro hooks' hensure
      obtain ⟨entries, hentries, rfl⟩ := HookFormat.ensure_ok hensure
      rw [(hasEntries_insert ..).entriesOf, hentries.entriesOf]
      exact ⟨fun other hother => Map.insert_of_ne _ _ hother, HookFormat.filter_installed entries⟩

/-- An event that the user has left without entries is gone behind an uninstallation. -/
theorem emptyEvent_lost :
    ¬ HookLaws .nested "Stop" "herdr hook" 10 none (Map.empty.insert "Stop" (.array [])) := by
  intro h
  exact not_hasHollow_of_removes h.removes (.inl (Map.insert_same ..))

end

end Ork3.Integration
