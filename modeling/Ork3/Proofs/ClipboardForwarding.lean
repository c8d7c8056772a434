import Ork3.Model.Osc

/-!
# Which clipboard writes are forwarded

The tracker of default colours tells the commands at the top level of the output from what only looks
like one inside another string. The forwarder does not know these strings: it agrees with the tracker
exactly as long as none of them holds the introducer of a command.
-/

namespace Ork3.Pane

open Ork3.Library

/-! ### The grammar -/

/-- The commands at the top level of a stream that are complete and within the limit. -/
def completeCommands (limit : Nat) (bytes : List UInt8) : List (List UInt8) :=
  (scan (trackerStep limit) ⟨.ground, []⟩ bytes).2

/-- The tracker reports the colour events among the complete commands. -/
theorem tracker_reports_complete_commands (bytes : List UInt8) :
    (DefaultColorEventTracker.default.observe bytes).pending.map (·.event) =
      (completeCommands DefaultColorEventTracker.maxBody bytes).filterMap
        parseDefaultColorEvent := by
  have hfold : ∀ (n : Nat) (tracker : DefaultColorEventTracker),
      (((bytes.zipIdx n).foldl (fun tracker entry => tracker.observeByte entry.2 entry.1)
        tracker).pending.map (·.event)) = tracker.pending.map (·.event) ++
      (scan (trackerStep DefaultColorEventTracker.maxBody) tracker.reader bytes).2.filterMap
        parseDefaultColorEvent := by
    induction bytes with
    | nil => simp [scan]
    | cons byte bytes ih =>
      intro n tracker
      rw [List.zipIdx_cons, List.foldl_cons, ih, scan, List.filterMap_append, ← List.append_assoc]
      congr 1
      simp only [DefaultColorEventTracker.observeByte, List.map_append, ← Option.toList_map,
        Option.map_map, Function.comp_def, Option.map_id', toList_bind]
  exact hfold 0 .default

/-- The clipboard writes of a stream: the complete commands that are ones. -/
def clipboardWrites (decode : List UInt8 → Option (List UInt8)) (bytes : List UInt8) :
    List (List UInt8) :=
  (completeCommands osc52MaxPayloadBytes bytes).filterMap (parseOsc52ClipboardWrite decode)

/-! ### The forwarder -/

section
variable {decode : List UInt8 → Option (List UInt8)}

lemma observe_eq_scan (forwarder : Osc52Forwarder) (bytes : List UInt8) :
    forwarder.observe decode bytes =
      ⟨(scan (forwarderStep osc52MaxPayloadBytes) forwarder.reader bytes).1, forwarder.pending ++
        (scan (forwarderStep osc52MaxPayloadBytes) forwarder.reader bytes).2.filterMap
          (parseOsc52ClipboardWrite decode)⟩ := by
  induction bytes generalizing forwarder with
  | nil => simp [Osc52Forwarder.observe, scan]
  | cons byte bytes ih =>
    unfold Osc52Forwarder.observe at ih ⊢
    rw [List.foldl_cons, ih, scan]
    simp only [Osc52Forwarder.observeByte, List.filterMap_append, List.append_assoc, toList_bind]

/-- The reads do not matter, only the stream that they make up. -/
lemma forwardReads_eq_scan (reads : List (List UInt8)) (reader : OscReader Osc52ForwarderState) :
    Osc52Forwarder.forwardReads decode ⟨reader, []⟩ reads =
      (scan (forwarderStep osc52MaxPayloadBytes) reader reads.flatten).2.filterMap
        (parseOsc52ClipboardWrite decode) := by
  induction reads generalizing reader with
  | nil => rfl
  | cons bytes reads ih =>
    rw [Osc52Forwarder.forwardReads, observe_eq_scan, List.flatten_cons, scan_append,
      List.filterMap_append, Osc52Forwarder.drainPending]
    simp only [ih, List.nil_append]

/-! ### Where the automata part -/

/-- How the forwarder sees a state of the tracker: strings that it does not know are ground. -/
def seenState : DefaultColorOscTrackerState → Osc52ForwarderState
  | .ground | .ignoreString | .oversizedOsc => .ground
  | .escape | .ignoreStringEscape | .oversizedOscEscape => .escape
  | .oscBody => .oscBody
  | .oscEscape => .oscEscape

def seen (reader : OscReader DefaultColorOscTrackerState) : OscReader Osc52ForwarderState :=
  ⟨seenState reader.state, reader.body⟩

/-- The introducer of a command inside an ignored string or an oversized command. -/
def OpensInside (reader : OscReader DefaultColorOscTrackerState) (byte : UInt8) : Prop :=
  (reader.state = .ignoreStringEscape ∨ reader.state = .oversizedOscEscape) ∧ byte = rightBracket

instance (reader : OscReader DefaultColorOscTrackerState) (byte : UInt8) :
    Decidable (OpensInside reader byte) :=
  inferInstanceAs (Decidable ((_ ∨ _) ∧ _))

/-- No ignored string and no oversized command of the stream holds the introducer of a command. -/
def NoneOpensInside (bytes : List UInt8) : Prop :=
  Avoids (trackerStep osc52MaxPayloadBytes) OpensInside ⟨.ground, []⟩ bytes

/-- Only a command being read has a body, and no body is over the limit. -/
structure Tidy (limit : Nat) (reader : OscReader DefaultColorOscTrackerState) : Prop where
  body_nil : reader.state ≠ .oscBody → reader.state ≠ .oscEscape → reader.body = []
  body_le : reader.body.length ≤ limit

lemma trackByte_body_nil {reader : OscReader DefaultColorOscTrackerState} (byte : UInt8)
    (h : reader.state ≠ .oscBody → reader.state ≠ .oscEscape → reader.body = []) :
    (trackByte reader byte).1.state ≠ .oscBody → (trackByte reader byte).1.state ≠ .oscEscape →
      (trackByte reader byte).1.body = [] := by
  obtain ⟨state, body⟩ := reader
  unfold trackByte
  cases state <;> dsimp only <;> split_ifs <;> simp_all

lemma Tidy.step {limit : Nat} {reader : OscReader DefaultColorOscTrackerState} (byte : UInt8)
    (h : Tidy limit reader) : Tidy limit (trackerStep limit reader byte).1 := by
  have hnil := trackByte_body_nil byte h.body_nil
  unfold trackerStep
  dsimp only
  split
  · exact ⟨fun _ _ => rfl, Nat.zero_le _⟩
  · next hle => exact ⟨hnil, not_lt.mp hle⟩

/-- On every other byte the forwarder does what the tracker does. -/
lemma forwardByte_seen {limit : Nat} {reader : OscReader DefaultColorOscTrackerState}
    {byte : UInt8} (htidy : Tidy limit reader) (h : ¬OpensInside reader byte) :
    forwardByte (seen reader) byte = (seen (trackByte reader byte).1, (trackByte reader byte).2) := by
  have hnil := htidy.body_nil
  obtain ⟨state, body⟩ := reader
  have hparted : esc ≠ backslash ∧ esc ≠ bel ∧ isIgnoredStringIntro esc = false := by decide
  cases state <;> simp only [OpensInside, reduceCtorEq, or_self, or_true, true_or, true_and,
    false_and, not_false_eq_true] at h <;>
    simp only [forwardByte, trackByte, seen, seenState] <;>
    split_ifs <;> simp_all

lemma forwarderStep_seen {limit : Nat} {reader : OscReader DefaultColorOscTrackerState}
    {byte : UInt8} (htidy : Tidy limit reader) (h : ¬OpensInside reader byte) :
    forwarderStep limit (seen reader) byte =
      (seen (trackerStep limit reader byte).1, (trackerStep limit reader byte).2) := by
  unfold forwarderStep trackerStep
  rw [forwardByte_seen htidy h]
  dsimp only
  have hbody : (seen (trackByte reader byte).1).body = (trackByte reader byte).1.body := rfl
  rw [hbody]
  split <;> rfl

/-- After a stream in which nothing opens inside a string, the forwarder sees what the tracker
knows. -/
lemma forwarder_scan_eq {bytes : List UInt8} (h : NoneOpensInside bytes) :
    scan (forwarderStep osc52MaxPayloadBytes) ⟨.ground, []⟩ bytes =
      (seen (scan (trackerStep osc52MaxPayloadBytes) ⟨.ground, []⟩ bytes).1,
        completeCommands osc52MaxPayloadBytes bytes) :=
  scan_map_of_avoids _ _ _ (fun _ byte htidy => Tidy.step byte htidy)
    (fun _ _ htidy hbad => forwarderStep_seen htidy hbad) ⟨fun _ _ => rfl, Nat.zero_le _⟩ h

/-! ### Lookalikes -/

/-- Whatever the reads, exactly the clipboard writes of the stream are forwarded. -/
def Faithful (decode : List UInt8 → Option (List UInt8)) (bytes : List UInt8) : Prop :=
  ∀ reads : List (List UInt8), reads.flatten = bytes →
    Osc52Forwarder.default.forwardReads decode reads = clipboardWrites decode bytes

lemma faithful_of_noneOpensInside {bytes : List UInt8} (h : NoneOpensInside bytes) :
    Faithful decode bytes := by
  rintro reads rfl
  unfold Osc52Forwarder.default
  rw [forwardReads_eq_scan, forwarder_scan_eq h]
  rfl

/-- A command that clears the clipboard, from the second byte of its introducer. -/
def lookalike : List UInt8 := asciiBytes "]52;c;" ++ [bel]

/-- After its bracket a lookalike opens nothing. -/
lemma noneOpensInside_lookalike {before after : List UInt8}
    (h : NoneOpensInside (before ++ rightBracket :: after)) :
    NoneOpensInside (before ++ lookalike) := by
  unfold NoneOpensInside at h ⊢
  rw [avoids_append] at h ⊢
  refine ⟨h.1, h.2.1, ?_⟩
  have hplain : ∀ bytes : List UInt8, rightBracket ∉ bytes → ∀ reader,
      Avoids (trackerStep osc52MaxPayloadBytes) OpensInside reader bytes := by
    intro bytes
    induction bytes with
    | nil => exact fun _ _ => trivial
    | cons byte bytes ih =>
      intro hnot reader
      refine ⟨fun hopens => hnot ?_, ih (fun hin => hnot (List.mem_cons_of_mem _ hin)) _⟩
      rw [hopens.2]
      exact List.mem_cons_self
  exact hplain _ (by decide) _

/-- Inside a string the forwarder takes a lookalike for a clipboard write. -/
lemma not_faithful_lookalike (hdecode : decode [] = some []) {before : List UInt8}
    (hbefore : NoneOpensInside before)
    (hinside : OpensInside (scan (trackerStep osc52MaxPayloadBytes) ⟨.ground, []⟩ before).1
      rightBracket) : ¬Faithful decode (before ++ lookalike) := by
  intro hfaithful
  have htidy : Tidy osc52MaxPayloadBytes
      (scan (trackerStep osc52MaxPayloadBytes) ⟨.ground, []⟩ before).1 :=
    scan_invariant _ (fun _ byte htidy => Tidy.step byte htidy) ⟨fun _ _ => rfl, Nat.zero_le _⟩ _
  have hforward := forwarder_scan_eq hbefore
  have hwrites := hfaithful [before ++ lookalike] (by simp)
  unfold Osc52Forwarder.default clipboardWrites completeCommands at hwrites
  unfold completeCommands at hforward
  rw [forwardReads_eq_scan, List.flatten_singleton, scan_append, scan_append, hforward] at hwrites
  generalize scan (trackerStep osc52MaxPayloadBytes) ⟨.ground, []⟩ before = tracked at *
  obtain ⟨⟨state, body⟩, commands⟩ := tracked
  have hseen : (scan (forwarderStep osc52MaxPayloadBytes) ⟨.escape, []⟩ lookalike).2 =
      [asciiBytes "52;c;"] := by decide
  have hparse : parseOsc52ClipboardWrite decode (asciiBytes "52;c;") = some [] := by
    have hdata : parseOsc52ClipboardWrite decode (asciiBytes "52;c;") = decode [] := rfl
    rw [hdata, hdecode]
  have hparted : (scan (trackerStep osc52MaxPayloadBytes) ⟨state, body⟩ lookalike).2 = [] →
      state = .ignoreStringEscape ∨ state = .oversizedOscEscape → False := by
    intro htracked hstate
    have hbody : body = [] := htidy.body_nil (by rcases hstate with rfl | rfl <;> simp)
      (by rcases hstate with rfl | rfl <;> simp)
    have hseenState : seen ⟨state, body⟩ = ⟨.escape, []⟩ := by
      rcases hstate with rfl | rfl <;> rw [hbody] <;> rfl
    rw [hseenState, hseen, htracked] at hwrites
    simp [hparse] at hwrites
  obtain ⟨hstate, -⟩ := hinside
  have hbody : body = [] := htidy.body_nil (by rcases hstate with rfl | rfl <;> simp)
      (by rcases hstate with rfl | rfl <;> simp)
  refine hparted ?_ hstate
  rw [hbody]
  rcases hstate with rfl | rfl <;> decide

/-- The forwarder is faithful to a stream, and to every clipboard write that may stand at a bracket
of it, exactly when none of its ignored strings and oversized commands holds the introducer of a
command. -/
theorem faithful_iff_none_opens_inside (hdecode : decode [] = some []) (bytes : List UInt8) :
    (Faithful decode bytes ∧ ∀ before after, bytes = before ++ rightBracket :: after →
        Faithful decode (before ++ lookalike)) ↔
      NoneOpensInside bytes := by
  constructor
  · rintro ⟨-, hlookalikes⟩
    by_contra hopens
    obtain ⟨before, byte, after, hbytes, hbefore, hinside⟩ := exists_first_bad _ _ hopens
    obtain rfl : byte = rightBracket := hinside.2
    exact not_faithful_lookalike hdecode hbefore hinside (hlookalikes before after hbytes)
  · intro hnone
    refine ⟨faithful_of_noneOpensInside hnone, ?_⟩
    rintro before after rfl
    exact faithful_of_noneOpensInside (noneOpensInside_lookalike hnone)

end

/-! ### A clipboard write inside a device control string -/

/-- Decodes what is needed of base64 here. -/
def decodeOnlyA (data : List UInt8) : Option (List UInt8) :=
  if data = asciiBytes "QQ==" then some (asciiBytes "A")
  else if data = [] then some []
  else none

def deviceControlString : List UInt8 :=
  esc :: asciiBytes "P" ++ esc :: asciiBytes "]52;c;QQ==" ++ bel :: esc :: asciiBytes "\\"

/-- A device control string with a clipboard write in it is no clipboard write, and is forwarded. -/
theorem nested_write_forwarded :
    clipboardWrites decodeOnlyA deviceControlString = [] ∧
      Osc52Forwarder.default.forwardReads decodeOnlyA [deviceControlString] =
        [asciiBytes "A"] ∧
      ¬Faithful decodeOnlyA deviceControlString := by
  have hwrites : clipboardWrites decodeOnlyA deviceControlString = [] := by decide
  have hforwarded : Osc52Forwarder.default.forwardReads decodeOnlyA [deviceControlString] =
      [asciiBytes "A"] := by decide
  refine ⟨hwrites, hforwarded, fun hfaithful => ?_⟩
  have := hfaithful [deviceControlString] (List.append_nil _)
  rw [hwrites, hforwarded] at this
  simp at this

/-- Two commands at the top level, one of them a clipboard write. -/
theorem top_level_write_forwarded :
    Faithful decodeOnlyA (esc :: asciiBytes "]0;title" ++ bel :: esc :: asciiBytes "]52;c;QQ==" ++
      [bel]) := by
  have hnone : NoneOpensInside (esc :: asciiBytes "]0;title" ++ bel ::
      esc :: asciiBytes "]52;c;QQ==" ++ [bel]) := by
    unfold NoneOpensInside
    decide
  exact ((@faithful_iff_none_opens_inside decodeOnlyA rfl _).mpr hnone).1

end Ork3.Pane
