import Ork3.Library.Slices
import Ork3.Model.RawInput
import Ork3.Proofs.RawInputFraming

/-!
# The framer invents no bytes

What is in the buffer is always the end of what was pushed: each turn, each flush and each way of
discarding takes bytes from the front, an ESC that is held back included.
-/

namespace Ork3.Input

open Ork3.Library

namespace RawInputByteFramer

/-- The calls that the readers of input make. -/
inductive Call where
  | push (data : List UInt8)
  | flushTimeout
  | hostColorQuerySent
  | enableHostColorSchemeChangeTracking

def Call.apply (f : RawInputByteFramer) :
    Call → Except Panic (RawInputByteFramer × List (List UInt8))
  | .push data => f.push data
  | .flushTimeout => f.flushTimeout
  | .hostColorQuerySent => .ok (f.hostColorQuerySent, [])
  | .enableHostColorSchemeChangeTracking => .ok (f.enableHostColorSchemeChangeTracking, [])

/-- The bytes that a call brings. -/
def Call.data : Call → List UInt8
  | .push data => data
  | _ => []

/-- The chunks that a run of calls emits; a panic ends it. -/
def emitted (f : RawInputByteFramer) : List Call → List (List UInt8)
  | [] => []
  | call :: calls =>
    match call.apply f with
    | .error _ => []
    | .ok (f', chunks) => chunks ++ emitted f' calls

/-! ### One turn -/

section
variable {f f' : RawInputByteFramer} {chunks : List (List UInt8)}

/-- The bytes that a turn takes are taken from the front. -/
def Turn.TakesFrom (f : RawInputByteFramer) : Turn → Prop
  | .exit f' => TakesSlices f.buffer f'.buffer []
  | .again f' => TakesSlices f.buffer f'.buffer []
  | .chunk f' bytes => TakesSlices f.buffer f'.buffer [bytes]

lemma extractTurn_takesFrom {t : Turn} (h : f.extractTurn = .ok t) : t.TakesFrom f := by
  unfold extractTurn at h
  cases he : extractOneEvent f.buffer with
  | error e =>
    rw [he] at h
    cases h
  | ok r =>
    rw [he] at h
    cases r with
    | none =>
      cases h
      exact .of_suffix List.suffix_rfl
    | some r =>
      cases h
      exact .of_slice (List.take_append_drop r.2 f.buffer).symm

lemma discardTurn_takesFrom (f : RawInputByteFramer) (family : ControlStringFamily) :
    (f.discardTurn family).TakesFrom f := by
  unfold discardTurn
  by_cases hfamily : family = .orphanedSgrMouseTail
  · rw [if_pos hfamily]
    unfold discardOrphanedSgrMouseTail
    dsimp only
    cases hfind : (f.buffer.take _).findIdx? fun b => !isSgrDigit b with
    | some index =>
      dsimp only
      split_ifs
      · exact .of_suffix (List.drop_suffix _ _)
      · exact .of_suffix (List.drop_suffix _ _)
    | none =>
      dsimp only
      cases decide (min f.buffer.length
        (maxDiscardedControlTailBytes - f.discardedTailBytes) < f.buffer.length)
      · exact .of_suffix (List.nil_suffix)
      · exact .of_suffix (List.nil_suffix)
  · rw [if_neg hfamily]
    cases controlStringTerminatorForFamily f.buffer family with
    | none => exact .of_suffix List.suffix_rfl
    | some terminatorLen => exact .of_suffix (List.drop_suffix _ _)

lemma plainTurn_takesFrom {t : Turn} (h : f.plainTurn = .ok t) : t.TakesFrom f := by
  unfold plainTurn at h
  cases hd : f.discardUntil with
  | none =>
    rw [hd] at h
    exact extractTurn_takesFrom h
  | some family =>
    rw [hd] at h
    cases h
    exact discardTurn_takesFrom f family

lemma discardComplete_suffix {buffer rest : List UInt8}
    (h : discardCompleteOrphanedSgrMouseTail buffer = some rest) : rest <:+ buffer := by
  unfold discardCompleteOrphanedSgrMouseTail at h
  obtain ⟨terminatorLen, -, h⟩ := Option.bind_eq_some_iff.mp h
  by_cases hlong : terminatorLen > maxOrphanedSgrMouseTailBytes
  · rw [if_pos hlong] at h
    cases h
  rw [if_neg hlong] at h
  obtain ⟨sequence, -, h⟩ := Option.bind_eq_some_iff.mp h
  cases hparsed : (parseSgrMouse sequence).isNone with
  | true =>
    rw [if_pos hparsed] at h
    cases h
  | false =>
    rw [if_neg (by simp [hparsed])] at h
    cases h
    exact List.drop_suffix _ _

lemma turn_takesFrom {t : Turn} (h : f.turn = .ok t) : t.TakesFrom f := by
  unfold turn at h
  split_ifs at h with hescape htail
  · cases h
    exact .of_suffix List.suffix_rfl
  · cases hd : discardCompleteOrphanedSgrMouseTail f.buffer with
    | some rest =>
      rw [hd] at h
      cases h
      exact .of_suffix (discardComplete_suffix hd)
    | none =>
      rw [hd] at h
      have htakes := plainTurn_takesFrom h
      cases t <;> exact htakes
  · exact plainTurn_takesFrom h

lemma drainLoop_takes {fuel : Nat} (h : f.drainLoop fuel = .ok (f', chunks)) :
    TakesSlices f.buffer f'.buffer chunks := by
  induction fuel generalizing f f' chunks with
  | zero =>
    cases h
    exact .of_suffix List.suffix_rfl
  | succ fuel ih =>
    cases ht : f.turn with
    | error e =>
      simp only [drainLoop, ht, bind, Except.bind] at h
      cases h
    | ok t =>
      have htakes := turn_takesFrom ht
      simp only [drainLoop, ht, bind, Except.bind] at h
      cases t with
      | exit f₁ =>
        cases h
        exact htakes
      | again f₁ => exact htakes.trans (ih h)
      | chunk f₁ bytes =>
        cases hrest : f₁.drainLoop fuel with
        | error e =>
          simp only [hrest] at h
          cases h
        | ok r =>
          simp only [hrest] at h
          cases h
          exact htakes.trans (ih hrest)

/-! ### Calls -/

lemma flushDiscarding_suffix (f : RawInputByteFramer) (family : ControlStringFamily) :
    (f.flushDiscarding family).buffer <:+ f.buffer := by
  unfold flushDiscarding
  dsimp only
  split_ifs with hfamily hkeep hesc
  · exact List.nil_suffix
  · -- the ESC that is kept is the last byte that was there
    obtain ⟨front, hfront⟩ := List.getLast?_eq_some_iff.mp hesc
    exact ⟨front, hfront.symm⟩
  · exact List.nil_suffix
  · exact List.nil_suffix

/-- A flush emits the whole buffer or nothing. -/
def FlushesWhole (f : RawInputByteFramer) (r : RawInputByteFramer × List (List UInt8)) : Prop :=
  (r.1.buffer <:+ f.buffer ∧ r.2 = []) ∨ (r.1.buffer = [] ∧ r.2 = [f.buffer])

lemma discardOrBuffer_suffix (f : RawInputByteFramer) :
    f.discardOrBufferOrphanedSgrMouseTail.buffer <:+ f.buffer := by
  unfold discardOrBufferOrphanedSgrMouseTail
  cases hd : discardCompleteOrphanedSgrMouseTail f.buffer with
  | some rest => exact discardComplete_suffix hd
  | none => exact List.nil_suffix

lemma flushLoneEscape_whole (f : RawInputByteFramer) : FlushesWhole f f.flushLoneEscape := by
  unfold flushLoneEscape
  split_ifs
  · exact .inl ⟨List.suffix_rfl, rfl⟩
  · exact .inr ⟨rfl, rfl⟩

lemma flushText_whole (f : RawInputByteFramer) : FlushesWhole f f.flushText := by
  unfold flushText
  split_ifs
  · exact .inr ⟨rfl, rfl⟩
  · exact .inl ⟨List.suffix_rfl, rfl⟩
  · exact .inl ⟨List.suffix_rfl, rfl⟩
  · exact .inl ⟨List.nil_suffix, rfl⟩

lemma FlushesWhole.ite {p : Prop} [Decidable p]
    {r r' : RawInputByteFramer × List (List UInt8)} (h : FlushesWhole f r) (h' : FlushesWhole f r') :
    FlushesWhole f (if p then r else r') := by
  split_ifs
  · exact h
  · exact h'

lemma flushPending_whole (f : RawInputByteFramer) : FlushesWhole f f.flushPending := by
  have hkeep : FlushesWhole f (f, []) := .inl ⟨List.suffix_rfl, rfl⟩
  have hdrop : ∀ f' : RawInputByteFramer, f'.buffer = [] → FlushesWhole f (f', []) := by
    intro f' hempty
    refine .inl ⟨?_, rfl⟩
    rw [hempty]
    exact List.nil_suffix
  unfold flushPending
  apply hkeep.ite
  apply FlushesWhole.ite (.inl ⟨discardOrBuffer_suffix f, rfl⟩)
  apply (hdrop _ rfl).ite
  apply hkeep.ite
  apply hkeep.ite
  apply (hdrop _ rfl).ite
  cases controlString f.buffer with
  | none => exact (flushLoneEscape_whole f).ite (flushText_whole f)
  | some control =>
    cases control with
    | incomplete family => exact hdrop _ rfl
    | complete len family => exact (flushLoneEscape_whole f).ite (flushText_whole f)

lemma FlushesWhole.takes {r : RawInputByteFramer × List (List UInt8)} (h : FlushesWhole f r) :
    TakesSlices f.buffer r.1.buffer r.2 := by
  rcases h with ⟨hsuffix, hnone⟩ | ⟨hempty, hwhole⟩
  · rw [hnone]
    exact .of_suffix hsuffix
  · rw [hempty, hwhole]
    exact .of_slice (List.append_nil _).symm

lemma flushTimeout_takes (h : f.flushTimeout = .ok (f', chunks)) :
    TakesSlices f.buffer f'.buffer chunks := by
  cases hd : f.drainAvailableChunks with
  | error e =>
    simp only [flushTimeout, hd, bind, Except.bind] at h
    cases h
  | ok r =>
    have htakes := drainLoop_takes hd
    simp only [flushTimeout, hd, bind, Except.bind] at h
    cases hdiscard : r.1.discardUntil with
    | some family =>
      simp only [hdiscard] at h
      cases h
      have hall := htakes.trans (.of_suffix (flushDiscarding_suffix r.1 family))
      rwa [List.append_nil] at hall
    | none =>
      simp only [hdiscard] at h
      cases h
      exact htakes.trans (flushPending_whole r.1).takes

lemma Call.takes {call : Call} (h : call.apply f = .ok (f', chunks)) :
    TakesSlices (f.buffer ++ call.data) f'.buffer chunks := by
  have hnone : ∀ {ys : List UInt8}, TakesSlices f.buffer ys chunks →
      TakesSlices (f.buffer ++ []) ys chunks := by
    intro ys htakes
    rwa [List.append_nil]
  cases call with
  | push data => exact drainLoop_takes h
  | flushTimeout => exact hnone (flushTimeout_takes h)
  | hostColorQuerySent =>
    cases h
    exact hnone (.of_suffix List.suffix_rfl)
  | enableHostColorSchemeChangeTracking =>
    cases h
    exact hnone (.of_suffix List.suffix_rfl)

/-- Whatever calls are made, the chunks are slices of what was in the buffer and what was pushed, one
behind the other. -/
theorem emitted_slices (f : RawInputByteFramer) (calls : List Call) :
    Slices (f.emitted calls) (f.buffer ++ calls.flatMap Call.data) := by
  induction calls generalizing f with
  | nil => exact .nil _
  | cons call calls ih =>
    unfold emitted
    rw [List.flatMap_cons, ← List.append_assoc]
    cases happly : call.apply f with
    | error e => exact .nil _
    | ok r =>
      obtain ⟨front, hfront, hslices⟩ := Call.takes happly
      rw [hfront, List.append_assoc]
      exact hslices.append (ih r.1)

end

end RawInputByteFramer

end Ork3.Input
