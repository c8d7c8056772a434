import Mathlib

/-!
# Incremental extraction from a growing buffer

An extractor looks at a buffer and says how many elements its head makes up, that it needs more, or
that it fails. When its answers survive an extension of the buffer, draining a stream piece by piece
gives what draining it at once gives.
-/

namespace Ork3.Library

section
variable {α ε : Type*} (ex : List α → Except ε (Option Nat))

/-- An extractor whose answers do not change when the buffer grows. -/
structure ExtensionStable : Prop where
  nil : ex [] = .ok none
  pos {buf : List α} {n : Nat} : ex buf = .ok (some n) → 0 < n
  le {buf : List α} {n : Nat} : ex buf = .ok (some n) → n ≤ buf.length
  some_append {buf : List α} {n : Nat} (more : List α) :
    ex buf = .ok (some n) → ex (buf ++ more) = .ok (some n)
  error_append {buf : List α} {e : ε} (more : List α) :
    ex buf = .error e → ex (buf ++ more) = .error e

/-- Takes heads off the buffer until the extractor needs more. -/
def drainFuel : Nat → List α → Except ε (List (List α) × List α)
  | 0, buf => .ok ([], buf)
  | fuel + 1, buf =>
    match ex buf with
    | .error e => .error e
    | .ok none => .ok ([], buf)
    | .ok (some n) => (drainFuel fuel (buf.drop n)).map fun (chunks, rest) =>
        (buf.take n :: chunks, rest)

def drainAll (buf : List α) : Except ε (List (List α) × List α) := drainFuel ex buf.length buf

/-- The pieces, each appended to what the one before left and drained. -/
def feed (buf : List α) : List (List α) → Except ε (List (List α) × List α)
  | [] => .ok ([], buf)
  | piece :: pieces => do
    let (chunks, rest) ← drainAll ex (buf ++ piece)
    let (chunks', rest') ← feed rest pieces
    return (chunks ++ chunks', rest')

variable {ex} (hex : ExtensionStable ex)
include hex

lemma drainFuel_eq (m n : Nat) (buf : List α) (hm : buf.length ≤ m) (hn : buf.length ≤ n) :
    drainFuel ex m buf = drainFuel ex n buf := by
  induction m generalizing n buf with
  | zero =>
    obtain rfl : buf = [] := List.length_eq_zero_iff.mp (Nat.le_zero.mp hm)
    cases n with
    | zero => rfl
    | succ n => simp only [drainFuel, hex.nil]
  | succ m ih =>
    cases n with
    | zero =>
      obtain rfl : buf = [] := List.length_eq_zero_iff.mp (Nat.le_zero.mp hn)
      simp only [drainFuel, hex.nil]
    | succ n =>
      simp only [drainFuel]
      cases he : ex buf with
      | error e => rfl
      | ok r =>
        cases r with
        | none => rfl
        | some k =>
          have hpos := hex.pos he
          have hle := hex.le he
          have hlen : (buf.drop k).length = buf.length - k := List.length_drop
          simp only [ih n (buf.drop k) (by omega) (by omega)]

/-- The recursion equation of draining, without fuel. -/
lemma drainAll_eq (buf : List α) :
    drainAll ex buf = match ex buf with
      | .error e => .error e
      | .ok none => .ok ([], buf)
      | .ok (some n) => (drainAll ex (buf.drop n)).map fun (chunks, rest) =>
          (buf.take n :: chunks, rest) := by
  unfold drainAll
  rw [drainFuel_eq hex buf.length (buf.length + 1) buf (Nat.le_refl _) (Nat.le_succ _), drainFuel]
  cases he : ex buf with
  | error e => rfl
  | ok r =>
    cases r with
    | none => rfl
    | some k =>
      have hlen : (buf.drop k).length ≤ buf.length := by
        rw [List.length_drop]
        exact Nat.sub_le _ _
      simp only [drainFuel_eq hex _ _ (buf.drop k) hlen (Nat.le_refl _)]

/-- What arrives later is drained from where the earlier draining stopped. -/
theorem drainAll_append (buf more : List α) :
    drainAll ex (buf ++ more) = do
      let (chunks, rest) ← drainAll ex buf
      let (chunks', rest') ← drainAll ex (rest ++ more)
      return (chunks ++ chunks', rest') := by
  induction hn : buf.length using Nat.strongRecOn generalizing buf with
  | ind n ih =>
    subst hn
    rw [drainAll_eq hex buf]
    cases he : ex buf with
    | error e =>
      rw [drainAll_eq hex, hex.error_append more he]
      rfl
    | ok r =>
      cases r with
      | none =>
        cases h : drainAll ex (buf ++ more) with
        | error e => simp only [bind, Except.bind, h]
        | ok p => simp only [bind, Except.bind, h, List.nil_append, pure, Except.pure]
      | some k =>
        have hpos := hex.pos he
        have hle := hex.le he
        rw [drainAll_eq hex (buf ++ more), hex.some_append more he]
        simp only [List.drop_append_of_le_length hle, List.take_append_of_le_length hle]
        have hlt : (buf.drop k).length < buf.length := by
          rw [List.length_drop]
          omega
        rw [ih _ hlt (buf.drop k) rfl]
        cases drainAll ex (buf.drop k) with
        | error e => rfl
        | ok p =>
          obtain ⟨chunks, rest⟩ := p
          simp only [bind, Except.bind, Except.map]
          cases drainAll ex (rest ++ more) <;> rfl

/-- What draining leaves is drained. -/
lemma drainAll_rest (buf : List α) {chunks : List (List α)} {rest : List α}
    (h : drainAll ex buf = .ok (chunks, rest)) : drainAll ex rest = .ok ([], rest) := by
  induction hn : buf.length using Nat.strongRecOn generalizing buf chunks with
  | ind n ih =>
    subst hn
    rw [drainAll_eq hex] at h
    cases he : ex buf with
    | error e => simp [he] at h
    | ok r =>
      cases r with
      | none =>
        rw [he] at h
        cases h
        rw [drainAll_eq hex, he]
      | some k =>
        have hpos := hex.pos he
        have hle := hex.le he
        simp only [he] at h
        cases hd : drainAll ex (buf.drop k) with
        | error e => simp [hd, Except.map] at h
        | ok p =>
          rw [hd] at h
          cases h
          exact ih _ (by rw [List.length_drop]; omega) (buf.drop k) hd rfl

/-- Draining fails only where the extractor does, and its chunks are cut from the buffer. -/
lemma drainAll_ok (buf : List α) (hok : ∀ s, s <:+ buf → ∃ r, ex s = .ok r) :
    ∃ chunks rest, drainAll ex buf = .ok (chunks, rest) ∧ ∀ chunk ∈ chunks, chunk ⊆ buf := by
  induction hn : buf.length using Nat.strongRecOn generalizing buf with
  | ind n ih =>
    subst hn
    rw [drainAll_eq hex]
    obtain ⟨r, hr⟩ := hok buf (List.suffix_refl buf)
    cases r with
    | none => exact ⟨[], buf, by simp only [hr], fun chunk hc => by cases hc⟩
    | some k =>
      have hpos := hex.pos hr
      have hle := hex.le hr
      obtain ⟨chunks, rest, hd, hsub⟩ := ih (buf.drop k).length (by rw [List.length_drop]; omega)
        (buf.drop k) (fun s hs => hok s (hs.trans (List.drop_suffix k buf))) rfl
      refine ⟨buf.take k :: chunks, rest, by simp only [hr, hd, Except.map], fun chunk hc => ?_⟩
      rcases List.mem_cons.mp hc with rfl | hc
      · exact List.take_subset k buf
      · exact List.Subset.trans (hsub chunk hc) (List.drop_subset k buf)

/-- Feeding pieces one by one is draining their concatenation, from a drained buffer. -/
theorem feed_eq_drainAll (pieces : List (List α)) {buf : List α}
    (hbuf : drainAll ex buf = .ok ([], buf)) :
    feed ex buf pieces = drainAll ex (buf ++ pieces.flatten) := by
  induction pieces generalizing buf with
  | nil => simp only [feed, List.flatten_nil, List.append_nil, hbuf]
  | cons piece pieces ih =>
    rw [feed, List.flatten_cons, ← List.append_assoc, drainAll_append hex (buf ++ piece)]
    cases hd : drainAll ex (buf ++ piece) with
    | error e => rfl
    | ok p =>
      obtain ⟨chunks, rest⟩ := p
      simp only [bind, Except.bind]
      rw [ih (drainAll_rest hex _ hd)]

end

end Ork3.Library
