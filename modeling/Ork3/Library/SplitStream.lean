import Mathlib

/-!
# Streams that arrive in pieces

A reader gives, read by read, a piece of the stream, an interruption or a failure. Reading exactly
some number of elements puts the pieces together again.
-/

namespace Ork3.Library

section
variable {α ε : Type*}

/-- What one read of the underlying stream gives. A piece is never empty: an empty read is the end
of the stream. -/
inductive ReadEvent (α ε : Type*)
  | piece (first : α) (rest : List α)
  | interrupted
  | failed (error : ε)
  deriving DecidableEq

/-- Why a read of an exact length fails. -/
inductive ReadError (ε : Type*)
  | unexpectedEof
  | failed (error : ε)
  deriving DecidableEq

/-- The elements that the reads give, in order. -/
def streamed (reads : List (ReadEvent α ε)) : List α :=
  reads.flatMap fun
    | .piece first rest => first :: rest
    | .interrupted => []
    | .failed _ => []

/-- No read fails. -/
def Unfailing (reads : List (ReadEvent α ε)) : Prop := ∀ e, .failed e ∉ reads

/-- What is left of a piece comes first in the next read. -/
def putBack : List α → List (ReadEvent α ε) → List (ReadEvent α ε)
  | [], reads => reads
  | x :: xs, reads => .piece x xs :: reads

/-- Reads until `n` elements are there, over interruptions. -/
def readExact (n : Nat) :
    List (ReadEvent α ε) → Except (ReadError ε) (List α) × List (ReadEvent α ε)
  | [] => if n = 0 then (.ok [], []) else (.error .unexpectedEof, [])
  | event :: reads =>
    if n = 0 then (.ok [], event :: reads)
    else
      match event with
      | .interrupted => readExact n reads
      | .failed e => (.error (.failed e), reads)
      | .piece x xs =>
        let piece := x :: xs
        if n ≤ piece.length then (.ok (piece.take n), putBack (piece.drop n) reads)
        else
          let (rest, reads) := readExact (n - piece.length) reads
          (rest.map (piece ++ ·), reads)

lemma streamed_putBack (xs : List α) (reads : List (ReadEvent α ε)) :
    streamed (putBack xs reads) = xs ++ streamed reads := by
  cases xs <;> rfl

lemma Unfailing.putBack {reads : List (ReadEvent α ε)} (h : Unfailing reads) (xs : List α) :
    Unfailing (putBack xs reads) := by
  cases xs with
  | nil => exact h
  | cons x xs =>
    intro e he
    rcases List.mem_cons.mp he with he | he
    · cases he
    · exact h e he

lemma Unfailing.tail {event : ReadEvent α ε} {reads : List (ReadEvent α ε)}
    (h : Unfailing (event :: reads)) : Unfailing reads :=
  fun e he => h e (List.mem_cons_of_mem _ he)

/-- However the stream is split, an exact read takes its first elements and leaves the others. -/
theorem readExact_of_le {n : Nat} {reads : List (ReadEvent α ε)} (h : Unfailing reads)
    (hn : n ≤ (streamed reads).length) :
    ∃ left, readExact n reads = (.ok ((streamed reads).take n), left) ∧
      streamed left = (streamed reads).drop n ∧ Unfailing left := by
  induction reads generalizing n with
  | nil =>
    obtain rfl : n = 0 := Nat.le_zero.mp hn
    exact ⟨[], rfl, rfl, h⟩
  | cons event reads ih =>
    unfold readExact
    by_cases hzero : n = 0
    · subst hzero
      exact ⟨event :: reads, rfl, rfl, h⟩
    rw [if_neg hzero]
    cases event with
    | interrupted => exact ih h.tail hn
    | failed e => exact absurd List.mem_cons_self (h e)
    | piece x xs =>
      have hstream : streamed (.piece x xs :: reads) = x :: xs ++ streamed reads := rfl
      rw [hstream] at hn ⊢
      dsimp only
      by_cases hle : n ≤ (x :: xs).length
      · rw [if_pos hle, List.take_append_of_le_length hle, List.drop_append_of_le_length hle]
        exact ⟨_, rfl, streamed_putBack _ _, h.tail.putBack _⟩
      · rw [if_neg hle]
        have hrest : n - (x :: xs).length ≤ (streamed reads).length := by
          rw [List.length_append] at hn
          omega
        obtain ⟨left, hread, hleft, hfailing⟩ := ih h.tail hrest
        have htake : (x :: xs ++ streamed reads).take n =
            x :: xs ++ (streamed reads).take (n - (x :: xs).length) := by
          rw [List.take_append, List.take_of_length_le (by omega)]
        have hdrop : (x :: xs ++ streamed reads).drop n =
            (streamed reads).drop (n - (x :: xs).length) := by
          rw [List.drop_append, List.drop_of_length_le (by omega), List.nil_append]
        rw [hread, htake, hdrop]
        exact ⟨left, rfl, hleft, hfailing⟩

end

end Ork3.Library
