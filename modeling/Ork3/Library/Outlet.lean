import Mathlib

/-!
# A queue whose head is written in pieces

Messages wait in a queue, and each write takes some of what is left of the first one. `settled` are
the messages that have left the queue, each with how much of it was written.
-/

namespace Ork3.Library

section
variable {μ β : Type*} {bytes : μ → List β}

/-- All of the message has been written. -/
def WholeMessage (bytes : μ → List β) (p : μ × Nat) : Prop := (bytes p.1).length ≤ p.2

/-- What has been written of the messages, in their order. -/
def sent (bytes : μ → List β) (settled : List (μ × Nat)) : List β :=
  settled.flatMap fun p => (bytes p.1).take p.2

structure Outlet (bytes : μ → List β) (settled : List (μ × Nat)) (queued pending : List μ)
    (offset : Nat) (written : List β) : Prop where
  queued_eq : queued = settled.map Prod.fst ++ pending
  written_eq : written = sent bytes settled ++ pending.head?.elim [] fun m => (bytes m).take offset

variable {settled : List (μ × Nat)} {queued pending rest : List μ} {offset n : Nat}
  {written : List β} {m : μ}

lemma outlet_nil : Outlet bytes [] [] [] 0 [] := ⟨rfl, rfl⟩

lemma sent_append (settled settled' : List (μ × Nat)) :
    sent bytes (settled ++ settled') = sent bytes settled ++ sent bytes settled' :=
  List.flatMap_append

lemma Outlet.enqueue (h : Outlet bytes settled queued pending offset written)
    (hoffset : pending = [] → offset = 0) (m : μ) :
    Outlet bytes settled (queued ++ [m]) (pending ++ [m]) offset written where
  queued_eq := by rw [h.queued_eq, List.append_assoc]
  written_eq := by
    rw [h.written_eq]
    cases pending with
    | nil => rw [hoffset rfl]; rfl
    | cons head rest => rfl

/-- A write takes some of what is left of the head. -/
lemma Outlet.advance (h : Outlet bytes settled queued (m :: rest) offset written) (n : Nat) :
    Outlet bytes settled queued (m :: rest) (offset + n)
      (written ++ ((bytes m).drop offset).take n) where
  queued_eq := h.queued_eq
  written_eq := by
    rw [h.written_eq, List.append_assoc]
    exact congrArg (sent bytes settled ++ ·) List.take_add.symm

/-- The head leaves the queue with what has been written of it. -/
lemma Outlet.pop (h : Outlet bytes settled queued (m :: rest) offset written) :
    Outlet bytes (settled ++ [(m, offset)]) queued rest 0 written where
  queued_eq := by
    rw [h.queued_eq, List.map_append, List.append_assoc]
    rfl
  written_eq := by
    have hrest : rest.head?.elim [] (fun m => (bytes m).take 0) = ([] : List β) := by
      cases rest <;> rfl
    rw [h.written_eq, sent_append, hrest, List.append_nil]
    exact congrArg (sent bytes settled ++ ·) (List.append_nil _).symm

/-- All that waits is dropped. -/
lemma Outlet.clear (h : Outlet bytes settled queued pending offset written) (offset' : Nat) :
    ∃ settled', Outlet bytes (settled ++ settled') queued [] offset' written := by
  induction pending generalizing settled offset with
  | nil => exact ⟨[], by rw [List.append_nil]; exact ⟨h.queued_eq, h.written_eq⟩⟩
  | cons m rest ih =>
    obtain ⟨settled', h'⟩ := ih h.pop
    rw [List.append_assoc] at h'
    exact ⟨_, h'⟩

end

end Ork3.Library
