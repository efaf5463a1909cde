/-
# Bounded queues, and queues that drop their oldest element

A bounded FIFO refuses what does not fit. A drop-oldest queue never refuses: what
no longer fits pushes the oldest elements out, and the queue keeps count of what
came in, fell out and was taken.
-/

import Mathlib

/-- At most `capacity` elements, oldest first. -/
structure BoundedFifo (α : Type*) (capacity : ℕ) where
  elements : List α
  fits : elements.length ≤ capacity

namespace BoundedFifo

variable {α : Type*} {capacity : ℕ}

theorem ext_elements {q r : BoundedFifo α capacity} (same : q.elements = r.elements) : q = r := by
  cases q
  cases r
  congr

def empty : BoundedFifo α capacity := ⟨[], Nat.zero_le _⟩

/-- The queue with one more element, or `none` when it is full. -/
def put (q : BoundedFifo α capacity) (a : α) : Option (BoundedFifo α capacity) :=
  if room : q.elements.length < capacity then
    some ⟨q.elements ++ [a], by rw [List.length_append]; exact room⟩
  else none

/-- The queue without its oldest element, and that element. -/
def get (q : BoundedFifo α capacity) : BoundedFifo α capacity × Option α :=
  (⟨q.elements.tail, by rw [List.length_tail]; exact Nat.le_trans (Nat.sub_le _ _) q.fits⟩,
    q.elements.head?)

@[simp] theorem elements_empty : (empty : BoundedFifo α capacity).elements = [] := rfl

@[simp] theorem elements_get (q : BoundedFifo α capacity) :
    q.get.1.elements = q.elements.tail := rfl

theorem put_eq_some {q r : BoundedFifo α capacity} {a : α} :
    q.put a = some r ↔ q.elements.length < capacity ∧ r.elements = q.elements ++ [a] := by
  unfold put
  split_ifs with room
  · rw [Option.some.injEq]
    refine ⟨?_, fun ⟨_, same⟩ => ext_elements same.symm⟩
    rintro rfl
    exact ⟨room, rfl⟩
  · simp [room]

theorem put_eq_none {q : BoundedFifo α capacity} {a : α} :
    q.put a = none ↔ q.elements.length = capacity := by
  have fits := q.fits
  unfold put
  split_ifs with room <;> simp <;> omega

end BoundedFifo

/-- A queue that keeps the newest `capacity` elements, with its accounts. -/
structure DropOldest (α : Type*) (capacity : ℕ) where
  waiting : List α
  queued : ℕ
  dropped : ℕ
  consumed : ℕ
  fits : waiting.length ≤ capacity
  balanced : queued = consumed + dropped + waiting.length

namespace DropOldest

variable {α : Type*} {capacity : ℕ}

def empty : DropOldest α capacity where
  waiting := []
  queued := 0
  dropped := 0
  consumed := 0
  fits := Nat.zero_le _
  balanced := rfl

/-- Take one more element in; the oldest fall out until the rest fits. -/
def offer (q : DropOldest α capacity) (a : α) : DropOldest α capacity where
  waiting := (q.waiting ++ [a]).drop (q.waiting.length + 1 - capacity)
  queued := q.queued + 1
  dropped := q.dropped + (q.waiting.length + 1 - capacity)
  consumed := q.consumed
  fits := by
    rw [List.length_drop, List.length_append, List.length_singleton]
    omega
  balanced := by
    have balanced := q.balanced
    have fits := q.fits
    rw [List.length_drop, List.length_append, List.length_singleton]
    omega

/-- Hand out the oldest element, if there is one. -/
def take (q : DropOldest α capacity) : DropOldest α capacity × Option α :=
  match waiting : q.waiting with
  | [] => (q, none)
  | a :: rest =>
    ({ q with
        waiting := rest
        consumed := q.consumed + 1
        fits := by
          have fits := q.fits
          rw [waiting, List.length_cons] at fits
          omega
        balanced := by
          have balanced := q.balanced
          rw [waiting, List.length_cons] at balanced
          omega }, some a)

variable (q : DropOldest α capacity)

theorem take_of_empty {q : DropOldest α capacity} (nothing : q.waiting = []) :
    q.take = (q, none) := by
  unfold take
  split <;> simp_all

@[simp] theorem take_snd : q.take.2 = q.waiting.head? := by
  unfold take
  split <;> simp_all

@[simp] theorem waiting_take : q.take.1.waiting = q.waiting.tail := by
  unfold take
  split <;> simp_all

@[simp] theorem queued_take : q.take.1.queued = q.queued := by
  unfold take
  split <;> rfl

@[simp] theorem dropped_take : q.take.1.dropped = q.dropped := by
  unfold take
  split <;> rfl

theorem consumed_take {q : DropOldest α capacity} {a : α} {rest : List α}
    (waiting : q.waiting = a :: rest) : q.take.1.consumed = q.consumed + 1 := by
  unfold take
  split <;> simp_all

/-- What can happen to the queue. -/
inductive Input (α : Type*) where
  | offer (a : α)
  | take

/-- The queue as a machine; a take answers with what it found. -/
def step (q : DropOldest α capacity) : Input α → DropOldest α capacity × Option (Option α)
  | .offer a => (q.offer a, none)
  | .take => (q.take.1, some q.take.2)

end DropOldest
