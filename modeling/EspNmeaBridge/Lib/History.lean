/-
# What happened since

A history is a list, oldest event first. A mark recognises some of its events;
the history since the latest marked event is what a component that remembers
that event should be compared with.
-/

import Mathlib

namespace History

variable {α β : Type*}

/-- The latest event the mark recognises, with everything after it. -/
def since (mark : α → Option β) : List α → Option (β × List α)
  | [] => none
  | a :: rest =>
    match since mark rest with
    | some found => some found
    | none => (mark a).map fun b => (b, rest)

variable {mark : α → Option β}

@[simp] theorem since_nil : since mark [] = none := rfl

theorem since_snoc_of_some {a : α} {b : β} (marked : mark a = some b) (history : List α) :
    since mark (history ++ [a]) = some (b, []) := by
  induction history with
  | nil => simp [since, marked]
  | cons x history ih => simp [since, ih]

theorem since_snoc_of_none {a : α} (unmarked : mark a = none) (history : List α) :
    since mark (history ++ [a]) =
      (since mark history).map fun found => (found.1, found.2 ++ [a]) := by
  induction history with
  | nil => simp [since, unmarked]
  | cons x history ih =>
    simp only [List.cons_append, since, ih]
    cases since mark history with
    | some found => rfl
    | none => cases mark x <;> rfl

/-- The mark recognises the event found and nothing after it. -/
theorem exists_of_since_eq_some {history rest : List α} {b : β}
    (found : since mark history = some (b, rest)) :
    ∃ before a, history = before ++ a :: rest ∧ mark a = some b ∧ ∀ x ∈ rest, mark x = none := by
  induction history using List.reverseRecOn generalizing rest with
  | nil => simp at found
  | append_singleton history x ih =>
    cases marked : mark x with
    | some b' =>
      rw [since_snoc_of_some marked] at found
      obtain ⟨rfl, rfl⟩ := Prod.mk.inj (Option.some.inj found)
      exact ⟨history, x, rfl, marked, by simp⟩
    | none =>
      rw [since_snoc_of_none marked, Option.map_eq_some_iff] at found
      obtain ⟨⟨b', earlier⟩, found, same⟩ := found
      obtain ⟨rfl, rfl⟩ := Prod.mk.inj same
      obtain ⟨before, a, rfl, marked', quiet⟩ := ih found
      refine ⟨before, a, by simp, marked', ?_⟩
      intro y member
      rcases List.mem_append.mp member with earlier | last
      · exact quiet y earlier
      · rwa [List.mem_singleton.mp last]

/-- Conversely, a marked event that no marked event follows is the latest one. -/
theorem since_eq_some {before rest : List α} {a : α} {b : β} (marked : mark a = some b)
    (quiet : ∀ x ∈ rest, mark x = none) : since mark (before ++ a :: rest) = some (b, rest) := by
  induction rest using List.reverseRecOn with
  | nil => exact since_snoc_of_some marked before
  | append_singleton rest x ih =>
    have earlier := ih fun y member => quiet y (by simp [member])
    rw [← List.cons_append, ← List.append_assoc, since_snoc_of_none (quiet x (by simp)), earlier]
    rfl

theorem unmarked_of_since_eq_none {history : List α} (absent : since mark history = none) :
    ∀ x ∈ history, mark x = none := by
  induction history using List.reverseRecOn with
  | nil => simp
  | append_singleton history x ih =>
    cases marked : mark x with
    | some b =>
      rw [since_snoc_of_some marked] at absent
      exact absurd absent (Option.some_ne_none _)
    | none =>
      rw [since_snoc_of_none marked, Option.map_eq_none_iff] at absent
      intro y member
      rcases List.mem_append.mp member with earlier | last
      · exact ih absent y earlier
      · rwa [List.mem_singleton.mp last]

/-! ## Conditions on every step of a run -/

/-- The condition holds of every event together with the events before it. -/
def EveryStep (condition : List α → α → Prop) (events : List α) : Prop :=
  ∀ i : Fin events.length, condition (events.take i) (events.get i)

instance (condition : List α → α → Prop) [∀ earlier a, Decidable (condition earlier a)]
    (events : List α) : Decidable (EveryStep condition events) :=
  inferInstanceAs (Decidable (∀ i : Fin events.length, condition (events.take i) (events.get i)))

variable {condition : List α → α → Prop}

@[simp] theorem everyStep_nil : EveryStep condition [] := fun i => i.elim0

@[simp] theorem everyStep_snoc {events : List α} {a : α} :
    EveryStep condition (events ++ [a]) ↔ EveryStep condition events ∧ condition events a := by
  constructor
  · intro every
    constructor
    · intro i
      have at_i := every ⟨i, by rw [List.length_append]; exact Nat.lt_add_right 1 i.isLt⟩
      simpa [List.take_append_of_le_length i.isLt.le] using at_i
    · simpa using every ⟨events.length, by simp⟩
  · rintro ⟨every, last⟩ ⟨i, bound⟩
    rcases Nat.lt_or_ge i events.length with inside | beyond
    · simpa [List.take_append_of_le_length inside.le, inside] using every ⟨i, inside⟩
    · obtain rfl : i = events.length := by
        rw [List.length_append, List.length_singleton] at bound
        omega
      simpa using last

end History
