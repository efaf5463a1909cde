/-
# Character classes and counted repetitions

Regular expressions as they are written in practice name sets of characters and bound
how often a part occurs. Both abbreviate sums and products, and what they match is told
by membership and length.
-/

import Mathlib

namespace RegularExpression

variable {α : Type*}

/-- One character out of a list. -/
def oneOf : List α → RegularExpression α
  | [] => 0
  | c :: chars => char c + oneOf chars

/-- `P?`. -/
def optional (P : RegularExpression α) : RegularExpression α := 1 + P

/-- `P{0,n}`. -/
def upTo (P : RegularExpression α) : ℕ → RegularExpression α
  | 0 => 1
  | n + 1 => optional (P * upTo P n)

variable {chars x : List α} {P : RegularExpression α}

@[simp] theorem mem_matches'_oneOf : x ∈ (oneOf chars).matches' ↔ ∃ c ∈ chars, x = [c] := by
  induction chars with
  | nil => simp [oneOf]
  | cons c chars ih =>
    rw [oneOf, matches'_add, Language.mem_add, ih, matches'_char, List.exists_mem_cons_iff]
    exact Iff.rfl

@[simp] theorem mem_matches'_optional :
    x ∈ (optional P).matches' ↔ x = [] ∨ x ∈ P.matches' := by
  rw [optional, matches'_add, Language.mem_add, matches'_epsilon, Language.mem_one]

/-- One character of the class, then what `P` matches. -/
theorem mem_matches'_oneOf_mul :
    x ∈ (oneOf chars * P).matches' ↔ ∃ c ∈ chars, ∃ y ∈ P.matches', x = c :: y := by
  simp only [matches'_mul, Language.mem_mul, mem_matches'_oneOf]
  constructor
  · rintro ⟨_, ⟨c, member, rfl⟩, y, rest, rfl⟩
    exact ⟨c, member, y, rest, rfl⟩
  · rintro ⟨c, member, y, rest, rfl⟩
    exact ⟨[c], ⟨c, member, rfl⟩, y, rest, rfl⟩

/-- `[chars]{0,n}` matches what is short enough and keeps to the class. -/
theorem mem_matches'_upTo_oneOf {n : ℕ} :
    x ∈ (upTo (oneOf chars) n).matches' ↔ x.length ≤ n ∧ ∀ c ∈ x, c ∈ chars := by
  induction n generalizing x with
  | zero =>
    rw [upTo, matches'_epsilon, Language.mem_one]
    cases x <;> simp
  | succ n ih =>
    rw [upTo, mem_matches'_optional, mem_matches'_oneOf_mul]
    constructor
    · rintro (rfl | ⟨c, member, y, rest, rfl⟩)
      · simp
      · obtain ⟨short, all⟩ := ih.mp rest
        exact ⟨Nat.succ_le_succ short, List.forall_mem_cons.mpr ⟨member, all⟩⟩
    · rintro ⟨short, all⟩
      cases x with
      | nil => exact Or.inl rfl
      | cons c y =>
        obtain ⟨member, others⟩ := List.forall_mem_cons.mp all
        exact Or.inr ⟨c, member, y, ih.mpr ⟨Nat.le_of_succ_le_succ short, others⟩, rfl⟩

end RegularExpression
