/-
# Sets as bit masks

A mask in C is a union of single bits, and `(mask & wanted) != 0` asks whether two
unions meet.
-/

import Mathlib

namespace BitMask

/-- `BIT(i)`. -/
def bit (i : ℕ) : ℕ := 1 <<< i

/-- The union of bits. -/
def ofBits (bits : List ℕ) : ℕ := bits.foldr (fun i mask => bit i ||| mask) 0

/-- `(mask & wanted) != 0`. -/
def meets (mask wanted : ℕ) : Bool := (mask &&& wanted) != 0

@[simp] theorem testBit_bit (i j : ℕ) : (bit i).testBit j = decide (i = j) := by
  rw [bit, Nat.one_shiftLeft, Nat.testBit_two_pow]

theorem testBit_ofBits (bits : List ℕ) (i : ℕ) : (ofBits bits).testBit i = decide (i ∈ bits) := by
  induction bits with
  | nil => simp [ofBits]
  | cons j bits ih =>
    have split : ofBits (j :: bits) = bit j ||| ofBits bits := rfl
    rw [split, Nat.testBit_or, ih, testBit_bit]
    simp [eq_comm]

/-- Two unions meet in a common bit. -/
theorem meets_ofBits {bits wanted : List ℕ} :
    meets (ofBits bits) (ofBits wanted) = true ↔ ∃ i ∈ bits, i ∈ wanted := by
  have common (i : ℕ) : (ofBits bits &&& ofBits wanted).testBit i = true ↔
      i ∈ bits ∧ i ∈ wanted := by
    simp [Nat.testBit_and, testBit_ofBits]
  rw [meets, bne_iff_ne, ne_eq]
  constructor
  · intro nonzero
    obtain ⟨i, both⟩ := Nat.exists_testBit_of_ne_zero nonzero
    exact ⟨i, (common i).mp both⟩
  · rintro ⟨i, member, member'⟩ zero
    have both := (common i).mpr ⟨member, member'⟩
    simp [zero] at both

end BitMask
