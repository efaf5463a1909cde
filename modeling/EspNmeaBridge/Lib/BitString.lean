/-
# Strings of bits, most significant first

A string of bits stands for a number, and a number has one string of each width
that can hold it. Joining strings shifts the first by the length of the second,
so a section of a string is read off its number by a shift and a mask.
-/

import Mathlib

namespace BitString

/-- The number a string of bits stands for. -/
def value (bits : List Bool) : ℕ := bits.foldl (fun n b => 2 * n + b.toNat) 0

/-- The lowest `width` bits of a number. -/
def ofNat : ℕ → ℕ → List Bool
  | 0, _ => []
  | width + 1, n => ofNat width (n / 2) ++ [decide (n % 2 = 1)]

@[simp] theorem value_nil : value [] = 0 := rfl

theorem value_snoc (bits : List Bool) (b : Bool) :
    value (bits ++ [b]) = 2 * value bits + b.toNat := by
  simp [value]

theorem value_append (front back : List Bool) :
    value (front ++ back) = value front * 2 ^ back.length + value back := by
  induction back using List.reverseRecOn with
  | nil => simp
  | append_singleton back b ih =>
    rw [← List.append_assoc, value_snoc, value_snoc, ih, List.length_append, pow_add]
    simp only [List.length_singleton, pow_one]
    ring

theorem value_lt (bits : List Bool) : value bits < 2 ^ bits.length := by
  induction bits using List.reverseRecOn with
  | nil => simp
  | append_singleton bits b ih =>
    have := b.toNat_le
    rw [value_snoc, List.length_append, List.length_singleton, pow_succ]
    omega

/-- Strings of one length are told apart by their numbers. -/
theorem eq_of_value_eq {bits other : List Bool} (sameLength : bits.length = other.length)
    (same : value bits = value other) : bits = other := by
  induction bits using List.reverseRecOn generalizing other with
  | nil => exact (List.length_eq_zero_iff.mp sameLength.symm).symm
  | append_singleton bits b ih =>
    obtain rfl | ⟨other, c, rfl⟩ := List.eq_nil_or_concat' other
    · simp at sameLength
    · rw [value_snoc, value_snoc] at same
      have shorter : bits.length = other.length := by simpa using sameLength
      -- The last bits agree because the numbers have the same parity.
      have lastBits : b = c := by
        cases b <;> cases c <;> simp at same ⊢ <;> omega
      subst lastBits
      rw [ih shorter (by omega)]

@[simp] theorem length_ofNat (width n : ℕ) : (ofNat width n).length = width := by
  induction width generalizing n with
  | zero => rfl
  | succ width ih => simp [ofNat, ih]

theorem value_ofNat {width n : ℕ} (fits : n < 2 ^ width) : value (ofNat width n) = n := by
  induction width generalizing n with
  | zero =>
    rw [pow_zero] at fits
    simp [ofNat]
    omega
  | succ width ih =>
    rw [ofNat, value_snoc, ih (by rw [pow_succ] at fits; omega)]
    rcases Nat.mod_two_eq_zero_or_one n with even | odd
    · simp [even]
      omega
    · simp [odd]
      omega

theorem ofNat_value (bits : List Bool) : ofNat bits.length (value bits) = bits :=
  eq_of_value_eq (length_ofNat _ _) (value_ofNat (value_lt bits))

/-- A section of a string, read off the number by a shift and a mask. -/
theorem value_section (front part back : List Bool) :
    value (front ++ part ++ back) >>> back.length &&& (2 ^ part.length - 1) = value part := by
  have low := value_lt back
  rw [Nat.and_two_pow_sub_one_eq_mod, Nat.shiftRight_eq_div_pow, value_append, value_append,
    Nat.add_comm, Nat.add_mul_div_right _ _ (by positivity), Nat.div_eq_of_lt low, Nat.zero_add,
    Nat.mul_add_mod_self_right, Nat.mod_eq_of_lt (value_lt part)]

/-- Strings of one width each, joined: the first ones make up a front of the whole. -/
theorem take_flatMap {α : Type*} {width : ℕ} (f : α → List Bool)
    (fixed : ∀ a, (f a).length = width) (count : ℕ) (items : List α) :
    (items.flatMap f).take (width * count) = (items.take count).flatMap f := by
  induction items generalizing count with
  | nil => simp
  | cons a items ih =>
    cases count with
    | zero => simp
    | succ count =>
      rw [List.flatMap_cons, List.take_succ_cons, List.flatMap_cons, List.take_append, fixed,
        List.take_of_length_le (by rw [fixed, Nat.mul_succ]; omega), Nat.mul_succ,
        Nat.add_sub_cancel, ih]

theorem length_flatMap {α : Type*} {width : ℕ} (f : α → List Bool)
    (fixed : ∀ a, (f a).length = width) (items : List α) :
    (items.flatMap f).length = width * items.length := by
  induction items with
  | nil => simp
  | cons a items ih =>
    rw [List.flatMap_cons, List.length_append, fixed, ih, List.length_cons, Nat.mul_succ,
      Nat.add_comm]

end BitString
