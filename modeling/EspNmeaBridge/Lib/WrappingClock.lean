/-
# Deadlines on a wrapping clock

A 64-bit clock is often kept and compared as its low 32 bits only. A deadline is
then an addition modulo `2 ^ 32`, and whether it still lies ahead is read off the
sign of a subtraction. This file says what that test really answers: besides the
deadlines that lie ahead, it reports those that passed at least half a turn of
the counter ago.
-/

import Mathlib

namespace WrappingClock

/-- The signed test `(int32_t)(now - deadline) < 0`. -/
def stillAhead (now deadline : UInt32) : Bool :=
  decide ((now - deadline).toInt32 < 0)

/-- A time that passed by at least half a turn of the 32-bit counter, counted
modulo whole turns, looks as if it lay ahead. -/
def LooksAhead (passedBy : ℕ) : Prop := 2 ^ 31 ≤ passedBy % 2 ^ 32

instance (passedBy : ℕ) : Decidable (LooksAhead passedBy) :=
  inferInstanceAs (Decidable (_ ≤ _))

theorem toInt32_neg_iff (x : UInt32) : x.toInt32 < 0 ↔ 2 ^ 31 ≤ x.toNat := by
  have bound := x.toNat_lt
  rw [Int32.lt_iff_toInt_lt]
  have value : x.toInt32.toInt = (x.toNat : ℤ).bmod (2 ^ 32) := by
    rw [← Int32.toInt_toBitVec, UInt32.toBitVec_toInt32, BitVec.toInt_eq_toNat_bmod,
      UInt32.toNat_toBitVec]
  rw [value, Int32.toInt_zero, Int.bmod_def]
  split_ifs <;> omega

/-- The test on the truncated clock, for a deadline `delay` after `start`. -/
theorem stillAhead_iff {start now : UInt64} {delay : UInt32} (later : start ≤ now)
    (short : delay.toNat < 2 ^ 31) :
    stillAhead now.toUInt32 (start.toUInt32 + delay) ↔
      now.toNat < start.toNat + delay.toNat ∨
        LooksAhead (now.toNat - (start.toNat + delay.toNat)) := by
  have ordered : start.toNat ≤ now.toNat := UInt64.le_iff_toNat_le.mp later
  have nowBound := now.toNat_lt
  rw [stillAhead, decide_eq_true_iff, toInt32_neg_iff, UInt32.toNat_sub, UInt32.toNat_add,
    UInt64.toNat_toUInt32, UInt64.toNat_toUInt32, LooksAhead]
  -- With a delay under half a turn, a deadline ahead keeps the difference in the
  -- upper half; one behind leaves the plain difference modulo the turn.
  omega

end WrappingClock
