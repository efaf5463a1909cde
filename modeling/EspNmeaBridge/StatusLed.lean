/-
# The status LED observer

One thread wakes up at every report and at least every 100 ms, renders the current
colour and writes it to the strip unless it is the last one the strip took. After
a write that failed it leaves the strip alone for a while: the longer, the more
writes failed in a row.

A wake-up is one step. What the policy rendered and what the strip would answer
come with it, so nothing is assumed of either.
-/

import EspNmeaBridge.StatusLedPolicy

namespace EspNmeaBridge

def statusLedRetryInitialMs : UInt32 := 1000
def statusLedRetryMaxMs : UInt32 := 5000

/-- The loop of `status_led_retry_delay_ms`, which counts the failed attempts down. -/
def retryDelayLoop (delayMs : UInt32) : ℕ → UInt32
  | failedAttempts + 2 =>
    if delayMs < statusLedRetryMaxMs then retryDelayLoop (delayMs * 2) (failedAttempts + 1)
    else delayMs
  | _ => delayMs

def statusLedRetryDelayMs (failedAttempts : UInt8) : UInt32 :=
  let delayMs := retryDelayLoop statusLedRetryInitialMs failedAttempts.toNat
  -- Doubling may have gone past the maximum.
  if statusLedRetryMaxMs < delayMs then statusLedRetryMaxMs else delayMs

def statusLedRgbEqual (a b : StatusLedRgb) : Bool := a.r == b.r && a.g == b.g && a.b == b.b

/-- The locals of `status_led_thread`. Times are in milliseconds since boot. -/
structure StatusLedObserver where
  nextRetryMs : ℕ
  failedAttempts : UInt8
  hasAppliedRgb : Bool
  appliedRgb : StatusLedRgb
  deriving DecidableEq, Repr

def statusLedObserverInit : StatusLedObserver where
  nextRetryMs := 0
  failedAttempts := 0
  hasAppliedRgb := false
  appliedRgb := ⟨0, 0, 0⟩

/-- One round of the thread: the time, the rendered colour, and what
`led_strip_update_rgb` returns if it is called. -/
structure StatusLedWake where
  nowMs : ℕ
  rendered : StatusLedRgb
  ret : ℤ
  deriving DecidableEq, Repr

/-- What the thread does to the hardware. -/
inductive StatusLedCall where
  | updateRgb (pixel : StatusLedRgb)
  | recoverBus
  deriving DecidableEq, Repr

/-- The body of the loop of `status_led_thread`. -/
def statusLedThread (observer : StatusLedObserver) (wake : StatusLedWake) :
    StatusLedObserver × List StatusLedCall :=
  if (!observer.hasAppliedRgb || !statusLedRgbEqual wake.rendered observer.appliedRgb) &&
      decide (observer.nextRetryMs ≤ wake.nowMs) then
    if wake.ret = 0 then
      ({ nextRetryMs := 0, failedAttempts := 0, hasAppliedRgb := true,
         appliedRgb := wake.rendered },
        [.updateRgb wake.rendered])
    else
      -- The counter stops at the largest value it can hold.
      let failedAttempts :=
        if observer.failedAttempts < 255 then observer.failedAttempts + 1
        else observer.failedAttempts
      let retryDelayMs := statusLedRetryDelayMs failedAttempts
      ({ observer with failedAttempts, nextRetryMs := wake.nowMs + retryDelayMs.toNat },
        [.updateRgb wake.rendered, .recoverBus])
  else (observer, [])

/-! ## The delay -/

/-- How long to wait after so many failures in a row. -/
def backoffMs (failures : ℕ) : ℕ := min (1000 * 2 ^ (failures - 1)) 5000

theorem backoffMs_of_four_le {failures : ℕ} (many : 4 ≤ failures) : backoffMs failures = 5000 := by
  have eight : 2 ^ 3 ≤ 2 ^ (failures - 1) := Nat.pow_le_pow_right Nat.two_pos (by omega)
  unfold backoffMs
  omega

/-- From the fourth failure on the delay is at its maximum, so the counter may stop. -/
theorem backoffMs_min (failures : ℕ) : backoffMs (min failures 255) = backoffMs failures := by
  rcases Nat.le_total failures 255 with few | many
  · rw [Nat.min_eq_left few]
  · rw [Nat.min_eq_right many, backoffMs_of_four_le (by decide), backoffMs_of_four_le (by omega)]

/-- The loop doubles at most three times. -/
theorem toNat_statusLedRetryDelayMs {failedAttempts : UInt8} (failed : failedAttempts ≠ 0) :
    (statusLedRetryDelayMs failedAttempts).toNat = backoffMs failedAttempts.toNat := by
  have positive : failedAttempts.toNat ≠ 0 := fun zero => failed (UInt8.toNat_inj.mp zero)
  unfold statusLedRetryDelayMs
  match count : failedAttempts.toNat with
  | 0 => exact absurd count positive
  | 1 => rfl
  | 2 => rfl
  | 3 => rfl
  | n + 4 =>
    -- 1000, 2000, 4000 and 8000, which is beyond the maximum whatever is left to count.
    have beyond : retryDelayLoop 8000 (n + 1) = 8000 := by cases n <;> rfl
    have doubled : retryDelayLoop statusLedRetryInitialMs (n + 4) = retryDelayLoop 8000 (n + 1) :=
      rfl
    rw [backoffMs_of_four_le (by omega), doubled, beyond]
    rfl

/-! ## What one wake-up can do -/

@[simp] theorem statusLedRgbEqual_iff {a b : StatusLedRgb} :
    statusLedRgbEqual a b = true ↔ a = b := by
  cases a
  cases b
  simp [statusLedRgbEqual, and_assoc]

/-- The colour the strip shows as far as the observer knows. -/
def StatusLedObserver.applied (observer : StatusLedObserver) : Option StatusLedRgb :=
  if observer.hasAppliedRgb then some observer.appliedRgb else none

/-- The colour differs from the applied one, and the time to wait is over. -/
def StatusLedObserver.Due (observer : StatusLedObserver) (wake : StatusLedWake) : Prop :=
  observer.applied ≠ some wake.rendered ∧ observer.nextRetryMs ≤ wake.nowMs

/-- The observer after one more failed update. -/
def StatusLedObserver.failed (observer : StatusLedObserver) (wake : StatusLedWake) :
    StatusLedObserver :=
  let failedAttempts :=
    if observer.failedAttempts < 255 then observer.failedAttempts + 1 else observer.failedAttempts
  { observer with
    failedAttempts
    nextRetryMs := wake.nowMs + (statusLedRetryDelayMs failedAttempts).toNat }

/-- Everything a wake-up can do: leave the strip alone, update it, or fail to. -/
theorem statusLedThread_cases (observer : StatusLedObserver) (wake : StatusLedWake) :
    (¬ observer.Due wake ∧ statusLedThread observer wake = (observer, [])) ∨
    (observer.Due wake ∧ wake.ret = 0 ∧ statusLedThread observer wake =
      (⟨0, 0, true, wake.rendered⟩, [.updateRgb wake.rendered])) ∨
    (observer.Due wake ∧ wake.ret ≠ 0 ∧ statusLedThread observer wake =
      (observer.failed wake, [.updateRgb wake.rendered, .recoverBus])) := by
  have due : ((!observer.hasAppliedRgb || !statusLedRgbEqual wake.rendered observer.appliedRgb) &&
      decide (observer.nextRetryMs ≤ wake.nowMs)) = true ↔ observer.Due wake := by
    cases applied : observer.hasAppliedRgb <;>
      simp [StatusLedObserver.Due, StatusLedObserver.applied, applied,
        ← Bool.not_eq_true, eq_comm (a := wake.rendered)]
  unfold statusLedThread
  by_cases isDue : observer.Due wake
  · rw [if_pos (due.mpr isDue)]
    by_cases success : wake.ret = 0
    · exact Or.inr (Or.inl ⟨isDue, success, if_pos success⟩)
    · exact Or.inr (Or.inr ⟨isDue, success, if_neg success⟩)
  · exact Or.inl ⟨isDue, if_neg (mt due.mp isDue)⟩

theorem toNat_failedAttempts_failed (observer : StatusLedObserver) (wake : StatusLedWake) :
    (observer.failed wake).failedAttempts.toNat = min (observer.failedAttempts.toNat + 1) 255 := by
  have bound := observer.failedAttempts.toNat_lt
  simp only [StatusLedObserver.failed, UInt8.lt_iff_toNat_lt]
  split_ifs with room
  · simp at room ⊢
    omega
  · simp at room ⊢
    omega

/-- After a failure the next update waits as long as the count says. -/
theorem nextRetryMs_failed (observer : StatusLedObserver) (wake : StatusLedWake) :
    (observer.failed wake).nextRetryMs =
      wake.nowMs + backoffMs (observer.failed wake).failedAttempts.toNat := by
  have counted : (observer.failed wake).failedAttempts ≠ 0 := by
    intro zero
    have count := toNat_failedAttempts_failed observer wake
    rw [zero, UInt8.toNat_zero] at count
    omega
  rw [← toNat_statusLedRetryDelayMs counted]
  rfl

end EspNmeaBridge
