/-
# Bounded backoff over whole runs

The observer keeps a saturating counter of failures, a time to wait for and the
colour it last applied. Against the history of its wake-ups these are the number
of failed updates since the last successful one, the end of the delay after the
latest of them, and the colour of that success.

Between a failure and the next update the observer does not change, however often
it wakes up and whatever it renders. So the deadline of the k-th failure in a row
stands until a wake-up at or after it finds a colour to show.
-/

import EspNmeaBridge.Lib.History
import EspNmeaBridge.Lib.Machine
import EspNmeaBridge.StatusLed

namespace EspNmeaBridge

open History Machine

/-! ## Runs -/

/-- A wake-up and what it did to the hardware. -/
abbrev StatusLedRound := StatusLedWake × List StatusLedCall

/-- The observer after these wake-ups. -/
def statusLedAfter (wakes : List StatusLedWake) : StatusLedObserver :=
  stateAfter statusLedThread statusLedObserverInit wakes

def statusLedRounds (wakes : List StatusLedWake) : List StatusLedRound :=
  trace statusLedThread statusLedObserverInit wakes

/-- Whether `led_strip_update_rgb` is among the calls. -/
def updateAttempted (calls : List StatusLedCall) : Bool :=
  calls.any fun
    | .updateRgb _ => true
    | .recoverBus => false

/-- Marks the successful updates, with the colour each applied. -/
def updateSucceeded (event : StatusLedRound) : Option StatusLedRgb :=
  if updateAttempted event.2 ∧ event.1.ret = 0 then some event.1.rendered else none

def updateFailed (event : StatusLedRound) : Bool :=
  updateAttempted event.2 && event.1.ret ≠ 0

/-- The colour of the latest successful update. -/
def lastApplied (wakes : List StatusLedWake) : Option StatusLedRgb :=
  (since updateSucceeded (statusLedRounds wakes)).map Prod.fst

/-- How many updates failed since the latest successful one, or ever. -/
def failuresInARow (wakes : List StatusLedWake) : ℕ :=
  match since updateSucceeded (statusLedRounds wakes) with
  | some (_, after) => after.countP updateFailed
  | none => (statusLedRounds wakes).countP updateFailed

/-- After the earlier wake-ups, this one attempts an update. -/
def Attempts (earlier : List StatusLedWake) (wake : StatusLedWake) : Prop :=
  updateAttempted (statusLedThread (statusLedAfter earlier) wake).2 = true

/-- It attempts an update, and the strip refuses it. -/
def Fails (earlier : List StatusLedWake) (wake : StatusLedWake) : Prop :=
  Attempts earlier wake ∧ wake.ret ≠ 0

/-- When the delay after this failed update ends. -/
def retryDeadline (earlier : List StatusLedWake) (failure : StatusLedWake) : ℕ :=
  failure.nowMs + backoffMs (failuresInARow (earlier ++ [failure]))

/-- The wake-up comes at or after the time, with a colour other than the applied one. -/
def WantsUpdate (timeMs : ℕ) (earlier : List StatusLedWake) (wake : StatusLedWake) : Prop :=
  timeMs ≤ wake.nowMs ∧ lastApplied earlier ≠ some wake.rendered

/-- Retries are held back, resumed and reset, and no update is repeated. -/
structure RetriesWithBackoff (wakes : List StatusLedWake) : Prop where
  /-- After a failed update none is attempted before its deadline. -/
  waits : ∀ earlier failure between wake later,
    wakes = earlier ++ failure :: between ++ wake :: later → Fails earlier failure →
      wake.nowMs < retryDeadline earlier failure →
        ¬ Attempts (earlier ++ failure :: between) wake
  /-- The first wake-up from the deadline on that wants an update attempts one. -/
  retries : ∀ earlier failure between wake later,
    wakes = earlier ++ failure :: between ++ wake :: later → Fails earlier failure →
      (∀ front other back, between = front ++ other :: back →
        ¬ WantsUpdate (retryDeadline earlier failure) (earlier ++ failure :: front) other) →
      WantsUpdate (retryDeadline earlier failure) (earlier ++ failure :: between) wake →
        Attempts (earlier ++ failure :: between) wake
  /-- With no failure since the last success, or ever, there is nothing to wait for. -/
  prompt : ∀ earlier wake later, wakes = earlier ++ wake :: later → failuresInARow earlier = 0 →
    lastApplied earlier ≠ some wake.rendered → Attempts earlier wake
  /-- The colour that was applied last is not applied again. -/
  quiet : ∀ earlier wake later, wakes = earlier ++ wake :: later →
    lastApplied earlier = some wake.rendered → ¬ Attempts earlier wake

/-! ## What the observer knows of its history -/

section Tracking

variable (earlier : List StatusLedWake) (wake : StatusLedWake)

/-- Everything one more wake-up can do to the observer and to its history. -/
theorem statusLed_wake_cases :
    (¬ (statusLedAfter earlier).Due wake ∧ ¬ Attempts earlier wake ∧
      statusLedAfter (earlier ++ [wake]) = statusLedAfter earlier ∧
      lastApplied (earlier ++ [wake]) = lastApplied earlier ∧
      failuresInARow (earlier ++ [wake]) = failuresInARow earlier) ∨
    ((statusLedAfter earlier).Due wake ∧ Attempts earlier wake ∧ wake.ret = 0 ∧
      statusLedAfter (earlier ++ [wake]) = ⟨0, 0, true, wake.rendered⟩ ∧
      lastApplied (earlier ++ [wake]) = some wake.rendered ∧
      failuresInARow (earlier ++ [wake]) = 0) ∨
    ((statusLedAfter earlier).Due wake ∧ Attempts earlier wake ∧ wake.ret ≠ 0 ∧
      statusLedAfter (earlier ++ [wake]) = (statusLedAfter earlier).failed wake ∧
      lastApplied (earlier ++ [wake]) = lastApplied earlier ∧
      failuresInARow (earlier ++ [wake]) = failuresInARow earlier + 1) := by
  have after : statusLedAfter (earlier ++ [wake]) =
      (statusLedThread (statusLedAfter earlier) wake).1 := stateAfter_snoc _ _ _ _
  have history : statusLedRounds (earlier ++ [wake]) = statusLedRounds earlier ++
      [(wake, (statusLedThread (statusLedAfter earlier) wake).2)] := trace_snoc _ _ _ _
  rw [Attempts, lastApplied, lastApplied, failuresInARow, failuresInARow, after, history]
  rcases statusLedThread_cases (statusLedAfter earlier) wake with
    ⟨due, step⟩ | ⟨due, success, step⟩ | ⟨due, failure, step⟩
  · -- Neither a success nor a failure joins the history.
    have unmarked : updateSucceeded (wake, []) = none := rfl
    refine Or.inl ⟨due, by simp [step, updateAttempted], by rw [step], ?_, ?_⟩
    · rw [step, since_snoc_of_none unmarked, Option.map_map]
      rfl
    · rw [step, since_snoc_of_none unmarked]
      cases since updateSucceeded (statusLedRounds earlier) <;>
        simp [updateFailed, updateAttempted]
  · have marked : updateSucceeded (wake, [.updateRgb wake.rendered]) = some wake.rendered := by
      simp [updateSucceeded, updateAttempted, success]
    refine Or.inr (Or.inl ⟨due, by simp [step, updateAttempted], success, by rw [step], ?_, ?_⟩)
    · rw [step, since_snoc_of_some marked]
      rfl
    · rw [step, since_snoc_of_some marked]
      rfl
  · have unmarked : updateSucceeded (wake, [.updateRgb wake.rendered, .recoverBus]) = none := by
      simp [updateSucceeded, failure]
    refine Or.inr (Or.inr ⟨due, by simp [step, updateAttempted], failure, by rw [step], ?_, ?_⟩)
    · rw [step, since_snoc_of_none unmarked, Option.map_map]
      rfl
    · rw [step, since_snoc_of_none unmarked]
      cases since updateSucceeded (statusLedRounds earlier) <;>
        simp [updateFailed, updateAttempted, failure]

/-- The locals of the thread say what the history says. -/
structure ObserverTracks (wakes : List StatusLedWake) : Prop where
  applied : (statusLedAfter wakes).applied = lastApplied wakes
  counted : (statusLedAfter wakes).failedAttempts.toNat = min (failuresInARow wakes) 255
  idle : failuresInARow wakes = 0 → (statusLedAfter wakes).nextRetryMs = 0

theorem observerTracks (wakes : List StatusLedWake) : ObserverTracks wakes := by
  induction wakes using List.reverseRecOn with
  | nil => exact ⟨rfl, rfl, fun _ => rfl⟩
  | append_singleton earlier wake ih =>
    rcases statusLed_wake_cases earlier wake with
      ⟨-, -, after, applied, failures⟩ | ⟨-, -, -, after, applied, failures⟩ |
        ⟨-, -, -, after, applied, failures⟩
    · refine ⟨?_, ?_, fun none => ?_⟩
      · rw [after, applied, ih.applied]
      · rw [after, failures, ih.counted]
      · rw [after]
        exact ih.idle (failures.symm.trans none)
    · refine ⟨?_, ?_, fun _ => by rw [after]⟩
      · rw [after, applied]
        rfl
      · rw [after, failures]
        rfl
    · refine ⟨?_, ?_, fun none => ?_⟩
      · rw [after, applied, ← ih.applied]
        rfl
      · rw [after, failures, toNat_failedAttempts_failed, ih.counted]
        omega
      · rw [failures] at none
        exact absurd none (Nat.succ_ne_zero _)

variable {earlier wake}

/-- An update is attempted when the colour is new to the strip and the wait is over. -/
theorem attempts_iff :
    Attempts earlier wake ↔ lastApplied earlier ≠ some wake.rendered ∧
      (statusLedAfter earlier).nextRetryMs ≤ wake.nowMs := by
  have due_iff : (statusLedAfter earlier).Due wake ↔ lastApplied earlier ≠ some wake.rendered ∧
      (statusLedAfter earlier).nextRetryMs ≤ wake.nowMs := by
    rw [StatusLedObserver.Due, (observerTracks earlier).applied]
  rw [← due_iff]
  rcases statusLed_wake_cases earlier wake with
    ⟨due, attempts, -⟩ | ⟨due, attempts, -⟩ | ⟨due, attempts, -⟩
  · exact iff_of_false attempts due
  · exact iff_of_true attempts due
  · exact iff_of_true attempts due

/-- A failed update sets the deadline of its delay. -/
theorem Fails.nextRetryMs (fails : Fails earlier wake) :
    (statusLedAfter (earlier ++ [wake])).nextRetryMs = retryDeadline earlier wake := by
  obtain ⟨attempts, refused⟩ := fails
  rcases statusLed_wake_cases earlier wake with
    ⟨-, idle, -⟩ | ⟨-, -, success, -⟩ | ⟨-, -, -, after, -, failures⟩
  · exact absurd attempts idle
  · exact absurd success refused
  · rw [retryDeadline, ← backoffMs_min, ← (observerTracks (earlier ++ [wake])).counted, after]
    exact nextRetryMs_failed _ _

/-- The deadline stands until a wake-up wants an update. -/
theorem Fails.stillWaiting (fails : Fails earlier wake) {between : List StatusLedWake}
    (unwanted : ∀ front other back, between = front ++ other :: back →
      ¬ WantsUpdate (retryDeadline earlier wake) (earlier ++ wake :: front) other) :
    (statusLedAfter (earlier ++ wake :: between)).nextRetryMs = retryDeadline earlier wake := by
  induction between using List.reverseRecOn with
  | nil => exact fails.nextRetryMs
  | append_singleton between other ih =>
    have waiting := ih fun front before back split =>
      unwanted front before (back ++ [other]) (by rw [split, List.append_assoc, List.cons_append])
    -- The wake-up in between attempts no update, so it changes nothing.
    have idle : ¬ Attempts (earlier ++ wake :: between) other := by
      rw [attempts_iff, waiting]
      rintro ⟨differs, late⟩
      exact unwanted between other [] rfl ⟨late, differs⟩
    have regroup : earlier ++ wake :: (between ++ [other]) =
        earlier ++ wake :: between ++ [other] := by simp
    rw [regroup]
    rcases statusLed_wake_cases (earlier ++ wake :: between) other with
      ⟨-, -, after, -⟩ | ⟨-, attempts, -⟩ | ⟨-, attempts, -⟩
    · rw [after, waiting]
    · exact absurd attempts idle
    · exact absurd attempts idle

end Tracking

/-! ## Every run -/

/-- Whatever is rendered and whatever the strip answers, updates that fail are retried
with bounded backoff. -/
theorem statusLed_retriesWithBackoff (wakes : List StatusLedWake)
    (inOrder : wakes.Pairwise fun earlier later => earlier.nowMs ≤ later.nowMs) :
    RetriesWithBackoff wakes where
  waits := by
    rintro earlier failure between wake later rfl fails early
    -- No wake-up before this one comes after the deadline either.
    have sooner : ∀ other ∈ between, other.nowMs ≤ wake.nowMs := by
      intro other member
      exact (List.pairwise_append.mp inOrder).2.2 other (by simp [member]) wake (by simp)
    have waiting : (statusLedAfter (earlier ++ failure :: between)).nextRetryMs =
        retryDeadline earlier failure := by
      refine fails.stillWaiting ?_
      rintro front other back rfl ⟨late, -⟩
      have := sooner other (by simp)
      omega
    rw [attempts_iff, waiting]
    rintro ⟨-, late⟩
    omega
  retries := by
    rintro earlier failure between wake later - fails unwanted ⟨late, differs⟩
    exact attempts_iff.mpr ⟨differs, by rwa [fails.stillWaiting unwanted]⟩
  prompt := by
    intro earlier wake later _ none differs
    refine attempts_iff.mpr ⟨differs, ?_⟩
    rw [(observerTracks earlier).idle none]
    exact Nat.zero_le _
  quiet := by
    intro earlier wake later _ same
    rw [attempts_iff]
    exact fun attempts => attempts.1 same

/-- Two failures, wake-ups during both delays, and a success. -/
theorem statusLed_retriesWithBackoff_twoFailures :
    RetriesWithBackoff
      [⟨0, ⟨8, 0, 0⟩, -5⟩, ⟨900, ⟨0, 0, 32⟩, 0⟩, ⟨1000, ⟨8, 0, 0⟩, -5⟩, ⟨2999, ⟨8, 0, 0⟩, 0⟩,
        ⟨3000, ⟨8, 0, 0⟩, 0⟩, ⟨3100, ⟨8, 0, 0⟩, 0⟩] :=
  statusLed_retriesWithBackoff _ (by decide)

end EspNmeaBridge
