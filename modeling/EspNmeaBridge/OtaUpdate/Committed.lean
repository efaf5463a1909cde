/-
# A committed update until its reboot

Between the commit and the delayed reboot the module keeps answering. `ota_update_write`
and `ota_update_finish` look at the state before they act; `ota_update_begin`,
`ota_update_abort` and the self check do not. The committed update survives exactly the
calls that look.
-/

import EspNmeaBridge.OtaUpdate.CompleteImage

namespace EspNmeaBridge

open Machine

/-- The call erases or rewrites the upload slot. -/
def OtaCall.touchesSlot : OtaCall → Bool
  | .bootEraseImgBank _ | .flashImgBufferedWrite _ _ _ => true
  | _ => false

/-- The update committed in `runtime` is still there after the later calls: none of them
touched the upload slot, and the state reported is still the pending reboot. -/
def CommitStays (cfg : OtaKconfig) (runtime : OtaUpdateRuntime) (later : List OtaInput) : Prop :=
  (∀ event ∈ trace (otaStep cfg) runtime later, ∀ call ∈ event.2.calls,
    call.touchesSlot = false) ∧
  (stateAfter (otaStep cfg) runtime later).status.state = .pendingReboot

/-- The calls that leave a pending reboot alone. -/
def OtaOp.looksAtState : OtaOp → Bool
  | .begin _ _ _ _ _ | .abort _ | .selfCheckWebReachable _ _ => false
  | .write _ _ | .finish _ _ | .scheduleReboot | .getStatus => true

/-- The update is committed, and the module initialised. -/
def Committed (runtime : OtaUpdateRuntime) : Prop :=
  runtime.initialized = true ∧ runtime.status.state = .pendingReboot

/-- No upload runs and no update is committed. -/
def Uncommitted (runtime : OtaUpdateRuntime) : Prop :=
  runtime.initialized = true ∧ runtime.status.state ≠ .uploading ∧
    runtime.status.state ≠ .pendingReboot

section Step

variable {cfg : OtaKconfig} {runtime : OtaUpdateRuntime} {input : OtaInput}

theorem commitStays_cons {later : List OtaInput} :
    CommitStays cfg runtime (input :: later) ↔
      (∀ call ∈ (otaStep cfg runtime input).2.calls, call.touchesSlot = false) ∧
        CommitStays cfg (otaStep cfg runtime input).1 later := by
  simp only [CommitStays, trace, List.forall_mem_cons, stateAfter_cons, and_assoc]

/-- A finish that returned 0 has committed the update. -/
theorem committed_of_finish {init : OtaInit} {flushRet upgradeRet : Option Errno}
    (done : (otaStep cfg runtime ⟨init, .finish flushRet upgradeRet⟩).2.ret = none) :
    Committed (otaStep cfg runtime ⟨init, .finish flushRet upgradeRet⟩).1 := by
  have cases := otaUpdateFinish_cases (initOnce init runtime) flushRet upgradeRet
  simp only [otaStep] at done ⊢
  rcases cases with ⟨-, same⟩ | ⟨-, failed, -⟩ | ⟨running, -, -, ret, final⟩
  · simp [same] at done
  · exact absurd done failed
  · constructor
    · have same := initOnce_eq_self (Or.inl running)
      have started := initOnce_initialized init runtime
      rw [same] at started
      exact otaStep_initialized cfg started ⟨init, .finish flushRet upgradeRet⟩
    · rw [ret] at done
      simpa [done] using final

/-- Where no upload runs, a call that looks at the state does nothing. -/
theorem otaStep_eq_self (cfg : OtaKconfig) (started : runtime.initialized = true)
    (idle : runtime.status.state ≠ .uploading) (looks : input.op.looksAtState = true) :
    (otaStep cfg runtime input).1 = runtime ∧
      ∀ call ∈ (otaStep cfg runtime input).2.calls, call.touchesSlot = false := by
  obtain ⟨init, op⟩ := input
  have ready : initOnce init runtime = runtime := initOnce_of_initialized started init
  cases op with
  | write data writeRet =>
    have refused : runtime.otaUpdateWrite data writeRet = (runtime, ⟨some .ealready, []⟩) := by
      simp [OtaUpdateRuntime.otaUpdateWrite, idle]
    cases data with
    | null len => by_cases positive : 0 < len <;> simp [otaStep, ready, refused, positive]
    | bytes data => simp [otaStep, ready, refused]
  | finish flushRet upgradeRet =>
    simp [otaStep, ready, OtaUpdateRuntime.otaUpdateFinish, idle]
  | scheduleReboot => simp [otaStep, ready, OtaCall.touchesSlot]
  | getStatus => simp [otaStep, ready]
  | _ => simp [OtaOp.looksAtState] at looks

/-- A call that does not look either erases the slot or leaves nothing committed. -/
theorem uncommitted_of_blind (started : runtime.initialized = true)
    (blind : input.op.looksAtState = false)
    (untouched : ∀ call ∈ (otaStep cfg runtime input).2.calls, call.touchesSlot = false) :
    Uncommitted (otaStep cfg runtime input).1 := by
  refine ⟨otaStep_initialized cfg started input, ?_⟩
  obtain ⟨init, op⟩ := input
  cases op with
  | «begin» contentLength slot area eraseRet initRet =>
    obtain ⟨-, outcome⟩ := otaUpdateBegin_cases cfg (initOnce init runtime) contentLength slot area
      eraseRet initRet
    simp only [otaStep] at untouched ⊢
    rcases outcome with ⟨failed, -⟩ | ⟨-, -, -, answer, -⟩
    · simp [failed]
    · -- a successful begin erased the slot
      exact absurd (untouched (.bootEraseImgBank slot) (by simp [answer]))
        (by simp [OtaCall.touchesSlot])
  | abort reason => simp [otaStep, OtaUpdateRuntime.otaUpdateAbort]
  | selfCheckWebReachable imgConfirmed writeConfirmedRet =>
    obtain ⟨-, verdict⟩ := otaUpdateSelfCheckWebReachable_cases (initOnce init runtime)
      imgConfirmed writeConfirmedRet
    simp only [otaStep]
    rcases verdict with final | final <;> simp [final]
  | _ => simp [OtaOp.looksAtState] at blind

/-- Without a begin that erases the slot, nothing gets committed again. -/
theorem Uncommitted.step (uncommitted : Uncommitted runtime)
    (untouched : ∀ call ∈ (otaStep cfg runtime input).2.calls, call.touchesSlot = false) :
    Uncommitted (otaStep cfg runtime input).1 := by
  cases looks : input.op.looksAtState with
  | false => exact uncommitted_of_blind uncommitted.1 looks untouched
  | true =>
    rw [(otaStep_eq_self cfg uncommitted.1 uncommitted.2.1 looks).1]
    exact uncommitted

theorem Uncommitted.not_commitStays (uncommitted : Uncommitted runtime) (later : List OtaInput) :
    ¬ CommitStays cfg runtime later := by
  induction later generalizing runtime with
  | nil =>
    intro stays
    exact uncommitted.2.2 stays.2
  | cons input later ih =>
    intro stays
    obtain ⟨untouched, rest⟩ := commitStays_cons.mp stays
    exact ih (uncommitted.step untouched) rest

end Step

/-! ## Every run -/

/-- The calls after the commit keep it exactly when all of them look at the state. -/
theorem Committed.commitStays_iff {cfg : OtaKconfig} {runtime : OtaUpdateRuntime}
    (committed : Committed runtime) (later : List OtaInput) :
    CommitStays cfg runtime later ↔ ∀ input ∈ later, input.op.looksAtState = true := by
  have idle : runtime.status.state ≠ .uploading := by
    rw [committed.2]
    simp
  induction later with
  | nil => simp [CommitStays, committed.2]
  | cons input later ih =>
    rw [commitStays_cons, List.forall_mem_cons]
    cases looks : input.op.looksAtState with
    | true =>
      obtain ⟨same, untouched⟩ := otaStep_eq_self cfg committed.1 idle looks
      rw [same, and_iff_right untouched, and_iff_right rfl]
      exact ih
    | false =>
      -- A call that does not look erases the image or takes the commit back.
      refine iff_of_false ?_ (by simp)
      rintro ⟨untouched, rest⟩
      exact (uncommitted_of_blind committed.1 looks untouched).not_commitStays later rest

/-- Once a finish returned 0, in any run, the update is kept to the reboot exactly when the
later calls are writes, finishes, status reads and the scheduling of the reboot. -/
theorem committed_update_stays_iff (cfg : OtaKconfig) (earlier : List OtaInput) (init : OtaInit)
    (flushRet upgradeRet : Option Errno)
    (done : (otaStep cfg (stateAfter (otaStep cfg) otaRuntimeZero earlier)
      ⟨init, .finish flushRet upgradeRet⟩).2.ret = none) (later : List OtaInput) :
    CommitStays cfg
        (stateAfter (otaStep cfg) otaRuntimeZero (earlier ++ [⟨init, .finish flushRet upgradeRet⟩]))
        later ↔
      ∀ input ∈ later, input.op.looksAtState = true := by
  rw [stateAfter_snoc]
  exact (committed_of_finish done).commitStays_iff later

/-- A write after the commit is refused. -/
theorem committed_update_stays_threeBytes :
    CommitStays ⟨0, by decide⟩
      (stateAfter (otaStep ⟨0, by decide⟩) otaRuntimeZero
        (threeByteUpload.dropLast ++ [⟨⟨true, true, 1⟩, .finish none none⟩]))
      [⟨⟨true, true, 1⟩, .write (.bytes [4]) none⟩] :=
  (committed_update_stays_iff ⟨0, by decide⟩ threeByteUpload.dropLast ⟨true, true, 1⟩ none none
    (by decide) _).mpr (by simp [OtaOp.looksAtState])

/-- A second begin erases the committed image; the status poll of a confirmed running
image, or the abort of an upload, takes back the pending reboot. -/
theorem committed_update_undone :
    ¬ ∀ (cfg : OtaKconfig) (earlier : List OtaInput) (init : OtaInit)
        (flushRet upgradeRet : Option Errno),
      (otaStep cfg (stateAfter (otaStep cfg) otaRuntimeZero earlier)
        ⟨init, .finish flushRet upgradeRet⟩).2.ret = none →
      ∀ later, CommitStays cfg
        (stateAfter (otaStep cfg) otaRuntimeZero (earlier ++ [⟨init, .finish flushRet upgradeRet⟩]))
        later := by
  intro stays
  have second := stays ⟨0, by decide⟩ threeByteUpload.dropLast ⟨true, true, 1⟩ none none
    (by decide) [⟨⟨true, true, 1⟩, .begin 3 1 (.ok 4096) none none⟩]
  exact absurd second.2 (by decide)

end EspNmeaBridge
