/-
# Only a complete image is scheduled for test boot

The flash writer is compared with the history of calls: since the latest upload
began, nothing but writes went through it, and it was handed their bytes in order.
While an upload runs, the byte count of the status is the number of these bytes.
-/

import EspNmeaBridge.OtaUpdate
import EspNmeaBridge.Lib.History

namespace EspNmeaBridge

open Machine History

/-- A call of the module with its answer. -/
abbrev OtaEvent := OtaInput × OtaAnswer

/-- The most bytes one call hands over, the web handler's receive buffer. -/
def webOtaRxBufSize : ℕ := 1536

/-- The slot is at most 2 GiB, and a write at most one receive buffer. -/
def OtaOp.WithinLimits : OtaOp → Prop
  | .begin _ _ (.ok faSize) _ _ => 1 ≤ faSize.toNat ∧ faSize.toNat ≤ 2 ^ 31
  | .write (.bytes data) _ => data.length ≤ webOtaRxBufSize
  | _ => True

/-- A begin that returned 0, with its content length. -/
def beganWith (event : OtaEvent) : Option UInt32 :=
  match event.1.op with
  | .begin contentLength _ _ _ _ => if event.2.ret = none then some contentLength else none
  | _ => none

/-- The upload goes on undisturbed: the call is a write that returned 0 after its one
flash write, a write refused for its null pointer, or one that does not concern the
upload. In particular it is no begin, no abort, no failed flash write and no write
beyond the content length. -/
def ContinuesUpload (event : OtaEvent) : Prop :=
  match event.1.op with
  | .write data _ =>
    event.2 = ⟨none, [.flashImgBufferedWrite data.contents false none]⟩ ∨
      (data.contents = [] ∧ event.2 = ⟨some .einval, []⟩)
  | .scheduleReboot | .getStatus =>
    ∀ call ∈ event.2.calls, call = .scheduleReboot
  | _ => False

def OtaCall.handed : OtaCall → List UInt8
  | .flashImgBufferedWrite data _ _ => data
  | _ => []

/-- What the flash writer was handed, in order. -/
def handedBytes (events : List OtaEvent) : List UInt8 :=
  events.flatMap fun event => event.2.calls.flatMap OtaCall.handed

/-- The data of the writes that returned 0, in order. -/
def writtenBytes (events : List OtaEvent) : List UInt8 :=
  events.flatMap fun event =>
    match event.1.op, event.2.ret with
    | .write data _, none => data.contents
    | _, _ => []

/-- What stands behind a boot request: since the latest successful begin the upload went
on undisturbed, the flash writer got exactly the announced number of bytes, those of the
successful writes in order, and this operation flushed them before its request. -/
def CompleteImage (earlier : List OtaEvent) (calls : List OtaCall) : Prop :=
  ∃ contentLength after, since beganWith earlier = some (contentLength, after) ∧
    (∀ event ∈ after, ContinuesUpload event) ∧ handedBytes after = writtenBytes after ∧
    (handedBytes after).length = contentLength.toNat ∧
    calls = [.flashImgBufferedWrite [] true none, .bootRequestUpgrade]

/-- What the status says about the upload in progress. -/
def UploadInProgress (earlier : List OtaEvent) (status : OtaUpdateStatus) : Prop :=
  ∃ after, since beganWith earlier = some (status.expectedBytes, after) ∧
    (∀ event ∈ after, ContinuesUpload event) ∧ handedBytes after = writtenBytes after ∧
    (handedBytes after).length = status.uploadedBytes.toNat ∧
    status.uploadedBytes ≤ status.expectedBytes ∧ status.expectedBytes.toNat ≤ 2 ^ 31

/-! ## One call -/

section Step

variable {cfg : OtaKconfig} {earlier : List OtaEvent} {runtime : OtaUpdateRuntime}

/-- Neither the ceiling nor the slot exceeds 2 GiB, so no upload does. -/
theorem contentLength_le {contentLength faSize : UInt32}
    (valid : otaUpdateValidateUploadSize contentLength
      (configuredLimitOrSlotSize cfg faSize) = none)
    (positive : 1 ≤ faSize.toNat) (small : faSize.toNat ≤ 2 ^ 31) :
    contentLength.toNat ≤ 2 ^ 31 := by
  obtain ⟨-, within⟩ := otaUpdateValidateUploadSize_eq_none.mp valid
  have ceiling := cfg.otaMaxUploadBytes_int
  rw [UInt32.lt_iff_toNat_lt, UInt32.le_iff_toNat_le] at within
  by_cases configured : 0 < cfg.otaMaxUploadBytes
  · have limit : (configuredLimitOrSlotSize cfg faSize).toNat = cfg.otaMaxUploadBytes.toNat := by
      simp only [configuredLimitOrSlotSize, configured, if_true, UInt32.toNat_ofNat']
      omega
    simp only [limit, UInt32.toNat_zero] at within
    omega
  · simp only [configuredLimitOrSlotSize, configured, if_false, UInt32.toNat_zero] at within
    omega

/-- The next call of an upload in progress, seen from the history. -/
theorem since_beganWith_snoc {after : List OtaEvent} {contentLength : UInt32} {event : OtaEvent}
    (found : since beganWith earlier = some (contentLength, after))
    (unmarked : beganWith event = none) :
    since beganWith (earlier ++ [event]) = some (contentLength, after ++ [event]) := by
  rw [since_snoc_of_none unmarked, found]
  rfl

/-- A call that leaves the status alone and hands nothing over. -/
theorem UploadInProgress.idle {status : OtaUpdateStatus} {event : OtaEvent}
    (progress : UploadInProgress earlier status) (unmarked : beganWith event = none)
    (continues : ContinuesUpload event) (nothing : handedBytes [event] = [])
    (unwritten : writtenBytes [event] = []) :
    UploadInProgress (earlier ++ [event]) status := by
  obtain ⟨after, found, undisturbed, handed, count, within, limit⟩ := progress
  refine ⟨after ++ [event], since_beganWith_snoc found unmarked, ?_, ?_, ?_, within, limit⟩
  · intro e member
    rcases List.mem_append.mp member with before | last
    · exact undisturbed e before
    · rwa [List.mem_singleton.mp last]
  · simp only [handedBytes, writtenBytes, List.flatMap_append] at handed nothing unwritten ⊢
    rw [handed, nothing, unwritten]
  · simp only [handedBytes, List.flatMap_append, List.length_append] at count nothing ⊢
    rw [count, nothing]
    rfl

/-- A successful write of at most one receive buffer: the count does not wrap. -/
theorem UploadInProgress.write {status : OtaUpdateStatus} {init : OtaInit} {data : OtaData}
    {writeRet : Option Errno} (progress : UploadInProgress earlier status)
    (length : data.len.toNat = data.contents.length)
    (small : data.contents.length ≤ webOtaRxBufSize)
    (within : status.uploadedBytes + data.len ≤ status.expectedBytes) :
    UploadInProgress
      (earlier ++ [(⟨init, .write data writeRet⟩,
        ⟨none, [.flashImgBufferedWrite data.contents false none]⟩)])
      { status with uploadedBytes := status.uploadedBytes + data.len } := by
  obtain ⟨after, found, undisturbed, handed, count, below, limit⟩ := progress
  refine ⟨after ++ [_], since_beganWith_snoc found rfl, ?_, ?_, ?_, within, limit⟩
  · intro e member
    rcases List.mem_append.mp member with before | last
    · exact undisturbed e before
    · rw [List.mem_singleton.mp last]
      exact Or.inl rfl
  · simp only [handedBytes, writtenBytes, List.flatMap_append] at handed ⊢
    rw [handed]
    simp [OtaCall.handed]
  · -- Below the limit of the upload the 32-bit sum is the true one.
    have exact_sum : (status.uploadedBytes + data.len).toNat =
        status.uploadedBytes.toNat + data.contents.length := by
      rw [UInt32.le_iff_toNat_le] at below
      rw [UInt32.toNat_add, length, Nat.mod_eq_of_lt]
      unfold webOtaRxBufSize at small
      omega
    simp only [handedBytes, List.flatMap_append, List.length_append] at count ⊢
    rw [count, exact_sum]
    simp [OtaCall.handed]

/-- What a call does to the upload in progress: it asks for a test boot only behind a
complete image, and the upload that is in progress afterwards is the one the status
describes. -/
def KeepsTrack (earlier : List OtaEvent) (input : OtaInput)
    (result : OtaUpdateRuntime × OtaAnswer) : Prop :=
  (.bootRequestUpgrade ∈ result.2.calls → CompleteImage earlier result.2.calls) ∧
    (result.1.status.state = .uploading →
      UploadInProgress (earlier ++ [(input, result.2)]) result.1.status)

theorem keepsTrack_begin (init : OtaInit) (contentLength : UInt32) (slot : UInt8)
    (area : Except Errno UInt32) (eraseRet initRet : Option Errno)
    (limits : (OtaOp.begin contentLength slot area eraseRet initRet).WithinLimits) :
    KeepsTrack earlier ⟨init, .begin contentLength slot area eraseRet initRet⟩
      (runtime.otaUpdateBegin cfg contentLength slot area eraseRet initRet) := by
  obtain ⟨unrequested, outcome⟩ := otaUpdateBegin_cases cfg runtime contentLength slot area
    eraseRet initRet
  refine ⟨fun requested => absurd requested unrequested, fun uploading => ?_⟩
  rcases outcome with ⟨failed, -⟩ | ⟨faSize, rfl, valid, answer, -, expected, uploaded⟩
  · simp [failed] at uploading
  · -- the history starts afresh, with nothing handed over yet
    refine ⟨[], ?_, by simp, rfl, ?_, ?_, ?_⟩
    · rw [expected]
      apply since_snoc_of_some
      simp [beganWith, answer]
    · rw [uploaded]
      rfl
    · rw [uploaded, UInt32.le_iff_toNat_le]
      exact Nat.zero_le _
    · rw [expected]
      exact contentLength_le valid limits.1 limits.2

theorem keepsTrack_write (init : OtaInit) (data : OtaData) (writeRet : Option Errno)
    (length : data.len.toNat = data.contents.length)
    (small : data.contents.length ≤ webOtaRxBufSize)
    (progress : runtime.status.state = .uploading → UploadInProgress earlier runtime.status) :
    KeepsTrack earlier ⟨init, .write data writeRet⟩ (runtime.otaUpdateWrite data writeRet) := by
  obtain ⟨unrequested, outcome⟩ := otaUpdateWrite_cases runtime data writeRet
  refine ⟨fun requested => absurd requested unrequested, fun uploading => ?_⟩
  rcases outcome with ⟨idle, same⟩ | failed | ⟨running, within, same⟩
  · rw [same] at uploading
    exact absurd uploading idle
  · simp [failed] at uploading
  · rw [same]
    exact (progress running).write length small within

theorem keepsTrack_finish (init : OtaInit) (flushRet upgradeRet : Option Errno)
    (progress : runtime.status.state = .uploading → UploadInProgress earlier runtime.status) :
    KeepsTrack earlier ⟨init, .finish flushRet upgradeRet⟩
      (runtime.otaUpdateFinish flushRet upgradeRet) := by
  rcases otaUpdateFinish_cases runtime flushRet upgradeRet with
    ⟨idle, same⟩ | ⟨failed, -, unrequested⟩ | ⟨running, complete, calls, -, final⟩
  · rw [same]
    exact ⟨by simp, fun uploading => absurd uploading idle⟩
  · exact ⟨fun requested => absurd requested unrequested, fun uploading => by
      simp [failed] at uploading⟩
  · constructor
    · intro _
      obtain ⟨after, found, undisturbed, handed, count, -, -⟩ := progress running
      rw [complete] at count
      exact ⟨_, after, found, undisturbed, handed, count, calls⟩
    · intro uploading
      rw [final] at uploading
      split_ifs at uploading

/-- Every call of the module keeps track of the upload in progress. -/
theorem keepsTrack_otaStep {input : OtaInput} (limits : input.op.WithinLimits)
    (progress : runtime.status.state = .uploading → UploadInProgress earlier runtime.status) :
    KeepsTrack earlier input (otaStep cfg runtime input) := by
  obtain ⟨init, op⟩ := input
  -- an upload in progress was begun after `init_once`
  have ready : (initOnce init runtime).status.state = .uploading →
      UploadInProgress earlier (initOnce init runtime).status := by
    intro uploading
    have same := initOnce_eq_self (Or.inl uploading)
    rw [same] at uploading ⊢
    exact progress uploading
  cases op with
  | «begin» contentLength slot area eraseRet initRet =>
    exact keepsTrack_begin init contentLength slot area eraseRet initRet limits
  | write data writeRet =>
    cases data with
    | null len =>
      by_cases positive : 0 < len
      · simp only [otaStep, positive, if_true]
        refine ⟨by simp, fun uploading => ?_⟩
        exact (progress uploading).idle rfl (Or.inr ⟨rfl, rfl⟩) rfl rfl
      · simp only [otaStep, positive, if_false]
        have empty : len = 0 := by
          rw [UInt32.lt_iff_toNat_lt, UInt32.toNat_zero] at positive
          exact UInt32.toNat_inj.mp (by simpa using positive)
        subst empty
        exact keepsTrack_write init _ writeRet rfl (by simp [OtaData.contents]) ready
    | bytes data =>
      refine keepsTrack_write init _ writeRet ?_ limits ready
      have small : data.length ≤ 1536 := limits
      simp only [OtaData.len, OtaData.contents, UInt32.toNat_ofNat']
      omega
  | finish flushRet upgradeRet => exact keepsTrack_finish init flushRet upgradeRet ready
  | abort reason =>
    exact ⟨by simp [otaStep, OtaUpdateRuntime.otaUpdateAbort], fun uploading => by
      simp [otaStep, OtaUpdateRuntime.otaUpdateAbort] at uploading⟩
  | selfCheckWebReachable imgConfirmed writeConfirmedRet =>
    obtain ⟨calls, final⟩ := otaUpdateSelfCheckWebReachable_cases (initOnce init runtime)
      imgConfirmed writeConfirmedRet
    refine ⟨fun requested => ?_, fun uploading => ?_⟩
    · exact absurd (calls _ requested) (by simp)
    · simp only [otaStep] at uploading
      simp [uploading] at final
  | scheduleReboot =>
    exact ⟨by simp [otaStep], fun uploading =>
      (ready uploading).idle rfl (by simp [ContinuesUpload, otaStep]) rfl rfl⟩
  | getStatus =>
    exact ⟨by simp [otaStep], fun uploading =>
      (ready uploading).idle rfl (by simp [ContinuesUpload, otaStep]) rfl rfl⟩

end Step

/-! ## Every run -/

/-- In every run of calls within the limits, a test boot is requested only for a complete
image, and the count of an upload in progress never exceeds its content length. -/
theorem upgrade_requested_for_complete_image (cfg : OtaKconfig) (inputs : List OtaInput)
    (limits : ∀ input ∈ inputs, input.op.WithinLimits) :
    EveryStep (fun earlier event =>
        .bootRequestUpgrade ∈ event.2.calls → CompleteImage earlier event.2.calls)
      (trace (otaStep cfg) otaRuntimeZero inputs) ∧
    ((stateAfter (otaStep cfg) otaRuntimeZero inputs).status.state = .uploading →
      (stateAfter (otaStep cfg) otaRuntimeZero inputs).status.uploadedBytes ≤
        (stateAfter (otaStep cfg) otaRuntimeZero inputs).status.expectedBytes) := by
  have idle : otaRuntimeZero.status.state ≠ .uploading := by decide
  have tracked := trace_invariant (otaStep cfg)
    (P := fun events runtime =>
      EveryStep (fun earlier event =>
        .bootRequestUpgrade ∈ event.2.calls → CompleteImage earlier event.2.calls) events ∧
      (runtime.status.state = .uploading → UploadInProgress events runtime.status))
    (fun events runtime input allowed kept =>
      have step : KeepsTrack events input (otaStep cfg runtime input) :=
        keepsTrack_otaStep allowed kept.2
      ⟨everyStep_snoc.mpr ⟨kept.1, step.1⟩, step.2⟩)
    ⟨everyStep_nil, fun uploading => absurd uploading idle⟩ inputs limits
  refine ⟨tracked.1, fun uploading => ?_⟩
  obtain ⟨-, -, -, -, -, within, -⟩ := tracked.2 uploading
  exact within

/-- A three-byte image in two writes, and its commit. -/
def threeByteUpload : List OtaInput :=
  List.map (OtaInput.mk ⟨true, true, 1⟩)
    [.begin 3 1 (.ok 4096) none none, .write (.bytes [1, 2]) none, .write (.bytes [3]) none,
      .finish none none]

theorem upgrade_requested_for_three_bytes :
    (trace (otaStep ⟨0, by decide⟩) otaRuntimeZero threeByteUpload).map
        (fun event => decide (.bootRequestUpgrade ∈ event.2.calls)) =
      [false, false, false, true] ∧
    EveryStep (fun earlier event =>
        .bootRequestUpgrade ∈ event.2.calls → CompleteImage earlier event.2.calls)
      (trace (otaStep ⟨0, by decide⟩) otaRuntimeZero threeByteUpload) :=
  ⟨by decide, (upgrade_requested_for_complete_image ⟨0, by decide⟩ threeByteUpload
    (by simp [threeByteUpload, OtaOp.WithinLimits, webOtaRxBufSize])).1⟩

end EspNmeaBridge
