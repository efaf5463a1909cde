/-
# OTA updates

An upload erases the upload slot, streams the image through the flash writer and
asks the boot loader for one test boot. One status record says how far it has come.

Every operation runs under the module's mutex, so it is one step here. The results
of the flash and boot functions are inputs of the step, and the calls it made to
them are part of its answer.
-/

import EspNmeaBridge.Errno
import EspNmeaBridge.Lib.Machine

namespace EspNmeaBridge

/-- The Kconfig option `OTA_MAX_UPLOAD_BYTES`, an `int`. -/
structure OtaKconfig where
  otaMaxUploadBytes : ℤ
  otaMaxUploadBytes_int : otaMaxUploadBytes < 2 ^ 31

inductive OtaUpdateState where
  | disabled
  | ready
  | uploading
  | pendingReboot
  | confirmed
  | error
  deriving DecidableEq, Repr

/-- What `set_error_locked` prints into `last_error`. -/
structure OtaError where
  reason : String
  err : Errno
  deriving DecidableEq, Repr

/-- The status that the web page is shown. -/
structure OtaUpdateStatus where
  enabled : Bool
  state : OtaUpdateState
  expectedBytes : UInt32
  uploadedBytes : UInt32
  maxUploadBytes : UInt32
  slot : UInt8
  confirmed : Bool
  lastError : Option OtaError
  deriving DecidableEq, Repr

/-- What the module remembers between two calls, but for the flash writer. -/
structure OtaUpdateRuntime where
  initialized : Bool
  status : OtaUpdateStatus
  deriving DecidableEq, Repr

/-- The zeroed `ota_runtime` of a fresh boot. -/
def otaRuntimeZero : OtaUpdateRuntime where
  initialized := false
  status :=
    { enabled := false, state := .disabled, expectedBytes := 0, uploadedBytes := 0,
      maxUploadBytes := 0, slot := 0, confirmed := false, lastError := none }

/-- A call to the flash writer or the boot loader. -/
inductive OtaCall where
  | bootEraseImgBank (slot : UInt8)
  | flashImgInitId (slot : UInt8)
  | flashImgBufferedWrite (data : List UInt8) (flush : Bool) (ret : Option Errno)
  | bootRequestUpgrade
  | bootWriteImgConfirmed
  | scheduleReboot
  deriving DecidableEq, Repr

/-- What an operation returned, `none` for success, and the calls it made. -/
structure OtaAnswer where
  ret : Option Errno
  calls : List OtaCall
  deriving DecidableEq, Repr

/-- A buffer and its length, as handed to `ota_update_write`. -/
inductive OtaData where
  | null (len : UInt32)
  | bytes (data : List UInt8)
  deriving DecidableEq, Repr

def OtaData.len : OtaData → UInt32
  | .null len => len
  | .bytes data => .ofNat data.length

def OtaData.contents : OtaData → List UInt8
  | .null _ => []
  | .bytes data => data

/-- What the boot loader and the flash map report to `init_once`: the two
`boot_is_img_confirmed` calls and the upload slot. -/
structure OtaInit where
  confirmedForState : Bool
  confirmed : Bool
  uploadSlot : UInt8
  deriving DecidableEq, Repr

namespace OtaUpdateStatus

/-- An error ends an upload that is running. -/
def setErrorLocked (status : OtaUpdateStatus) (reason : Option String) (err : Errno) :
    OtaUpdateStatus :=
  { status with
    state := .error
    lastError := some ⟨reason.getD "OTA update failed", err⟩ }

@[simp] theorem setErrorLocked_state (status : OtaUpdateStatus) (reason : Option String)
    (err : Errno) : (status.setErrorLocked reason err).state = .error := rfl

end OtaUpdateStatus

/-- A limit of 0 is none. -/
def otaUpdateValidateUploadSize (contentLength maxUploadBytes : UInt32) : Option Errno :=
  if contentLength = 0 then some .einval
  else if 0 < maxUploadBytes ∧ maxUploadBytes < contentLength then some .efbig
  else none

/-- A configured limit stands in place of the slot size, even if it is larger. -/
def configuredLimitOrSlotSize (cfg : OtaKconfig) (faSize : UInt32) : UInt32 :=
  if 0 < cfg.otaMaxUploadBytes then .ofNat cfg.otaMaxUploadBytes.toNat else faSize

/-- The first call of any operation looks up what the boot loader says of the running image. -/
def initOnce (init : OtaInit) (runtime : OtaUpdateRuntime) : OtaUpdateRuntime :=
  if runtime.initialized then runtime
  else
    { initialized := true
      status :=
        { runtime.status with
          enabled := true
          state := if init.confirmedForState then .confirmed else .ready
          confirmed := init.confirmed
          slot := init.uploadSlot } }

/-! ## The operations

Each takes the runtime as `init_once` left it. -/

namespace OtaUpdateRuntime

/-- The operation failed and says so in the status. -/
def fail (runtime : OtaUpdateRuntime) (reason : String) (err : Errno) (calls : List OtaCall) :
    OtaUpdateRuntime × OtaAnswer :=
  ({ runtime with status := runtime.status.setErrorLocked (some reason) err }, ⟨some err, calls⟩)

/-- `slot` is the upload slot, `area` the size of its flash area. -/
def otaUpdateBegin (cfg : OtaKconfig) (runtime : OtaUpdateRuntime) (contentLength : UInt32)
    (slot : UInt8) (area : Except Errno UInt32) (eraseRet initRet : Option Errno) :
    OtaUpdateRuntime × OtaAnswer :=
  match area with
  | .error err => runtime.fail "opening OTA upload slot failed" err []
  | .ok faSize =>
    let maxUploadBytes := configuredLimitOrSlotSize cfg faSize
    -- The limit stays in the status, even where the upload is refused.
    let runtime := { runtime with status := { runtime.status with maxUploadBytes } }
    match otaUpdateValidateUploadSize contentLength maxUploadBytes with
    | some err => runtime.fail "invalid OTA upload size" err []
    | none =>
      match eraseRet with
      | some err => runtime.fail "erasing OTA upload slot failed" err [.bootEraseImgBank slot]
      | none =>
        match initRet with
        | some err =>
          runtime.fail "initializing OTA flash writer failed" err
            [.bootEraseImgBank slot, .flashImgInitId slot]
        | none =>
          ({ runtime with
              status :=
                { runtime.status with
                  enabled := true
                  state := .uploading
                  expectedBytes := contentLength
                  uploadedBytes := 0
                  slot := slot
                  lastError := none } },
            ⟨none, [.bootEraseImgBank slot, .flashImgInitId slot]⟩)

/-- The null check comes before `init_once` and is made by `otaStep`. -/
def otaUpdateWrite (runtime : OtaUpdateRuntime) (data : OtaData) (writeRet : Option Errno) :
    OtaUpdateRuntime × OtaAnswer :=
  if runtime.status.state ≠ .uploading then (runtime, ⟨some .ealready, []⟩)
  -- `size_t` is 32 bits wide: the sum wraps
  else if runtime.status.expectedBytes < runtime.status.uploadedBytes + data.len then
    runtime.fail "OTA upload exceeded Content-Length" .efbig []
  else
    let calls := [.flashImgBufferedWrite data.contents false writeRet]
    match writeRet with
    | none =>
      ({ runtime with
          status :=
            { runtime.status with
              uploadedBytes := runtime.status.uploadedBytes + data.len } },
        ⟨none, calls⟩)
    | some err => runtime.fail "writing OTA image failed" err calls

/-- Only a complete image is flushed and asked to boot. -/
def otaUpdateFinish (runtime : OtaUpdateRuntime) (flushRet upgradeRet : Option Errno) :
    OtaUpdateRuntime × OtaAnswer :=
  if runtime.status.state ≠ .uploading then (runtime, ⟨some .ealready, []⟩)
  else if runtime.status.uploadedBytes ≠ runtime.status.expectedBytes then
    runtime.fail "OTA upload ended before Content-Length" .emsgsize []
  else
    match flushRet with
    | some err =>
      runtime.fail "flushing OTA image failed" err [.flashImgBufferedWrite [] true flushRet]
    | none =>
      let calls := [.flashImgBufferedWrite [] true flushRet, .bootRequestUpgrade]
      match upgradeRet with
      | some err => runtime.fail "requesting OTA test boot failed" err calls
      | none =>
        ({ runtime with
            status := { runtime.status with state := .pendingReboot, lastError := none } },
          ⟨none, calls⟩)

/-- Whatever the state is, it becomes an error. -/
def otaUpdateAbort (runtime : OtaUpdateRuntime) (reason : Option String) :
    OtaUpdateRuntime × OtaAnswer :=
  ({ runtime with
      status :=
        runtime.status.setErrorLocked (some (reason.getD "OTA upload aborted")) .ecanceled },
    ⟨none, []⟩)

/-- The web server has answered, so the image is confirmed unless it already is. -/
def otaUpdateSelfCheckWebReachable (runtime : OtaUpdateRuntime) (imgConfirmed : Bool)
    (writeConfirmedRet : Option Errno) : OtaUpdateRuntime × OtaAnswer :=
  if imgConfirmed then
    ({ runtime with status := { runtime.status with confirmed := true, state := .confirmed } },
      ⟨none, []⟩)
  else
    match writeConfirmedRet with
    | none =>
      ({ runtime with
          status :=
            { runtime.status with confirmed := true, state := .confirmed, lastError := none } },
        ⟨none, [.bootWriteImgConfirmed]⟩)
    | some err =>
      -- the function itself returns nothing
      ({ runtime with
          status := runtime.status.setErrorLocked (some "confirming OTA image failed") err },
        ⟨none, [.bootWriteImgConfirmed]⟩)

end OtaUpdateRuntime

/-- A call of the module, with the results it gets from flash and boot loader. -/
inductive OtaOp where
  | begin (contentLength : UInt32) (slot : UInt8) (area : Except Errno UInt32)
      (eraseRet initRet : Option Errno)
  | write (data : OtaData) (writeRet : Option Errno)
  | finish (flushRet upgradeRet : Option Errno)
  | abort (reason : Option String)
  | selfCheckWebReachable (imgConfirmed : Bool) (writeConfirmedRet : Option Errno)
  | scheduleReboot
  | getStatus
  deriving DecidableEq, Repr

/-- Each call comes with what `init_once` would find, should it be the first. -/
structure OtaInput where
  init : OtaInit
  op : OtaOp
  deriving DecidableEq, Repr

/-- Every operation starts with `init_once`; only the check for a NULL chunk comes before it. -/
def otaStep (cfg : OtaKconfig) (runtime : OtaUpdateRuntime) (input : OtaInput) :
    OtaUpdateRuntime × OtaAnswer :=
  let ready := initOnce input.init runtime
  match input.op with
  | .begin contentLength slot area eraseRet initRet =>
    ready.otaUpdateBegin cfg contentLength slot area eraseRet initRet
  | .write (.null len) writeRet =>
    if 0 < len then (runtime, ⟨some .einval, []⟩) else ready.otaUpdateWrite (.null len) writeRet
  | .write (.bytes data) writeRet => ready.otaUpdateWrite (.bytes data) writeRet
  | .finish flushRet upgradeRet => ready.otaUpdateFinish flushRet upgradeRet
  | .abort reason => ready.otaUpdateAbort reason
  | .selfCheckWebReachable imgConfirmed writeConfirmedRet =>
    ready.otaUpdateSelfCheckWebReachable imgConfirmed writeConfirmedRet
  | .scheduleReboot => (ready, ⟨none, [.scheduleReboot]⟩)
  | .getStatus => (ready, ⟨none, []⟩)

/-! ## What each operation can do -/

theorem initOnce_initialized (init : OtaInit) (runtime : OtaUpdateRuntime) :
    (initOnce init runtime).initialized = true := by
  by_cases started : runtime.initialized = true <;> simp [initOnce, started]

/-- `init_once` itself reports no upload and no pending reboot. -/
theorem initOnce_eq_self {init : OtaInit} {runtime : OtaUpdateRuntime}
    (busy : (initOnce init runtime).status.state = .uploading ∨
      (initOnce init runtime).status.state = .pendingReboot) :
    initOnce init runtime = runtime := by
  by_cases started : runtime.initialized = true
  · simp [initOnce, started]
  · cases reported : init.confirmedForState <;> simp [initOnce, started, reported] at busy

theorem initOnce_of_initialized {runtime : OtaUpdateRuntime} (started : runtime.initialized = true)
    (init : OtaInit) : initOnce init runtime = runtime := by
  simp [initOnce, started]

section Operations

variable {cfg : OtaKconfig} {runtime : OtaUpdateRuntime}

/-- A size that passes the check is positive and within the limit. -/
theorem otaUpdateValidateUploadSize_eq_none {contentLength maxUploadBytes : UInt32} :
    otaUpdateValidateUploadSize contentLength maxUploadBytes = none ↔
      contentLength ≠ 0 ∧ (0 < maxUploadBytes → contentLength ≤ maxUploadBytes) := by
  unfold otaUpdateValidateUploadSize
  split_ifs with empty large
  · simp [empty]
  · simp [empty, large]
  · rw [not_and, UInt32.not_lt] at large
    simpa [empty] using large

/-- Beginning an upload fails with an error, or erases the slot and starts the count. -/
theorem otaUpdateBegin_cases (cfg : OtaKconfig) (runtime : OtaUpdateRuntime)
    (contentLength : UInt32) (slot : UInt8) (area : Except Errno UInt32)
    (eraseRet initRet : Option Errno) :
    let result := runtime.otaUpdateBegin cfg contentLength slot area eraseRet initRet
    .bootRequestUpgrade ∉ result.2.calls ∧
      ((result.1.status.state = .error ∧ result.2.ret ≠ none) ∨
        ∃ faSize, area = .ok faSize ∧
          otaUpdateValidateUploadSize contentLength (configuredLimitOrSlotSize cfg faSize) = none ∧
          result.2 = ⟨none, [.bootEraseImgBank slot, .flashImgInitId slot]⟩ ∧
          result.1.status.state = .uploading ∧ result.1.status.expectedBytes = contentLength ∧
          result.1.status.uploadedBytes = 0) := by
  unfold OtaUpdateRuntime.otaUpdateBegin OtaUpdateRuntime.fail
  cases area with
  | error err => simp
  | ok faSize =>
    cases valid : otaUpdateValidateUploadSize contentLength
        (configuredLimitOrSlotSize cfg faSize) with
    | some err => simp [valid]
    | none => cases eraseRet <;> cases initRet <;> simp [valid]

/-- A write is refused, ends the upload, or hands its bytes to the flash writer. -/
theorem otaUpdateWrite_cases (runtime : OtaUpdateRuntime) (data : OtaData)
    (writeRet : Option Errno) :
    let result := runtime.otaUpdateWrite data writeRet
    .bootRequestUpgrade ∉ result.2.calls ∧
      ((runtime.status.state ≠ .uploading ∧ result = (runtime, ⟨some .ealready, []⟩)) ∨
        result.1.status.state = .error ∨
        (runtime.status.state = .uploading ∧
          runtime.status.uploadedBytes + data.len ≤ runtime.status.expectedBytes ∧
          result = ({ runtime with
              status :=
                { runtime.status with
                  uploadedBytes := runtime.status.uploadedBytes + data.len } },
            ⟨none, [.flashImgBufferedWrite data.contents false none]⟩))) := by
  unfold OtaUpdateRuntime.otaUpdateWrite OtaUpdateRuntime.fail
  split_ifs with idle exceeded
  · simp [idle]
  · simp
  · rw [not_not] at idle
    rw [UInt32.not_lt] at exceeded
    cases writeRet <;> simp [idle, exceeded]

/-- Finishing is refused, fails before the boot request, or makes it behind a flush. -/
theorem otaUpdateFinish_cases (runtime : OtaUpdateRuntime) (flushRet upgradeRet : Option Errno) :
    let result := runtime.otaUpdateFinish flushRet upgradeRet
    (runtime.status.state ≠ .uploading ∧ result = (runtime, ⟨some .ealready, []⟩)) ∨
      (result.1.status.state = .error ∧ result.2.ret ≠ none ∧
        .bootRequestUpgrade ∉ result.2.calls) ∨
      (runtime.status.state = .uploading ∧
        runtime.status.uploadedBytes = runtime.status.expectedBytes ∧
        result.2.calls = [.flashImgBufferedWrite [] true none, .bootRequestUpgrade] ∧
        result.2.ret = upgradeRet ∧
        result.1.status.state = if upgradeRet = none then .pendingReboot else .error) := by
  unfold OtaUpdateRuntime.otaUpdateFinish OtaUpdateRuntime.fail
  by_cases idle : runtime.status.state = .uploading
  · by_cases complete : runtime.status.uploadedBytes = runtime.status.expectedBytes
    · cases flushRet <;> cases upgradeRet <;> simp [idle, complete]
    · simp [idle, complete]
  · simp [idle]

/-- The self check always leaves the status with its verdict on the running image. -/
theorem otaUpdateSelfCheckWebReachable_cases (runtime : OtaUpdateRuntime) (imgConfirmed : Bool)
    (writeConfirmedRet : Option Errno) :
    let result := runtime.otaUpdateSelfCheckWebReachable imgConfirmed writeConfirmedRet
    (∀ call ∈ result.2.calls, call = .bootWriteImgConfirmed) ∧
      (result.1.status.state = .confirmed ∨ result.1.status.state = .error) := by
  unfold OtaUpdateRuntime.otaUpdateSelfCheckWebReachable
  cases imgConfirmed <;> cases writeConfirmedRet <;> simp

@[simp] theorem otaUpdateBegin_initialized (contentLength : UInt32) (slot : UInt8)
    (area : Except Errno UInt32) (eraseRet initRet : Option Errno) :
    (runtime.otaUpdateBegin cfg contentLength slot area eraseRet initRet).1.initialized =
      runtime.initialized := by
  unfold OtaUpdateRuntime.otaUpdateBegin
  cases area with
  | error err => rfl
  | ok faSize =>
    dsimp only
    cases otaUpdateValidateUploadSize contentLength (configuredLimitOrSlotSize cfg faSize) with
    | some err => rfl
    | none => cases eraseRet <;> cases initRet <;> rfl

@[simp] theorem otaUpdateWrite_initialized (data : OtaData) (writeRet : Option Errno) :
    (runtime.otaUpdateWrite data writeRet).1.initialized = runtime.initialized := by
  unfold OtaUpdateRuntime.otaUpdateWrite
  split_ifs
  · rfl
  · rfl
  · cases writeRet <;> rfl

@[simp] theorem otaUpdateFinish_initialized (flushRet upgradeRet : Option Errno) :
    (runtime.otaUpdateFinish flushRet upgradeRet).1.initialized = runtime.initialized := by
  unfold OtaUpdateRuntime.otaUpdateFinish
  split_ifs
  · rfl
  · rfl
  · cases flushRet <;> cases upgradeRet <;> rfl

@[simp] theorem otaUpdateSelfCheckWebReachable_initialized (imgConfirmed : Bool)
    (writeConfirmedRet : Option Errno) :
    (runtime.otaUpdateSelfCheckWebReachable imgConfirmed writeConfirmedRet).1.initialized =
      runtime.initialized := by
  cases imgConfirmed <;> cases writeConfirmedRet <;> rfl

/-- No operation undoes `init_once`. -/
theorem otaStep_initialized (cfg : OtaKconfig) (started : runtime.initialized = true)
    (input : OtaInput) :
    (otaStep cfg runtime input).1.initialized = true := by
  obtain ⟨init, op⟩ := input
  have ready : initOnce init runtime = runtime := initOnce_of_initialized started init
  cases op with
  | write data writeRet =>
    cases data with
    | null len => by_cases positive : 0 < len <;> simp [otaStep, ready, started, positive]
    | bytes data => simp [otaStep, ready, started]
  | abort reason => simp [otaStep, OtaUpdateRuntime.otaUpdateAbort, ready, started]
  | _ => simp [otaStep, ready, started]

end Operations

end EspNmeaBridge
