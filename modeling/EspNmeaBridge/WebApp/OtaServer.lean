/-
# Uploads on the running server

The web server serves one connection after the other, and nothing else calls the update
module. Here the two run together: the handler is told what the module answers, the module
does what the handler calls, and what both see of flash and boot loader is an input.

The image that is asked to boot is then the body of one request, as it was received, and
between two connections no upload is running.
-/

import EspNmeaBridge.Lib.Transitions
import EspNmeaBridge.OtaUpdate.CompleteImage
import EspNmeaBridge.WebApp.HeadGrammar
import EspNmeaBridge.WebApp.SplitIndependence

namespace EspNmeaBridge

open CString Machine

/-! ## The handler on the module -/

/-- What flash and boot loader answer during one connection. -/
structure OtaFlash where
  init : OtaInit
  slot : UInt8
  area : Except Errno UInt32
  eraseRet : Option Errno
  initRet : Option Errno
  writeRet : ℕ → Option Errno
  flushRet : Option Errno
  upgradeRet : Option Errno
  imgConfirmed : Bool
  writeConfirmedRet : Option Errno

namespace OtaFlash

variable (flash : OtaFlash)

def beginOp (contentLength : ℕ) : OtaOp :=
  .begin (.ofNat contentLength) flash.slot flash.area flash.eraseRet flash.initRet

/-- The operations behind the calls of the handler, of which `written` writes were made. -/
def inputs (written : ℕ) : List OtaUploadCall → List OtaInput
  | [] => []
  | .begin contentLength _ :: calls =>
    ⟨flash.init, flash.beginOp contentLength⟩ :: inputs written calls
  | .write data _ :: calls =>
    ⟨flash.init, .write (.bytes data) (flash.writeRet written)⟩ :: inputs (written + 1) calls
  | .finish _ :: calls =>
    ⟨flash.init, .finish flash.flushRet flash.upgradeRet⟩ :: inputs written calls
  | .abort reason :: calls => ⟨flash.init, .abort (some reason)⟩ :: inputs written calls
  | .scheduleReboot :: calls => ⟨flash.init, .scheduleReboot⟩ :: inputs written calls
  | .respond _ :: calls => inputs written calls

/-- What the update functions return to the handler. -/
def results (cfg : OtaKconfig) (ota : OtaUpdateRuntime) (contentLength : ℕ) : OtaUploadResults where
  otaUpdateBegin := (otaStep cfg ota ⟨flash.init, flash.beginOp contentLength⟩).2.ret
  otaUpdateWrite := flash.writeRet
  otaUpdateFinish := flash.flushRet.or flash.upgradeRet

end OtaFlash

/-- The result the handler got for a call of the module. -/
def OtaUploadCall.told : OtaUploadCall → Option (Option Errno)
  | .begin _ ret | .write _ ret | .finish ret => some ret
  | .abort _ | .scheduleReboot => some none
  | .respond _ => none

/-- The calls to flash and boot loader. -/
def bootCalls (events : List OtaEvent) : List OtaCall := events.flatMap fun event => event.2.calls

/-! ## What the handler was told -/

/-- The writes were answered in turn, and a failed one was the last. -/
def WritesTold (writeRet : ℕ → Option Errno) : ℕ → List (List UInt8 × Option Errno) → Prop
  | _, [] => True
  | written, write :: rest =>
    write.2 = writeRet written ∧ (write.2 ≠ none → rest = []) ∧
      WritesTold writeRet (written + 1) rest

theorem WritesTold.snoc {writeRet : ℕ → Option Errno} {written : ℕ}
    {writes : List (List UInt8 × Option Errno)} (told : WritesTold writeRet written writes)
    (ok : ∀ write ∈ writes, write.2 = none) (data : List UInt8) :
    WritesTold writeRet written (writes ++ [(data, writeRet (written + writes.length))]) := by
  induction writes generalizing written with
  | nil => exact ⟨rfl, fun _ => rfl, trivial⟩
  | cons write rest ih =>
    obtain ⟨this, later⟩ := List.forall_mem_cons.mp ok
    refine ⟨told.1, fun failed => absurd this failed, ?_⟩
    have next := ih told.2.2 later
    rwa [Nat.add_assoc, Nat.add_comm 1, ← List.length_cons] at next

section Handler

variable {results : OtaUploadResults} {progress : OtaProgress}

/-- The writes made so far were answered by `results`. -/
structure OtaProgress.Told (results : OtaUploadResults) (progress : OtaProgress) : Prop where
  writes : WritesTold results.otaUpdateWrite 0 progress.writes
  ok : progress.ret = none → ∀ write ∈ progress.writes, write.2 = none

theorem OtaProgress.Told.writeChunk (told : progress.Told results) (ok : progress.ret = none)
    (data : List UInt8) : (writeOtaBodyChunk results data progress).Told results := by
  unfold writeOtaBodyChunk
  split_ifs
  · exact ⟨told.writes, fun _ => told.ok ok⟩
  · constructor
    · simpa using told.writes.snoc (told.ok ok) data
    · intro written write member
      rcases List.mem_append.mp member with old | new
      · exact told.ok ok write old
      · rw [List.mem_singleton.mp new]
        exact written

theorem OtaProgress.Told.receive (told : progress.Told results) (contentLength : ℕ)
    (recvs : List WebRecv) :
    (receiveOtaBody results contentLength progress recvs).1.Told results := by
  fun_induction receiveOtaBody results contentLength progress recvs with
  | case1 progress recvs going rest called ih => exact ih told
  | case2 | case3 | case5 => exact told
  | case4 progress recvs going bytes rest called nonempty ih =>
    exact ih (told.writeChunk going.1 bytes)

/-- The writes among the calls. -/
def writesOf (calls : List OtaUploadCall) : List (List UInt8 × Option Errno) :=
  calls.filterMap fun
    | .write data ret => some (data, ret)
    | _ => none

/-- Each call got the result it has in `results`. -/
structure CallsTold (results : OtaUploadResults) (calls : List OtaUploadCall) : Prop where
  «begin» : ∀ contentLength ret, .begin contentLength ret ∈ calls → ret = results.otaUpdateBegin
  writes : WritesTold results.otaUpdateWrite 0 (writesOf calls)
  finish : ∀ ret, .finish ret ∈ calls → ret = results.otaUpdateFinish

theorem writesOf_uploaded (contentLength : ℕ) (writes : List (List UInt8 × Option Errno))
    (finishing : List OtaUploadCall) :
    writesOf (.begin contentLength none :: writeCalls writes ++ finishing) =
      writes ++ writesOf finishing := by
  simp [writesOf, writeCalls, List.filterMap_map]

theorem handleOtaUpload_told (cfg : OtaUploadKconfig) (results : OtaUploadResults)
    (request : HttpRequest) (recvs : List WebRecv) :
    CallsTold results (handleOtaUpload cfg results request recvs) := by
  have nothing (response : HttpResponse) : CallsTold results [.respond response] :=
    ⟨by simp, trivial, by simp⟩
  unfold handleOtaUpload
  split_ifs
  · exact nothing _
  · exact nothing _
  · exact nothing _
  · split
    · rename_i err refused
      exact ⟨by simp [refused], trivial, by simp⟩
    · rename_i begun
      have told := ((⟨trivial, by simp⟩ : OtaProgress.Told results ⟨0, none, []⟩).writeChunk rfl
        request.body).receive request.contentLength recvs
      dsimp only
      -- Behind the writes stand no more of them, and at most one finish.
      split_ifs
      · exact ⟨by simp [begun], by rw [writesOf_uploaded]; simpa [writesOf] using told.writes,
          by simp⟩
      · exact ⟨by simp [begun], by rw [writesOf_uploaded]; simpa [writesOf] using told.writes,
          by simp⟩
      · split <;> rename_i finished
        · exact ⟨by simp [begun], by rw [writesOf_uploaded]; simpa [writesOf] using told.writes,
            by simp [finished]⟩
        · exact ⟨by simp [begun], by rw [writesOf_uploaded]; simpa [writesOf] using told.writes,
            by simp [finished]⟩

end Handler

/-! ## What the module does meanwhile -/

/-- An upload runs, and so far `uploaded` of `contentLength` bytes have come. -/
structure OtaUpdateRuntime.Uploading (ota : OtaUpdateRuntime) (contentLength uploaded : ℕ) :
    Prop where
  initialized : ota.initialized = true
  state : ota.status.state = .uploading
  expectedBytes : ota.status.expectedBytes.toNat = contentLength
  uploadedBytes : ota.status.uploadedBytes.toNat = uploaded

/-- No upload runs. -/
structure OtaUpdateRuntime.Settled (ota : OtaUpdateRuntime) : Prop where
  initialized : ota.initialized = true
  state : ota.status.state ≠ .uploading

section Module

variable {cfg : OtaKconfig} {ota : OtaUpdateRuntime} {flash : OtaFlash}
  {contentLength uploaded : ℕ}

theorem inputs_writeCalls_cons (written : ℕ) (write : List UInt8 × Option Errno)
    (rest : List (List UInt8 × Option Errno)) :
    flash.inputs written (writeCalls (write :: rest)) =
      ⟨flash.init, .write (.bytes write.1) (flash.writeRet written)⟩ ::
        flash.inputs (written + 1) (writeCalls rest) := rfl

theorem inputs_writeCalls_append (written : ℕ) (writes : List (List UInt8 × Option Errno))
    (calls : List OtaUploadCall) :
    flash.inputs written (writeCalls writes ++ calls) =
      flash.inputs written (writeCalls writes) ++ flash.inputs (written + writes.length) calls := by
  induction writes generalizing written with
  | nil => rfl
  | cons write rest ih =>
    rw [inputs_writeCalls_cons, List.cons_append, List.length_cons, Nat.add_comm rest.length,
      ← Nat.add_assoc, ← ih]
    rfl

/-- Beginning an upload erases the slot and opens the flash writer at most. -/
theorem otaUpdateBegin_calls (cfg : OtaKconfig) (ota : OtaUpdateRuntime) (contentLength : UInt32)
    (slot : UInt8) (area : Except Errno UInt32) (eraseRet initRet : Option Errno) :
    ∀ call ∈ (ota.otaUpdateBegin cfg contentLength slot area eraseRet initRet).2.calls,
      call = .bootEraseImgBank slot ∨ call = .flashImgInitId slot := by
  unfold OtaUpdateRuntime.otaUpdateBegin OtaUpdateRuntime.fail
  cases area with
  | error err => simp
  | ok faSize =>
    cases valid : otaUpdateValidateUploadSize contentLength
        (configuredLimitOrSlotSize cfg faSize) with
    | some err => simp [valid]
    | none => cases eraseRet <;> cases initRet <;> simp [valid]

/-- An upload that was begun has an erased slot and an open flash writer. -/
theorem erased_of_otaUpdateBegin {contentLength : UInt32} {slot : UInt8}
    {area : Except Errno UInt32} {eraseRet initRet : Option Errno}
    (begun : (ota.otaUpdateBegin cfg contentLength slot area eraseRet initRet).2.ret = none) :
    eraseRet = none ∧ initRet = none := by
  unfold OtaUpdateRuntime.otaUpdateBegin OtaUpdateRuntime.fail at begun
  cases area with
  | error err => simp at begun
  | ok faSize =>
    cases valid : otaUpdateValidateUploadSize contentLength
        (configuredLimitOrSlotSize cfg faSize) with
    | some err => simp [valid] at begun
    | none => cases eraseRet <;> cases initRet <;> simp [valid] at begun ⊢

theorem begin_step (cfg : OtaKconfig) (ota : OtaUpdateRuntime) (flash : OtaFlash)
    (small : contentLength < 2 ^ 32) :
    let result := otaStep cfg ota ⟨flash.init, flash.beginOp contentLength⟩
    .bootRequestUpgrade ∉ result.2.calls ∧ .scheduleReboot ∉ result.2.calls ∧
      ((result.2.ret ≠ none ∧ result.1.Settled) ∨
        (result.2 = ⟨none, [.bootEraseImgBank flash.slot, .flashImgInitId flash.slot]⟩ ∧
          result.1.Uploading contentLength 0)) := by
  have initialized := initOnce_initialized flash.init ota
  obtain ⟨unrequested, outcome⟩ := otaUpdateBegin_cases cfg (initOnce flash.init ota)
    (.ofNat contentLength) flash.slot flash.area flash.eraseRet flash.initRet
  have unscheduled : .scheduleReboot ∉ ((initOnce flash.init ota).otaUpdateBegin cfg
      (.ofNat contentLength) flash.slot flash.area flash.eraseRet flash.initRet).2.calls :=
    fun member => by simpa using otaUpdateBegin_calls _ _ _ _ _ _ _ _ member
  refine ⟨unrequested, unscheduled, ?_⟩
  simp only [otaStep, OtaFlash.beginOp]
  rcases outcome with ⟨failed, refused⟩ | ⟨_, -, -, answer, state, expected, none⟩
  · exact .inl ⟨refused, by simpa using initialized, by simp [failed]⟩
  · refine .inr ⟨answer, by simpa using initialized, state, ?_, by simp [none]⟩
    rw [expected, UInt32.toNat_ofNat', Nat.mod_eq_of_lt small]

/-- A write of bytes that still belong to the upload is passed on to the flash writer. -/
theorem write_step (cfg : OtaKconfig) (flash : OtaFlash)
    (running : ota.Uploading contentLength uploaded) {data : List UInt8}
    (fits : uploaded + data.length ≤ contentLength) (writeRet : Option Errno) :
    let result := otaStep cfg ota ⟨flash.init, .write (.bytes data) writeRet⟩
    result.2 = ⟨writeRet, [.flashImgBufferedWrite data false writeRet]⟩ ∧
      if writeRet = none then result.1.Uploading contentLength (uploaded + data.length)
      else result.1.Settled := by
  have ready := initOnce_of_initialized running.initialized flash.init
  have limit := ota.status.expectedBytes.toNat_lt
  have expected := running.expectedBytes
  have came := running.uploadedBytes
  -- The sum does not wrap: it is at most the announced length.
  have sum : (ota.status.uploadedBytes + UInt32.ofNat data.length).toNat =
      uploaded + data.length := by
    rw [UInt32.toNat_add, UInt32.toNat_ofNat', came, Nat.add_mod_mod, Nat.mod_eq_of_lt]
    omega
  have within : ¬ ota.status.expectedBytes <
      ota.status.uploadedBytes + (OtaData.bytes data).len := by
    rw [UInt32.not_lt, UInt32.le_iff_toNat_le, OtaData.len, sum]
    omega
  simp only [otaStep, ready, OtaUpdateRuntime.otaUpdateWrite, running.state, within, if_false,
    ne_eq, not_true_eq_false]
  cases writeRet with
  | none => exact ⟨rfl, running.initialized, rfl, expected, sum⟩
  | some err => exact ⟨rfl, running.initialized, by simp [OtaUpdateRuntime.fail]⟩

/-- The writes of the handler reach the flash writer one by one, with the results the handler
was told. -/
theorem writes_run (cfg : OtaKconfig) {writes : List (List UInt8 × Option Errno)} {written : ℕ}
    (told : WritesTold flash.writeRet written writes)
    (running : ota.Uploading contentLength uploaded)
    (fits : uploaded + (bytesOfWrites writes).length ≤ contentLength) :
    let inputs := flash.inputs written (writeCalls writes)
    (trace (otaStep cfg) ota inputs).map Prod.snd =
        (writes.map fun write => ⟨write.2, [.flashImgBufferedWrite write.1 false write.2]⟩) ∧
      if ∀ write ∈ writes, write.2 = none then
        (stateAfter (otaStep cfg) ota inputs).Uploading contentLength
          (uploaded + (bytesOfWrites writes).length)
      else (stateAfter (otaStep cfg) ota inputs).Settled := by
  induction writes generalizing ota written uploaded with
  | nil => exact ⟨rfl, by simpa [bytesOfWrites, writeCalls, OtaFlash.inputs] using running⟩
  | cons write rest ih =>
    obtain ⟨data, ret⟩ := write
    obtain ⟨rfl, last, later⟩ := told
    have total : (bytesOfWrites ((data, flash.writeRet written) :: rest)).length =
        data.length + (bytesOfWrites rest).length := by simp [bytesOfWrites]
    rw [total, ← Nat.add_assoc] at fits
    have room : uploaded + data.length ≤ contentLength := by omega
    obtain ⟨answer, next⟩ := write_step cfg flash running room (flash.writeRet written)
    simp only [inputs_writeCalls_cons, List.map_cons, trace, stateAfter_cons, answer,
      List.forall_mem_cons, total, ← Nat.add_assoc]
    by_cases ok : flash.writeRet written = none
    · rw [if_pos ok] at next
      obtain ⟨answers, reached⟩ := ih later next fits
      exact ⟨congrArg _ answers, by simpa only [ok, true_and] using reached⟩
    · rw [if_neg ok] at next
      obtain rfl := last ok
      simp only [ok, false_and, if_false]
      exact ⟨rfl, next⟩

theorem finish_step (cfg : OtaKconfig) (flash : OtaFlash)
    (running : ota.Uploading contentLength contentLength) :
    let result := otaStep cfg ota ⟨flash.init, .finish flash.flushRet flash.upgradeRet⟩
    result.2.ret = flash.flushRet.or flash.upgradeRet ∧
      (result.1.initialized = true ∧ result.1.status.state =
        if flash.flushRet.or flash.upgradeRet = none then .pendingReboot else .error) ∧
      result.2.calls = .flashImgBufferedWrite [] true flash.flushRet ::
        if flash.flushRet = none then [.bootRequestUpgrade] else [] := by
  have ready := initOnce_of_initialized running.initialized flash.init
  have complete : ota.status.uploadedBytes = ota.status.expectedBytes :=
    UInt32.toNat_inj.mp (running.uploadedBytes.trans running.expectedBytes.symm)
  simp only [otaStep, ready, OtaUpdateRuntime.otaUpdateFinish, running.state, complete, ne_eq,
    not_true_eq_false, if_false]
  cases flash.flushRet with
  | some err => exact ⟨rfl, ⟨running.initialized, rfl⟩, rfl⟩
  | none => cases flash.upgradeRet <;> exact ⟨rfl, ⟨running.initialized, rfl⟩, rfl⟩

theorem abort_step (cfg : OtaKconfig) (ota : OtaUpdateRuntime) (flash : OtaFlash)
    (reason : String) :
    let result := otaStep cfg ota ⟨flash.init, .abort (some reason)⟩
    result.2 = ⟨none, []⟩ ∧ result.1.Settled := by
  refine ⟨rfl, ?_, ?_⟩
  · simpa [otaStep, OtaUpdateRuntime.otaUpdateAbort] using initOnce_initialized flash.init ota
  · simp [otaStep, OtaUpdateRuntime.otaUpdateAbort]

/-- A begun upload and its writes. -/
theorem uploaded_run (small : contentLength < 2 ^ 32)
    (begun : (otaStep cfg ota ⟨flash.init, flash.beginOp contentLength⟩).2.ret = none)
    {writes : List (List UInt8 × Option Errno)} (told : WritesTold flash.writeRet 0 writes)
    (fits : (bytesOfWrites writes).length ≤ contentLength) :
    let inputs := flash.inputs 0 (.begin contentLength none :: writeCalls writes)
    (trace (otaStep cfg) ota inputs).map Prod.snd =
        ⟨none, [.bootEraseImgBank flash.slot, .flashImgInitId flash.slot]⟩ ::
          writes.map (fun write => ⟨write.2, [.flashImgBufferedWrite write.1 false write.2]⟩) ∧
      if ∀ write ∈ writes, write.2 = none then
        (stateAfter (otaStep cfg) ota inputs).Uploading contentLength (bytesOfWrites writes).length
      else (stateAfter (otaStep cfg) ota inputs).Settled := by
  obtain ⟨-, -, ⟨refused, -⟩ | ⟨answer, running⟩⟩ := begin_step cfg ota flash small
  · exact absurd begun refused
  · obtain ⟨answers, reached⟩ := writes_run cfg told running (by omega)
    rw [Nat.zero_add] at reached
    simp only [OtaFlash.inputs, trace, stateAfter_cons, List.map_cons, answer]
    exact ⟨congrArg _ answers, reached⟩

end Module

/-! ## The whole upload -/

/-- The calls are those of an image that is erased for, written piece by piece and flushed,
each with success, before it is asked to boot; the image is the front of `body` that was
announced. -/
def BootsBody (flash : OtaFlash) (body : List UInt8) (contentLength : ℕ) (calls : List OtaCall) :
    Prop :=
  flash.eraseRet = none ∧ flash.initRet = none ∧
    contentLength ≤ body.length ∧ ∃ pieces : List (List UInt8),
    pieces.flatten = body.take contentLength ∧
    calls = [.bootEraseImgBank flash.slot, .flashImgInitId flash.slot] ++
      pieces.map (fun piece => .flashImgBufferedWrite piece false none) ++
      [.flashImgBufferedWrite [] true none, .bootRequestUpgrade] ++
      if flash.upgradeRet = none then [.scheduleReboot] else []

/-- What the calls of the handler have done to the module. -/
structure UploadEffect (flash : OtaFlash) (body : List UInt8) (contentLength : ℕ)
    (calls : List OtaUploadCall) (events : List OtaEvent) (ota : OtaUpdateRuntime) : Prop where
  told : events.map (fun event => event.2.ret) = calls.filterMap OtaUploadCall.told
  boots : .bootRequestUpgrade ∈ bootCalls events →
    BootsBody flash body contentLength (bootCalls events)
  reboots : .scheduleReboot ∈ bootCalls events ↔
    .bootRequestUpgrade ∈ bootCalls events ∧ flash.upgradeRet = none
  pending : .scheduleReboot ∈ bootCalls events → ota.status.state = .pendingReboot
  settled : ota.status.state ≠ .uploading

section Upload

variable {web : OtaUploadKconfig} {cfg : OtaKconfig} {ota : OtaUpdateRuntime} {flash : OtaFlash}
  {contentLength : ℕ} {body : List UInt8} {writes : List (List UInt8 × Option Errno)}

@[simp] theorem bootCalls_nil : bootCalls [] = [] := rfl

@[simp] theorem bootCalls_cons (event : OtaEvent) (events : List OtaEvent) :
    bootCalls (event :: events) = event.2.calls ++ bootCalls events := rfl

theorem bootCalls_append (front back : List OtaEvent) :
    bootCalls (front ++ back) = bootCalls front ++ bootCalls back := List.flatMap_append

theorem bootCalls_of_answers {events : List OtaEvent} {answers : List OtaAnswer}
    (same : events.map Prod.snd = answers) :
    bootCalls events = answers.flatMap OtaAnswer.calls := by
  rw [← same, List.flatMap_map]
  rfl

theorem rets_of_answers {events : List OtaEvent} {answers : List OtaAnswer}
    (same : events.map Prod.snd = answers) :
    events.map (fun event => event.2.ret) = answers.map OtaAnswer.ret := by
  rw [← same, List.map_map]
  rfl

/-- What a begun upload and its writes leave to the calls behind them. -/
structure Uploaded (cfg : OtaKconfig) (flash : OtaFlash) (contentLength : ℕ)
    (writes : List (List UInt8 × Option Errno)) (rest : List OtaInput) (events : List OtaEvent)
    (uploaded last : OtaUpdateRuntime) : Prop where
  erased : flash.eraseRet = none ∧ flash.initRet = none
  running : if ∀ write ∈ writes, write.2 = none then
      uploaded.Uploading contentLength (bytesOfWrites writes).length
    else uploaded.Settled
  calls : bootCalls events = [.bootEraseImgBank flash.slot, .flashImgInitId flash.slot] ++
    writes.map (fun write => .flashImgBufferedWrite write.1 false write.2) ++
    bootCalls (trace (otaStep cfg) uploaded rest)
  rets : events.map (fun event => event.2.ret) = (none :: writes.map Prod.snd) ++
    (trace (otaStep cfg) uploaded rest).map fun event => event.2.ret
  last : last = stateAfter (otaStep cfg) uploaded rest

theorem uploaded_then (small : contentLength < 2 ^ 32)
    (begun : (otaStep cfg ota ⟨flash.init, flash.beginOp contentLength⟩).2.ret = none)
    (told : WritesTold flash.writeRet 0 writes)
    (fits : (bytesOfWrites writes).length ≤ contentLength) (rest : List OtaUploadCall) :
    let inputs := flash.inputs 0 (.begin contentLength none :: writeCalls writes ++ rest)
    ∃ uploaded, Uploaded cfg flash contentLength writes (flash.inputs writes.length rest)
      (trace (otaStep cfg) ota inputs) uploaded (stateAfter (otaStep cfg) ota inputs) := by
  intro inputs
  obtain ⟨answers, running⟩ := uploaded_run small begun told fits
  have split : inputs = flash.inputs 0 (.begin contentLength none :: writeCalls writes) ++
      flash.inputs writes.length rest := by
    simp only [inputs, List.cons_append, OtaFlash.inputs]
    rw [inputs_writeCalls_append, Nat.zero_add]
  refine ⟨_, erased_of_otaUpdateBegin begun, running, ?_, ?_, by rw [split, stateAfter_append]⟩
  · rw [split, trace_append, bootCalls_append, bootCalls_of_answers answers]
    simp [List.flatMap_map, ← List.map_eq_flatMap]
  · rw [split, trace_append, List.map_append, rets_of_answers answers]
    simp [Function.comp_def]

theorem told_uploaded (writes : List (List UInt8 × Option Errno)) (rest : List OtaUploadCall) :
    (.begin contentLength none :: writeCalls writes ++ rest).filterMap OtaUploadCall.told =
      (none :: writes.map Prod.snd) ++ rest.filterMap OtaUploadCall.told := by
  simp [OtaUploadCall.told, writeCalls, List.filterMap_map, Function.comp_def]

variable {events : List OtaEvent} {uploaded last : OtaUpdateRuntime}

/-- An upload that ends behind its writes with an abort does not boot. -/
theorem Uploaded.aborted {reason : String} {response : HttpResponse}
    (run : Uploaded cfg flash contentLength writes [⟨flash.init, .abort (some reason)⟩] events
      uploaded last) :
    UploadEffect flash body contentLength
      (.begin contentLength none :: writeCalls writes ++ [.abort reason, .respond response])
      events last := by
  obtain ⟨answer, settled⟩ := abort_step cfg uploaded flash reason
  have made : bootCalls events = [.bootEraseImgBank flash.slot, .flashImgInitId flash.slot] ++
      writes.map fun write => .flashImgBufferedWrite write.1 false write.2 := by
    simpa [trace, answer] using run.calls
  constructor
  · rw [run.rets, told_uploaded]
    rfl
  · simp [made]
  · simp [made]
  · simp [made]
  · rw [run.last]
    exact settled.state

/-- An upload whose writes passed on the whole body is finished; unless flush and request
succeed it is aborted. -/
theorem Uploaded.finished {ret : Option Errno} {rest : List OtaUploadCall}
    (run : Uploaded cfg flash contentLength writes
      (⟨flash.init, .finish flash.flushRet flash.upgradeRet⟩ :: flash.inputs writes.length rest)
      events uploaded last)
    (front : bytesOfWrites writes <+: body.take contentLength)
    (complete : AllPassed contentLength writes)
    (answered : ret = flash.flushRet.or flash.upgradeRet)
    (ending : if ret = none then ∃ response, rest = [.respond response, .scheduleReboot]
      else ∃ reason response, rest = [.abort reason, .respond response]) :
    UploadEffect flash body contentLength
      (.begin contentLength none :: writeCalls writes ++ .finish ret :: rest) events last := by
  subst answered
  obtain ⟨ok, length⟩ := complete
  obtain ⟨⟨slot, writer⟩, running, calls, rets, reached⟩ := run
  rw [if_pos ok, length] at running
  obtain ⟨ret, ⟨initialized, state⟩, made⟩ := finish_step cfg flash running
  -- Every write succeeded, so its recorded result is `none`.
  have written : (writes.map fun write : List UInt8 × Option Errno =>
        OtaCall.flashImgBufferedWrite write.1 false write.2) =
      (writes.map Prod.fst).map fun piece => .flashImgBufferedWrite piece false none := by
    rw [List.map_map]
    exact List.map_congr_left fun write member => by simp [ok write member]
  have enough : contentLength ≤ body.length := by
    have limit := front.length_le
    rw [List.length_take, length] at limit
    omega
  have whole : (writes.map Prod.fst).flatten = body.take contentLength := by
    rw [← List.flatMap_def]
    exact front.eq_of_length (by
      rw [List.length_take, Nat.min_eq_left enough]
      exact length)
  rw [trace, bootCalls_cons, made, written] at calls
  rw [trace, List.map_cons, ret] at rets
  rw [stateAfter_cons] at reached
  generalize (otaStep cfg uploaded ⟨flash.init, .finish flash.flushRet flash.upgradeRet⟩).1 =
    finished at calls rets reached initialized state
  have told : (.begin contentLength none :: writeCalls writes ++
      .finish (flash.flushRet.or flash.upgradeRet) :: rest).filterMap OtaUploadCall.told =
        (none :: writes.map Prod.snd) ++
          flash.flushRet.or flash.upgradeRet :: rest.filterMap OtaUploadCall.told :=
    told_uploaded _ _
  by_cases done : flash.flushRet.or flash.upgradeRet = none
  · -- Flushed and asked to boot: the reboot is scheduled.
    rw [if_pos done] at ending state
    obtain ⟨response, rfl⟩ := ending
    obtain ⟨flushed, requested⟩ := Option.or_eq_none_iff.mp done
    have ready := initOnce_of_initialized initialized flash.init
    simp only [OtaFlash.inputs, otaStep, ready, stateAfter_cons, stateAfter_nil] at reached
    have booted : bootCalls events = [.bootEraseImgBank flash.slot, .flashImgInitId flash.slot] ++
        (writes.map Prod.fst).map (fun piece => .flashImgBufferedWrite piece false none) ++
        [.flashImgBufferedWrite [] true none, .bootRequestUpgrade, .scheduleReboot] := by
      simpa [flushed, OtaFlash.inputs, trace, otaStep] using calls
    constructor
    · rw [rets, told]
      rfl
    · intro _
      exact ⟨slot, writer, enough, _, whole, by rw [booted, if_pos requested]; simp⟩
    · simp [booted, requested]
    · exact fun _ => reached ▸ state
    · rw [reached, state]
      simp
  · rw [if_neg done] at ending state
    obtain ⟨reason, response, rfl⟩ := ending
    obtain ⟨answer, settled⟩ := abort_step cfg finished flash reason
    have booted : bootCalls events = [.bootEraseImgBank flash.slot, .flashImgInitId flash.slot] ++
        (writes.map Prod.fst).map (fun piece => .flashImgBufferedWrite piece false none) ++
        .flashImgBufferedWrite [] true flash.flushRet ::
          if flash.flushRet = none then [.bootRequestUpgrade] else [] := by
      simpa [OtaFlash.inputs, trace, answer] using calls
    have unscheduled : .scheduleReboot ∉ bootCalls events := by
      rw [booted]
      split_ifs <;> simp
    have asked : .bootRequestUpgrade ∈ bootCalls events → flash.flushRet = none := by
      rw [booted]
      split_ifs with flushed <;> simp [flushed]
    have refused (flushed : flash.flushRet = none) : flash.upgradeRet ≠ none := by
      rwa [flushed, Option.none_or] at done
    constructor
    · rw [rets, told]
      rfl
    · intro requested
      have flushed := asked requested
      refine ⟨slot, writer, enough, _, whole, ?_⟩
      rw [booted, if_neg (refused flushed), flushed]
      simp
    · exact iff_of_false unscheduled fun both => refused (asked both.1) both.2
    · exact fun scheduled => absurd scheduled unscheduled
    · rw [reached]
      exact settled.state

/-- Calls that were answered by the module do to it what they say. -/
theorem OtaUploadOutcome.effect {calls : List OtaUploadCall} (small : contentLength < 2 ^ 32)
    (settled : ota.status.state ≠ .uploading) (outcome : OtaUploadOutcome body contentLength calls)
    (told : CallsTold (flash.results cfg ota contentLength) calls) :
    UploadEffect flash body contentLength calls (trace (otaStep cfg) ota (flash.inputs 0 calls))
      (stateAfter (otaStep cfg) ota (flash.inputs 0 calls)) := by
  -- The writes of a begun upload, and how far they got.
  have begun {writes : List (List UInt8 × Option Errno)} {rest : List OtaUploadCall}
      (front : bytesOfWrites writes <+: body.take contentLength)
      (same : calls = .begin contentLength none :: writeCalls writes ++ rest)
      (none : writesOf rest = []) :
      ∃ uploaded, Uploaded cfg flash contentLength writes (flash.inputs writes.length rest)
        (trace (otaStep cfg) ota (flash.inputs 0 calls)) uploaded
        (stateAfter (otaStep cfg) ota (flash.inputs 0 calls)) := by
    have answered := told.writes
    rw [same, writesOf_uploaded, none, List.append_nil] at answered
    rw [same]
    have ok := told.begin contentLength .none (by simp [same])
    exact uploaded_then small ok.symm answered
      (front.length_le.trans (List.length_take_le _ _)) rest
  cases outcome with
  | refused response =>
    exact ⟨rfl, by simp [OtaFlash.inputs], by simp [OtaFlash.inputs], by simp [OtaFlash.inputs],
      settled⟩
  | beginFailed err response =>
    have failed := told.begin contentLength (some err) (by simp)
    obtain ⟨unrequested, unscheduled, ⟨-, after⟩ | ⟨answer, -⟩⟩ := begin_step cfg ota flash small
    · simp only [OtaFlash.inputs, trace, stateAfter_cons, stateAfter_nil]
      refine ⟨?_, ?_, ?_, ?_, after.state⟩
      · simpa [OtaUploadCall.told, OtaFlash.results] using failed.symm
      · simp [unrequested]
      · simp [unrequested, unscheduled]
      · simp [unscheduled]
    · simp [OtaFlash.results, answer] at failed
  | aborted front incomplete reason response =>
    obtain ⟨uploaded, run⟩ := begun front rfl rfl
    exact run.aborted
  | finishFailed front complete err reason response =>
    obtain ⟨uploaded, run⟩ := begun front rfl rfl
    exact run.finished front complete (told.finish _ (by simp)) ⟨reason, response, rfl⟩
  | finished front complete response =>
    obtain ⟨uploaded, run⟩ := begun front rfl rfl
    exact run.finished front complete (told.finish _ (by simp)) ⟨response, rfl⟩

/-- Handler and module, run together. -/
theorem handleOtaUpload_effect (web : OtaUploadKconfig) (cfg : OtaKconfig) (flash : OtaFlash)
    {request : HttpRequest} (small : request.contentLength < 2 ^ 32) (recvs : List WebRecv)
    (settled : ota.status.state ≠ .uploading) :
    let calls := handleOtaUpload web (flash.results cfg ota request.contentLength) request recvs
    let inputs := flash.inputs 0 calls
    UploadEffect flash (request.body ++ pendingBytes recvs) request.contentLength calls
      (trace (otaStep cfg) ota inputs) (stateAfter (otaStep cfg) ota inputs) :=
  (handleOtaUpload_outcome _ _ _ _).effect small settled (handleOtaUpload_told _ _ _ _)

end Upload

/-! ## The server -/

structure WebServer where
  web : WebState
  ota : OtaUpdateRuntime

/-- What a client sends, and what the calls into other modules return meanwhile; `sent` says
whether the response was sent in full. -/
structure Connection where
  recvs : List WebRecv
  backend : WebBackend
  flash : OtaFlash
  sent : Bool

/-- The server behind a connection, what the client was answered and what the update module
did. -/
structure Served where
  server : WebServer
  answer : ClientAnswer
  events : List OtaEvent

namespace Connection

variable (conn : Connection)

def request : Option ParsedRequest :=
  match readHttpRequest .empty conn.recvs with
  | (.ok request, _) => some request
  | (.error _, _) => none

/-- Whether the status of the update module is read. -/
def asksStatus : Bool :=
  conn.backend.otaUpload.otaUpdateEnable && conn.backend.setReceiveTimeout.isNone &&
    conn.request.any fun request =>
      tokenEquals request.method "GET" && tokenEquals request.path "/api/status"

/-- What `handle_client` finds when the update module answers it. -/
def answeringBackend (cfg : OtaKconfig) (ota : OtaUpdateRuntime) : WebBackend :=
  { conn.backend with
    otaStatus := (otaStep cfg ota ⟨conn.flash.init, .getStatus⟩).1.status
    otaResults := conn.flash.results cfg ota ((conn.request.map (·.contentLength)).getD 0) }

/-- The operations of the update module, in order. -/
def otaInputs (answer : ClientAnswer) : List OtaInput :=
  (if conn.asksStatus then [⟨conn.flash.init, .getStatus⟩] else []) ++
    conn.flash.inputs 0 answer.otaCalls ++
    if answer.selfCheck && conn.sent then
      [⟨conn.flash.init, .selfCheckWebReachable conn.flash.imgConfirmed
        conn.flash.writeConfirmedRet⟩]
    else []

end Connection

def webServe (cfg : OtaKconfig) (server : WebServer) (conn : Connection) : Option Served :=
  (handleClient (conn.answeringBackend cfg server.ota) server.web conn.recvs).map fun answer =>
    { server := ⟨answer.state, stateAfter (otaStep cfg) server.ota (conn.otaInputs answer)⟩
      answer := answer
      events := trace (otaStep cfg) server.ota (conn.otaInputs answer) }

def webServerStep (cfg : OtaKconfig) (server : WebServer) (conn : Connection) : Option WebServer :=
  (webServe cfg server conn).map Served.server

/-! ## The request -/

theorem parseHeaderLines_le {hasContentLength : Bool} {contentLength : ℕ} {text : List UInt8}
    {parsed : Bool × ℕ} (small : contentLength ≤ sizeMax)
    (ok : parseHeaderLines hasContentLength contentLength text = .ok parsed) :
    parsed.2 ≤ sizeMax := by
  fun_induction parseHeaderLines hasContentLength contentLength text with
  | case1 | case2 =>
    obtain rfl := Except.ok.inj ok
    exact small
  | case3 _ _ _ _ _ _ _ _ ih => exact ih small ok
  | case4 => cases ok
  | case5 _ _ _ _ _ _ _ _ _ _ _ parsed value ih =>
    exact ih (parseContentLength_eq_ok.mp value).2 ok
  | case6 _ _ _ _ _ _ _ _ _ _ _ ih => exact ih small ok

/-- The announced length is a `size_t`. -/
theorem parseHttpHead_le {head : List UInt8} {parsed : HttpHead}
    (ok : parseHttpHead head = .ok parsed) : parsed.contentLength ≤ sizeMax := by
  unfold parseHttpHead at ok
  split at ok
  · cases ok
  split at ok
  · cases ok
  split at ok
  · cases ok
  split at ok
  · cases ok
  · rename_i lines
    obtain rfl := Except.ok.inj ok
    exact parseHeaderLines_le (Nat.zero_le _) lines

theorem readHttpRequest_le {buffer : RequestBuffer} {recvs rest : List WebRecv}
    {request : ParsedRequest} (ok : readHttpRequest buffer recvs = (.ok request, rest)) :
    request.contentLength < 2 ^ 32 := by
  fun_induction readHttpRequest buffer recvs with
  | case1 _ _ _ _ ih => exact ih ok
  | case2 | case3 | case5 => cases (Prod.mk.inj ok).1
  | case4 buffer recvs bytes rest called nonempty filled headerEnd found =>
    have parsed := (Prod.mk.inj ok).1
    unfold parseHttpRequest at parsed
    cases head : parseHttpHead (filled.received.take (headerEnd + 4)) with
    | error err =>
      rw [head] at parsed
      cases parsed
    | ok parsedHead =>
      rw [head] at parsed
      obtain rfl := Except.ok.inj parsed
      exact Nat.lt_of_le_of_lt (parseHttpHead_le head) (by decide)
  | case6 _ _ _ _ _ _ _ _ _ ih => exact ih ok

/-! ## What a connection makes of the update module -/

section Serve

variable {backend : WebBackend} {state : WebState} {recvs : List WebRecv} {answer : ClientAnswer}

/-- Only a POST to the upload path begins an upload. -/
theorem handleClient_ota (served : handleClient backend state recvs = some answer) :
    answer.otaCalls = [] ∨ (answer.selfCheck = false ∧
      ∃ request rest, readHttpRequest .empty recvs = (.ok request, rest) ∧
        request.method = ascii "POST" ∧ request.path = ascii "/api/ota/upload" ∧
        answer.otaCalls =
          handleOtaUpload backend.otaUpload backend.otaResults request.toHttpRequest rest) := by
  have nothing {answer' : ClientAnswer} (same : some answer' = some answer)
      (none : answer'.otaCalls = []) : answer.otaCalls = [] := by
    rwa [← Option.some.inj same]
  unfold handleClient at served
  split_ifs at served with timeout
  · exact .inl (nothing served rfl)
  split at served
  · exact .inl (nothing served rfl)
  rename_i request rest read
  unfold handleRequest at served
  split_ifs at served with get post
  · refine .inl (nothing served ?_)
    unfold handleGet handleStatus
    split_ifs <;> rfl
  · unfold handlePost at served
    split_ifs at served with upload config reset reboot
    · obtain rfl := Option.some.inj served
      exact .inr ⟨rfl, request, rest, read, by simpa [tokenEquals] using post,
        by simpa [tokenEquals] using upload, rfl⟩
    · obtain ⟨update, -, rfl⟩ := Option.map_eq_some_iff.mp served
      exact .inl rfl
    · exact .inl (nothing served rfl)
    · exact .inl (nothing served rfl)
    · exact .inl (nothing served rfl)
  · exact .inl (nothing served rfl)

variable {cfg : OtaKconfig} {server : WebServer} {conn : Connection} {served : Served}

/-- Reading the status and the self check boot nothing and end with no upload running. -/
theorem reads_and_checks (cfg : OtaKconfig) (flash : OtaFlash) {ota : OtaUpdateRuntime}
    (settled : ota.status.state ≠ .uploading) (reads checks : Bool) :
    let inputs := (if reads then [⟨flash.init, .getStatus⟩] else []) ++
      if checks then
        [⟨flash.init, .selfCheckWebReachable flash.imgConfirmed flash.writeConfirmedRet⟩]
      else []
    (∀ call ∈ bootCalls (trace (otaStep cfg) ota inputs), call = .bootWriteImgConfirmed) ∧
      (stateAfter (otaStep cfg) ota inputs).status.state ≠ .uploading := by
  have asked : (otaStep cfg ota ⟨flash.init, .getStatus⟩).1.status.state ≠ .uploading :=
    fun uploading => settled (by
      rwa [show (otaStep cfg ota ⟨flash.init, .getStatus⟩).1 = ota from
        initOnce_eq_self (.inl uploading)] at uploading)
  have checked {ota : OtaUpdateRuntime} :
      (∀ call ∈ (otaStep cfg ota ⟨flash.init, .selfCheckWebReachable flash.imgConfirmed
          flash.writeConfirmedRet⟩).2.calls, call = .bootWriteImgConfirmed) ∧
        (otaStep cfg ota ⟨flash.init, .selfCheckWebReachable flash.imgConfirmed
          flash.writeConfirmedRet⟩).1.status.state ≠ .uploading := by
    obtain ⟨calls, final⟩ := otaUpdateSelfCheckWebReachable_cases (initOnce flash.init ota)
      flash.imgConfirmed flash.writeConfirmedRet
    exact ⟨calls, by rcases final with final | final <;> simp [otaStep, final]⟩
  cases reads <;> cases checks
  · exact ⟨by simp, settled⟩
  · exact ⟨by simpa [trace] using checked.1, checked.2⟩
  · exact ⟨by simp [trace, otaStep], asked⟩
  · exact ⟨by simpa [trace, otaStep] using checked.1, checked.2⟩

/-- What the update module went through while a connection was served. -/
structure ServedOta (conn : Connection) (served : Served) : Prop where
  told : served.answer.otaCalls ≠ [] → served.events.map (fun event => event.2.ret) =
    served.answer.otaCalls.filterMap OtaUploadCall.told
  boots : .bootRequestUpgrade ∈ bootCalls served.events →
    ∃ request rest, readHttpRequest .empty conn.recvs = (.ok request, rest) ∧
      request.method = ascii "POST" ∧ request.path = ascii "/api/ota/upload" ∧
      BootsBody conn.flash (request.body ++ pendingBytes rest) request.contentLength
        (bootCalls served.events)
  reboots : .scheduleReboot ∈ bootCalls served.events ↔
    .bootRequestUpgrade ∈ bootCalls served.events ∧ conn.flash.upgradeRet = none
  pending : .scheduleReboot ∈ bootCalls served.events →
    served.server.ota.status.state = .pendingReboot
  settled : served.server.ota.status.state ≠ .uploading

theorem webServe_ota (serving : webServe cfg server conn = some served)
    (settled : server.ota.status.state ≠ .uploading) : ServedOta conn served := by
  obtain ⟨answer, answered, rfl⟩ := Option.map_eq_some_iff.mp serving
  rcases handleClient_ota answered with
    none | ⟨unchecked, request, rest, read, method, path, calls⟩
  · obtain ⟨harmless, after⟩ := reads_and_checks cfg conn.flash settled conn.asksStatus
      (answer.selfCheck && conn.sent)
    have inputs : conn.otaInputs answer =
        (if conn.asksStatus then [⟨conn.flash.init, .getStatus⟩] else []) ++
          if (answer.selfCheck && conn.sent) = true then
            [⟨conn.flash.init, .selfCheckWebReachable conn.flash.imgConfirmed
              conn.flash.writeConfirmedRet⟩]
          else [] := by
      simp [Connection.otaInputs, none, OtaFlash.inputs]
    rw [← inputs] at harmless after
    have unrequested := mt (harmless .bootRequestUpgrade) (by simp)
    have unscheduled := mt (harmless .scheduleReboot) (by simp)
    exact ⟨fun calls => absurd none calls, fun requested => absurd requested unrequested,
      iff_of_false unscheduled fun ⟨requested, _⟩ => unrequested requested,
      fun scheduled => absurd scheduled unscheduled, after⟩
  · have small := readHttpRequest_le read
    have asked : conn.request = some request := by rw [Connection.request, read]
    have noStatus : conn.asksStatus = false := by
      simp [Connection.asksStatus, asked, tokenEquals, method, ascii]
    have inputs : conn.otaInputs answer = conn.flash.inputs 0 answer.otaCalls := by
      simp [Connection.otaInputs, noStatus, unchecked]
    have effect := handleOtaUpload_effect (conn.answeringBackend cfg server.ota).otaUpload cfg
      conn.flash small rest settled
    have results : (conn.answeringBackend cfg server.ota).otaResults =
        conn.flash.results cfg server.ota request.contentLength := by
      simp [Connection.answeringBackend, asked]
    rw [results] at calls
    rw [← calls] at effect
    dsimp only at effect
    rw [← inputs] at effect
    exact ⟨fun _ => effect.told,
      fun requested => ⟨request, rest, read, method, path, effect.boots requested⟩,
      effect.reboots, effect.pending, effect.settled⟩

theorem handleClient_isSome (backend : WebBackend) (state : WebState) (recvs : List WebRecv) :
    (handleClient backend state recvs).isSome := by
  unfold handleClient handleRequest handlePost
  split_ifs
  · rfl
  · split
    · rfl
    · split_ifs <;> first | rfl | exact handleConfigPost_isSome _ _ _ _

theorem webServe_isSome (cfg : OtaKconfig) (server : WebServer) (conn : Connection) :
    (webServe cfg server conn).isSome := by
  rw [webServe, Option.isSome_map]
  exact handleClient_isSome _ _ _

end Serve

/-! ## Runs -/

/-- Whatever clients send, flash and boot loader answer and the rest of the program does: a
connection that asks for a test boot is an upload, and the image is the announced part of
what followed its head; it erased the slot, wrote the image in order and flushed it, all
with success, and nothing else in between. The reboot into it is scheduled exactly when the
boot loader accepted, the handler was told what the module answered, and between connections
no upload is running. -/
theorem boot_image_is_one_body (cfg : OtaKconfig) (web : WebState) (conns : List Connection)
    (server : WebServer)
    (ran : Transitions.run (webServerStep cfg) ⟨web, otaRuntimeZero⟩ conns = some server) :
    server.ota.status.state ≠ .uploading ∧
      ∀ conn, ∃ served, webServe cfg server conn = some served ∧ ServedOta conn served := by
  have settled : server.ota.status.state ≠ .uploading :=
    Transitions.invariant (P := fun server : WebServer => server.ota.status.state ≠ .uploading)
      (fun server conn next settled step => by
        obtain ⟨served, serving, rfl⟩ := Option.map_eq_some_iff.mp step
        exact (webServe_ota serving settled).settled)
      (by simp [otaRuntimeZero]) ran
  refine ⟨settled, fun conn => ?_⟩
  obtain ⟨served, serving⟩ := Option.isSome_iff_exists.mp (webServe_isSome cfg server conn)
  exact ⟨served, serving, webServe_ota serving settled⟩

/-- A slot of 4 KiB, with a flash and a boot loader that do not fail. -/
def sampleFlash : OtaFlash where
  init := ⟨true, true, 1⟩
  slot := 1
  area := .ok 4096
  eraseRet := none
  initRet := none
  writeRet _ := none
  flushRet := none
  upgradeRet := none
  imgConfirmed := true
  writeConfirmedRet := none

/-- A five-byte image, in pieces. -/
def sampleUpload : Connection := ⟨uploadCut, sampleBackend, sampleFlash, true⟩

/-- It is asked to boot, also where another one has been uploaded before. -/
theorem boot_image_is_one_body_upload :
    ∃ server served,
      Transitions.run (webServerStep ⟨0, by decide⟩) ⟨sampleState, otaRuntimeZero⟩
        [sampleUpload] = some server ∧
      server.ota.status.state ≠ .uploading ∧
      webServe ⟨0, by decide⟩ server sampleUpload = some served ∧
      bootCalls served.events =
        [.bootEraseImgBank 1, .flashImgInitId 1, .flashImgBufferedWrite [1, 2] false none,
          .flashImgBufferedWrite [3] false none, .flashImgBufferedWrite [4, 5] false none,
          .flashImgBufferedWrite [] true none, .bootRequestUpgrade, .scheduleReboot] ∧
      ServedOta sampleUpload served := by
  have reached : (Transitions.run (webServerStep ⟨0, by decide⟩) ⟨sampleState, otaRuntimeZero⟩
      [sampleUpload]).any (fun server =>
        (webServe ⟨0, by decide⟩ server sampleUpload).any fun served =>
          bootCalls served.events =
            [.bootEraseImgBank 1, .flashImgInitId 1, .flashImgBufferedWrite [1, 2] false none,
              .flashImgBufferedWrite [3] false none, .flashImgBufferedWrite [4, 5] false none,
              .flashImgBufferedWrite [] true none, .bootRequestUpgrade,
              .scheduleReboot]) = true := by decide +kernel
  obtain ⟨server, ran, again⟩ := (Option.any_eq_true _ _).mp reached
  obtain ⟨served, serving, calls⟩ := (Option.any_eq_true _ _).mp again
  obtain ⟨settled, answers⟩ :=
    boot_image_is_one_body ⟨0, by decide⟩ sampleState [sampleUpload] server ran
  obtain ⟨served', serving', effect⟩ := answers sampleUpload
  obtain rfl := Option.some.inj (serving.symm.trans serving')
  exact ⟨server, served, ran, settled, serving, of_decide_eq_true calls, effect⟩

end EspNmeaBridge
