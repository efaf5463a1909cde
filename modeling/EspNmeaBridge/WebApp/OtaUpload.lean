/-
# The OTA upload

The handler begins an update, passes on the part of the body that came with the
header and then the pieces it receives, and finishes the update. Each of its exits
behind a successful begin ends the update once: with a finish that succeeded, or
with an abort.

The results of the update functions are inputs here, and the calls made to them,
each with its result, are the answer.
-/

import EspNmeaBridge.WebApp.HttpResponse
import EspNmeaBridge.WebApp.WebRecv

namespace EspNmeaBridge

/-- The Kconfig options that gate uploads. -/
structure OtaUploadKconfig where
  otaUpdateEnable : Bool
  otaUploadTrustedNetworkEnable : Bool
  deriving DecidableEq, Repr

/-- Both options have to be set. -/
def otaUploadAllowed (cfg : OtaUploadKconfig) : Bool :=
  cfg.otaUpdateEnable && cfg.otaUploadTrustedNetworkEnable

/-- What the update functions return: `otaUpdateWrite i` is the result of the write
after `i` others. -/
structure OtaUploadResults where
  otaUpdateBegin : Option Errno
  otaUpdateWrite : ℕ → Option Errno
  otaUpdateFinish : Option Errno

/-- A call of the handler, with its result. -/
inductive OtaUploadCall where
  | begin (contentLength : ℕ) (ret : Option Errno)
  | write (data : List UInt8) (ret : Option Errno)
  | finish (ret : Option Errno)
  | abort (reason : String)
  | scheduleReboot
  | respond (response : HttpResponse)
  deriving DecidableEq, Repr

/-- The messages are of the program, so none needs an escape. -/
def otaErrorResponse (status message : String) : HttpResponse :=
  textResponse status "application/json" ("\x7b\"ok\":false,\"error\":\"" ++ message ++ "\"\x7d\n")

def otaSuccessResponse : HttpResponse :=
  textResponse "200 OK" "application/json" "\x7b\"ok\":true,\"state\":\"pending_reboot\"\x7d\n"

/-- How far the upload has come: the locals `uploaded` and `ret`, and the writes made. -/
structure OtaProgress where
  uploaded : ℕ
  ret : Option Errno
  writes : List (List UInt8 × Option Errno)
  deriving DecidableEq, Repr

/-- An empty chunk is written without a call. -/
def writeOtaBodyChunk (results : OtaUploadResults) (data : List UInt8) (progress : OtaProgress) :
    OtaProgress :=
  if data = [] then { progress with ret := none }
  else
    let ret := results.otaUpdateWrite progress.writes.length
    { uploaded := if ret = none then progress.uploaded + data.length else progress.uploaded
      ret := ret
      writes := progress.writes ++ [(data, ret)] }

/-- The receive loop, and whether the connection ended in it. -/
def receiveOtaBody (results : OtaUploadResults) (contentLength : ℕ) (progress : OtaProgress)
    (recvs : List WebRecv) : OtaProgress × Bool :=
  if progress.ret = none ∧ progress.uploaded < contentLength then
    match _called : webRecv (min webAppRxBufSize (contentLength - progress.uploaded)) recvs with
    | (.error errno, rest) =>
      if errno = .eintr then receiveOtaBody results contentLength progress rest
      else (progress, true)
    | (.received bytes, rest) =>
      if bytes = [] then (progress, true)
      else receiveOtaBody results contentLength (writeOtaBodyChunk results bytes progress) rest
  else (progress, false)
termination_by pendingCalls recvs
decreasing_by
  · subst errno
    exact pendingCalls_lt_of_interrupted _called
  · exact pendingCalls_lt_of_received _called ‹_›

/-- The writes among the calls of the handler. -/
def writeCalls (writes : List (List UInt8 × Option Errno)) : List OtaUploadCall :=
  writes.map fun write => .write write.1 write.2

/-- The gates are passed in this order; behind them the body is written as it comes, and the
upload is finished or aborted. -/
def handleOtaUpload (cfg : OtaUploadKconfig) (results : OtaUploadResults) (request : HttpRequest)
    (recvs : List WebRecv) : List OtaUploadCall :=
  if !otaUploadAllowed cfg then
    [.respond (otaErrorResponse "403 Forbidden" "OTA uploads are disabled")]
  else if !request.hasContentLength then
    [.respond (otaErrorResponse "411 Length Required" "Content-Length required")]
  else if request.contentLength < request.body.length then
    [.respond (otaErrorResponse "400 Bad Request" "body exceeds Content-Length")]
  else
    match results.otaUpdateBegin with
    | some err =>
      let status := if err = .efbig then "413 Payload Too Large" else "400 Bad Request"
      [.begin request.contentLength (some err),
        .respond (otaErrorResponse status "invalid OTA upload size")]
    | none =>
      -- What arrived together with the header is written first.
      let start := writeOtaBodyChunk results request.body ⟨0, none, []⟩
      let received := receiveOtaBody results request.contentLength start recvs
      .begin request.contentLength none :: writeCalls received.1.writes ++
        -- The connection ended, or a receive failed, with bytes still missing.
        if received.2 then
          [.abort "OTA upload connection closed early",
            .respond (otaErrorResponse "400 Bad Request" "upload ended early")]
        else if received.1.ret ≠ none then
          [.abort "OTA image write failed",
            .respond (otaErrorResponse "500 Internal Server Error" "writing OTA image failed")]
        else
          match results.otaUpdateFinish with
          | some err =>
            [.finish (some err), .abort "OTA image finish failed",
              .respond
                (otaErrorResponse "500 Internal Server Error" "finishing OTA image failed")]
          | none => [.finish none, .respond otaSuccessResponse, .scheduleReboot]

/-! ## What the receive loop passes on -/

/-- The bytes passed to the writes so far. -/
def bytesOfWrites (writes : List (List UInt8 × Option Errno)) : List UInt8 :=
  writes.flatMap Prod.fst

@[simp] theorem bytesOfWrites_snoc (writes : List (List UInt8 × Option Errno))
    (data : List UInt8) (ret : Option Errno) :
    bytesOfWrites (writes ++ [(data, ret)]) = bytesOfWrites writes ++ data := by
  simp [bytesOfWrites]

/-- The bytes written and the bytes still to come are the body; `uploaded` counts the
written ones while every write succeeded. -/
structure Delivers (body : List UInt8) (contentLength : ℕ) (progress : OtaProgress)
    (recvs : List WebRecv) : Prop where
  stream : bytesOfWrites progress.writes ++ pendingBytes recvs = body
  bounded : (bytesOfWrites progress.writes).length ≤ contentLength
  succeeded : progress.ret = none ↔ ∀ write ∈ progress.writes, write.2 = none
  counted : progress.ret = none → progress.uploaded = (bytesOfWrites progress.writes).length

section Loop

variable {results : OtaUploadResults} {body data : List UInt8} {contentLength : ℕ}
  {progress : OtaProgress} {recvs rest : List WebRecv}

/-- Passing on the next piece, when it still belongs to the body. -/
theorem Delivers.writeChunk (delivers : Delivers body contentLength progress recvs)
    (ok : progress.ret = none) (next : pendingBytes recvs = data ++ pendingBytes rest)
    (fits : (bytesOfWrites progress.writes).length + data.length ≤ contentLength) :
    Delivers body contentLength (writeOtaBodyChunk results data progress) rest := by
  have earlier := delivers.succeeded.mp ok
  rw [writeOtaBodyChunk]
  by_cases empty : data = []
  · rw [if_pos empty]
    rw [empty, List.nil_append] at next
    exact ⟨next ▸ delivers.stream, delivers.bounded, iff_of_true rfl earlier,
      fun _ => delivers.counted ok⟩
  · rw [if_neg empty]
    -- One more write: of the stream, within the announced length, with its result.
    constructor
    · rw [bytesOfWrites_snoc, List.append_assoc, ← next]
      exact delivers.stream
    · simpa using fits
    · constructor
      · intro written write member
        rcases List.mem_append.mp member with old | new
        · exact earlier write old
        · rw [List.mem_singleton.mp new]
          exact written
      · exact fun all => all _ (List.mem_append_right _ (List.mem_singleton_self _))
    · intro written
      dsimp only at written ⊢
      rw [if_pos written, delivers.counted ok, bytesOfWrites_snoc, List.length_append]

/-- The loop ends with the connection, behind a failed write, or with the whole body. -/
theorem receiveOtaBody_delivers (delivers : Delivers body contentLength progress recvs) :
    ∃ received ended rest,
      receiveOtaBody results contentLength progress recvs = (received, ended) ∧
      Delivers body contentLength received rest ∧
      (ended = true ↔ received.ret = none ∧ received.uploaded < contentLength) := by
  fun_induction receiveOtaBody results contentLength progress recvs with
  | case1 progress recvs going rest called ih =>
    -- Interrupted: the same bytes are still to come.
    apply ih
    rw [webRecv_interrupted called] at delivers
    exact ⟨delivers.stream, delivers.bounded, delivers.succeeded, delivers.counted⟩
  | case2 progress recvs going errno rest called other =>
    exact ⟨progress, true, recvs, rfl, delivers, iff_of_true rfl going⟩
  | case3 progress recvs going rest called =>
    exact ⟨progress, true, recvs, rfl, delivers, iff_of_true rfl going⟩
  | case4 progress recvs going bytes rest called nonempty ih =>
    obtain ⟨next, asked⟩ := webRecv_received called
    apply ih
    apply delivers.writeChunk going.1 next
    -- No more was asked for than is missing.
    have missing := asked.trans (min_le_right _ _)
    have counted := delivers.counted going.1
    omega
  | case5 progress recvs stopped =>
    exact ⟨progress, false, recvs, rfl, delivers, iff_of_false (by simp) stopped⟩

end Loop

/-! ## The upload -/

def isAbort : OtaUploadCall → Bool
  | .abort _ => true
  | _ => false

/-- A call that the update module acts on. -/
def isUpdateCall : OtaUploadCall → Bool
  | .begin _ _ | .write _ _ | .finish _ => true
  | _ => false

/-- The bytes the handler passes to `ota_update_write`, in order. -/
def passedBytes (calls : List OtaUploadCall) : List UInt8 :=
  calls.flatMap fun
    | .write data _ => data
    | _ => []

/-- Every write succeeded, and they passed on as many bytes as announced. -/
def AllPassed (contentLength : ℕ) (writes : List (List UInt8 × Option Errno)) : Prop :=
  (∀ write ∈ writes, write.2 = none) ∧ (bytesOfWrites writes).length = contentLength

/-- What a request can lead to. -/
inductive OtaUploadOutcome (body : List UInt8) (contentLength : ℕ) : List OtaUploadCall → Prop
  | refused (response : HttpResponse) : OtaUploadOutcome body contentLength [.respond response]
  | beginFailed (err : Errno) (response : HttpResponse) :
      OtaUploadOutcome body contentLength [.begin contentLength (some err), .respond response]
  | aborted {writes : List (List UInt8 × Option Errno)}
      (front : bytesOfWrites writes <+: body.take contentLength)
      (incomplete : ¬ AllPassed contentLength writes) (reason : String)
      (response : HttpResponse) :
      OtaUploadOutcome body contentLength
        (.begin contentLength none :: writeCalls writes ++ [.abort reason, .respond response])
  | finishFailed {writes : List (List UInt8 × Option Errno)}
      (front : bytesOfWrites writes <+: body.take contentLength)
      (complete : AllPassed contentLength writes) (err : Errno) (reason : String)
      (response : HttpResponse) :
      OtaUploadOutcome body contentLength
        (.begin contentLength none :: writeCalls writes ++
          [.finish (some err), .abort reason, .respond response])
  | finished {writes : List (List UInt8 × Option Errno)}
      (front : bytesOfWrites writes <+: body.take contentLength)
      (complete : AllPassed contentLength writes) (response : HttpResponse) :
      OtaUploadOutcome body contentLength
        (.begin contentLength none :: writeCalls writes ++
          [.finish none, .respond response, .scheduleReboot])

/-- A request that fails one of the checks gets a response and nothing else. -/
theorem handleOtaUpload_rejected {cfg : OtaUploadKconfig} {results : OtaUploadResults}
    {request : HttpRequest} {recvs : List WebRecv}
    (rejected : otaUploadAllowed cfg = false ∨ request.hasContentLength = false ∨
      request.contentLength < request.body.length) :
    ∃ response, handleOtaUpload cfg results request recvs = [.respond response] := by
  rw [handleOtaUpload]
  by_cases allowed : otaUploadAllowed cfg = true
  · by_cases announced : request.hasContentLength = true
    · have exceeds : request.contentLength < request.body.length := by
        simpa [allowed, announced] using rejected
      exact ⟨_, by rw [if_neg (by simp [allowed]), if_neg (by simp [announced]), if_pos exceeds]⟩
    · exact ⟨_, by rw [if_neg (by simp [allowed]), if_pos (by simp [announced])]⟩
  · exact ⟨_, by rw [if_pos (by simp [allowed])]⟩

theorem handleOtaUpload_outcome (cfg : OtaUploadKconfig) (results : OtaUploadResults)
    (request : HttpRequest) (recvs : List WebRecv) :
    OtaUploadOutcome (request.body ++ pendingBytes recvs) request.contentLength
      (handleOtaUpload cfg results request recvs) := by
  by_cases rejected : otaUploadAllowed cfg = false ∨ request.hasContentLength = false ∨
      request.contentLength < request.body.length
  · obtain ⟨response, refused⟩ := @handleOtaUpload_rejected cfg results request recvs rejected
    exact refused ▸ .refused response
  · simp only [not_or, Bool.not_eq_false, Nat.not_lt] at rejected
    obtain ⟨allowed, announced, buffered⟩ := rejected
    rw [handleOtaUpload, if_neg (by simp [allowed]), if_neg (by simp [announced]),
      if_neg (Nat.not_lt.mpr buffered)]
    cases begun : results.otaUpdateBegin with
    | some err => exact .beginFailed err _
    | none =>
      -- The first chunk counts as received before all others.
      have empty : Delivers (request.body ++ pendingBytes recvs) request.contentLength
          ⟨0, none, []⟩ (.received request.body :: recvs) :=
        ⟨rfl, Nat.zero_le _, by simp, fun _ => rfl⟩
      have start : Delivers (request.body ++ pendingBytes recvs) request.contentLength
          (writeOtaBodyChunk results request.body ⟨0, none, []⟩) recvs :=
        empty.writeChunk rfl rfl (by simpa [bytesOfWrites])
      obtain ⟨received, ended, rest, loop, delivers, exit⟩ :
          ∃ received ended rest, receiveOtaBody results request.contentLength
              (writeOtaBodyChunk results request.body ⟨0, none, []⟩) recvs = (received, ended) ∧
            Delivers (request.body ++ pendingBytes recvs) request.contentLength received rest ∧
            (ended = true ↔ received.ret = none ∧ received.uploaded < request.contentLength) :=
        receiveOtaBody_delivers start
      have front : bytesOfWrites received.writes <+:
          (request.body ++ pendingBytes recvs).take request.contentLength :=
        List.prefix_take_iff.mpr ⟨⟨_, delivers.stream⟩, delivers.bounded⟩
      dsimp only
      rw [loop]
      cases ended with
      | true =>
        obtain ⟨ok, missing⟩ := exit.mp rfl
        refine .aborted front (fun complete => ?_) _ _
        -- Every write succeeded, so what was written is what was counted, and too little.
        have counted := delivers.counted ok
        have total := complete.2
        omega
      | false =>
        cases written : received.ret with
        | some err =>
          have failed : received.ret ≠ none := by simp [written]
          exact .aborted front (fun complete => failed (delivers.succeeded.mpr complete.1)) _ _
        | none =>
          have total : ¬ received.uploaded < request.contentLength :=
            fun missing => Bool.false_ne_true (exit.mpr ⟨written, missing⟩)
          -- The loop went on to the announced length and never beyond it.
          have complete : AllPassed request.contentLength received.writes := by
            refine ⟨delivers.succeeded.mp written, ?_⟩
            have counted := delivers.counted written
            have bounded := delivers.bounded
            omega
          cases results.otaUpdateFinish with
          | some err => exact .finishFailed front complete err _ _
          | none => exact .finished front complete _

/-! ## Reading the outcome -/

@[simp] theorem mem_writeCalls {writes : List (List UInt8 × Option Errno)}
    {call : OtaUploadCall} :
    call ∈ writeCalls writes ↔ ∃ write ∈ writes, .write write.1 write.2 = call := by
  simp [writeCalls]

@[simp] theorem countP_isAbort_writeCalls (writes : List (List UInt8 × Option Errno)) :
    (writeCalls writes).countP isAbort = 0 := by
  rw [List.countP_eq_zero]
  intro call member
  obtain ⟨write, -, rfl⟩ := mem_writeCalls.mp member
  simp [isAbort]

theorem passedBytes_uploaded (contentLength : ℕ) (writes : List (List UInt8 × Option Errno))
    (finishing : List OtaUploadCall) :
    passedBytes (.begin contentLength none :: writeCalls writes ++ finishing) =
      bytesOfWrites writes ++ passedBytes finishing := by
  simp [passedBytes, writeCalls, bytesOfWrites, List.flatMap_map]

namespace OtaUploadOutcome

variable {body : List UInt8} {contentLength : ℕ} {calls : List OtaUploadCall}

theorem passedBytes_prefix (outcome : OtaUploadOutcome body contentLength calls) :
    passedBytes calls <+: body.take contentLength := by
  cases outcome with
  | refused response => exact List.nil_prefix
  | beginFailed err response => exact List.nil_prefix
  | aborted front =>
    rw [passedBytes_uploaded]
    simpa [passedBytes] using front
  | finishFailed front =>
    rw [passedBytes_uploaded]
    simpa [passedBytes] using front
  | finished front =>
    rw [passedBytes_uploaded]
    simpa [passedBytes] using front

theorem finish_iff (outcome : OtaUploadOutcome body contentLength calls) :
    (∃ ret, .finish ret ∈ calls) ↔
      .begin contentLength none ∈ calls ∧
        (∀ data ret, .write data ret ∈ calls → ret = none) ∧
        (passedBytes calls).length = contentLength := by
  cases outcome with
  | refused response => simp
  | beginFailed err response => simp
  | aborted front incomplete =>
    -- An aborted upload lacks a write or some of the bytes.
    apply iff_of_false
    · simp
    · rintro ⟨-, ok, total⟩
      apply incomplete
      rw [passedBytes_uploaded] at total
      exact ⟨fun write member => ok write.1 write.2 (by simp [member]),
        by simpa [passedBytes] using total⟩
  | finishFailed front complete err =>
    refine iff_of_true ⟨some err, by simp⟩ ⟨by simp, ?_, ?_⟩
    · intro data ret member
      exact complete.1 (data, ret) (by simpa using member)
    · rw [passedBytes_uploaded]
      simpa [passedBytes] using complete.2
  | finished front complete =>
    refine iff_of_true ⟨none, by simp⟩ ⟨by simp, ?_, ?_⟩
    · intro data ret member
      exact complete.1 (data, ret) (by simpa using member)
    · rw [passedBytes_uploaded]
      simpa [passedBytes] using complete.2

theorem countP_isAbort (outcome : OtaUploadOutcome body contentLength calls)
    (begun : .begin contentLength none ∈ calls) :
    calls.countP isAbort = if .finish none ∈ calls then 0 else 1 := by
  cases outcome with
  | refused response => simp at begun
  | beginFailed err response => simp at begun
  | aborted => simp [isAbort, List.countP_cons]
  | finishFailed => simp [isAbort, List.countP_cons]
  | finished => simp [isAbort]

theorem scheduleReboot_iff (outcome : OtaUploadOutcome body contentLength calls) :
    .scheduleReboot ∈ calls ↔ .finish none ∈ calls := by
  cases outcome <;> simp

end OtaUploadOutcome

/-- The upload handler delivers the body exactly. What it passes to the writes is the
front of the announced body; it finishes the update exactly when it began it and wrote
all of the body; it aborts a begun update once unless the finish succeeded; it schedules
the reboot exactly behind a finish that succeeded; and a request that fails one of the
first checks reaches none of the update functions. -/
theorem upload_delivers_body (cfg : OtaUploadKconfig) (results : OtaUploadResults)
    (request : HttpRequest) (recvs : List WebRecv) :
    let calls := handleOtaUpload cfg results request recvs
    passedBytes calls <+: (request.body ++ pendingBytes recvs).take request.contentLength ∧
      ((∃ ret, .finish ret ∈ calls) ↔
        .begin request.contentLength none ∈ calls ∧
          (∀ data ret, .write data ret ∈ calls → ret = none) ∧
          (passedBytes calls).length = request.contentLength) ∧
      (.begin request.contentLength none ∈ calls →
        calls.countP isAbort = if .finish none ∈ calls then 0 else 1) ∧
      (.scheduleReboot ∈ calls ↔ .finish none ∈ calls) ∧
      (otaUploadAllowed cfg = false ∨ request.hasContentLength = false ∨
        request.contentLength < request.body.length →
          ∀ call ∈ calls, isUpdateCall call = false) := by
  intro calls
  have outcome := handleOtaUpload_outcome cfg results request recvs
  refine ⟨outcome.passedBytes_prefix, outcome.finish_iff, outcome.countP_isAbort,
    outcome.scheduleReboot_iff, ?_⟩
  intro rejected call member
  obtain ⟨response, refused⟩ := @handleOtaUpload_rejected cfg results request recvs rejected
  rw [show calls = [.respond response] from refused, List.mem_singleton] at member
  rw [member]
  rfl

end EspNmeaBridge
