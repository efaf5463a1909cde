/-
# However the bytes are split

The bytes of a request arrive in pieces of any size, and a call may be interrupted. The
loops cut them elsewhere: the head may come in parts, and the last piece of it may bring
the first part of the body along. What the request leaves behind is the same.

What differs is which writes an upload is passed on with. Their bytes are the body.
-/

import EspNmeaBridge.WebApp.HandleClient

namespace EspNmeaBridge

open CString Pattern

/-! ## Undisturbed connections -/

/-- Some bytes arrived, or the call was interrupted. -/
def WebRecv.undisturbed : WebRecv → Bool
  | .received bytes => bytes != []
  | .error errno => errno == .eintr

def Undisturbed (recvs : List WebRecv) : Prop := ∀ recv ∈ recvs, recv.undisturbed = true

section OneCall

variable {want : ℕ} {recvs rest : List WebRecv} {result : WebRecv}

/-- While bytes are pending, a call is undisturbed and leaves the connection so. -/
theorem Undisturbed.webRecv (undisturbed : Undisturbed recvs) (room : 0 < want)
    (pending : pendingBytes recvs ≠ [])
    (called : EspNmeaBridge.webRecv want recvs = (result, rest)) :
    result.undisturbed = true ∧ Undisturbed rest := by
  cases recvs with
  | nil => exact absurd rfl pending
  | cons recv recvs =>
    obtain ⟨this, later⟩ := List.forall_mem_cons.mp undisturbed
    cases recv with
    | error errno =>
      obtain ⟨rfl, rfl⟩ := Prod.mk.inj called
      exact ⟨this, later⟩
    | received piece =>
      rw [EspNmeaBridge.webRecv] at called
      split_ifs at called with short
      · obtain ⟨rfl, rfl⟩ := Prod.mk.inj called
        exact ⟨this, later⟩
      · -- More arrived than was asked for: both parts of the piece have bytes.
        obtain ⟨rfl, rfl⟩ := Prod.mk.inj called
        rw [not_le] at short
        have front : piece.take want ≠ [] := by
          rw [ne_eq, List.take_eq_nil_iff, not_or]
          exact ⟨room.ne', List.ne_nil_of_length_pos (by omega)⟩
        have back : piece.drop want ≠ [] := by
          rw [ne_eq, List.drop_eq_nil_iff, not_le]
          exact short
        refine ⟨by simpa [WebRecv.undisturbed] using front, ?_⟩
        exact List.forall_mem_cons.mpr ⟨by simpa [WebRecv.undisturbed] using back, later⟩

end OneCall

/-! ## The head -/

/-- It ends with the first blank line in it. -/
def IsHead (head : List UInt8) : Prop := crlfCrlf <:+ head ∧ ¬ crlfCrlf <:+: head.dropLast

section Head

variable {buffer : RequestBuffer} {recvs : List WebRecv} {head body front : List UInt8}

/-- The end of the head is found once the head has arrived. -/
theorem IsHead.findHeaderEnd {received : List UInt8} (isHead : IsHead head)
    (arrived : received <+: head ++ body) :
    EspNmeaBridge.findHeaderEnd received =
      if head.length ≤ received.length then some (head.length - 4) else none := by
  have ends : find crlfCrlf head = some (head.length - 4) := find_of_suffix isHead.1 isHead.2
  have long : 4 ≤ head.length := isHead.1.length_le
  have whole : head.length - 4 + crlfCrlf.length = head.length := Nat.sub_add_cancel long
  rw [EspNmeaBridge.findHeaderEnd, find_of_prefix arrived (find_append ends body), whole]

theorem parseHttpRequest_head {headerLen : ℕ} (inside : headerLen ≤ buffer.received.length)
    (filled : buffer.received = head ++ front) (length : headerLen = head.length) :
    ∃ fits, parseHttpRequest buffer headerLen inside =
      (parseHttpHead head).map fun parsed => parsed.request head.length front fits := by
  obtain ⟨received, full⟩ := buffer
  subst length filled
  refine ⟨by simpa using full, ?_⟩
  simp only [parseHttpRequest, List.take_left, List.drop_left]

/-- Wherever the head was cut, it is parsed as a whole; what was received of the body and
what was not are the body. -/
theorem readHttpRequest_head (isHead : IsHead head) (fits : head.length ≤ webAppRxBufSize)
    (undisturbed : Undisturbed recvs)
    (stream : buffer.received ++ pendingBytes recvs = head ++ body)
    (unfinished : buffer.received.length < head.length) :
    ∃ front rest room, readHttpRequest buffer recvs =
        ((parseHttpHead head).map fun parsed => parsed.request head.length front room, rest) ∧
      front ++ pendingBytes rest = body ∧ Undisturbed rest := by
  -- Until the head is complete there are bytes to come and room for them.
  have pending {buffer : RequestBuffer} {recvs : List WebRecv}
      (stream : buffer.received ++ pendingBytes recvs = head ++ body)
      (unfinished : buffer.received.length < head.length) :
      0 < buffer.room ∧ pendingBytes recvs ≠ [] := by
    constructor
    · rw [RequestBuffer.room]
      omega
    · intro none
      have length := congrArg List.length stream
      rw [none, List.append_nil, List.length_append] at length
      omega
  fun_induction readHttpRequest buffer recvs with
  | case1 buffer recvs rest called ih =>
    obtain ⟨room, more⟩ := pending stream unfinished
    apply ih (undisturbed.webRecv room more called).2 _ unfinished
    rw [webRecv_interrupted called] at stream
    exact stream
  | case2 buffer recvs errno rest called other =>
    obtain ⟨room, more⟩ := pending stream unfinished
    have fine := (undisturbed.webRecv room more called).1
    exact absurd (by simpa [WebRecv.undisturbed] using fine) other
  | case3 buffer recvs rest called =>
    obtain ⟨room, more⟩ := pending stream unfinished
    have fine := (undisturbed.webRecv room more called).1
    simp [WebRecv.undisturbed] at fine
  | case4 buffer recvs bytes rest called nonempty filled headerEnd found =>
    obtain ⟨room, more⟩ := pending stream unfinished
    rw [(webRecv_received called).1, ← List.append_assoc] at stream
    have arrived : filled.received <+: head ++ body := ⟨_, stream⟩
    -- The end that was found is that of the head.
    rw [isHead.findHeaderEnd arrived] at found
    split_ifs at found with complete
    obtain ⟨front, same⟩ :=
      List.prefix_of_prefix_length_le (List.prefix_append head body) arrived complete
    have long : 4 ≤ head.length := isHead.1.length_le
    have length : headerEnd + 4 = head.length := by
      rw [← Option.some.inj found, Nat.sub_add_cancel long]
    have inside : headerEnd + 4 ≤ filled.received.length := length ▸ complete
    obtain ⟨fits, parsed⟩ := parseHttpRequest_head inside same.symm length
    refine ⟨front, rest, fits, congrArg (·, rest) parsed, ?_,
      (undisturbed.webRecv room more called).2⟩
    have cancelled : head ++ (front ++ pendingBytes rest) = head ++ body := by
      rw [← List.append_assoc, same]
      exact stream
    exact List.append_cancel_left cancelled
  | case5 buffer recvs bytes rest called nonempty filled found full =>
    -- A full buffer holds the head.
    rw [(webRecv_received called).1, ← List.append_assoc] at stream
    have arrived : filled.received <+: head ++ body := ⟨_, stream⟩
    rw [isHead.findHeaderEnd arrived, if_pos (full ▸ fits)] at found
    exact absurd found (Option.some_ne_none _)
  | case6 buffer recvs bytes rest called nonempty filled found notFull ih =>
    obtain ⟨room, more⟩ := pending stream unfinished
    rw [(webRecv_received called).1, ← List.append_assoc] at stream
    have arrived : filled.received <+: head ++ body := ⟨_, stream⟩
    apply ih (undisturbed.webRecv room more called).2 stream
    by_contra complete
    rw [isHead.findHeaderEnd arrived, if_pos (not_lt.mp complete)] at found
    exact Option.some_ne_none _ found

end Head

/-! ## The body of a configuration POST -/

/-- Part of the announced body is in the buffer, and the rest of it will arrive. -/
structure BodyArrives (body : List UInt8) (request : HttpRequest) (recvs : List WebRecv) :
    Prop where
  stream : request.body ++ pendingBytes recvs = body
  undisturbed : Undisturbed recvs
  announced : request.hasContentLength = true → body.length = request.contentLength

/-- Two requests of one head. -/
structure SameHead (request other : HttpRequest) : Prop where
  hasContentLength : request.hasContentLength = other.hasContentLength
  contentLength : request.contentLength = other.contentLength
  bodyOffset : request.bodyOffset = other.bodyOffset

section ConfigBody

variable {recvs recvs' : List WebRecv} {front body : List UInt8} {missing : ℕ}
  {request request' : HttpRequest}

/-- No more arrived with the head than the head announced. -/
theorem BodyArrives.buffered_le (arrives : BodyArrives body request recvs)
    (hasLength : request.hasContentLength = true) :
    request.body.length + (pendingBytes recvs).length = request.contentLength := by
  rw [← arrives.announced hasLength, ← arrives.stream, List.length_append]

theorem recvBody_complete (undisturbed : Undisturbed recvs)
    (enough : missing ≤ (pendingBytes recvs).length) :
    recvBody missing front recvs = some (front ++ (pendingBytes recvs).take missing) := by
  induction recvs generalizing missing front with
  | nil =>
    obtain rfl : missing = 0 := Nat.le_zero.mp enough
    simp [recvBody]
  | cons recv recvs ih =>
    obtain ⟨this, later⟩ := List.forall_mem_cons.mp undisturbed
    cases missing with
    | zero => simp [recvBody]
    | succ missing =>
      cases recv with
      | error errno =>
        have interrupted : errno = .eintr := by simpa [WebRecv.undisturbed] using this
        rw [recvBody, if_pos interrupted]
        exact ih later enough
      | received bytes =>
        have nonempty : bytes ≠ [] := by simpa [WebRecv.undisturbed] using this
        -- A receive that delivers bytes takes some of those still missing.
        have some_taken : bytes.take (missing + 1) ≠ [] := by
          simpa [List.take_eq_nil_iff] using nonempty
        rw [pendingBytes_received, List.length_append] at enough
        have still : missing + 1 - (bytes.take (missing + 1)).length ≤
            (pendingBytes recvs).length := by
          rw [List.length_take]
          omega
        rw [recvBody, if_neg some_taken, ih later still, pendingBytes_received, List.take_append,
          List.append_assoc, List.length_take]
        congr 4
        omega

theorem readRemainingBody_complete (arrives : BodyArrives body request recvs)
    (hasLength : request.hasContentLength = true) :
    readRemainingBody request recvs =
      if webAppRxBufSize - request.bodyOffset ≤ request.contentLength then none else some body := by
  have total := arrives.buffered_le hasLength
  have missing : request.contentLength - request.body.length = (pendingBytes recvs).length := by
    omega
  rw [readRemainingBody, missing, recvBody_complete arrives.undisturbed le_rfl, List.take_length,
    arrives.stream]

/-- The handler answers the body, however it arrives. -/
theorem handleConfigUpdate_complete (same : SameHead request request')
    (arrives : BodyArrives body request recvs) (arrives' : BodyArrives body request' recvs')
    (hasLength : request.hasContentLength = true) (jsonObjParse : List UInt8 → JsonResult)
    (saveRet : Group → Option Errno) (world : ConfigWorld) :
    handleConfigUpdate jsonObjParse request recvs saveRet world =
        handleConfigUpdate jsonObjParse request' recvs' saveRet world ∧
      readRemainingBody request recvs = readRemainingBody request' recvs' := by
  have hasLength' : request'.hasContentLength = true := same.hasContentLength ▸ hasLength
  have total := arrives.buffered_le hasLength
  have total' := arrives'.buffered_le hasLength'
  have read : readRemainingBody request recvs = readRemainingBody request' recvs' := by
    rw [readRemainingBody_complete arrives hasLength,
      readRemainingBody_complete arrives' hasLength', same.bodyOffset, same.contentLength]
  have within : ¬ request.contentLength < request.body.length := by omega
  have within' : ¬ request'.contentLength < request'.body.length := by omega
  refine ⟨?_, read⟩
  rw [handleConfigUpdate, handleConfigUpdate, hasLength, hasLength', if_neg within,
    if_neg within', read, same.contentLength]

end ConfigBody

/-! ## The body of an upload -/

section OtaBody

variable {cfg : OtaUploadKconfig} {results : OtaUploadResults} {request : HttpRequest}
  {recvs : List WebRecv} {body : List UInt8} {contentLength : ℕ} {progress : OtaProgress}

theorem writeOtaBodyChunk_ret (written : ∀ i, results.otaUpdateWrite i = none)
    (data : List UInt8) (progress : OtaProgress) :
    (writeOtaBodyChunk results data progress).ret = none := by
  rw [writeOtaBodyChunk]
  split_ifs
  · rfl
  · exact written _

/-- While the writes succeed, the loop passes on the whole body. -/
theorem receiveOtaBody_complete (written : ∀ i, results.otaUpdateWrite i = none)
    (undisturbed : Undisturbed recvs) (delivers : Delivers body contentLength progress recvs)
    (ok : progress.ret = none) (announced : body.length = contentLength) :
    ∃ received, receiveOtaBody results contentLength progress recvs = (received, false) ∧
      received.ret = none ∧ bytesOfWrites received.writes = body := by
  -- What is missing is still to come.
  have pending {progress : OtaProgress} {recvs : List WebRecv}
      (delivers : Delivers body contentLength progress recvs)
      (going : progress.ret = none ∧ progress.uploaded < contentLength) :
      0 < min webAppRxBufSize (contentLength - progress.uploaded) ∧ pendingBytes recvs ≠ [] := by
    have counted := delivers.counted going.1
    have total := congrArg List.length delivers.stream
    rw [List.length_append] at total
    constructor
    · rw [lt_min_iff]
      exact ⟨by decide, by omega⟩
    · intro none
      rw [none, List.length_nil] at total
      omega
  fun_induction receiveOtaBody results contentLength progress recvs with
  | case1 progress recvs going rest called ih =>
    obtain ⟨room, more⟩ := pending delivers going
    apply ih (undisturbed.webRecv room more called).2 _ ok
    rw [webRecv_interrupted called] at delivers
    exact ⟨delivers.stream, delivers.bounded, delivers.succeeded, delivers.counted⟩
  | case2 progress recvs going errno rest called other =>
    obtain ⟨room, more⟩ := pending delivers going
    have fine := (undisturbed.webRecv room more called).1
    exact absurd (by simpa [WebRecv.undisturbed] using fine) other
  | case3 progress recvs going rest called =>
    obtain ⟨room, more⟩ := pending delivers going
    have fine := (undisturbed.webRecv room more called).1
    simp [WebRecv.undisturbed] at fine
  | case4 progress recvs going bytes rest called nonempty ih =>
    obtain ⟨room, more⟩ := pending delivers going
    obtain ⟨next, asked⟩ := webRecv_received called
    apply ih (undisturbed.webRecv room more called).2 _ (writeOtaBodyChunk_ret written _ _)
    apply delivers.writeChunk going.1 next
    have missing := asked.trans (min_le_right _ _)
    have counted := delivers.counted going.1
    omega
  | case5 progress recvs stopped =>
    -- The loop stopped, and not at a failed write.
    refine ⟨progress, rfl, ok, ?_⟩
    have counted := delivers.counted ok
    have total := congrArg List.length delivers.stream
    rw [List.length_append] at total
    have nothing : pendingBytes recvs = [] := by
      rw [← List.length_eq_zero_iff]
      have done : ¬ progress.uploaded < contentLength := fun missing => stopped ⟨ok, missing⟩
      omega
    have stream := delivers.stream
    rw [nothing, List.append_nil] at stream
    exact stream

/-- The calls behind the last write, when all of them succeeded. -/
def finishCalls : Option Errno → List OtaUploadCall
  | some err =>
    [.finish (some err), .abort "OTA image finish failed",
      .respond (otaErrorResponse "500 Internal Server Error" "finishing OTA image failed")]
  | none => [.finish none, .respond otaSuccessResponse, .scheduleReboot]

/-- An upload that is begun passes on the body and is finished. -/
theorem handleOtaUpload_complete (written : ∀ i, results.otaUpdateWrite i = none)
    (arrives : BodyArrives body request recvs) (allowed : otaUploadAllowed cfg = true)
    (hasLength : request.hasContentLength = true) (begun : results.otaUpdateBegin = none) :
    ∃ writes, bytesOfWrites writes = body ∧ handleOtaUpload cfg results request recvs =
      .begin request.contentLength none :: writeCalls writes ++
        finishCalls results.otaUpdateFinish := by
  have total := arrives.buffered_le hasLength
  have empty : Delivers body request.contentLength ⟨0, none, []⟩
      (.received request.body :: recvs) :=
    ⟨arrives.stream, Nat.zero_le _, by simp, fun _ => rfl⟩
  have start : Delivers body request.contentLength
      (writeOtaBodyChunk results request.body ⟨0, none, []⟩) recvs :=
    empty.writeChunk rfl rfl (by
      simp only [bytesOfWrites, List.flatMap_nil, List.length_nil]
      omega)
  obtain ⟨received, loop, ok, whole⟩ := receiveOtaBody_complete written arrives.undisturbed start
    (writeOtaBodyChunk_ret written _ _) (arrives.announced hasLength)
  refine ⟨received.writes, whole, ?_⟩
  have within : ¬ request.contentLength < request.body.length := by omega
  rw [handleOtaUpload, if_neg (by simp [allowed]), if_neg (by simp [hasLength]), if_neg within,
    begun]
  simp only [loop, ok]
  cases results.otaUpdateFinish <;> rfl

end OtaBody

/-! ## Two runs of one request -/

/-- The same to the client and to the other modules, up to the cuts of the image. -/
structure SameAnswer (answer other : ClientAnswer) : Prop where
  responses : answer.responses = other.responses
  state : answer.state = other.state
  configCalls : answer.configCalls = other.configCalls
  image : passedBytes answer.otaCalls = passedBytes other.otaCalls
  selfCheck : answer.selfCheck = other.selfCheck
  reboot : answer.reboot = other.reboot

theorem SameAnswer.refl (answer : ClientAnswer) : SameAnswer answer answer :=
  ⟨rfl, rfl, rfl, rfl, rfl, rfl⟩

theorem filterMap_otaResponse_writeCalls (writes : List (List UInt8 × Option Errno)) :
    (writeCalls writes).filterMap otaResponse = [] := by
  rw [List.filterMap_eq_nil_iff]
  intro call member
  obtain ⟨write, -, rfl⟩ := mem_writeCalls.mp member
  rfl

section TwoRuns

variable {backend : WebBackend} {request request' : HttpRequest} {recvs recvs' : List WebRecv}
  {head body : List UInt8}

theorem handleOtaRequest_complete (state : WebState)
    (written : ∀ i, backend.otaResults.otaUpdateWrite i = none) (same : SameHead request request')
    (arrives : BodyArrives body request recvs) (arrives' : BodyArrives body request' recvs') :
    SameAnswer (handleOtaRequest backend state request recvs)
      (handleOtaRequest backend state request' recvs') := by
  -- A request that is turned away is turned away before its body is read.
  have turnedAway (equal : handleOtaUpload backend.otaUpload backend.otaResults request recvs =
      handleOtaUpload backend.otaUpload backend.otaResults request' recvs') :
      SameAnswer (handleOtaRequest backend state request recvs)
        (handleOtaRequest backend state request' recvs') := by
    rw [handleOtaRequest, handleOtaRequest, equal]
    exact .refl _
  by_cases allowed : otaUploadAllowed backend.otaUpload = true
  · by_cases hasLength : request.hasContentLength = true
    · have hasLength' : request'.hasContentLength = true := same.hasContentLength ▸ hasLength
      cases begun : backend.otaResults.otaUpdateBegin with
      | some err =>
        apply turnedAway
        have total := arrives.buffered_le hasLength
        have total' := arrives'.buffered_le hasLength'
        have within : ¬ request.contentLength < request.body.length := by omega
        have within' : ¬ request'.contentLength < request'.body.length := by omega
        rw [handleOtaUpload, handleOtaUpload, allowed, hasLength, hasLength', if_neg within,
          if_neg within', begun, same.contentLength]
      | none =>
        obtain ⟨writes, whole, calls⟩ :=
          handleOtaUpload_complete written arrives allowed hasLength begun
        obtain ⟨writes', whole', calls'⟩ :=
          handleOtaUpload_complete written arrives' allowed hasLength' begun
        constructor
        · simp only [handleOtaRequest, calls, calls', List.filterMap_append, List.filterMap_cons,
            filterMap_otaResponse_writeCalls, otaResponse]
        · rfl
        · rfl
        · simp only [handleOtaRequest, calls, calls', passedBytes_uploaded, whole, whole']
        · rfl
        · rfl
    · apply turnedAway
      have absent' : ¬ request'.hasContentLength = true := same.hasContentLength ▸ hasLength
      rw [Bool.not_eq_true] at hasLength absent'
      rw [handleOtaUpload, handleOtaUpload, allowed, hasLength, absent']
      rfl
  · apply turnedAway
    rw [Bool.not_eq_true] at allowed
    rw [handleOtaUpload, handleOtaUpload, allowed]
    rfl

theorem handleConfigPost_complete (backend : WebBackend) (state : WebState)
    (same : SameHead request request')
    (arrives : BodyArrives body request recvs) (arrives' : BodyArrives body request' recvs') :
    handleConfigPost backend state request recvs =
      handleConfigPost backend state request' recvs' := by
  by_cases hasLength : request.hasContentLength = true
  · obtain ⟨update, read⟩ := handleConfigUpdate_complete same arrives arrives' hasLength
      backend.jsonObjParse backend.saveRet state.config
    rw [handleConfigPost, handleConfigPost, update, read]
  · -- No setter is called, so the body is not looked at.
    have absent' : ¬ request'.hasContentLength = true := same.hasContentLength ▸ hasLength
    simp only [Bool.not_eq_true] at hasLength absent'
    simp only [handleConfigPost, handleConfigUpdate, hasLength, absent', Bool.not_false, if_true,
      Option.map_some, answered, setterCalls, List.filterMap_nil]

theorem handleConfigPost_isSome (backend : WebBackend) (state : WebState) (request : HttpRequest)
    (recvs : List WebRecv) : (handleConfigPost backend state request recvs).isSome := by
  obtain ⟨update, run, -⟩ := handleConfigUpdate_total backend.jsonObjParse request recvs
    backend.saveRet state.config
  rw [handleConfigPost, run]
  rfl

/-- Both runs are answered, and alike. -/
def AnsweredAlike (run run' : Option ClientAnswer) : Prop :=
  ∃ answer answer', run = some answer ∧ run' = some answer' ∧ SameAnswer answer answer'

theorem AnsweredAlike.of_eq {run run' : Option ClientAnswer} (equal : run = run')
    (isSome : run.isSome) : AnsweredAlike run run' := by
  obtain ⟨answer, done⟩ := Option.isSome_iff_exists.mp isSome
  exact ⟨answer, answer, done, equal ▸ done, .refl answer⟩

theorem handleRequest_complete (state : WebState)
    (written : ∀ i, backend.otaResults.otaUpdateWrite i = none) {request request' : ParsedRequest}
    (method : request.method = request'.method) (path : request.path = request'.path)
    (same : SameHead request.toHttpRequest request'.toHttpRequest)
    (arrives : BodyArrives body request.toHttpRequest recvs)
    (arrives' : BodyArrives body request'.toHttpRequest recvs') :
    AnsweredAlike (handleRequest backend state request recvs)
      (handleRequest backend state request' recvs') := by
  rw [handleRequest, handleRequest, method, path]
  split_ifs
  · exact .of_eq rfl rfl
  · rw [handlePost, handlePost, path]
    split_ifs
    · exact ⟨_, _, rfl, rfl, handleOtaRequest_complete state written same arrives arrives'⟩
    · exact .of_eq (handleConfigPost_complete backend state same arrives arrives')
        (handleConfigPost_isSome backend state _ _)
    · exact .of_eq rfl rfl
    · exact .of_eq rfl rfl
    · exact .of_eq rfl rfl
  · exact .of_eq rfl rfl

theorem handleClient_complete (state : WebState)
    (written : ∀ i, backend.otaResults.otaUpdateWrite i = none) (isHead : IsHead head)
    (fits : head.length ≤ webAppRxBufSize)
    (announced : ∀ parsed, parseHttpHead head = .ok parsed → parsed.hasContentLength = true →
      body.length = parsed.contentLength)
    (undisturbed : Undisturbed recvs) (undisturbed' : Undisturbed recvs')
    (bytes : pendingBytes recvs = head ++ body) (bytes' : pendingBytes recvs' = head ++ body) :
    AnsweredAlike (handleClient backend state recvs) (handleClient backend state recvs') := by
  have unfinished : RequestBuffer.empty.received.length < head.length :=
    lt_of_lt_of_le (by decide) isHead.1.length_le
  have nothing (recvs : List WebRecv) :
      RequestBuffer.empty.received ++ pendingBytes recvs = pendingBytes recvs := rfl
  -- Both reads end with the head complete, and differ in where the body begins.
  obtain ⟨front, rest, room, read, stream, later⟩ :=
    readHttpRequest_head isHead fits undisturbed ((nothing recvs).trans bytes) unfinished
  obtain ⟨front', rest', room', read', stream', later'⟩ :=
    readHttpRequest_head isHead fits undisturbed' ((nothing recvs').trans bytes') unfinished
  rw [handleClient, handleClient, read, read']
  split_ifs
  · exact .of_eq rfl rfl
  · cases result : parseHttpHead head with
    | error err => exact .of_eq rfl rfl
    | ok parsed =>
      exact handleRequest_complete state written rfl rfl ⟨rfl, rfl, rfl⟩
        ⟨stream, later, announced parsed result⟩ ⟨stream', later', announced parsed result⟩

end TwoRuns

/-- The handling of a request does not depend on how its bytes are split. Its head fits
the buffer, and behind it stand as many bytes as it announces. Two connections deliver
them in pieces of any size, with interruptions. If the OTA writes succeed, both are sent
the same bytes, make the same calls to the configuration with the same results, pass on
the same image, and leave the same state. What the other calls return may be anything. -/
theorem request_handling_ignores_splits (backend : WebBackend) (state : WebState)
    (written : ∀ i, backend.otaResults.otaUpdateWrite i = none) {head body : List UInt8}
    (isHead : IsHead head) (fits : head.length ≤ webAppRxBufSize)
    (announced : ∀ parsed, parseHttpHead head = .ok parsed → parsed.hasContentLength = true →
      body.length = parsed.contentLength)
    {recvs recvs' : List WebRecv} (undisturbed : Undisturbed recvs)
    (undisturbed' : Undisturbed recvs') (bytes : pendingBytes recvs = head ++ body)
    (bytes' : pendingBytes recvs' = head ++ body) :
    ∃ answer answer', handleClient backend state recvs = some answer ∧
      handleClient backend state recvs' = some answer' ∧
      answer.sent = answer'.sent ∧ answer.configCalls = answer'.configCalls ∧
      passedBytes answer.otaCalls = passedBytes answer'.otaCalls ∧
      answer.state = answer'.state := by
  obtain ⟨answer, answer', run, run', same⟩ := handleClient_complete state written isHead fits
    announced undisturbed undisturbed' bytes bytes'
  refine ⟨answer, answer', run, run', ?_, same.configCalls, same.image, same.state⟩
  rw [ClientAnswer.sent, ClientAnswer.sent, same.responses]

/-- A build with uploads whose calls all succeed. -/
def sampleBackend : WebBackend where
  otaUpload := ⟨true, true⟩
  settingsMaxNameLen := sampleBuild.settingsMaxNameLen
  appVersion := "1.0.0"
  assets := ⟨[], [], []⟩
  errnoCode _ := 0
  jsonObjParse _ := .failed
  setReceiveTimeout := none
  telemetryInputs := ⟨⟨0, 0, 0, 0, 0, 0, 0, 0, 0, 0, 0, 0, 0⟩, false, .zeroed _, false, 0⟩
  nowMs := 0
  otaStatus := otaRuntimeZero.status
  otaResults := ⟨none, fun _ => none, none⟩
  saveRet _ := none
  resetOrder := storageOrder
  deleteRet _ := none

def sampleState : WebState where
  config := boot sampleBuild.defaults storageOrder ∅
  telemetry := ⟨0, 0, false⟩

def uploadHead : List UInt8 :=
  ascii "POST /api/ota/upload HTTP/1.1\r\nContent-Length: 5\r\n\r\n"

def uploadBody : List UInt8 := [1, 2, 3, 4, 5]

/-- The upload in one piece. -/
def uploadWhole : List WebRecv := [.received (uploadHead ++ uploadBody)]

/-- The upload cut inside the blank line and in the body, with interruptions. -/
def uploadCut : List WebRecv :=
  [.error .eintr, .received (uploadHead.take 51), .received (uploadHead.drop 51 ++ [1, 2]),
    .error .eintr, .received [3], .received [4, 5]]

theorem request_handling_ignores_splits_upload :
    ∃ answer answer', handleClient sampleBackend sampleState uploadWhole = some answer ∧
      handleClient sampleBackend sampleState uploadCut = some answer' ∧
      answer.sent = answer'.sent ∧ answer.configCalls = answer'.configCalls ∧
      passedBytes answer.otaCalls = passedBytes answer'.otaCalls ∧
      answer.state = answer'.state := by
  have head : IsHead uploadHead := by
    unfold IsHead
    decide +kernel
  have parsed : parseHttpHead uploadHead =
      .ok ⟨ascii "POST", ascii "/api/ota/upload", true, 5⟩ := by
    decide +kernel
  refine @request_handling_ignores_splits sampleBackend sampleState (fun _ => rfl) _ uploadBody head
    (by decide) ?_ _ _ (by unfold Undisturbed; decide) (by unfold Undisturbed; decide) rfl rfl
  intro other same _
  rw [parsed] at same
  obtain rfl := Except.ok.inj same
  rfl

end EspNmeaBridge
