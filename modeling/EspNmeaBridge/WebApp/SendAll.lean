/-
# A status page confirms the image only when it was sent

`send_all` repeats `web_send` until the socket has taken everything, and reports what
stopped it as `-errno`. A call that takes nothing sets no `errno`, so what is reported then is
whatever an earlier call left there; and where that is zero, the loop reports success with
bytes still unsent. The self check after `GET /api/status` hangs on this report.
-/

import EspNmeaBridge.WebApp.StatusJson

namespace EspNmeaBridge

open CString

/-- The size of `header` in `write_response_header`. -/
def webAppHeaderBufSize : ℕ := 192

/-- The header of a response, with the length of its body. -/
def HttpResponse.header (response : HttpResponse) : List UInt8 :=
  responseHeader response.status response.contentType response.body.length

namespace WebApp

/-- What one `web_send` returns, and `errno` as it stands behind the call. -/
structure SendResult where
  sent : ℤ
  errno : ℤ
  deriving DecidableEq, Repr

/-- A finished run of sends: its return value, the bytes the socket accepted, and the
results no call has used yet. -/
structure SendOutcome where
  ret : ℤ
  accepted : List UInt8
  rest : List SendResult
  deriving DecidableEq, Repr

/-- The same outcome behind bytes accepted before. -/
def SendOutcome.after (outcome : SendOutcome) (earlier : List UInt8) : SendOutcome :=
  { outcome with accepted := earlier ++ outcome.accepted }

@[simp] theorem SendOutcome.after_ret (outcome : SendOutcome) (earlier : List UInt8) :
    (outcome.after earlier).ret = outcome.ret := rfl

@[simp] theorem SendOutcome.after_accepted (outcome : SendOutcome) (earlier : List UInt8) :
    (outcome.after earlier).accepted = earlier ++ outcome.accepted := rfl

@[simp] theorem SendOutcome.after_rest (outcome : SendOutcome) (earlier : List UInt8) :
    (outcome.after earlier).rest = outcome.rest := rfl

section

variable (errnoCode : Errno → ℕ)

/-- `send_all`, on the results `web_send` gives; `none` while it still waits for one. -/
def sendAll : List SendResult → List UInt8 → Option SendOutcome
  | results, [] => some ⟨0, [], results⟩
  | [], _ :: _ => none
  | result :: results, byte :: data =>
    if 0 < result.sent then
      -- a count beyond what was asked for would end the loop as well
      (sendAll results ((byte :: data).drop result.sent.toNat)).map
        (·.after ((byte :: data).take result.sent.toNat))
    else if result.sent < 0 ∧ result.errno = errnoCode .eintr then
      sendAll results (byte :: data)
    else some ⟨-result.errno, [], results⟩

/-- The text is taken as printed in full: `statusHeader_fits` for the responses below. -/
def writeResponseHeader (results : List SendResult) (status contentType : String)
    (contentLen : ℕ) : Option SendOutcome :=
  let header := responseHeader status contentType contentLen
  if header.length ≤ 0 then some ⟨-errnoCode .einval, [], results⟩
  else sendAll errnoCode results header

def writeTextResponse (results : List SendResult) (response : HttpResponse) :
    Option SendOutcome :=
  (writeResponseHeader errnoCode results response.status response.contentType
    response.body.length).bind fun header =>
      if header.ret ≠ 0 then some header
      else (sendAll errnoCode header.rest response.body).map (·.after header.accepted)

/-- What is left of `GET /api/status` once its response is printed: the sends, and whether
the self check is called behind them. -/
def sendStatus (results : List SendResult) (status : HttpResponse × Bool) :
    Option (SendOutcome × Bool) :=
  (writeTextResponse errnoCode results status.1).map fun outcome =>
    (outcome, status.2 && outcome.ret == 0)

/-! ## Where the loop stops -/

/-- A result behind which the loop goes on. -/
def Progress (result : SendResult) : Prop :=
  0 < result.sent ∨ result.sent < 0 ∧ result.errno = errnoCode .eintr

/-- The bytes a row of results takes. -/
def takenBy (results : List SendResult) : ℕ := (results.map (·.sent.toNat)).sum

@[simp] theorem takenBy_nil : takenBy [] = 0 := rfl

@[simp] theorem takenBy_cons (result : SendResult) (results : List SendResult) :
    takenBy (result :: results) = result.sent.toNat + takenBy results := by
  simp [takenBy]

/-- The loop is still asking behind these results: none stopped it, and bytes are left. -/
def UnderWay (front : List SendResult) (len : ℕ) : Prop :=
  (∀ result ∈ front, Progress errnoCode result) ∧ takenBy front < len

/-- The loop ends behind these results, and not before, because everything is taken. -/
def Takes (front : List SendResult) (len : ℕ) : Prop :=
  (∀ result ∈ front, Progress errnoCode result) ∧ len ≤ takenBy front ∧
    ∀ earlier last, front = earlier ++ [last] → takenBy earlier < len

/-- Whatever stops the loop before everything is taken leaves an `errno` that says so. -/
def NoSilentStop (results : List SendResult) (len : ℕ) : Prop :=
  ∀ front result back, results = front ++ result :: back → UnderWay errnoCode front len →
    ¬Progress errnoCode result → result.errno ≠ 0

variable {errnoCode}

theorem underWay_nil {len : ℕ} : UnderWay errnoCode [] len ↔ 0 < len := by
  simp [UnderWay]

theorem underWay_cons {result : SendResult} {front : List SendResult} {len : ℕ} :
    UnderWay errnoCode (result :: front) len ↔
      Progress errnoCode result ∧ result.sent.toNat < len ∧
        UnderWay errnoCode front (len - result.sent.toNat) := by
  simp only [UnderWay, List.forall_mem_cons, takenBy_cons]
  constructor
  · rintro ⟨⟨first, others⟩, less⟩
    exact ⟨first, by omega, others, by omega⟩
  · rintro ⟨first, -, others, less⟩
    exact ⟨⟨first, others⟩, by omega⟩

theorem takes_nil {len : ℕ} : Takes errnoCode [] len ↔ len = 0 := by
  simp [Takes]

/-- A loop that asked at all had something to send. -/
theorem Takes.asked {result : SendResult} {front : List SendResult} {len : ℕ}
    (takes : Takes errnoCode (result :: front) len) : 0 < len := by
  have split := List.dropLast_append_getLast (List.cons_ne_nil result front)
  exact lt_of_le_of_lt (Nat.zero_le _) (takes.2.2 _ _ split.symm)

theorem takes_cons {result : SendResult} {front : List SendResult} {len : ℕ} (asked : 0 < len) :
    Takes errnoCode (result :: front) len ↔
      Progress errnoCode result ∧ Takes errnoCode front (len - result.sent.toNat) := by
  simp only [Takes, List.forall_mem_cons, takenBy_cons]
  constructor
  · rintro ⟨⟨first, others⟩, enough, shorter⟩
    refine ⟨first, others, by omega, ?_⟩
    rintro earlier last rfl
    have less := shorter (result :: earlier) last rfl
    rw [takenBy_cons] at less
    omega
  · rintro ⟨first, others, enough, shorter⟩
    refine ⟨⟨first, others⟩, by omega, ?_⟩
    rintro (_ | ⟨head, earlier⟩) last split
    · simpa using asked
    · obtain ⟨rfl, rfl⟩ := List.cons.inj split
      have less := shorter earlier last rfl
      rw [takenBy_cons]
      omega

/-! ## What the loop returns -/

@[simp] theorem sendAll_nil (results : List SendResult) :
    sendAll errnoCode results [] = some ⟨0, [], results⟩ := by
  cases results <;> rfl

theorem sendAll_waits {data : List UInt8} (asked : 0 < data.length) :
    sendAll errnoCode [] data = none := by
  obtain ⟨byte, rest, rfl⟩ := List.exists_cons_of_length_pos asked
  rfl

theorem sendAll_progress {result : SendResult} (results : List SendResult) {data : List UInt8}
    (asked : 0 < data.length) (progress : Progress errnoCode result) :
    sendAll errnoCode (result :: results) data =
      (sendAll errnoCode results (data.drop result.sent.toNat)).map
        (·.after (data.take result.sent.toNat)) := by
  obtain ⟨byte, rest, rfl⟩ := List.exists_cons_of_length_pos asked
  rw [sendAll]
  rcases progress with took | ⟨failed, interrupted⟩
  · rw [if_pos took]
  · -- an interrupted call takes nothing and asks for the same bytes again
    have none_taken : result.sent.toNat = 0 := Int.toNat_of_nonpos (by omega)
    have same : (fun outcome : SendOutcome => outcome.after []) = id := rfl
    rw [if_neg (by omega), if_pos ⟨failed, interrupted⟩, none_taken, List.drop_zero,
      List.take_zero, same, Option.map_id, id]

theorem sendAll_stopped {result : SendResult} (results : List SendResult) {data : List UInt8}
    (asked : 0 < data.length) (stops : ¬Progress errnoCode result) :
    sendAll errnoCode (result :: results) data = some ⟨-result.errno, [], results⟩ := by
  obtain ⟨byte, rest, rfl⟩ := List.exists_cons_of_length_pos asked
  rw [Progress, not_or] at stops
  rw [sendAll]
  rw [if_neg stops.1, if_neg stops.2]

/-- Everything taken: the loop reports success, and the bytes went out in order. -/
theorem sendAll_of_takes {front : List SendResult} (back : List SendResult) {data : List UInt8}
    (takes : Takes errnoCode front data.length) :
    sendAll errnoCode (front ++ back) data = some ⟨0, data, back⟩ := by
  induction front generalizing data with
  | nil =>
    obtain rfl := List.eq_nil_of_length_eq_zero (takes_nil.mp takes)
    exact sendAll_nil back
  | cons result front ih =>
    have asked := takes.asked
    obtain ⟨progress, others⟩ := (takes_cons asked).mp takes
    rw [← List.length_drop] at others
    rw [List.cons_append, sendAll_progress _ asked progress, ih others, Option.map_some,
      SendOutcome.after, List.take_append_drop]

/-- Stopped under way: what the loop reports is the `errno` left there. -/
theorem sendAll_of_stop {front : List SendResult} {result : SendResult}
    (back : List SendResult) {data : List UInt8}
    (underWay : UnderWay errnoCode front data.length) (stops : ¬Progress errnoCode result) :
    sendAll errnoCode (front ++ result :: back) data =
      some ⟨-result.errno, data.take (takenBy front), back⟩ := by
  induction front generalizing data with
  | nil =>
    rw [List.nil_append, sendAll_stopped back (underWay_nil.mp underWay) stops, takenBy_nil,
      List.take_zero]
  | cons head front ih =>
    have asked : 0 < data.length := lt_of_le_of_lt (Nat.zero_le _) underWay.2
    obtain ⟨progress, -, others⟩ := underWay_cons.mp underWay
    rw [← List.length_drop] at others
    rw [List.cons_append, sendAll_progress _ asked progress, ih others, Option.map_some,
      SendOutcome.after, takenBy_cons, List.take_add]

/-- The loop returns in one of these two ways. -/
theorem sendAll_cases {results : List SendResult} {data : List UInt8} {outcome : SendOutcome}
    (sent : sendAll errnoCode results data = some outcome) :
    (∃ front, results = front ++ outcome.rest ∧ Takes errnoCode front data.length ∧
      outcome.ret = 0 ∧ outcome.accepted = data) ∨
    ∃ front result, results = front ++ result :: outcome.rest ∧
      UnderWay errnoCode front data.length ∧ ¬Progress errnoCode result ∧
      outcome.ret = -result.errno ∧ outcome.accepted = data.take (takenBy front) := by
  induction results generalizing data outcome with
  | nil =>
    rcases data.length.eq_zero_or_pos with empty | asked
    · obtain rfl := List.eq_nil_of_length_eq_zero empty
      rw [sendAll_nil] at sent
      obtain rfl := Option.some.inj sent
      exact .inl ⟨[], rfl, takes_nil.mpr rfl, rfl, rfl⟩
    · rw [sendAll_waits asked] at sent
      cases sent
  | cons result results ih =>
    rcases data.length.eq_zero_or_pos with empty | asked
    · obtain rfl := List.eq_nil_of_length_eq_zero empty
      rw [sendAll_nil] at sent
      obtain rfl := Option.some.inj sent
      exact .inl ⟨[], rfl, takes_nil.mpr rfl, rfl, rfl⟩
    by_cases progress : Progress errnoCode result
    · rw [sendAll_progress results asked progress, Option.map_eq_some_iff] at sent
      obtain ⟨later, sent, rfl⟩ := sent
      -- the result joins the front of whichever way the remaining bytes went
      rcases ih sent with ⟨front, rfl, takes, ret, all⟩ |
        ⟨front, last, rfl, underWay, stops, ret, part⟩
      · refine .inl ⟨result :: front, rfl, (takes_cons asked).mpr ⟨progress, ?_⟩, ret, ?_⟩
        · rwa [List.length_drop] at takes
        · rw [SendOutcome.after_accepted, all, List.take_append_drop]
      · rw [List.length_drop] at underWay
        refine .inr ⟨result :: front, last, rfl, ?_, stops, ret, ?_⟩
        · exact underWay_cons.mpr ⟨progress, by have := underWay.2; omega, underWay⟩
        · rw [SendOutcome.after_accepted, part, takenBy_cons, List.take_add]
    · rw [sendAll_stopped results asked progress] at sent
      obtain rfl := Option.some.inj sent
      exact .inr ⟨[], result, rfl, underWay_nil.mpr asked, progress, rfl, rfl⟩

/-! ## When the report can be trusted -/

variable (errnoCode) in
/-- Zero is returned only with everything accepted, in order. -/
def ReportsTruly (results : List SendResult) (data : List UInt8) : Prop :=
  ∀ outcome, sendAll errnoCode results data = some outcome → outcome.ret = 0 →
    outcome.accepted = data

theorem reportsTruly_iff {results : List SendResult} {data : List UInt8} :
    ReportsTruly errnoCode results data ↔ NoSilentStop errnoCode results data.length := by
  constructor
  · rintro truly front result back rfl underWay stops silent
    have sent := sendAll_of_stop back underWay stops
    have all := truly _ sent (by rw [silent, neg_zero])
    have short := congrArg List.length all
    rw [List.length_take, min_eq_left underWay.2.le] at short
    exact absurd short underWay.2.ne
  · intro spoken outcome sent ret
    rcases sendAll_cases sent with ⟨front, -, -, -, all⟩ |
      ⟨front, result, split, underWay, stops, reported, -⟩
    · exact all
    · have := spoken front result outcome.rest split underWay stops
      omega

theorem responseHeader_length_pos (status contentType : String) (contentLen : ℕ) :
    0 < (responseHeader status contentType contentLen).length := by
  have text : 0 < (ascii "HTTP/1.1 ").length := by decide
  simp only [responseHeader, List.length_append]
  omega

theorem writeResponseHeader_eq (results : List SendResult) (status contentType : String)
    (contentLen : ℕ) :
    writeResponseHeader errnoCode results status contentType contentLen =
      sendAll errnoCode results (responseHeader status contentType contentLen) := by
  have printed := responseHeader_length_pos status contentType contentLen
  rw [writeResponseHeader, if_neg (by omega)]

variable (errnoCode) in
/-- Each of the two `send_all` calls a response makes reports truly: the one for the header,
and, where the header went out, the one for the body. -/
def ResponseReportsTruly (results : List SendResult) (response : HttpResponse) : Prop :=
  ReportsTruly errnoCode results response.header ∧
    ∀ sent, writeResponseHeader errnoCode results response.status response.contentType
        response.body.length = some sent → sent.ret = 0 →
      ReportsTruly errnoCode sent.rest response.body

variable (errnoCode) in
/-- Neither the header nor the body behind it meets a silent stop. -/
def NoSilentStopInResponse (results : List SendResult) (headerLen bodyLen : ℕ) : Prop :=
  NoSilentStop errnoCode results headerLen ∧
    ∀ front back, results = front ++ back → Takes errnoCode front headerLen →
      NoSilentStop errnoCode back bodyLen

theorem responseReportsTruly_iff {results : List SendResult} {response : HttpResponse} :
    ResponseReportsTruly errnoCode results response ↔
      NoSilentStopInResponse errnoCode results response.header.length
        response.body.length := by
  rw [ResponseReportsTruly, NoSilentStopInResponse, reportsTruly_iff, writeResponseHeader_eq]
  refine and_congr_right fun spoken => ?_
  constructor
  · rintro truly front back rfl takes
    exact reportsTruly_iff.mp (truly ⟨0, response.header, back⟩ (sendAll_of_takes back takes) rfl)
  · intro body sent header ret
    rw [reportsTruly_iff]
    rcases sendAll_cases header with ⟨front, split, takes, -, -⟩ |
      ⟨front, result, split, underWay, stops, reported, -⟩
    · exact body front sent.rest split takes
    · -- a header stopped with an error number does not come back as zero
      have := spoken front result sent.rest split underWay stops
      omega

/-- A response both calls report truly is reported as sent only when it was sent. -/
theorem writeTextResponse_accepted {results : List SendResult} {response : HttpResponse}
    {outcome : SendOutcome} (truly : ResponseReportsTruly errnoCode results response)
    (sent : writeTextResponse errnoCode results response = some outcome)
    (ret : outcome.ret = 0) : outcome.accepted = response.bytes := by
  obtain ⟨header, headerSent, sent⟩ := Option.bind_eq_some_iff.mp sent
  have headerEq := headerSent
  rw [writeResponseHeader_eq] at headerEq
  split_ifs at sent with failed
  · obtain rfl := Option.some.inj sent
    exact absurd ret failed
  · rw [not_not] at failed
    obtain ⟨body, bodySent, rfl⟩ := Option.map_eq_some_iff.mp sent
    have whole := truly.1 header headerEq failed
    have rest := truly.2 header headerSent failed body bodySent ret
    rw [SendOutcome.after_accepted, whole, rest]
    rfl

/-- When the socket takes everything, the response goes out whole, and the self check is
called for the response it belongs to. -/
theorem sendStatus_of_takes {front middle : List SendResult} (back : List SendResult)
    (status : HttpResponse × Bool) (header : Takes errnoCode front status.1.header.length)
    (body : Takes errnoCode middle status.1.body.length) :
    sendStatus errnoCode (front ++ (middle ++ back)) status =
      some (⟨0, status.1.bytes, back⟩, status.2) := by
  have headerSent := sendAll_of_takes (middle ++ back) header
  have bodySent := sendAll_of_takes back body
  rw [HttpResponse.header] at headerSent
  rw [sendStatus, writeTextResponse, writeResponseHeader_eq, headerSent, Option.bind_some,
    if_neg (not_not.mpr rfl), bodySent]
  simp [SendOutcome.after, HttpResponse.bytes]

/-- The headers of `GET /api/status` fit the buffer they are printed into. -/
theorem statusHeader_fits (appVersion : String) (snapshot : BridgeTelemetrySnapshot)
    (otaStatus : OtaUpdateStatus) (cfg : OtaUploadKconfig) :
    (writeStatusJson appVersion snapshot otaStatus cfg errnoCode).1.header.length <
      webAppHeaderBufSize := by
  have digits : ∀ n < webAppJsonBufSize, (decimal n).length ≤ 4 :=
    fun _ fits => decimal_length_le (by decide) (fits.trans (by decide))
  have start : (ascii "HTTP/1.1 ").length = 9 := by simp [ascii]
  have type : (ascii "\r\nContent-Type: ").length = 16 := by simp [ascii]
  have length : (ascii "\r\nContent-Length: ").length = 18 := by simp [ascii]
  have ending : (ascii "\r\nConnection: close\r\nCache-Control: no-store\r\n\r\n").length =
    48 := by simp [ascii]
  have json : (ascii "application/json").length = 16 := by simp [ascii]
  rw [writeStatusJson]
  split_ifs with long
  · have short : (ascii "\x7b\"error\":\"status payload exceeds buffer\"\x7d\n").length <
        webAppJsonBufSize := by
      decide
    have bound := digits _ short
    have status : (ascii "500 Internal Server Error").length = 25 := by simp [ascii]
    simp only [HttpResponse.header, textResponse, responseHeader, List.length_append]
    rw [webAppHeaderBufSize]
    omega
  · have bound := digits _ (not_le.mp long)
    have status : (ascii "200 OK").length = 6 := by simp [ascii]
    simp only [HttpResponse.header, responseHeader, List.length_append]
    rw [webAppHeaderBufSize]
    omega

/-- The self check belongs to a 200 response only. -/
theorem writeStatusJson_ok {appVersion : String} {snapshot : BridgeTelemetrySnapshot}
    {otaStatus : OtaUpdateStatus} {cfg : OtaUploadKconfig}
    (checks : (writeStatusJson appVersion snapshot otaStatus cfg errnoCode).2 = true) :
    (writeStatusJson appVersion snapshot otaStatus cfg errnoCode).1.status = "200 OK" := by
  revert checks
  rw [writeStatusJson]
  split
  · exact fun checks => absurd checks Bool.false_ne_true
  · exact fun _ => rfl

end

/-- The self check is called only behind a 200 response accepted whole. -/
def ChecksAfterAccepted (errnoCode : Errno → ℕ) (results : List SendResult)
    (status : HttpResponse × Bool) : Prop :=
  ∀ outcome, sendStatus errnoCode results status = some (outcome, true) →
    status.1.status = "200 OK" ∧ outcome.accepted = status.1.bytes

theorem checksAfterAccepted_iff {errnoCode : Errno → ℕ} {results : List SendResult}
    {status : HttpResponse × Bool} (belongs : status.2 = true → status.1.status = "200 OK") :
    (ResponseReportsTruly errnoCode results status.1 ∧
        ChecksAfterAccepted errnoCode results status) ↔
      NoSilentStopInResponse errnoCode results status.1.header.length
        status.1.body.length := by
  rw [← responseReportsTruly_iff]
  refine ⟨And.left, fun truly => ⟨truly, fun outcome sent => ?_⟩⟩
  obtain ⟨written, response, same⟩ := Option.map_eq_some_iff.mp sent
  obtain ⟨rfl, checked⟩ := Prod.mk.inj same
  rw [Bool.and_eq_true, beq_iff_eq] at checked
  exact ⟨belongs checked.1, writeTextResponse_accepted truly response checked.2⟩

/-- `send_all` returns zero only with everything accepted, exactly when no result stops it
before that with an `errno` of zero; and both calls of `GET /api/status` do so, with the self
check called only behind a 200 response accepted whole, exactly when neither the header nor
the body meets such a result. -/
theorem self_check_after_accepted_response_iff (errnoCode : Errno → ℕ)
    (results : List SendResult) :
    (∀ data, ReportsTruly errnoCode results data ↔
      NoSilentStop errnoCode results data.length) ∧
    ∀ (appVersion : String) (snapshot : BridgeTelemetrySnapshot) (otaStatus : OtaUpdateStatus)
      (cfg : OtaUploadKconfig),
      let status := writeStatusJson appVersion snapshot otaStatus cfg errnoCode
      (ResponseReportsTruly errnoCode results status.1 ∧
        ChecksAfterAccepted errnoCode results status) ↔
      NoSilentStopInResponse errnoCode results status.1.header.length
        status.1.body.length :=
  ⟨fun _ => reportsTruly_iff, fun _ _ _ _ => checksAfterAccepted_iff writeStatusJson_ok⟩

/-- A snapshot with everything quiet. -/
def quietSnapshot : BridgeTelemetrySnapshot where
  connectionState := .disconnected
  inputState := .idle
  warnings := ⟨false, false⟩
  staReady := false
  staIpv4 := .zeroed _
  staRssiValid := false
  staRssiDbm := 0
  counters := ⟨0, 0, 0, 0, 0, 0, 0, 0, 0, 0, 0, 0, 0⟩

/-- The numbers of `EINTR` and `EINVAL`, and for every other error that of `EIO`. -/
def sampleErrnoCode : Errno → ℕ
  | .eintr => 4
  | .einval => 22
  | _ => 5

/-- Two sends that take nothing while `errno` is zero: the self check is called, and the
socket has not accepted a byte. -/
theorem self_check_with_nothing_accepted :
    ¬ReportsTruly sampleErrnoCode [⟨0, 0⟩] (ascii "HTTP/1.1 200 OK") ∧
    ¬ChecksAfterAccepted sampleErrnoCode [⟨0, 0⟩, ⟨0, 0⟩]
      (writeStatusJson "1.0.0" quietSnapshot otaRuntimeZero.status ⟨true, true⟩
        sampleErrnoCode) := by
  constructor
  · intro truly
    have all := truly ⟨0, [], []⟩ (by decide) rfl
    exact absurd all (by decide)
  · intro whole
    have called := (whole ⟨0, [], []⟩ (by decide +kernel)).2
    have nothing := (List.append_eq_nil_iff.mp called.symm).1
    exact (responseHeader_length_pos _ _ _).ne' (congrArg List.length nothing)

end WebApp

end EspNmeaBridge
