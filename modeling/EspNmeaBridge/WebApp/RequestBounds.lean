/-
# Reception inside the buffer

The offsets come from the network. How much of the array is free, where the body begins and
how much of it is missing are differences of such offsets, and one of them that wrapped
would have the socket write past the array. None does: each is taken where a comparison
made before keeps it from wrapping. The body ends before the last byte of the array, since
the decoder writes one byte behind it.
-/

import EspNmeaBridge.WebApp.RequestMemory

namespace EspNmeaBridge

open CString Pattern ByteMemory

section ReadHead

variable {gathered : List UInt8} {run : Accessed (Except Errno HttpRequestAt)}

theorem ReadsHead.stays (reads : ReadsHead gathered run) : StaysInside run.accesses := by
  cases reads with
  | gaveUp length stays noHead => exact stays
  | @parsed memory received headerEnd accesses length fits arrived found each =>
    have parses := parseHttpRequestAt_gathered length fits found
    have inside := find_add_length_le found
    rw [List.length_take, length] at inside
    have within : headerEnd + 4 ≤ min received webAppRxBufSize := inside
    rw [Accessed.after, List.append_assoc]
    apply StaysInside.append each
    have nul : RequestAccess.Inside (.terminate (headerEnd + 2)) := by
      rw [RequestAccess.Inside]
      omega
    exact .cons nul rfl (.of_each fun access member =>
      ⟨(parses.each access member).1, (parses.each access member).2.1⟩)

theorem ReadsHead.length (reads : ReadsHead gathered run) :
    run.memory.length = webAppRxBufSize := by
  cases reads with
  | gaveUp length stays noHead => exact length
  | parsed length fits arrived found each =>
    exact (parseHttpRequestAt_gathered length fits found).length

/-- A parsed request lies in the array. -/
theorem ReadsHead.fits (reads : ReadsHead gathered run) {parsed : HttpRequestAt}
    (ok : run.value = .ok parsed) : parsed.body + parsed.bodyLen ≤ webAppRxBufSize := by
  cases reads with
  | gaveUp length stays noHead => cases ok
  | @parsed memory received headerEnd accesses length fits arrived found each =>
    rw [((parseHttpRequestAt_gathered length fits found).body parsed ok).2.1, List.length_take]
    exact (min_le_left _ _).trans fits

end ReadHead

section ReadBody

variable {memory : Memory} {request : HttpRequestAt} {recvs : List WebRecv}

theorem readRemainingBodyAt_stays (length : memory.length = webAppRxBufSize)
    (begins : request.body ≤ webAppRxBufSize) :
    StaysInside (readRemainingBodyAt memory request recvs).accesses := by
  rw [readRemainingBodyAt_eq memory recvs begins]
  split_ifs with tooLong
  · exact .nil
  · exact (recvBodyAt_receives length (by omega)).stays

/-- A body that was read is complete, and a byte is left behind it. -/
theorem readRemainingBodyAt_complete (length : memory.length = webAppRxBufSize)
    (begins : request.body ≤ webAppRxBufSize) {received : HttpRequestAt}
    (ok : (readRemainingBodyAt memory request recvs).value = .ok received) :
    received = { request with bodyLen := max request.bodyLen request.contentLength } ∧
      request.body + request.contentLength < webAppRxBufSize := by
  rw [readRemainingBodyAt_eq memory recvs begins] at ok
  split_ifs at ok with tooLong
  exact ⟨(recvBodyAt_receives length (by omega)).complete received ok, by omega⟩

theorem handleConfigUpdateAt_stays (length : memory.length = webAppRxBufSize)
    (begins : request.body ≤ webAppRxBufSize) :
    StaysInside (handleConfigUpdateAt memory request recvs).accesses := by
  rw [handleConfigUpdateAt]
  split_ifs
  · exact .nil
  · exact .nil
  · exact .nil
  · exact readRemainingBodyAt_stays length begins

/-- The decoder is called on the announced bytes, all of them received. -/
theorem handleConfigUpdateAt_decodes (length : memory.length = webAppRxBufSize)
    (begins : request.body ≤ webAppRxBufSize) {decoded : HttpRequestAt}
    (called : (handleConfigUpdateAt memory request recvs).value = some decoded) :
    decoded = { request with bodyLen := request.contentLength } ∧
      request.body + request.contentLength < webAppRxBufSize := by
  rw [handleConfigUpdateAt] at called
  split_ifs at called with absent tooLarge exceeds
  dsimp only at called
  cases result : (readRemainingBodyAt memory request recvs).value with
  | error err =>
    rw [result] at called
    cases called
  | ok received =>
    rw [result] at called
    obtain rfl := Option.some.inj called
    obtain ⟨rfl, room⟩ := readRemainingBodyAt_complete length begins result
    rw [max_eq_right (not_lt.mp exceeds)]
    exact ⟨rfl, room⟩

end ReadBody

/-- The reception stays inside the request buffer. Whatever `request` holds at first and the
calls return, the head is received and terminated in it, and a request that was read lies in
it. Behind any head, and for any Content-Length, the body is received in it too; when the
decoder is called, no more was received than announced, and the announced bytes end before
the last byte of the array. Each call asks for something, and is the last access if it
delivers nothing. -/
theorem reception_stays_inside (request : CharArray webAppRxBufSize) (recvs : List WebRecv) :
    (let read := (readHttpRequestAt request.bytes 0 recvs).1
     StaysInside read.accesses ∧ read.memory.length = webAppRxBufSize ∧
      ∀ parsed, read.value = .ok parsed → parsed.body + parsed.bodyLen ≤ webAppRxBufSize) ∧
    ∀ parsed : HttpRequestAt, parsed.body + parsed.bodyLen ≤ webAppRxBufSize →
      StaysInside (readRemainingBodyAt request.bytes parsed recvs).accesses ∧
      StaysInside (handleConfigUpdateAt request.bytes parsed recvs).accesses ∧
      ∀ decoded, (handleConfigUpdateAt request.bytes parsed recvs).value = some decoded →
        decoded.body = parsed.body ∧ decoded.contentLength = parsed.contentLength ∧
          decoded.bodyLen ≤ decoded.contentLength ∧
          decoded.body + decoded.contentLength < webAppRxBufSize := by
  have length := request.size_eq
  constructor
  · have reads := readHttpRequestAt_start request recvs
    exact ⟨reads.stays, reads.length, fun parsed ok => reads.fits ok⟩
  · intro parsed fits
    have begins : parsed.body ≤ webAppRxBufSize := (Nat.le_add_right _ _).trans fits
    refine ⟨readRemainingBodyAt_stays length begins, handleConfigUpdateAt_stays length begins, ?_⟩
    intro decoded called
    obtain ⟨rfl, room⟩ := handleConfigUpdateAt_decodes length begins called
    exact ⟨rfl, rfl, le_rfl, room⟩

/-- A body of five bytes of which two came with the head. -/
def partialRequest : HttpRequestAt where
  method := 0
  methodLen := 4
  path := 5
  pathLen := 11
  contentLength := 5
  hasContentLength := true
  body := 60
  bodyLen := 2

theorem reception_stays_inside_partial :
    let recvs := [.error .eintr, .received [3], .received [4, 5, 6]]
    let update := handleConfigUpdateAt (CharArray.zeroed webAppRxBufSize).bytes partialRequest recvs
    update.value = some { partialRequest with bodyLen := 5 } ∧ StaysInside update.accesses := by
  refine ⟨by decide +kernel, ?_⟩
  exact ((reception_stays_inside (.zeroed webAppRxBufSize) _).2 partialRequest (by decide)).2.1

end EspNmeaBridge
