/-
# TCP NMEA sessions

A session registers a sink, then takes one frame after the other and writes it to
its socket, reading and discarding whatever the peer sends in between. It ends when
the peer closes, a socket call fails or the sink is gone.

The session is a state machine here: its phase says which call it is in, and the
results of the socket calls drive it. The frames it took and the bytes the socket
accepted are recorded beside the phase.
-/

import EspNmeaBridge.NmeaBridge

namespace EspNmeaBridge

variable {cfg : Kconfig}

inductive TcpNmeaSessionResult where
  | endedPeerClosed
  | endedRxFailed
  | endedSendFailed
  | endedSinkUnavailable
  deriving DecidableEq, Repr

/-- What `zsock_recv` returned; how many bytes were read does not matter. -/
inductive RecvResult where
  | received
  | closed
  | error (errno : Errno)
  deriving DecidableEq, Repr

/-- What `zsock_send` returned. -/
inductive SendResult where
  | sent (count : ℕ)
  | error (errno : Errno)
  deriving DecidableEq, Repr

/-- Where `tcp_nmea_session_run` stands. -/
inductive SessionPhase (cfg : Kconfig) where
  /-- The session was not started yet. -/
  | idle
  /-- In `drain_socket_rx`, at the head of the loop or after a sent frame. -/
  | draining (afterSend : Bool)
  /-- Before the checks of `nmea_bridge_sink_take`. -/
  | checking
  /-- In the `k_msgq_get` of `nmea_bridge_sink_take`. -/
  | taking (slot : Fin cfg.nmeaSinksMax)
  /-- In the loop of `send_all`. -/
  | sending (frame : NmeaFrame cfg) (sentTotal : ℕ)
  /-- Before `nmea_bridge_sink_close`. -/
  | closing (result : TcpNmeaSessionResult)
  | ended (result : TcpNmeaSessionResult)

/-- A session with its sink handle, the frames it took and the bytes it delivered. -/
structure Session (cfg : Kconfig) where
  phase : SessionPhase cfg
  sinkId : ℤ
  received : List Frame
  accepted : List UInt8

def sessionIdle : Session cfg where
  phase := .idle
  sinkId := -1
  received := []
  accepted := []

/-- One `zsock_recv` of `drain_socket_rx`. -/
def drainSocketRx (afterSend : Bool) : RecvResult → SessionPhase cfg
  | .received => .draining afterSend
  | .closed => .closing .endedPeerClosed
  | .error errno =>
    -- Nothing more to read: on to the head of the loop, or to the next frame.
    if errno = .eagain ∨ errno = .ewouldblock then
      if afterSend then .draining false else .checking
    else .closing .endedRxFailed

/-- The loop condition of `send_all`; behind the loop the frame was forwarded. -/
def sendAll (frame : NmeaFrame cfg) (sentTotal : ℕ) : SessionPhase cfg :=
  if sentTotal < frame.data.length then .sending frame sentTotal else .draining true

/-- What one `zsock_send` of `send_all` leads to. -/
def sendAllResult (frame : NmeaFrame cfg) (sentTotal : ℕ) : SendResult → SessionPhase cfg
  | .sent count =>
    -- A send that takes nothing counts as failed.
    if 0 < count then sendAll frame (sentTotal + count) else .closing .endedSendFailed
  | .error errno =>
    if errno = .eagain ∨ errno = .ewouldblock ∨ errno = .eintr then .sending frame sentTotal
    else .closing .endedSendFailed

/-- Results of `zsock_send` that end the session. -/
def SendResult.fails : SendResult → Bool
  | .sent count => count == 0
  | .error errno => !(errno == .eagain || errno == .ewouldblock || errno == .eintr)

namespace Session

/-- The peer's bytes are read, or the connection turns out to be over. -/
def recv (session : Session cfg) (result : RecvResult) : Option (Session cfg) :=
  match session.phase with
  | .draining afterSend => some { session with phase := drainSocketRx afterSend result }
  | _ => none

/-- `nmea_bridge_sink_take` passed its checks or failed in them. -/
def checked (session : Session cfg) (result : Except Errno (Fin cfg.nmeaSinksMax)) :
    Option (Session cfg) :=
  match session.phase with
  | .checking =>
    some { session with
      phase :=
        match result with
        | .ok slot => .taking slot
        | .error .enotconn => .closing .endedPeerClosed
        | .error _ => .draining false }
  | _ => none

/-- `k_msgq_get` returned a frame, or nothing within the time. -/
def took (session : Session cfg) (frame : Option (NmeaFrame cfg)) : Session cfg :=
  match frame with
  | some frame =>
    { session with phase := sendAll frame 0, received := session.received ++ [frame.data] }
  | none => { session with phase := .draining false }

/-- The socket accepts no more than it was given. -/
def send (session : Session cfg) (result : SendResult) : Option (Session cfg) :=
  match session.phase with
  | .sending frame sentTotal =>
    let next := { session with phase := sendAllResult frame sentTotal result }
    match result with
    | .sent count =>
      if sentTotal + count ≤ frame.data.length then
        some { next with
          accepted := session.accepted ++ (frame.data.drop sentTotal).take count }
      else none
    | .error _ => some next
  | _ => none

end Session

/-! ## What a call can do -/

namespace Session

variable {session next : Session cfg}

theorem recv_cases {result : RecvResult} (step : session.recv result = some next) :
    ∃ afterSend, session.phase = .draining afterSend ∧
      next = { session with phase := drainSocketRx afterSend result } := by
  unfold recv at step
  split at step
  · rename_i afterSend phase
    exact ⟨afterSend, phase, (Option.some.inj step).symm⟩
  · simp at step

/-- The session takes a frame, ends because its sink is gone, or drains again. -/
theorem checked_cases {result : Except Errno (Fin cfg.nmeaSinksMax)}
    (step : session.checked result = some next) :
    session.phase = .checking ∧
      ((∃ slot, result = .ok slot ∧ next = { session with phase := .taking slot }) ∨
        (result = .error .enotconn ∧ next = { session with phase := .closing .endedPeerClosed }) ∨
        ∃ errno, result = .error errno ∧ errno ≠ .enotconn ∧
          next = { session with phase := .draining false }) := by
  unfold checked at step
  split at step
  · rename_i phase
    refine ⟨phase, ?_⟩
    rw [← Option.some.inj step]
    rcases result with errno | slot
    · by_cases gone : errno = .enotconn
      · subst gone
        exact .inr (.inl ⟨rfl, rfl⟩)
      · refine .inr (.inr ⟨errno, rfl, gone, ?_⟩)
        cases errno <;> first | rfl | exact absurd rfl gone
    · exact .inl ⟨slot, rfl, rfl⟩
  · simp at step

/-- The socket takes some of the bytes that are left, or reports an error. -/
theorem send_cases {result : SendResult} (step : session.send result = some next) :
    ∃ frame sentTotal accepted, session.phase = .sending frame sentTotal ∧
      next = { session with phase := sendAllResult frame sentTotal result, accepted } ∧
      ((∃ count, result = .sent count ∧ sentTotal + count ≤ frame.data.length ∧
          accepted = session.accepted ++ (frame.data.drop sentTotal).take count) ∨
        ∃ errno, result = .error errno ∧ accepted = session.accepted) := by
  unfold send at step
  split at step
  · rename_i frame sentTotal phase
    cases result with
    | sent count =>
      simp only [Option.ite_none_right_eq_some, Option.some.injEq] at step
      exact ⟨frame, sentTotal, _, phase, step.2.symm, .inl ⟨count, rfl, step.1, rfl⟩⟩
    | error errno =>
      exact ⟨frame, sentTotal, _, phase, (Option.some.inj step).symm, .inr ⟨errno, rfl, rfl⟩⟩
  · simp at step

end Session

/-! ## Which phase a call leads to -/

section Phases

variable {session next : Session cfg}

/-- Whether `tcp_nmea_session_run` has left its loop. -/
def SessionPhase.over : SessionPhase cfg → Bool
  | .closing _ | .ended _ => true
  | _ => false

theorem not_taking_sendAll (frame : NmeaFrame cfg) (sentTotal : ℕ) (i : Fin cfg.nmeaSinksMax) :
    sendAll frame sentTotal ≠ .taking i := by
  unfold sendAll
  split_ifs <;> simp

theorem not_taking_recv {result : RecvResult} (step : session.recv result = some next)
    (i : Fin cfg.nmeaSinksMax) : next.phase ≠ .taking i := by
  obtain ⟨afterSend, -, rfl⟩ := Session.recv_cases step
  unfold drainSocketRx
  split <;> (try split_ifs) <;> simp

theorem not_taking_send {result : SendResult} (step : session.send result = some next)
    (i : Fin cfg.nmeaSinksMax) : next.phase ≠ .taking i := by
  have afterwards (frame : NmeaFrame cfg) (sentTotal : ℕ) :
      sendAllResult frame sentTotal result ≠ .taking i := by
    unfold sendAllResult
    split <;> split_ifs <;> first | exact not_taking_sendAll _ _ _ | simp
  obtain ⟨frame, sentTotal, accepted, -, rfl, -⟩ := Session.send_cases step
  exact afterwards frame sentTotal

/-- Only a sink that passed its checks is taken from. -/
theorem eq_of_taking_checked {result : Except Errno (Fin cfg.nmeaSinksMax)}
    (step : session.checked result = some next) {i : Fin cfg.nmeaSinksMax}
    (taking : next.phase = .taking i) : result = .ok i := by
  obtain ⟨-, ⟨slot, rfl, rfl⟩ | ⟨-, rfl⟩ | ⟨errno, -, -, rfl⟩⟩ := Session.checked_cases step
  · simpa using taking
  · simp at taking
  · simp at taking

/-- A session that is over makes no more calls but the close. -/
theorem no_call_of_over (isOver : session.phase.over = true) :
    (∀ result, session.recv result = none) ∧ (∀ result, session.checked result = none) ∧
      (∀ result, session.send result = none) ∧ (∀ i, session.phase ≠ .taking i) ∧
      session.phase ≠ .idle := by
  unfold SessionPhase.over at isOver
  split at isOver
  · rename_i closing
    simp [Session.recv, Session.checked, Session.send, closing]
  · rename_i ended
    simp [Session.recv, Session.checked, Session.send, ended]
  · simp at isOver

/-- A failed send ends the session with the frame as it is. -/
theorem over_of_send_fails {result : SendResult} (fails : result.fails = true)
    (step : session.send result = some next) :
    next.phase.over = true ∧ next.accepted = session.accepted := by
  obtain ⟨frame, sentTotal, accepted, -, rfl, ⟨count, rfl, -, rfl⟩ | ⟨errno, rfl, rfl⟩⟩ :=
    Session.send_cases step
  · obtain rfl : count = 0 := by simpa [SendResult.fails] using fails
    simp [sendAllResult, SessionPhase.over]
  · simp only [SendResult.fails, Bool.not_eq_true', Bool.or_eq_false_iff,
      beq_eq_false_iff_ne] at fails
    simp [sendAllResult, fails, SessionPhase.over]

end Phases

/-! ## What a session has delivered -/

/-- All the frames, or all but the last and a proper part of that one. -/
def WholeThenCut (received : List Frame) (accepted : List UInt8) : Prop :=
  accepted = received.flatten ∨
    ∃ whole next cut, received = whole ++ [next] ∧ accepted = whole.flatten ++ cut ∧
      cut <+: next ∧ cut ≠ next

/-- What the phase says about the bytes delivered: between sends they are whole frames. -/
def SessionBytes (session : Session cfg) : Prop :=
  match session.phase with
  | .idle => session.received = [] ∧ session.accepted = []
  | .sending frame sentTotal =>
    sentTotal < frame.data.length ∧ ∃ whole, session.received = whole ++ [frame.data] ∧
      session.accepted = whole.flatten ++ frame.data.take sentTotal
  | .closing .endedSendFailed | .ended .endedSendFailed =>
    WholeThenCut session.received session.accepted
  | _ => session.accepted = session.received.flatten

section Bytes

variable {session next : Session cfg}

/-- In every phase at most the last frame is cut. -/
theorem SessionBytes.wholeThenCut (bytes : SessionBytes session) :
    WholeThenCut session.received session.accepted := by
  unfold SessionBytes at bytes
  split at bytes
  · simp [WholeThenCut, bytes]
  · obtain ⟨unsent, whole, received, accepted⟩ := bytes
    refine Or.inr ⟨whole, _, _, received, accepted, List.take_prefix _ _, fun same => ?_⟩
    have length := congrArg List.length same
    rw [List.length_take] at length
    omega
  · exact bytes
  · exact bytes
  · exact Or.inl bytes

/-- Sending goes on, or the frame is out as a whole. -/
theorem sessionBytes_sendAll {frame : NmeaFrame cfg} {sentTotal : ℕ} {whole : List Frame}
    (phase : session.phase = sendAll frame sentTotal)
    (within : sentTotal ≤ frame.data.length) (received : session.received = whole ++ [frame.data])
    (accepted : session.accepted = whole.flatten ++ frame.data.take sentTotal) :
    SessionBytes session := by
  unfold SessionBytes
  rw [phase, sendAll]
  split_ifs with unsent
  · exact ⟨unsent, whole, received, accepted⟩
  · have complete : sentTotal = frame.data.length := by omega
    simp [received, accepted, complete]

theorem SessionBytes.recv (bytes : SessionBytes session) {result : RecvResult}
    (step : session.recv result = some next) :
    SessionBytes next ∧ next.received = session.received ∧ next.sinkId = session.sinkId ∧
      next.accepted = session.accepted := by
  obtain ⟨afterSend, phase, rfl⟩ := Session.recv_cases step
  have whole : session.accepted = session.received.flatten := by
    simpa [SessionBytes, phase] using bytes
  refine ⟨?_, rfl, rfl, rfl⟩
  cases result with
  | received => simpa [SessionBytes, drainSocketRx] using whole
  | closed => simpa [SessionBytes, drainSocketRx] using whole
  | error errno =>
    simp only [drainSocketRx]
    split_ifs <;> simpa [SessionBytes] using whole

theorem SessionBytes.checked (bytes : SessionBytes session)
    {result : Except Errno (Fin cfg.nmeaSinksMax)}
    (step : session.checked result = some next) :
    SessionBytes next ∧ next.received = session.received ∧ next.sinkId = session.sinkId ∧
      next.accepted = session.accepted := by
  obtain ⟨phase, checked⟩ := Session.checked_cases step
  have whole : session.accepted = session.received.flatten := by
    simpa [SessionBytes, phase] using bytes
  rcases checked with ⟨slot, -, rfl⟩ | ⟨-, rfl⟩ | ⟨errno, -, -, rfl⟩
  · exact ⟨whole, rfl, rfl, rfl⟩
  · exact ⟨whole, rfl, rfl, rfl⟩
  · exact ⟨whole, rfl, rfl, rfl⟩

/-- The bytes a send adds continue the frame where it was cut. -/
theorem SessionBytes.send (bytes : SessionBytes session) {result : SendResult}
    (step : session.send result = some next) :
    SessionBytes next ∧ next.received = session.received ∧ next.sinkId = session.sinkId := by
  obtain ⟨frame, sentTotal, added, phase, rfl, outcome⟩ := Session.send_cases step
  obtain ⟨unsent, whole, received, accepted⟩ :
      sentTotal < frame.data.length ∧ ∃ whole, session.received = whole ++ [frame.data] ∧
        session.accepted = whole.flatten ++ frame.data.take sentTotal := by
    simpa [SessionBytes, phase] using bytes
  refine ⟨?_, rfl, rfl⟩
  rcases outcome with ⟨count, rfl, within, rfl⟩ | ⟨errno, rfl, rfl⟩
  · have longer : session.accepted ++ (frame.data.drop sentTotal).take count =
        whole.flatten ++ frame.data.take (sentTotal + count) := by
      rw [accepted, List.append_assoc, List.take_add]
    by_cases progress : 0 < count
    · refine sessionBytes_sendAll (?_ : _ = sendAll frame (sentTotal + count)) within
        received longer
      simp [sendAllResult, progress]
    · -- A send that took nothing ends the session with the frame cut where it was.
      have nothing : count = 0 := by omega
      subst nothing
      simp only [SessionBytes, sendAllResult, Nat.lt_irrefl, if_false, List.take_zero,
        List.append_nil]
      exact bytes.wholeThenCut
  · simp only [SessionBytes, sendAllResult]
    split_ifs
    · -- A transient error: the loop sends the same bytes again.
      exact ⟨unsent, whole, received, accepted⟩
    · exact bytes.wholeThenCut

/-- A taken frame is the next to be sent. -/
theorem SessionBytes.took {slot : Fin cfg.nmeaSinksMax} (bytes : SessionBytes session)
    (phase : session.phase = .taking slot) (frame : Option (NmeaFrame cfg)) :
    SessionBytes (session.took frame) := by
  have whole : session.accepted = session.received.flatten := by
    simpa [SessionBytes, phase] using bytes
  cases frame with
  | none => simpa [SessionBytes, Session.took] using whole
  | some frame =>
    refine sessionBytes_sendAll (rfl : _ = sendAll frame 0) (Nat.zero_le _) rfl ?_
    simpa [Session.took] using whole

end Bytes

end EspNmeaBridge
