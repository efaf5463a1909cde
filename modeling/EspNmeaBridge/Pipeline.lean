/-
# The whole pipeline, thread by thread

UART reader, dispatcher and TCP sessions run side by side. A step is one thread's
next queue operation, socket call or critical section; which thread steps next, and
what the outside world delivers, is the label. A label that does not fit the state
is not enabled.

The dispatcher keeps the sinks lock from the frame it got until every slot was
visited, so no sink opens, closes or is checked in between.
-/

import EspNmeaBridge.Lib.Transitions
import EspNmeaBridge.TcpNmeaSession
import EspNmeaBridge.UartNmea

namespace EspNmeaBridge

/-- Where `dispatcher_thread` stands. -/
inductive DispatcherPhase (cfg : Kconfig) where
  /-- In `k_msgq_get` on the ingest queue. -/
  | waiting
  /-- Before `k_mutex_lock`. -/
  | locking (frame : NmeaFrame cfg)
  /-- At slot `next` with the lock held; `before` is read when the put starts. -/
  | scanning (frame : NmeaFrame cfg) (next : ℕ) (any : Bool) (phase : PutPhase) (before : UInt32)

/-- All threads with what they share. The received bytes and the frames handed to the
filter, with its verdicts, are recorded. -/
structure Pipeline (cfg : Kconfig) where
  aisEffectiveMmsi : UInt32
  rx : UartRx cfg
  /-- The frame the reader is putting into the ingest queue. -/
  publishing : Option (NmeaFrame cfg × PutPhase)
  bridge : NmeaBridge cfg
  dispatcher : DispatcherPhase cfg
  sessions : ℕ → Session cfg
  stream : List UInt8
  handed : List (Frame × Bool)

variable {cfg : Kconfig}

/-- Nothing was received, no sink is open and no session has begun. -/
def pipelineInit : Pipeline cfg where
  aisEffectiveMmsi := 0
  rx := uartRxInit
  publishing := none
  bridge := nmeaBridgeInit
  dispatcher := .waiting
  sessions _ := sessionIdle
  stream := []
  handed := []

/-- Whether the dispatcher holds the sinks lock. -/
def DispatcherPhase.locked : DispatcherPhase cfg → Bool
  | .scanning .. => true
  | _ => false

/-- Who makes the next step: settings, reader, dispatcher or a session. What sockets answer
comes with the step. -/
inductive PipelineLabel where
  | setAisConfig (filterEnabled : Bool) (ownMmsi : UInt32)
  | rxLoopHead
  | rxByte (ch : UInt8)
  | rxPut
  | dispatcherGet
  | dispatcherLock
  | dispatcherScan
  | sessionOpen (session : ℕ)
  | sessionRecv (session : ℕ) (result : RecvResult)
  | sessionCheck (session : ℕ)
  | sessionGet (session : ℕ)
  | sessionSend (session : ℕ) (result : SendResult)
  | sessionClose (session : ℕ)
  deriving DecidableEq, Repr

/-- The session a step belongs to. -/
def PipelineLabel.session : PipelineLabel → Option ℕ
  | .sessionOpen s | .sessionRecv s _ | .sessionCheck s | .sessionGet s | .sessionSend s _
  | .sessionClose s => some s
  | _ => none

namespace Pipeline

/-! ## The UART reader -/

/-- At the head of its loop the reader picks up the setting. -/
def rxLoopHead (sys : Pipeline cfg) : Option (Pipeline cfg) :=
  match sys.publishing with
  | some _ => none
  | none => some { sys with rx := applyAisConfigIfChanged sys.rx sys.aisEffectiveMmsi }

/-- A polled byte. A frame the filter passes goes through the checks of
`nmea_bridge_publish_frame` and is about to be put. -/
def rxByte (sys : Pipeline cfg) (ch : UInt8) : Option (Pipeline cfg) :=
  match sys.publishing with
  | some _ => none
  | none =>
    let (rx, handed) := uartRxByte sys.rx ch
    let sys := { sys with
      rx, stream := sys.stream ++ [ch], handed := sys.handed ++ handed.toList }
    match handed with
    | some (frame, false) =>
      match acceptFrame sys.bridge frame with
      | (bridge, .ok frame) => some { sys with bridge, publishing := some (frame, .put) }
      | (bridge, .error _) => some { sys with bridge }
    | _ => some sys

/-- The next operation of `put_drop_oldest` on the ingest queue. -/
def rxPut (sys : Pipeline cfg) : Option (Pipeline cfg) :=
  match sys.publishing with
  | none => none
  | some (frame, phase) =>
    let (ingest, ingestDroppedOldest, next) :=
      putDropOldestStep sys.bridge.ingest frame sys.bridge.stats.ingestDroppedOldest phase
    some { sys with
      bridge := { sys.bridge with
        ingest, stats := { sys.bridge.stats with ingestDroppedOldest } }
      publishing := next.map fun phase => (frame, phase) }

/-! ## The dispatcher -/

/-- The dispatcher sleeps while the ingest queue is empty. -/
def dispatcherGet (sys : Pipeline cfg) : Option (Pipeline cfg) :=
  match sys.dispatcher, sys.bridge.ingest.get with
  | .waiting, (ingest, some frame) =>
    some { sys with bridge := { sys.bridge with ingest }, dispatcher := .locking frame }
  | _, _ => none

/-- Behind the lock it looks at the slots from the first one on. -/
def dispatcherLock (sys : Pipeline cfg) : Option (Pipeline cfg) :=
  match sys.dispatcher with
  | .locking frame => some { sys with dispatcher := .scanning frame 0 false .put 0 }
  | _ => none

/-- The next operation of `put_drop_oldest` on the queue of slot `i`. When it is the
last, the drops and the frame are counted and the loop moves on. -/
def scanSlot (sys : Pipeline cfg) (frame : NmeaFrame cfg) (i : Fin cfg.nmeaSinksMax) (any : Bool)
    (phase : PutPhase) (before : UInt32) : Pipeline cfg :=
  let slot := sys.bridge.sinks i
  -- The drop counter before the put, to count the drops of this frame.
  let before := if phase = .put then slot.stats.droppedOldest else before
  let (msgq, droppedOldest, next) :=
    putDropOldestStep slot.msgq frame slot.stats.droppedOldest phase
  let slot := { slot with msgq, stats := { slot.stats with droppedOldest } }
  match next with
  | some phase =>
    { sys with
      bridge := sys.bridge.setSink i slot
      dispatcher := .scanning frame i any phase before }
  | none =>
    let stats :=
      if droppedOldest ≠ before then
        { sys.bridge.stats with sinkDroppedOldest :=
            sys.bridge.stats.sinkDroppedOldest + (droppedOldest - before) }
      else sys.bridge.stats
    let slot := { slot with stats := { slot.stats with queued := slot.stats.queued + 1 } }
    { sys with
      bridge := { sys.bridge.setSink i slot with stats }
      dispatcher := .scanning frame (i + 1) true .put 0 }

/-- The loop over the slots, and the unlock behind it. -/
def dispatcherScan (sys : Pipeline cfg) : Option (Pipeline cfg) :=
  match sys.dispatcher with
  | .scanning frame next any phase before =>
    if inside : next < cfg.nmeaSinksMax then
      if phase = .put ∧ !(sys.bridge.sinks ⟨next, inside⟩).active then
        some { sys with dispatcher := .scanning frame (next + 1) any .put 0 }
      else some (sys.scanSlot frame ⟨next, inside⟩ any phase before)
    else
      let stats :=
        if !any then
          { sys.bridge.stats with publishNoSinks := sys.bridge.stats.publishNoSinks + 1 }
        else sys.bridge.stats
      some { sys with bridge := { sys.bridge with stats }, dispatcher := .waiting }
  | _ => none

/-! ## The sessions -/

/-- Replace one session. -/
def setSession (sys : Pipeline cfg) (s : ℕ) (session : Session cfg) : Pipeline cfg :=
  { sys with sessions := Function.update sys.sessions s session }

/-- The sink is opened, or the session ends at once. -/
def sessionOpen (sys : Pipeline cfg) (s : ℕ) : Option (Pipeline cfg) :=
  match (sys.sessions s).phase, sys.dispatcher.locked with
  | .idle, false =>
    match nmeaBridgeSinkOpen sys.bridge with
    | (bridge, some i) =>
      some ({ sys with bridge }.setSession s
        { sys.sessions s with phase := .draining false, sinkId := i.val })
    | (bridge, none) =>
      some ({ sys with bridge }.setSession s
        { sys.sessions s with phase := .ended .endedSinkUnavailable, sinkId := -1 })
  | _, _ => none

/-- What the client sends is read and thrown away. -/
def sessionRecv (sys : Pipeline cfg) (s : ℕ) (result : RecvResult) : Option (Pipeline cfg) :=
  ((sys.sessions s).recv result).map (sys.setSession s)

/-- The checks of `nmea_bridge_sink_take` are made under the sinks lock, which the dispatcher
must not hold. -/
def sessionCheck (sys : Pipeline cfg) (s : ℕ) : Option (Pipeline cfg) :=
  if sys.dispatcher.locked then none
  else
    ((sys.sessions s).checked (checkSink sys.bridge (sys.sessions s).sinkId)).map
      (sys.setSession s)

/-- The queue hands out a frame, or stays empty until the time is over. -/
def sessionGet (sys : Pipeline cfg) (s : ℕ) : Option (Pipeline cfg) :=
  match (sys.sessions s).phase with
  | .taking i =>
    let (bridge, frame) := getFromSink sys.bridge i
    some ({ sys with bridge }.setSession s ((sys.sessions s).took frame))
  | _ => none

/-- A send may take a part of the frame. -/
def sessionSend (sys : Pipeline cfg) (s : ℕ) (result : SendResult) : Option (Pipeline cfg) :=
  ((sys.sessions s).send result).map (sys.setSession s)

/-- A session closes its sink once, under the sinks lock. -/
def sessionClose (sys : Pipeline cfg) (s : ℕ) : Option (Pipeline cfg) :=
  match (sys.sessions s).phase, sys.dispatcher.locked with
  | .closing result, false =>
    let (bridge, sinkId) := nmeaBridgeSinkClose sys.bridge (sys.sessions s).sinkId
    some ({ sys with bridge }.setSession s
      { sys.sessions s with phase := .ended result, sinkId })
  | _, _ => none

end Pipeline

/-- A step that has to wait for another thread is not enabled. -/
def pipelineStep (sys : Pipeline cfg) : PipelineLabel → Option (Pipeline cfg)
  | .setAisConfig filterEnabled ownMmsi =>
    some { sys with aisEffectiveMmsi := uartNmeaSetAisConfig filterEnabled ownMmsi }
  | .rxLoopHead => sys.rxLoopHead
  | .rxByte ch => sys.rxByte ch
  | .rxPut => sys.rxPut
  | .dispatcherGet => sys.dispatcherGet
  | .dispatcherLock => sys.dispatcherLock
  | .dispatcherScan => sys.dispatcherScan
  | .sessionOpen s => sys.sessionOpen s
  | .sessionRecv s result => sys.sessionRecv s result
  | .sessionCheck s => sys.sessionCheck s
  | .sessionGet s => sys.sessionGet s
  | .sessionSend s result => sys.sessionSend s result
  | .sessionClose s => sys.sessionClose s

/-! ## What a step can do -/

namespace Pipeline

section Cases

variable {sys next : Pipeline cfg} {s : ℕ}

theorem rxLoopHead_cases (step : sys.rxLoopHead = some next) :
    sys.publishing = none ∧
      next = { sys with rx := applyAisConfigIfChanged sys.rx sys.aisEffectiveMmsi } := by
  unfold rxLoopHead at step
  split at step
  · simp at step
  · rename_i idle
    exact ⟨idle, (Option.some.inj step).symm⟩

/-- With the byte the reader has a frame to publish, which is accepted or refused, or none. -/
theorem rxByte_cases {ch : UInt8} (step : sys.rxByte ch = some next) :
    sys.publishing = none ∧ ∃ rx handed received, uartRxByte sys.rx ch = (rx, handed) ∧
      received = { sys with
        rx, stream := sys.stream ++ [ch], handed := sys.handed ++ handed.toList } ∧
      (((∀ frame, handed ≠ some (frame, false)) ∧ next = received) ∨
        (∃ frame bridge err, handed = some (frame, false) ∧
          acceptFrame sys.bridge frame = (bridge, .error err) ∧
          next = { received with bridge }) ∨
        ∃ frame bridge accepted, handed = some (frame, false) ∧
          acceptFrame sys.bridge frame = (bridge, .ok accepted) ∧
          next = { received with bridge, publishing := some (accepted, .put) }) := by
  unfold rxByte at step
  split at step
  · simp at step
  rename_i idle
  rcases result : uartRxByte sys.rx ch with ⟨rx, _ | ⟨frame, _ | _⟩⟩ <;>
    rw [result] at step <;> refine ⟨idle, rx, _, _, rfl, rfl, ?_⟩
  · exact .inl ⟨by simp, (Option.some.inj step).symm⟩
  · rcases accepted : acceptFrame sys.bridge frame with ⟨bridge, err | published⟩
    · simp only [accepted] at step
      exact .inr (.inl ⟨frame, bridge, err, rfl, accepted, (Option.some.inj step).symm⟩)
    · simp only [accepted] at step
      exact .inr (.inr ⟨frame, bridge, published, rfl, accepted, (Option.some.inj step).symm⟩)
  · exact .inl ⟨by simp, (Option.some.inj step).symm⟩

theorem rxPut_cases (step : sys.rxPut = some next) :
    ∃ frame phase ingest ingestDroppedOldest goesOn, sys.publishing = some (frame, phase) ∧
      putDropOldestStep sys.bridge.ingest frame sys.bridge.stats.ingestDroppedOldest phase =
        (ingest, ingestDroppedOldest, goesOn) ∧
      next = { sys with
        bridge := { sys.bridge with
          ingest, stats := { sys.bridge.stats with ingestDroppedOldest } }
        publishing := goesOn.map fun phase => (frame, phase) } := by
  unfold rxPut at step
  split at step
  · simp at step
  · rename_i frame phase publishing
    exact ⟨frame, phase, _, _, _, publishing, rfl, (Option.some.inj step).symm⟩

theorem dispatcherGet_cases (step : sys.dispatcherGet = some next) :
    ∃ ingest frame, sys.dispatcher = .waiting ∧
      sys.bridge.ingest.get = (ingest, some frame) ∧
      next = { sys with bridge := { sys.bridge with ingest }, dispatcher := .locking frame } := by
  unfold dispatcherGet at step
  split at step
  · rename_i ingest frame waiting got
    exact ⟨ingest, frame, waiting, got, (Option.some.inj step).symm⟩
  · simp at step

theorem dispatcherLock_cases (step : sys.dispatcherLock = some next) :
    ∃ frame, sys.dispatcher = .locking frame ∧
      next = { sys with dispatcher := .scanning frame 0 false .put 0 } := by
  unfold dispatcherLock at step
  split at step
  · rename_i frame locking
    exact ⟨frame, locking, (Option.some.inj step).symm⟩
  · simp at step

/-- The loop passes over an inactive slot, works on the slot it is at, or is through. -/
theorem dispatcherScan_cases (step : sys.dispatcherScan = some next) :
    ∃ frame slot any phase before, sys.dispatcher = .scanning frame slot any phase before ∧
      ((∃ inside : slot < cfg.nmeaSinksMax,
          phase = .put ∧ (sys.bridge.sinks ⟨slot, inside⟩).active = false ∧
          next = { sys with dispatcher := .scanning frame (slot + 1) any .put 0 }) ∨
        (∃ inside : slot < cfg.nmeaSinksMax,
          (phase = .put → (sys.bridge.sinks ⟨slot, inside⟩).active = true) ∧
          next = sys.scanSlot frame ⟨slot, inside⟩ any phase before) ∨
        (cfg.nmeaSinksMax ≤ slot ∧ ∃ publishNoSinks,
          publishNoSinks = (if any then sys.bridge.stats.publishNoSinks
            else sys.bridge.stats.publishNoSinks + 1) ∧
          next = { sys with
            bridge := { sys.bridge with stats := { sys.bridge.stats with publishNoSinks } }
            dispatcher := .waiting })) := by
  unfold dispatcherScan at step
  split at step
  · rename_i frame slot any phase before scanning
    refine ⟨frame, slot, any, phase, before, scanning, ?_⟩
    by_cases inside : slot < cfg.nmeaSinksMax
    · rw [dif_pos inside] at step
      split_ifs at step with skip
      · exact .inl ⟨inside, skip.1, by simpa using skip.2, (Option.some.inj step).symm⟩
      · exact .inr (.inl ⟨inside, by simpa using skip, (Option.some.inj step).symm⟩)
    · rw [dif_neg inside] at step
      refine .inr (.inr ⟨not_lt.mp inside, _, rfl, (Option.some.inj step).symm.trans ?_⟩)
      cases any <;> rfl
  · simp at step

/-- The session gets the sink of a slot that was free, or ends without one. -/
theorem sessionOpen_cases (step : sys.sessionOpen s = some next) :
    (sys.sessions s).phase = .idle ∧ sys.dispatcher.locked = false ∧
      ((∃ i, (sys.bridge.sinks i).active = false ∧
          next = { sys with bridge := sys.bridge.setSink i .opened }.setSession s
            { sys.sessions s with phase := .draining false, sinkId := i.val }) ∨
        (nmeaBridgeSinkOpen sys.bridge = (sys.bridge, none) ∧
          next = sys.setSession s
            { sys.sessions s with phase := .ended .endedSinkUnavailable, sinkId := -1 })) := by
  unfold sessionOpen at step
  split at step
  · rename_i idle unlocked
    refine ⟨idle, unlocked, ?_⟩
    rcases nmeaBridgeSinkOpen_cases sys.bridge with ⟨i, inactive, opened⟩ | ⟨-, full⟩
    · rw [opened] at step
      exact .inl ⟨i, inactive, (Option.some.inj step).symm⟩
    · rw [full] at step
      exact .inr ⟨full, (Option.some.inj step).symm⟩
  · simp at step

theorem sessionCheck_cases (step : sys.sessionCheck s = some next) :
    sys.dispatcher.locked = false ∧ ∃ session,
      (sys.sessions s).checked (checkSink sys.bridge (sys.sessions s).sinkId) = some session ∧
      next = sys.setSession s session := by
  unfold sessionCheck at step
  split_ifs at step with locked
  obtain ⟨session, checked, rfl⟩ := Option.map_eq_some_iff.mp step
  exact ⟨by simpa using locked, session, checked, rfl⟩

theorem sessionGet_cases (step : sys.sessionGet s = some next) :
    ∃ i bridge frame, (sys.sessions s).phase = .taking i ∧
      getFromSink sys.bridge i = (bridge, frame) ∧
      next = { sys with bridge }.setSession s ((sys.sessions s).took frame) := by
  unfold sessionGet at step
  split at step
  · rename_i i taking
    exact ⟨i, _, _, taking, rfl, (Option.some.inj step).symm⟩
  · simp at step

theorem sessionClose_cases (step : sys.sessionClose s = some next) :
    ∃ result bridge sinkId, (sys.sessions s).phase = .closing result ∧
      sys.dispatcher.locked = false ∧
      nmeaBridgeSinkClose sys.bridge (sys.sessions s).sinkId = (bridge, sinkId) ∧
      next = { sys with bridge }.setSession s
        { sys.sessions s with phase := .ended result, sinkId } := by
  unfold sessionClose at step
  split at step
  · rename_i result closing unlocked
    exact ⟨result, _, _, closing, unlocked, rfl, (Option.some.inj step).symm⟩
  · simp at step

end Cases

end Pipeline

end EspNmeaBridge
