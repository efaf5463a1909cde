/-
# Bridge telemetry

A snapshot is built from the counters of the other modules and from the time of the last
change of one of them: input counts as active for a while after the bridge was last seen
to have taken a frame. That time is all the telemetry remembers between two snapshots.
-/

import EspNmeaBridge.Lib.CString

namespace EspNmeaBridge

open CString

/-- How long input counts as active behind the last change that was seen. -/
def bridgeTelemetryNmeaInputWindowMs : ℤ := 5000

/-- The size of a dotted quad with its terminator. -/
def bridgeTelemetryIpv4AddrStrLen : ℕ := 16

/-- `INT64_MIN`, the time of a frame that never was. -/
def int64Min : ℤ := -2 ^ 63

/-- Whether a session takes frames. -/
inductive NmeaConnectionState where
  | disconnected
  | connected
  deriving DecidableEq, Repr

/-- Whether frames came in of late. -/
inductive NmeaInputState where
  | idle
  | active
  deriving DecidableEq, Repr

/-- The counters of reader, bridge and server, as a snapshot shows them. -/
structure BridgeTelemetryCounters where
  uartBytesRx : UInt32
  uartFramesRx : UInt32
  uartOverlongFrames : UInt32
  uartAisSelfMmsiFiltered : UInt32
  bridgeFramesIn : UInt32
  bridgeIngestDroppedOldest : UInt32
  bridgeSinkDroppedOldest : UInt32
  bridgePublishNoSinks : UInt32
  bridgePublishInvalid : UInt32
  bridgePublishOversize : UInt32
  tcpNmeaActiveSessions : UInt32
  tcpServerActivePeers : UInt32
  tcpServerMaxPeers : UInt32
  deriving DecidableEq, Repr

/-- Each is up while one of the counters it looks at is not zero. -/
structure BridgeTelemetryWarnings where
  dataQuality : Bool
  frameLoss : Bool
  deriving DecidableEq, Repr

/-- What the web page is told of the traffic. -/
structure BridgeTelemetrySnapshot where
  connectionState : NmeaConnectionState
  inputState : NmeaInputState
  warnings : BridgeTelemetryWarnings
  staReady : Bool
  /-- Empty when unavailable. -/
  staIpv4 : CharArray bridgeTelemetryIpv4AddrStrLen
  staRssiValid : Bool
  staRssiDbm : ℤ
  counters : BridgeTelemetryCounters
  deriving DecidableEq, Repr

/-- What `collect_inputs` asks the other modules for. -/
structure BridgeTelemetryInputs where
  counters : BridgeTelemetryCounters
  staReady : Bool
  staIpv4 : CharArray bridgeTelemetryIpv4AddrStrLen
  staRssiValid : Bool
  staRssiDbm : ℤ
  deriving DecidableEq, Repr

/-- The counter at the last snapshot, and the time at which it was found changed. -/
structure BridgeTelemetryState where
  lastBridgeFramesIn : UInt32
  lastBridgeFrameMs : ℤ
  initialized : Bool
  deriving DecidableEq, Repr

/-- When the bridge was last seen to have taken a frame. -/
def noteBridgeFrames (state : BridgeTelemetryState) (framesIn : UInt32) (nowMs : ℤ) :
    BridgeTelemetryState :=
  if !state.initialized then ⟨framesIn, if 0 < framesIn then nowMs else int64Min, true⟩
  else if framesIn ≠ state.lastBridgeFramesIn then
    { state with lastBridgeFramesIn := framesIn, lastBridgeFrameMs := nowMs }
  else state

/-- The state after the snapshot, and the snapshot. The time of a frame is the time of the poll
that noticed it. -/
def bridgeTelemetryBuildSnapshot (state : BridgeTelemetryState) (inputs : BridgeTelemetryInputs)
    (nowMs : ℤ) : BridgeTelemetryState × BridgeTelemetrySnapshot :=
  let counters := inputs.counters
  let state := noteBridgeFrames state counters.bridgeFramesIn nowMs
  (state,
    { connectionState := if 0 < counters.tcpNmeaActiveSessions then .connected else .disconnected
      inputState :=
        if state.lastBridgeFrameMs = int64Min then .idle
        else if nowMs - state.lastBridgeFrameMs ≤ bridgeTelemetryNmeaInputWindowMs then .active
        else .idle
      warnings :=
        { dataQuality := 0 < counters.uartOverlongFrames || 0 < counters.bridgePublishInvalid ||
            0 < counters.bridgePublishOversize
          frameLoss := 0 < counters.bridgeIngestDroppedOldest ||
            0 < counters.bridgeSinkDroppedOldest }
      staReady := inputs.staReady
      -- Whatever was copied ends as a string.
      staIpv4 := inputs.staIpv4.setByte (bridgeTelemetryIpv4AddrStrLen - 1) 0
      staRssiValid := inputs.staRssiValid
      staRssiDbm := inputs.staRssiDbm
      counters := counters })

end EspNmeaBridge
