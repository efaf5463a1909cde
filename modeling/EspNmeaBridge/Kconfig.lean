/-
# Build-time configuration

The numbers the pipeline is built with, within the ranges `Kconfig` allows and
the build assertion of the NMEA bridge.
-/

import Mathlib

namespace EspNmeaBridge

/-- The `CONFIG_ESP_NMEA_BRIDGE_*` options of the NMEA pipeline. -/
structure Kconfig where
  nmeaFrameMaxLen : ℕ
  ingestQueueDepth : ℕ
  sinkQueueDepth : ℕ
  nmeaSinksMax : ℕ
  tcpNmeaServerEnable : Bool
  tcpNmeaServerMaxPeers : ℕ
  nmeaFrameMaxLen_range : 32 ≤ nmeaFrameMaxLen ∧ nmeaFrameMaxLen ≤ 512
  ingestQueueDepth_range : 2 ≤ ingestQueueDepth ∧ ingestQueueDepth ≤ 256
  sinkQueueDepth_range : 2 ≤ sinkQueueDepth ∧ sinkQueueDepth ≤ 128
  nmeaSinksMax_range : 1 ≤ nmeaSinksMax ∧ nmeaSinksMax ≤ 9
  tcpNmeaServerMaxPeers_range : 1 ≤ tcpNmeaServerMaxPeers ∧ tcpNmeaServerMaxPeers ≤ 8
  /-- Every server peer and the client have a sink of their own. -/
  sinks_cover : (if tcpNmeaServerEnable then tcpNmeaServerMaxPeers else 0) + 1 ≤ nmeaSinksMax

/-- The values of `prj.conf`. -/
def prjConf : Kconfig where
  nmeaFrameMaxLen := 128
  ingestQueueDepth := 32
  sinkQueueDepth := 16
  nmeaSinksMax := 4
  tcpNmeaServerEnable := true
  tcpNmeaServerMaxPeers := 3
  nmeaFrameMaxLen_range := by decide
  ingestQueueDepth_range := by decide
  sinkQueueDepth_range := by decide
  nmeaSinksMax_range := by decide
  tcpNmeaServerMaxPeers_range := by decide
  sinks_cover := by decide

end EspNmeaBridge
