/-
# The status response

What `GET /api/status` sends: a telemetry snapshot and the state of the OTA update as
JSON. A text that does not fit the buffer is not sent in part; the response says so instead.
-/

import EspNmeaBridge.BridgeTelemetry
import EspNmeaBridge.OtaUpdate
import EspNmeaBridge.WebApp.ConfigJson
import EspNmeaBridge.WebApp.OtaUpload

namespace EspNmeaBridge

open CString

def webAppJsonBufSize : ℕ := 1536
def otaUpdateLastErrorLen : ℕ := 96

/-- The format `%d`. -/
def signedDecimal (n : ℤ) : List UInt8 :=
  if n < 0 then ascii "-" ++ decimal n.natAbs else decimal n.toNat

/-! ## The state of the OTA update -/

def otaUpdateStateName : OtaUpdateState → String
  | .disabled => "disabled"
  | .ready => "ready"
  | .uploading => "uploading"
  | .pendingReboot => "pending_reboot"
  | .confirmed => "confirmed"
  | .error => "error"

def webOtaStateName (cfg : OtaUploadKconfig) (state : OtaUpdateState) : String :=
  if cfg.otaUpdateEnable then otaUpdateStateName state else "disabled"

/-- `status` is what `ota_update_get_status` returns; a build without OTA does not ask. -/
def getOtaStatusForJson (cfg : OtaUploadKconfig) (status : OtaUpdateStatus) : OtaUpdateStatus :=
  if cfg.otaUpdateEnable then status
  else { otaRuntimeZero.status with state := .disabled, confirmed := true }

/-- `last_error`; `errnoCode` are the error numbers of the C library. -/
def lastErrorText (errnoCode : Errno → ℕ) : Option OtaError → List UInt8
  | none => []
  | some error =>
    snprintk otaUpdateLastErrorLen
      (ascii error.reason ++ ascii " (" ++ signedDecimal (-errnoCode error.err) ++ ascii ")")

/-! ## The text -/

/-- The format of `write_status_json`, filled in. -/
def statusJson (appVersion : String) (snapshot : BridgeTelemetrySnapshot)
    (otaStatus : OtaUpdateStatus) (cfg : OtaUploadKconfig) (errnoCode : Errno → ℕ) : List UInt8 :=
  let counters := snapshot.counters
  let escapedLastError :=
    jsonEscapeString (lastErrorText errnoCode otaStatus.lastError) (otaUpdateLastErrorLen * 2)
  let staIpv4Json := snprintk (bridgeTelemetryIpv4AddrStrLen + 2)
    (if snapshot.staIpv4.byteAt 0 != 0 then ascii "\"" ++ snapshot.staIpv4.str ++ ascii "\""
      else ascii "null")
  let staRssiJson := snprintk 12
    (if snapshot.staRssiValid then signedDecimal snapshot.staRssiDbm else ascii "null")
  let connectionState :=
    if snapshot.connectionState = .connected then "connected" else "disconnected"
  let inputState := if snapshot.inputState = .active then "active" else "idle"
  ascii "\x7b\"firmware_version\":\"" ++ ascii appVersion ++
    ascii "\",\"connection_state\":\"" ++ ascii connectionState ++
    ascii "\",\"input_state\":\"" ++ ascii inputState ++
    ascii "\",\"warnings\":\x7b\"data_quality\":" ++ jsonBool snapshot.warnings.dataQuality ++
    ascii ",\"frame_loss\":" ++ jsonBool snapshot.warnings.frameLoss ++
    ascii "\x7d,\"wifi\":\x7b\"sta_ready\":" ++ jsonBool snapshot.staReady ++
    ascii ",\"ip\":" ++ staIpv4Json ++
    ascii ",\"rssi\":" ++ staRssiJson ++
    ascii "\x7d,\"uart\":\x7b\"bytes_rx\":" ++ decimal counters.uartBytesRx.toNat ++
    ascii ",\"frames_rx\":" ++ decimal counters.uartFramesRx.toNat ++
    ascii ",\"overlong_frames\":" ++ decimal counters.uartOverlongFrames.toNat ++
    ascii ",\"ais_self_mmsi_filtered\":" ++ decimal counters.uartAisSelfMmsiFiltered.toNat ++
    ascii "\x7d,\"bridge\":\x7b\"frames_in\":" ++ decimal counters.bridgeFramesIn.toNat ++
    ascii ",\"ingest_dropped_oldest\":" ++ decimal counters.bridgeIngestDroppedOldest.toNat ++
    ascii ",\"sink_dropped_oldest\":" ++ decimal counters.bridgeSinkDroppedOldest.toNat ++
    ascii ",\"publish_no_sinks\":" ++ decimal counters.bridgePublishNoSinks.toNat ++
    ascii ",\"publish_invalid\":" ++ decimal counters.bridgePublishInvalid.toNat ++
    ascii ",\"publish_oversize\":" ++ decimal counters.bridgePublishOversize.toNat ++
    ascii "\x7d,\"tcp\":\x7b\"active_sessions\":" ++
      decimal counters.tcpNmeaActiveSessions.toNat ++
    ascii "\x7d,\"tcp_server\":\x7b\"active_peers\":" ++
      decimal counters.tcpServerActivePeers.toNat ++
    ascii ",\"max_peers\":" ++ decimal counters.tcpServerMaxPeers.toNat ++
    ascii "\x7d,\"ota\":\x7b\"enabled\":" ++ jsonBool otaStatus.enabled ++
    ascii ",\"state\":\"" ++ ascii (webOtaStateName cfg otaStatus.state) ++
    ascii "\",\"uploaded_bytes\":" ++ decimal otaStatus.uploadedBytes.toNat ++
    ascii ",\"expected_bytes\":" ++ decimal otaStatus.expectedBytes.toNat ++
    ascii ",\"max_upload_bytes\":" ++ decimal otaStatus.maxUploadBytes.toNat ++
    ascii ",\"upload_allowed\":" ++ jsonBool (otaUploadAllowed cfg) ++
    ascii ",\"slot\":" ++ decimal otaStatus.slot.toNat ++
    ascii ",\"confirmed\":" ++ jsonBool otaStatus.confirmed ++
    ascii ",\"last_error\":\"" ++ escapedLastError ++ ascii "\"\x7d\x7d"

/-- The response, and whether the configuration page counts as reached: the self check
follows a response that was sent in full. -/
def writeStatusJson (appVersion : String) (snapshot : BridgeTelemetrySnapshot)
    (otaStatus : OtaUpdateStatus) (cfg : OtaUploadKconfig) (errnoCode : Errno → ℕ) :
    HttpResponse × Bool :=
  let body := statusJson appVersion snapshot (getOtaStatusForJson cfg otaStatus) cfg errnoCode
  if webAppJsonBufSize ≤ body.length then
    (textResponse "500 Internal Server Error" "application/json"
      "\x7b\"error\":\"status payload exceeds buffer\"\x7d\n", false)
  else (⟨"200 OK", "application/json", body⟩, cfg.otaUpdateEnable)

end EspNmeaBridge
