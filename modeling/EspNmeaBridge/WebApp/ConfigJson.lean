/-
# The configuration responses

What the handlers of `/api/config` send: the configuration as JSON, or the field that
was wrong. A PSK enters the JSON only as the flag whether there is one.
-/

import EspNmeaBridge.WebApp.ConfigUpdate
import EspNmeaBridge.WebApp.HttpResponse

namespace EspNmeaBridge

open CString

/-! ## Escaping -/

/-- The two characters a byte is escaped to, if it is. -/
def jsonEscape (ch : UInt8) : Option (List UInt8) :=
  if ch = 0x5c then some (ascii "\\\\")
  else if ch = 0x22 then some (ascii "\\\"")
  else if ch = 0x08 then some (ascii "\\b")
  else if ch = 0x0c then some (ascii "\\f")
  else if ch = 0x0a then some (ascii "\\n")
  else if ch = 0x0d then some (ascii "\\r")
  else if ch = 0x09 then some (ascii "\\t")
  else none

/-- The loop of `json_escape_string`, which ends when `dst` is full. -/
def jsonEscapeLoop (dstLen : ℕ) (out : List UInt8) : List UInt8 → List UInt8
  | [] => out
  | ch :: src =>
    if dstLen ≤ out.length + 1 then out
    else
      match jsonEscape ch with
      | some escape =>
        if dstLen ≤ out.length + escape.length then out
        else jsonEscapeLoop dstLen (out ++ escape) src
      -- other control characters are dropped
      | none => jsonEscapeLoop dstLen (if 0x20 ≤ ch then out ++ [ch] else out) src

/-- The string left in `dst`. -/
def jsonEscapeString (src : List UInt8) (dstLen : ℕ) : List UInt8 := jsonEscapeLoop dstLen [] src

/-! ## Texts -/

def jsonBool (value : Bool) : List UInt8 := ascii (if value then "true" else "false")

/-- What `snprintk` leaves of the text in a buffer of this size. -/
def snprintk (size : ℕ) (text : List UInt8) : List UInt8 := text.take (size - 1)

/-- The format of `write_config_json`, filled in. -/
def configJson (config : EffectiveConfig) (rebootRequired : Bool) : List UInt8 :=
  let ais := config .ais
  let sta := config .sta
  let ap := config .ap
  let sysCfg := config .system
  let tcp := config .tcpClient
  let ssidJson := jsonEscapeString sta.ssid.str (bridgeConfigWifiSsidMax * 2 + 1)
  let apSsidJson := jsonEscapeString ap.ssid.str (bridgeConfigWifiSsidMax * 2 + 1)
  ascii "\x7b\"ais_filter_enabled\":" ++ jsonBool ais.filterEnabled ++
    ascii ",\"ais_own_mmsi\":" ++ decimal ais.ownMmsi.toNat ++
    ascii ",\"sta_enabled\":" ++ jsonBool sta.enabled ++
    ascii ",\"sta_ssid\":\"" ++ ssidJson ++
    ascii "\",\"sta_psk_set\":" ++ jsonBool (sta.psk.byteAt 0 != 0) ++
    ascii ",\"sta_rotate_mac\":" ++ jsonBool sta.rotateMac ++
    ascii ",\"ap_ssid\":\"" ++ apSsidJson ++
    ascii "\",\"ap_psk_set\":" ++ jsonBool (ap.psk.byteAt 0 != 0) ++
    ascii ",\"hostname\":\"" ++ sysCfg.hostname.str ++
    ascii "\",\"tcp_client_enabled\":" ++ jsonBool tcp.enabled ++
    ascii ",\"tcp_client_host\":\"" ++ tcp.host.str ++
    ascii "\",\"tcp_client_port\":" ++ decimal tcp.port.toNat ++
    ascii ",\"reboot_required\":" ++ jsonBool rebootRequired ++ ascii "\x7d"

def writeConfigJson (status : String) (config : EffectiveConfig) (rebootRequired : Bool) :
    HttpResponse :=
  ⟨status, "application/json", snprintk 640 (configJson config rebootRequired)⟩

/-- The body of an error response. -/
def errorJson (field message : String) : List UInt8 :=
  ascii ("\x7b\"ok\":false,\"errors\":\x7b\"" ++ field ++ "\":\"" ++ message ++ "\"\x7d\x7d\n")

/-- The response as it is sent. -/
def ConfigResponse.http (response : ConfigResponse) : HttpResponse :=
  match response with
  | .fieldError field message =>
    ⟨response.status, "application/json", snprintk 128 (errorJson field message)⟩
  | .payloadTooLarge => ⟨response.status, "application/json", errorJson "body" "payload too large"⟩
  | .saveFailed g => ⟨response.status, "application/json", errorJson "body" (saveFailedMessage g)⟩
  | .configJson config rebootRequired => writeConfigJson response.status config rebootRequired

end EspNmeaBridge
