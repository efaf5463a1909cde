/-
# The payload of a configuration POST

One request may carry any of fourteen fields of the five groups. The JSON decoder is a
parameter: it reports which fields it found as a mask over the positions of its descriptor
table, and it leaves the other fields of the payload as they were on the stack. So every
read of a field stands behind its mask bit, in the checks as in the merges.
-/

import EspNmeaBridge.BridgeConfig
import EspNmeaBridge.Lib.BitMask

namespace EspNmeaBridge

open CString BitMask

/-! ## The payload -/

inductive ConfigField where
  | aisFilterEnabled
  | aisOwnMmsi
  | staEnabled
  | staSsid
  | staPsk
  | staPskClear
  | staRotateMac
  | tcpClientEnabled
  | tcpClientHost
  | tcpClientPort
  | apSsid
  | apPsk
  | apPskClear
  | hostname
  deriving DecidableEq, Repr

/-- `config_payload_descr`; the decoder knows a field by its position here. -/
def configPayloadDescr : List ConfigField :=
  [.aisFilterEnabled, .aisOwnMmsi, .staEnabled, .staSsid, .staPsk, .staPskClear, .staRotateMac,
    .tcpClientEnabled, .tcpClientHost, .tcpClientPort, .apSsid, .apPsk, .apPskClear, .hostname]

/-- The handler knows a field by `CONFIG_FIELD_*`. -/
def ConfigField.bit : ConfigField → ℕ
  | .aisFilterEnabled => 0
  | .aisOwnMmsi => 1
  | .staEnabled => 2
  | .staSsid => 3
  | .staPsk => 4
  | .staPskClear => 5
  | .staRotateMac => 6
  | .tcpClientEnabled => 7
  | .tcpClientHost => 8
  | .tcpClientPort => 9
  | .apSsid => 10
  | .apPsk => 11
  | .apPskClear => 12
  | .hostname => 13

/-- The JSON key, which error responses repeat. -/
def ConfigField.key : ConfigField → String
  | .aisFilterEnabled => "ais_filter_enabled"
  | .aisOwnMmsi => "ais_own_mmsi"
  | .staEnabled => "sta_enabled"
  | .staSsid => "sta_ssid"
  | .staPsk => "sta_psk"
  | .staPskClear => "sta_psk_clear"
  | .staRotateMac => "sta_rotate_mac"
  | .tcpClientEnabled => "tcp_client_enabled"
  | .tcpClientHost => "tcp_client_host"
  | .tcpClientPort => "tcp_client_port"
  | .apSsid => "ap_ssid"
  | .apPsk => "ap_psk"
  | .apPskClear => "ap_psk_clear"
  | .hostname => "hostname"

/-- `struct config_payload`. The string buffers exceed the limits, so that input that is too
long still decodes. -/
structure ConfigPayload where
  aisFilterEnabled : Bool
  aisOwnMmsi : Int32
  staEnabled : Bool
  staSsid : CharArray (bridgeConfigWifiSsidMax * 2 + 2)
  staPsk : CharArray (bridgeConfigWifiPskMax * 2 + 2)
  staPskClear : Bool
  staRotateMac : Bool
  tcpClientEnabled : Bool
  tcpClientHost : CharArray (bridgeConfigTcpClientHostMax * 2 + 2)
  tcpClientPort : Int32
  apSsid : CharArray (bridgeConfigWifiSsidMax * 2 + 2)
  apPsk : CharArray (bridgeConfigWifiPskMax * 2 + 2)
  apPskClear : Bool
  hostname : CharArray (bridgeConfigHostnameMax * 2 + 2)
  deriving DecidableEq, Repr

/-- What `json_obj_parse` found: the fields present, and the payload it wrote them to. -/
inductive JsonResult where
  | failed
  | decoded (present : ConfigField → Bool) (payload : ConfigPayload)

/-- The return value of `json_obj_parse`: a bit for the position of each field present. -/
def jsonMask (present : ConfigField → Bool) : ℕ :=
  ofBits ((configPayloadDescr.zipIdx.filter fun entry => present entry.1).map Prod.snd)

/-- `(fields & wanted) != 0`, for the union of the wanted bits. -/
def hasFields (fields : ℕ) (wanted : List ConfigField) : Bool :=
  meets fields (ofBits (wanted.map ConfigField.bit))

def hasField (fields : ℕ) (wanted : ConfigField) : Bool := hasFields fields [wanted]

/-- The fields of a group: `CONFIG_FIELDS_AIS` and the like. -/
def Group.fields : Group → List ConfigField
  | .ais => [.aisFilterEnabled, .aisOwnMmsi]
  | .tcpClient => [.tcpClientEnabled, .tcpClientHost, .tcpClientPort]
  | .ap => [.apSsid, .apPsk, .apPskClear]
  | .system => [.hostname]
  | .sta => [.staEnabled, .staSsid, .staPsk, .staPskClear, .staRotateMac]

theorem mem_configPayloadDescr (f : ConfigField) : f ∈ configPayloadDescr := by
  cases f <;> decide

/-- The bit numbers are the positions in the table. -/
theorem configPayloadDescr_zipIdx :
    configPayloadDescr.zipIdx = configPayloadDescr.map fun f => (f, f.bit) := rfl

theorem ConfigField.bit_injective : Function.Injective ConfigField.bit := by
  intro f f' same
  cases f <;> cases f' <;> first | rfl | exact absurd same (by decide)

/-- What the decoder reports is what the handler asks for. -/
theorem hasFields_jsonMask (present : ConfigField → Bool) (wanted : List ConfigField) :
    hasFields (jsonMask present) wanted = wanted.any present := by
  have positions : (configPayloadDescr.zipIdx.filter fun entry => present entry.1).map Prod.snd =
      (configPayloadDescr.filter present).map ConfigField.bit := by
    rw [configPayloadDescr_zipIdx, List.filter_map, List.map_map]
    rfl
  rw [Bool.eq_iff_iff, hasFields, jsonMask, positions, meets_ofBits, List.any_eq_true]
  constructor
  · rintro ⟨i, found, asked⟩
    obtain ⟨f, member, rfl⟩ := List.mem_map.mp found
    obtain ⟨f', member', same⟩ := List.mem_map.mp asked
    obtain rfl := ConfigField.bit_injective same
    exact ⟨f', member', (List.mem_filter.mp member).2⟩
  · rintro ⟨f, member, given⟩
    have found : f ∈ configPayloadDescr.filter present :=
      List.mem_filter.mpr ⟨mem_configPayloadDescr f, given⟩
    exact ⟨f.bit, List.mem_map_of_mem found, List.mem_map_of_mem member⟩

@[simp] theorem hasField_jsonMask (present : ConfigField → Bool) (f : ConfigField) :
    hasField (jsonMask present) f = present f := by
  simp [hasField, hasFields_jsonMask]

/-! ## Responses -/

inductive ConfigResponse where
  | fieldError (field message : String)
  | payloadTooLarge
  /-- A setter failed. -/
  | saveFailed (g : Group)
  /-- `write_config_json`, with what it reads for the body. -/
  | configJson (config : EffectiveConfig) (rebootRequired : Bool)

def ConfigResponse.status : ConfigResponse → String
  | .fieldError _ _ => "400 Bad Request"
  | .payloadTooLarge => "413 Payload Too Large"
  | .saveFailed _ => "500 Internal Server Error"
  | .configJson _ _ => "200 OK"

def saveFailedMessage : Group → String
  | .ais => "saving AIS configuration failed"
  | .tcpClient => "saving TCP client configuration failed"
  | .ap => "saving access point configuration failed"
  | .system => "saving system configuration failed"
  | .sta => "saving WiFi configuration failed"

/-- The entry below `errors`: a field of the payload or the body, and what is wrong. -/
def ConfigResponse.error : ConfigResponse → Option (String × String)
  | .fieldError field message => some (field, message)
  | .payloadTooLarge => some ("body", "payload too large")
  | .saveFailed g => some ("body", saveFailedMessage g)
  | .configJson _ _ => none

/-- Only the configuration itself comes without an error. -/
theorem ConfigResponse.error_eq_none {response : ConfigResponse} :
    response.error = none ↔ response.status = "200 OK" := by
  cases response <;> simp [error, status]

/-! ## Checks

Each check answers for one field and looks at its value only when the field is present. -/

section Checks

variable {n : ℕ}

def fieldErrorIf (wrong : Bool) (f : ConfigField) (message : String) : Option ConfigResponse :=
  if wrong then some (.fieldError f.key message) else none

/-- The checks of `sta_ssid` and `ap_ssid`. -/
def ssidError (fields : ℕ) (f : ConfigField) (ssid : CharArray n) : Option ConfigResponse :=
  if !hasField fields f then none
  else if ssid.strlen < 1 ∨ bridgeConfigWifiSsidMax < ssid.strlen then
    some (.fieldError f.key "must be 1 to 32 bytes")
  else
    fieldErrorIf (bridgeConfigTextValid ssid.bytes != some true) f "must be printable UTF-8"

/-- The checks of `sta_psk` and `ap_psk`; blank means to keep the stored PSK. -/
def pskError (fields : ℕ) (f : ConfigField) (psk : CharArray n) : Option ConfigResponse :=
  fieldErrorIf
    (hasField fields f && (psk.strlen != 0 && (psk.strlen < bridgeConfigWifiPskMin ||
      bridgeConfigWifiPskMax < psk.strlen)))
    f "must be 8 to 63 characters or blank"

/-- The checks of `sta_psk_clear` and `ap_psk_clear`. -/
def pskClearError (fields : ℕ) (f : ConfigField) (clear : Bool) (pskField : ConfigField)
    (psk : CharArray n) : Option ConfigResponse :=
  fieldErrorIf (hasField fields f && clear && hasField fields pskField && psk.byteAt 0 != 0)
    f "cannot be combined with a new password"

/-- The check of a text with a limit and a validator of its own. -/
def textError (fields : ℕ) (f : ConfigField) (max : ℕ) (valid : List UInt8 → Option Bool)
    (message : String) (text : CharArray n) : Option ConfigResponse :=
  fieldErrorIf (hasField fields f && (max < text.strlen || valid text.bytes != some true))
    f message

def hostnameError (fields : ℕ) (hostname : CharArray n) : Option ConfigResponse :=
  textError fields .hostname bridgeConfigHostnameMax bridgeConfigHostnameValid
    "must be 1 to 32 lowercase letters, digits, or inner hyphens" hostname

def tcpClientHostError (fields : ℕ) (host : CharArray n) : Option ConfigResponse :=
  textError fields .tcpClientHost bridgeConfigTcpClientHostMax bridgeConfigTcpClientHostValid
    "must be an IPv4 address or blank" host

end Checks

def aisOwnMmsiError (fields : ℕ) (mmsi : Int32) : Option ConfigResponse :=
  fieldErrorIf
    (hasField fields .aisOwnMmsi && (mmsi < 0 || bridgeConfigAisMmsiMax < mmsi.toUInt32))
    .aisOwnMmsi "must be between 0 and 999999999"

def tcpClientPortError (fields : ℕ) (port : Int32) : Option ConfigResponse :=
  fieldErrorIf (hasField fields .tcpClientPort && (port < 1 || 65535 < port))
    .tcpClientPort "must be between 1 and 65535"

/-- Every provided field is validated before anything changes; the first error is answered. -/
def firstFieldError (fields : ℕ) (payload : ConfigPayload) : Option ConfigResponse :=
  [aisOwnMmsiError fields payload.aisOwnMmsi,
    ssidError fields .staSsid payload.staSsid,
    pskError fields .staPsk payload.staPsk,
    pskClearError fields .staPskClear payload.staPskClear .staPsk payload.staPsk,
    ssidError fields .apSsid payload.apSsid,
    pskError fields .apPsk payload.apPsk,
    pskClearError fields .apPskClear payload.apPskClear .apPsk payload.apPsk,
    hostnameError fields payload.hostname,
    tcpClientHostError fields payload.tcpClientHost,
    tcpClientPortError fields payload.tcpClientPort].findSome? id

/-! ## Merging

A copy that does not fit its destination has no result. -/

section Copies

variable {n m : ℕ}

/-- A `strcpy` under the mask bit of its source. -/
def copyIf (given : Bool) (dst : CharArray n) (src : CharArray m) : Option (CharArray n) :=
  if given then dst.strcpy src.str else some dst

/-- The PSK is cleared, or replaced when a new one is given and not blank. -/
def mergePsk (fields : ℕ) (clearField : ConfigField) (clear : Bool) (pskField : ConfigField)
    (dst : CharArray n) (src : CharArray m) : Option (CharArray n) :=
  if hasField fields clearField && clear then some (dst.setByte 0 0)
  else copyIf (hasField fields pskField && src.byteAt 0 != 0) dst src

end Copies

def mergeSta (fields : ℕ) (payload : ConfigPayload) (sta : BridgeConfigSta) :
    Option BridgeConfigSta := do
  let ssid ← copyIf (hasField fields .staSsid) sta.ssid payload.staSsid
  let psk ← mergePsk fields .staPskClear payload.staPskClear .staPsk sta.psk payload.staPsk
  some
    { enabled := if hasField fields .staEnabled then payload.staEnabled else sta.enabled
      rotateMac := if hasField fields .staRotateMac then payload.staRotateMac else sta.rotateMac
      ssid := ssid
      psk := psk }

def mergeAp (fields : ℕ) (payload : ConfigPayload) (ap : BridgeConfigAp) :
    Option BridgeConfigAp := do
  let ssid ← copyIf (hasField fields .apSsid) ap.ssid payload.apSsid
  let psk ← mergePsk fields .apPskClear payload.apPskClear .apPsk ap.psk payload.apPsk
  some { ssid := ssid, psk := psk }

def mergeSystem (fields : ℕ) (payload : ConfigPayload) (sysCfg : BridgeConfigSystem) :
    Option BridgeConfigSystem := do
  let hostname ← copyIf (hasField fields .hostname) sysCfg.hostname payload.hostname
  some { hostname := hostname }

def mergeAis (fields : ℕ) (payload : ConfigPayload) (ais : BridgeConfigAis) :
    Option BridgeConfigAis :=
  some
    { filterEnabled :=
        if hasField fields .aisFilterEnabled then payload.aisFilterEnabled
        else ais.filterEnabled
      ownMmsi :=
        if hasField fields .aisOwnMmsi then payload.aisOwnMmsi.toUInt32 else ais.ownMmsi }

def mergeTcpClient (fields : ℕ) (payload : ConfigPayload) (tcp : BridgeConfigTcpClient) :
    Option BridgeConfigTcpClient := do
  let host ← copyIf (hasField fields .tcpClientHost) tcp.host payload.tcpClientHost
  some
    { enabled :=
        if hasField fields .tcpClientEnabled then payload.tcpClientEnabled else tcp.enabled
      host := host
      port :=
        if hasField fields .tcpClientPort then payload.tcpClientPort.toUInt32.toUInt16
        else tcp.port }

/-- What the group would be with the fields present. -/
def merge (fields : ℕ) (payload : ConfigPayload) :
    (g : Group) → g.Config → Option g.Config
  | .ais => mergeAis fields payload
  | .tcpClient => mergeTcpClient fields payload
  | .ap => mergeAp fields payload
  | .system => mergeSystem fields payload
  | .sta => mergeSta fields payload

/-- Enabling the station without any SSID would silently never connect. -/
def staNeedsSsid (fields : ℕ) (payload : ConfigPayload) (sta : BridgeConfigSta) : Bool :=
  hasField fields .staEnabled && payload.staEnabled && sta.ssid.byteAt 0 == 0

/-! ## What passes the checks -/

section Accepted

variable {n m : ℕ} {fields : ℕ} {f : ConfigField} {payload : ConfigPayload}

@[simp] theorem fieldErrorIf_eq_none {wrong : Bool} {message : String} :
    fieldErrorIf wrong f message = none ↔ wrong = false := by
  cases wrong <;> simp [fieldErrorIf]

theorem fieldErrorIf_eq_some {wrong : Bool} {message : String} {response : ConfigResponse}
    (failed : fieldErrorIf wrong f message = some response) :
    wrong = true ∧ response = .fieldError f.key message := by
  cases wrong <;> simp_all [fieldErrorIf]

/-- An error names a field that is present. -/
theorem firstFieldError_eq_some {response : ConfigResponse}
    (failed : firstFieldError fields payload = some response) :
    ∃ f message, hasField fields f = true ∧ response = .fieldError f.key message := by
  have ssid {n : ℕ} {f : ConfigField} {ssid : CharArray n}
      (failed : ssidError fields f ssid = some response) :
      ∃ f message, hasField fields f = true ∧ response = .fieldError f.key message := by
    unfold ssidError at failed
    split_ifs at failed with absent length
    · exact ⟨f, _, by simpa using absent, (Option.some.inj failed).symm⟩
    · exact ⟨f, _, by simpa using absent, (fieldErrorIf_eq_some failed).2⟩
  have guarded {f : ConfigField} {wrong : Bool} {message : String}
      (failed : fieldErrorIf (hasField fields f && wrong) f message = some response) :
      ∃ f message, hasField fields f = true ∧ response = .fieldError f.key message :=
    ⟨f, message, Bool.and_elim_left (fieldErrorIf_eq_some failed).1,
      (fieldErrorIf_eq_some failed).2⟩
  obtain ⟨check, member, failed⟩ := List.exists_of_findSome?_eq_some failed
  -- The first check that fails is one of ten, and each looks at the mask first.
  simp only [List.mem_cons, List.not_mem_nil, or_false] at member
  rcases member with rfl | rfl | rfl | rfl | rfl | rfl | rfl | rfl | rfl | rfl
  · exact guarded failed
  · exact ssid failed
  · exact guarded failed
  · simp only [pskClearError, Bool.and_assoc] at failed
    exact guarded failed
  · exact ssid failed
  · exact guarded failed
  · simp only [pskClearError, Bool.and_assoc] at failed
    exact guarded failed
  · exact guarded failed
  · exact guarded failed
  · exact guarded failed

theorem length_of_ssidError {ssid : CharArray n} (passed : ssidError fields f ssid = none)
    (given : hasField fields f = true) :
    ssid.strlen ≠ 0 ∧ ssid.strlen ≤ bridgeConfigWifiSsidMax := by
  simp only [ssidError, given, Bool.not_true, Bool.false_eq_true, if_false] at passed
  split_ifs at passed with length
  omega

theorem length_of_pskError {psk : CharArray n} (passed : pskError fields f psk = none)
    (given : hasField fields f = true) : psk.strlen ≤ bridgeConfigWifiPskMax := by
  by_contra long
  have nonzero : psk.strlen ≠ 0 := by omega
  simp [pskError, given, nonzero, Nat.lt_of_not_le long] at passed

/-- What the checks leave to be merged. -/
structure Accepted (fields : ℕ) (payload : ConfigPayload) : Prop where
  aisOwnMmsi : hasField fields .aisOwnMmsi = true → 0 ≤ payload.aisOwnMmsi
  staSsid : hasField fields .staSsid = true →
    payload.staSsid.strlen ≠ 0 ∧ payload.staSsid.strlen ≤ bridgeConfigWifiSsidMax
  staPsk : hasField fields .staPsk = true → payload.staPsk.strlen ≤ bridgeConfigWifiPskMax
  apSsid : hasField fields .apSsid = true →
    payload.apSsid.strlen ≠ 0 ∧ payload.apSsid.strlen ≤ bridgeConfigWifiSsidMax
  apPsk : hasField fields .apPsk = true → payload.apPsk.strlen ≤ bridgeConfigWifiPskMax
  hostname : hasField fields .hostname = true →
    payload.hostname.strlen ≤ bridgeConfigHostnameMax
  tcpClientHost : hasField fields .tcpClientHost = true →
    payload.tcpClientHost.strlen ≤ bridgeConfigTcpClientHostMax
  tcpClientPort : hasField fields .tcpClientPort = true →
    1 ≤ payload.tcpClientPort ∧ payload.tcpClientPort ≤ 65535

theorem length_of_textError {max : ℕ} {valid : List UInt8 → Option Bool} {message : String}
    {text : CharArray n} (passed : textError fields f max valid message text = none)
    (given : hasField fields f = true) : text.strlen ≤ max := by
  by_contra long
  simp [textError, given, Nat.lt_of_not_le long] at passed

theorem accepted_of_firstFieldError (passed : firstFieldError fields payload = none) :
    Accepted fields payload := by
  simp only [firstFieldError, List.findSome?_eq_none_iff, List.forall_mem_cons, id,
    List.not_mem_nil, false_implies, implies_true, and_true] at passed
  obtain ⟨mmsi, staSsid, staPsk, -, apSsid, apPsk, -, hostname, host, port⟩ := passed
  refine ⟨?_, length_of_ssidError staSsid, length_of_pskError staPsk, length_of_ssidError apSsid,
    length_of_pskError apPsk, length_of_textError hostname, length_of_textError host, ?_⟩
  · intro given
    simp only [aisOwnMmsiError, fieldErrorIf_eq_none, given, Bool.true_and, Bool.or_eq_false_iff,
      decide_eq_false_iff_not] at mmsi
    exact Int32.not_lt.mp mmsi.1
  · intro given
    simp only [tcpClientPortError, fieldErrorIf_eq_none, given, Bool.true_and,
      Bool.or_eq_false_iff, decide_eq_false_iff_not] at port
    exact ⟨Int32.not_lt.mp port.1, Int32.not_lt.mp port.2⟩

/-- A copy that fits leaves the string of its source, when it is made. -/
theorem copyIf_eq_some {given : Bool} (dst : CharArray n) {src : CharArray m}
    (fits : given = true → src.strlen < n) :
    ∃ copy, copyIf given dst src = some copy ∧
      copy.str = if given then src.str else dst.str := by
  cases given with
  | false => exact ⟨dst, rfl, rfl⟩
  | true =>
    refine ⟨_, CharArray.strcpy_eq_some (fits rfl), ?_⟩
    rw [CharArray.str_memcpy_terminated _ (fits rfl)]
    exact src.content_str

theorem mergePsk_eq_some (clearField : ConfigField) (clear : Bool) {pskField : ConfigField}
    (dst : CharArray n) {src : CharArray m}
    (fits : hasField fields pskField = true → src.strlen < n) :
    ∃ psk, mergePsk fields clearField clear pskField dst src = some psk ∧
      psk.str =
        if hasField fields clearField && clear then []
        else if hasField fields pskField && src.byteAt 0 != 0 then src.str else dst.str := by
  unfold mergePsk
  by_cases cleared : (hasField fields clearField && clear) = true
  · rw [if_pos cleared, if_pos cleared]
    exact ⟨_, rfl, CharArray.str_setByte_zero dst⟩
  · rw [if_neg cleared, if_neg cleared]
    apply copyIf_eq_some
    intro given
    exact fits (Bool.and_elim_left given)

/-- Accepted fields fit the struct they are merged into. -/
theorem merge_isSome (accepted : Accepted fields payload) (g : Group) (config : g.Config) :
    (merge fields payload g config).isSome := by
  cases g with
  | ais => rfl
  | tcpClient =>
    obtain ⟨host, copied, -⟩ := copyIf_eq_some config.host
      fun given => Nat.lt_succ_of_le (accepted.tcpClientHost given)
    simp [merge, mergeTcpClient, copied]
  | ap =>
    obtain ⟨ssid, copied, -⟩ := copyIf_eq_some config.ssid
      fun given => Nat.lt_succ_of_le (accepted.apSsid given).2
    obtain ⟨psk, merged, -⟩ := mergePsk_eq_some .apPskClear payload.apPskClear config.psk
      fun given => Nat.lt_succ_of_le (accepted.apPsk given)
    simp [merge, mergeAp, copied, merged]
  | system =>
    obtain ⟨hostname, copied, -⟩ := copyIf_eq_some config.hostname
      fun given => Nat.lt_succ_of_le (accepted.hostname given)
    simp [merge, mergeSystem, copied]
  | sta =>
    obtain ⟨ssid, copied, -⟩ := copyIf_eq_some config.ssid
      fun given => Nat.lt_succ_of_le (accepted.staSsid given).2
    obtain ⟨psk, merged, -⟩ := mergePsk_eq_some .staPskClear payload.staPskClear config.psk
      fun given => Nat.lt_succ_of_le (accepted.staPsk given)
    simp [merge, mergeSta, copied, merged]

/-- Without any of its fields a group is merged to what it was. -/
theorem merge_of_absent {present : ConfigField → Bool} {g : Group}
    (absent : g.fields.any present = false) (config : g.Config) :
    merge (jsonMask present) payload g config = some config := by
  rw [List.any_eq_false] at absent
  cases g <;> simp only [Group.fields, List.forall_mem_cons, Bool.not_eq_true] at absent <;>
    simp [merge, mergeAis, mergeTcpClient, mergeAp, mergeSystem, mergeSta, mergePsk, copyIf, absent]

end Accepted

end EspNmeaBridge
