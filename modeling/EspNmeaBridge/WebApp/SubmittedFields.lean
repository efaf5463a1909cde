/-
# A POST updates the submitted fields

Answered with 200, a request has changed the fields it carries and no others. What it does
is a function of these fields: the rest of the payload is never looked at.
-/

import EspNmeaBridge.WebApp.ConfigUpdate

namespace EspNmeaBridge

open CString

/-! ## The update -/

/-- What a request does to a PSK: clear it, keep it when the new one is blank, or set it. -/
def submittedPsk (present : ConfigField → Bool) (clearField : ConfigField) (clear : Bool)
    (pskField : ConfigField) (new old : List UInt8) : List UInt8 :=
  if present clearField ∧ clear then []
  else if present pskField ∧ new ≠ [] then new
  else old

/-- The fields present have their submitted values, the others those they had. -/
structure SubmittedFields (present : ConfigField → Bool) (payload : ConfigPayload)
    (old new : EffectiveConfig) : Prop where
  aisFilterEnabled : (new .ais).filterEnabled =
    if present .aisFilterEnabled then payload.aisFilterEnabled else (old .ais).filterEnabled
  aisOwnMmsi : ((new .ais).ownMmsi.toNat : ℤ) =
    if present .aisOwnMmsi then payload.aisOwnMmsi.toInt else (old .ais).ownMmsi.toNat
  staEnabled : (new .sta).enabled =
    if present .staEnabled then payload.staEnabled else (old .sta).enabled
  staSsid : (new .sta).ssid.str =
    if present .staSsid then payload.staSsid.str else (old .sta).ssid.str
  staPsk : (new .sta).psk.str =
    submittedPsk present .staPskClear payload.staPskClear .staPsk payload.staPsk.str
      (old .sta).psk.str
  staRotateMac : (new .sta).rotateMac =
    if present .staRotateMac then payload.staRotateMac else (old .sta).rotateMac
  tcpClientEnabled : (new .tcpClient).enabled =
    if present .tcpClientEnabled then payload.tcpClientEnabled else (old .tcpClient).enabled
  tcpClientHost : (new .tcpClient).host.str =
    if present .tcpClientHost then payload.tcpClientHost.str else (old .tcpClient).host.str
  tcpClientPort : ((new .tcpClient).port.toNat : ℤ) =
    if present .tcpClientPort then payload.tcpClientPort.toInt else (old .tcpClient).port.toNat
  apSsid : (new .ap).ssid.str =
    if present .apSsid then payload.apSsid.str else (old .ap).ssid.str
  apPsk : (new .ap).psk.str =
    submittedPsk present .apPskClear payload.apPskClear .apPsk payload.apPsk.str
      (old .ap).psk.str
  hostname : (new .system).hostname.str =
    if present .hostname then payload.hostname.str else (old .system).hostname.str

section Merged

variable {present : ConfigField → Bool} {payload : ConfigPayload}

/-- A number that is not negative keeps its value as an unsigned one. -/
theorem toNat_toUInt32 {x : Int32} (nonneg : 0 ≤ x) : (x.toUInt32.toNat : ℤ) = x.toInt := by
  rw [Int32.toNat_toUInt32_of_le nonneg]
  have bound : 0 ≤ x.toInt := by simpa [Int32.le_iff_toInt_le] using nonneg
  exact Int.toNat_of_nonneg bound

/-- A port in range survives the cast to 16 bits. -/
theorem toNat_toUInt16 {x : Int32} (range : 1 ≤ x ∧ x ≤ 65535) :
    (x.toUInt32.toUInt16.toNat : ℤ) = x.toInt := by
  obtain ⟨low, high⟩ := range
  rw [Int32.le_iff_toInt_le] at low high
  have nonneg : (0 : Int32) ≤ x := by
    rw [Int32.le_iff_toInt_le]
    exact Int.le_trans (show (0 : Int32).toInt ≤ (1 : Int32).toInt by decide) low
  have same := toNat_toUInt32 nonneg
  have bound : x.toInt ≤ 65535 := high
  rw [UInt32.toNat_toUInt16, Nat.mod_eq_of_lt (by omega), same]

theorem mergePsk_submitted {n m : ℕ} {dst psk : CharArray n} {src : CharArray m}
    {clearField pskField : ConfigField} {clear : Bool}
    (fits : hasField (jsonMask present) pskField = true → src.strlen < n)
    (merged : mergePsk (jsonMask present) clearField clear pskField dst src = some psk) :
    psk.str = submittedPsk present clearField clear pskField src.str dst.str := by
  obtain ⟨psk', merged', text⟩ := mergePsk_eq_some clearField clear dst fits
  obtain rfl := Option.some.inj (merged.symm.trans merged')
  simpa [submittedPsk] using text

/-! ### What each group is merged to -/

theorem mergeTcpClient_submitted {old new : BridgeConfigTcpClient}
    (accepted : Accepted (jsonMask present) payload)
    (merged : mergeTcpClient (jsonMask present) payload old = some new) :
    new.value =
      (if present .tcpClientEnabled then payload.tcpClientEnabled else old.enabled,
        if present .tcpClientHost then payload.tcpClientHost.str else old.host.str,
        if present .tcpClientPort then payload.tcpClientPort.toUInt32.toUInt16 else old.port) := by
  obtain ⟨host, copied, text⟩ := copyIf_eq_some old.host
    fun given => Nat.lt_succ_of_le (accepted.tcpClientHost given)
  simp only [mergeTcpClient, copied, Option.bind_eq_bind, Option.bind_some, Option.some.injEq]
    at merged
  subst merged
  simp [BridgeConfigTcpClient.value, text]

theorem mergeAp_submitted {old new : BridgeConfigAp}
    (accepted : Accepted (jsonMask present) payload)
    (merged : mergeAp (jsonMask present) payload old = some new) :
    new.value =
      (if present .apSsid then payload.apSsid.str else old.ssid.str,
        submittedPsk present .apPskClear payload.apPskClear .apPsk payload.apPsk.str
          old.psk.str) := by
  obtain ⟨ssid, copied, text⟩ := copyIf_eq_some old.ssid
    fun given => Nat.lt_succ_of_le (accepted.apSsid given).2
  simp only [mergeAp, copied, Option.bind_eq_bind, Option.bind_some, Option.bind_eq_some_iff,
    Option.some.injEq] at merged
  obtain ⟨psk, pskMerged, rfl⟩ := merged
  rw [BridgeConfigAp.value, text,
    mergePsk_submitted (fun given => Nat.lt_succ_of_le (accepted.apPsk given)) pskMerged]
  simp

theorem mergeSystem_submitted {old new : BridgeConfigSystem}
    (accepted : Accepted (jsonMask present) payload)
    (merged : mergeSystem (jsonMask present) payload old = some new) :
    new.value = if present .hostname then payload.hostname.str else old.hostname.str := by
  obtain ⟨hostname, copied, text⟩ := copyIf_eq_some old.hostname
    fun given => Nat.lt_succ_of_le (accepted.hostname given)
  simp only [mergeSystem, copied, Option.bind_eq_bind, Option.bind_some, Option.some.injEq]
    at merged
  subst merged
  simp [BridgeConfigSystem.value, text]

theorem mergeSta_submitted {old new : BridgeConfigSta}
    (accepted : Accepted (jsonMask present) payload)
    (merged : mergeSta (jsonMask present) payload old = some new) :
    new.value =
      (if present .staEnabled then payload.staEnabled else old.enabled,
        if present .staRotateMac then payload.staRotateMac else old.rotateMac,
        if present .staSsid then payload.staSsid.str else old.ssid.str,
        submittedPsk present .staPskClear payload.staPskClear .staPsk payload.staPsk.str
          old.psk.str) := by
  obtain ⟨ssid, copied, text⟩ := copyIf_eq_some old.ssid
    fun given => Nat.lt_succ_of_le (accepted.staSsid given).2
  simp only [mergeSta, copied, Option.bind_eq_bind, Option.bind_some, Option.bind_eq_some_iff,
    Option.some.injEq] at merged
  obtain ⟨psk, pskMerged, rfl⟩ := merged
  rw [BridgeConfigSta.value, text,
    mergePsk_submitted (fun given => Nat.lt_succ_of_le (accepted.staPsk given)) pskMerged]
  simp

/-- Where every group has the value it was merged to, the submitted fields are set. -/
theorem submittedFields_of_merge {old new : EffectiveConfig}
    (accepted : Accepted (jsonMask present) payload)
    (merged : ∀ g, ∃ config, merge (jsonMask present) payload g (old g) = some config ∧
      (configGroup g).value (new g) = (configGroup g).value config) :
    SubmittedFields present payload old new := by
  obtain ⟨ais, aisMerged, aisValue⟩ := merged .ais
  obtain ⟨tcp, tcpMerged, tcpValue⟩ := merged .tcpClient
  obtain ⟨ap, apMerged, apValue⟩ := merged .ap
  obtain ⟨sys, sysMerged, sysValue⟩ := merged .system
  obtain ⟨sta, staMerged, staValue⟩ := merged .sta
  obtain rfl := Option.some.inj aisMerged
  have tcpNew := tcpValue.trans (mergeTcpClient_submitted accepted tcpMerged)
  have apNew := apValue.trans (mergeAp_submitted accepted apMerged)
  have sysNew := sysValue.trans (mergeSystem_submitted accepted sysMerged)
  have staNew := staValue.trans (mergeSta_submitted accepted staMerged)
  simp only [configGroup, aisGroup, BridgeConfigAis.value, hasField_jsonMask, Prod.mk.injEq]
    at aisValue
  simp only [configGroup, tcpClientGroup, BridgeConfigTcpClient.value, Prod.mk.injEq] at tcpNew
  simp only [configGroup, apGroup, BridgeConfigAp.value, Prod.mk.injEq] at apNew
  simp only [configGroup, systemGroup, BridgeConfigSystem.value] at sysNew
  simp only [configGroup, staGroup, BridgeConfigSta.value, Prod.mk.injEq] at staNew
  exact
    -- The numbers passed the range checks, so narrowing them loses nothing.
    { aisFilterEnabled := aisValue.1
      aisOwnMmsi := by
        rw [aisValue.2]
        split_ifs with given
        · exact toNat_toUInt32 (accepted.aisOwnMmsi (by simpa using given))
        · rfl
      staEnabled := staNew.1
      staRotateMac := staNew.2.1
      staSsid := staNew.2.2.1
      staPsk := staNew.2.2.2
      tcpClientEnabled := tcpNew.1
      tcpClientHost := tcpNew.2.1
      tcpClientPort := by
        rw [tcpNew.2.2]
        split_ifs with given
        · exact toNat_toUInt16 (accepted.tcpClientPort (by simpa using given))
        · rfl
      apSsid := apNew.1
      apPsk := apNew.2
      hostname := sysNew }

end Merged

/-! ## What the handler reads

Only the string in a buffer counts: the bytes behind its terminator are as undefined as a
field that is not present. -/

/-- Two payloads with the same values in the fields present. -/
structure AgreeOn (fields : ℕ) (payload other : ConfigPayload) : Prop where
  aisFilterEnabled : hasField fields .aisFilterEnabled = true →
    payload.aisFilterEnabled = other.aisFilterEnabled
  aisOwnMmsi : hasField fields .aisOwnMmsi = true → payload.aisOwnMmsi = other.aisOwnMmsi
  staEnabled : hasField fields .staEnabled = true → payload.staEnabled = other.staEnabled
  staSsid : hasField fields .staSsid = true → payload.staSsid.str = other.staSsid.str
  staPsk : hasField fields .staPsk = true → payload.staPsk.str = other.staPsk.str
  staPskClear : hasField fields .staPskClear = true → payload.staPskClear = other.staPskClear
  staRotateMac : hasField fields .staRotateMac = true → payload.staRotateMac = other.staRotateMac
  tcpClientEnabled : hasField fields .tcpClientEnabled = true →
    payload.tcpClientEnabled = other.tcpClientEnabled
  tcpClientHost : hasField fields .tcpClientHost = true →
    payload.tcpClientHost.str = other.tcpClientHost.str
  tcpClientPort : hasField fields .tcpClientPort = true →
    payload.tcpClientPort = other.tcpClientPort
  apSsid : hasField fields .apSsid = true → payload.apSsid.str = other.apSsid.str
  apPsk : hasField fields .apPsk = true → payload.apPsk.str = other.apPsk.str
  apPskClear : hasField fields .apPskClear = true → payload.apPskClear = other.apPskClear
  hostname : hasField fields .hostname = true → payload.hostname.str = other.hostname.str

/-- Two decoders that may leave different bytes where they decode nothing. -/
def JsonResult.Agree : JsonResult → JsonResult → Prop
  | .failed, .failed => True
  | .decoded present payload, .decoded present' other =>
    present = present' ∧ AgreeOn (jsonMask present) payload other
  | _, _ => False

theorem AgreeOn.refl (fields : ℕ) (payload : ConfigPayload) : AgreeOn fields payload payload := by
  constructor <;> exact fun _ => rfl

theorem JsonResult.Agree.refl (result : JsonResult) : result.Agree result := by
  cases result with
  | failed => trivial
  | decoded present payload => exact ⟨rfl, .refl _ payload⟩

section Reads

variable {present : ConfigField → Bool} {payload other : ConfigPayload} {n m : ℕ}
  {a b : CharArray n}

/-- A check behind a mask bit. -/
theorem fieldErrorIf_congr {given wrong wrong' : Bool} (same : given = true → wrong = wrong')
    (f : ConfigField) (message : String) :
    fieldErrorIf (given && wrong) f message = fieldErrorIf (given && wrong') f message := by
  cases given with
  | false => rfl
  | true => rw [same rfl]

/-- A string within a limit that leaves room for its terminator is checked up to there. -/
theorem valid_congr_of_le {max : ℕ} (room : max < n) (same : a.str = b.str)
    (within : a.strlen ≤ max) :
    bridgeConfigTextValid a.bytes = bridgeConfigTextValid b.bytes ∧
      bridgeConfigTcpClientHostValid a.bytes = bridgeConfigTcpClientHostValid b.bytes ∧
      bridgeConfigHostnameValid a.bytes = bridgeConfigHostnameValid b.bytes := by
  have length : b.strlen = a.strlen := by rw [CharArray.strlen, CharArray.strlen, same]
  apply valid_congr _ _ same
  · exact CharArray.terminated_of_strlen_lt (by omega)
  · exact CharArray.terminated_of_strlen_lt (by omega)

theorem ssidError_congr {fields : ℕ} {f : ConfigField} (room : bridgeConfigWifiSsidMax < n)
    (same : hasField fields f = true → a.str = b.str) :
    ssidError fields f a = ssidError fields f b := by
  unfold ssidError
  by_cases given : hasField fields f = true
  · have length : a.strlen = b.strlen := congrArg List.length (same given)
    rw [length]
    by_cases wrong : b.strlen < 1 ∨ bridgeConfigWifiSsidMax < b.strlen
    · rw [if_pos wrong, if_pos wrong]
    · rw [(valid_congr_of_le room (same given) (by omega)).1]
  · simp [given]

theorem pskError_congr {fields : ℕ} {f : ConfigField}
    (same : hasField fields f = true → a.str = b.str) :
    pskError fields f a = pskError fields f b := by
  apply fieldErrorIf_congr
  intro given
  rw [CharArray.strlen, CharArray.strlen, same given]

/-- A non-blank test reads the string only. -/
theorem byteAt_zero_congr (same : a.str = b.str) : (a.byteAt 0 != 0) = (b.byteAt 0 != 0) := by
  rw [Bool.eq_iff_iff, bne_iff_ne, bne_iff_ne, ne_eq, ne_eq, CharArray.byteAt_zero_eq_zero,
    CharArray.byteAt_zero_eq_zero, same]

theorem pskClearError_congr {fields : ℕ} {f pskField : ConfigField} {clear clear' : Bool}
    (sameClear : hasField fields f = true → clear = clear')
    (same : hasField fields pskField = true → a.str = b.str) :
    pskClearError fields f clear pskField a = pskClearError fields f clear' pskField b := by
  unfold pskClearError
  rw [Bool.and_assoc, Bool.and_assoc, Bool.and_assoc, Bool.and_assoc]
  apply fieldErrorIf_congr
  intro given
  rw [sameClear given]
  cases psk : hasField fields pskField with
  | false => rfl
  | true => rw [byteAt_zero_congr (same psk)]

theorem copyIf_congr {given : Bool} {dst : CharArray m} (same : given = true → a.str = b.str) :
    copyIf given dst a = copyIf given dst b := by
  cases given with
  | false => rfl
  | true => simp only [copyIf, same rfl]

theorem mergePsk_congr {fields : ℕ} {clearField pskField : ConfigField} {clear clear' : Bool}
    {dst : CharArray m} (sameClear : hasField fields clearField = true → clear = clear')
    (same : hasField fields pskField = true → a.str = b.str) :
    mergePsk fields clearField clear pskField dst a =
      mergePsk fields clearField clear' pskField dst b := by
  have cleared :
      (hasField fields clearField && clear) = (hasField fields clearField && clear') := by
    cases given : hasField fields clearField with
    | false => rfl
    | true => rw [sameClear given]
  unfold mergePsk
  rw [cleared]
  cases given : hasField fields pskField with
  | false => rfl
  | true =>
    rw [byteAt_zero_congr (same given), copyIf_congr fun _ => same given]

theorem textError_congr {fields max : ℕ} {f : ConfigField} {valid : List UInt8 → Option Bool}
    {message : String} (same : hasField fields f = true → a.str = b.str)
    (agrees : a.str = b.str → a.strlen ≤ max → valid a.bytes = valid b.bytes) :
    textError fields f max valid message a = textError fields f max valid message b := by
  apply fieldErrorIf_congr
  intro given
  have length : a.strlen = b.strlen := congrArg List.length (same given)
  by_cases within : a.strlen ≤ max
  · rw [agrees (same given) within, length]
  · -- both are refused for their length
    simp [Nat.lt_of_not_le within, Nat.lt_of_not_le (length ▸ within)]

theorem ite_congr_given {α : Type} {given : Bool} {x y : α} (same : given = true → x = y)
    (old : α) : (if given then x else old) = if given then y else old := by
  cases given with
  | false => rfl
  | true => exact same rfl

end Reads

section Agreement

variable {fields : ℕ} {payload other : ConfigPayload}

/-- The checks see the fields present and nothing else. -/
theorem firstFieldError_congr (agree : AgreeOn fields payload other) :
    firstFieldError fields payload = firstFieldError fields other := by
  have mmsi : aisOwnMmsiError fields payload.aisOwnMmsi =
      aisOwnMmsiError fields other.aisOwnMmsi := by
    apply fieldErrorIf_congr
    intro given
    rw [agree.aisOwnMmsi given]
  have port : tcpClientPortError fields payload.tcpClientPort =
      tcpClientPortError fields other.tcpClientPort := by
    apply fieldErrorIf_congr
    intro given
    rw [agree.tcpClientPort given]
  have hostname : hostnameError fields payload.hostname = hostnameError fields other.hostname := by
    apply textError_congr agree.hostname
    intro same within
    exact (valid_congr_of_le (by decide) same within).2.2
  have host : tcpClientHostError fields payload.tcpClientHost =
      tcpClientHostError fields other.tcpClientHost := by
    apply textError_congr agree.tcpClientHost
    intro same within
    exact (valid_congr_of_le (by decide) same within).2.1
  -- The ten checks one by one; a field that is absent is not looked at.
  rw [firstFieldError, firstFieldError, mmsi, port, hostname, host,
    ssidError_congr (by decide) agree.staSsid, ssidError_congr (by decide) agree.apSsid,
    pskError_congr agree.staPsk, pskError_congr agree.apPsk,
    pskClearError_congr agree.staPskClear agree.staPsk,
    pskClearError_congr agree.apPskClear agree.apPsk]

/-- So do the merges. -/
theorem merge_congr (agree : AgreeOn fields payload other) (g : Group) (config : g.Config) :
    merge fields payload g config = merge fields other g config := by
  cases g with
  | ais =>
    rw [merge, merge, mergeAis, mergeAis,
      ite_congr_given agree.aisFilterEnabled config.filterEnabled,
      ite_congr_given (fun given => congrArg _ (agree.aisOwnMmsi given)) config.ownMmsi]
  | tcpClient =>
    rw [merge, merge, mergeTcpClient, mergeTcpClient, copyIf_congr agree.tcpClientHost,
      ite_congr_given agree.tcpClientEnabled config.enabled,
      ite_congr_given (fun given => congrArg (fun port => port.toUInt32.toUInt16)
        (agree.tcpClientPort given)) config.port]
  | ap =>
    rw [merge, merge, mergeAp, mergeAp, copyIf_congr agree.apSsid,
      mergePsk_congr agree.apPskClear agree.apPsk]
  | system => rw [merge, merge, mergeSystem, mergeSystem, copyIf_congr agree.hostname]
  | sta =>
    rw [merge, merge, mergeSta, mergeSta, copyIf_congr agree.staSsid,
      mergePsk_congr agree.staPskClear agree.staPsk,
      ite_congr_given agree.staEnabled config.enabled,
      ite_congr_given agree.staRotateMac config.rotateMac]

/-- The handler does the same on payloads that agree on the fields present. -/
theorem updateConfig_congr (agree : AgreeOn fields payload other)
    (saveRet : Group → Option Errno) (world : ConfigWorld) :
    updateConfig fields payload saveRet world = updateConfig fields other saveRet world := by
  have needsSsid (sta : BridgeConfigSta) :
      staNeedsSsid fields payload sta = staNeedsSsid fields other sta := by
    unfold staNeedsSsid
    cases given : hasField fields .staEnabled with
    | false => rfl
    | true => rw [agree.staEnabled given]
  simp only [updateConfig, firstFieldError_congr agree, merge_congr agree, needsSsid]

theorem handleConfigUpdate_congr {jsonObjParse jsonObjParse' : List UInt8 → JsonResult}
    (agree : ∀ body, (jsonObjParse body).Agree (jsonObjParse' body)) (request : HttpRequest)
    (recvs : List WebRecv) (saveRet : Group → Option Errno) (world : ConfigWorld) :
    handleConfigUpdate jsonObjParse request recvs saveRet world =
      handleConfigUpdate jsonObjParse' request recvs saveRet world := by
  unfold handleConfigUpdate
  cases received : readRemainingBody request recvs with
  | none => rfl
  | some body =>
    have same := agree body
    cases parsed : jsonObjParse body <;> cases parsed' : jsonObjParse' body <;>
      rw [parsed, parsed'] at same
    case failed.failed => simp only [parsed, parsed']
    case decoded.decoded present payload present' other =>
      obtain ⟨rfl, agreeOn⟩ := same
      simp only [parsed, parsed', updateConfig_congr agreeOn]
    all_goals exact same.elim

end Agreement

/-! ## Every request -/

/-- An enabled station has an SSID to look for. -/
def StationCanConnect (config : EffectiveConfig) : Prop :=
  (config .sta).enabled = true → (config .sta).ssid.str ≠ []

section Requests

variable {present : ConfigField → Bool} {payload : ConfigPayload} {saveRet : Group → Option Errno}
  {world : ConfigWorld} {update : ConfigUpdate}

/-- Answered with the configuration, the submitted fields are set, and a group without any
was left alone. -/
theorem updateConfig_applied
    (run : updateConfig (jsonMask present) payload saveRet world = some update)
    (ok : update.response.status = "200 OK") :
    SubmittedFields present payload world.config update.world.config ∧
      ∀ g : Group, g.fields.any present = false →
        g ∉ update.calls.map Prod.fst ∧ GroupUnchanged g world update.world := by
  cases updateConfig_outcome run with
  | refused f message answer =>
    rw [answer] at ok
    exact absurd ok (by simp [answered, ConfigResponse.status])
  | stored saved accepted ssidGiven only ends =>
    rcases ends with ⟨submitted, called, -⟩ | ⟨failed, rest, -, -, response⟩
    · have isSaved (g : Group) : g ∈ saved ↔ g.fields.any present = true := by
        rw [← submitted, List.mem_filter, and_iff_right]
        cases g <;> decide
      constructor
      · apply submittedFields_of_merge accepted
        intro g
        by_cases member : g ∈ saved
        · exact only.taken g member
        · -- merging nothing into a group gives what it was
          refine ⟨world.config g, merge_of_absent ?_ _, congrArg _ (only.kept g member)⟩
          simpa [isSaved] using member
      · intro g absent
        have unsaved : g ∉ saved := by simp [isSaved, absent]
        rw [called]
        exact ⟨unsaved, only.unchanged unsaved⟩
    · rw [response] at ok
      exact absurd ok (by simp [ConfigResponse.status])

/-- Whatever is answered, a station that could connect still can. -/
theorem updateConfig_stationCanConnect
    (run : updateConfig (jsonMask present) payload saveRet world = some update)
    (before : StationCanConnect world.config) : StationCanConnect update.world.config := by
  cases updateConfig_outcome run with
  | refused f message answer =>
    rw [answer]
    exact before
  | stored saved accepted ssidGiven only ends =>
    intro on
    by_cases member : Group.sta ∈ saved
    · obtain ⟨sta, merged, value⟩ := only.taken .sta member
      have needs := ssidGiven sta merged
      have new := mergeSta_submitted accepted merged
      simp only [configGroup, staGroup, BridgeConfigSta.value, Prod.mk.injEq] at value new
      obtain ⟨enabled, -, ssid, -⟩ := value
      rw [ssid]
      rw [enabled] at on
      by_cases given : present .staEnabled = true
      · -- switched on by this request, which was checked for it
        intro empty
        rw [new.1, if_pos given] at on
        simp [staNeedsSsid, given, on, empty] at needs
      · -- on before: it had an SSID, and a new one is not empty
        rw [new.1, if_neg given] at on
        rw [new.2.2.1]
        split_ifs with replaced
        · have length := (accepted.staSsid (by simpa using replaced)).1
          exact fun empty => length (by rw [CharArray.strlen, empty, List.length_nil])
        · exact before on
    · rw [only.kept .sta member] at on ⊢
      exact before on

end Requests

/-- Answered 200, a request has set the fields its body carries and no others, and saved no
group without any. An enabled station keeps an SSID. What a decoder leaves in the payload
beside the fields present changes neither the response nor the state. -/
theorem post_updates_submitted_fields (jsonObjParse : List UInt8 → JsonResult)
    (request : HttpRequest) (recvs : List WebRecv) (saveRet : Group → Option Errno)
    (world : ConfigWorld) :
    ∃ update, handleConfigUpdate jsonObjParse request recvs saveRet world = some update ∧
      (update.response.status = "200 OK" →
        ∃ body present payload, readRemainingBody request recvs = some body ∧
          jsonObjParse body = .decoded present payload ∧
          SubmittedFields present payload world.config update.world.config ∧
          ∀ g : Group, g.fields.any present = false →
            g ∉ update.calls.map Prod.fst ∧ GroupUnchanged g world update.world) ∧
      (StationCanConnect world.config → StationCanConnect update.world.config) ∧
      ∀ jsonObjParse', (∀ body, (jsonObjParse body).Agree (jsonObjParse' body)) →
        handleConfigUpdate jsonObjParse' request recvs saveRet world = some update := by
  obtain ⟨update, run, outcome⟩ :=
    handleConfigUpdate_total jsonObjParse request recvs saveRet world
  refine ⟨update, run, ?_, ?_, ?_⟩
  · intro ok
    cases outcome with
    | tooLarge answer =>
      rw [answer] at ok
      exact absurd ok (by simp [answered, ConfigResponse.status])
    | badBody message answer =>
      rw [answer] at ok
      exact absurd ok (by simp [answered, ConfigResponse.status])
    | decoded body present payload received parsed updated =>
      exact ⟨body, present, payload, received, parsed, updateConfig_applied updated ok⟩
  · -- A refused request leaves the station as it was.
    intro before
    cases outcome with
    | tooLarge answer => rwa [answer]
    | badBody message answer => rwa [answer]
    | decoded body present payload received parsed updated =>
      exact updateConfig_stationCanConnect updated before
  · intro jsonObjParse' agree
    rw [← handleConfigUpdate_congr agree, run]

end EspNmeaBridge
